import TypedRoutes.Text.Trim
import TypedRoutes.Text.CaseFold
import TypedRoutes.Text.Printable
import TypedRoutes.Text.Quoted
import TypedRoutes.Text.Uppercase
import TypedRoutes.Text.Utf8
import TypedRoutes.Text.Percent
import TypedRoutes.Text.Similarity
import TypedRoutes.Text.Controls
import TypedRoutes.Number.Digits
import TypedRoutes.Number.Integer
import TypedRoutes.Number.Decimal
import TypedRoutes.Number.Binary
import TypedRoutes.Number.Shortest
import TypedRoutes.Number.FloatText
import TypedRoutes.Calendar.Date
import TypedRoutes.Calendar.DateTime
import TypedRoutes.Calendar.Layout
import TypedRoutes.Value.ScalarType
import TypedRoutes.Value.ParamType
import TypedRoutes.Value.Scalar
import TypedRoutes.Value.Basic
import TypedRoutes.Value.Binding
import TypedRoutes.Template.Path
import TypedRoutes.Template.Token
import TypedRoutes.Template.Pattern
import TypedRoutes.Template.Basic
import TypedRoutes.Route.Verb
import TypedRoutes.Route.Error
import TypedRoutes.Route.Event
import TypedRoutes.Route.Basic
import TypedRoutes.Route.Declaration
import TypedRoutes.Json.Reader
import TypedRoutes.Json.Number
import TypedRoutes.Json.Text
import TypedRoutes.Json.Skip
import TypedRoutes.Json.Shape
import TypedRoutes.Manifest.Basic
import TypedRoutes.Manifest.Reading
import TypedRoutes.CommandLine.Scope
import TypedRoutes.CommandLine.Help
import TypedRoutes.CommandLine.UsageError
import TypedRoutes.CommandLine.Arguments
import TypedRoutes.CommandLine.Directory
import TypedRoutes.CommandLine.Run
import TypedRoutes.Main
import TypedRoutes.Proofs.Result
import TypedRoutes.Proofs.Template.Division
import TypedRoutes.Proofs.Template.Meaning
import TypedRoutes.Proofs.Route.Built
import TypedRoutes.Proofs.Route.Extraction
import TypedRoutes.Proofs.Number.Digits
import TypedRoutes.Proofs.Number.Integer
import TypedRoutes.Proofs.Text.Pieces
import TypedRoutes.Proofs.Number.Decimal
import TypedRoutes.Proofs.Calendar.Layout
import TypedRoutes.Proofs.Number.Binary
import TypedRoutes.Proofs.Number.FloatText
import TypedRoutes.Proofs.Text.Percent
import TypedRoutes.Proofs.Value.Scalar
import TypedRoutes.Proofs.Template.Separation
import TypedRoutes.Proofs.Value.Binding
import TypedRoutes.Proofs.Template.Generation
import TypedRoutes.Proofs.Route.RoundTrip
import TypedRoutes.Proofs.Route.Collision
import TypedRoutes.Proofs.Template.Reachability
import TypedRoutes.Proofs.Route.Verb
import TypedRoutes.Proofs.Route.Checks
import TypedRoutes.Proofs.Route.Diagnosis
import TypedRoutes.Proofs.Route.Acceptance
import TypedRoutes.Proofs.Route.Writing
import TypedRoutes.Proofs.Route.Shape
import TypedRoutes.Proofs.Manifest.Compilation
import TypedRoutes.Proofs.CommandLine.Probe
import TypedRoutes.Proofs.Template.NormalPath
import TypedRoutes.Proofs.Route.RequestPath
import TypedRoutes.Proofs.Template.Cutting
import TypedRoutes.Proofs.Template.Segments
import TypedRoutes.Proofs.Template.Mounting
import TypedRoutes.Proofs.Template.Grammar
import TypedRoutes.Proofs.Route.TemplateOffset
import TypedRoutes.Proofs.Template.Source
import TypedRoutes.Proofs.Route.SequenceBinding
import TypedRoutes.Proofs.Calendar.DayNumber
import TypedRoutes.Proofs.Calendar.Instant
import TypedRoutes.Proofs.Calendar.Spelling
import TypedRoutes.Proofs.Text.Trim
import TypedRoutes.Proofs.Value.TypeName
import TypedRoutes.Proofs.Template.CaseFolding
import TypedRoutes.Proofs.Template.Renaming
import TypedRoutes.Proofs.Route.Renaming
import TypedRoutes.Proofs.Template.Joining
import TypedRoutes.Proofs.Text.AsciiCase
import TypedRoutes.Proofs.Text.CaseFold
import TypedRoutes.Proofs.Route.VerbName
import TypedRoutes.Proofs.Template.AsciiCase
import TypedRoutes.Proofs.Value.Integer
