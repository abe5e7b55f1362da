import TypedRoutes.CommandLine.Arguments
import TypedRoutes.CommandLine.Directory
import TypedRoutes.Manifest.Reading
/-!
# Running a command

A run takes the arguments and the files that can be read, and ends with an exit code and what has been
written to the output and the error output. Lines of events stand between the other lines of the
output, in the order of what happened.
-/
namespace TypedRoutes.CommandLine

structure Outcome where
  exitCode : Nat
  output : String
  errors : String
  deriving DecidableEq, Repr

/-- Why a command fails. -/
inductive Failure where
  | file (name : String) (fault : FileFault)
  | manifest (error : ManifestError)
  | noRoute (uri : String)

namespace Failure

def message : Failure → String
  | file name _ => s!"reading manifest {name}"
  | manifest error => error.message
  | noRoute uri => s!"No route matches {uri}"

/-- The description of what is behind a failure, if anything is. -/
def source? : Failure → Option String
  | file _ fault => some fault.message
  | manifest error => error.source?
  | noRoute _ => none

/-- What is written of a failure. -/
def report (f : Failure) : String :=
  match f.source? with
  | some source =>
    let indented := "\n    ".intercalate (source.splitOn "\n")
    s!"Error: {f.message}\n\nCaused by:\n    {indented}\n"
  | none => s!"Error: {f.message}\n"

end Failure

def unlines (lines : List String) : String :=
  String.join (lines.map (· ++ "\n"))

/-- The lines of the events that a level shows. -/
def shown (level : Level) (events : List Event) : List String :=
  (events.filter (·.isShownAt level)).map Event.line

def success (lines : List String) : Outcome :=
  ⟨0, unlines lines, ""⟩

def failed (lines : List String) (f : Failure) : Outcome :=
  ⟨1, unlines lines, f.report⟩

/-- Loads the routes of a manifest. -/
def load (read : String → Except FileFault String) (name : String) :
    ExceptT Failure Logged (List Route) :=
  match read name with
  | .ok text => ExceptT.adapt .manifest (Manifest.load text)
  | .error fault => throw (.file name fault)

/-! ## Check -/

/-- The line of a route in a listing. -/
def listingLine (r : Route) : String :=
  let body :=
    match r.bodyParameter with
    | some p => s!" <- {p.name}: {p.type}"
    | none => ""
  s!" {r.verb} {r.templateText} ({r.handler}){body}"

/-- The rule under the heading of a listing. -/
def rule : String :=
  String.ofList (List.replicate 60 '-')

def listing (routes : List Route) : List String :=
  ["", "Routes:", rule] ++ routes.map listingLine ++ [""]

/-! ## Probe -/

/-- The first route that serves a verb, or any, and has the shape of a URI. -/
def firstRoute? (routes : List Route) (uri : String) (verb : Option Verb) : Option Route :=
  (routes.filter fun r => verb.all (· == r.verb)).find? (·.isMatch uri)

def routeLine (r : Route) : String :=
  s!"{r.verb} {r.templateText} -> {r.handler}"

def valueLine (p : Parameter) (v : Value) : String :=
  s!"  {p.name}: {p.type} = {v.marked}"

/-- The lines of the values of a route, or of the reason why there are none. -/
def bindingLines (r : Route) (bound : Except BindError (List Value)) : List String :=
  match bound with
  | .ok values => (r.pathParameters.zip values).map fun (p, v) => valueLine p v
  | .error e => [s!"  binding failed: {e.message}"]

/-- The lines about a route that serves a URI. -/
def probeLines (level : Level) (r : Route) (uri : String) : List String :=
  let bound := (r.extract uri).run
  routeLine r :: shown level bound.events ++ bindingLines r bound.value

/-! ## Runs -/

def runCommand (read : String → Except FileFault String) (level : Level) : Command → Outcome
  | .check name =>
    let loaded := (load read name).run
    let log := shown level loaded.events
    match loaded.value with
    | .error f => failed log f
    | .ok routes => success (log ++ listing routes)
  | .probe name uri verb =>
    let loaded := (load read name).run
    let log := shown level loaded.events
    match loaded.value with
    | .error f => failed log f
    | .ok routes =>
      match firstRoute? routes uri verb with
      | none => failed (log ++ [(Failure.noRoute uri).message]) (.noRoute uri)
      | some r => success (log ++ probeLines level r uri)

def versionLine : String :=
  s!"{programName} 0.1.0"

def run (read : String → Except FileFault String) (args : List String) : Outcome :=
  match Request.ofArguments args with
  | .error e => ⟨2, "", e.message⟩
  | .ok .version => success [versionLine]
  | .ok (.help scope) => ⟨0, scope.helpText, ""⟩
  | .ok (.run verbose command) => runCommand read (if verbose then .debug else .info) command

end TypedRoutes.CommandLine
