import TypedRoutes.Route.Event
import TypedRoutes.Template.Basic
/-!
# Routes

A route is what a valid declaration compiles to: a template, the parameters that are bound from its
placeholders, at most one parameter bound from the body of a request, and the verb that the handler
serves.

`Route.extract` binds the parameters from a URI, and `Route.buildUri` writes a URI for given values. Both
take and give values in the order of the declaration.
-/
namespace TypedRoutes

/-- Where a parameter's value comes from. -/
inductive ParameterSource where
  | path | content
  deriving DecidableEq, Repr

structure Parameter where
  name : String
  type : ParamType
  source : ParameterSource
  deriving DecidableEq, Repr

namespace Parameter

/-- Whether a parameter is bound from the path. -/
def isPath (p : Parameter) : Bool :=
  p.source == .path

/-- Whether a parameter is bound from the body. -/
def isContent (p : Parameter) : Bool :=
  p.source == .content

end Parameter

structure Route where
  handler : String
  verb : Verb
  template : Template
  pathParameters : List Parameter
  bodyParameter : Option Parameter
  deriving DecidableEq, Repr

/-- Binds the text that is captured for one parameter. -/
def bind (name : String) (type : ParamType) (raw : List Char) : ExceptT BindError Logged Value :=
  match Value.read type raw with
  | .ok v => pure v
  | .error reason => do
    Logged.raise (.bindingFailed name type (String.ofList raw) reason)
    throw (.conversion name type (String.ofList raw) reason)

namespace Route

def templateText (r : Route) : String :=
  String.ofList r.template.text

def matcherText (r : Route) : String :=
  String.ofList r.template.matcher.source

def extractorText (r : Route) : String :=
  String.ofList r.template.extractor.source

/-! ## Matching -/

/-- Whether a URI has the shape of a route. -/
def isMatch (r : Route) (uri : String) : Bool :=
  r.template.isMatch uri.toList

/-- Tells whether a URI has the shape of a route, and raises the event of it. -/
def test (r : Route) (uri : String) : Logged Bool := do
  Logged.raise (.routeMatch r.handler uri (r.isMatch uri))
  return r.isMatch uri

/-! ## Extraction -/

/-- The error for a URI without the shape of a route. -/
def mismatch (r : Route) (uri : String) : BindError :=
  .noMatch uri r.templateText

/-- Binds parameters in order, up to the first that cannot be. -/
def bindAll (r : Route) (uri : String) (texts : Captures) :
    List Parameter → ExceptT BindError Logged (List Value)
  | [] => pure []
  | p :: ps =>
    match texts.lookup p.name with
    | none => throw (r.mismatch uri)
    | some raw => do
      let v ← bind p.name p.type raw
      let vs ← bindAll r uri texts ps
      return v :: vs

/-- Binds the path parameters from a URI. -/
def extract (r : Route) (uri : String) : ExceptT BindError Logged (List Value) :=
  match r.template.captures? uri.toList with
  | none => throw (r.mismatch uri)
  | some texts => bindAll r uri texts r.pathParameters

/-! ## Generation -/

/-- The text of a parameter's value in a URI. -/
def encode (p : Parameter) (v : Value) : Except BindError (List Char) :=
  if v.conformsTo p.type then (v.encode).mapError (.unrepresentable p.name)
  else .error (.valueType p.name p.type v.kind)

/-- The texts of values by the names of their parameters, up to the first that cannot be written. -/
def encodeAll : List Parameter → List Value → Except BindError Captures
  | p :: ps, v :: vs => do
    let text ← encode p v
    let texts ← encodeAll ps vs
    .ok ((p.name, text) :: texts)
  | _, _ => .ok []

/-- Writes the URI for values of the path parameters. -/
def buildUri (r : Route) (values : List Value) : Except BindError String :=
  if r.pathParameters.length = values.length then do
    let texts ← encodeAll r.pathParameters values
    match r.template.fill? texts with
    | some uri => .ok (String.ofList uri)
    | none => .error (.unfilledPlaceholder r.templateText)
  else .error (.valueCount r.pathParameters.length values.length)

end Route

end TypedRoutes
