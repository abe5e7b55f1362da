import TypedRoutes.Route.Basic
/-!
# Declarations

A declaration tells all there is to tell about a route, step by step. `Declaration.compile` checks it and
gives the route. The checks are made in a fixed order, and the first defect is the one reported: the
parameters one by one, the template, a content parameter among the placeholders, a placeholder
without a parameter, a parameter without a placeholder, and the verb.
-/
namespace TypedRoutes

structure Declaration where
  handler : String
  template : String
  base : Option String
  parameters : List Parameter
  returns : Option ReturnType
  foldsCase : Bool
  deriving Repr

inductive Step where
  | under (base : String)
  | parameter (p : Parameter)
  | returning (t : ReturnType)
  | serving (verb : Verb)
  | foldingCase (foldsCase : Bool)
  deriving Repr

/-- The verb of a result type, which must declare exactly one. -/
def ReturnType.verb (t : ReturnType) : Except RouteDefect Verb :=
  match t.verbs with
  | [v] => .ok v
  | [] => .error (.unresolvableVerb t.innermost.name)
  | vs => .error (.ambiguousVerb t.innermost.name vs)

namespace Declaration

def start (handler template : String) : Declaration :=
  ⟨handler, template, none, [], none, false⟩

/-- Takes a step. A verb is declared as the result type of the handler. -/
def take (d : Declaration) : Step → Declaration
  | .under base => { d with base := some base }
  | .parameter p => { d with parameters := d.parameters ++ [p] }
  | .returning t => { d with returns := some t }
  | .serving verb => { d with returns := some (.withVerb d.handler verb) }
  | .foldingCase foldsCase => { d with foldsCase := foldsCase }

/-- The declaration made of steps in order. -/
def ofSteps (handler template : String) (steps : List Step) : Declaration :=
  steps.foldl take (start handler template)

/-! ## Checks -/

/-- The defect of a parameter, after earlier ones that have none. -/
def parameterDefect? (earlier : List Parameter) (p : Parameter) : Option RouteDefect :=
  if earlier.any (·.name == p.name) then some (.duplicateParameter p.name)
  else
    match p.source, earlier.find? Parameter.isContent with
    | .content, some first => some (.multipleContentParameters first.name p.name)
    | .content, none => none
    | .path, _ => if p.type.isBindable then none else some (.invalidParameterType p.name p.type)

/-- The first defect of parameters, in order, after earlier ones that have none. -/
def parametersDefect? (earlier : List Parameter) : List Parameter → Option RouteDefect
  | [] => none
  | p :: ps => parameterDefect? earlier p <|> parametersDefect? (earlier ++ [p]) ps

def pathParameters (d : Declaration) : List Parameter :=
  d.parameters.filter Parameter.isPath

def bodyParameter (d : Declaration) : Option Parameter :=
  d.parameters.find? Parameter.isContent

/-- The defect of a content parameter that is a placeholder too. -/
def contentDefect? (d : Declaration) (placeholders : List String) : Option RouteDefect :=
  match d.bodyParameter with
  | some body =>
    if placeholders.contains body.name then some (.contentParameterInTemplate body.name) else none
  | none => none

/-- The defect of the first placeholder that has no parameter. -/
def missingDefect? (d : Declaration) (placeholders : List String) : Option RouteDefect :=
  (placeholders.find? fun name => ! d.pathParameters.any (·.name == name)).map .missingParameter

/-- The defect of the first parameter that is no placeholder. -/
def orphanDefect? (d : Declaration) (placeholders : List String) : Option RouteDefect :=
  (d.pathParameters.find? fun p => ! placeholders.contains p.name).map (.orphanParameter ·.name)

def verb (d : Declaration) : Except RouteDefect Verb :=
  match d.returns with
  | none => .error (.unresolvableVerb "()")
  | some t => t.verb

/-- Stops at a defect. -/
def refuse : Option RouteDefect → Except RouteDefect Unit
  | some defect => .error defect
  | none => .ok ()

/-- Checks a declaration and gives the route, or the first defect. -/
def check (d : Declaration) : Except RouteDefect Route := do
  refuse (parametersDefect? [] d.parameters)
  let template ←
    (Template.compile d.foldsCase (d.base.map String.toList) d.template.toList).mapError
      (.invalidTemplate d.template)
  refuse (d.contentDefect? template.placeholders)
  refuse (d.missingDefect? template.placeholders)
  refuse (d.orphanDefect? template.placeholders)
  let verb ← d.verb
  .ok ⟨d.handler, verb, template, d.pathParameters, d.bodyParameter⟩

def compile (d : Declaration) : Except RouteError Route :=
  d.check.mapError (⟨d.handler, ·⟩)

/-- The event of a compiled route. -/
def compiled (r : Route) : Event :=
  .compiledRoute r.handler r.verb r.templateText r.matcherText r.extractorText

/-- Compiles a declaration, and raises the event of it if there is a route. -/
def build (d : Declaration) : ExceptT RouteError Logged Route :=
  match d.compile with
  | .ok r => do
    Logged.raise (compiled r)
    return r
  | .error e => throw e

end Declaration

end TypedRoutes
