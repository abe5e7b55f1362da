import TypedRoutes.Route.Verb
import TypedRoutes.Template.Token
import TypedRoutes.Value.Binding
/-!
# Errors of routes

A route error says which handler's declaration is at fault and what its defect is. A bind error says
why values could not be taken from a URI or put into one.
-/
namespace TypedRoutes

/-- What can be wrong with the declaration of a route. -/
inductive RouteDefect where
  | duplicateParameter (name : String)
  | multipleContentParameters (first second : String)
  | invalidParameterType (name : String) (type : ParamType)
  | invalidTemplate (template : String) (cause : TemplateError)
  | contentParameterInTemplate (name : String)
  | missingParameter (name : String)
  | orphanParameter (name : String)
  | unresolvableVerb (type : String)
  | ambiguousVerb (type : String) (verbs : List Verb)
  deriving DecidableEq, Repr

def RouteDefect.message : RouteDefect → String
  | duplicateParameter name => s!"parameter '{name}' is declared more than once"
  | multipleContentParameters first second =>
    s!"only one parameter may be bound from content, found '{first}' and '{second}'"
  | invalidParameterType name type =>
    s!"parameter '{name}' has type {type}, which cannot be bound from a URI"
  | invalidTemplate template cause => s!"invalid URI template '{template}': {cause.message}"
  | contentParameterInTemplate name =>
    s!"content parameter '{name}' cannot appear in the URI template"
  | missingParameter name => s!"placeholder '\x7b{name}\x7d' has no matching parameter"
  | orphanParameter name => s!"parameter '{name}' does not appear in the URI template"
  | unresolvableVerb type =>
    s!"return type '{type}' does not declare a verb; expected one of " ++ Verb.listing Verb.all
  | ambiguousVerb type verbs =>
    s!"return type '{type}' declares several verbs: " ++ Verb.listing verbs

/-- A defect of the declaration of a handler. -/
structure RouteError where
  handler : String
  defect : RouteDefect
  deriving DecidableEq, Repr

def RouteError.message (e : RouteError) : String :=
  s!"handler '{e.handler}': {e.defect.message}"

/-- Why values cannot be taken from a URI or put into one. -/
inductive BindError where
  | noMatch (uri template : String)
  | conversion (name : String) (type : ParamType) (raw : String) (reason : ReadFault)
  | valueCount (expected actual : Nat)
  | valueType (name : String) (expected : ParamType) (actual : String)
  | unrepresentable (name : String) (reason : WriteFault)
  | unfilledPlaceholder (template : String)
  deriving DecidableEq, Repr

namespace BindError

def message : BindError → String
  | noMatch uri template => s!"URI '{uri}' does not match template '{template}'"
  | conversion name type raw reason =>
    s!"parameter '{name}': cannot convert '{raw}' to {type}: {reason.message}"
  | valueCount expected actual => s!"expected {expected} parameter values, got {actual}"
  | valueType name expected actual =>
    s!"parameter '{name}': expected a value of type {expected}, got {actual}"
  | unrepresentable name reason =>
    s!"parameter '{name}': value cannot be placed in a URI: {reason.message}"
  | unfilledPlaceholder template =>
    s!"parameter '{template}': value cannot be placed in a URI: " ++
      "template has a placeholder with no parameter"

/-- Whether the fault is in the request. -/
def isBadRequest : BindError → Bool
  | conversion _ _ _ _ => true
  | _ => false

end BindError

end TypedRoutes
