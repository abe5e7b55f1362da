import TypedRoutes.Route.Error
import TypedRoutes.Text.Quoted
import TypedRoutes.Text.Trim
/-!
# Events

What happens to routes is told in events. Each has a level and a line of text: the level, a message and
the fields of the event, names bare and texts quoted. A computation that raises events is a `Logged`
value: its result and the events in order.
-/
namespace TypedRoutes
open Text

/-- The levels of events, from the most important to the least. -/
inductive Level where
  | warn | info | debug | trace
  deriving DecidableEq, Repr

namespace Level

/-- The name of a level, five characters wide. -/
def label : Level → String
  | warn => " WARN"
  | info => " INFO"
  | debug => "DEBUG"
  | trace => "TRACE"

/-- The place of a level: greater means less important. -/
def rank : Level → Nat
  | warn => 0
  | info => 1
  | debug => 2
  | trace => 3

end Level

inductive Event where
  | compiledRoute (handler : String) (verb : Verb) (template matcher extractor : String)
  | routeMatch (handler uri : String) (matched : Bool)
  | bindingFailed (parameter : String) (type : ParamType) (raw : String) (reason : ReadFault)
  | compiledManifest (routes : Nat)
  deriving DecidableEq, Repr

namespace Event

def level : Event → Level
  | compiledRoute _ _ _ _ _ => .debug
  | routeMatch _ _ _ => .trace
  | bindingFailed _ _ _ _ => .warn
  | compiledManifest _ => .info

def body : Event → String
  | compiledRoute handler verb template matcher extractor =>
    s!"compiled route handler={handler} verb={verb} template={quoted template} " ++
      s!"matcher={quoted matcher} extractor={quoted extractor}"
  | routeMatch handler uri matched =>
    s!"route match handler={handler} uri={quoted uri} matched={matched}"
  | bindingFailed parameter type raw reason =>
    s!"parameter binding failed parameter={quoted parameter} ty={type} raw={quoted raw} " ++
      s!"reason={reason.message}"
  | compiledManifest routes => s!"compiled route manifest routes={routes}"

def line (e : Event) : String :=
  e.level.label ++ " " ++ e.body

/-- Whether an event is at least as important as a level. -/
def isShownAt (e : Event) (level : Level) : Bool :=
  e.level.rank ≤ level.rank

/-- The lines of an event in a log. A field with an end of line in it goes on in the next. -/
def lines (e : Event) : List String :=
  (split '\n' e.line.toList).map fun cs => String.ofList ((beforeLast? '\r' cs).getD cs)

end Event

/-- A result and the events that were raised on the way to it. -/
structure Logged (α : Type) where
  value : α
  events : List Event

namespace Logged

instance : Monad Logged where
  pure a := ⟨a, []⟩
  bind x f := ⟨(f x.value).value, x.events ++ (f x.value).events⟩

/-- Raises an event. -/
def raise (e : Event) : Logged Unit :=
  ⟨(), [e]⟩

end Logged

end TypedRoutes
