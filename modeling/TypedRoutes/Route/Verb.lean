import TypedRoutes.Text.Uppercase
/-!
# Verbs

The four verbs that a handler can serve, and the declared result type of a handler, whose markers say
which. A result may be the outcome of a future, and that of another future; then only the markers of
the innermost type count.
-/
namespace TypedRoutes
open Text

inductive Verb where
  | get | post | put | delete
  deriving DecidableEq, Repr

namespace Verb

/-- All verbs, in the order in which they are listed. -/
def all : List Verb :=
  [.get, .post, .put, .delete]

def name : Verb → String
  | get => "GET"
  | post => "POST"
  | put => "PUT"
  | delete => "DELETE"

instance : ToString Verb where
  toString := name

/-- The verb whose name a text is, when written in capitals. -/
def ofName? (cs : List Char) : Option Verb :=
  all.find? fun v => cs.flatMap capitals == v.name.toList

def listing (verbs : List Verb) : String :=
  ", ".intercalate (verbs.map name)

end Verb

/-- The declared result types: a plain result, or a future of another result type. -/
inductive ReturnType where
  | result (name : String) (markers : List Verb)
  | future (name : String) (markers : List Verb) (inner : ReturnType)
  deriving Inhabited, DecidableEq, Repr

namespace ReturnType

def name : ReturnType → String
  | result name _ => name
  | future name _ _ => name

/-- The markers of a type itself. -/
def markers : ReturnType → List Verb
  | result _ markers => markers
  | future _ markers _ => markers

def isFuture : ReturnType → Bool
  | result _ _ => false
  | future _ _ _ => true

/-- The type under all futures. -/
def innermost : ReturnType → ReturnType
  | result name markers => result name markers
  | future _ _ inner => inner.innermost

/-- A type with no markers. -/
def named (name : String) : ReturnType :=
  result name []

/-- A type with one marker. -/
def withVerb (name : String) (verb : Verb) : ReturnType :=
  result name [verb]

/-- The type with one more marker. -/
def mark (verb : Verb) : ReturnType → ReturnType
  | result name markers => result name (markers ++ [verb])
  | future name markers inner => future name (markers ++ [verb]) inner

/-- The future of a type. -/
def futureOf (t : ReturnType) : ReturnType :=
  future s!"Future<{t.name}>" [] t

/-- The verbs that a type declares, each once. -/
def verbs (t : ReturnType) : List Verb :=
  Verb.all.filter fun v => t.innermost.markers.contains v

end ReturnType

end TypedRoutes
