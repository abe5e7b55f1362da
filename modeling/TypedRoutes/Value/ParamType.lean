import TypedRoutes.Value.ScalarType
/-!
# Parameter types

The declared type of a parameter: a scalar type, a sequence of another type, or a custom type of which
only the name is known. Every text names a type. Only scalars and sequences of scalars can be bound
from a URI.
-/
namespace TypedRoutes
open Text

inductive ParamType where
  | scalar (type : ScalarType)
  | sequence (element : ParamType)
  | custom (name : String)
  deriving DecidableEq, Repr

namespace ParamType

/-- What stands between the brackets of a sequence, of either form. -/
def bracketed? (cs : List Char) : Option (List Char) :=
  ((afterWord? "list<".toList cs).bind (beforeLast? '>')) <|>
    ((afterWord? ['['] cs).bind (beforeLast? ']'))

/-- Reads a name, opening at most `depth` brackets. -/
def readWithin : Nat → List Char → ParamType
  | 0, cs => .custom (String.ofList cs)
  | depth + 1, cs =>
    let name := trim isBlank cs
    match bracketed? name with
    | some inner => .sequence (readWithin depth inner)
    | none =>
      match ScalarType.ofName? name with
      | some t => .scalar t
      | none => .custom (String.ofList name)

/-- The type that a text names. A bracket takes two characters at least, so there are fewer of them
than characters. -/
def read (cs : List Char) : ParamType :=
  readWithin (cs.length + 1) cs

def text : ParamType → List Char
  | scalar t => t.name.toList
  | sequence t => "list<".toList ++ t.text ++ ['>']
  | custom name => name.toList

instance : ToString ParamType where
  toString t := String.ofList t.text

/-- The scalar type of a scalar. -/
def scalar? : ParamType → Option ScalarType
  | scalar t => some t
  | _ => none

/-- The scalar type of the elements of a sequence. -/
def element? : ParamType → Option ScalarType
  | sequence t => t.scalar?
  | _ => none

/-- Whether values of the type can be bound from a URI. -/
def isBindable : ParamType → Bool
  | scalar _ => true
  | sequence t => t.scalar?.isSome
  | custom _ => false

end ParamType

end TypedRoutes
