import TypedRoutes.Value.ParamType
import TypedRoutes.Value.Scalar
/-!
# Values

A value is a scalar or a list of values. A value conforms to the scalar type that it has, and a list
to any sequence type that all its elements conform to the element type of.
-/
namespace TypedRoutes
open Text

inductive Value where
  | scalar (s : Scalar)
  | list (items : List Value)
  deriving Inhabited

namespace Value

/-- The scalar type of a scalar. -/
def scalarType? : Value → Option ScalarType
  | scalar s => some s.type
  | list _ => none

/-- The name of a value's kind. -/
def kind : Value → String
  | scalar s => s.type.name
  | list _ => "list"

mutual

/-- Whether a value can be a value of a type. -/
def conformsTo : Value → ParamType → Bool
  | scalar s, .scalar t => s.type == t
  | list items, .sequence t => allConformTo items t
  | _, _ => false

/-- Whether all of some values can be values of a type. -/
def allConformTo : List Value → ParamType → Bool
  | [], _ => true
  | v :: vs, t => conformsTo v t && allConformTo vs t

end

mutual

/-- Whether two values are the same, scalar by scalar. -/
def same : Value → Value → Bool
  | scalar s, scalar t => s.same t
  | list vs, list ws => allSame vs ws
  | _, _ => false

/-- Whether two lists have the same values at the same places. -/
def allSame : List Value → List Value → Bool
  | [], [] => true
  | v :: vs, w :: ws => same v w && allSame vs ws
  | _, _ => false

end

/-- The character between the elements of a list. -/
def separator : Char := ';'

mutual

/-- The text of a value; a list is the texts of its elements with separators between them. -/
def plain : Value → List Char
  | scalar s => s.plain
  | list items => join separator (plainAll items)

def plainAll : List Value → List (List Char)
  | [] => []
  | v :: vs => plain v :: plainAll vs

end

mutual

def marked : Value → String
  | scalar s => s.marked
  | list items => "List([" ++ ", ".intercalate (markedAll items) ++ "])"

def markedAll : List Value → List String
  | [] => []
  | v :: vs => marked v :: markedAll vs

end

/-- The scalar of a scalar. -/
def scalar? : Value → Option Scalar
  | scalar s => some s
  | list _ => none

/-- The elements of a list. -/
def list? : Value → Option (List Value)
  | list items => some items
  | scalar _ => none

end Value

end TypedRoutes
