import TypedRoutes.Number.Binary
import TypedRoutes.Number.Integer
import TypedRoutes.Text.Trim
/-!
# Scalar types

The types of a single value: text, the three kinds of numbers, booleans, date-times and characters.
Each has a canonical name and some more names that it may be declared by, in any ASCII case.
-/
namespace TypedRoutes
open Number Text

inductive ScalarType where
  | text
  | decimal
  | float (p : Precision)
  | integer (k : IntegerKind)
  | boolean
  | dateTime
  | char
  deriving DecidableEq, Repr

namespace ScalarType

def all : List ScalarType :=
  [.text, .decimal, .float .double, .float .single, .integer .short, .integer .int, .integer .long,
   .integer .ushort, .integer .uint, .integer .ulong, .integer .byte, .boolean, .dateTime, .char]

def name : ScalarType → String
  | text => "string"
  | decimal => "decimal"
  | float .double => "double"
  | float .single => "float"
  | integer .short => "short"
  | integer .int => "int"
  | integer .long => "long"
  | integer .ushort => "ushort"
  | integer .uint => "uint"
  | integer .ulong => "ulong"
  | integer .byte => "byte"
  | boolean => "bool"
  | dateTime => "datetime"
  | char => "char"

def aliases : ScalarType → List String
  | text => ["str", "text"]
  | float .double => ["f64"]
  | float .single => ["single", "f32"]
  | integer .short => ["int16", "i16"]
  | integer .int => ["int32", "i32"]
  | integer .long => ["int64", "i64"]
  | integer .ushort => ["uint16", "u16"]
  | integer .uint => ["uint32", "u32"]
  | integer .ulong => ["uint64", "u64"]
  | integer .byte => ["u8"]
  | boolean => ["boolean"]
  | dateTime => ["date"]
  | decimal | char => []

def ofName? (cs : List Char) : Option ScalarType :=
  let lower := String.ofList (lowerAscii cs)
  all.find? fun t => lower == t.name || t.aliases.contains lower

end ScalarType

end TypedRoutes
