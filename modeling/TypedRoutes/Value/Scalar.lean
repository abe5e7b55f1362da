import TypedRoutes.Value.ScalarType
import TypedRoutes.Number.Decimal
import TypedRoutes.Number.FloatText
import TypedRoutes.Calendar.Layout
import TypedRoutes.Text.Quoted
/-!
# Scalars

A scalar is a value of a scalar type. Its text is what a URI holds, and `Scalar.read` takes a text of
a type back. The marked text shows the type as well, with quotes and escapes.
-/
namespace TypedRoutes
open Number Text Calendar

inductive Scalar where
  | text (s : String)
  | decimal (x : Decimal)
  | float (p : Precision) (x : Binary p)
  | integer (k : IntegerKind) (n : k.Value)
  | boolean (b : Bool)
  | dateTime (t : DateTime)
  | char (c : Char)
  deriving DecidableEq

/-- Why a text is no value of a scalar type. -/
inductive ScalarFault where
  | decimal (fault : DecimalFault)
  | float (fault : FloatFault)
  | integer (fault : IntegerFault)
  | boolean
  | dateTime
  | char
  deriving DecidableEq, Repr

def ScalarFault.message : ScalarFault → String
  | decimal fault => fault.message
  | float fault => fault.message
  | integer fault => fault.message
  | boolean => "expected 'true' or 'false'"
  | dateTime => "expected an ISO 8601 date or date-time"
  | char => "expected exactly one character"

namespace Scalar

def type : Scalar → ScalarType
  | text _ => .text
  | decimal _ => .decimal
  | float p _ => .float p
  | integer k _ => .integer k
  | boolean _ => .boolean
  | dateTime _ => .dateTime
  | char _ => .char

def plain : Scalar → List Char
  | text s => s.toList
  | decimal x => x.text
  | float _ x => x.plain
  | integer _ n => integerText n.val
  | boolean b => (if b then "true" else "false").toList
  | dateTime t => t.text
  | char c => [c]

/-- Reads a boolean, in any ASCII case. -/
def readBoolean (cs : List Char) : Except ScalarFault Bool :=
  if lowerAscii cs = "true".toList then .ok true
  else if lowerAscii cs = "false".toList then .ok false
  else .error .boolean

def readChar : List Char → Except ScalarFault Char
  | [c] => .ok c
  | _ => .error .char

def read (type : ScalarType) (cs : List Char) : Except ScalarFault Scalar :=
  match type with
  | .text => .ok (text (String.ofList cs))
  | .decimal => ((Decimal.read cs).mapError .decimal).map decimal
  | .float p => (((Binary.read cs : Except FloatFault (Binary p))).mapError .float).map (float p)
  | .integer k => ((k.read cs).mapError .integer).map (integer k)
  | .boolean => (readBoolean cs).map boolean
  | .dateTime =>
    match DateTime.read cs with
    | some t => .ok (dateTime t)
    | none => .error .dateTime
  | .char => (readChar cs).map char

/-- Whether two scalars have one type and stand for the same value. Decimals may differ in scale,
the two zeros of a float are the same, and what is not a number is the same as nothing. -/
def same : Scalar → Scalar → Bool
  | text s, text t => s == t
  | decimal x, decimal y => x.same y
  | float .double x, float .double y => x.same y
  | float .single x, float .single y => x.same y
  | integer k n, integer l m => k == l && n.val == m.val
  | boolean a, boolean b => a == b
  | dateTime t, dateTime u => t == u
  | char c, char d => c == d
  | _, _ => false

/-- The style of the marked text of a float. -/
def floatStyle : MarkedStyle :=
  ⟨-4, 15, false, .up⟩

/-- The word that the marked text of a type begins with. -/
def mark : ScalarType → String
  | .text => "Text"
  | .decimal => "Decimal"
  | .float .double => "Double"
  | .float .single => "Float"
  | .integer .short => "Int16"
  | .integer .int => "Int32"
  | .integer .long => "Int64"
  | .integer .ushort => "UInt16"
  | .integer .uint => "UInt32"
  | .integer .ulong => "UInt64"
  | .integer .byte => "Byte"
  | .boolean => "Bool"
  | .dateTime => "DateTime"
  | .char => "Char"

/-- What stands in the brackets of the marked text. -/
def inner : Scalar → String
  | text s => quoted s
  | float _ x => String.ofList (x.marked floatStyle)
  | char c => quotedOne c
  | s => String.ofList s.plain

def marked (s : Scalar) : String :=
  mark s.type ++ "(" ++ s.inner ++ ")"

def text? : Scalar → Option String
  | text s => some s
  | _ => none

def decimal? : Scalar → Option Decimal
  | decimal x => some x
  | _ => none

/-- A float of either precision, in the wider one. -/
def double? : Scalar → Option (Binary .double)
  | float .double x => some x
  | float .single x => some x.widen
  | _ => none

/-- The integer of any integer kind. -/
def integer? : Scalar → Option Int
  | integer _ n => some n.val
  | _ => none

/-- An integer of any kind, as a `long` if it is one. -/
def long? (s : Scalar) : Option (IntegerKind.long.Value) :=
  s.integer?.bind IntegerKind.long.value?

/-- An integer of any kind, as a `ulong` if it is one. Only a `ulong` may be too large for a `long`, so
an integer of any other kind is taken through a `long`. -/
def ulong? : Scalar → Option (IntegerKind.ulong.Value)
  | integer .ulong n => some n
  | s => s.long?.bind fun n => IntegerKind.ulong.value? n.val

def boolean? : Scalar → Option Bool
  | boolean b => some b
  | _ => none

def dateTime? : Scalar → Option DateTime
  | dateTime t => some t
  | _ => none

def char? : Scalar → Option Char
  | char c => some c
  | _ => none

end Scalar

end TypedRoutes
