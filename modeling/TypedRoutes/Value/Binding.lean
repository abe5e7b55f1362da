import TypedRoutes.Value.Basic
import TypedRoutes.Text.Percent
/-!
# Values in a URI

How a value stands in a path segment. A scalar stands there as its text. The elements of a sequence
have separators between them; an element that is a text is percent-encoded, so that it may hold a
separator or a slash of its own.

`Value.read` takes the text of a segment to a value of a type, and `Value.encode` writes a value. What
cannot be written is a value whose text is empty, would end the segment or the path, or would be
split in other places.
-/
namespace TypedRoutes
open Text

/-- Why a text is no value of a type. -/
inductive ReadFault where
  | scalar (fault : ScalarFault)
  | encoding (element : String) (fault : Utf8.Fault)
  | unbindable (type : ParamType)
  deriving DecidableEq, Repr

def ReadFault.message : ReadFault → String
  | scalar fault => fault.message
  | encoding element fault => s!"element '{element}' is not valid UTF-8: {fault.message}"
  | unbindable type => s!"{type} cannot be bound from a URI"

/-- Why a value cannot be written. -/
inductive WriteFault where
  | separator
  | empty
  | reserved
  deriving DecidableEq, Repr

def WriteFault.message : WriteFault → String
  | separator => "element contains the ';' separator"
  | empty => "empty value"
  | reserved => "value contains '/', '?' or '#'"

namespace Value

def readElement (type : ScalarType) (cs : List Char) : Except ReadFault Value :=
  match type with
  | .text =>
    match Utf8.decode (Percent.decode cs) with
    | .ok s => .ok (.scalar (.text s))
    | .error fault => .error (.encoding (String.ofList cs) fault)
  | _ => ((Scalar.read type cs).mapError .scalar).map .scalar

/-- Reads elements in order, up to the first that is at fault. -/
def readElements (type : ScalarType) : List (List Char) → Except ReadFault (List Value)
  | [] => .ok []
  | piece :: pieces => do
    let v ← readElement type piece
    let vs ← readElements type pieces
    .ok (v :: vs)

def read (type : ParamType) (cs : List Char) : Except ReadFault Value :=
  match type, type.element? with
  | .scalar t, _ => ((Scalar.read t cs).mapError .scalar).map .scalar
  | .sequence _, some t => (readElements t (split separator cs)).map .list
  | _, _ => .error (.unbindable type)

def encodeElement : Value → Except WriteFault (List Char)
  | scalar (.text s) => .ok (Percent.encode s)
  | v => if separator ∈ v.plain then .error .separator else .ok v.plain

/-- Writes elements in order, up to the first that cannot be. -/
def encodeElements : List Value → Except WriteFault (List (List Char))
  | [] => .ok []
  | v :: vs => do
    let piece ← encodeElement v
    let pieces ← encodeElements vs
    .ok (piece :: pieces)

/-- The characters that end a path segment or the path. -/
def isReserved (c : Char) : Bool :=
  c == '/' || c == '?' || c == '#'

/-- The text of a value before it is known to fit into a segment. -/
def segmentText : Value → Except WriteFault (List Char)
  | scalar s => .ok s.plain
  | list items => (encodeElements items).map (join separator)

def encode (v : Value) : Except WriteFault (List Char) := do
  let cs ← v.segmentText
  if cs.isEmpty then .error .empty
  else if cs.any isReserved then .error .reserved
  else .ok cs

end Value

end TypedRoutes
