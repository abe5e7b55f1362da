import TypedRoutes.Text.Quoted
import TypedRoutes.Text.Utf8
import TypedRoutes.Number.FloatText
import TypedRoutes.Number.Integer
/-!
# Reading JSON

A reader takes bytes from the front of a document and either gives a value or stops with a fault. Every
fault has a cause and a position, a line and a column in bytes; a fault in what a well-formed value
means has none at first, and is given the position that the reader around it has reached.
-/
namespace TypedRoutes.Json
open Number Text

/-- A place in a document: a line, from one on, and the bytes read of it. -/
structure Position where
  line : Nat
  column : Nat
  deriving DecidableEq, Repr

/-- A value of another kind than the one expected. -/
inductive Found where
  | null
  | boolean (b : Bool)
  | integer (n : Int)
  | float (x : Binary .double)
  | string (s : String)
  | sequence
  | map
  deriving DecidableEq

/-- The style of a float in a description. -/
def floatStyle : MarkedStyle :=
  ⟨-5, 15, true, .even⟩

def Found.message : Found → String
  | null => "null"
  | boolean b => s!"boolean `{b}`"
  | integer n => "integer `" ++ String.ofList (integerText n) ++ "`"
  | float x => "floating point `" ++ String.ofList (x.marked floatStyle) ++ "`"
  | string s => "string " ++ quoted s
  | sequence => "sequence"
  | map => "map"

/-- Why a document cannot be read. -/
inductive Cause where
  | endInList | endInObject | endInString | endInValue
  | noColon | noListSeparator | noObjectSeparator
  | wrongWord | noValue
  | invalidEscape | invalidNumber | numberOutOfRange
  | controlCharacter | loneSurrogate | unfinishedSurrogate
  | keyNotString | trailingComma | trailingCharacters | tooDeep
  | wrongKind (found : Found) (expected : String)
  | wrongLength (length : Nat) (expected : String)
  | missingField (name : String)
  | duplicateField (name : String)
  | unknownVariant (name : String) (variants : List String)
  | refused (reason : String)
  deriving DecidableEq

def variantListing (variants : List String) : String :=
  " or ".intercalate (variants.map fun v => "`" ++ v ++ "`")

def Cause.message : Cause → String
  | endInList => "EOF while parsing a list"
  | endInObject => "EOF while parsing an object"
  | endInString => "EOF while parsing a string"
  | endInValue => "EOF while parsing a value"
  | noColon => "expected `:`"
  | noListSeparator => "expected `,` or `]`"
  | noObjectSeparator => "expected `,` or `\x7d`"
  | wrongWord => "expected ident"
  | noValue => "expected value"
  | invalidEscape => "invalid escape"
  | invalidNumber => "invalid number"
  | numberOutOfRange => "number out of range"
  | controlCharacter =>
    "control character (\\u0000-\\u001F) found while parsing a string"
  | loneSurrogate => "lone leading surrogate in hex escape"
  | unfinishedSurrogate => "unexpected end of hex escape"
  | keyNotString => "key must be a string"
  | trailingComma => "trailing comma"
  | trailingCharacters => "trailing characters"
  | tooDeep => "recursion limit exceeded"
  | wrongKind found expected => s!"invalid type: {found.message}, expected {expected}"
  | wrongLength length expected => s!"invalid length {length}, expected {expected}"
  | missingField name => s!"missing field `{name}`"
  | duplicateField name => s!"duplicate field `{name}`"
  | unknownVariant name variants =>
    s!"unknown variant `{name}`, expected {variantListing variants}"
  | refused reason => reason

/-- A cause and, once it is known, its position. -/
structure Fault where
  cause : Cause
  position : Option Position
  deriving DecidableEq

def Fault.message (f : Fault) : String :=
  match f.position with
  | some p => s!"{f.cause.message} at line {p.line} column {p.column}"
  | none => f.cause.message

/-- What is left of a document, the number of its bytes, and the position reached. -/
structure Input where
  rest : List UInt8
  size : Nat
  position : Position
  size_eq : size = rest.length

def Position.after (p : Position) (b : UInt8) : Position :=
  if b = 10 then ⟨p.line + 1, 0⟩ else ⟨p.line, p.column + 1⟩

namespace Input

/-- A document before reading. -/
def ofText (s : String) : Input :=
  ⟨Utf8.encode s, (Utf8.encode s).length, ⟨1, 0⟩, rfl⟩

def advance (i : Input) : Input :=
  match h : i.rest with
  | [] => i
  | b :: bs => ⟨bs, i.size - 1, i.position.after b, by simp [i.size_eq, h]⟩

def advanceBy : Nat → Input → Input
  | 0, i => i
  | n + 1, i => advanceBy n i.advance

end Input

/-- Readers of values. -/
abbrev Reader := EStateM Fault Input

namespace Reader
variable {α : Type}

/-! ## Faults -/

/-- Stops with a cause where the reader is. -/
def fail (cause : Cause) : Reader α := fun i =>
  .error ⟨cause, some i.position⟩ i

/-- Stops with a cause just after the next byte. -/
def failNext (cause : Cause) : Reader α := fun i =>
  .error ⟨cause, some i.advance.position⟩ i

/-- Stops with a cause that has no position yet. -/
def reject (cause : Cause) : Reader α := fun i =>
  .error ⟨cause, none⟩ i

/-- Gives a fault with no position the position reached. -/
def placed (r : Reader α) : Reader α := fun i =>
  match r i with
  | .ok a j => .ok a j
  | .error f j => .error { f with position := f.position <|> some j.position } j

/-- Reads the end of a value also if there was a fault within it, which is then the one reported. -/
def closedBy (r : Reader α) (close : Reader Unit) : Reader α := fun i =>
  match r i with
  | .ok a j =>
    match close j with
    | .ok _ k => .ok a k
    | .error f k => .error f k
  | .error f j =>
    match close j with
    | .ok _ k => .error f k
    | .error _ k => .error f k

/-! ## Bytes -/

/-- The next byte, as the character of that code. -/
def peek : Reader (Option Char) := fun i =>
  .ok (i.rest.head?.map fun b => Char.ofNat b.toNat) i

def eat : Reader Unit := fun i =>
  .ok () i.advance

/-- Takes the next byte, if there is one. -/
def next : Reader (Option Char) := do
  let c ← peek
  eat
  return c

/-- Whether a byte is a blank. -/
def isBlankByte (b : UInt8) : Bool :=
  b == 32 || b == 10 || b == 9 || b == 13

/-- Takes blanks, and gives the byte after them. -/
def peekToken : Reader (Option Char) := do
  modify fun i => i.advanceBy (i.rest.takeWhile isBlankByte).length
  peek

/-- Takes the letters that follow the first letter of a word. -/
def word : List Char → Reader Unit
  | [] => return
  | c :: cs => do
    match ← next with
    | none => fail .endInValue
    | some d => if c = d then word cs else fail .wrongWord

/-- Takes all digits that come next, and gives them. -/
def digits : Reader (List Char) := do
  let bytes := (← get).rest.takeWhile fun b => (Char.ofNat b.toNat).isDigit
  modify (Input.advanceBy bytes.length)
  return bytes.map fun b => Char.ofNat b.toNat

end Reader

end TypedRoutes.Json
