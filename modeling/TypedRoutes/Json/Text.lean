import TypedRoutes.Json.Reader
import TypedRoutes.Text.Percent
/-!
# Strings in JSON

What stands between double quotes: bytes that stand for themselves, and escapes. A character beyond the
first plane is escaped as two halves, which have to stand together. A string that is passed over is
read to its end all the same, but its halves are not paired.
-/
namespace TypedRoutes.Json
open Text

/-- The character of a simple escape. -/
def simpleEscape? : Char → Option Char
  | '"' => some '"'
  | '\\' => some '\\'
  | '/' => some '/'
  | 'b' => some '\x08'
  | 'f' => some '\x0c'
  | 'n' => some '\n'
  | 'r' => some '\r'
  | 't' => some '\t'
  | _ => none

/-- The number that four hexadecimal digits stand for. -/
def hexNumber? (cs : List Char) : Option Nat :=
  cs.foldlM (fun n c => (Percent.hexValue? c).map (16 * n + ·)) 0

/-- Whether a number is the first half of a character. -/
def isFirstHalf (n : Nat) : Bool :=
  0xD800 ≤ n && n ≤ 0xDBFF

/-- Whether a number is the second half of a character. -/
def isSecondHalf (n : Nat) : Bool :=
  0xDC00 ≤ n && n ≤ 0xDFFF

namespace Reader

def hex : Reader Nat := do
  let bytes := (← get).rest.take 4
  modify (Input.advanceBy bytes.length)
  if bytes.length < 4 then fail .endInString
  else
    match hexNumber? (bytes.map fun b => Char.ofNat b.toNat) with
    | some n => return n
    | none => fail .invalidEscape

/-- Takes a byte that the second half of a character has to begin with. -/
def secondHalfMark (mark : Char) : Reader Unit := do
  match ← peek with
  | none => fail .endInString
  | some c => do
    eat
    if c ≠ mark then fail .unfinishedSurrogate

/-- Reads the number of an escaped character. -/
def escapedCharacter : Reader Char := do
  let n ← hex
  if isSecondHalf n then fail .loneSurrogate
  else if isFirstHalf n then do
    secondHalfMark '\\'
    secondHalfMark 'u'
    let m ← hex
    if isSecondHalf m then
      return Char.ofNat (0x10000 + 0x400 * (n - 0xD800) + (m - 0xDC00))
    else fail .loneSurrogate
  else return Char.ofNat n

/-- Reads what follows a backslash. -/
def escape : Reader Char := do
  match ← next with
  | none => fail .endInString
  | some 'u' => escapedCharacter
  | some c =>
    match simpleEscape? c with
    | some d => return d
    | none => fail .invalidEscape

/-- Passes over what follows a backslash. -/
def skipEscape : Reader Unit := do
  match ← next with
  | none => fail .endInString
  | some 'u' => discard hex
  | some c => if (simpleEscape? c).isNone then fail .invalidEscape

/-- Whether a byte stands for itself in a string. -/
def isOrdinary (b : UInt8) : Bool :=
  32 ≤ b && b != 34 && b != 92

/-- Takes the bytes that stand for themselves. -/
def ordinary : Reader (List UInt8) := do
  let bytes := (← get).rest.takeWhile isOrdinary
  modify (Input.advanceBy bytes.length)
  return bytes

/-- Reads on to the closing quote. `done` is what has been read, its last piece first. Each turn takes
a byte, so `fuel` need be no more than their number. -/
def stringFrom : Nat → List (List UInt8) → Reader String
  | 0, _ => fail .endInString
  | fuel + 1, done => do
    let bytes ← ordinary
    match ← peek with
    | none => fail .endInString
    | some '"' => do
      eat
      match Utf8.decode ((bytes :: done).reverse.flatten) with
      | .ok s => return s
      | .error _ => fail .invalidEscape
    | some '\\' => do
      eat
      let c ← escape
      stringFrom fuel (String.utf8EncodeChar c :: bytes :: done)
    | some _ => do
      eat
      fail .controlCharacter

/-- Reads a string after its opening quote. -/
def string : Reader String := do
  stringFrom ((← get).size + 1) []

/-- Passes over a string to its closing quote. -/
def skipStringFrom : Nat → Reader Unit
  | 0 => fail .endInString
  | fuel + 1 => do
    discard ordinary
    match ← peek with
    | none => fail .endInString
    | some '"' => eat
    | some '\\' => do
      eat
      skipEscape
      skipStringFrom fuel
    | some _ => fail .controlCharacter

def skipString : Reader Unit := do
  skipStringFrom ((← get).size + 1)

end Reader

end TypedRoutes.Json
