import TypedRoutes.Text.Utf8
/-!
# Percent coding

In an encoded text only letters, digits and the marks `-`, `_`, `.` and `~` stand for themselves;
every other byte of the text is written as a percent sign and two hexadecimal digits. Decoding is
lenient: a percent sign that no two digits follow stands for itself.
-/
namespace TypedRoutes.Text.Percent

def hexValue? (c : Char) : Option Nat :=
  if '0' ≤ c ∧ c ≤ '9' then some (c.toNat - '0'.toNat)
  else if 'a' ≤ c ∧ c ≤ 'f' then some (c.toNat - 'a'.toNat + 10)
  else if 'A' ≤ c ∧ c ≤ 'F' then some (c.toNat - 'A'.toNat + 10)
  else none

/-- A hexadecimal digit, in capitals. -/
def hexDigit (n : Nat) : Char :=
  if n < 10 then Char.ofNat ('0'.toNat + n) else Char.ofNat ('A'.toNat + (n - 10))

/-- The characters that stand for themselves. -/
def isUnreserved (c : Char) : Bool :=
  ('a' ≤ c && c ≤ 'z') || ('A' ≤ c && c ≤ 'Z') || ('0' ≤ c && c ≤ '9') ||
    c == '-' || c == '_' || c == '.' || c == '~'

/-- One byte of an encoded text. -/
def encodeByte (b : UInt8) : List Char :=
  let c := Char.ofNat b.toNat
  if isUnreserved c then [c] else ['%', hexDigit (b.toNat / 16), hexDigit (b.toNat % 16)]

def encode (s : String) : List Char :=
  (Utf8.encode s).flatMap encodeByte

/-- The bytes that an encoded text stands for. -/
def decode : List Char → List UInt8
  | [] => []
  | '%' :: h :: l :: cs =>
    match hexValue? h, hexValue? l with
    | some n, some m => UInt8.ofNat (16 * n + m) :: decode cs
    | _, _ => String.utf8EncodeChar '%' ++ decode (h :: l :: cs)
  | c :: cs => String.utf8EncodeChar c ++ decode cs

end TypedRoutes.Text.Percent
