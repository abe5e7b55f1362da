import TypedRoutes.Number.Shortest
/-!
# Texts of floating-point numbers

Reading takes a sign, digits with or without a point, and a power of ten, or the words for infinity
and for what is not a number in any case; the value is the nearest of the format. Writing takes the
shortest digits. The plain text never has an exponent, and none but the digits needed; the marked
text always shows by a point or an exponent that it is no integer.
-/
namespace TypedRoutes.Number

/-- Why a text is no floating-point number. -/
inductive FloatFault where
  | empty
  | invalid
  deriving DecidableEq, Repr

def FloatFault.message : FloatFault → String
  | empty => "cannot parse float from empty string"
  | invalid => "invalid float literal"

/-- Reads an optional exponent that ends the text. -/
def readPowerOfTen : List Char → Option Int
  | [] => some 0
  | c :: cs =>
    if c = 'e' ∨ c = 'E' then
      let (negative, ds) :=
        match cs with
        | '-' :: ds => (true, ds)
        | '+' :: ds => (false, ds)
        | ds => (false, ds)
      if ds.isEmpty ∨ ¬ ds.all Char.isDigit then none
      else some (if negative then -(ofDigits ds : Int) else (ofDigits ds : Int))
    else none

/-- Reads digits, a point among them if any, and an exponent; the result is the number
`digits * 10 ^ exponent`. -/
def readScientific (cs : List Char) : Option Scientific :=
  let (whole, rest) := digitRun cs
  let (fraction, rest) :=
    match rest with
    | '.' :: rest => digitRun rest
    | rest => ([], rest)
  if whole.isEmpty ∧ fraction.isEmpty then none
  else (readPowerOfTen rest).map fun k => ⟨ofDigits (whole ++ fraction), k - fraction.length⟩

namespace Binary
variable {p : Precision}

/-- Reads what follows the sign of a number. -/
def readUnsigned (negative : Bool) (cs : List Char) : Except FloatFault (Binary p) :=
  match readScientific cs with
  | some s => .ok (ofDecimal negative s.digits s.exponent)
  | none =>
    let word := String.ofList (cs.map Char.toLower)
    if word = "inf" ∨ word = "infinity" then .ok (infinite negative)
    else if word = "nan" then .ok nan
    else .error .invalid

/-- Reads a number of the format. -/
def read (cs : List Char) : Except FloatFault (Binary p) :=
  match cs with
  | [] => .error .empty
  | '-' :: cs => readUnsigned true cs
  | '+' :: cs => readUnsigned false cs
  | cs => readUnsigned false cs

end Binary

/-- Digits with the point where the exponent says, and zeros up to it. -/
def Scientific.positional (s : Scientific) : List Char :=
  let ds := Number.digits s.digits
  if 0 ≤ s.exponent then ds ++ List.replicate s.exponent.toNat '0'
  else
    let places := (-s.exponent).toNat
    if places < ds.length then ds.take (ds.length - places) ++ '.' :: ds.drop (ds.length - places)
    else '0' :: '.' :: List.replicate (places - ds.length) '0' ++ ds

/-- One digit before the point, the others after it, and a power of ten, of which the sign is written
when it is negative, and with `plus` always. -/
def Scientific.exponential (plus : Bool) (s : Scientific) : List Char :=
  let body :=
    match Number.digits s.digits with
    | d :: e :: ds => d :: '.' :: e :: ds
    | ds => ds
  let k := s.leading
  let sign := if k < 0 then ['-'] else if plus then ['+'] else []
  body ++ 'e' :: sign ++ Number.digits k.natAbs

/-- How the marked text of a number is written: the least and the greatest power of the first digit
that is written by position and not with a power of ten, whether a power of ten that is not negative has
a sign, and the rule for ties. -/
structure MarkedStyle where
  least : Int
  greatest : Int
  plus : Bool
  tie : Tie

namespace Binary
variable {p : Precision}

/-- The sign of a text. -/
def signed (negative : Bool) (cs : List Char) : List Char :=
  if negative then '-' :: cs else cs

/-- The plain text of a number. A tie goes to the greater decimal. -/
def plain : Binary p → List Char
  | nan => "NaN".toList
  | infinite s => signed s "inf".toList
  | finite s m e h => signed s (if m = 0 then ['0'] else (shortest .up s m e h).positional)

/-- The text of a number that shows that it is no integer. -/
def marked (style : MarkedStyle) : Binary p → List Char
  | nan => "NaN".toList
  | infinite s => signed s "inf".toList
  | finite s m e h =>
    if m = 0 then signed s "0.0".toList
    else
      let x := shortest style.tie s m e h
      if style.least ≤ x.leading ∧ x.leading ≤ style.greatest then
        signed s (if 0 ≤ x.exponent then x.positional ++ ['.', '0'] else x.positional)
      else signed s (x.exponential style.plus)

end Binary

end TypedRoutes.Number
