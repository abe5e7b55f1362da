/-!
# Binary floating-point numbers

The values of the two binary formats of 32 and 64 bits: signed zeros and finite numbers as a
significand times a power of two, the two infinities, and one value for everything that is not a
number. A significand and an exponent are canonical when no other pair of the format stands for the
same number, so equal numbers are equal pairs. `Binary.ofRatio` takes any ratio of natural numbers to
the nearest value, a tie to the even significand.
-/
namespace TypedRoutes.Number

inductive Precision where
  | single | double
  deriving DecidableEq, Repr

namespace Precision

def bits : Precision → Nat
  | single => 24
  | double => 53

/-- The exponent of the least positive number. -/
def minExponent : Precision → Int
  | single => -149
  | double => -1074

def maxExponent : Precision → Int
  | single => 104
  | double => 971

/-- A number of decimal digits that is enough to tell any two values apart. -/
def decimalDigits : Precision → Nat
  | single => 9
  | double => 17

/-- A pair of the format that stands for its number alone: the significand fills all bits, or the
exponent is the least. -/
def Canonical (p : Precision) (m : Nat) (e : Int) : Prop :=
  m < Nat.pow 2 p.bits ∧ p.minExponent ≤ e ∧ e ≤ p.maxExponent ∧
    (Nat.pow 2 (p.bits - 1) ≤ m ∨ e = p.minExponent)

instance (p : Precision) (m : Nat) (e : Int) : Decidable (p.Canonical m e) :=
  inferInstanceAs (Decidable (_ ∧ _ ∧ _ ∧ _))

end Precision

inductive Binary (p : Precision) where
  | nan
  | infinite (negative : Bool)
  | finite (negative : Bool) (significand : Nat) (exponent : Int)
      (canonical : p.Canonical significand exponent)
  deriving DecidableEq

/-- The ratio `n / d` divided by `2 ^ e`, again as a ratio. -/
def scaleDown (n d : Nat) (e : Int) : Nat × Nat :=
  if 0 ≤ e then (n, d * Nat.pow 2 e.toNat) else (n * Nat.pow 2 (-e).toNat, d)

/-- The greatest `k` with `2 ^ k ≤ n / d`. -/
def binaryExponent (n d : Nat) : Int :=
  -- The two lengths in bits tell it, or one more than it.
  let k : Int := (n.log2 : Int) - (d.log2 : Int)
  let (a, b) := scaleDown n d k
  if b ≤ a then k else k - 1

/-- The integer nearest to `n / d`, a tie to the even one. -/
def roundToEven (n d : Nat) : Nat :=
  let q := n / d
  let r := n % d
  if 2 * r < d then q
  else if d < 2 * r then q + 1
  else if q % 2 = 0 then q
  else q + 1

namespace Binary
variable {p : Precision}

def zero (negative : Bool) : Binary p :=
  .finite negative 0 p.minExponent (by cases p <;> decide)

/-- The number of a canonical pair; any other pair is beyond the format. -/
def ofPair (negative : Bool) (m : Nat) (e : Int) : Binary p :=
  if h : p.Canonical m e then .finite negative m e h else .infinite negative

/-- The value nearest to `n / d`. -/
def ofRatio (negative : Bool) (n d : Nat) : Binary p :=
  if n = 0 then zero negative
  else
    let e := max p.minExponent (binaryExponent n d - (p.bits - 1 : Nat))
    let (a, b) := scaleDown n d e
    let m := roundToEven a b
    -- Rounding may carry into one bit more than a significand has.
    if m = Nat.pow 2 p.bits then ofPair negative (Nat.pow 2 (p.bits - 1)) (e + 1) else ofPair negative m e

/-- The value nearest to `m * 10 ^ e`. A number of more than 400 places before the point is beyond
both formats, and one that begins more than 400 places after it is nearest to zero. -/
def ofDecimal (negative : Bool) (m : Nat) (e : Int) : Binary p :=
  if m = 0 then zero negative
  else
    -- The logarithm of `m`, nearly: that of 2 is a little below `0.30103`.
    let places : Int := (Nat.log2 m * 30103 / 100000 : Nat) + e
    if 400 < places then .infinite negative
    else if places < -400 then zero negative
    else if 0 ≤ e then ofRatio negative (m * Nat.pow 10 e.toNat) 1
    else ofRatio negative m (Nat.pow 10 (-e).toNat)

/-- The numerator and denominator of a finite number. -/
def ratio (m : Nat) (e : Int) : Nat × Nat :=
  if 0 ≤ e then (m * Nat.pow 2 e.toNat, 1) else (m, Nat.pow 2 (-e).toNat)

/-- Whether two values are the same number: the zeros are, and what is not a number is the same as
nothing. -/
def same : Binary p → Binary p → Bool
  | nan, _ | _, nan => false
  | infinite s, infinite t => s == t
  | finite s m e _, finite t n f _ => m == n && e == f && (s == t || m == 0)
  | _, _ => false

/-- The value of the wider format for a value of the narrower. -/
def widen : Binary .single → Binary .double
  | nan => nan
  | infinite s => infinite s
  | finite s m e _ => ofRatio s (ratio m e).1 (ratio m e).2

end Binary

end TypedRoutes.Number
