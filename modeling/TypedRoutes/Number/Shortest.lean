import TypedRoutes.Number.Binary
import TypedRoutes.Number.Digits
/-!
# Shortest digits

The decimal that a binary number is written as: of the decimals with the fewest digits that read back
as the number, the nearest one; of two equally near a rule for ties decides. On a grid of decimals with a given
number of digits only the two neighbours of the number need be tried, since all decimals that read
back lie together around it.
-/
namespace TypedRoutes.Number

/-- The number `digits * 10 ^ exponent`. -/
structure Scientific where
  digits : Nat
  exponent : Int
  deriving DecidableEq, Repr

/-- The ratio `n / d` divided by `10 ^ e`, again as a ratio. -/
def scaleDownTen (n d : Nat) (e : Int) : Nat × Nat :=
  if 0 ≤ e then (n, d * Nat.pow 10 e.toNat) else (n * Nat.pow 10 (-e).toNat, d)

/-- The greatest `k` with `10 ^ k ≤ n / d`. -/
def decimalExponent (n d : Nat) : Int :=
  let k : Int := ((digits n).length : Int) - ((digits d).length : Int)
  let (a, b) := scaleDownTen n d k
  if b ≤ a then k else k - 1

namespace Scientific

/-- The same number with no zero at the end of its digits. `fuel` bounds the zeros taken off. -/
def trimZeros : Nat → Scientific → Scientific
  | 0, x => x
  | fuel + 1, x =>
    if x.digits % 10 = 0 then trimZeros fuel ⟨x.digits / 10, x.exponent + 1⟩ else x

/-- The power of ten of the first digit. -/
def leading (x : Scientific) : Int :=
  x.exponent + ((Number.digits x.digits).length : Int) - 1

end Scientific

/-- Which of two equally near decimals is taken: the greater one, or the one with an even last
digit. -/
inductive Tie where
  | up | even
  deriving DecidableEq, Repr

/-- Whether the lower of two neighbours is taken. They are `q` and `q + 1` units, and the number is
`r / d` units above the lower. -/
def Tie.takesLower (tie : Tie) (q r d : Nat) : Bool :=
  match tie with
  | up => 2 * r < d
  | even => 2 * r < d || (2 * r == d && q % 2 == 0)

namespace Binary
variable {p : Precision}

/-- Whether a decimal reads back as a value. -/
def readsBack (x : Binary p) (negative : Bool) (s : Scientific) : Bool :=
  ofDecimal negative s.digits s.exponent == x

/-- The better of the two neighbours of `n / d` among the multiples of `10 ^ e`, if either reads
back as `x`. -/
def neighbour? (tie : Tie) (x : Binary p) (negative : Bool) (n d : Nat) (e : Int) : Option Scientific :=
  let (a, b) := scaleDownTen n d e
  let below : Scientific := ⟨a / b, e⟩
  let above : Scientific := ⟨a / b + 1, e⟩
  match readsBack x negative below, readsBack x negative above with
  | true, true => some (if tie.takesLower (a / b) (a % b) b then below else above)
  | true, false => some below
  | false, true => some above
  | false, false => none

/-- The first grid with a neighbour that reads back, from `count` digits on and over at most `fuel`
grids; after them the number written out in full. -/
def shortestFrom (tie : Tie) (x : Binary p) (negative : Bool) (m : Nat) (e : Int) (count : Nat) :
    Nat → Scientific
  | 0 => if 0 ≤ e then ⟨m * Nat.pow 2 e.toNat, 0⟩ else ⟨m * Nat.pow 5 (-e).toNat, e⟩
  | fuel + 1 =>
    let (n, d) := ratio m e
    match neighbour? tie x negative n d (decimalExponent n d - (count : Int) + 1) with
    | some s => s
    | none => shortestFrom tie x negative m e (count + 1) fuel

/-- The shortest decimal of a finite number other than zero. -/
def shortest (tie : Tie) (negative : Bool) (m : Nat) (e : Int) (h : p.Canonical m e) : Scientific :=
  (shortestFrom tie (finite negative m e h) negative m e 1 p.decimalDigits).trimZeros 20

end Binary

end TypedRoutes.Number
