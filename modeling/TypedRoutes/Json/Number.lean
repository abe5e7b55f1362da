import TypedRoutes.Json.Reader
/-!
# Numbers in JSON

A number without a point or an exponent is an integer, if 64 bits hold it with its sign; any other is
a float. The float is made in two steps, each rounded: the leading digits, as many as 64 bits hold,
and then their product with a power of ten or the quotient by one.
-/
namespace TypedRoutes.Json
open Number

/-- The greatest integer of 64 bits. -/
def wordMax : Nat := 18446744073709551615

/-- The greatest exponent that is counted. -/
def exponentMax : Nat := 2147483647

/-- Takes digits behind the number `n` for as long as the limit holds: the number, and the digits
that are left. -/
def accumulate (limit n : Nat) : List Char → Nat × List Char
  | [] => (n, [])
  | c :: cs =>
    let m := 10 * n + (c.toNat - '0'.toNat)
    if m ≤ limit then accumulate limit m cs else (n, c :: cs)

/-- The greatest power of ten that is a factor of one step. -/
def stepPower : Nat := 308

/-- The product of a float with a ratio, rounded. -/
def scaleFloat (x : Binary .double) (n d : Nat) : Binary .double :=
  match x with
  | .finite s m e _ =>
    let (a, b) := Binary.ratio m e
    Binary.ofRatio s (a * n) (b * d)
  | x => x

/-- The numerator and denominator of the float nearest to a power of ten. -/
def powerRatio (k : Nat) : Nat × Nat :=
  match (Binary.ofRatio false (Nat.pow 10 k) 1 : Binary .double) with
  | .finite _ m e _ => Binary.ratio m e
  | _ => (1, 1)

/-- Divides a float by a power of ten, in steps; `fuel` bounds their number. -/
def divideByPower : Nat → Binary .double → Nat → Binary .double
  | 0, x, _ => x
  | fuel + 1, x, k =>
    if k ≤ stepPower then scaleFloat x (powerRatio k).2 (powerRatio k).1
    else divideByPower fuel (scaleFloat x (powerRatio stepPower).2 (powerRatio stepPower).1)
      (k - stepPower)

/-- The float of a number of at most 64 bits times a power of ten, if it is within range. -/
def floatOfParts? (n : Nat) (e : Int) : Option (Binary .double) :=
  let x : Binary .double := Binary.ofRatio false n 1
  if e < 0 then some (divideByPower 8 x (-e).toNat)
  else if e.toNat ≤ stepPower then
    match scaleFloat x (powerRatio e.toNat).1 (powerRatio e.toNat).2 with
    | .infinite _ => none
    | y => some y
  else if n = 0 then some x
  else none

def withSign (negative : Bool) (x : Binary .double) : Binary .double :=
  match x with
  | .finite _ m e h => .finite negative m e h
  | .infinite _ => .infinite negative
  | .nan => .nan

namespace Reader

/-- The float of parts that have been read. -/
def finishFloat (negative : Bool) (n : Nat) (e : Int) : Reader Found :=
  match floatOfParts? n e with
  | some x => return .float (withSign negative x)
  | none => fail .numberOutOfRange

def exponent (negative : Bool) (n : Nat) (e : Int) : Reader Found := do
  eat
  let sign ← peek
  if sign = some '+' ∨ sign = some '-' then eat
  match ← next with
  | none => fail .endInValue
  | some c =>
    if ¬ c.isDigit then fail .invalidNumber
    else do
      let start ← get
      let ds ← digits
      let (k, left) := accumulate exponentMax (c.toNat - '0'.toNat) ds
      if left.isEmpty then finishFloat negative n (if sign = some '-' then e - k else e + k)
      else if n ≠ 0 ∧ sign ≠ some '-' then do
        set (start.advanceBy (ds.length - left.length + 1))
        fail .numberOutOfRange
      else return .float (Binary.zero negative)

/-- Reads what may follow the digits of a float: an exponent. -/
def exponent? (negative : Bool) (n : Nat) (e : Int) : Reader Found := do
  match ← peek with
  | some 'e' | some 'E' => exponent negative n e
  | _ => finishFloat negative n e

/-- Reads a point, the digits after it and an exponent. -/
def fraction (negative : Bool) (n : Nat) (e : Int) : Reader Found := do
  eat
  let ds ← digits
  if ds.isEmpty then
    match ← peek with
    | some _ => failNext .invalidNumber
    | none => failNext .endInValue
  else
    let (m, left) := accumulate wordMax n ds
    exponent? negative m (e - (ds.length - left.length : Nat))

/-- An integer, or the float of one that is out of range. A negative zero is a float. -/
def finishInteger (negative : Bool) (n : Nat) : Reader Found :=
  if ¬ negative then return .integer n
  else if n = 0 ∨ 9223372036854775808 < n then finishFloat true n 0
  else return .integer (-(n : Int))

/-- Reads what follows the integer digits. -/
def afterDigits (negative : Bool) (ds : List Char) : Reader Found := do
  let (n, left) := accumulate wordMax 0 ds
  match ← peek with
  | some '.' => fraction negative n left.length
  | some 'e' | some 'E' => exponent negative n left.length
  | _ => if left.isEmpty then finishInteger negative n else finishFloat negative n left.length

def number (negative : Bool) : Reader Found := do
  match ← next with
  | none => fail .endInValue
  | some '0' => do
    match ← peek with
    | some c => if c.isDigit then failNext .invalidNumber else afterDigits negative ['0']
    | none => afterDigits negative ['0']
  | some c =>
    if c.isDigit then do
      let ds ← digits
      afterDigits negative (c :: ds)
    else fail .invalidNumber

/-! ## Numbers that are passed over -/

def skipExponent : Reader Unit := do
  eat
  let sign ← peek
  if sign = some '+' ∨ sign = some '-' then eat
  match ← next with
  | none => fail .invalidNumber
  | some c => if c.isDigit then discard digits else fail .invalidNumber

/-- Passes over a fraction and an exponent. -/
def skipFraction : Reader Unit := do
  match ← peek with
  | some '.' => do
    eat
    let ds ← digits
    if ds.isEmpty then failNext .invalidNumber
    match ← peek with
    | some 'e' | some 'E' => skipExponent
    | _ => return
  | some 'e' | some 'E' => skipExponent
  | _ => return

def skipNumber : Reader Unit := do
  match ← next with
  | none => fail .invalidNumber
  | some '0' => do
    match ← peek with
    | some c => if c.isDigit then failNext .invalidNumber else skipFraction
    | none => return
  | some c =>
    if c.isDigit then do
      discard digits
      skipFraction
    else fail .invalidNumber

end Reader

end TypedRoutes.Json
