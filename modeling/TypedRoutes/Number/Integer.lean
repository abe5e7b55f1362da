import TypedRoutes.Number.Digits
/-!
# Fixed-width integers

The seven integer kinds are ranges of the integers, and a value of a kind is an integer within its
range. A text is read from left to right: a sign, then digits, each of which either extends the
number or shows it to lie outside the range. So of two faults in a text the one further left is
reported.
-/
namespace TypedRoutes.Number

/-- The integer kinds: the signed ones of two, four and eight bytes, the unsigned ones of the same
widths, and the single byte. -/
inductive IntegerKind where
  | short | int | long | ushort | uint | ulong | byte
  deriving DecidableEq, Repr

namespace IntegerKind

def min : IntegerKind → Int
  | short => -32768
  | int => -2147483648
  | long => -9223372036854775808
  | ushort | uint | ulong | byte => 0

def max : IntegerKind → Int
  | short => 32767
  | int => 2147483647
  | long => 9223372036854775807
  | ushort => 65535
  | uint => 4294967295
  | ulong => 18446744073709551615
  | byte => 255

/-- Whether a kind has negative integers. -/
def isSigned : IntegerKind → Bool
  | short | int | long => true
  | ushort | uint | ulong | byte => false

/-- The integers of a kind. -/
abbrev Value (k : IntegerKind) : Type :=
  { n : Int // k.min ≤ n ∧ n ≤ k.max }

end IntegerKind

/-- Why a text is no integer of a kind. -/
inductive IntegerFault where
  | empty
  | invalidDigit
  | tooLarge
  | tooSmall
  deriving DecidableEq, Repr

def IntegerFault.message : IntegerFault → String
  | empty => "cannot parse integer from empty string"
  | invalidDigit => "invalid digit found in string"
  | tooLarge => "number too large to fit in target type"
  | tooSmall => "number too small to fit in target type"

/-- Reads digits after the number `n`, up to the limit; `beyond` is the fault of a number above
it. -/
def readUpTo (limit : Nat) (beyond : IntegerFault) (n : Nat) : List Char → Except IntegerFault Nat
  | [] => .ok n
  | c :: cs =>
    match digitValue? c with
    | none => .error .invalidDigit
    | some d =>
      if 10 * n + d ≤ limit then readUpTo limit beyond (10 * n + d) cs else .error beyond

/-- Reads at least one digit, up to the limit. -/
def readMagnitude (limit : Nat) (beyond : IntegerFault) (cs : List Char) :
    Except IntegerFault Nat :=
  if cs.isEmpty then .error .invalidDigit else readUpTo limit beyond 0 cs

namespace IntegerKind

/-- An integer as a value of a kind. -/
def value? (k : IntegerKind) (n : Int) : Option k.Value :=
  if h : k.min ≤ n ∧ n ≤ k.max then some ⟨n, h⟩ else none

def read (k : IntegerKind) (cs : List Char) : Except IntegerFault k.Value := do
  let n : Int ←
    match cs with
    | [] => .error .empty
    | '-' :: ds =>
      if k.isSigned then (fun (n : Nat) => -(n : Int)) <$> readMagnitude (-k.min).toNat .tooSmall ds
      else .error .invalidDigit
    | '+' :: ds => Int.ofNat <$> readMagnitude k.max.toNat .tooLarge ds
    | ds => Int.ofNat <$> readMagnitude k.max.toNat .tooLarge ds
  match k.value? n with
  | some v => .ok v
  | none => .error .tooLarge

end IntegerKind

def integerText (n : Int) : List Char :=
  if n < 0 then '-' :: digits n.natAbs else digits n.natAbs

end TypedRoutes.Number
