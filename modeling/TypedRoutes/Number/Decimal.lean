import TypedRoutes.Number.Integer
/-!
# Decimals of 96 bits

A decimal is a sign, a mantissa below 2^96 and a scale of at most 28, the number of digits after the
point. The scale is part of the value's text, so `1.50` and `1.5` are written apart; as numbers they
are the same.

A text may hold more digits than fit. Digits after the point beyond the capacity are dropped, and
the first of them rounds, a half upwards; digits before the point are never dropped. An exponent
moves the point once the digits are read.
-/
namespace TypedRoutes.Number

/-- The bound on the mantissa of a decimal. -/
def mantissaLimit : Nat := 79228162514264337593543950336

/-- The number `mantissa / 10 ^ scale`. -/
structure Magnitude where
  mantissa : Nat
  scale : Nat
  mantissa_lt : mantissa < mantissaLimit
  scale_le : scale ≤ 28
  deriving DecidableEq

/-- A magnitude with a sign. -/
structure Decimal extends Magnitude where
  negative : Bool
  deriving DecidableEq

/-- Why a text is no decimal. -/
inductive DecimalFault where
  | empty
  | noDigits
  | leadingSeparator
  | unknownCharacter
  | secondPoint
  | tooManyDigits
  | roundedTooLarge
  | exponent
  | scaleTooLarge (scale : Nat)
  | tooLarge
  deriving DecidableEq, Repr

def DecimalFault.message : DecimalFault → String
  | empty => "Invalid decimal: empty"
  | noDigits => "Invalid decimal: no digits found"
  | leadingSeparator => "Invalid decimal: must start lead with a number"
  | unknownCharacter => "Invalid decimal: unknown character"
  | secondPoint => "Invalid decimal: two decimal points"
  | tooManyDigits => "Invalid decimal: overflow from too many digits"
  | roundedTooLarge => "Invalid decimal: overflow from mantissa after rounding"
  | exponent => "Failed to parse"
  | scaleTooLarge scale => s!"Scale exceeds the maximum precision allowed: {scale} > 28"
  | tooLarge => "Number exceeds maximum value that can be represented."

namespace Magnitude

def zero : Magnitude :=
  ⟨0, 0, by decide, by decide⟩

/-- The magnitude one unit in the last place higher. A mantissa at its bound gives up one digit of
the scale, if there is one. -/
def roundUp (x : Magnitude) : Except DecimalFault Magnitude :=
  if h : x.mantissa + 1 < mantissaLimit then .ok { x with mantissa := x.mantissa + 1, mantissa_lt := h }
  else if x.scale = 0 then .error .roundedTooLarge
  else
    .ok
      { mantissa := (x.mantissa + 5) / 10
        scale := x.scale - 1
        mantissa_lt := by have := x.mantissa_lt; unfold mantissaLimit at *; omega
        scale_le := by have := x.scale_le; omega }

/-- The fault of a character that cannot stand where it does. -/
def misplaced (c : Char) : DecimalFault :=
  if c = '.' then .secondPoint else if c = '_' then .leadingSeparator else .unknownCharacter

/-- Digits that are dropped may be any, with separators among them. -/
def dropped : List Char → Except DecimalFault Unit
  | [] => .ok ()
  | c :: cs => if c.isDigit ∨ c = '_' then dropped cs else .error (misplaced c)

/-- The bound on a mantissa that one more digit leaves within the words of 64 bits, and some room. -/
def narrowLimit : Nat := 1844674407370954906

/-- Whether the mantissa was narrow before its last digit was read. -/
def isNarrow (x : Magnitude) : Bool :=
  x.mantissa / 10 < narrowLimit

/-- Ends the reading of a magnitude that takes no more digits: the next digit rounds, a half upwards, and
whatever follows is dropped. A separator stands for no digit if the mantissa is narrow, and for nothing
otherwise. -/
def finish (x : Magnitude) : List Char → Except DecimalFault Magnitude
  | [] => .ok x
  | c :: cs =>
    if c = '_' ∧ ¬ x.isNarrow then x.finish cs
    else if c = '_' then do
      dropped cs
      return x
    else
      match digitValue? c with
      | some d => do
        let y ← if 5 ≤ d then x.roundUp else .ok x
        dropped cs
        return y
      | none => .error (misplaced c)

/-- Reads on after the digits of `x`. `point` tells whether the point has been read, `started`
whether any digit has. -/
def readFrom (point started : Bool) (x : Magnitude) : List Char → Except DecimalFault Magnitude
  | [] => if started then .ok x else .error .noDigits
  | c :: cs =>
    if full : point ∧ x.scale = 28 then x.finish (c :: cs)
    else
      match digitValue? c with
      | some d =>
        if h : 10 * x.mantissa + d < mantissaLimit then
          readFrom point true
            { mantissa := 10 * x.mantissa + d
              scale := if point then x.scale + 1 else x.scale
              mantissa_lt := h
              scale_le := by have := x.scale_le; split <;> simp_all; omega } cs
        else if point then x.finish (c :: cs)
        else .error .tooManyDigits
      | none =>
        if c = '.' ∧ ¬ point then readFrom true started x cs
        else if c = '_' ∧ started then readFrom point started x cs
        else .error (misplaced c)

/-- The mantissa without its last `k` digits, rounded by the first of them, a half upwards. -/
def dropDigits (m k : Nat) : Nat :=
  if k = 0 then m else (m / Nat.pow 10 (k - 1) + 5) / 10

/-- The magnitude divided by `10 ^ k`, in as many places as the scale has. -/
def shiftDown (x : Magnitude) (k : Nat) : Except DecimalFault Magnitude :=
  if h : k ≤ 28 then
    if hs : x.scale + k ≤ 28 then .ok { x with scale := x.scale + k, scale_le := hs }
    else
      .ok
        { mantissa := dropDigits x.mantissa (x.scale + k - 28)
          scale := 28
          mantissa_lt := by
            have hm := x.mantissa_lt
            have hd := Nat.div_le_self x.mantissa (Nat.pow 10 (x.scale + k - 28 - 1))
            unfold dropDigits
            unfold mantissaLimit at *
            split <;> omega
          scale_le := by decide }
  else .error (.scaleTooLarge k)

/-- The magnitude multiplied by `10 ^ k`. -/
def shiftUp (x : Magnitude) (k : Nat) : Except DecimalFault Magnitude :=
  if k ≤ x.scale then
    .ok { x with scale := x.scale - k, scale_le := by have := x.scale_le; omega }
  else if 28 < k then .error (.scaleTooLarge k)
  else if h : x.mantissa * Nat.pow 10 (k - x.scale) < mantissaLimit then
    .ok ⟨x.mantissa * Nat.pow 10 (k - x.scale), 0, h, by decide⟩
  else .error .tooLarge

end Magnitude

namespace Decimal

/-- Reads a decimal with no exponent. A zero has no sign. -/
def readPlain (cs : List Char) : Except DecimalFault Decimal :=
  match cs with
  | [] => .error .empty
  | '-' :: ds => do
    let x ← Magnitude.readFrom false false .zero ds
    .ok { x with negative := x.mantissa ≠ 0 }
  | '+' :: ds => do
    let x ← Magnitude.readFrom false false .zero ds
    .ok { x with negative := false }
  | ds => do
    let x ← Magnitude.readFrom false false .zero ds
    .ok { x with negative := false }

/-- Reads an exponent's digits. -/
def readExponent (cs : List Char) : Except DecimalFault Nat :=
  match IntegerKind.uint.read cs with
  | .ok n => .ok n.val.toNat
  | .error _ => .error .exponent

def isExponentMark (c : Char) : Bool :=
  c == 'e' || c == 'E'

/-- Reads a decimal, with or without an exponent. A zero that comes of moving the point keeps its
sign. -/
def read (cs : List Char) : Except DecimalFault Decimal :=
  match cs.dropWhile (! isExponentMark ·) with
  | [] => readPlain cs
  | _ :: exponent => do
    let x ← readPlain (cs.takeWhile (! isExponentMark ·))
    match exponent with
    | '-' :: ds => do
      let y ← x.shiftDown (← readExponent ds)
      .ok { y with negative := x.negative }
    | ds => do
      let y ← x.shiftUp (← readExponent ds)
      .ok { y with negative := x.negative }

/-- The text of a decimal: as many digits after the point as the scale says. -/
def text (x : Decimal) : List Char :=
  let ds := padded (x.scale + 1) x.mantissa
  let body :=
    if x.scale = 0 then ds
    else ds.take (ds.length - x.scale) ++ '.' :: ds.drop (ds.length - x.scale)
  if x.negative then '-' :: body else body

/-- The mantissa with the sign of the decimal. -/
def signedMantissa (x : Decimal) : Int :=
  if x.negative then -(x.mantissa : Int) else x.mantissa

/-- Whether two decimals are the same number, whatever their scales. -/
def same (x y : Decimal) : Bool :=
  x.signedMantissa * (Nat.pow 10 y.scale : Nat) == y.signedMantissa * (Nat.pow 10 x.scale : Nat)

end Decimal

end TypedRoutes.Number
