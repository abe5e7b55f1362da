/-!
# Texts as bytes

A text is the sequence of its UTF-8 bytes. Reading bytes back either gives the text or tells where
the first ill-formed sequence starts, and whether it is cut short by the end or by a byte that
cannot continue it.
-/
namespace TypedRoutes.Text.Utf8

def encode (s : String) : List UInt8 :=
  s.toUTF8.toList

/-- Where a byte sequence stops being UTF-8: after `start` good bytes there follow `length` bytes
that cannot be continued, or, with no length, an unfinished sequence at the end. -/
structure Fault where
  start : Nat
  length : Option Nat
  deriving DecidableEq, Repr

/-- What the first byte of a sequence promises: how many bytes follow, and the range of the first
of them. -/
def continuation? (b : UInt8) : Option (Nat × UInt8 × UInt8) :=
  if b < 0x80 then some (0, 0x80, 0xBF)
  else if 0xC2 ≤ b ∧ b ≤ 0xDF then some (1, 0x80, 0xBF)
  -- Two bytes would do for what is left out.
  else if b = 0xE0 then some (2, 0xA0, 0xBF)
  -- Surrogates are no characters.
  else if b = 0xED then some (2, 0x80, 0x9F)
  else if 0xE1 ≤ b ∧ b ≤ 0xEF then some (2, 0x80, 0xBF)
  else if b = 0xF0 then some (3, 0x90, 0xBF)
  else if 0xF1 ≤ b ∧ b ≤ 0xF3 then some (3, 0x80, 0xBF)
  else if b = 0xF4 then some (3, 0x80, 0x8F)
  else none

/-- Finds the first fault. `start` bytes were good before the sequence at hand, of which `seen` are
read; `owed` bytes are still to come, the first of them between `low` and `high`. -/
def scan (start seen owed : Nat) (low high : UInt8) : List UInt8 → Option Fault
  | [] => if owed = 0 then none else some ⟨start, none⟩
  | b :: bs =>
    match owed with
    | 0 =>
      match continuation? b with
      | none => some ⟨start, some 1⟩
      | some (0, _, _) => scan (start + 1) 0 0 0x80 0xBF bs
      | some (k + 1, lo, hi) => scan start 1 (k + 1) lo hi bs
    | k + 1 =>
      if low ≤ b ∧ b ≤ high then
        match k with
        | 0 => scan (start + seen + 1) 0 0 0x80 0xBF bs
        | k' + 1 => scan start (seen + 1) (k' + 1) 0x80 0xBF bs
      else some ⟨start, some seen⟩

/-- The first fault of a byte sequence, if it has one. -/
def fault? (bs : List UInt8) : Option Fault :=
  scan 0 0 0 0x80 0xBF bs

def decode (bs : List UInt8) : Except Fault String :=
  match String.fromUTF8? ⟨bs.toArray⟩ with
  | some s => .ok s
  | none => .error ((fault? bs).getD ⟨0, none⟩)

def Fault.message (f : Fault) : String :=
  match f.length with
  | some n => s!"invalid utf-8 sequence of {n} bytes from index {f.start}"
  | none => s!"incomplete utf-8 byte sequence from index {f.start}"

end TypedRoutes.Text.Utf8
