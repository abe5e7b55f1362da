import TypedRoutes.Value.Basic
import TypedRoutes.Proofs.Calendar.Layout
import TypedRoutes.Proofs.Number.Decimal
import TypedRoutes.Proofs.Number.FloatText
import TypedRoutes.Proofs.Text.Percent
/-!
# Scalars read back

`Scalar.read_plain`: the plain text of a scalar is read at its type as the scalar again, but for the sign of a decimal
zero (`Scalar.settled`), so as the same value unless it is no number (`Value.read_plain_same`). Only a text can be
written as nothing (`Scalar.plain_ne_nil`), and only texts and characters can hold a mark
(`Scalar.not_mark_of_mem_plain`).
-/
namespace TypedRoutes
open Number Text Calendar

namespace Scalar

/-- The scalar with no sign on a decimal zero. -/
def settled : Scalar → Scalar
  | decimal x => decimal x.settled
  | s => s

/-- Whether a scalar is a decimal zero with a sign. -/
def isSignedZero : Scalar → Bool
  | decimal x => x.negative && decide (x.mantissa = 0)
  | _ => false

/-- Whether a scalar is a float that is not a number. -/
def isNan : Scalar → Bool
  | float _ .nan => true
  | _ => false

/-- Whether two scalars are the same value, where what is not a number is the same as itself. -/
def alike (s t : Scalar) : Bool :=
  s.same t || (s.isNan && decide (s = t))

/-! ## Reading back -/

theorem readBoolean_plain (b : Bool) : readBoolean (boolean b).plain = .ok b := by
  cases b <;> rfl

/-- A scalar is read back from its plain text, but for the sign of a decimal zero. -/
theorem read_plain (s : Scalar) : read s.type s.plain = .ok s.settled := by
  cases s with
  | text s => simp [read, type, plain, settled]
  | decimal x => simp [read, type, plain, settled, Decimal.read_text, Except.mapError, Except.map]
  | float p x => simp [read, type, plain, settled, Binary.read_plain, Except.mapError, Except.map]
  | integer k n => simp [read, type, plain, settled, IntegerKind.read_integerText, Except.mapError, Except.map]
  | boolean b => simp [read, type, settled, readBoolean_plain, Except.map]
  | dateTime t => simp [read, type, plain, settled, DateTime.read_text]
  | char c => rfl

/-! ## The characters of a plain text -/

/-- Only a text is written as nothing. -/
theorem plain_ne_nil {s : Scalar} (h : s.type ≠ .text) : s.plain ≠ [] := by
  cases s with
  | text s => exact absurd rfl h
  | decimal x => exact x.text_ne_nil
  | float p x => exact x.plain_ne_nil
  | integer k n => exact integerText_ne_nil n.val
  | boolean b => cases b <;> exact List.cons_ne_nil _ _
  | dateTime t => exact t.text_ne_nil
  | char c => exact List.cons_ne_nil _ _

theorem not_mark_of_isDigit {c : Char} (h : c.isDigit = true) : c ∉ marks :=
  not_mark_of_isAlphanum (by simp [Char.isAlphanum, h])

theorem not_mark_of_isAlpha {c : Char} (h : c.isAlpha = true) : c ∉ marks :=
  not_mark_of_isAlphanum (by simp [Char.isAlphanum, h])

/-- Only texts and characters hold marks. -/
theorem not_mark_of_mem_plain {s : Scalar} (ht : s.type ≠ .text) (hc : s.type ≠ .char) {c : Char}
    (h : c ∈ s.plain) : c ∉ marks := by
  cases s with
  | text s => exact absurd rfl ht
  | char c => exact absurd rfl hc
  | decimal x =>
    rcases Decimal.mem_text h with hd | rfl | rfl
    · exact not_mark_of_isDigit hd
    · decide
    · decide
  | float p x =>
    rcases Binary.mem_plain h with hd | rfl | rfl | ha
    · exact not_mark_of_isDigit hd
    · decide
    · decide
    · exact not_mark_of_isAlpha ha
  | integer k n =>
    rcases mem_integerText h with hd | rfl
    · exact not_mark_of_isDigit hd
    · decide
  | boolean b =>
    have hletters : (boolean b).plain.all Char.isAlpha = true := by cases b <;> decide
    exact not_mark_of_isAlpha (List.all_eq_true.1 hletters c h)
  | dateTime t =>
    rcases DateTime.mem_text h with hd | rfl | rfl | rfl | rfl | rfl
    · exact not_mark_of_isDigit hd
    · decide
    · decide
    · decide
    · decide
    · decide

/-! ## Settled scalars -/

theorem settled_settled (s : Scalar) : s.settled.settled = s.settled := by
  cases s with
  | decimal x => exact congrArg decimal x.settled_settled
  | _ => rfl

theorem settled_eq_self {s : Scalar} (h : s.isSignedZero = false) : s.settled = s := by
  cases s with
  | decimal x =>
    refine congrArg decimal (Decimal.settled_eq_self ?_)
    simpa [isSignedZero] using h
  | _ => rfl

/-- A scalar and its settled form are the same value. -/
theorem alike_settled (s : Scalar) : s.alike s.settled = true := by
  cases s with
  | decimal x => simp [alike, same, settled, x.same_settled]
  | float p x =>
    cases x with
    | nan => simp [alike, settled, isNan]
    | infinite b => cases p <;> simp [alike, same, settled, Binary.same]
    | finite b m e hc => cases p <;> simp [alike, same, settled, Binary.same]
  | _ => simp [alike, same, settled]

/-- Scalars of one settled form are the same value, unless they are no number. Any scalar but a decimal is its own
settled form. -/
theorem same_of_settled {s t : Scalar} (hn : s.isNan = false) (h : s.settled = t.settled) : s.same t = true := by
  cases t with
  | decimal y =>
    cases s with
    | decimal x =>
      refine Decimal.same_of_settled ?_
      injection h
    | _ => cases h
  | _ =>
    have ha := s.alike_settled
    rw [h] at ha
    simpa [alike, hn, settled] using ha

end Scalar

/-! ## Values of a scalar type -/

namespace Value

/-- A value of a scalar type other than the floats is read back from its text at that type as the same value. It is the
value itself, unless this is a decimal zero with a sign. The text of a date-time is no stamp, and whatever layout takes
it gives the date-time. -/
theorem read_plain_same {v : Value} {type : ScalarType} (h : v.scalarType? = some type)
    (hf : ∀ p, type ≠ .float p) :
    (∃ s, Scalar.read type v.plain = .ok s ∧ v.same (.scalar s) = true ∧
      (v = .scalar s ∨ ∃ x, v = .scalar (.decimal x) ∧ x.negative = true ∧ x.mantissa = 0)) ∧
    ∀ t, v = .scalar (.dateTime t) → readStamp v.plain = none ∧
      ∀ layout ∈ layouts ++ [dateLayout], ∀ u, readLayout layout v.plain = some u → u = t := by
  cases v with
  | list items => cases h
  | scalar s =>
    obtain rfl : s.type = type := by
      injection h
    refine ⟨⟨s.settled, s.read_plain, ?_, ?_⟩, ?_⟩
    · have hn : s.isNan = false := by
        cases s with
        | float p x => exact absurd rfl (hf p)
        | _ => rfl
      exact Scalar.same_of_settled hn s.settled_settled.symm
    · by_cases hz : s.isSignedZero = true
      · cases s with
        | decimal x =>
          right
          simpa [Scalar.isSignedZero] using hz
        | _ => cases hz
      · exact .inl (congrArg Value.scalar (Scalar.settled_eq_self (by simpa using hz)).symm)
    · rintro t ⟨⟩
      exact ⟨t.readStamp_text, fun layout hl u hu => (DateTime.eq_of_readLayout_text hl hu).2⟩

/-- The leap second at the end of a June of five digits, and half a second more. -/
def leapSecond : DateTime where
  date := ⟨12345, 6, 30, by decide⟩
  time := ⟨23, 59, 60, 500000000, by decide, by decide, by decide, by decide⟩

/-- A date-time with a signed year and a leap second is read back. -/
theorem read_plain_same_leapSecond :
    (Value.scalar (.dateTime leapSecond)).scalarType? = some .dateTime ∧ (∀ p, ScalarType.dateTime ≠ .float p) ∧
    (Value.scalar (.dateTime leapSecond)).plain = "+12345-06-30T23:59:60.500".toList ∧
    Scalar.read .dateTime "+12345-06-30T23:59:60.500".toList = .ok (.dateTime leapSecond) := by
  have hf : ∀ p, ScalarType.dateTime ≠ .float p := by
    rintro p ⟨⟩
  have hplain : (Value.scalar (.dateTime leapSecond)).plain = "+12345-06-30T23:59:60.500".toList := by decide +kernel
  obtain ⟨⟨s, hread, -, hv | ⟨x, hx, -⟩⟩, -⟩ := read_plain_same (v := .scalar (.dateTime leapSecond)) rfl hf
  · injection hv with hs
    rw [hplain, ← hs] at hread
    exact ⟨rfl, hf, hplain, hread⟩
  · injection hx with hx
    cases hx

end Value

end TypedRoutes
