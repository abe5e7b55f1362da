import TypedRoutes.Number.Decimal
import TypedRoutes.Proofs.Number.Integer
/-!
# Decimals read back

`Decimal.read_text`: the text of a decimal is read as the decimal again, digit for digit and with its scale. Only
a zero with a sign loses it (`Decimal.settled`), which is the same number (`Decimal.same_settled`).
-/
namespace TypedRoutes.Number

/-! ## Reading digits -/

namespace Magnitude

theorem eq_of {x y : Magnitude} (hm : x.mantissa = y.mantissa) (hs : x.scale = y.scale) : x = y := by
  cases x; cases y; simp_all

/-- One digit is read: the magnitude grows by it, and by a place if the point has been read. -/
theorem readFrom_digit {point started : Bool} {x y : Magnitude} {c : Char} {cs : List Char}
    (hc : c.isDigit = true) (hm : y.mantissa = 10 * x.mantissa + (c.toNat - '0'.toNat))
    (hs : y.scale = x.scale + if point then 1 else 0) :
    readFrom point started x (c :: cs) = readFrom point true y cs := by
  have hfull : ¬ (point = true ∧ x.scale = 28) := by
    rintro ⟨rfl, h28⟩
    have := y.scale_le
    simp only [if_true] at hs
    omega
  have hlt : 10 * x.mantissa + (c.toNat - '0'.toNat) < mantissaLimit := hm ▸ y.mantissa_lt
  rw [readFrom, dif_neg hfull]
  simp only [digitValue?_of_isDigit hc, dif_pos hlt]
  congr 1
  refine eq_of hm.symm ?_
  rw [hs]
  cases point <;> simp

/-- A run of digits is read: the magnitude grows by all of them. No part of the run gives more than the whole, so it is
within the limits if the whole is. -/
theorem readFrom_digits {point started : Bool} {x y : Magnitude} {cs rest : List Char} (hd : AllDigits cs)
    (hst : started = true ∨ cs ≠ []) (hm : y.mantissa = ofDigitsFrom x.mantissa cs)
    (hs : y.scale = x.scale + if point then cs.length else 0) :
    readFrom point started x (cs ++ rest) = readFrom point true y rest := by
  induction cs generalizing x started with
  | nil =>
    obtain rfl : started = true := by simpa using hst
    rw [List.nil_append, eq_of (x := y) (y := x) hm (by rw [hs]; cases point <;> rfl)]
  | cons c cs ih =>
    have hlt : 10 * x.mantissa + (c.toNat - '0'.toNat) < mantissaLimit := by
      have hle := le_ofDigitsFrom (10 * x.mantissa + (c.toNat - '0'.toNat)) cs
      have hy := y.mantissa_lt
      rw [hm, ofDigitsFrom_cons] at hy
      omega
    have hsc : x.scale + (if point then 1 else 0) ≤ 28 := by
      have hy := y.scale_le
      rw [hs] at hy
      cases point <;> simp_all
      omega
    rw [List.cons_append, readFrom_digit (y := ⟨_, _, hlt, hsc⟩) (hd c (by simp)) rfl rfl]
    refine ih (fun d hd' => hd d (by simp [hd'])) (.inl rfl) hm ?_
    rw [hs]
    cases point <;> simp
    omega

theorem readFrom_point {x : Magnitude} {cs : List Char} :
    readFrom false true x ('.' :: cs) = readFrom true true x cs := by
  rw [readFrom, dif_neg (by simp)]
  simp [digitValue?]

theorem readFrom_nil {point : Bool} {x : Magnitude} : readFrom point true x [] = .ok x := by
  rw [readFrom, if_pos rfl]

end Magnitude

namespace Decimal

/-- The text of a decimal without its sign. -/
def body (x : Decimal) : List Char :=
  let ds := padded (x.scale + 1) x.mantissa
  if x.scale = 0 then ds else ds.take (ds.length - x.scale) ++ '.' :: ds.drop (ds.length - x.scale)

theorem text_eq (x : Decimal) : x.text = if x.negative then '-' :: x.body else x.body := rfl

theorem body_cases (x : Decimal) :
    (x.scale = 0 ∧ x.body = padded 1 x.mantissa) ∨ x.body = pointed x.mantissa x.scale := by
  by_cases hs : x.scale = 0
  · exact .inl ⟨hs, by rw [body, if_pos hs, hs]⟩
  · exact .inr (by rw [body, if_neg hs]; rfl)

/-- The magnitude of a decimal is read back from its text: where it has a point, a smaller one without a place from the
digits before it, and the rest from those behind it. -/
theorem readFrom_body (x : Decimal) : Magnitude.readFrom false false .zero x.body = .ok x.toMagnitude := by
  rcases body_cases x with ⟨hs, hb⟩ | hb
  · have h : Magnitude.readFrom false false .zero (padded 1 x.mantissa ++ []) =
        Magnitude.readFrom false true x.toMagnitude [] :=
      Magnitude.readFrom_digits (allDigits_padded 1 x.mantissa) (.inr (padded_ne_nil _ _))
        (ofDigits_padded 1 x.mantissa).symm (by rw [hs]; rfl)
    rw [List.append_nil] at h
    rw [hb, h, Magnitude.readFrom_nil]
  · obtain ⟨whole, fraction, he, hw, hf, hne, hlen, hval⟩ := pointed_eq x.mantissa x.scale
    have hval' : ofDigitsFrom (ofDigits whole) fraction = x.mantissa := by
      rw [← hval, ofDigits_eq, ofDigits_eq, ofDigitsFrom_append]
    have hlt : ofDigits whole < mantissaLimit := by
      have := le_ofDigitsFrom (ofDigits whole) fraction
      have := x.mantissa_lt
      omega
    have h : Magnitude.readFrom false false .zero (whole ++ '.' :: fraction) =
        Magnitude.readFrom false true ⟨ofDigits whole, 0, hlt, by decide⟩ ('.' :: fraction) :=
      Magnitude.readFrom_digits hw (.inr hne) rfl rfl
    have h' : Magnitude.readFrom true true ⟨ofDigits whole, 0, hlt, by decide⟩ (fraction ++ []) =
        Magnitude.readFrom true true x.toMagnitude [] :=
      Magnitude.readFrom_digits hf (.inl rfl) hval'.symm (by simp [hlen])
    rw [List.append_nil] at h'
    rw [hb, he, h, Magnitude.readFrom_point, h', Magnitude.readFrom_nil]

/-! ## The text of a decimal -/

theorem mem_body {x : Decimal} {c : Char} (h : c ∈ x.body) : c.isDigit = true ∨ c = '.' := by
  rcases body_cases x with ⟨-, hb⟩ | hb
  · exact .inl (allDigits_padded _ _ c (hb ▸ h))
  · exact mem_pointed (hb ▸ h)

/-- The characters of a decimal's text. -/
theorem mem_text {x : Decimal} {c : Char} (h : c ∈ x.text) : c.isDigit = true ∨ c = '.' ∨ c = '-' := by
  rw [text_eq] at h
  split at h
  · rcases List.mem_cons.1 h with rfl | h
    · exact .inr (.inr rfl)
    · exact (mem_body h).imp_right .inl
  · exact (mem_body h).imp_right .inl

/-- The text of a decimal begins with a digit, after its sign. -/
theorem body_eq_cons (x : Decimal) : ∃ c cs, x.body = c :: cs ∧ c.isDigit = true := by
  rcases body_cases x with ⟨-, hb⟩ | hb
  · rw [hb]
    exact (allDigits_padded 1 x.mantissa).eq_cons (padded_ne_nil 1 x.mantissa)
  · rw [hb]
    exact pointed_eq_cons x.mantissa x.scale

theorem text_ne_nil (x : Decimal) : x.text ≠ [] := by
  obtain ⟨c, cs, hb, -⟩ := body_eq_cons x
  rw [text_eq, hb]
  split <;> simp

/-! ## Reading it back -/

/-- The decimal with no sign if it is zero. -/
def settled (x : Decimal) : Decimal :=
  { x with negative := x.negative && decide (x.mantissa ≠ 0) }

theorem readPlain_text (x : Decimal) : readPlain x.text = .ok x.settled := by
  rw [text_eq]
  have hr := readFrom_body x
  cases hn : x.negative with
  | true => simp [readPlain, hr, bind, Except.bind, settled, hn]
  | false =>
    obtain ⟨c, cs, hb, hc⟩ := body_eq_cons x
    obtain ⟨hminus, hplus⟩ := ne_sign_of_isDigit hc
    rw [hb] at hr
    rw [if_neg (by simp), hb, readPlain]
    · simp [hr, bind, Except.bind, settled, hn]
    · exact List.cons_ne_nil c cs
    · rintro ds ⟨⟩
      exact hminus rfl
    · rintro ds ⟨⟩
      exact hplus rfl

/-- A decimal is read back from its text, but for the sign of a zero. -/
theorem read_text (x : Decimal) : read x.text = .ok x.settled := by
  have hmark : x.text.dropWhile (! isExponentMark ·) = [] := by
    rw [List.dropWhile_eq_nil_iff]
    intro c hc
    rcases mem_text hc with h | rfl | rfl
    · have hne : c ≠ 'e' ∧ c ≠ 'E' := by constructor <;> rintro rfl <;> cases h
      simp [isExponentMark, hne]
    · rfl
    · rfl
  rw [read, hmark]
  exact readPlain_text x

@[simp] theorem settled_signedMantissa (x : Decimal) : x.settled.signedMantissa = x.signedMantissa := by
  by_cases h : x.mantissa = 0
  · simp [settled, signedMantissa, h]
  · simp [settled, signedMantissa, h]

/-- A zero with a sign is the same number as one without. -/
theorem same_settled (x : Decimal) : x.same x.settled = true := by
  rw [same, settled_signedMantissa]
  simp [settled]

/-- Decimals that differ in the sign of a zero only are the same number. -/
theorem same_of_settled {x y : Decimal} (h : x.settled = y.settled) : x.same y = true := by
  have hm : x.signedMantissa = y.signedMantissa := by
    rw [← settled_signedMantissa x, ← settled_signedMantissa y, h]
  have hs : x.scale = y.scale := congrArg (fun z => z.scale) h
  rw [same, hm, hs, beq_self_eq_true]

theorem settled_eq_self {x : Decimal} (h : ¬ (x.negative = true ∧ x.mantissa = 0)) : x.settled = x := by
  cases x with
  | mk m n =>
    by_cases hm : m.mantissa = 0 <;> simp_all [settled]

@[simp] theorem settled_settled (x : Decimal) : x.settled.settled = x.settled := by
  simp [settled]

end Decimal

end TypedRoutes.Number
