import TypedRoutes.Proofs.Value.Typing
import TypedRoutes.Proofs.Number.Integer
/-!
# Integers keep their value

An integer is one number, whatever kind it has. Its text is read at every kind that the number fits, as the same number
of that kind, and refused at all others with the end of the range that it is beyond; and it is a `long` or a `ulong` if
the number fits the one or the other (`Value.integer_kept`). A `ulong` is mostly made by way of a `long`, which loses
nothing, as all kinds but the `ulong` itself lie within the `long` (`Scalar.isIntegerView_ulong?`).
-/
namespace TypedRoutes
open Number

namespace Scalar
variable {s t : Scalar} {k : IntegerKind} {n : Int}

theorem integer?_eq_some_iff : s.integer? = some n ↔ ∃ k, ∃ m : k.Value, s = integer k m ∧ m.val = n := by
  constructor
  · intro h
    cases s with
    | integer k m =>
      cases h
      exact ⟨k, m, rfl, rfl⟩
    | _ => cases h
  · rintro ⟨k, m, rfl, rfl⟩
    rfl

/-! ## Reading at another kind -/

theorem read_integer_plain (h : s.integer? = some n) :
    read (.integer k) s.plain = ((k.read (integerText n)).mapError .integer).map (integer k) := by
  obtain ⟨l, v, rfl, rfl⟩ := integer?_eq_some_iff.1 h
  rfl

/-- The text of an integer is read as the same number of another kind, if the kind has it. -/
theorem read_integer_plain_eq_ok_iff (h : s.integer? = some n) :
    read (.integer k) s.plain = .ok t ↔ ∃ m : k.Value, m.val = n ∧ t = integer k m := by
  rw [read_integer_plain h]
  constructor
  · intro hread
    obtain ⟨m, hm, rfl⟩ := except_map_ok hread
    exact ⟨m, IntegerKind.read_integerText_eq_ok_iff.1 (except_mapError_ok hm), rfl⟩
  · rintro ⟨m, hm, rfl⟩
    rw [IntegerKind.read_integerText_eq_ok_iff.2 hm]
    rfl

/-- The text of an integer is refused at the kinds that do not have it, for the end that the integer is beyond. -/
theorem read_integer_plain_eq_error_iff (h : s.integer? = some n) {fault : ScalarFault} :
    read (.integer k) s.plain = .error fault ↔ ∃ f, k.Beyond n f ∧ .integer f = fault := by
  rw [read_integer_plain h, except_map_error, except_mapError_error]
  simp only [IntegerKind.read_integerText_eq_error_iff]

/-! ## Views -/

/-- A view of the scalars that are integers of a kind: what it shows is the same number. -/
def IsIntegerView (k : IntegerKind) (view : Scalar → Option k.Value) : Prop :=
  ∀ s m, view s = some m ↔ s.integer? = some m.val

namespace IsIntegerView
variable {view : Scalar → Option k.Value}

/-- A view shows an integer if it fits the kind of the view. -/
theorem map_val_eq_some_iff (hview : IsIntegerView k view) (h : s.integer? = some n) (m : Int) :
    (view s).map Subtype.val = some m ↔ m = n ∧ k.Fits n := by
  rw [Option.map_eq_some_iff]
  constructor
  · rintro ⟨v, hv, rfl⟩
    have hn : n = v.val := by simpa [h] using (hview s v).1 hv
    exact ⟨hn.symm, hn ▸ IntegerKind.fits_val v⟩
  · rintro ⟨rfl, hf⟩
    obtain ⟨v, rfl⟩ := IntegerKind.fits_iff_exists.1 hf
    exact ⟨v, (hview s v).2 h, rfl⟩

/-- A view shows the same of two scalars that are the same integer. -/
theorem congr (hview : IsIntegerView k view) (h : s.integer? = t.integer?) : view s = view t := by
  ext m
  rw [hview, hview, h]

end IsIntegerView

theorem isIntegerView_long? : IsIntegerView .long long? := by
  intro s m
  rw [long?, Option.bind_eq_some_iff]
  constructor
  · rintro ⟨n, hn, hm⟩
    rw [hn, IntegerKind.value?_eq_some_iff.1 hm]
  · intro h
    exact ⟨m.val, h, IntegerKind.value?_val m⟩

/-- Every integer of a kind other than `ulong` is a `long`. -/
theorem fits_long_of_ne_ulong (hk : k ≠ .ulong) (m : k.Value) : IntegerKind.long.Fits m.val := by
  obtain ⟨hmin, hmax⟩ := m.2
  rw [IntegerKind.fits_iff]
  cases k with
  | ulong => exact absurd rfl hk
  | _ => simp only [IntegerKind.min, IntegerKind.max] at hmin hmax ⊢; omega

theorem ulong?_eq_bind (h : s.type ≠ .integer .ulong) :
    s.ulong? = s.long?.bind fun n => IntegerKind.ulong.value? n.val := by
  unfold ulong?
  split
  · exact absurd rfl h
  · rfl

/-- Nothing is lost by way of a `long`. -/
theorem isIntegerView_ulong? : IsIntegerView .ulong ulong? := by
  intro s m
  by_cases hs : s.type = .integer .ulong
  · cases s with
    | integer k n =>
      cases hs
      simp [ulong?, integer?, Subtype.ext_iff]
    | _ => cases hs
  · rw [ulong?_eq_bind hs, Option.bind_eq_some_iff]
    simp only [isIntegerView_long? _ _, IntegerKind.value?_eq_some_iff]
    constructor
    · rintro ⟨l, hl, hm⟩
      rw [hl, hm]
    · intro h
      obtain ⟨k, v, rfl, hv⟩ := integer?_eq_some_iff.1 h
      have hk : k ≠ .ulong := fun hk => hs (congrArg ScalarType.integer hk)
      obtain ⟨l, hl⟩ := IntegerKind.fits_iff_exists.1 (fits_long_of_ne_ulong hk v)
      exact ⟨l, congrArg some hl.symm, by rw [hl, hv]⟩

end Scalar

/-! ## Integers among the values -/

namespace Value

/-- The number of an integer is kept by its text, at every kind that it fits, and by the views of the two widest kinds.
The text is refused at the kinds that the number does not fit, and the fault tells which end it is beyond. -/
theorem integer_kept {v : Value} {n : Int} (h : v.scalar?.bind Scalar.integer? = some n) (k : IntegerKind) :
    ((∃ w, Scalar.read (.integer k) v.plain = .ok w) ↔ k.Fits n) ∧
    (∀ w, Scalar.read (.integer k) v.plain = .ok w → w.type = .integer k ∧ w.integer? = some n ∧
      w.long? = v.scalar?.bind Scalar.long? ∧ w.ulong? = v.scalar?.bind Scalar.ulong?) ∧
    (∀ fault, Scalar.read (.integer k) v.plain = .error fault ↔ ∃ f, k.Beyond n f ∧ .integer f = fault) ∧
    (∀ m, (v.scalar?.bind Scalar.long?).map Subtype.val = some m ↔ m = n ∧ -2 ^ 63 ≤ n ∧ n < 2 ^ 63) ∧
    (∀ m, (v.scalar?.bind Scalar.ulong?).map Subtype.val = some m ↔ m = n ∧ 0 ≤ n ∧ n < 2 ^ 64) := by
  cases v with
  | list items => cases h
  | scalar s =>
    replace h : s.integer? = some n := h
    have hread {w : Scalar} : Scalar.read (.integer k) (scalar s).plain = .ok w ↔
        ∃ m : k.Value, m.val = n ∧ w = .integer k m := Scalar.read_integer_plain_eq_ok_iff h
    refine ⟨?_, ?_, fun fault => Scalar.read_integer_plain_eq_error_iff h,
      Scalar.isIntegerView_long?.map_val_eq_some_iff h, Scalar.isIntegerView_ulong?.map_val_eq_some_iff h⟩
    · rw [IntegerKind.fits_iff_exists]
      constructor
      · rintro ⟨w, hw⟩
        obtain ⟨m, hm, -⟩ := hread.1 hw
        exact ⟨m, hm⟩
      · rintro ⟨m, hm⟩
        exact ⟨.integer k m, hread.2 ⟨m, hm, rfl⟩⟩
    · intro w hw
      obtain ⟨m, rfl, rfl⟩ := hread.1 hw
      exact ⟨rfl, rfl, Scalar.isIntegerView_long?.congr h.symm, Scalar.isIntegerView_ulong?.congr h.symm⟩

/-- The number after the greatest `long`, as a `ulong`. -/
def pastLong : Value :=
  .scalar (.integer .ulong ⟨9223372036854775808, by decide⟩)

/-- The number after the greatest `long` is read as a `ulong`, while it is too large for a `long`, and only a view of
the former shows it. -/
theorem integer_kept_pastLong : pastLong.scalar?.bind Scalar.integer? = some 9223372036854775808 ∧
    Scalar.read (.integer .long) "9223372036854775808".toList = .error (.integer .tooLarge) ∧
    (∃ w, Scalar.read (.integer .ulong) "9223372036854775808".toList = .ok w ∧
      w.integer? = some 9223372036854775808) ∧
    pastLong.scalar?.bind Scalar.long? = none ∧
    (pastLong.scalar?.bind Scalar.ulong?).map Subtype.val = some 9223372036854775808 := by
  have hvalue : pastLong.scalar?.bind Scalar.integer? = some 9223372036854775808 := rfl
  have hplain : pastLong.plain = "9223372036854775808".toList := by decide +kernel
  obtain ⟨-, -, hlong, hview, -⟩ := integer_kept hvalue .long
  obtain ⟨hulong, hnumber, -, -, huview⟩ := integer_kept hvalue .ulong
  rw [hplain] at hlong hulong hnumber
  obtain ⟨w, hw⟩ := hulong.2 (by decide)
  refine ⟨hvalue, (hlong _).2 ⟨.tooLarge, .above (by decide), rfl⟩, ⟨w, hw, (hnumber w hw).2.1⟩, ?_, ?_⟩
  · rw [Option.eq_none_iff_forall_ne_some]
    intro m hm
    have hrange := (hview m.val).1 (by rw [hm]; rfl)
    exact absurd hrange.2 (by decide)
  · exact (huview _).2 ⟨rfl, by decide⟩

end Value

end TypedRoutes
