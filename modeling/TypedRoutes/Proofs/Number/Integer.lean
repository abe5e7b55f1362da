import TypedRoutes.Number.Integer
import TypedRoutes.Proofs.Number.Digits
/-!
# Integers read back

The range of a kind is what its bits can hold (`IntegerKind.fits_iff`). The text of an integer is read at any kind that
the integer fits, as the same integer (`IntegerKind.read_integerText_eq_ok_iff`), and at no other kind, where the fault
tells which end of the range it is beyond (`IntegerKind.read_integerText_eq_error_iff`).
-/
namespace TypedRoutes.Number

/-- Digits are read as their number, if that is within the limit. -/
theorem readUpTo_ofDigitsFrom {limit n : Nat} {beyond : IntegerFault} {cs : List Char} (hd : AllDigits cs)
    (hl : ofDigitsFrom n cs ≤ limit) : readUpTo limit beyond n cs = .ok (ofDigitsFrom n cs) := by
  induction cs generalizing n with
  | nil => rfl
  | cons c cs ih =>
    have hc := digitValue?_of_isDigit (hd c (by simp))
    rw [ofDigitsFrom_cons] at hl ⊢
    have hle := le_ofDigitsFrom (10 * n + (c.toNat - '0'.toNat)) cs
    simp only [readUpTo, hc, if_pos (Nat.le_trans hle hl)]
    exact ih (fun d hd' => hd d (by simp [hd'])) hl

/-- Digits of a number above the limit are a fault, at the digit that goes beyond it. -/
theorem readUpTo_beyond {limit n : Nat} {beyond : IntegerFault} {cs : List Char} (hd : AllDigits cs)
    (hn : n ≤ limit) (hl : limit < ofDigitsFrom n cs) : readUpTo limit beyond n cs = .error beyond := by
  induction cs generalizing n with
  | nil =>
    rw [ofDigitsFrom_nil] at hl
    omega
  | cons c cs ih =>
    have hc := digitValue?_of_isDigit (hd c (by simp))
    rw [ofDigitsFrom_cons] at hl
    simp only [readUpTo, hc]
    split
    · rename_i hle
      exact ih (fun d hd' => hd d (by simp [hd'])) hle hl
    · rfl

theorem ofDigitsFrom_digits (n : Nat) : ofDigitsFrom 0 (digits n) = n :=
  ofDigits_digits n

theorem readMagnitude_of_ne_nil {limit : Nat} {beyond : IntegerFault} {cs : List Char} (h : cs ≠ []) :
    readMagnitude limit beyond cs = readUpTo limit beyond 0 cs :=
  if_neg (by simpa using h)

theorem readMagnitude_digits {limit n : Nat} {beyond : IntegerFault} (h : n ≤ limit) :
    readMagnitude limit beyond (digits n) = .ok n := by
  have hn := ofDigitsFrom_digits n
  rw [readMagnitude_of_ne_nil (digits_ne_nil n), readUpTo_ofDigitsFrom (allDigits_digits n) (by rw [hn]; exact h), hn]

theorem readMagnitude_digits_beyond {limit n : Nat} {beyond : IntegerFault} (h : limit < n) :
    readMagnitude limit beyond (digits n) = .error beyond := by
  have hn := ofDigitsFrom_digits n
  rw [readMagnitude_of_ne_nil (digits_ne_nil n)]
  exact readUpTo_beyond (allDigits_digits n) (Nat.zero_le limit) (by rw [hn]; exact h)

/-- A text of digits begins with no sign. -/
theorem ne_sign_of_isDigit {c : Char} (h : c.isDigit = true) : c ≠ '-' ∧ c ≠ '+' := by
  constructor <;> rintro rfl <;> cases h

/-- The characters of an integer's text. -/
theorem mem_integerText {n : Int} {c : Char} (h : c ∈ integerText n) : c.isDigit = true ∨ c = '-' := by
  rw [integerText] at h
  split at h
  · rcases List.mem_cons.1 h with rfl | h
    · exact .inr rfl
    · exact .inl (allDigits_digits _ c h)
  · exact .inl (allDigits_digits _ c h)

theorem integerText_of_neg {n : Int} (h : n < 0) : integerText n = '-' :: digits n.natAbs :=
  if_pos h

theorem integerText_of_nonneg {n : Int} (h : 0 ≤ n) : integerText n = digits n.natAbs :=
  if_neg (by omega)

theorem integerText_ne_nil (n : Int) : integerText n ≠ [] := by
  rw [integerText]
  split
  · simp
  · exact digits_ne_nil _

namespace IntegerKind
variable {k : IntegerKind} {n : Int}

/-! ## Ranges -/

/-- The bits of an integer of a kind. -/
def bits : IntegerKind → Nat
  | byte => 8
  | short | ushort => 16
  | int | uint => 32
  | long | ulong => 64

/-- The integers that the bits of a kind can hold. One bit of a signed kind is the sign. -/
def Fits (k : IntegerKind) (n : Int) : Prop :=
  if k.isSigned then -2 ^ (k.bits - 1) ≤ n ∧ n < 2 ^ (k.bits - 1) else 0 ≤ n ∧ n < 2 ^ k.bits

/-- The range of a kind is all that its bits can hold. -/
theorem fits_iff : k.Fits n ↔ k.min ≤ n ∧ n ≤ k.max := by
  cases k <;> simp only [Fits, isSigned, bits, min, max] <;> norm_num <;> omega

instance (k : IntegerKind) (n : Int) : Decidable (k.Fits n) :=
  decidable_of_iff _ fits_iff.symm

theorem fits_val (n : k.Value) : k.Fits n.val :=
  fits_iff.2 n.2

theorem fits_iff_exists : k.Fits n ↔ ∃ m : k.Value, m.val = n := by
  constructor
  · intro h
    exact ⟨⟨n, fits_iff.1 h⟩, rfl⟩
  · rintro ⟨m, rfl⟩
    exact fits_val m

theorem value?_eq_some_iff {m : k.Value} : k.value? n = some m ↔ m.val = n := by
  rw [value?]
  split
  · rw [Option.some.injEq, Subtype.ext_iff]
    exact eq_comm
  · rename_i hn
    constructor
    · rintro ⟨⟩
    · rintro rfl
      exact absurd m.2 hn

theorem value?_val (n : k.Value) : k.value? n.val = some n :=
  value?_eq_some_iff.2 rfl

theorem max_nonneg : 0 ≤ k.max := by
  cases k <;> decide

theorem min_nonpos : k.min ≤ 0 := by
  cases k <;> decide

/-- Only signed kinds have negative integers. -/
theorem isSigned_of_min_neg (h : k.min < 0) : k.isSigned = true := by
  revert h
  cases k <;> decide

/-! ## Reading -/

theorem read_minus {ds : List Char} {m : Nat} (hs : k.isSigned = true)
    (hm : readMagnitude (-k.min).toNat .tooSmall ds = .ok m) {n : k.Value} (hn : n.val = -(m : Int)) :
    k.read ('-' :: ds) = .ok n := by
  have hv := value?_val n
  rw [hn] at hv
  simp [read, hs, hm, bind, Except.bind, Functor.map, Except.map, hv]

/-- A text without a sign is the magnitude of a number that is not negative. -/
theorem read_allDigits {ds : List Char} (hd : AllDigits ds) (hne : ds ≠ []) :
    k.read ds = (readMagnitude k.max.toNat .tooLarge ds).bind fun m =>
      match k.value? m with
      | some v => .ok v
      | none => .error .tooLarge := by
  obtain ⟨c, cs, rfl⟩ := List.exists_cons_of_ne_nil hne
  obtain ⟨hminus, hplus⟩ := ne_sign_of_isDigit (hd c (by simp))
  rw [read]
  · cases readMagnitude k.max.toNat .tooLarge (c :: cs) <;> rfl
  · exact List.cons_ne_nil c cs
  · rintro ds ⟨⟩
    exact hminus rfl
  · rintro ds ⟨⟩
    exact hplus rfl

/-- An integer is read back from its text. -/
theorem read_integerText (n : k.Value) : k.read (integerText n.val) = .ok n := by
  obtain ⟨hmin, hmax⟩ := n.2
  rcases lt_or_ge n.val 0 with hneg | hpos
  · have hm : readMagnitude (-k.min).toNat .tooSmall (digits n.val.natAbs) = .ok n.val.natAbs :=
      readMagnitude_digits (by omega)
    rw [integerText_of_neg hneg]
    exact read_minus (isSigned_of_min_neg (by omega)) hm (by omega)
  · have hm : readMagnitude k.max.toNat .tooLarge (digits n.val.natAbs) = .ok n.val.natAbs :=
      readMagnitude_digits (by omega)
    have hv : k.value? (n.val.natAbs : Int) = some n := value?_eq_some_iff.2 (by omega)
    rw [integerText_of_nonneg hpos, read_allDigits (allDigits_digits _) (digits_ne_nil _), hm]
    simp only [Except.bind, hv]

/-! ## Integers of no kind that is read -/

/-- Why the text of an integer is none of a kind: the integer is beyond one end of the range. A kind without a sign
takes the sign of a negative integer for a wrong digit. -/
inductive Beyond (k : IntegerKind) (n : Int) : IntegerFault → Prop
  | above (h : k.max < n) : Beyond k n .tooLarge
  | below (hs : k.isSigned = true) (h : n < k.min) : Beyond k n .tooSmall
  | negative (hs : k.isSigned = false) (h : n < 0) : Beyond k n .invalidDigit

theorem exists_beyond (h : ¬ k.Fits n) : ∃ fault, k.Beyond n fault := by
  rw [fits_iff, not_and_or, not_le, not_le] at h
  rcases h with hmin | hmax
  · have hneg : n < 0 := Int.lt_of_lt_of_le hmin min_nonpos
    cases hs : k.isSigned with
    | true => exact ⟨.tooSmall, .below hs hmin⟩
    | false => exact ⟨.invalidDigit, .negative hs hneg⟩
  · exact ⟨.tooLarge, .above hmax⟩

theorem read_integerText_of_beyond {fault : IntegerFault} (h : k.Beyond n fault) :
    k.read (integerText n) = .error fault := by
  cases h with
  | above h =>
    have hmax := k.max_nonneg
    have hm : readMagnitude k.max.toNat .tooLarge (digits n.natAbs) = .error .tooLarge :=
      readMagnitude_digits_beyond (by omega)
    rw [integerText_of_nonneg (by omega), read_allDigits (allDigits_digits _) (digits_ne_nil _), hm]
    rfl
  | below hs h =>
    have hmin := k.min_nonpos
    have hm : readMagnitude (-k.min).toNat .tooSmall (digits n.natAbs) = .error .tooSmall :=
      readMagnitude_digits_beyond (by omega)
    rw [integerText_of_neg (by omega)]
    simp [read, hs, hm, bind, Except.bind, Functor.map, Except.map]
  | negative hs h =>
    rw [integerText_of_neg h]
    simp [read, hs, bind, Except.bind]

theorem read_integerText_cases (k : IntegerKind) (n : Int) :
    (∃ m : k.Value, m.val = n ∧ k.read (integerText n) = .ok m) ∨
      ∃ fault, k.Beyond n fault ∧ k.read (integerText n) = .error fault := by
  by_cases hn : k.Fits n
  · obtain ⟨m, rfl⟩ := fits_iff_exists.1 hn
    exact .inl ⟨m, rfl, read_integerText m⟩
  · obtain ⟨fault, hf⟩ := exists_beyond hn
    exact .inr ⟨fault, hf, read_integerText_of_beyond hf⟩

/-- The text of an integer is read as the same integer, at every kind that has it. -/
theorem read_integerText_eq_ok_iff {m : k.Value} : k.read (integerText n) = .ok m ↔ m.val = n := by
  constructor
  · intro h
    rcases read_integerText_cases k n with ⟨m', hm, hr⟩ | ⟨fault, -, hr⟩
    · rw [hr] at h
      cases h
      exact hm
    · rw [hr] at h
      cases h
  · rintro rfl
    exact read_integerText m

/-- The text of an integer is at fault at the kinds that do not have it. -/
theorem read_integerText_eq_error_iff {fault : IntegerFault} :
    k.read (integerText n) = .error fault ↔ k.Beyond n fault := by
  constructor
  · intro h
    rcases read_integerText_cases k n with ⟨m, -, hr⟩ | ⟨fault', hf, hr⟩
    · rw [hr] at h
      cases h
    · rw [hr] at h
      cases h
      exact hf
  · exact read_integerText_of_beyond

end IntegerKind

end TypedRoutes.Number
