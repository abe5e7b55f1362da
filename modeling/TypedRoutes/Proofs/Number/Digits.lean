import Mathlib.Data.List.TakeWhile
import Mathlib.Tactic.Ring
import TypedRoutes.Number.Digits
/-!
# Digits read back

`ofDigits_digits`: the digits of a number stand for the number. Leading zeros change nothing
(`ofDigits_padded`), and a number below `10 ^ k` has at most `k` digits (`length_digits_le`).
-/
namespace TypedRoutes.Number

/-- Every character is a digit. -/
def AllDigits (cs : List Char) : Prop := ∀ c ∈ cs, c.isDigit = true

/-! ## One digit -/

theorem toNat_digitChar {n : Nat} (h : n < 10) : (digitChar n).toNat = '0'.toNat + n := by
  have : ∀ m : Fin 10, (digitChar m).toNat = '0'.toNat + m := by decide
  exact this ⟨n, h⟩

theorem isDigit_digitChar {n : Nat} (h : n < 10) : (digitChar n).isDigit = true := by
  have : ∀ m : Fin 10, (digitChar m).isDigit = true := by decide
  exact this ⟨n, h⟩

theorem digitValue?_of_isDigit {c : Char} (h : c.isDigit = true) :
    digitValue? c = some (c.toNat - '0'.toNat) := by
  rw [digitValue?, if_pos h]

/-! ## Reading on after a number -/

/-- The number that digits give when they are read on after the number `n`. -/
def ofDigitsFrom (n : Nat) (cs : List Char) : Nat :=
  cs.foldl (fun n c => 10 * n + (c.toNat - '0'.toNat)) n

theorem ofDigits_eq (cs : List Char) : ofDigits cs = ofDigitsFrom 0 cs := rfl

@[simp] theorem ofDigitsFrom_nil (n : Nat) : ofDigitsFrom n [] = n := rfl

@[simp] theorem ofDigitsFrom_cons (n : Nat) (c : Char) (cs : List Char) :
    ofDigitsFrom n (c :: cs) = ofDigitsFrom (10 * n + (c.toNat - '0'.toNat)) cs := by
  simp only [ofDigitsFrom, List.foldl_cons]

theorem ofDigitsFrom_append (n : Nat) (cs ds : List Char) :
    ofDigitsFrom n (cs ++ ds) = ofDigitsFrom (ofDigitsFrom n cs) ds :=
  List.foldl_append

theorem ofDigitsFrom_eq (n : Nat) (cs : List Char) : ofDigitsFrom n cs = n * 10 ^ cs.length + ofDigits cs := by
  induction cs generalizing n with
  | nil => simp [ofDigits]
  | cons c cs ih =>
    rw [ofDigits_eq, ofDigitsFrom_cons, ofDigitsFrom_cons, ih, ih (10 * 0 + _), List.length_cons]
    ring

/-- Reading on never makes a number less. -/
theorem le_ofDigitsFrom (n : Nat) (cs : List Char) : n ≤ ofDigitsFrom n cs := by
  rw [ofDigitsFrom_eq]
  have := Nat.le_mul_of_pos_right n (Nat.pow_pos (n := cs.length) (by decide : 0 < 10))
  omega

theorem ofDigits_append (cs ds : List Char) : ofDigits (cs ++ ds) = ofDigits cs * 10 ^ ds.length + ofDigits ds := by
  rw [ofDigits_eq, ofDigitsFrom_append, ofDigitsFrom_eq]
  rfl

theorem ofDigits_replicate (k : Nat) : ofDigits (List.replicate k '0') = 0 := by
  induction k with
  | zero => rfl
  | succ k ih => rw [List.replicate_succ, ofDigits_eq, ofDigitsFrom_cons]; exact ih

/-! ## The digits of a number -/

theorem digits_of_lt {n : Nat} (h : n < 10) : digits n = [digitChar n] := by
  rw [digits, if_pos h]

theorem digits_of_ge {n : Nat} (h : 10 ≤ n) : digits n = digits (n / 10) ++ [digitChar (n % 10)] := by
  rw [digits, if_neg (by omega)]

@[simp] theorem digits_ne_nil (n : Nat) : digits n ≠ [] := by
  rcases Nat.lt_or_ge n 10 with h | h
  · rw [digits_of_lt h]; simp
  · rw [digits_of_ge h]; simp

theorem allDigits_digits (n : Nat) : AllDigits (digits n) := by
  induction n using Nat.strong_induction_on with
  | _ n ih =>
    rcases Nat.lt_or_ge n 10 with h | h
    · rw [digits_of_lt h]
      simpa [AllDigits] using isDigit_digitChar h
    · rw [digits_of_ge h]
      intro c hc
      rcases List.mem_append.1 hc with hc | hc
      · exact ih (n / 10) (by omega) c hc
      · rw [List.mem_singleton.1 hc]
        exact isDigit_digitChar (Nat.mod_lt n (by decide))

@[simp] theorem ofDigits_digits (n : Nat) : ofDigits (digits n) = n := by
  induction n using Nat.strong_induction_on with
  | _ n ih =>
    rcases Nat.lt_or_ge n 10 with h | h
    · rw [digits_of_lt h, ofDigits_eq, ofDigitsFrom_cons, ofDigitsFrom_nil, toNat_digitChar h]
      omega
    · rw [digits_of_ge h, ofDigits_append, ih (n / 10) (by omega)]
      rw [ofDigits_eq, ofDigitsFrom_cons, ofDigitsFrom_nil, toNat_digitChar (Nat.mod_lt n (by decide))]
      simp only [List.length_singleton, pow_one]
      omega

theorem length_digits_le {n k : Nat} (h : n < 10 ^ k) (hk : 0 < k) : (digits n).length ≤ k := by
  induction k generalizing n with
  | zero => omega
  | succ k ih =>
    rcases Nat.lt_or_ge n 10 with hn | hn
    · rw [digits_of_lt hn]; simp
    · rw [digits_of_ge hn, List.length_append, List.length_singleton]
      rw [pow_succ] at h
      have hk' : 0 < k := by
        rcases Nat.eq_zero_or_pos k with rfl | hk'
        · omega
        · exact hk'
      have := ih (n := n / 10) (by omega) hk'
      omega

/-! ## Digits with leading zeros -/

theorem allDigits_append {cs ds : List Char} (hc : AllDigits cs) (hd : AllDigits ds) : AllDigits (cs ++ ds) :=
  List.forall_mem_append.2 ⟨hc, hd⟩

theorem allDigits_replicate (k : Nat) : AllDigits (List.replicate k '0') := by
  intro c hc
  rw [List.eq_of_mem_replicate hc]
  rfl

theorem allDigits_padded (width n : Nat) : AllDigits (padded width n) :=
  allDigits_append (allDigits_replicate _) (allDigits_digits n)

@[simp] theorem padded_ne_nil (width n : Nat) : padded width n ≠ [] := by
  simp [padded, digits_ne_nil]

@[simp] theorem ofDigits_padded (width n : Nat) : ofDigits (padded width n) = n := by
  rw [padded, ofDigits_append, ofDigits_replicate, ofDigits_digits]
  omega

theorem length_padded {width n : Nat} (h : n < 10 ^ width) (hw : 0 < width) : (padded width n).length = width := by
  have := length_digits_le h hw
  simp only [padded, List.length_append, List.length_replicate]
  omega

theorem le_length_padded (width n : Nat) : width ≤ (padded width n).length := by
  simp only [padded, List.length_append, List.length_replicate]
  omega

/-! ## Runs of digits -/

theorem takeWhile_allDigits {cs : List Char} (h : AllDigits cs) : cs.takeWhile Char.isDigit = cs :=
  List.takeWhile_eq_self_iff.2 h

theorem takeWhile_digits {cs rest : List Char} (h : AllDigits cs) (hr : ∀ c ∈ rest.head?, c.isDigit = false) :
    (cs ++ rest).takeWhile Char.isDigit = cs := by
  rw [List.takeWhile_append_of_pos h]
  cases rest with
  | nil => simp
  | cons c rest => simp [hr c rfl]

theorem dropWhile_digits {cs rest : List Char} (h : AllDigits cs) (hr : ∀ c ∈ rest.head?, c.isDigit = false) :
    (cs ++ rest).dropWhile Char.isDigit = rest := by
  rw [List.dropWhile_append_of_pos h]
  cases rest with
  | nil => rfl
  | cons c rest => simp [hr c rfl]

/-- A text of digits is one run. -/
theorem digitRun_allDigits {cs : List Char} (h : AllDigits cs) : digitRun cs = (cs, []) := by
  rw [digitRun, takeWhile_allDigits h, List.dropWhile_eq_nil_iff.2 h]

/-- A run of digits ends where the next character is none. -/
theorem digitRun_append {cs rest : List Char} (h : AllDigits cs) (hr : ∀ c ∈ rest.head?, c.isDigit = false) :
    digitRun (cs ++ rest) = (cs, rest) := by
  rw [digitRun, takeWhile_digits h hr, dropWhile_digits h hr]

/-! ## Digits with a point -/

/-- The digits of a number, with a point in front of the last `places` of them and a digit in front of the point. -/
def pointed (n places : Nat) : List Char :=
  let ds := padded (places + 1) n
  ds.take (ds.length - places) ++ '.' :: ds.drop (ds.length - places)

theorem pointed_eq (n places : Nat) : ∃ whole fraction, pointed n places = whole ++ '.' :: fraction ∧
    AllDigits whole ∧ AllDigits fraction ∧ whole ≠ [] ∧ fraction.length = places ∧
      ofDigits (whole ++ fraction) = n := by
  have hlen := le_length_padded (places + 1) n
  have hall := allDigits_padded (places + 1) n
  refine ⟨_, _, rfl, fun c hc => hall c (List.mem_of_mem_take hc), fun c hc => hall c (List.mem_of_mem_drop hc),
    ?_, ?_, ?_⟩
  · intro h
    have := congrArg List.length h
    simp only [List.length_take, List.length_nil] at this
    omega
  · rw [List.length_drop]
    omega
  · rw [List.take_append_drop, ofDigits_padded]

theorem mem_pointed {n places : Nat} {c : Char} (h : c ∈ pointed n places) : c.isDigit = true ∨ c = '.' := by
  obtain ⟨whole, fraction, he, hw, hf, -⟩ := pointed_eq n places
  rw [he, List.mem_append, List.mem_cons] at h
  rcases h with h | h | h
  · exact .inl (hw c h)
  · exact .inr h
  · exact .inl (hf c h)

/-- A text of digits begins with a digit. -/
theorem AllDigits.eq_cons {cs : List Char} (h : AllDigits cs) (hne : cs ≠ []) :
    ∃ d ds, cs = d :: ds ∧ d.isDigit = true := by
  obtain ⟨d, ds, rfl⟩ := List.exists_cons_of_ne_nil hne
  exact ⟨d, ds, rfl, h d List.mem_cons_self⟩

theorem pointed_eq_cons (n places : Nat) : ∃ d ds, pointed n places = d :: ds ∧ d.isDigit = true := by
  obtain ⟨whole, fraction, he, hw, -, hne, -⟩ := pointed_eq n places
  obtain ⟨d, ds, rfl, hd⟩ := hw.eq_cons hne
  exact ⟨d, ds ++ '.' :: fraction, he, hd⟩

end TypedRoutes.Number
