import TypedRoutes.Number.FloatText
import TypedRoutes.Proofs.Number.Binary
import TypedRoutes.Proofs.Number.Integer
/-!
# Floating-point numbers read back

`Binary.read_plain`: the plain text of a value is read as the value again. The shortest digits read back by choice or,
after the last grid, because the number is written out in full (`shortestFrom_readsBack`); taking off zeros and
setting the point keep the number, and the nearest value depends on the number alone.
-/
namespace TypedRoutes.Number

namespace Scientific

/-- The number of a decimal. -/
def value (s : Scientific) : ℚ := s.digits * 10 ^ s.exponent

/-- Taking off zeros keeps the number. -/
theorem value_trimZeros (fuel : Nat) (s : Scientific) : (trimZeros fuel s).value = s.value := by
  induction fuel generalizing s with
  | zero => rfl
  | succ fuel ih =>
    unfold trimZeros
    split
    · rename_i h
      have hdigits : s.digits = s.digits / 10 * 10 := by omega
      rw [ih, value, value, zpow_add₀ (by norm_num)]
      conv_rhs => rw [hdigits]
      push_cast
      ring
    · rfl

theorem le_exponent_trimZeros (fuel : Nat) (s : Scientific) : s.exponent ≤ (trimZeros fuel s).exponent := by
  induction fuel generalizing s with
  | zero => exact Int.le_refl _
  | succ fuel ih =>
    unfold trimZeros
    split
    · have := ih ⟨s.digits / 10, s.exponent + 1⟩
      dsimp only at this
      omega
    · exact Int.le_refl _

end Scientific

/-! ## Reading digits with a point -/

theorem readScientific_digits {ds : List Char} (hd : AllDigits ds) (hne : ds ≠ []) :
    readScientific ds = some ⟨ofDigits ds, 0⟩ := by
  have hrun := digitRun_allDigits hd
  simp [readScientific, hrun, hne, readPowerOfTen]

theorem readScientific_point {whole fraction : List Char} (hw : AllDigits whole) (hf : AllDigits fraction)
    (hne : whole ≠ []) :
    readScientific (whole ++ '.' :: fraction) = some ⟨ofDigits (whole ++ fraction), -(fraction.length : Int)⟩ := by
  have hrun : digitRun (whole ++ '.' :: fraction) = (whole, '.' :: fraction) :=
    digitRun_append hw (by rintro c ⟨⟩; rfl)
  have hrun' := digitRun_allDigits hf
  simp [readScientific, hrun, hrun', hne, readPowerOfTen]

namespace Scientific

/-- A decimal by position is all digits, or has a point in front of as many places as the exponent tells. If its digits
are fewer than the places, the point stands behind the first of the zeros in front of them. -/
theorem positional_cases (s : Scientific) :
    (AllDigits s.positional ∧ s.positional ≠ [] ∧ (ofDigits s.positional : ℚ) = s.value) ∨
    ∃ places : Nat, -(places : Int) = s.exponent ∧ s.positional = pointed s.digits places := by
  have hall := allDigits_digits s.digits
  have hval := ofDigits_digits s.digits
  by_cases he : 0 ≤ s.exponent
  · rw [positional, if_pos he]
    refine .inl ⟨allDigits_append hall (allDigits_replicate _), ?_, ?_⟩
    · simp [digits_ne_nil]
    · obtain ⟨k, hk⟩ := Int.eq_ofNat_of_zero_le he
      rw [ofDigits_append, ofDigits_replicate, hval, value, hk]
      simp
  · rw [positional, if_neg he]
    dsimp only
    refine .inr ⟨(-s.exponent).toNat, by omega, ?_⟩
    generalize (-s.exponent).toNat = places
    unfold pointed padded
    by_cases hp : places < (Number.digits s.digits).length
    · have hzeros : places + 1 - (Number.digits s.digits).length = 0 := by omega
      rw [if_pos hp, hzeros]
      rfl
    · have hzeros : places + 1 - (Number.digits s.digits).length =
          places - (Number.digits s.digits).length + 1 := by omega
      have hlen : (Number.digits s.digits).length ≤ places := by omega
      rw [if_neg hp, hzeros, List.replicate_succ]
      simp only [List.cons_append, List.length_cons, List.length_append, List.length_replicate,
        Nat.sub_add_cancel hlen, Nat.add_sub_cancel_left, List.take_succ_cons, List.take_zero, List.drop_succ_cons,
        List.drop_zero, List.nil_append]

/-- A decimal is read back by position as the same number. -/
theorem readScientific_positional (s : Scientific) :
    ∃ t, readScientific s.positional = some t ∧ t.value = s.value ∧ (t.exponent = 0 ∨ t.exponent = s.exponent) := by
  rcases positional_cases s with ⟨hd, hne, hval⟩ | ⟨places, hp, hs⟩
  · refine ⟨_, readScientific_digits hd hne, ?_, .inl rfl⟩
    rw [← hval, value]
    simp
  · obtain ⟨whole, fraction, he, hw, hf, hne, rfl, hval⟩ := pointed_eq s.digits places
    refine ⟨_, by rw [hs, he, readScientific_point hw hf hne], ?_, .inr hp⟩
    rw [value, value, hval, hp]

/-- The characters of a decimal by position. -/
theorem mem_positional {s : Scientific} {c : Char} (h : c ∈ s.positional) : c.isDigit = true ∨ c = '.' := by
  rcases positional_cases s with ⟨hd, -⟩ | ⟨places, -, hs⟩
  · exact .inl (hd c h)
  · exact mem_pointed (hs ▸ h)

/-- A decimal by position begins with a digit. -/
theorem positional_eq_cons (s : Scientific) : ∃ c cs, s.positional = c :: cs ∧ c.isDigit = true := by
  rcases positional_cases s with ⟨hd, hne, -⟩ | ⟨places, -, hs⟩
  · exact hd.eq_cons hne
  · rw [hs]
    exact pointed_eq_cons s.digits places

end Scientific

namespace Binary
variable {p : Precision}

/-! ## The shortest digits -/

theorem length_digits_ratio_snd {m : Nat} {e : Int} (h : p.Canonical m e) :
    (digits (ratio m e).2).length ≤ 1075 := by
  have hmin : -1074 ≤ e := by
    have := h.2.1
    cases p <;> simp only [Precision.minExponent] at this <;> omega
  have hlen : ∀ k : Nat, k ≤ 1074 → (digits (2 ^ k)).length ≤ 1075 := by
    intro k hk
    have hlt : 2 ^ k < 10 ^ (k + 1) :=
      Nat.lt_of_le_of_lt (Nat.pow_le_pow_left (by decide) k) (Nat.pow_lt_pow_right (by decide) (Nat.lt_succ_self k))
    have := length_digits_le hlt (Nat.succ_pos k)
    omega
  unfold ratio
  split
  · exact hlen 0 (by omega)
  · exact hlen _ (by omega)

theorem le_decimalExponent {m : Nat} {e : Int} (h : p.Canonical m e) :
    -1100 ≤ decimalExponent (ratio m e).1 (ratio m e).2 := by
  have := length_digits_ratio_snd h
  unfold decimalExponent
  dsimp only
  split <;> omega

/-- A number written out in full reads back. -/
theorem ofDecimal_full {s : Bool} {m : Nat} {e : Int} (h : p.Canonical m e) (hm : m ≠ 0) {x : Scientific}
    (hlow : -5000 ≤ x.exponent) (hval : x.value = m * 2 ^ e) : ofDecimal s x.digits x.exponent = finite s m e h := by
  rw [ofDecimal_eq_ofRatio hlow, ← ofRatio_ratio h hm]
  refine ofRatio_congr (by positivity) (ratio_snd m e) ?_
  rw [decimal_div, ratio_div, ← hval, Scientific.value]

theorem value_full {m : Nat} {e : Int} :
    (if 0 ≤ e then (⟨m * Nat.pow 2 e.toNat, 0⟩ : Scientific) else ⟨m * Nat.pow 5 (-e).toNat, e⟩).value =
      m * 2 ^ e := by
  by_cases he : 0 ≤ e
  · obtain ⟨k, rfl⟩ := Int.eq_ofNat_of_zero_le he
    rw [if_pos he, Scientific.value]
    simp
  · obtain ⟨k, rfl⟩ := Int.exists_eq_neg_ofNat (show e ≤ 0 by omega)
    have hten : (10 : ℚ) ^ k = 2 ^ k * 5 ^ k := by rw [← mul_pow]; norm_num
    rw [if_neg he, Scientific.value]
    simp only [neg_neg, Int.toNat_natCast, Nat.pow_eq, Nat.cast_mul, Nat.cast_pow, Nat.cast_ofNat, zpow_neg,
      zpow_natCast, hten]
    field_simp

theorem neighbour?_readsBack {tie : Tie} {x : Binary p} {s : Bool} {n d : Nat} {e : Int} {t : Scientific}
    (h : neighbour? tie x s n d e = some t) : ofDecimal s t.digits t.exponent = x ∧ t.exponent = e := by
  unfold neighbour? at h
  dsimp only at h
  split at h
  · rename_i hbelow habove
    cases h
    split
    · exact ⟨by simpa [readsBack] using hbelow, rfl⟩
    · exact ⟨by simpa [readsBack] using habove, rfl⟩
  · rename_i hbelow _
    cases h
    exact ⟨by simpa [readsBack] using hbelow, rfl⟩
  · rename_i _ habove
    cases h
    exact ⟨by simpa [readsBack] using habove, rfl⟩
  · cases h

/-- The digits that are found read back, on every grid and after the last, where the number is written out in full. -/
theorem shortestFrom_readsBack {tie : Tie} {s : Bool} {m : Nat} {e : Int} (h : p.Canonical m e) (hm : m ≠ 0)
    {count fuel : Nat} {t : Scientific} (hc : count + fuel ≤ 100)
    (ht : shortestFrom tie (finite s m e h) s m e count fuel = t) :
    ofDecimal s t.digits t.exponent = finite s m e h ∧ -5000 ≤ t.exponent := by
  have hmin : -1074 ≤ e := by
    have := h.2.1
    cases p <;> simp only [Precision.minExponent] at this <;> omega
  induction fuel generalizing count with
  | zero =>
    unfold shortestFrom at ht
    have hlow : -5000 ≤ t.exponent := by
      rw [← ht]
      split <;> simp only <;> omega
    exact ⟨ofDecimal_full h hm hlow (by rw [← ht, value_full]), hlow⟩
  | succ fuel ih =>
    unfold shortestFrom at ht
    dsimp only at ht
    split at ht
    · rename_i u hu
      obtain ⟨hread, hexp⟩ := neighbour?_readsBack hu
      have := le_decimalExponent h
      rw [← ht]
      exact ⟨hread, by omega⟩
    · exact ih (by omega) ht

/-- The shortest digits read back, however the same number is written. -/
theorem ofDecimal_shortest {tie : Tie} {s : Bool} {m : Nat} {e : Int} (h : p.Canonical m e) (hm : m ≠ 0)
    {t : Scientific} (hval : t.value = (shortest tie s m e h).value)
    (hexp : t.exponent = 0 ∨ t.exponent = (shortest tie s m e h).exponent) :
    ofDecimal s t.digits t.exponent = finite s m e h := by
  have hdigits : p.decimalDigits ≤ 17 := by cases p <;> decide
  obtain ⟨hread, hlow⟩ : ofDecimal s _ _ = finite s m e h ∧ -5000 ≤ _ :=
    shortestFrom_readsBack h hm (show 1 + p.decimalDigits ≤ 100 by omega) (Eq.refl (shortestFrom tie _ s m e 1 _))
  have hle := Scientific.le_exponent_trimZeros 20
    (shortestFrom tie (finite s m e h) s m e 1 p.decimalDigits)
  rw [shortest] at hval hexp
  rw [Scientific.value_trimZeros] at hval
  rw [← hread]
  exact ofDecimal_congr (by omega) hlow hval

/-! ## The plain text -/

theorem plain_finite {s : Bool} {m : Nat} {e : Int} (h : p.Canonical m e) :
    (finite s m e h).plain = signed s (if m = 0 then ['0'] else (shortest .up s m e h).positional) := rfl

/-- A text that begins with neither sign is read as a number without one. -/
theorem read_signed {s : Bool} {c : Char} {cs : List Char} (hc : c ≠ '-' ∧ c ≠ '+') :
    (read (signed s (c :: cs)) : Except FloatFault (Binary p)) = readUnsigned s (c :: cs) := by
  cases s with
  | true => rfl
  | false =>
    show read (c :: cs) = _
    unfold read
    split
    · rename_i heq
      cases heq
    · rename_i heq
      cases heq
      exact absurd rfl hc.1
    · rename_i heq
      cases heq
      exact absurd rfl hc.2
    · rfl

/-- Of zero there is one form only, with the least exponent. -/
theorem exponent_eq_of_zero {e : Int} (h : p.Canonical 0 e) : e = p.minExponent := by
  rcases h.2.2.2 with hbig | he
  · have := Nat.pow_pos (n := p.bits - 1) (by decide : 0 < 2)
    exact absurd hbig (by show ¬ 2 ^ (p.bits - 1) ≤ 0; omega)
  · exact he

/-- A value is read back from its plain text, what is not a number too. -/
theorem read_plain (x : Binary p) : read x.plain = .ok x := by
  cases x with
  | nan => rfl
  | infinite s =>
    have hread : read (signed s ['i', 'n', 'f']) = readUnsigned (p := p) s ['i', 'n', 'f'] :=
      read_signed (by decide)
    exact hread.trans rfl
  | finite s m e h =>
    rw [plain_finite]
    by_cases hm : m = 0
    · subst hm
      rw [if_pos rfl, read_signed (by decide)]
      obtain rfl := exponent_eq_of_zero h
      rfl
    · rw [if_neg hm]
      obtain ⟨c, cs, hcons, hdigit⟩ := (shortest .up s m e h).positional_eq_cons
      obtain ⟨t, ht, hval, hexp⟩ := (shortest .up s m e h).readScientific_positional
      rw [hcons] at ht ⊢
      rw [read_signed (ne_sign_of_isDigit hdigit), readUnsigned, ht]
      exact congrArg Except.ok (ofDecimal_shortest h hm hval hexp)

/-- The characters of a plain text. -/
theorem mem_plain {x : Binary p} {c : Char} (h : c ∈ x.plain) :
    c.isDigit = true ∨ c = '.' ∨ c = '-' ∨ c.isAlpha = true := by
  have hsigned : ∀ s cs, c ∈ signed s cs → c = '-' ∨ c ∈ cs := by
    intro s cs hc
    cases s with
    | true => exact List.mem_cons.1 hc
    | false => exact .inr hc
  cases x with
  | nan =>
    have hletters : "NaN".toList.all Char.isAlpha = true := by decide
    exact .inr (.inr (.inr (List.all_eq_true.1 hletters c h)))
  | infinite s =>
    have hletters : "inf".toList.all Char.isAlpha = true := by decide
    rcases hsigned s _ h with h | h
    · exact .inr (.inr (.inl h))
    · exact .inr (.inr (.inr (List.all_eq_true.1 hletters c h)))
  | finite s m e h' =>
    rcases hsigned s _ h with h | h
    · exact .inr (.inr (.inl h))
    · split at h
      · rw [List.mem_singleton.1 h]
        exact .inl rfl
      · exact (Scientific.mem_positional h).imp_right .inl

theorem plain_ne_nil (x : Binary p) : x.plain ≠ [] := by
  have hsigned : ∀ s cs, cs ≠ [] → signed s cs ≠ [] := by
    intro s cs hne
    cases s with
    | true => exact List.cons_ne_nil _ _
    | false => exact hne
  cases x with
  | nan => exact List.cons_ne_nil _ _
  | infinite s => exact hsigned s _ (List.cons_ne_nil _ _)
  | finite s m e h =>
    refine hsigned s _ ?_
    obtain ⟨c, cs, hcons, -⟩ := (shortest .up s m e h).positional_eq_cons
    split
    · simp
    · rw [hcons]
      exact List.cons_ne_nil _ _

end Binary

end TypedRoutes.Number
