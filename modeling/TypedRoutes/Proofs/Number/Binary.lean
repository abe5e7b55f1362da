import Mathlib.Algebra.Order.Field.Power
import Mathlib.Data.Int.Log
import Mathlib.Data.Rat.Floor
import Mathlib.Tactic.FieldSimp
import Mathlib.Tactic.Linarith
import TypedRoutes.Number.Binary
/-!
# The nearest binary number

Rounding depends on the number alone and not on the ratio it is given as (`Binary.ofRatio_congr`), and a number of
the format is its own nearest (`Binary.ofRatio_ratio`). The bounds on the places of a decimal change nothing
(`Binary.ofDecimal_eq_ofRatio`), so decimals that are the same number are read as the same value
(`Binary.ofDecimal_congr`).
-/
namespace TypedRoutes.Number

/-! ## Scaling by a power of two -/

theorem scaleDown_snd {n d : Nat} (hd : d ≠ 0) (e : Int) : (scaleDown n d e).2 ≠ 0 := by
  unfold scaleDown
  split <;> simp [hd]

/-- A scaled ratio is the ratio divided by the power of two. -/
theorem scaleDown_div (n d : Nat) (e : Int) :
    ((scaleDown n d e).1 : ℚ) / (scaleDown n d e).2 = (n / d : ℚ) / 2 ^ e := by
  unfold scaleDown
  by_cases he : 0 ≤ e
  · obtain ⟨k, rfl⟩ := Int.eq_ofNat_of_zero_le he
    rw [if_pos he]
    simp [div_div]
  · obtain ⟨k, rfl⟩ := Int.exists_eq_neg_ofNat (show e ≤ 0 by omega)
    rw [if_neg he]
    simp [div_eq_mul_inv]
    ring

/-- The logarithm of a ratio is within one of the difference of the logarithms. -/
theorem log2_ratio_bounds {n d : Nat} (hn : n ≠ 0) (hd : d ≠ 0) :
    (2 : ℚ) ^ ((n.log2 : Int) - d.log2 - 1) < n / d ∧ (n / d : ℚ) < 2 ^ ((n.log2 : Int) - d.log2 + 1) := by
  have hd' : (0 : ℚ) < d := by exact_mod_cast Nat.pos_of_ne_zero hd
  have hn1 : (2 : ℚ) ^ (n.log2 : Int) ≤ n := by exact_mod_cast Nat.log2_self_le hn
  have hn2 : (n : ℚ) < 2 ^ ((n.log2 : Int) + 1) := by exact_mod_cast (Nat.lt_log2_self (n := n))
  have hd1 : (2 : ℚ) ^ (d.log2 : Int) ≤ d := by exact_mod_cast Nat.log2_self_le hd
  have hd2 : (d : ℚ) < 2 ^ ((d.log2 : Int) + 1) := by exact_mod_cast (Nat.lt_log2_self (n := d))
  constructor
  · rw [lt_div_iff₀ hd']
    calc (2 : ℚ) ^ ((n.log2 : Int) - d.log2 - 1) * d
        < 2 ^ ((n.log2 : Int) - d.log2 - 1) * 2 ^ ((d.log2 : Int) + 1) := by
          exact mul_lt_mul_of_pos_left hd2 (by positivity)
      _ = 2 ^ (n.log2 : Int) := by
          rw [← zpow_add₀ (by norm_num)]
          congr 1
          omega
      _ ≤ n := hn1
  · rw [div_lt_iff₀ hd']
    calc (n : ℚ) < 2 ^ ((n.log2 : Int) + 1) := hn2
      _ = 2 ^ ((n.log2 : Int) - d.log2 + 1) * 2 ^ (d.log2 : Int) := by
          rw [← zpow_add₀ (by norm_num)]
          congr 1
          omega
      _ ≤ 2 ^ ((n.log2 : Int) - d.log2 + 1) * d := by
          exact mul_le_mul_of_nonneg_left hd1 (by positivity)

theorem le_log_iff {x : ℚ} (hx : 0 < x) (k : Int) : k ≤ Int.log 2 x ↔ (2 : ℚ) ^ k ≤ x := by
  rw [← Int.zpow_le_iff_le_log (by decide) hx, Nat.cast_two]

theorem log_lt_iff {x : ℚ} (hx : 0 < x) (k : Int) : Int.log 2 x < k ↔ x < (2 : ℚ) ^ k := by
  rw [← Int.lt_zpow_iff_log_lt (by decide) hx, Nat.cast_two]

/-- The binary exponent is the logarithm of the number: the first guess is one too high at most, and the scaled ratio
tells whether it is. -/
theorem binaryExponent_eq_log {n d : Nat} (hn : n ≠ 0) (hd : d ≠ 0) :
    binaryExponent n d = Int.log 2 (n / d : ℚ) := by
  obtain ⟨hlow, hhigh⟩ := log2_ratio_bounds hn hd
  unfold binaryExponent
  generalize (n.log2 : Int) - d.log2 = k at hlow hhigh ⊢
  have hpos : (0 : ℚ) < n / d := by positivity
  have h1 := (le_log_iff hpos _).2 hlow.le
  have h2 := (log_lt_iff hpos _).2 hhigh
  have hb : (0 : ℚ) < (scaleDown n d k).2 := by exact_mod_cast Nat.pos_of_ne_zero (scaleDown_snd hd k)
  have hle : (scaleDown n d k).2 ≤ (scaleDown n d k).1 ↔ k ≤ Int.log 2 (n / d : ℚ) := by
    rw [le_log_iff hpos, ← Nat.cast_le (α := ℚ), ← one_le_div₀ hb, scaleDown_div, one_le_div₀ (by positivity)]
  dsimp only
  split
  · rename_i h
    have := hle.1 h
    omega
  · rename_i h
    have := mt hle.2 h
    omega

/-! ## Rounding a ratio -/

theorem roundToEven_mul {c : Nat} (hc : 0 < c) (n d : Nat) : roundToEven (c * n) (c * d) = roundToEven n d := by
  have hlt : ∀ a b : Nat, 2 * (c * a) < c * b ↔ 2 * a < b := by
    intro a b
    rw [Nat.mul_left_comm, Nat.mul_lt_mul_left hc]
  have hlt' : ∀ a b : Nat, c * b < 2 * (c * a) ↔ b < 2 * a := by
    intro a b
    rw [Nat.mul_left_comm, Nat.mul_lt_mul_left hc]
  simp only [roundToEven, Nat.mul_div_mul_left _ _ hc, Nat.mul_mod_mul_left, hlt, hlt']

/-- Rounding depends on the number alone. -/
theorem roundToEven_congr {a b c d : Nat} (hb : b ≠ 0) (hd : d ≠ 0) (h : (a / b : ℚ) = c / d) :
    roundToEven a b = roundToEven c d := by
  have hb' : (b : ℚ) ≠ 0 := by exact_mod_cast hb
  have hd' : (d : ℚ) ≠ 0 := by exact_mod_cast hd
  have hcross : a * d = c * b := by exact_mod_cast (div_eq_div_iff hb' hd').1 h
  calc roundToEven a b = roundToEven (d * a) (d * b) := (roundToEven_mul (Nat.pos_of_ne_zero hd) a b).symm
    _ = roundToEven (b * c) (b * d) := by rw [Nat.mul_comm d a, hcross, Nat.mul_comm c b, Nat.mul_comm d b]
    _ = roundToEven c d := roundToEven_mul (Nat.pos_of_ne_zero hb) c d

theorem roundToEven_self_mul (m : Nat) {d : Nat} (hd : d ≠ 0) : roundToEven (m * d) d = m := by
  have := Nat.pos_of_ne_zero hd
  simp only [roundToEven, Nat.mul_div_cancel _ this, Nat.mul_mod_left]
  rw [if_pos (by omega)]

/-- Less than half is rounded to zero. -/
theorem roundToEven_of_lt {a b : Nat} (h : 2 * a < b) : roundToEven a b = 0 := by
  have hdiv : a / b = 0 := Nat.div_eq_of_lt (by omega)
  have hmod : a % b = a := Nat.mod_eq_of_lt (by omega)
  simp only [roundToEven, hdiv, hmod, if_pos h]

namespace Binary
variable {p : Precision}

/-- The nearest value depends on the number alone. -/
theorem ofRatio_congr {s : Bool} {n d a b : Nat} (hd : d ≠ 0) (hb : b ≠ 0) (h : (n / d : ℚ) = a / b) :
    (ofRatio s n d : Binary p) = ofRatio s a b := by
  have hd' : (d : ℚ) ≠ 0 := by exact_mod_cast hd
  have hb' : (b : ℚ) ≠ 0 := by exact_mod_cast hb
  have hz : n = 0 ↔ a = 0 := by
    have hcross : n * b = a * d := by exact_mod_cast (div_eq_div_iff hd' hb').1 h
    constructor
    · rintro rfl
      simpa [hd] using hcross
    · rintro rfl
      simpa [hb] using hcross
  unfold ofRatio
  by_cases hn : n = 0
  · rw [if_pos hn, if_pos (hz.1 hn)]
  · have ha : a ≠ 0 := fun ha => hn (hz.2 ha)
    rw [if_neg hn, if_neg ha, binaryExponent_eq_log hn hd, binaryExponent_eq_log ha hb, h]
    dsimp only
    rw [roundToEven_congr (scaleDown_snd hd _) (scaleDown_snd hb _) (by rw [scaleDown_div, scaleDown_div, h])]

/-- A finite number as a ratio is its significand times the power of two. -/
theorem ratio_div (m : Nat) (e : Int) : ((ratio m e).1 : ℚ) / (ratio m e).2 = m * 2 ^ e := by
  unfold ratio
  by_cases he : 0 ≤ e
  · obtain ⟨k, rfl⟩ := Int.eq_ofNat_of_zero_le he
    rw [if_pos he]
    simp
  · obtain ⟨k, rfl⟩ := Int.exists_eq_neg_ofNat (show e ≤ 0 by omega)
    rw [if_neg he]
    simp [div_eq_mul_inv]

theorem ratio_snd (m : Nat) (e : Int) : (ratio m e).2 ≠ 0 := by
  unfold ratio
  split <;> simp

theorem log_mul_two_pow {m : Nat} (hm : m ≠ 0) (e : Int) : Int.log 2 (m * 2 ^ e : ℚ) = m.log2 + e := by
  have hpos : (0 : ℚ) < m * 2 ^ e := by positivity
  have hm1 : (2 : ℚ) ^ (m.log2 : Int) ≤ m := by exact_mod_cast Nat.log2_self_le hm
  have hm2 : (m : ℚ) < 2 ^ ((m.log2 : Int) + 1) := by exact_mod_cast (Nat.lt_log2_self (n := m))
  have h1 : (m.log2 : Int) + e ≤ Int.log 2 (m * 2 ^ e : ℚ) := by
    rw [le_log_iff hpos, zpow_add₀ (by norm_num)]
    exact mul_le_mul_of_nonneg_right hm1 (by positivity)
  have h2 : Int.log 2 (m * 2 ^ e : ℚ) < (m.log2 : Int) + 1 + e := by
    rw [log_lt_iff hpos, zpow_add₀ (by norm_num)]
    exact mul_lt_mul_of_pos_right hm2 (by positivity)
  omega

/-- A number of the format is its own nearest: its significand fills the bits, or its exponent is the least one. -/
theorem ofRatio_ratio {s : Bool} {m : Nat} {e : Int} (h : p.Canonical m e) (hm : m ≠ 0) :
    ofRatio s (ratio m e).1 (ratio m e).2 = finite s m e h := by
  obtain ⟨hlt, hmin, hmax, hfull⟩ := id h
  have hn : (ratio m e).1 ≠ 0 := by
    unfold ratio
    split <;> simp [hm]
  have hlog : m.log2 < p.bits := (Nat.log2_lt hm).2 hlt
  have he : max p.minExponent (binaryExponent (ratio m e).1 (ratio m e).2 - ((p.bits - 1 : Nat) : Int)) = e := by
    rw [binaryExponent_eq_log hn (ratio_snd m e), ratio_div, log_mul_two_pow hm]
    rcases hfull with hbig | hleast
    · have : p.bits - 1 ≤ m.log2 := (Nat.le_log2 hm).2 hbig
      omega
    · omega
  have hround : roundToEven (scaleDown (ratio m e).1 (ratio m e).2 e).1
      (scaleDown (ratio m e).1 (ratio m e).2 e).2 = m := by
    have hr := roundToEven_congr (c := m * 1) (d := 1) (scaleDown_snd (n := (ratio m e).1) (ratio_snd m e) e)
      one_ne_zero (by rw [scaleDown_div, ratio_div]; field_simp; push_cast; ring)
    rw [hr, roundToEven_self_mul m one_ne_zero]
  unfold ofRatio
  rw [if_neg hn]
  dsimp only
  rw [he, hround, if_neg (Nat.ne_of_lt hlt), ofPair, dif_pos h]

/-! ## Beyond the format -/

/-- A number above all of the format is read as infinite. -/
theorem ofRatio_of_le {s : Bool} {n d : Nat} (hn : n ≠ 0) (hd : d ≠ 0) (h : (2 : ℚ) ^ (1025 : Int) ≤ n / d) :
    (ofRatio s n d : Binary p) = infinite s := by
  have hpos : (0 : ℚ) < n / d := by positivity
  have hlog := (le_log_iff hpos _).2 h
  have hbeyond : ∀ m e, p.maxExponent < e → (ofPair s m e : Binary p) = infinite s := by
    intro m e he
    rw [ofPair, dif_neg fun hc => by have := hc.2.2.1; omega]
  have he : p.maxExponent < max p.minExponent (Int.log 2 (n / d : ℚ) - ((p.bits - 1 : Nat) : Int)) := by
    cases p <;> simp only [Precision.maxExponent, Precision.minExponent, Precision.bits] <;> omega
  unfold ofRatio
  rw [if_neg hn, binaryExponent_eq_log hn hd]
  dsimp only
  split
  · exact hbeyond _ _ (by omega)
  · exact hbeyond _ _ he

/-- A number far below the least of the format is read as zero, being less than half a unit at the least exponent. -/
theorem ofRatio_of_lt {s : Bool} {n d : Nat} (hn : n ≠ 0) (hd : d ≠ 0) (h : (n / d : ℚ) < 2 ^ (-1076 : Int)) :
    (ofRatio s n d : Binary p) = zero s := by
  have hpos : (0 : ℚ) < n / d := by positivity
  have hlog := (log_lt_iff hpos _).2 h
  have he : max p.minExponent (Int.log 2 (n / d : ℚ) - ((p.bits - 1 : Nat) : Int)) = p.minExponent := by
    cases p <;> simp only [Precision.minExponent, Precision.bits] <;> omega
  have hmin : (-1074 : Int) ≤ p.minExponent := by cases p <;> decide
  have hb : (0 : ℚ) < (scaleDown n d p.minExponent).2 := by
    exact_mod_cast Nat.pos_of_ne_zero (scaleDown_snd hd p.minExponent)
  have hhalf : 2 * (scaleDown n d p.minExponent).1 < (scaleDown n d p.minExponent).2 := by
    have hdiv : ((scaleDown n d p.minExponent).1 : ℚ) / (scaleDown n d p.minExponent).2 < 2 ^ (-1 : Int) := by
      rw [scaleDown_div, div_lt_iff₀ (by positivity), ← zpow_add₀ (by norm_num)]
      exact h.trans_le (zpow_le_zpow_right₀ (by norm_num) (by omega))
    rw [div_lt_iff₀ hb] at hdiv
    have hdiv' : (2 : ℚ) * (scaleDown n d p.minExponent).1 < (scaleDown n d p.minExponent).2 := by
      norm_num at hdiv
      linarith
    exact_mod_cast hdiv'
  unfold ofRatio
  rw [if_neg hn, binaryExponent_eq_log hn hd]
  dsimp only
  rw [he, roundToEven_of_lt hhalf]
  cases p <;> rfl

/-! ## Decimals -/

/-- A power of ten between two powers of two. -/
theorem ten_pow_bounds (k : Nat) : 2 ^ (43 * (k / 13)) ≤ 10 ^ k ∧ 10 ^ k ≤ 2 ^ (10 * (k / 3) + 10) := by
  constructor
  · calc 2 ^ (43 * (k / 13)) = (2 ^ 43) ^ (k / 13) := pow_mul _ _ _
      _ ≤ (10 ^ 13) ^ (k / 13) := Nat.pow_le_pow_left (by norm_num) _
      _ = 10 ^ (13 * (k / 13)) := (pow_mul _ _ _).symm
      _ ≤ 10 ^ k := Nat.pow_le_pow_right (by decide) (by omega)
  · calc 10 ^ k ≤ 10 ^ (3 * (k / 3) + 3) := Nat.pow_le_pow_right (by decide) (by omega)
      _ = (10 ^ 3) ^ (k / 3 + 1) := by rw [← pow_mul]; ring_nf
      _ ≤ (2 ^ 10) ^ (k / 3 + 1) := Nat.pow_le_pow_left (by norm_num) _
      _ = 2 ^ (10 * (k / 3) + 10) := by rw [← pow_mul]; ring_nf

/-- The ratio of a decimal is its digits times the power of ten. -/
theorem decimal_div (m : Nat) (e : Int) :
    ((m * 10 ^ e.toNat : Nat) : ℚ) / (10 ^ (-e).toNat : Nat) = m * 10 ^ e := by
  by_cases he : 0 ≤ e
  · obtain ⟨k, rfl⟩ := Int.eq_ofNat_of_zero_le he
    simp
  · obtain ⟨k, rfl⟩ := Int.exists_eq_neg_ofNat (show e ≤ 0 by omega)
    simp [div_eq_mul_inv]

/-- A decimal of more than 400 places before the point is above all of the format. -/
theorem le_decimal {m : Nat} {e : Int} (hm : m ≠ 0) (hlow : -5000 ≤ e)
    (h : 400 < ((Nat.log2 m * 30103 / 100000 : Nat) : Int) + e) : (2 : ℚ) ^ (1025 : Int) ≤ m * 10 ^ e := by
  have hm1 : (2 : ℚ) ^ m.log2 ≤ m := by exact_mod_cast Nat.log2_self_le hm
  by_cases he : 0 ≤ e
  · obtain ⟨k, rfl⟩ := Int.eq_ofNat_of_zero_le he
    have hten : (2 : ℚ) ^ (43 * (k / 13)) ≤ 10 ^ k := by exact_mod_cast (ten_pow_bounds k).1
    calc (2 : ℚ) ^ (1025 : Int) = 2 ^ 1025 := zpow_ofNat _ _
      _ ≤ 2 ^ (m.log2 + 43 * (k / 13)) := pow_le_pow_right₀ (by norm_num) (by omega)
      _ = 2 ^ m.log2 * 2 ^ (43 * (k / 13)) := pow_add _ _ _
      _ ≤ m * 10 ^ k := mul_le_mul hm1 hten (by positivity) (by positivity)
      _ = m * 10 ^ (k : Int) := by rw [zpow_natCast]
  · obtain ⟨k, rfl⟩ := Int.exists_eq_neg_ofNat (show e ≤ 0 by omega)
    have hten : (10 : ℚ) ^ k ≤ 2 ^ (10 * (k / 3) + 10) := by exact_mod_cast (ten_pow_bounds k).2
    rw [zpow_neg, ← div_eq_mul_inv, le_div_iff₀ (by positivity)]
    calc (2 : ℚ) ^ (1025 : Int) * 10 ^ (k : Int) = 2 ^ 1025 * 10 ^ k := by rw [zpow_ofNat, zpow_natCast]
      _ ≤ 2 ^ 1025 * 2 ^ (10 * (k / 3) + 10) := mul_le_mul_of_nonneg_left hten (by positivity)
      _ = 2 ^ (1025 + (10 * (k / 3) + 10)) := (pow_add _ _ _).symm
      _ ≤ 2 ^ m.log2 := pow_le_pow_right₀ (by norm_num) (by omega)
      _ ≤ m := hm1

/-- A decimal that begins more than 400 places after the point is far below the least of the format. -/
theorem decimal_lt {m : Nat} {e : Int} (hlow : -5000 ≤ e)
    (h : ((Nat.log2 m * 30103 / 100000 : Nat) : Int) + e < -400) : (m * 10 ^ e : ℚ) < 2 ^ (-1076 : Int) := by
  obtain ⟨k, rfl⟩ := Int.exists_eq_neg_ofNat (show e ≤ 0 by omega)
  have hm2 : (m : ℚ) < 2 ^ (m.log2 + 1) := by exact_mod_cast (Nat.lt_log2_self (n := m))
  have hten : (2 : ℚ) ^ (43 * (k / 13)) ≤ 10 ^ k := by exact_mod_cast (ten_pow_bounds k).1
  rw [zpow_neg, zpow_neg, ← div_eq_mul_inv, div_lt_iff₀ (by positivity), ← div_eq_inv_mul,
    lt_div_iff₀ (by positivity)]
  calc (m : ℚ) * 2 ^ (1076 : Int) = m * 2 ^ 1076 := by rw [zpow_ofNat]
    _ < 2 ^ (m.log2 + 1) * 2 ^ 1076 := mul_lt_mul_of_pos_right hm2 (by positivity)
    _ = 2 ^ (m.log2 + 1 + 1076) := (pow_add _ _ _).symm
    _ ≤ 2 ^ (43 * (k / 13)) := pow_le_pow_right₀ (by norm_num) (by omega)
    _ ≤ 10 ^ k := hten
    _ = 10 ^ (k : Int) := (zpow_natCast _ _).symm

/-- The bounds on the places of a decimal change nothing: its value is the nearest to its ratio. -/
theorem ofDecimal_eq_ofRatio {s : Bool} {m : Nat} {e : Int} (hlow : -5000 ≤ e) :
    (ofDecimal s m e : Binary p) = ofRatio s (m * 10 ^ e.toNat) (10 ^ (-e).toNat) := by
  by_cases hm : m = 0
  · simp [ofDecimal, ofRatio, hm]
  · have hn : m * 10 ^ e.toNat ≠ 0 := by positivity
    have hd : 10 ^ (-e).toNat ≠ 0 := by positivity
    unfold ofDecimal
    rw [if_neg hm]
    dsimp only
    split
    · rename_i h
      exact (ofRatio_of_le hn hd (by rw [decimal_div]; exact le_decimal hm hlow h)).symm
    · split
      · rename_i h
        exact (ofRatio_of_lt hn hd (by rw [decimal_div]; exact decimal_lt hlow h)).symm
      · split
        · rename_i he
          rw [show (-e).toNat = 0 by omega]
          rfl
        · rename_i he
          rw [show e.toNat = 0 by omega, pow_zero, mul_one]
          rfl

/-- Decimals that are the same number have the same nearest value. -/
theorem ofDecimal_congr {s : Bool} {m n : Nat} {e f : Int} (he : -5000 ≤ e) (hf : -5000 ≤ f)
    (h : (m * 10 ^ e : ℚ) = n * 10 ^ f) : (ofDecimal s m e : Binary p) = ofDecimal s n f := by
  rw [ofDecimal_eq_ofRatio he, ofDecimal_eq_ofRatio hf]
  exact ofRatio_congr (by positivity) (by positivity) (by rw [decimal_div, decimal_div, h])

end Binary

end TypedRoutes.Number
