import TypedRoutes.Proofs.Text.AsciiCase
import TypedRoutes.Text.CaseFold
/-!
# Folded forms

A character is its own folded form, or in a range of those that fold to a character some way on (`foldCase_cases`). The
folded forms of ASCII are the small letters. So characters that are equal up to the case of ASCII letters have one
folded form. Others may have it as well: these are the `OtherForm`s of a character. Within ASCII only the letters k and
s have any, the Kelvin sign and the long s (`otherForm_ascii_iff`).
-/
namespace TypedRoutes.Text

/-! ## Ranges -/

theorem toNat_ofNat_of_isValidChar {n : Nat} (h : n.isValidChar) : (Char.ofNat n).toNat = n := by
  rw [Char.ofNat, dif_pos h]
  rfl

/-- The ranges lead to characters. -/
theorem shift_isValidChar : ∀ r ∈ foldRanges, 0 ≤ r.first + r.shift ∧
    (r.last + r.shift < 0xD800 ∨ 0xDFFF < r.first + r.shift ∧ r.last + r.shift < 0x110000) := by
  decide +kernel

theorem foldCase_cases (c : Char) :
    (foldCase c = c ∧ ∀ r ∈ foldRanges, r.covers c.toNat = false) ∨
      ∃ r ∈ foldRanges, r.first ≤ c.toNat ∧ c.toNat ≤ r.last ∧ ((foldCase c).toNat : Int) = c.toNat + r.shift := by
  unfold foldCase
  split
  · rename_i r hr
    have hm := List.mem_of_find?_eq_some hr
    have hcovers := List.find?_some hr
    simp only [FoldRange.covers, Bool.and_eq_true, decide_eq_true_eq] at hcovers
    obtain ⟨⟨hfirst, hlast⟩, -⟩ := hcovers
    have hshift := shift_isValidChar r hm
    have hvalid : ((c.toNat : Int) + r.shift).toNat.isValidChar := by
      unfold Nat.isValidChar
      omega
    refine .inr ⟨r, hm, hfirst, hlast, ?_⟩
    rw [toNat_ofNat_of_isValidChar hvalid]
    omega
  · rename_i hnone
    refine .inl ⟨rfl, fun r hr => ?_⟩
    exact Bool.eq_false_iff.2 (List.find?_eq_none.1 hnone r hr)

/-- No character before the letters has another folded form. -/
theorem foldCase_of_lt {c : Char} (h : c.toNat < 65) : foldCase c = c := by
  have hfirst : ∀ r ∈ foldRanges, 65 ≤ r.first := by decide +kernel
  rcases foldCase_cases c with ⟨hc, -⟩ | ⟨r, hr, hle, -⟩
  · exact hc
  · have := hfirst r hr
    omega

/-- No other character has a character before the letters for its folded form. -/
theorem eq_of_foldCase_eq {c m : Char} (hm : m.toNat < 64) (h : foldCase c = m) : c = m := by
  have hshift : ∀ r ∈ foldRanges, (64 : Int) ≤ r.first + r.shift := by decide +kernel
  rcases foldCase_cases c with ⟨hc, -⟩ | ⟨r, hr, hfirst, -, hn⟩
  · exact hc.symm.trans h
  · have := hshift r hr
    rw [h] at hn
    omega

/-! ## Folding within ASCII -/

/-- The range of the capitals of ASCII is the only one within it. -/
theorem range_from_ascii : ∀ r ∈ foldRanges, r.first < 128 → r.first = 65 ∧ r.last = 90 ∧ r.shift = 32 := by
  decide +kernel

theorem foldCase_ascii {c : Char} (h : c.toNat < 128) : foldCase c = c.toLower := by
  rw [← Char.toNat_inj, toNat_toLower]
  rcases foldCase_cases c with ⟨hc, hnone⟩ | ⟨r, hr, hfirst, hlast, hn⟩
  · have hcapitals := hnone ⟨65, 90, 1, 32⟩ List.mem_cons_self
    simp only [FoldRange.covers, Nat.mod_one, beq_self_eq_true, Bool.and_true, Bool.and_eq_false_iff,
      decide_eq_false_iff_not] at hcapitals
    rw [hc, if_neg (by omega)]
  · obtain ⟨h1, h2, h3⟩ := range_from_ascii r hr (by omega)
    rw [if_pos (by omega)]
    omega

/-- The small letter has the folded form of the capital. -/
theorem foldCase_toLower (c : Char) : foldCase c.toLower = foldCase c := by
  have hlower := toNat_toLower c
  by_cases hc : 65 ≤ c.toNat ∧ c.toNat ≤ 90
  · rw [if_pos hc] at hlower
    rw [foldCase_ascii (by omega), foldCase_ascii (by omega), toLower_toLower]
  · rw [if_neg hc] at hlower
    rw [Char.toNat_inj.1 hlower]

theorem foldCase_eq_of_toLower_eq {a b : Char} (h : a.toLower = b.toLower) : foldCase a = foldCase b := by
  rw [← foldCase_toLower a, h, foldCase_toLower]

/-! ## Other forms -/

/-- A character that is not the same up to the case of ASCII letters, but has the same folded form. -/
def OtherForm (a b : Char) : Prop :=
  foldCase a = foldCase b ∧ a.toLower ≠ b.toLower

instance (a b : Char) : Decidable (OtherForm a b) :=
  inferInstanceAs (Decidable (_ ∧ _))

theorem foldCase_eq_iff {a b : Char} : foldCase a = foldCase b ↔ a.toLower = b.toLower ∨ OtherForm a b := by
  constructor
  · intro h
    by_cases hl : a.toLower = b.toLower
    · exact .inl hl
    · exact .inr ⟨h, hl⟩
  · rintro (h | h)
    · exact foldCase_eq_of_toLower_eq h
    · exact h.1

/-- The ranges that lead into ASCII are those of its capitals, of the long s and of the Kelvin sign. -/
theorem range_into_ascii : ∀ r ∈ foldRanges, r.first + r.shift < 128 →
    (r.first = 65 ∧ r.last = 90 ∧ r.shift = 32) ∨ (r.first = 0x17F ∧ r.last = 0x17F ∧ r.shift = -268) ∨
      (r.first = 0x212A ∧ r.last = 0x212A ∧ r.shift = -8383) := by
  decide +kernel

/-- What is folded into ASCII is folded to its small letter, but for the long s and the Kelvin sign. -/
theorem foldCase_into_ascii {c : Char} (h : (foldCase c).toNat < 128) :
    foldCase c = c.toLower ∨ (c = '\u017F' ∧ foldCase c = 's') ∨ (c = '\u212A' ∧ foldCase c = 'k') := by
  rcases foldCase_cases c with ⟨hc, -⟩ | ⟨r, hr, hfirst, hlast, hn⟩
  · rw [hc] at h
    exact .inl (foldCase_ascii h)
  · rcases range_into_ascii r hr (by omega) with ⟨h1, h2, h3⟩ | ⟨h1, h2, h3⟩ | ⟨h1, h2, h3⟩
    · exact .inl (foldCase_ascii (by omega))
    · have hc : c = '\u017F' := Char.toNat_inj.1 (by rw [show '\u017F'.toNat = 0x17F from rfl]; omega)
      refine .inr (.inl ⟨hc, ?_⟩)
      rw [hc]
      decide +kernel
    · have hc : c = '\u212A' := Char.toNat_inj.1 (by rw [show '\u212A'.toNat = 0x212A from rfl]; omega)
      refine .inr (.inr ⟨hc, ?_⟩)
      rw [hc]
      decide +kernel

/-- The other forms of characters of ASCII: the long s of an s, and the Kelvin sign of a k. -/
theorem otherForm_ascii_iff {a b : Char} (ha : a.toNat < 128) :
    OtherForm a b ↔ (a.toLower = 's' ∧ b = '\u017F') ∨ (a.toLower = 'k' ∧ b = '\u212A') := by
  have hlower : a.toLower.toNat < 128 := by
    rw [toNat_toLower]
    split <;> omega
  rw [OtherForm, foldCase_ascii ha]
  constructor
  · rintro ⟨hf, hne⟩
    rcases foldCase_into_ascii (hf ▸ hlower) with hb | ⟨hb, hs⟩ | ⟨hb, hk⟩
    · exact absurd (hf.trans hb) hne
    · exact .inl ⟨hf.trans hs, hb⟩
    · exact .inr ⟨hf.trans hk, hb⟩
  · rintro (⟨hs, rfl⟩ | ⟨hk, rfl⟩)
    · rw [hs]
      decide +kernel
    · rw [hk]
      decide +kernel

end TypedRoutes.Text
