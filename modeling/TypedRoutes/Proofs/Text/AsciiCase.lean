import Mathlib.Data.Bool.AllAny
import Mathlib.Data.List.Infix
import TypedRoutes.Text.Trim
import TypedRoutes.Text.Uppercase
/-!
# The case of ASCII letters

Texts are equal up to the case of ASCII letters if they are the same in small letters. The capitals of a text are more
than that: a few letters outside ASCII have capitals within it (`outsideLetters`). A word of ASCII capitals in which no
such letter has its place is made of exactly the texts that are equal to it up to case (`flatMap_capitals_eq_iff`).
-/
namespace TypedRoutes.Text

/-! ## Small letters and capitals -/

theorem toNat_toLower (c : Char) :
    c.toLower.toNat = if 65 ≤ c.toNat ∧ c.toNat ≤ 90 then c.toNat + 32 else c.toNat := by
  have hrange : c.val ≥ 'A'.val ∧ c.val ≤ 'Z'.val ↔ 65 ≤ c.toNat ∧ c.toNat ≤ 90 := Iff.rfl
  unfold Char.toLower
  split
  · rename_i h
    have hval : c.toNat ≤ 90 := (hrange.1 h).2
    have hsum : (c.val + 32).toNat = c.toNat + 32 := by
      rw [UInt32.toNat_add]
      simp
      omega
    rw [if_pos (hrange.1 h)]
    exact hsum
  · rename_i h
    rw [if_neg fun hc => h (hrange.2 hc)]

theorem toNat_toUpper (c : Char) :
    c.toUpper.toNat = if 97 ≤ c.toNat ∧ c.toNat ≤ 122 then c.toNat - 32 else c.toNat := by
  have hrange : 'a'.val ≤ c.val ∧ c.val ≤ 'z'.val ↔ 97 ≤ c.toNat ∧ c.toNat ≤ 122 := Iff.rfl
  unfold Char.toUpper
  split
  · rename_i h
    have hval : 97 ≤ c.toNat ∧ c.toNat ≤ 122 := hrange.1 h
    have hsum : (c.val + ('A'.val - 'a'.val)).toNat = c.toNat - 32 := by
      rw [UInt32.toNat_add]
      simp
      omega
    rw [if_pos (hrange.1 h)]
    exact hsum
  · rename_i h
    rw [if_neg fun hc => h (hrange.2 hc)]

/-- Small letters stay. -/
theorem toLower_toLower (c : Char) : c.toLower.toLower = c.toLower := by
  have hlower := toNat_toLower c
  rw [← Char.toNat_inj, toNat_toLower c.toLower, if_neg]
  split at hlower <;> omega

theorem isUpper_iff {c : Char} : c.isUpper = true ↔ 65 ≤ c.toNat ∧ c.toNat ≤ 90 :=
  decide_eq_true_iff

/-- The characters with a capital of ASCII for their capital are its two forms. -/
theorem toUpper_eq_iff {c capital : Char} (h : capital.isUpper = true) :
    c.toUpper = capital ↔ c.toLower = capital.toLower := by
  rw [isUpper_iff] at h
  rw [← Char.toNat_inj, ← Char.toNat_inj, toNat_toUpper, toNat_toLower, toNat_toLower, if_pos h]
  split <;> split <;> omega

theorem map_toUpper_eq_iff {cs word : List Char} (h : word.all Char.isUpper = true) :
    cs.map Char.toUpper = word ↔ lowerAscii cs = lowerAscii word := by
  induction word generalizing cs with
  | nil => simp [lowerAscii]
  | cons w word ih =>
    rw [List.all_cons, Bool.and_eq_true] at h
    cases cs with
    | nil => simp [lowerAscii]
    | cons c cs =>
      rw [List.map_cons, List.cons.injEq, ih h.2, toUpper_eq_iff h.1]
      simp only [lowerAscii, List.map_cons, List.cons.injEq]

/-! ## Capitals of letters outside ASCII -/

/-- The letters outside ASCII with capitals within it: the sharp s, the dotless i, the long s and the ligatures. -/
def outsideLetters : List Char :=
  ['\u00DF', '\u0131', '\u017F', '\uFB00', '\uFB01', '\uFB02', '\uFB03', '\uFB04', '\uFB05', '\uFB06']

theorem capitals_of_not_mem {c : Char} (h : c ∉ outsideLetters) : capitals c = [c.toUpper] := by
  simp only [outsideLetters, List.mem_cons, List.not_mem_nil, or_false, not_or] at h
  simp [capitals, h]

theorem flatMap_capitals_of_not_mem {cs : List Char} (h : ∀ c ∈ cs, c ∉ outsideLetters) :
    cs.flatMap capitals = cs.map Char.toUpper := by
  rw [List.map_eq_flatMap]
  exact List.flatMap_congr fun c hc => capitals_of_not_mem (h c hc)

/-- What a character is written as stands in the capitals of its text. -/
theorem capitals_within {cs : List Char} {c : Char} (h : c ∈ cs) : capitals c <:+: cs.flatMap capitals := by
  obtain ⟨front, behind, rfl⟩ := List.append_of_mem h
  rw [List.flatMap_append, List.flatMap_cons, ← List.append_assoc]
  exact ⟨_, _, rfl⟩

theorem not_mem_outsideLetters {c : Char} (h : c.toUpper.isUpper = true) : c ∉ outsideLetters := by
  have hnone : ∀ c ∈ outsideLetters, c.toUpper.isUpper = false := List.all_iff_forall_prop.1 (by decide)
  intro hc
  rw [hnone c hc] at h
  cases h

/-- A text that is equal to a word of capitals up to case has this word for its capitals. -/
theorem flatMap_capitals_of_lowerAscii {cs word : List Char} (hw : word.all Char.isUpper = true)
    (h : lowerAscii cs = lowerAscii word) : cs.flatMap capitals = word := by
  have hupper := (map_toUpper_eq_iff hw).2 h
  have hin : ∀ c ∈ cs, c ∉ outsideLetters := by
    intro c hc
    refine not_mem_outsideLetters (List.all_eq_true.1 hw _ ?_)
    rw [← hupper]
    exact List.mem_map_of_mem hc
  rw [flatMap_capitals_of_not_mem hin, hupper]

/-- A word of capitals, none of them those of a letter outside ASCII, has its texts within ASCII. -/
theorem flatMap_capitals_eq_iff {cs word : List Char} (hw : word.all Char.isUpper = true)
    (ho : outsideLetters.all (fun c => ¬ capitals c <:+: word) = true) :
    cs.flatMap capitals = word ↔ lowerAscii cs = lowerAscii word := by
  constructor
  · rintro rfl
    have hin : ∀ c ∈ cs, c ∉ outsideLetters := fun c hc hm =>
      List.all_iff_forall_prop.1 ho c hm (capitals_within hc)
    rw [← map_toUpper_eq_iff hw, flatMap_capitals_of_not_mem hin]
  · exact flatMap_capitals_of_lowerAscii hw

end TypedRoutes.Text
