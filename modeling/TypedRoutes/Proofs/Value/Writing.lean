import TypedRoutes.Proofs.Value.Binding
/-!
# Which values can be written

Every value has a text for its segment, `Value.placed`, but not every one may stand there: an element may hold the
separator and would be split, and the text may be empty or hold a mark that ends the segment or the path.
`Value.encode_eq_ok_iff` says that all other values are written as that text, and `Value.encode_eq_error_iff` which of
the three faults is reported.
-/
namespace TypedRoutes.Value
open Text

/-! ## The text of a value -/

/-- The text of an element of a list: percent-encoded if the element is a text. -/
def placedElement : Value → List Char
  | scalar (.text s) => Percent.encode s
  | v => v.plain

/-- The text of a value in a segment. -/
def placed : Value → List Char
  | scalar s => s.plain
  | list items => join separator (items.map placedElement)

def isText : Value → Bool
  | scalar (.text _) => true
  | _ => false

/-- An element that would be read as several: it is no text, and its own text holds the separator. -/
def ElementSplits (v : Value) : Prop :=
  v.isText = false ∧ separator ∈ v.plain

instance (v : Value) : Decidable v.ElementSplits :=
  inferInstanceAs (Decidable (_ ∧ _))

/-- A list with an element that would be read as several. -/
def Splits : Value → Prop
  | scalar _ => False
  | list items => ∃ item ∈ items, item.ElementSplits

instance Splits.decidable : (v : Value) → Decidable v.Splits
  | scalar _ => .isFalse id
  | list items => inferInstanceAs (Decidable (∃ item ∈ items, item.ElementSplits))

/-- A value whose text can stand in a segment, with none of its elements split. -/
structure Placeable (v : Value) : Prop where
  whole : ¬ v.Splits
  fits : FitsSegment v.placed

instance (cs : List Char) : Decidable (FitsSegment cs) :=
  decidable_of_iff (cs ≠ [] ∧ cs.any isReserved = false) (by simp [FitsSegment])

instance (v : Value) : Decidable v.Placeable :=
  decidable_of_iff (¬ v.Splits ∧ FitsSegment v.placed) ⟨fun h => ⟨h.1, h.2⟩, fun h => ⟨h.whole, h.fits⟩⟩

/-- Why the text of a value cannot stand in a segment. -/
inductive Unplaceable (v : Value) : WriteFault → Prop
  | separator (hs : v.Splits) : Unplaceable v .separator
  | empty (hs : ¬ v.Splits) (he : v.placed = []) : Unplaceable v .empty
  | reserved {c : Char} (hs : ¬ v.Splits) (hc : c ∈ v.placed) (hr : isReserved c = true) : Unplaceable v .reserved

/-! ## Elements -/

/-- An element that is no text is written as it prints. -/
theorem placedElement_of_not_text {v : Value} (h : v.isText = false) : v.placedElement = v.plain := by
  unfold placedElement
  split
  · cases h
  · rfl

theorem encodeElement_of_splits {v : Value} (h : v.ElementSplits) : encodeElement v = .error .separator := by
  unfold encodeElement
  split
  · cases h.1
  · exact if_pos h.2

theorem encodeElement_of_not_splits {v : Value} (h : ¬ v.ElementSplits) : encodeElement v = .ok v.placedElement := by
  unfold encodeElement
  split
  · rfl
  · rename_i hv
    have htext : v.isText = false := by
      unfold isText
      split
      · exact absurd rfl (hv _)
      · rfl
    rw [placedElement_of_not_text htext]
    exact if_neg fun hs => h ⟨htext, hs⟩

theorem encodeElements_of_splits {items : List Value} (h : ∃ item ∈ items, item.ElementSplits) :
    encodeElements items = .error .separator := by
  induction items with
  | nil =>
    obtain ⟨item, hm, -⟩ := h
    cases hm
  | cons item items ih =>
    rw [encodeElements]
    by_cases hs : item.ElementSplits
    · rw [encodeElement_of_splits hs]
      rfl
    · have hmore : ∃ other ∈ items, other.ElementSplits := by
        obtain ⟨other, hm, ho⟩ := h
        rcases List.mem_cons.1 hm with rfl | hm
        · exact absurd ho hs
        · exact ⟨other, hm, ho⟩
      rw [encodeElement_of_not_splits hs, ih hmore]
      rfl

theorem encodeElements_of_not_splits {items : List Value} (h : ¬ ∃ item ∈ items, item.ElementSplits) :
    encodeElements items = .ok (items.map placedElement) := by
  induction items with
  | nil => rfl
  | cons item items ih =>
    simp only [List.exists_mem_cons_iff, not_or] at h
    rw [encodeElements, encodeElement_of_not_splits h.1, ih h.2]
    rfl

/-! ## Values -/

theorem segmentText_of_splits {v : Value} (h : v.Splits) : v.segmentText = .error .separator := by
  cases v with
  | scalar s => exact h.elim
  | list items =>
    rw [segmentText, encodeElements_of_splits h]
    rfl

theorem segmentText_of_not_splits {v : Value} (h : ¬ v.Splits) : v.segmentText = .ok v.placed := by
  cases v with
  | scalar s => rfl
  | list items =>
    rw [segmentText, encodeElements_of_not_splits h]
    rfl

/-- What is left to check of a text that is not split. -/
theorem encode_of_not_splits {v : Value} (h : ¬ v.Splits) :
    v.encode = if v.placed.isEmpty then .error .empty
      else if v.placed.any isReserved then .error .reserved else .ok v.placed := by
  rw [encode, segmentText_of_not_splits h]
  rfl

/-- A value is written as its text, if that can stand in a segment. -/
theorem encode_eq_ok_iff {v : Value} {cs : List Char} : v.encode = .ok cs ↔ v.Placeable ∧ cs = v.placed := by
  constructor
  · intro h
    obtain ⟨htext, hfits⟩ := encode_ok h
    by_cases hs : v.Splits
    · rw [segmentText_of_splits hs] at htext
      cases htext
    · rw [segmentText_of_not_splits hs] at htext
      cases htext
      exact ⟨⟨hs, hfits⟩, rfl⟩
  · rintro ⟨h, rfl⟩
    exact encode_of_fits (segmentText_of_not_splits h.whole) h.fits

/-- The fault of a value is reported if its text cannot stand in a segment. -/
theorem encode_eq_error_iff {v : Value} {fault : WriteFault} : v.encode = .error fault ↔ v.Unplaceable fault := by
  by_cases hs : v.Splits
  · have hfault : v.encode = .error .separator := by
      rw [encode, segmentText_of_splits hs]
      rfl
    rw [hfault]
    constructor
    · rintro ⟨⟩
      exact .separator hs
    · rintro (_ | ⟨hn, _⟩ | ⟨hn, _, _⟩)
      · rfl
      · exact absurd hs hn
      · exact absurd hs hn
  · rw [encode_of_not_splits hs]
    constructor
    · intro h
      split at h
      · rename_i he
        cases h
        exact .empty hs (List.isEmpty_iff.1 he)
      · split at h
        · rename_i hr
          cases h
          obtain ⟨c, hc, hr⟩ := List.any_eq_true.1 hr
          exact .reserved hs hc hr
        · cases h
    · rintro (hn | ⟨-, he⟩ | ⟨-, hc, hr⟩)
      · exact absurd hn hs
      · rw [he]
        rfl
      · rw [if_neg (by simpa using List.ne_nil_of_mem hc), if_pos (List.any_eq_true.2 ⟨_, hc, hr⟩)]

end TypedRoutes.Value
