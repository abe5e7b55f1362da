import TypedRoutes.Value.ParamType
import TypedRoutes.Proofs.Text.Trim
/-!
# Names of types

Every text names a type, and `ParamType.read_text_read` says that the text of this type names it again. A name is read
by its brackets first, from the outside in, and every reading of an inner name is by the same rule (`read_eq`), so
what is proved of all names is proved for those with no bracket and for those whose inner name has it already
(`name_induction`). The types that can be bound are those of a scalar name, and of a scalar name in one bracket.
-/
namespace TypedRoutes
open Text

/-! ## Scalar types -/

namespace ScalarType

/-- A name of a scalar type, the canonical one or another, in any ASCII case. -/
def IsName (cs : List Char) : Prop :=
  ∃ t : ScalarType, String.ofList (lowerAscii cs) ∈ t.name :: t.aliases

theorem mem_all (t : ScalarType) : t ∈ all := by
  rcases t with _ | _ | p | k | _ | _ | _
  · decide
  · decide
  · cases p <;> decide
  · cases k <;> decide
  · decide
  · decide
  · decide

theorem ofName?_isSome_iff {cs : List Char} : (ofName? cs).isSome = true ↔ IsName cs := by
  simp [ofName?, IsName, mem_all, List.find?_isSome]

theorem isAlphanum_of_mem_name {t : ScalarType} {name : String} (hn : name ∈ t.name :: t.aliases) {c : Char}
    (hc : c ∈ name.toList) : c.isAlphanum = true := by
  have h : ∀ u ∈ all, ∀ name ∈ u.name :: u.aliases, name.toList.all Char.isAlphanum = true := by decide
  exact List.all_eq_true.1 (h t t.mem_all name hn) c hc

/-- No name has a character that stays what it is in lower case and is neither a letter nor a digit. -/
theorem IsName.not_mem {cs : List Char} {c : Char} (h : IsName cs) (hl : c.toLower = c)
    (hc : c.isAlphanum = false) : c ∉ cs := by
  obtain ⟨t, hn⟩ := h
  intro hmem
  have hlower : c ∈ (String.ofList (lowerAscii cs)).toList := by
    rw [String.toList_ofList, lowerAscii, List.mem_map]
    exact ⟨c, hmem, hl⟩
  rw [isAlphanum_of_mem_name hn hlower] at hc
  cases hc

end ScalarType

/-! ## Reading a name -/

namespace ParamType
open ScalarType
variable {cs inner : List Char}

theorem between_eq_some_iff {word : List Char} {c : Char} :
    (afterWord? word cs).bind (beforeLast? c) = some inner ↔ cs = word ++ (inner ++ [c]) := by
  simp only [Option.bind_eq_some_iff, afterWord?_eq_some_iff, beforeLast?_eq_some_iff]
  constructor
  · rintro ⟨rest, rfl, rfl⟩
    rfl
  · rintro rfl
    exact ⟨inner ++ [c], rfl, rfl⟩

/-- The two forms of a bracket exclude each other, since a name of the second does not begin as one of the first. -/
theorem bracketed?_eq_some_iff :
    bracketed? cs = some inner ↔ cs = "list<".toList ++ (inner ++ ['>']) ∨ cs = '[' :: (inner ++ [']']) := by
  rw [bracketed?, Option.orElse_eq_orElse, Option.orElse_eq_or, Option.or_eq_some_iff, between_eq_some_iff,
    between_eq_some_iff]
  exact or_congr_right (and_iff_right_of_imp fun h => h ▸ rfl)

theorem length_lt_of_bracketed? (h : bracketed? (trim isBlank cs) = some inner) : inner.length < cs.length := by
  have htrim := ((trimEnd_prefix_self isBlank _).length_le).trans (List.dropWhile_sublist (l := cs) isBlank).length_le
  change (trim isBlank cs).length ≤ _ at htrim
  rcases bracketed?_eq_some_iff.1 h with h | h
  · rw [h, List.length_append, List.length_append, List.length_singleton] at htrim
    omega
  · rw [h, List.length_cons, List.length_append, List.length_singleton] at htrim
    omega

/-- A depth of more than the length is enough, whatever it is. -/
theorem readWithin_congr {m n : Nat} (hm : cs.length < m) (hn : cs.length < n) :
    readWithin m cs = readWithin n cs := by
  induction m generalizing n cs with
  | zero => omega
  | succ m ih =>
    cases n with
    | zero => omega
    | succ n =>
      rw [readWithin, readWithin]
      cases hb : bracketed? (trim isBlank cs) with
      | none => rfl
      | some inner =>
        have hlt := length_lt_of_bracketed? hb
        exact congrArg sequence (ih (by omega) (by omega))

/-- A name is read by its brackets, and without any as the name of a scalar type or a custom type. -/
theorem read_eq (cs : List Char) :
    read cs =
      match bracketed? (trim isBlank cs) with
      | some inner => .sequence (read inner)
      | none =>
        match ofName? (trim isBlank cs) with
        | some t => .scalar t
        | none => .custom (String.ofList (trim isBlank cs)) := by
  rw [read, readWithin]
  cases hb : bracketed? (trim isBlank cs) with
  | none => rfl
  | some inner => exact congrArg sequence (readWithin_congr (length_lt_of_bracketed? hb) (Nat.lt_succ_self _))

theorem read_bracketed (h : bracketed? (trim isBlank cs) = some inner) : read cs = .sequence (read inner) := by
  rw [read_eq, h]

/-- What holds of names with no bracket, and of a name if it holds of the inner one, holds of all names. -/
theorem name_induction {motive : List Char → Prop}
    (bracketed : ∀ cs inner, bracketed? (trim isBlank cs) = some inner → motive inner → motive cs)
    (plain : ∀ cs, bracketed? (trim isBlank cs) = none → motive cs) (cs : List Char) : motive cs := by
  induction hl : cs.length using Nat.strong_induction_on generalizing cs with
  | _ n ih =>
    cases hb : bracketed? (trim isBlank cs) with
    | none => exact plain cs hb
    | some inner =>
      have hlt := length_lt_of_bracketed? hb
      exact bracketed cs inner hb (ih inner.length (by omega) inner rfl)

/-- Blanks around a name do not matter. -/
theorem read_append {before behind : List Char} (hb : ∀ c ∈ before, isBlank c = true)
    (ha : ∀ c ∈ behind, isBlank c = true) (cs : List Char) : read (before ++ cs ++ behind) = read cs := by
  rw [read_eq, trim_append hb ha, ← read_eq]

theorem read_trim (cs : List Char) : read (trim isBlank cs) = read cs := by
  rw [read_eq, trim_trim, ← read_eq]

/-! ## The text of a type -/

theorem text_sequence (t : ParamType) : (sequence t).text = "list<".toList ++ (t.text ++ ['>']) :=
  List.append_assoc _ _ _

theorem text_custom (name : String) : (custom name).text = name.toList := rfl

/-- The text of a sequence is bracketed, with nothing to be trimmed. -/
theorem bracketed?_text_sequence (t : ParamType) :
    bracketed? (trim isBlank (sequence t).text) = some t.text := by
  have hlast : ("list<".toList ++ (t.text ++ ['>'])).getLast? = some '>' := by
    rw [← List.append_assoc, List.getLast?_concat]
  rw [text_sequence, trim_eq_self (by rintro c ⟨⟩; rfl) (by rw [hlast]; rintro c ⟨⟩; rfl)]
  exact bracketed?_eq_some_iff.2 (.inl rfl)

theorem read_name (t : ScalarType) : read t.name.toList = .scalar t := by
  have h : ∀ u ∈ all, read u.name.toList = .scalar u := by decide
  exact h t t.mem_all

/-- The text of a type that a name was read as names that type. -/
theorem read_text (cs : List Char) : read (read cs).text = read cs := by
  induction cs using name_induction with
  | bracketed cs inner hb ih => rw [read_bracketed hb, read_bracketed (bracketed?_text_sequence _), ih]
  | plain cs hb =>
    rw [read_eq cs, hb]
    dsimp only
    split
    · exact read_name _
    · rename_i hn
      rw [text_custom, String.toList_ofList, read_trim, read_eq, hb]
      dsimp only
      rw [hn]

/-! ## Types that can be bound -/

theorem not_isName_of_bracketed? (h : bracketed? cs = some inner) : ¬ IsName cs := by
  intro hn
  rcases bracketed?_eq_some_iff.1 h with rfl | rfl
  · exact hn.not_mem (c := '>') (by decide) (by decide) (by simp)
  · exact hn.not_mem (c := ']') (by decide) (by decide) (by simp)

theorem scalar?_read_isSome_iff : (read cs).scalar?.isSome = true ↔ IsName (trim isBlank cs) := by
  rw [read_eq]
  split
  · rename_i hb
    simp [scalar?, not_isName_of_bracketed? hb]
  · rw [← ofName?_isSome_iff]
    split <;> simp [scalar?, *]

/-- A type can be bound if it is named as a scalar, or by a scalar in one bracket. -/
theorem isBindable_read_iff : (read cs).isBindable = true ↔
    IsName (trim isBlank cs) ∨ ∃ inner, bracketed? (trim isBlank cs) = some inner ∧ IsName (trim isBlank inner) := by
  cases hb : bracketed? (trim isBlank cs) with
  | some inner =>
    rw [read_bracketed hb, isBindable, scalar?_read_isSome_iff]
    simp [not_isName_of_bracketed? hb]
  | none =>
    rw [← ofName?_isSome_iff, read_eq, hb]
    dsimp only
    split <;> simp [isBindable, *]

/-- The text of a type, with blanks around it or none, names the type it was read as; and the type can be bound if
its name is that of a scalar, or of a scalar in one bracket of either form. -/
theorem read_text_read (cs : List Char) {before behind : List Char} (hb : ∀ c ∈ before, isBlank c = true)
    (ha : ∀ c ∈ behind, isBlank c = true) :
    read (before ++ (read cs).text ++ behind) = read cs ∧
      ((read cs).isBindable = true ↔ IsName (trim isBlank cs) ∨ ∃ inner, IsName (trim isBlank inner) ∧
        (trim isBlank cs = "list<".toList ++ (inner ++ ['>']) ∨ trim isBlank cs = '[' :: (inner ++ [']']))) := by
  refine ⟨by rw [read_append hb ha, read_text], ?_⟩
  rw [isBindable_read_iff]
  simp only [bracketed?_eq_some_iff, and_comm]

/-- A list of lists, in both forms, and a bracket that is not closed. -/
theorem read_text_read_nested :
    read ([' '] ++ (read " [list< I32 >] ".toList).text ++ [' ']) = .sequence (.sequence (.scalar (.integer .int))) ∧
      (read " [list< I32 >] ".toList).isBindable = false := by
  have hread : read " [list< I32 >] ".toList = .sequence (.sequence (.scalar (.integer .int))) := by decide
  have hb : ∀ c ∈ [' '], isBlank c = true := List.forall_mem_singleton.2 rfl
  obtain ⟨htext, -⟩ := read_text_read " [list< I32 >] ".toList hb hb
  exact ⟨htext.trans hread, by rw [hread]; rfl⟩

end ParamType

end TypedRoutes
