import Mathlib.Data.List.Forall2
import TypedRoutes.Proofs.Template.Search
/-!
# Divisions of a path

A division cuts a path along the tokens of a template: a literal takes a part that is the same text to the
pattern, and a placeholder takes a text of its own, one character or more and no slash. A path may have many
divisions.

`search_division`: what the search captures is a division. `search_of_division`: if there is a division, the
search captures one, and of all divisions the one whose texts have the least lengths, compared from left to
right. No two divisions have the same lengths (`Division.eq_of_lengths`).
-/
namespace TypedRoutes
open Pattern

/-- Two texts that are the same to a pattern, character by character. -/
def SameText (foldsCase : Bool) (text piece : List Char) : Prop :=
  List.Forall₂ (fun l c => sameChar foldsCase l c = true) text piece

/-- A text that a placeholder may stand for. -/
def FillsPlaceholder (text : List Char) : Prop :=
  text ≠ [] ∧ '/' ∉ text

instance (text : List Char) : Decidable (FillsPlaceholder text) :=
  inferInstanceAs (Decidable (_ ∧ _))

/-- The texts divide the path along the tokens: one text for each placeholder, in order. -/
def Division (foldsCase : Bool) : List Token → List (List Char) → List Char → Prop
  | [], texts, path => texts = [] ∧ path = []
  | .literal text :: tokens, texts, path =>
    ∃ piece rest, path = piece ++ rest ∧ SameText foldsCase text piece ∧ Division foldsCase tokens texts rest
  | .placeholder _ :: tokens, texts, path =>
    ∃ text more rest, texts = text :: more ∧ path = text ++ rest ∧ FillsPlaceholder text ∧
      Division foldsCase tokens more rest

/-- The first lengths are the same as the second, or less at the first place where they differ. -/
def NoLonger (texts others : List (List Char)) : Prop :=
  texts.map List.length = others.map List.length ∨
    List.Lex (· < ·) (texts.map List.length) (others.map List.length)

/-! ## Literals -/

@[simp] theorem sameChar_refl (foldsCase : Bool) (c : Char) : sameChar foldsCase c c = true := by
  simp [sameChar]

@[simp] theorem sameText_refl (foldsCase : Bool) (text : List Char) : SameText foldsCase text text :=
  List.forall₂_same.2 fun c _ => sameChar_refl foldsCase c

theorem SameText.length_eq {foldsCase : Bool} {text piece : List Char} (h : SameText foldsCase text piece) :
    text.length = piece.length :=
  List.Forall₂.length_eq h

theorem sameText_exact {text piece : List Char} (h : SameText false text piece) : text = piece := by
  induction h with
  | nil => rfl
  | cons hc _ ih => simp_all [sameChar]

theorem afterText?_eq_some {foldsCase : Bool} {text path rest : List Char} :
    afterText? foldsCase text path = some rest ↔ ∃ piece, path = piece ++ rest ∧ SameText foldsCase text piece := by
  induction text generalizing path with
  | nil =>
    constructor
    · rintro ⟨⟩
      exact ⟨[], rfl, .nil⟩
    · rintro ⟨_, rfl, ⟨⟩⟩
      rfl
  | cons l ls ih =>
    constructor
    · intro h
      cases path with
      | nil => cases h
      | cons c cs =>
        rw [afterText?] at h
        split at h
        · rename_i hc
          obtain ⟨piece, rfl, hp⟩ := ih.1 h
          exact ⟨c :: piece, rfl, .cons hc hp⟩
        · cases h
    · rintro ⟨_, rfl, hs⟩
      cases hs with
      | @cons _ c _ piece hc hp =>
        rw [List.cons_append, afterText?, if_pos hc]
        exact ih.2 ⟨piece, rfl, hp⟩

/-! ## Gaps -/

@[simp] theorem fillsGap_iff (c : Char) : fillsGap c = true ↔ c ≠ '/' := by
  simp [fillsGap]

theorem fillsPlaceholder_cons {c : Char} {text : List Char} :
    FillsPlaceholder (c :: text) ↔ c ≠ '/' ∧ '/' ∉ text := by
  simp [FillsPlaceholder, eq_comm]

section Gap
variable {k : List Char → Option Captures}

theorem takeGap_cons (c : Char) (cs : List Char) (hc : c ≠ '/') :
    takeGap k (c :: cs) = match k cs with
      | some captures => some ([c], captures)
      | none => (takeGap k cs).map fun (text, captures) => (c :: text, captures) := by
  have hf := (fillsGap_iff c).2 hc
  simp only [takeGap, gapAnswer, hf, if_true]
  cases k cs with
  | some captures => rfl
  | none =>
    cases gapAnswer none shortestGap (fun rest => (k rest).map ([], ·)) cs with
    | none => rfl
    | some found => rfl

/-- The text that a gap takes is one that a placeholder may stand for, and `k` captures what follows. -/
theorem takeGap_sound {path text : List Char} {captures : Captures}
    (h : takeGap k path = some (text, captures)) :
    ∃ rest, path = text ++ rest ∧ FillsPlaceholder text ∧ k rest = some captures := by
  induction path generalizing text with
  | nil => cases h
  | cons c cs ih =>
    by_cases hc : c = '/'
    · subst hc; cases h
    · rw [takeGap_cons c cs hc] at h
      cases hk : k cs with
      | some found =>
        rw [hk] at h
        obtain ⟨rfl, rfl⟩ : [c] = text ∧ found = captures := by simpa using h
        exact ⟨cs, rfl, fillsPlaceholder_cons.2 ⟨hc, by simp⟩, hk⟩
      | none =>
        rw [hk] at h
        obtain ⟨⟨longer, found⟩, hl, he⟩ := Option.map_eq_some_iff.1 h
        obtain ⟨rfl, rfl⟩ : c :: longer = text ∧ found = captures := by simpa using he
        obtain ⟨rest, rfl, hf, hr⟩ := ih hl
        exact ⟨rest, rfl, fillsPlaceholder_cons.2 ⟨hc, hf.2⟩, hr⟩

/-- A gap takes a text if there is one for it to take, and none that is longer: at the end of that text it is
answered. -/
theorem takeGap_complete {text rest : List Char} {captures : Captures} (hf : FillsPlaceholder text)
    (hk : k rest = some captures) :
    ∃ taken found, takeGap k (text ++ rest) = some (taken, found) ∧ taken.length ≤ text.length := by
  induction text with
  | nil => exact absurd rfl hf.1
  | cons c cs ih =>
    obtain ⟨hc, hcs⟩ := fillsPlaceholder_cons.1 hf
    rw [List.cons_append, takeGap_cons c _ hc]
    cases hn : k (cs ++ rest) with
    | some found => exact ⟨[c], found, rfl, by simp⟩
    | none =>
      have hne : cs ≠ [] := by
        rintro rfl
        rw [List.nil_append, hk] at hn
        cases hn
      obtain ⟨taken, found, ht, hl⟩ := ih ⟨hne, hcs⟩
      exact ⟨c :: taken, found, by rw [ht]; rfl, by simpa using hl⟩

end Gap

/-! ## The search finds a division -/

theorem search_division {foldsCase : Bool} {tokens : List Token} {path : List Char} {captures : Captures}
    (h : search foldsCase (tokens.map Token.group) path = some captures) :
    captures.map Prod.fst = placeholders tokens ∧ Division foldsCase tokens (captures.map Prod.snd) path := by
  induction tokens generalizing path captures with
  | nil =>
    cases path with
    | nil => cases h; exact ⟨rfl, rfl, rfl⟩
    | cons c cs => cases h
  | cons token tokens ih =>
    cases token with
    | literal text =>
      obtain ⟨rest, hr, hs⟩ := Option.bind_eq_some_iff.1 h
      obtain ⟨piece, rfl, hp⟩ := afterText?_eq_some.1 hr
      obtain ⟨hk, hd⟩ := ih hs
      exact ⟨hk, piece, rest, rfl, hp, hd⟩
    | placeholder name =>
      obtain ⟨⟨text, found⟩, ht, rfl⟩ := Option.map_eq_some_iff.1 h
      obtain ⟨rest, rfl, hf, hs⟩ := takeGap_sound ht
      obtain ⟨hk, hd⟩ := ih hs
      refine ⟨?_, text, found.map Prod.snd, rest, rfl, rfl, hf, hd⟩
      simpa [capture, placeholders] using hk

/-- If there is a division, the search captures one whose texts are no longer. A text that is as long ends at the same
place, where the search goes on as before. -/
theorem search_of_division {foldsCase : Bool} {tokens : List Token} {texts : List (List Char)}
    {path : List Char} (h : Division foldsCase tokens texts path) :
    ∃ captures, search foldsCase (tokens.map Token.group) path = some captures ∧
      NoLonger (captures.map Prod.snd) texts := by
  induction tokens generalizing path texts with
  | nil =>
    obtain ⟨rfl, rfl⟩ := h
    exact ⟨[], rfl, .inl rfl⟩
  | cons token tokens ih =>
    cases token with
    | literal text =>
      obtain ⟨piece, rest, rfl, hp, hd⟩ := h
      obtain ⟨captures, hs, hl⟩ := ih hd
      refine ⟨captures, ?_, hl⟩
      rw [List.map_cons, Token.group, search, afterText?_eq_some.2 ⟨piece, rfl, hp⟩]
      exact hs
    | placeholder name =>
      obtain ⟨text, more, rest, rfl, rfl, hf, hd⟩ := h
      obtain ⟨behind, hs, hl⟩ := ih hd
      obtain ⟨taken, found, ht, hle⟩ := takeGap_complete hf hs
      refine ⟨(name, taken) :: found, ?_, ?_⟩
      · rw [List.map_cons, Token.group, search, ht]
        rfl
      · rcases Nat.lt_or_eq_of_le hle with hlt | heq
        · exact .inr (.rel hlt)
        · obtain ⟨rest', hp, -, hs'⟩ := takeGap_sound ht
          obtain ⟨rfl, rfl⟩ := List.append_inj hp heq.symm
          rw [hs] at hs'
          cases hs'
          rcases hl with hl | hl
          · exact .inl (by simp only [List.map_cons, hl])
          · exact .inr (.cons hl)

/-- The search finds captures exactly when there is a division. -/
theorem search_isSome_iff {foldsCase : Bool} {tokens : List Token} {path : List Char} :
    (search foldsCase (tokens.map Token.group) path).isSome = true ↔ ∃ texts, Division foldsCase tokens texts path := by
  constructor
  · intro h
    obtain ⟨captures, hs⟩ := Option.isSome_iff_exists.1 h
    exact ⟨_, (search_division hs).2⟩
  · rintro ⟨texts, hd⟩
    obtain ⟨captures, hs, -⟩ := search_of_division hd
    rw [hs]; rfl

/-! ## Divisions are told apart by lengths -/

/-- The lengths of the texts tell divisions of one path apart, as the pieces of a literal are all as long as itself. -/
theorem Division.eq_of_lengths {foldsCase : Bool} {tokens : List Token} {texts others : List (List Char)}
    {path : List Char} (h : Division foldsCase tokens texts path) (h' : Division foldsCase tokens others path)
    (hl : texts.map List.length = others.map List.length) : texts = others := by
  induction tokens generalizing path texts others with
  | nil => rw [h.1, h'.1]
  | cons token tokens ih =>
    cases token with
    | literal text =>
      obtain ⟨piece, rest, rfl, hp, hd⟩ := h
      obtain ⟨piece', rest', he, hp', hd'⟩ := h'
      obtain ⟨rfl, rfl⟩ := List.append_inj he (hp.length_eq.symm.trans hp'.length_eq)
      exact ih hd hd' hl
    | placeholder name =>
      obtain ⟨text, more, rest, rfl, rfl, -, hd⟩ := h
      obtain ⟨text', more', rest', rfl, he, -, hd'⟩ := h'
      simp only [List.map_cons, List.cons.injEq] at hl
      obtain ⟨rfl, rfl⟩ := List.append_inj he hl.1
      rw [ih hd hd' hl.2]

/-! ## Literals compared otherwise -/

/-- The texts divide the path along the tokens, where a literal takes a part that it is `same` as. -/
def DivisionBy (same : List Char → List Char → Prop) : List Token → List (List Char) → List Char → Prop
  | [], texts, path => texts = [] ∧ path = []
  | .literal text :: tokens, texts, path =>
    ∃ piece rest, path = piece ++ rest ∧ same text piece ∧ DivisionBy same tokens texts rest
  | .placeholder _ :: tokens, texts, path =>
    ∃ text more rest, texts = text :: more ∧ path = text ++ rest ∧ FillsPlaceholder text ∧
      DivisionBy same tokens more rest

theorem division_iff_by {foldsCase : Bool} {tokens : List Token} {texts : List (List Char)} {path : List Char} :
    Division foldsCase tokens texts path ↔ DivisionBy (SameText foldsCase) tokens texts path := by
  induction tokens generalizing texts path with
  | nil => rfl
  | cons token tokens ih => cases token <;> simp only [Division, DivisionBy, ih]

section By
variable {same same' : List Char → List Char → Prop} {tokens : List Token} {texts : List (List Char)} {path : List Char}

/-- A division is one by any other comparison that holds of the literals and their parts. -/
theorem DivisionBy.mono (h : DivisionBy same tokens texts path)
    (hs : ∀ text, .literal text ∈ tokens → ∀ piece, same text piece → same' text piece) :
    DivisionBy same' tokens texts path := by
  induction tokens generalizing texts path with
  | nil => exact h
  | cons token tokens ih =>
    have hs' := fun text hm => hs text (List.mem_cons_of_mem token hm)
    cases token with
    | literal text =>
      obtain ⟨piece, rest, hp, ht, hd⟩ := h
      exact ⟨piece, rest, hp, hs text List.mem_cons_self piece ht, ih hd hs'⟩
    | placeholder name =>
      obtain ⟨text, more, rest, ht, hp, hf, hd⟩ := h
      exact ⟨text, more, rest, ht, hp, hf, ih hd hs'⟩

/-- Every literal has its part of the path. -/
theorem DivisionBy.exists_piece (h : DivisionBy same tokens texts path) {text : List Char}
    (hm : .literal text ∈ tokens) : ∃ piece, piece ⊆ path ∧ same text piece := by
  induction tokens generalizing texts path with
  | nil => cases hm
  | cons token tokens ih =>
    cases token with
    | literal first =>
      obtain ⟨piece, rest, rfl, ht, hd⟩ := h
      rcases List.mem_cons.1 hm with he | hm
      · cases he
        exact ⟨piece, List.subset_append_left _ _, ht⟩
      · obtain ⟨other, hsub, ho⟩ := ih hd hm
        exact ⟨other, List.subset_append_of_subset_right _ hsub, ho⟩
    | placeholder name =>
      obtain ⟨_, more, rest, -, rfl, -, hd⟩ := h
      obtain ⟨other, hsub, ho⟩ := ih hd (by simpa using hm)
      exact ⟨other, List.subset_append_of_subset_right _ hsub, ho⟩

end By

end TypedRoutes
