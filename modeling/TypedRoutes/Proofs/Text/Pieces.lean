import TypedRoutes.Text.Trim
/-!
# Pieces and separators

Splitting takes joined pieces apart again (`split_join`), as long as no piece holds the separator; and no piece
that splitting gives does (`mem_of_mem_split`). Piece by piece, with a separator in front of each, the text is put
together again (`flatMap_split`). Texts that meet at a separator have the pieces of both (`split_append_sep`), and the
pieces are one more than the separators (`length_split`).
-/
namespace TypedRoutes.Text
variable {sep : Char}

/-! ## Splitting -/

@[simp] theorem split_ne_nil (sep : Char) (cs : List Char) : split sep cs ≠ [] := by
  cases cs with
  | nil => simp [split]
  | cons c cs =>
    rw [split]
    split
    · simp
    · split <;> simp

theorem split_sep (cs : List Char) : split sep (sep :: cs) = [] :: split sep cs := by
  rw [split, if_pos rfl]

theorem split_cons {c : Char} {cs piece : List Char} {pieces : List (List Char)} (hc : c ≠ sep)
    (h : split sep cs = piece :: pieces) : split sep (c :: cs) = (c :: piece) :: pieces := by
  rw [split, if_neg hc, h]

/-- The pieces of a text hold no separator, and nothing that the text does not hold. -/
theorem mem_of_mem_split {cs piece : List Char} (h : piece ∈ split sep cs) :
    ∀ c ∈ piece, c ∈ cs ∧ c ≠ sep := by
  induction cs generalizing piece with
  | nil =>
    have : piece = [] := by simpa [split] using h
    simp [this]
  | cons d cs ih =>
    by_cases hd : d = sep
    · subst hd
      rw [split_sep] at h
      rcases List.mem_cons.1 h with rfl | h
      · simp
      · intro c hc
        exact ⟨List.mem_cons_of_mem _ (ih h c hc).1, (ih h c hc).2⟩
    · obtain ⟨first, more, hs⟩ := List.exists_cons_of_ne_nil (split_ne_nil sep cs)
      rw [split_cons hd hs] at h
      rcases List.mem_cons.1 h with rfl | h
      · intro c hc
        rcases List.mem_cons.1 hc with rfl | hc
        · exact ⟨by simp, hd⟩
        · have := ih (hs ▸ List.mem_cons_self) c hc
          exact ⟨List.mem_cons_of_mem _ this.1, this.2⟩
      · intro c hc
        have := ih (hs ▸ List.mem_cons_of_mem _ h) c hc
        exact ⟨List.mem_cons_of_mem _ this.1, this.2⟩

/-- A text that splits into one piece is that piece. -/
theorem eq_of_split_singleton {cs piece : List Char} (h : split sep cs = [piece]) : cs = piece := by
  induction cs generalizing piece with
  | nil => simpa [split] using h
  | cons d cs ih =>
    by_cases hd : d = sep
    · subst hd
      rw [split_sep] at h
      simp [split_ne_nil] at h
    · obtain ⟨first, more, hs⟩ := List.exists_cons_of_ne_nil (split_ne_nil sep cs)
      rw [split_cons hd hs] at h
      obtain ⟨rfl, rfl⟩ : d :: first = piece ∧ more = [] := by simpa using h
      rw [ih hs]

/-! ## Joining -/

theorem split_append {piece : List Char} (h : sep ∉ piece) (rest : List Char) :
    split sep (piece ++ sep :: rest) = piece :: split sep rest := by
  induction piece with
  | nil => exact split_sep rest
  | cons c piece ih =>
    rw [List.mem_cons, not_or] at h
    exact split_cons (Ne.symm h.1) (ih h.2)

theorem split_of_not_mem {piece : List Char} (h : sep ∉ piece) : split sep piece = [piece] := by
  induction piece with
  | nil => rfl
  | cons c piece ih =>
    rw [List.mem_cons, not_or] at h
    exact split_cons (Ne.symm h.1) (ih h.2)

/-- What holds of every piece, and of a piece with a separator and a text behind it that it holds of, holds of every
text. -/
theorem split_induction (sep : Char) {motive : List Char → Prop} (last : ∀ piece, sep ∉ piece → motive piece)
    (more : ∀ piece rest, sep ∉ piece → motive rest → motive (piece ++ sep :: rest)) (cs : List Char) : motive cs := by
  by_cases h : sep ∈ cs
  · obtain ⟨piece, rest, he, hp⟩ := List.eq_append_cons_of_mem h
    have hlt : rest.length < cs.length := by
      rw [he, List.length_append, List.length_cons]
      omega
    exact he ▸ more piece rest hp (split_induction sep last more rest)
  · exact last cs h
termination_by cs.length

/-- The pieces, each behind a separator, are the text behind a separator. -/
theorem flatMap_split (cs : List Char) : (split sep cs).flatMap (sep :: ·) = sep :: cs := by
  induction cs using split_induction sep with
  | last piece h => simp [split_of_not_mem h]
  | more piece rest h ih => rw [split_append h, List.flatMap_cons, ih, List.cons_append]

/-- Splitting undoes joining. -/
theorem split_join {pieces : List (List Char)} (hne : pieces ≠ []) (h : ∀ piece ∈ pieces, sep ∉ piece) :
    split sep (join sep pieces) = pieces := by
  induction pieces with
  | nil => exact absurd rfl hne
  | cons piece pieces ih =>
    rw [List.forall_mem_cons] at h
    cases pieces with
    | nil => exact split_of_not_mem h.1
    | cons next pieces => rw [join, split_append h.1, ih (by simp) h.2]

theorem mem_join {pieces : List (List Char)} {c : Char} (h : c ∈ join sep pieces) :
    c = sep ∨ ∃ piece ∈ pieces, c ∈ piece := by
  induction pieces with
  | nil => cases h
  | cons piece pieces ih =>
    cases pieces with
    | nil => exact .inr ⟨piece, by simp, h⟩
    | cons next pieces =>
      rw [join, List.mem_append, List.mem_cons] at h
      rcases h with h | h | h
      · exact .inr ⟨piece, by simp, h⟩
      · exact .inl h
      · rcases ih h with h | ⟨p, hp, h⟩
        · exact .inl h
        · exact .inr ⟨p, by simp [hp], h⟩

/-- Nothing is joined to an empty text but no piece at all, or one that is empty. -/
theorem join_ne_nil {pieces : List (List Char)} (hne : pieces ≠ []) (h : pieces ≠ [[]]) : join sep pieces ≠ [] := by
  match pieces with
  | [] => exact absurd rfl hne
  | [piece] =>
    intro hj
    rw [join] at hj
    exact h (by rw [hj])
  | piece :: next :: pieces => simp [join]

/-! ## Texts that meet -/

/-- Where texts meet at a separator, their pieces follow each other. -/
theorem split_append_sep (text more : List Char) :
    split sep (text ++ sep :: more) = split sep text ++ split sep more := by
  induction text using split_induction sep with
  | last piece h => rw [split_append h, split_of_not_mem h, List.singleton_append]
  | more piece rest h ih =>
    rw [List.append_assoc, List.cons_append, split_append h, ih, split_append h, List.cons_append]

/-- There is one piece more than separators. -/
theorem length_split (cs : List Char) : (split sep cs).length = cs.count sep + 1 := by
  induction cs using split_induction sep with
  | last piece h => rw [split_of_not_mem h, List.count_eq_zero_of_not_mem h, List.length_singleton]
  | more piece rest h ih =>
    rw [split_append h, List.length_cons, ih, List.count_append, List.count_eq_zero_of_not_mem h, List.count_cons_self,
      Nat.zero_add]

/-- A piece is known by the separator that ends it. -/
theorem append_sep_inj {piece other rest more : List Char} (h : sep ∉ piece) (h' : sep ∉ other)
    (he : piece ++ sep :: rest = other ++ sep :: more) : piece = other ∧ rest = more := by
  have hsplit := congrArg (split sep) he
  rw [split_append h, split_append h'] at hsplit
  obtain ⟨rfl, -⟩ := List.cons.inj hsplit
  have hrest := List.append_cancel_left he
  exact ⟨rfl, (List.cons.inj hrest).2⟩

/-- Text without a separator goes to the first piece of what follows. -/
theorem split_append_left {text more piece : List Char} {pieces : List (List Char)} (h : sep ∉ text)
    (hs : split sep more = piece :: pieces) : split sep (text ++ more) = (text ++ piece) :: pieces := by
  induction text with
  | nil => exact hs
  | cons c text ih =>
    rw [List.mem_cons, not_or] at h
    exact split_cons (Ne.symm h.1) (ih h.2)

/-- Where texts meet without a separator, the last piece of the one and the first of the other are made one. -/
theorem split_append_inner {text inner more last first : List Char} {before after : List (List Char)}
    (ht : split sep text = before ++ [last]) (hi : sep ∉ inner) (hm : split sep more = first :: after) :
    split sep (text ++ inner ++ more) = before ++ (last ++ inner ++ first) :: after := by
  induction text using split_induction sep generalizing before with
  | last piece h =>
    rw [split_of_not_mem h] at ht
    obtain ⟨rfl, rfl⟩ : before = [] ∧ piece = last := by
      cases before with
      | nil => simpa using ht
      | cons _ _ => simp at ht
    exact split_append_left (by simp [h, hi]) hm
  | more piece rest h ih =>
    rw [split_append h] at ht
    cases before with
    | nil => simp at ht
    | cons first' before =>
      obtain ⟨rfl, hrest⟩ := List.cons.inj ht
      rw [List.append_assoc, List.append_assoc, List.cons_append, split_append h, ← List.append_assoc, ih hrest,
        List.cons_append]

end TypedRoutes.Text
