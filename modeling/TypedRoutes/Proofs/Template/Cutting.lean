import TypedRoutes.Proofs.Template.Separation
/-!
# Where tokens are cut

One text is spelled by many lists of tokens, which cut it into literals at other places. A pattern does not depend on
the cuts (`search_of_spells`), so a template captures from a path what any tokens that spell it capture
(`Template.captures?_of_spells`). And since no name holds a slash, tokens can be cut at every slash of their text
(`Spells.cut`).
-/
namespace TypedRoutes
open Pattern

/-! ## Patterns and cuts -/

theorem afterText?_append (foldsCase : Bool) (text more path : List Char) :
    afterText? foldsCase (text ++ more) path = (afterText? foldsCase text path).bind (afterText? foldsCase more) := by
  induction text generalizing path with
  | nil => rfl
  | cons l ls ih =>
    cases path with
    | nil => rfl
    | cons c cs =>
      rw [List.cons_append, afterText?, afterText?]
      split
      · exact ih cs
      · rfl

/-- A slash takes a slash off the path. -/
theorem search_slash (foldsCase : Bool) (tokens : List Token) (path : List Char) :
    search foldsCase ((.literal ['/'] :: tokens).map Token.group) ('/' :: path) =
      search foldsCase (tokens.map Token.group) path := by
  rw [List.map_cons, Token.group, search, afterText?, sameChar_refl]
  rfl

/-- A literal slash finds nothing at another character. -/
theorem search_slash_of_ne (foldsCase : Bool) (tokens : List Token) {path : List Char} (h : path.head? ≠ some '/') :
    search foldsCase ((.literal ['/'] :: tokens).map Token.group) path = none := by
  cases path with
  | nil => rfl
  | cons c cs =>
    have hsame : sameChar foldsCase '/' c = false := by
      rw [Bool.eq_false_iff]
      intro hs
      obtain rfl : c = '/' := (eq_mark_iff (by decide) hs).1 rfl
      exact h rfl
    rw [List.map_cons, Token.group, search, afterText?, hsame]
    rfl

theorem search_literalToken (foldsCase : Bool) (text : List Char) (tokens : List Token) (path : List Char) :
    search foldsCase ((literalToken text ++ tokens).map Token.group) path =
      (afterText? foldsCase text path).bind (search foldsCase (tokens.map Token.group)) := by
  cases text <;> rfl

/-- Literals that are made one match what they matched one after the other. -/
theorem search_merge (foldsCase : Bool) (literal : List Char) (tokens : List Token) (path : List Char) :
    search foldsCase ((merge literal tokens).map Token.group) path =
      (afterText? foldsCase literal path).bind (search foldsCase (tokens.map Token.group)) := by
  induction tokens generalizing literal path with
  | nil =>
    have h := search_literalToken foldsCase literal [] path
    rwa [List.append_nil] at h
  | cons token tokens ih =>
    cases token with
    | literal text =>
      rw [merge, ih, afterText?_append, Option.bind_assoc]
      rfl
    | placeholder name =>
      have hrest : search foldsCase ((merge [] tokens).map Token.group) =
          search foldsCase (tokens.map Token.group) := by
        funext rest
        exact ih [] rest
      rw [merge, search_literalToken, List.map_cons, List.map_cons]
      congr 1
      funext rest
      rw [Token.group, search, search, hrest]

/-- Tokens that spell the same text are the same when literals that follow each other are made one. -/
theorem merge_eq_of_spells {tokens others : List Token} {text : List Char} (h : Spells tokens text)
    (h' : Spells others text) : merge [] tokens = merge [] others := by
  have he := (tokenize_of_spells h).symm.trans (tokenize_of_spells h')
  injection he

/-- Tokens that spell the same text capture the same. -/
theorem search_of_spells {foldsCase : Bool} {tokens others : List Token} {text : List Char} (h : Spells tokens text)
    (h' : Spells others text) (path : List Char) :
    search foldsCase (tokens.map Token.group) path = search foldsCase (others.map Token.group) path := by
  have htokens := search_merge foldsCase [] tokens path
  rw [merge_eq_of_spells h h', search_merge] at htokens
  exact htokens.symm

/-- A template captures what any tokens capture that spell its text. -/
theorem Template.captures?_of_spells {foldsCase : Bool} {base : Option (List Char)} {template : List Char}
    {t : Template} (h : compile foldsCase base template = .ok t) {tokens : List Token}
    (hs : Spells tokens (mount base template)) (uri : List Char) :
    t.captures? uri = search foldsCase (tokens.map Token.group) (normalizePath uri) := by
  rw [captures?_of_compile h]
  exact search_of_spells (spells_of_tokenize (of_compile h).1) hs _

/-! ## The estimated room of patterns -/

/-- The estimate of the room that either pattern of the tokens takes. -/
def patternSize : List Token → Nat
  | [] => 0
  | token :: tokens => token.group.size + patternSize tokens

theorem patternSize_append (tokens others : List Token) :
    patternSize (tokens ++ others) = patternSize tokens + patternSize others := by
  induction tokens with
  | nil => exact (Nat.zero_add _).symm
  | cons token tokens ih => rw [List.cons_append, patternSize, patternSize, ih, Nat.add_assoc]

@[simp] theorem patternSize_literal (text : List Char) (tokens : List Token) :
    patternSize (.literal text :: tokens) = 32 * text.length + patternSize tokens := rfl

@[simp] theorem patternSize_placeholder (name : String) (tokens : List Token) :
    patternSize (.placeholder name :: tokens) = 832 + patternSize tokens := rfl

theorem patternSize_literalToken (text : List Char) : patternSize (literalToken text) = 32 * text.length := by
  cases text <;> rfl

theorem patternSize_merge (literal : List Char) (tokens : List Token) :
    patternSize (merge literal tokens) = 32 * literal.length + patternSize tokens := by
  induction tokens generalizing literal with
  | nil => exact patternSize_literalToken literal
  | cons token tokens ih =>
    cases token with
    | literal text =>
      rw [merge, ih, patternSize_literal, List.length_append]
      omega
    | placeholder name =>
      rw [merge, patternSize_append, patternSize_literalToken, patternSize_placeholder, patternSize_placeholder, ih]
      simp

/-- Tokens that spell the same text have one estimate. -/
theorem patternSize_of_spells {tokens others : List Token} {text : List Char} (h : Spells tokens text)
    (h' : Spells others text) : patternSize tokens = patternSize others := by
  have hsize := patternSize_merge [] tokens
  rw [merge_eq_of_spells h h', patternSize_merge] at hsize
  simpa using hsize.symm

/-- A pattern has a piece for each token, and the estimate of the tokens. -/
theorem size_map {piece : Token → Piece} (h : ∀ token, (piece token).size = token.group.size) (foldsCase : Bool)
    (tokens : List Token) : Pattern.size ⟨tokens.map piece, foldsCase⟩ = patternSize tokens := by
  induction tokens with
  | nil => rfl
  | cons token tokens ih =>
    rw [Pattern.size] at ih
    rw [Pattern.size, List.map_cons, List.foldr_cons, ih, h]
    rfl

theorem withinLimit_iff {foldsCase : Bool} {text : List Char} {tokens : List Token} :
    (Template.ofTokens foldsCase text tokens).withinLimit = true ↔ patternSize tokens ≤ patternLimit := by
  have hshape : ∀ token : Token, token.shape.size = token.group.size := by
    intro token
    cases token <;> rfl
  rw [Template.withinLimit, Template.ofTokens, size_map hshape, size_map fun _ => rfl]
  simp

theorem Template.patternSize_le {foldsCase : Bool} {base : Option (List Char)} {template : List Char} {t : Template}
    (h : compile foldsCase base template = .ok t) : patternSize t.tokens ≤ patternLimit := by
  obtain ⟨tokens, -, h⟩ := except_bind_ok h
  dsimp only at h
  split at h
  · cases h
  · split at h
    · rename_i hl
      cases h
      exact withinLimit_iff.1 hl
    · cases h

/-! ## Texts and cuts -/

theorem Spells.append {tokens others : List Token} {text more : List Char} (h : Spells tokens text)
    (h' : Spells others more) : Spells (tokens ++ others) (text ++ more) where
  wellFormed := List.forall_mem_append.2 ⟨h.wellFormed, h'.wellFormed⟩
  text_eq := by rw [untokenize, List.flatMap_append, ← untokenize, ← untokenize, h.text_eq, h'.text_eq]

/-- A slash in front of the tokens is a slash in front of their text. -/
theorem Spells.slash {tokens : List Token} {text : List Char} (h : Spells tokens text) :
    Spells (.literal ['/'] :: tokens) ('/' :: text) := by
  have hw : (Token.literal ['/']).WellFormed := by decide
  exact h.cons hw

theorem Spells.of_cons {token : Token} {tokens : List Token} {text : List Char} (h : Spells (token :: tokens) text) :
    token.WellFormed ∧ Spells tokens (untokenize tokens) :=
  have hw := List.forall_mem_cons.1 h.wellFormed
  ⟨hw.1, hw.2, rfl⟩

/-- A text in two parts is cut at a character in the one or in the other. -/
theorem cut_append {left right front behind : List Char} {c : Char} (h : left ++ right = front ++ c :: behind) :
    (∃ more, front = left ++ more ∧ right = more ++ c :: behind) ∨
      ∃ more, left = front ++ c :: more ∧ behind = more ++ right := by
  rcases List.append_eq_append_iff.1 h with hleft | ⟨more, rfl, hmore⟩
  · exact .inl hleft
  · cases more with
    | nil => exact .inl ⟨[], by simp, hmore.symm⟩
    | cons d more =>
      obtain ⟨rfl, rfl⟩ := List.cons.inj hmore
      exact .inr ⟨more, rfl, rfl⟩

/-- Tokens are cut at a slash of their text: each is on one side of it, or is a literal with a part on either side. -/
theorem Spells.cut {tokens : List Token} {front behind : List Char} (h : Spells tokens (front ++ '/' :: behind)) :
    ∃ left right, Spells left front ∧ Spells right behind ∧
      placeholders tokens = placeholders left ++ placeholders right := by
  induction tokens generalizing front with
  | nil =>
    have := h.text_eq
    simp [untokenize] at this
  | cons token tokens ih =>
    obtain ⟨hw, hs⟩ := h.of_cons
    have htext := h.text_eq
    rw [untokenize_cons] at htext
    rcases cut_append htext with ⟨more, rfl, hmore⟩ | ⟨more, hmore, rfl⟩
    · obtain ⟨left, right, hl, hr, hn⟩ := ih (hmore ▸ hs)
      refine ⟨token :: left, right, hl.cons hw, hr, ?_⟩
      cases token with
      | literal text => exact hn
      | placeholder name => exact congrArg (name :: ·) hn
    · cases token with
      | literal text =>
        obtain rfl : text = front ++ '/' :: more := hmore
        have hfront : (Token.literal front).WellFormed := by
          exact ⟨fun hm => hw.1 (by simp [hm]), fun hm => hw.2 (by simp [hm])⟩
        have hmore : (Token.literal more).WellFormed := by
          exact ⟨fun hm => hw.1 (by simp [hm]), fun hm => hw.2 (by simp [hm])⟩
        refine ⟨[.literal front], .literal more :: tokens, ?_, hs.cons hmore, rfl⟩
        simpa [Token.text] using spells_nil.cons hfront
      | placeholder name =>
        have hslash : '/' ∈ (Token.placeholder name).text := by rw [hmore]; simp
        exact absurd hslash (not_mem_placeholder_text hw (by decide) (by decide) (by decide))

end TypedRoutes
