import TypedRoutes.Proofs.Template.Division
import TypedRoutes.Proofs.Template.Tokens
/-!
# What a template means

An assignment gives every placeholder a text, and spells a path if the tokens, with the texts in the
placeholders, are the path: literals up to the case that the template disregards, texts as they are.

`Template.captures?_least_assignment`: a URI matches a template exactly if an assignment spells its path; then
the captures are such an assignment, and of all of them the one with the least lengths from left to right.
-/
namespace TypedRoutes

/-- A text for every placeholder. -/
abbrev Assignment := String → List Char

/-- Whether a token stands for a part of a path. -/
def Token.Spells (foldsCase : Bool) (σ : Assignment) : Token → List Char → Prop
  | literal text, piece => SameText foldsCase text piece
  | placeholder name, piece => piece = σ name

/-- The tokens spell the path, with a text of one character or more and no slash for each placeholder. -/
structure Assigns (foldsCase : Bool) (σ : Assignment) (tokens : List Token) (path : List Char) : Prop where
  fills : ∀ name ∈ placeholders tokens, FillsPlaceholder (σ name)
  spells : ∃ pieces, List.Forall₂ (Token.Spells foldsCase σ) tokens pieces ∧ pieces.flatten = path

/-- The captured texts as an assignment. -/
def assignmentOf (captures : Captures) : Assignment :=
  fun name => (captures.lookup name).getD []

/-- The tokens with the assigned texts in the placeholders. -/
def substitute (σ : Assignment) (tokens : List Token) : List Char :=
  tokens.flatMap fun
    | .literal text => text
    | .placeholder name => σ name

/-! ## Captures as assignments -/

theorem lookup_of_mem {captures : Captures} (hn : (captures.map Prod.fst).Nodup) {name : String} {text : List Char}
    (h : (name, text) ∈ captures) : captures.lookup name = some text := by
  induction captures with
  | nil => cases h
  | cons first more ih =>
    obtain ⟨key, value⟩ := first
    obtain ⟨hk, hn'⟩ := List.nodup_cons.1 hn
    rcases List.mem_cons.1 h with he | hm
    · cases he
      simp
    · have hne : name ≠ key := by
        rintro rfl
        exact hk (List.mem_map.2 ⟨_, hm, rfl⟩)
      rw [List.lookup_cons, beq_eq_false_iff_ne.2 hne]
      exact ih hn' hm

theorem map_assignmentOf {captures : Captures} (hn : (captures.map Prod.fst).Nodup) :
    (captures.map Prod.fst).map (assignmentOf captures) = captures.map Prod.snd := by
  rw [List.map_map]
  refine List.map_congr_left fun pair hp => ?_
  simp [assignmentOf, lookup_of_mem hn hp]

/-- Every captured name has a text. -/
theorem lookup_eq_assignmentOf {captures : Captures} {name : String} (h : name ∈ captures.map Prod.fst) :
    captures.lookup name = some (assignmentOf captures name) := by
  cases hl : captures.lookup name with
  | some text => simp [assignmentOf, hl]
  | none =>
    obtain ⟨pair, hp, rfl⟩ := List.mem_map.1 h
    have := List.lookup_eq_none_iff.1 hl pair hp
    simp at this

/-! ## Assignments as divisions -/

@[simp] theorem placeholders_literal (text : List Char) (tokens : List Token) :
    placeholders (.literal text :: tokens) = placeholders tokens := rfl

@[simp] theorem placeholders_placeholder (name : String) (tokens : List Token) :
    placeholders (.placeholder name :: tokens) = name :: placeholders tokens := rfl

/-- The tokens spell a path with the texts of an assignment if it divides into these texts. -/
theorem assigns_iff_division {foldsCase : Bool} {σ : Assignment} {tokens : List Token} {path : List Char} :
    Assigns foldsCase σ tokens path ↔ Division foldsCase tokens ((placeholders tokens).map σ) path := by
  induction tokens generalizing path with
  | nil =>
    constructor
    · rintro ⟨-, _, ⟨⟩, rfl⟩
      exact ⟨rfl, rfl⟩
    · rintro ⟨-, rfl⟩
      exact ⟨by simp [placeholders], [], .nil, rfl⟩
  | cons token tokens ih =>
    cases token with
    | literal text =>
      rw [placeholders_literal]
      constructor
      · rintro ⟨hf, _, hs, rfl⟩
        cases hs with
        | @cons _ piece _ pieces hp hs =>
          exact ⟨piece, pieces.flatten, rfl, hp, ih.1 ⟨hf, pieces, hs, rfl⟩⟩
      · rintro ⟨piece, rest, rfl, hp, hd⟩
        obtain ⟨hf, pieces, hs, rfl⟩ := ih.2 hd
        exact ⟨hf, piece :: pieces, .cons hp hs, rfl⟩
    | placeholder name =>
      rw [placeholders_placeholder, List.map_cons]
      constructor
      · rintro ⟨hf, _, hs, rfl⟩
        rw [placeholders_placeholder, List.forall_mem_cons] at hf
        cases hs with
        | @cons _ _ _ pieces hp hs =>
          cases hp
          exact ⟨σ name, _, pieces.flatten, rfl, rfl, hf.1, ih.1 ⟨hf.2, pieces, hs, rfl⟩⟩
      · rintro ⟨_, _, rest, ⟨rfl, rfl⟩, rfl, hf, hd⟩
        obtain ⟨hfs, pieces, hs, rfl⟩ := ih.2 hd
        refine ⟨?_, σ name :: pieces, .cons rfl hs, rfl⟩
        rw [placeholders_placeholder, List.forall_mem_cons]
        exact ⟨hf, hfs⟩

/-- Compared exactly, the tokens spell one path only. -/
theorem Assigns.eq_substitute {σ : Assignment} {tokens : List Token} {path : List Char}
    (h : Assigns false σ tokens path) : path = substitute σ tokens := by
  obtain ⟨-, pieces, hs, rfl⟩ := h
  induction hs with
  | nil => rfl
  | @cons token piece tokens pieces hp _ ih =>
    rw [List.flatten_cons, ih, substitute, substitute, List.flatMap_cons]
    congr 1
    cases token with
    | literal text => exact (sameText_exact hp).symm
    | placeholder name => exact hp

/-- Filling a template whose placeholders all have a text writes the tokens with these texts. -/
theorem fillTokens_eq_substitute {captures : Captures} {tokens : List Token}
    (h : ∀ name ∈ placeholders tokens, name ∈ captures.map Prod.fst) :
    Template.fillTokens captures tokens = some (substitute (assignmentOf captures) tokens) := by
  induction tokens with
  | nil => rfl
  | cons token tokens ih =>
    cases token with
    | literal text =>
      rw [Template.fillTokens, ih h]
      rfl
    | placeholder name =>
      rw [placeholders_placeholder, List.forall_mem_cons] at h
      rw [Template.fillTokens, lookup_eq_assignmentOf h.1, ih h.2]
      rfl

/-! ## The meaning of a compiled template -/

theorem Template.captures?_of_compile {foldsCase : Bool} {base : Option (List Char)} {template : List Char}
    {t : Template} (h : compile foldsCase base template = .ok t) (uri : List Char) :
    t.captures? uri = Pattern.search foldsCase (t.tokens.map Token.group) (normalizePath uri) := by
  have ht := (of_compile h).2.1
  conv_lhs => rw [ht, captures?_ofTokens]

theorem Template.isMatch_of_compile {foldsCase : Bool} {base : Option (List Char)} {template : List Char}
    {t : Template} (h : compile foldsCase base template = .ok t) (uri : List Char) :
    t.isMatch uri = (t.captures? uri).isSome := by
  rw [(of_compile h).2.1]
  exact isMatch_ofTokens _ _ _ _

/-- A URI matches exactly if its path divides along the tokens. -/
theorem Template.isMatch_iff_division {foldsCase : Bool} {base : Option (List Char)} {template : List Char}
    {t : Template} (h : compile foldsCase base template = .ok t) {uri : List Char} :
    t.isMatch uri = true ↔ ∃ texts, Division foldsCase t.tokens texts (normalizePath uri) := by
  rw [isMatch_of_compile h, captures?_of_compile h]
  exact search_isSome_iff

/-- What a match captures is an assignment that spells the path, one text for each placeholder in order. -/
theorem Template.assigns_of_captures? {foldsCase : Bool} {base : Option (List Char)} {template : List Char}
    {t : Template} (h : compile foldsCase base template = .ok t) {uri : List Char} {captures : Captures}
    (hc : t.captures? uri = some captures) :
    captures.map Prod.fst = t.placeholders ∧
      Assigns foldsCase (assignmentOf captures) t.tokens (normalizePath uri) := by
  have hn := (of_compile h).2.2
  rw [captures?_of_compile h] at hc
  obtain ⟨hk, hd⟩ := search_division hc
  refine ⟨hk, assigns_iff_division.2 ?_⟩
  have hm := map_assignmentOf (hk ▸ hn : (captures.map Prod.fst).Nodup)
  rw [hk] at hm
  rwa [hm]

/-- A URI matches a template exactly if an assignment spells its path. -/
theorem Template.isMatch_iff_assigns {foldsCase : Bool} {base : Option (List Char)} {template : List Char}
    {t : Template} (h : compile foldsCase base template = .ok t) (uri : List Char) :
    t.isMatch uri = true ↔ ∃ σ, Assigns foldsCase σ t.tokens (normalizePath uri) := by
  constructor
  · intro hm
    rw [isMatch_of_compile h uri] at hm
    obtain ⟨captures, hc⟩ := Option.isSome_iff_exists.1 hm
    exact ⟨_, (assigns_of_captures? h hc).2⟩
  · rintro ⟨σ, hσ⟩
    exact (isMatch_iff_division h).2 ⟨_, assigns_iff_division.1 hσ⟩

/-- What a match captures is no longer than the texts of any assignment that spells the path. -/
theorem Template.noLonger_of_captures? {foldsCase : Bool} {base : Option (List Char)} {template : List Char}
    {t : Template} (h : compile foldsCase base template = .ok t) {uri : List Char} {captures : Captures}
    (hc : t.captures? uri = some captures) {σ : Assignment} (hσ : Assigns foldsCase σ t.tokens (normalizePath uri)) :
    NoLonger (captures.map Prod.snd) (t.placeholders.map σ) := by
  obtain ⟨found, hs, hle⟩ := search_of_division (assigns_iff_division.1 hσ)
  obtain rfl : captures = found := by
    rw [captures?_of_compile h uri, hs] at hc
    exact (Option.some.inj hc).symm
  exact hle

/-- A URI matches a template if an assignment spells its path, and then the captures are the assignment with
the least lengths from left to right, of which there is only one. -/
theorem Template.captures?_least_assignment {foldsCase : Bool} {base : Option (List Char)} {template : List Char}
    {t : Template} (h : compile foldsCase base template = .ok t) (uri : List Char) :
    untokenize t.tokens = mount base template ∧
    (t.isMatch uri = true ↔ ∃ σ, Assigns foldsCase σ t.tokens (normalizePath uri)) ∧
    (t.captures? uri).isSome = t.isMatch uri ∧
    ∀ captures, t.captures? uri = some captures →
      captures.map Prod.fst = t.placeholders ∧
      Assigns foldsCase (assignmentOf captures) t.tokens (normalizePath uri) ∧
      (∀ σ, Assigns foldsCase σ t.tokens (normalizePath uri) →
        NoLonger (t.placeholders.map (assignmentOf captures)) (t.placeholders.map σ) ∧
        ((t.placeholders.map (assignmentOf captures)).map List.length = (t.placeholders.map σ).map List.length →
          ∀ name ∈ t.placeholders, assignmentOf captures name = σ name)) ∧
      (foldsCase = false → t.fill? captures = some (normalizePath uri)) := by
  obtain ⟨htokens, -, hn⟩ := of_compile h
  refine ⟨untokenize_of_tokenize htokens, isMatch_iff_assigns h uri, (isMatch_of_compile h uri).symm, ?_⟩
  intro captures hc
  obtain ⟨hk, ha⟩ := assigns_of_captures? h hc
  have htexts : t.placeholders.map (assignmentOf captures) = captures.map Prod.snd := by
    rw [← hk]
    exact map_assignmentOf (hk ▸ hn)
  refine ⟨hk, ha, fun σ hσ => ⟨?_, fun hl name hm => ?_⟩, fun hf => ?_⟩
  · rw [htexts]
    exact noLonger_of_captures? h hc hσ
  · have he := (assigns_iff_division.1 ha).eq_of_lengths (assigns_iff_division.1 hσ) hl
    exact List.map_inj_left.1 he name hm
  · subst hf
    rw [Template.fill?, ha.eq_substitute]
    exact fillTokens_eq_substitute fun name hm => hk ▸ hm

/-- Two placeholders next to each other. -/
def Template.pair : Template :=
  ofTokens false "/{a}{b}".toList [.literal ['/'], .placeholder "a", .placeholder "b"]

/-- An assignment that is not the least one on `/xyz`. -/
def pairLate : Assignment := fun name => if name = "a" then ['x', 'y'] else ['z']

/-- Of the two ways to share `xyz` out, the first placeholder takes one character. -/
theorem Template.captures?_least_assignment_pair :
    compile false none "/{a}{b}".toList = .ok pair ∧
    pair.captures? "/xyz".toList = some [("a", ['x']), ("b", ['y', 'z'])] ∧
    Assigns false pairLate pair.tokens "/xyz".toList ∧
    NoLonger [['x'], ['y', 'z']] [['x', 'y'], ['z']] ∧
    pair.fill? [("a", ['x']), ("b", ['y', 'z'])] = some "/xyz".toList := by
  have h : compile false none "/{a}{b}".toList = .ok pair := by decide
  have hc : pair.captures? "/xyz".toList = some [("a", ['x']), ("b", ['y', 'z'])] := by decide
  have ha : Assigns false pairLate pair.tokens "/xyz".toList := by
    refine ⟨by decide, [['/'], ['x', 'y'], ['z']], ?_, rfl⟩
    exact .cons (sameText_refl _ _) (.cons rfl (.cons rfl .nil))
  obtain ⟨-, -, hleast, hfill⟩ := (captures?_least_assignment h "/xyz".toList).2.2.2 _ hc
  exact ⟨h, hc, ha, (hleast pairLate ha).1, hfill rfl⟩

end TypedRoutes
