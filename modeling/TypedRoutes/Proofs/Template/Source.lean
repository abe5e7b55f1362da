import TypedRoutes.Proofs.Template.Grammar
import TypedRoutes.Proofs.Text.Pieces
/-!
# Sources of patterns

A pattern is read back from its source in one way only. The source is that of single characters and gaps, one after the
other, and what stands for one of these tells which it is and where it ends (`Atom.source_append_inj`): a character with
a meaning of its own is escaped, and one that is not escaped belongs to a gap. So whatever the literals of a template
are, its sources have the special characters of its gaps and no others (`Renders.specials_source`), and two templates
have the same sources only if they have the same gaps between the same literals (`Template.source_eq_iff`).
-/
namespace TypedRoutes
open Text

/-! ## Characters and gaps -/

/-- A character or a gap of a pattern. -/
inductive Atom where
  | char (c : Char)
  | gap (name : Option String)

/-- The source of a character or a gap. -/
def Atom.source : Atom → List Char
  | char c => escape [c]
  | gap name => (Piece.gap name).source

/-- A piece, character by character. -/
def Piece.atoms : Piece → List Atom
  | literal text => text.map .char
  | gap name => [.gap name]

theorem escape_special {c : Char} (h : c ∈ metaCharacters) : escape [c] = ['\\', c] := by
  rw [escape, List.flatMap_singleton, if_pos h]

theorem escape_plain {c : Char} (h : c ∉ metaCharacters) : escape [c] = [c] := by
  rw [escape, List.flatMap_singleton, if_neg h]

/-- A text is escaped character by character. -/
theorem escape_eq (text : List Char) : escape text = (text.map Atom.char).flatMap Atom.source := by
  have hcons (c : Char) (cs : List Char) : escape (c :: cs) = escape [c] ++ escape cs := by
    simp only [escape, List.flatMap_cons, List.flatMap_nil, List.append_nil]
  induction text with
  | nil => rw [escape, List.flatMap_nil, List.map_nil, List.flatMap_nil]
  | cons c text ih => rw [hcons, List.map_cons, List.flatMap_cons, Atom.source, ← ih]

theorem Piece.source_eq (p : Piece) : p.source = p.atoms.flatMap Atom.source := by
  cases p with
  | literal text => exact escape_eq text
  | gap name => rw [atoms, List.flatMap_singleton, Atom.source]

/-- The source of a pattern is that of its characters and gaps. -/
theorem Pattern.source_eq (p : Pattern) :
    p.source = '^' :: ((p.pieces.flatMap Piece.atoms).flatMap Atom.source ++ ['$']) := by
  have hpieces : p.pieces.flatMap Piece.source = (p.pieces.flatMap Piece.atoms).flatMap Atom.source := by
    rw [List.flatMap_assoc]
    exact congrArg (List.flatMap · p.pieces) (funext Piece.source_eq)
  rw [source, hpieces, List.cons_append]

/-! ## Reading a source back -/

/-- The name of a gap is an identifier, if it has one. -/
def Atom.Named : Atom → Prop
  | char _ => True
  | gap name => ∀ n ∈ name, isIdentifier n.toList = true

theorem backslash_special : '\\' ∈ metaCharacters := by decide

theorem open_special : '(' ∈ metaCharacters := by decide

theorem end_special : '$' ∈ metaCharacters := by decide

theorem source_gap_none : (Piece.gap none).source = "(?:[^/]+?)".toList := rfl

theorem source_gap_some (name : String) :
    (Piece.gap (some name)).source = "(?P<".toList ++ name.toList ++ ">[^/]+?)".toList := rfl

/-- The source of a gap begins with a special character. -/
theorem source_gap (name : Option String) : ∃ more, (Piece.gap name).source = '(' :: more := by
  cases name with
  | none => exact ⟨_, source_gap_none⟩
  | some name => exact ⟨_, source_gap_some name⟩

/-- An escaped character tells which it is and where it ends. -/
theorem escape_append_inj {c d : Char} {s t : List Char} (h : escape [c] ++ s = escape [d] ++ t) : c = d ∧ s = t := by
  by_cases hc : c ∈ metaCharacters
  · by_cases hd : d ∈ metaCharacters
    · rw [escape_special hc, escape_special hd] at h
      simpa using h
    · rw [escape_special hc, escape_plain hd] at h
      exact absurd ((List.cons.inj h).1 ▸ backslash_special) hd
  · by_cases hd : d ∈ metaCharacters
    · rw [escape_plain hc, escape_special hd] at h
      exact absurd ((List.cons.inj h).1 ▸ backslash_special) hc
    · rw [escape_plain hc, escape_plain hd] at h
      simpa using h

/-- A character without an escape is not special. -/
theorem escape_append_ne {c d : Char} (hd : d ∈ metaCharacters) (hb : d ≠ '\\') (s t : List Char) :
    escape [c] ++ s ≠ d :: t := by
  intro h
  by_cases hc : c ∈ metaCharacters
  · rw [escape_special hc] at h
    exact hb (List.cons.inj h).1.symm
  · rw [escape_plain hc] at h
    exact hc ((List.cons.inj h).1 ▸ hd)

/-- The sources of a gap with a name and of one without differ in the third character. -/
theorem source_gap_none_append_ne (name : String) (s t : List Char) :
    (Piece.gap none).source ++ s ≠ (Piece.gap (some name)).source ++ t := by
  intro h
  rw [source_gap_none, source_gap_some] at h
  simp at h

/-- A gap tells its name, which ends at the first mark behind it, and where it ends itself. -/
theorem source_gap_append_inj {m n : Option String} (hm : (Atom.gap m).Named) (hn : (Atom.gap n).Named)
    {s t : List Char} (h : (Piece.gap m).source ++ s = (Piece.gap n).source ++ t) : m = n ∧ s = t := by
  cases m with
  | none =>
    cases n with
    | none => exact ⟨rfl, List.append_cancel_left h⟩
    | some other => exact absurd h (source_gap_none_append_ne other s t)
  | some name =>
    cases n with
    | none => exact absurd h.symm (source_gap_none_append_ne name t s)
    | some other =>
      have hname : '>' ∉ name.toList := not_mem_of_isIdentifier (hm name rfl) (by decide)
      have hother : '>' ∉ other.toList := not_mem_of_isIdentifier (hn other rfl) (by decide)
      have hmark : name.toList ++ '>' :: ("[^/]+?)".toList ++ s) = other.toList ++ '>' :: ("[^/]+?)".toList ++ t) := by
        simpa [source_gap_some] using h
      obtain ⟨heq, hrest⟩ := append_sep_inj hname hother hmark
      exact ⟨congrArg some (String.toList_inj.1 heq), List.append_cancel_left hrest⟩

/-- What stands for a character or a gap tells which it is and where it ends. -/
theorem Atom.source_append_inj {a b : Atom} (ha : a.Named) (hb : b.Named) {s t : List Char}
    (h : a.source ++ s = b.source ++ t) : a = b ∧ s = t := by
  cases a with
  | char c =>
    cases b with
    | char d =>
      obtain ⟨rfl, rfl⟩ := escape_append_inj h
      exact ⟨rfl, rfl⟩
    | gap name =>
      obtain ⟨more, hgap⟩ := source_gap name
      rw [source, source, hgap] at h
      exact absurd h (escape_append_ne open_special (by decide) _ _)
  | gap name =>
    cases b with
    | char d =>
      obtain ⟨more, hgap⟩ := source_gap name
      rw [source, source, hgap] at h
      exact absurd h.symm (escape_append_ne open_special (by decide) _ _)
    | gap other =>
      obtain ⟨rfl, rfl⟩ := source_gap_append_inj ha hb h
      exact ⟨rfl, rfl⟩

/-- The end of a pattern stands for no character and no gap. -/
theorem Atom.source_append_ne_end (a : Atom) (s t : List Char) : a.source ++ s ≠ '$' :: t := by
  cases a with
  | char c => exact escape_append_ne end_special (by decide) _ _
  | gap name =>
    obtain ⟨more, hgap⟩ := source_gap name
    rw [source, hgap]
    intro h
    cases h

/-- A source has one reading as characters and gaps up to the end. -/
theorem flatMap_source_inj {as bs : List Atom} (ha : ∀ a ∈ as, a.Named) (hb : ∀ b ∈ bs, b.Named)
    (h : as.flatMap Atom.source ++ ['$'] = bs.flatMap Atom.source ++ ['$']) : as = bs := by
  induction as generalizing bs with
  | nil =>
    cases bs with
    | nil => rfl
    | cons b bs =>
      rw [List.flatMap_cons, List.append_assoc] at h
      exact absurd h.symm (b.source_append_ne_end _ _)
  | cons a as ih =>
    cases bs with
    | nil =>
      rw [List.flatMap_cons, List.append_assoc] at h
      exact absurd h (a.source_append_ne_end _ _)
    | cons b bs =>
      rw [List.forall_mem_cons] at ha hb
      rw [List.flatMap_cons, List.flatMap_cons, List.append_assoc, List.append_assoc] at h
      obtain ⟨hab, hrest⟩ := Atom.source_append_inj ha.1 hb.1 h
      rw [hab, ih ha.2 hb.2 hrest]

/-! ## The pieces of a template -/

/-- The pieces of characters and gaps, behind a literal so far: each literal is as long as can be. -/
def gather (literal : List Char) : List Atom → List Piece
  | [] => if literal.isEmpty then [] else [.literal literal]
  | .char c :: atoms => gather (literal ++ [c]) atoms
  | .gap name :: atoms => (if literal.isEmpty then [] else [.literal literal]) ++ .gap name :: gather [] atoms

theorem gather_chars (text literal : List Char) (atoms : List Atom) :
    gather literal (text.map .char ++ atoms) = gather (literal ++ text) atoms := by
  induction text generalizing literal with
  | nil => rw [List.map_nil, List.nil_append, List.append_nil]
  | cons c text ih => rw [List.map_cons, List.cons_append, gather, ih, List.append_assoc, List.singleton_append]

/-- Both patterns of a template keep its literals and have a gap for each placeholder. -/
structure Renders (f : Token → Piece) : Prop where
  literal (text : List Char) : f (.literal text) = .literal text
  placeholder (name : String) : ∃ gap, f (.placeholder name) = .gap gap ∧ ∀ n ∈ gap, n = name

theorem renders_shape : Renders Token.shape :=
  ⟨fun _ => rfl, fun _ => ⟨none, rfl, fun _ h => nomatch h⟩⟩

theorem renders_group : Renders Token.group :=
  ⟨fun _ => rfl, fun name => ⟨some name, rfl, fun _ h => (Option.some.inj h).symm⟩⟩

namespace Renders
variable {f : Token → Piece}

theorem map_literalToken (hf : Renders f) (text : List Char) :
    (literalToken text).map f = if text.isEmpty then [] else [.literal text] := by
  cases text with
  | nil => rfl
  | cons c cs => exact congrArg (· :: []) (hf.literal (c :: cs))

/-- Literals that are made one are pieces as long as can be. -/
theorem map_merge (hf : Renders f) (literal : List Char) (tokens : List Token) :
    (merge literal tokens).map f = gather literal ((tokens.map f).flatMap Piece.atoms) := by
  induction tokens generalizing literal with
  | nil => exact hf.map_literalToken literal
  | cons token tokens ih =>
    rw [List.map_cons, List.flatMap_cons]
    cases token with
    | literal text => rw [merge, ih, hf.literal, Piece.atoms, gather_chars]
    | placeholder name =>
      obtain ⟨gap, hgap, -⟩ := hf.placeholder name
      rw [merge, List.map_append, List.map_cons, hf.map_literalToken, ih, hgap, Piece.atoms, List.singleton_append,
        gather]

/-- The names of the gaps are those of the placeholders. -/
theorem named (hf : Renders f) {tokens : List Token} (hw : ∀ token ∈ tokens, token.WellFormed) :
    ∀ a ∈ (tokens.map f).flatMap Piece.atoms, a.Named := by
  intro a ha
  rw [List.flatMap_map, List.mem_flatMap] at ha
  obtain ⟨token, ht, ha⟩ := ha
  cases token with
  | literal text =>
    rw [hf.literal, Piece.atoms, List.mem_map] at ha
    obtain ⟨c, -, rfl⟩ := ha
    trivial
  | placeholder name =>
    obtain ⟨gap, hgap, hname⟩ := hf.placeholder name
    rw [hgap, Piece.atoms, List.mem_singleton] at ha
    subst ha
    intro n hn
    rw [hname n hn]
    exact hw _ ht

/-- The pieces of the tokens of two texts are the same if their source is. -/
theorem map_eq_of_source_eq (hf : Renders f) {text text' : List Char} {tokens tokens' : List Token}
    (ht : tokenize text = .ok tokens) (ht' : tokenize text' = .ok tokens') {foldsCase foldsCase' : Bool}
    (h : (Pattern.mk (tokens.map f) foldsCase).source = (Pattern.mk (tokens'.map f) foldsCase').source) :
    tokens.map f = tokens'.map f := by
  rw [Pattern.source_eq, Pattern.source_eq] at h
  have hatoms := flatMap_source_inj (hf.named (spells_of_tokenize ht).wellFormed)
    (hf.named (spells_of_tokenize ht').wellFormed) (List.cons.inj h).2
  rw [← merge_of_tokenize ht, ← merge_of_tokenize ht', hf.map_merge, hf.map_merge, hatoms]

end Renders

/-! ## Special characters -/

/-- The special characters of a source that are not escaped. `escaped` tells whether the first character is. -/
def specials (escaped : Bool) : List Char → List Char
  | [] => []
  | c :: cs =>
    if escaped then specials false cs
    else if c = '\\' then specials true cs
    else if c ∈ metaCharacters then c :: specials false cs
    else specials false cs

/-- The special characters of a gap, whatever its name. -/
def gapSpecials : List Char :=
  "(?[^]+?)".toList

/-- The special characters that stand for a character or a gap. -/
def Atom.specials : Atom → List Char
  | char _ => []
  | gap _ => gapSpecials

theorem specials_plain {c : Char} (h : c ∉ metaCharacters) (cs : List Char) :
    specials false (c :: cs) = specials false cs := by
  have hb : c ≠ '\\' := by
    rintro rfl
    exact h backslash_special
  simp only [specials, Bool.false_eq_true, if_false, if_neg hb, if_neg h]

theorem specials_escape (c : Char) (rest : List Char) : specials false (escape [c] ++ rest) = specials false rest := by
  by_cases hc : c ∈ metaCharacters
  · rw [escape_special hc]
    simp [specials]
  · rw [escape_plain hc]
    exact specials_plain hc rest

/-- A text without backslashes escapes nothing, so what follows is read as it stands. -/
theorem specials_append {text : List Char} (h : '\\' ∉ text) (rest : List Char) :
    specials false (text ++ rest) = specials false text ++ specials false rest := by
  induction text with
  | nil => rfl
  | cons c text ih =>
    rw [List.mem_cons, not_or] at h
    simp only [List.cons_append, specials, Bool.false_eq_true, if_false, if_neg (Ne.symm h.1), ih h.2]
    split <;> rfl

theorem specials_name {name : List Char} (h : isIdentifier name = true) : specials false name = [] := by
  have hplain : ∀ c ∈ name, c ∉ metaCharacters := by
    have hmeta : (metaCharacters.all fun c => !continuesName c) = true := by decide
    intro c hc hm
    have hcontinues := List.all_eq_true.1 hmeta c hm
    exact not_mem_of_isIdentifier h (by simpa using hcontinues) hc
  clear h
  induction name with
  | nil => rfl
  | cons c cs ih =>
    rw [List.forall_mem_cons] at hplain
    rw [specials_plain hplain.1, ih hplain.2]

theorem Atom.specials_source {a : Atom} (ha : a.Named) (rest : List Char) :
    TypedRoutes.specials false (a.source ++ rest) = a.specials ++ TypedRoutes.specials false rest := by
  cases a with
  | char c => exact specials_escape c rest
  | gap name =>
    rw [source, Atom.specials]
    cases name with
    | none =>
      have hgap : TypedRoutes.specials false "(?:[^/]+?)".toList = gapSpecials := by decide
      rw [source_gap_none, specials_append (by decide), hgap]
    | some name =>
      have hid : isIdentifier name.toList = true := ha name rfl
      have hname : '\\' ∉ name.toList := not_mem_of_isIdentifier hid (by decide)
      have hgap : TypedRoutes.specials false "(?P<".toList ++ TypedRoutes.specials false ">[^/]+?)".toList =
          gapSpecials := by decide
      rw [source_gap_some, List.append_assoc, List.append_assoc, specials_append (by decide), specials_append hname,
        specials_name hid, specials_append (by decide), List.nil_append, ← List.append_assoc, hgap]

/-- The special characters of a pattern are the marks of its ends and those of its gaps. -/
theorem specials_flatMap_source {atoms : List Atom} (h : ∀ a ∈ atoms, a.Named) (rest : List Char) :
    specials false (atoms.flatMap Atom.source ++ rest) = atoms.flatMap Atom.specials ++ specials false rest := by
  induction atoms with
  | nil => rfl
  | cons a atoms ih =>
    rw [List.forall_mem_cons] at h
    rw [List.flatMap_cons, List.flatMap_cons, List.append_assoc, List.append_assoc, Atom.specials_source h.1, ih h.2]

namespace Renders
variable {f : Token → Piece}

theorem flatMap_specials (hf : Renders f) (tokens : List Token) :
    ((tokens.map f).flatMap Piece.atoms).flatMap Atom.specials =
      (placeholders tokens).flatMap fun _ => gapSpecials := by
  induction tokens with
  | nil => rfl
  | cons token tokens ih =>
    rw [List.map_cons, List.flatMap_cons, List.flatMap_append, ih]
    cases token with
    | literal text =>
      have hchars : (text.map Atom.char).flatMap Atom.specials = [] := by
        rw [List.flatMap_map, List.flatMap_eq_nil_iff]
        exact fun _ _ => rfl
      rw [hf.literal, Piece.atoms, hchars, List.nil_append]
      rfl
    | placeholder name =>
      obtain ⟨gap, hgap, -⟩ := hf.placeholder name
      rw [hgap, Piece.atoms, List.flatMap_singleton]
      rfl

theorem specials_source (hf : Renders f) {text : List Char} {tokens : List Token} (ht : tokenize text = .ok tokens)
    (foldsCase : Bool) : specials false (Pattern.mk (tokens.map f) foldsCase).source =
      '^' :: ((placeholders tokens).flatMap fun _ => gapSpecials) ++ ['$'] := by
  have hstart (cs : List Char) : specials false ('^' :: cs) = '^' :: specials false cs := by
    have h : '\\' ∉ ['^'] := by decide
    exact specials_append h cs
  have hend : specials false ['$'] = ['$'] := by decide
  rw [Pattern.source_eq, hstart, specials_flatMap_source (hf.named (spells_of_tokenize ht).wellFormed),
    hf.flatMap_specials, hend, List.cons_append]

end Renders

/-! ## Sources of templates -/

/-- Two tokens are the same but for the names of placeholders. -/
inductive Token.SameShape : Token → Token → Prop
  | literal (text : List Char) : SameShape (.literal text) (.literal text)
  | placeholder (name other : String) : SameShape (.placeholder name) (.placeholder other)

theorem Token.shape_eq_iff {a b : Token} : a.shape = b.shape ↔ a.SameShape b := by
  constructor
  · intro h
    cases a with
    | literal text =>
      cases b with
      | literal other =>
        cases h
        exact .literal text
      | placeholder name => cases h
    | placeholder name =>
      cases b with
      | literal text => cases h
      | placeholder other => exact .placeholder name other
  · rintro ⟨⟩ <;> rfl

theorem map_shape_eq_iff {tokens others : List Token} :
    tokens.map Token.shape = others.map Token.shape ↔ List.Forall₂ Token.SameShape tokens others := by
  rw [← List.forall₂_eq_eq_eq, List.forall₂_map_left_iff, List.forall₂_map_right_iff]
  simp only [Token.shape_eq_iff]

theorem Token.group_injective : Function.Injective Token.group := by
  rintro (text | name) (other | other) h <;> cases h <;> rfl

namespace Template

/-- The sources of two templates tell them apart: those of the extractors are the same for the same text alone, and
those of the matchers for the same literals with placeholders between them, whatever their names. The special
characters of both are the ends of the pattern and the gaps of the placeholders, so no literal adds one to them or takes
one away. -/
theorem source_eq_iff {foldsCase foldsCase' : Bool} {base base' : Option (List Char)} {template template' : List Char}
    {t u : Template} (ht : compile foldsCase base template = .ok t)
    (hu : compile foldsCase' base' template' = .ok u) :
    (t.extractor.source = u.extractor.source ↔ mount base template = mount base' template') ∧
    (t.matcher.source = u.matcher.source ↔ List.Forall₂ Token.SameShape t.tokens u.tokens) ∧
    specials false t.extractor.source = '^' :: (t.placeholders.flatMap fun _ => gapSpecials) ++ ['$'] ∧
    specials false t.matcher.source = '^' :: (t.placeholders.flatMap fun _ => gapSpecials) ++ ['$'] := by
  obtain ⟨htt, hte, -⟩ := of_compile ht
  obtain ⟨hut, hue, -⟩ := of_compile hu
  have htx : t.extractor = ⟨t.tokens.map Token.group, foldsCase⟩ := congrArg extractor hte
  have htm : t.matcher = ⟨t.tokens.map Token.shape, foldsCase⟩ := congrArg matcher hte
  have hux : u.extractor = ⟨u.tokens.map Token.group, foldsCase'⟩ := congrArg extractor hue
  have hum : u.matcher = ⟨u.tokens.map Token.shape, foldsCase'⟩ := congrArg matcher hue
  rw [htx, htm, hux, hum]
  refine ⟨⟨fun h => ?_, fun h => ?_⟩, ⟨fun h => ?_, fun h => ?_⟩, renders_group.specials_source htt foldsCase,
    renders_shape.specials_source htt foldsCase⟩
  · have htokens := List.map_injective_iff.2 Token.group_injective (renders_group.map_eq_of_source_eq htt hut h)
    rw [← untokenize_of_tokenize htt, ← untokenize_of_tokenize hut, htokens]
  · rw [h, hut] at htt
    injection htt with htokens
    rw [htokens]
    rfl
  · exact map_shape_eq_iff.1 (renders_shape.map_eq_of_source_eq htt hut h)
  · rw [map_shape_eq_iff.2 h]
    rfl

/-- A literal that is written as a group is none: its source is not that of a placeholder, and has no special
characters but the ends. -/
theorem source_eq_iff_group_literal :
    ∃ t u, compile true none "(?P<id>[^/]+?)".toList = .ok t ∧ compile false (some "/".toList) "{id}".toList = .ok u ∧
      t.extractor.source ≠ u.extractor.source ∧ t.matcher.source ≠ u.matcher.source ∧
      specials false t.extractor.source = "^$".toList ∧ specials false u.extractor.source = "^(?[^]+?)$".toList := by
  have ht : compile true none "(?P<id>[^/]+?)".toList =
      .ok (ofTokens true "/(?P<id>[^/]+?)".toList [.literal "/(?P<id>[^/]+?)".toList]) := by decide
  have hu : compile false (some "/".toList) "{id}".toList =
      .ok (ofTokens false "/{id}".toList [.literal ['/'], .placeholder "id"]) := by decide
  obtain ⟨hextractor, hmatcher, hspecials, -⟩ := source_eq_iff ht hu
  obtain ⟨-, -, hspecials', -⟩ := source_eq_iff hu ht
  refine ⟨_, _, ht, hu, fun h => ?_, fun h => ?_, hspecials, hspecials'⟩
  · have hmount := hextractor.1 h
    revert hmount
    decide
  · cases hmatcher.1 h with
    | cons _ h => cases h

end Template

end TypedRoutes
