import TypedRoutes.Proofs.Template.Mounting
/-!
# Other names for the placeholders

A name tells where a captured text goes, and nothing else. A template with other names in its braces is mounted where
it was (`mount_renameText`), captures the same texts under the other names (`Template.captures?_renamed`), and is
written with the texts of the other names (`Template.substitute_tokens`).
-/
namespace TypedRoutes
open Pattern Text

/-- The token with another name. -/
def Token.renamed (f : String → String) : Token → Token
  | literal text => .literal text
  | placeholder name => .placeholder (f name)

/-- The text of a template with other names in its braces. What is no template stays as it is. -/
def renameText (f : String → String) (text : List Char) : List Char :=
  match tokenize text with
  | .ok tokens => untokenize (tokens.map (Token.renamed f))
  | .error _ => text

section Renaming
variable (f : String → String)

/-! ## Tokens -/

theorem placeholders_renamed (tokens : List Token) :
    placeholders (tokens.map (Token.renamed f)) = (placeholders tokens).map f := by
  induction tokens with
  | nil => rfl
  | cons token tokens ih =>
    cases token with
    | literal text => exact ih
    | placeholder name => exact congrArg (f name :: ·) ih

theorem literalToken_renamed (text : List Char) :
    (literalToken text).map (Token.renamed f) = literalToken text := by
  cases text <;> rfl

theorem merge_renamed (literal : List Char) (tokens : List Token) :
    merge literal (tokens.map (Token.renamed f)) = (merge literal tokens).map (Token.renamed f) := by
  induction tokens generalizing literal with
  | nil => exact (literalToken_renamed f literal).symm
  | cons token tokens ih =>
    cases token with
    | literal text => exact ih (literal ++ text)
    | placeholder name =>
      rw [List.map_cons, Token.renamed, merge, merge, ih, List.map_append, literalToken_renamed]
      rfl

/-- Other names capture the same texts. -/
theorem takeGap_map (g : Captures → Captures) (k : List Char → Option Captures) (path : List Char) :
    takeGap (fun rest => (k rest).map g) path = (takeGap k path).map (Prod.map id g) := by
  induction path with
  | nil => rfl
  | cons c cs ih =>
    by_cases hc : c = '/'
    · subst hc
      rfl
    · rw [takeGap_cons c cs hc, takeGap_cons c cs hc, ih]
      cases k cs <;> cases takeGap k cs <;> rfl

theorem search_renamed (foldsCase : Bool) (tokens : List Token) (path : List Char) :
    search foldsCase ((tokens.map (Token.renamed f)).map Token.group) path =
      (search foldsCase (tokens.map Token.group) path).map (List.map (Prod.map f id)) := by
  induction tokens generalizing path with
  | nil =>
    cases path <;> rfl
  | cons token tokens ih =>
    cases token with
    | literal text =>
      simp only [List.map_cons, Token.renamed, Token.group, search]
      cases afterText? foldsCase text path with
      | none => rfl
      | some rest => exact ih rest
    | placeholder name =>
      have hrest := funext ih
      simp only [List.map_cons, Token.renamed, Token.group, search] at hrest ⊢
      rw [hrest, takeGap_map]
      cases takeGap (search foldsCase (tokens.map Token.group)) path <;> rfl

theorem substitute_renamed (σ : Assignment) (tokens : List Token) :
    substitute σ (tokens.map (Token.renamed f)) = substitute (σ ∘ f) tokens := by
  induction tokens with
  | nil => rfl
  | cons token tokens ih =>
    cases token with
    | literal text => exact congrArg (text ++ ·) ih
    | placeholder name => exact congrArg (σ (f name) ++ ·) ih

/-! ## Cuts -/

theorem substitute_merge (σ : Assignment) (literal : List Char) (tokens : List Token) :
    substitute σ (merge literal tokens) = literal ++ substitute σ tokens := by
  have hliteral : ∀ text more, substitute σ (literalToken text ++ more) = text ++ substitute σ more := by
    intro text more
    cases text <;> rfl
  induction tokens generalizing literal with
  | nil => simpa [merge] using hliteral literal []
  | cons token tokens ih =>
    cases token with
    | literal text => rw [merge, ih, List.append_assoc, substitute_literal]
    | placeholder name => rw [merge, hliteral, substitute_placeholder, substitute_placeholder, ih, List.nil_append]

/-- The tokens of a text are written in the same way wherever they are cut. -/
theorem substitute_of_spells {tokens others : List Token} {text : List Char} (h : Spells tokens text)
    (h' : Spells others text) (σ : Assignment) : substitute σ tokens = substitute σ others := by
  have hmerged := congrArg (substitute σ) (merge_eq_of_spells h h')
  rwa [substitute_merge, substitute_merge] at hmerged

theorem untokenize_eq_substitute (tokens : List Token) :
    untokenize tokens = substitute (fun name => (Token.placeholder name).text) tokens := by
  induction tokens with
  | nil => rfl
  | cons token tokens ih =>
    rw [untokenize_cons, ih]
    cases token <;> rfl

/-! ## Texts -/

section Text
variable {tokens : List Token} {text : List Char}

theorem Spells.renameText_eq (h : Spells tokens text) :
    renameText f text = untokenize (tokens.map (Token.renamed f)) := by
  have hmerge : untokenize (merge [] (tokens.map (Token.renamed f))) = untokenize (tokens.map (Token.renamed f)) := by
    rw [untokenize_eq_substitute, substitute_merge, ← untokenize_eq_substitute, List.nil_append]
  rw [renameText, tokenize_of_spells h]
  dsimp only
  rw [← merge_renamed, hmerge]

theorem Spells.renamed (h : Spells tokens text)
    (hf : ∀ name ∈ placeholders tokens, isIdentifier (f name).toList = true) :
    Spells (tokens.map (Token.renamed f)) (renameText f text) where
  wellFormed := by
    rw [List.forall_mem_map]
    intro token hm
    cases token with
    | literal text => exact h.wellFormed _ hm
    | placeholder name => exact hf name (List.mem_filterMap.2 ⟨_, hm, rfl⟩)
  text_eq := (h.renameText_eq f).symm

/-- Braces begin and end with the same characters whatever is in them. -/
theorem untokenize_ends (tokens : List Token) :
    (untokenize (tokens.map (Token.renamed f))).head? = (untokenize tokens).head? ∧
      (untokenize (tokens.map (Token.renamed f))).getLast? = (untokenize tokens).getLast? := by
  have hlast : ∀ name, (Token.placeholder name).text.getLast? = some '}' := fun _ => List.getLast?_concat
  induction tokens with
  | nil => exact ⟨rfl, rfl⟩
  | cons token tokens ih =>
    rw [List.map_cons, untokenize_cons, untokenize_cons, List.head?_append, List.head?_append, List.getLast?_append,
      List.getLast?_append, ih.1, ih.2]
    cases token with
    | literal text => exact ⟨rfl, rfl⟩
    | placeholder name => exact ⟨rfl, by rw [Token.renamed, hlast, hlast]⟩

theorem Spells.renameText_ends (h : Spells tokens text) :
    (renameText f text).head? = text.head? ∧ (renameText f text).getLast? = text.getLast? := by
  rw [h.renameText_eq, ← h.text_eq]
  exact untokenize_ends f tokens

theorem Spells.renameText_eq_nil_iff (h : Spells tokens text) : renameText f text = [] ↔ text = [] := by
  rw [← List.head?_eq_none_iff, (h.renameText_ends f).1, List.head?_eq_none_iff]

theorem renameText_append {front behind : List Char} {others : List Token} (h : Spells tokens front)
    (h' : Spells others behind) : renameText f (front ++ behind) = renameText f front ++ renameText f behind := by
  rw [(h.append h').renameText_eq, h.renameText_eq, h'.renameText_eq, List.map_append, untokenize, List.flatMap_append]
  rfl

theorem spells_of_slashes {slashes : List Char} (h : ∀ c ∈ slashes, c = '/') :
    Spells (literalToken slashes) slashes := by
  have hnot : ∀ c, c ≠ '/' → c ∉ slashes := fun c hc hm => hc (h c hm)
  have hs := spells_nil.literalToken (hnot '{' (by decide)) (hnot '}' (by decide))
  rwa [List.append_nil, List.append_nil] at hs

theorem renameText_of_slashes {slashes : List Char} (h : ∀ c ∈ slashes, c = '/') : renameText f slashes = slashes := by
  have hs := spells_of_slashes h
  rw [hs.renameText_eq, literalToken_renamed, hs.text_eq]

/-- Slashes at the ends of a text stay where they are. -/
theorem trimSlashes_renameText (h : Spells tokens (trimSlashes text)) :
    trimSlashes (renameText f text) = renameText f (trimSlashes text) := by
  obtain ⟨behind, htext, hb, ha⟩ := eq_around_trim isSlash text
  rw [← trimSlashes] at htext
  have hbefore : ∀ c ∈ text.takeWhile isSlash, c = '/' := fun c hc => isSlash_iff.1 (hb c hc)
  have hbehind : ∀ c ∈ behind, c = '/' := fun c hc => isSlash_iff.1 (ha c hc)
  have haround : renameText f text = text.takeWhile isSlash ++ renameText f (trimSlashes text) ++ behind := by
    conv_lhs => rw [htext]
    rw [renameText_append f ((spells_of_slashes hbefore).append h) (spells_of_slashes hbehind),
      renameText_append f (spells_of_slashes hbefore) h, renameText_of_slashes f hbefore,
      renameText_of_slashes f hbehind]
  obtain ⟨hhead, hlast⟩ := h.renameText_ends f
  rw [haround, trimSlashes, trim_append hb ha, trim_eq_self]
  · intro c hc
    rw [hhead] at hc
    exact head?_trim hc
  · intro c hc
    rw [hlast] at hc
    exact getLast?_trimEnd hc

end Text

/-! ## Mounting -/

theorem Spells.behind_slash {tokens : List Token} {text : List Char} (h : Spells tokens ('/' :: text)) :
    ∃ right, Spells right text := by
  have hcut : Spells tokens ([] ++ '/' :: text) := h
  obtain ⟨-, right, -, hr, -⟩ := hcut.cut
  exact ⟨right, hr⟩

theorem renameText_slash {tokens : List Token} {text : List Char} (h : Spells tokens text) :
    renameText f ('/' :: text) = '/' :: renameText f text := by
  rw [h.slash.renameText_eq, h.renameText_eq]
  rfl

section Mount
variable {tokens : List Token} {base template : List Char}

theorem mount_of_slashes (h : trimSlashes base = []) (template : List Char) :
    mount (some base) template = mount none template := by
  rw [mount, Option.map_some, h]
  rfl

/-- What is mounted at the root is a template behind a slash. -/
theorem mount_none_renameText (h : Spells tokens (mount none template)) :
    mount none (renameText f template) = renameText f (mount none template) := by
  obtain ⟨right, hr⟩ := h.behind_slash
  rw [mount_none, mount_none, trimSlashes_renameText f hr, renameText_slash f hr]

theorem belowBase_renameText (h : Spells tokens (trimSlashes template)) :
    belowBase (renameText f template) = renameText f (belowBase template) := by
  rw [belowBase, belowBase, trimSlashes_renameText f h]
  by_cases ht : trimSlashes template = []
  · rw [if_pos ht, if_pos ((h.renameText_eq_nil_iff f).2 ht)]
    rfl
  · rw [if_neg ht, if_neg (mt (h.renameText_eq_nil_iff f).1 ht), renameText_slash f h]

/-- The base and the template that are mounted are templates each. -/
theorem exists_spells_mounted (hb : trimSlashes base ≠ []) (h : Spells tokens (mount (some base) template)) :
    (∃ left, Spells left (trimSlashes base)) ∧ (∃ right, Spells right (trimSlashes template)) ∧
      ∃ right, Spells right (belowBase template) := by
  rw [mount_some hb, List.cons_append] at h
  obtain ⟨rest, hr⟩ := h.behind_slash
  by_cases ht : trimSlashes template = []
  · rw [belowBase, if_pos ht] at hr ⊢
    rw [List.append_nil] at hr
    exact ⟨⟨_, hr⟩, ⟨[], ht ▸ spells_nil⟩, [], spells_nil⟩
  · rw [belowBase, if_neg ht] at hr ⊢
    obtain ⟨left, right, hleft, hright, -⟩ := hr.cut
    exact ⟨⟨left, hleft⟩, ⟨right, hright⟩, _, hright.slash⟩

/-- What is mounted under a base is the base behind a slash, and a template behind another if it is not the root. -/
theorem mount_some_renameText (hb : trimSlashes base ≠ []) (h : Spells tokens (mount (some base) template)) :
    mount (some (renameText f base)) (renameText f template) = renameText f (mount (some base) template) := by
  obtain ⟨⟨left, hleft⟩, ⟨right, hright⟩, below, hbelow⟩ := exists_spells_mounted hb h
  have hbase := trimSlashes_renameText f hleft
  have hne : trimSlashes (renameText f base) ≠ [] := by
    rw [hbase]
    exact mt (hleft.renameText_eq_nil_iff f).1 hb
  rw [mount_some hb, mount_some hne, hbase, belowBase_renameText f hright, renameText_append f hleft.slash hbelow,
    renameText_slash f hleft]

end Mount

/-- A template with other names is mounted under its base with other names. -/
theorem mount_renameText {tokens : List Token} {base : Option (List Char)} {template : List Char}
    (h : Spells tokens (mount base template)) :
    mount (base.map (renameText f)) (renameText f template) = renameText f (mount base template) := by
  cases base with
  | none => exact mount_none_renameText f h
  | some base =>
    rw [Option.map_some]
    by_cases hb : trimSlashes base = []
    · have hslashes : trimSlashes (renameText f base) = [] := by
        rw [trimSlashes_renameText f (hb ▸ spells_nil), hb]
        rfl
      rw [mount_of_slashes hb] at h ⊢
      rw [mount_of_slashes hslashes, mount_none_renameText f h]
    · exact mount_some_renameText f hb h

end Renaming

/-! ## Templates that compile -/

namespace Template
variable {foldsCase : Bool} {base : Option (List Char)} {template : List Char} {t t' : Template} {f : String → String}

section Compiled
variable (h : compile foldsCase base template = .ok t)
  (h' : compile foldsCase (base.map (renameText f)) (renameText f template) = .ok t')
  (hf : ∀ name ∈ t.placeholders, isIdentifier (f name).toList = true)
include h hf

/-- The tokens with other names spell the template with other names. -/
theorem spells_renamed :
    Spells (t.tokens.map (Token.renamed f)) (mount (base.map (renameText f)) (renameText f template)) := by
  have hs := spells_of_tokenize (of_compile h).1
  rw [mount_renameText f hs]
  exact hs.renamed f hf

include h'

theorem placeholders_tokens : t'.placeholders = t.placeholders.map f := by
  have hs := spells_of_tokenize (of_compile h').1
  have hmerged := congrArg TypedRoutes.placeholders (merge_eq_of_spells hs (spells_renamed h hf))
  rwa [placeholders_merge, placeholders_merge, placeholders_renamed] at hmerged

/-- The texts are captured under the other names. -/
theorem captures?_renamed (uri : List Char) :
    t'.captures? uri = (t.captures? uri).map (List.map (Prod.map f id)) := by
  rw [captures?_of_spells h' (spells_renamed h hf), search_renamed, captures?_of_compile h]

/-- The template is written with the texts of the other names. -/
theorem substitute_tokens (σ : Assignment) : substitute σ t'.tokens = substitute (σ ∘ f) t.tokens := by
  have hs := spells_of_tokenize (of_compile h').1
  rw [substitute_of_spells hs (spells_renamed h hf), substitute_renamed]

end Compiled

end Template

end TypedRoutes
