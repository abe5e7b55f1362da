import TypedRoutes.Proofs.Text.Trim
import TypedRoutes.Proofs.Template.Separation
/-!
# Paths that are written from a template

A template begins with a slash and ends in none, the root apart, and so does every path that is written from it with
texts that fill its placeholders. Such a path is its own normal form (`normalizePath_substitute`), and if its texts
are separated they are what the template captures from it (`Template.captures?_substitute`).
-/
namespace TypedRoutes
open Text

/-! ## The path of a URI -/

theorem afterScheme?_suffix {cs rest : List Char} (h : afterScheme? cs = some rest) : rest <:+ cs := by
  induction cs with
  | nil => cases h
  | cons c cs ih =>
    rw [afterScheme?] at h
    split at h
    · cases h
    · split at h
      · rename_i hw
        cases h
        rw [afterWord?_eq_some_iff.1 hw]
        exact List.suffix_append _ _
      · exact (ih h).trans (List.suffix_cons c cs)

/-- To take off the scheme and the authority adds no character. -/
theorem withoutAuthority_subset (uri : List Char) : withoutAuthority uri ⊆ uri := by
  unfold withoutAuthority
  split
  · rename_i hs
    exact fun c hc => (afterScheme?_suffix hs).subset ((List.dropWhile_sublist _).subset hc)
  · exact fun c hc => hc

/-- The path of a URI holds no mark of a query or a fragment. -/
theorem endsPath_of_mem_normalizePath {uri : List Char} {c : Char} (h : c ∈ normalizePath uri) :
    endsPath c = false := by
  have hpath : ∀ d ∈ trimEnd isSlash (withoutAuthority (beforeQuery uri)), endsPath d = false := by
    intro d hd
    have hquery : d ∈ beforeQuery uri := withoutAuthority_subset _ (trimEnd_subset _ _ hd)
    simpa using List.mem_takeWhile_imp hquery
  unfold normalizePath rooted at h
  split at h
  · exact hpath c h
  · rcases List.mem_cons.1 h with rfl | h
    · rfl
    · exact hpath c h

/-- A path that begins with a slash, ends in none and holds no query is its own normal form. -/
theorem normalizePath_eq_self {path : List Char} (hhead : path.head? = some '/')
    (hlast : path.getLast? = some '/' → path = ['/']) (hend : ∀ c ∈ path, endsPath c = false) :
    normalizePath path = path := by
  have hquery : beforeQuery path = path := by
    rw [beforeQuery, List.takeWhile_eq_self_iff]
    intro c hc
    rw [hend c hc]
    rfl
  obtain ⟨rest, rfl⟩ : ∃ rest, path = '/' :: rest := by
    cases path with
    | nil => cases hhead
    | cons c rest => exact ⟨rest, by cases hhead; rfl⟩
  rw [normalizePath, hquery]
  change rooted (trimEnd isSlash ('/' :: rest)) = _
  by_cases hl : ('/' :: rest).getLast? = some '/'
  · rw [hlast hl]
    rfl
  · rw [trimEnd_eq_self]
    · rfl
    · intro c hc
      simp only [isSlash, beq_eq_false_iff_ne]
      rintro rfl
      exact hl hc

/-! ## The ends of a template -/

theorem getLast?_trimSlashes (cs : List Char) : (trimSlashes cs).getLast? ≠ some '/' :=
  fun h => Bool.noConfusion (getLast?_trimEnd h : isSlash '/' = false)

/-- A mounted template begins with a slash and ends in none, unless it is the root. -/
theorem mount_ends (base : Option (List Char)) (template : List Char) :
    (mount base template).head? = some '/' ∧
      ((mount base template).getLast? = some '/' → mount base template = ['/']) := by
  have hends : ∀ front cs, (trimSlashes cs).isEmpty = false → (front ++ trimSlashes cs).getLast? ≠ some '/' := by
    intro front cs hne
    rw [List.getLast?_append_of_ne_nil _ (by simpa using hne)]
    exact getLast?_trimSlashes cs
  have hroot : ∀ cs, ('/' :: trimSlashes cs).getLast? = some '/' → '/' :: trimSlashes cs = ['/'] := by
    intro cs h
    cases he : (trimSlashes cs).isEmpty with
    | true => rw [List.isEmpty_iff.1 he]
    | false => exact absurd h (hends ['/'] cs he)
  unfold mount
  dsimp only
  split
  · exact ⟨rfl, hroot template⟩
  · exact ⟨rfl, hroot template⟩
  · rename_i trimmed hne hb
    obtain ⟨cs, -, rfl⟩ := Option.map_eq_some_iff.1 hb
    cases he : (trimSlashes template).isEmpty with
    | true =>
      rw [if_pos rfl]
      exact ⟨rfl, hroot cs⟩
    | false =>
      rw [if_neg (by simp)]
      refine ⟨rfl, fun h => absurd h ?_⟩
      have := hends ('/' :: trimSlashes cs ++ ['/']) template he
      simpa using this

/-! ## The ends of a path -/

section Substitute
variable {σ : Assignment}

@[simp] theorem substitute_literal (text : List Char) (tokens : List Token) :
    substitute σ (.literal text :: tokens) = text ++ substitute σ tokens := rfl

@[simp] theorem substitute_placeholder (name : String) (tokens : List Token) :
    substitute σ (.placeholder name :: tokens) = σ name ++ substitute σ tokens := rfl

/-- What is written depends on the texts of the placeholders only. -/
theorem substitute_congr {τ : Assignment} {tokens : List Token} (h : ∀ name ∈ placeholders tokens, σ name = τ name) :
    substitute σ tokens = substitute τ tokens := by
  induction tokens with
  | nil => rfl
  | cons token tokens ih =>
    cases token with
    | literal text => rw [substitute_literal, substitute_literal, ih h]
    | placeholder name =>
      rw [placeholders_placeholder, List.forall_mem_cons] at h
      rw [substitute_placeholder, substitute_placeholder, h.1, ih h.2]

theorem head?_substitute {tokens : List Token} (h : (untokenize tokens).head? = some '/') :
    (substitute σ tokens).head? = some '/' := by
  induction tokens with
  | nil => cases h
  | cons token tokens ih =>
    rw [untokenize_cons] at h
    cases token with
    | placeholder name => cases h
    | literal text =>
      cases text with
      | nil => exact ih h
      | cons c cs => exact h

theorem untokenize_eq_nil {tokens : List Token} (hf : ∀ name ∈ placeholders tokens, FillsPlaceholder (σ name))
    (h : substitute σ tokens = []) : untokenize tokens = [] := by
  induction tokens with
  | nil => rfl
  | cons token tokens ih =>
    cases token with
    | literal text =>
      obtain ⟨ht, hs⟩ := List.append_eq_nil_iff.1 h
      rw [untokenize_cons, ih hf hs, List.append_nil]
      exact ht
    | placeholder name =>
      rw [placeholders_placeholder, List.forall_mem_cons] at hf
      exact absurd (List.append_eq_nil_iff.1 h).1 hf.1.1

/-- A path ends in a slash only where the template does, since a placeholder ends in none. -/
theorem getLast?_untokenize {tokens : List Token} (hf : ∀ name ∈ placeholders tokens, FillsPlaceholder (σ name))
    (h : (substitute σ tokens).getLast? = some '/') : (untokenize tokens).getLast? = some '/' := by
  induction tokens with
  | nil => cases h
  | cons token tokens ih =>
    have hf' : ∀ name ∈ placeholders tokens, FillsPlaceholder (σ name) := by
      cases token with
      | literal text => exact hf
      | placeholder name => exact (List.forall_mem_cons.1 hf).2
    rw [untokenize_cons]
    by_cases hs : substitute σ tokens = []
    · cases token with
      | literal text =>
        rw [substitute_literal, hs, List.append_nil] at h
        rw [untokenize_eq_nil hf' hs, List.append_nil]
        exact h
      | placeholder name =>
        rw [placeholders_placeholder, List.forall_mem_cons] at hf
        rw [substitute_placeholder, hs, List.append_nil] at h
        exact absurd (List.mem_of_getLast? h) hf.1.2
    · have htail : (substitute σ tokens).getLast? = some '/' := by
        cases token with
        | literal text => rwa [substitute_literal, List.getLast?_append_of_ne_nil _ hs] at h
        | placeholder name => rwa [substitute_placeholder, List.getLast?_append_of_ne_nil _ hs] at h
      rw [List.getLast?_append, ih hf' htail]
      rfl

/-- A template without placeholders is the only path that is written from it. -/
theorem substitute_eq_untokenize {tokens : List Token} (h : '{' ∉ untokenize tokens) :
    substitute σ tokens = untokenize tokens := by
  induction tokens with
  | nil => rfl
  | cons token tokens ih =>
    rw [untokenize_cons, List.mem_append, not_or] at h
    rw [untokenize_cons]
    cases token with
    | literal text => rw [substitute_literal, ih h.2]; rfl
    | placeholder name => exact absurd List.mem_cons_self h.1

/-- The characters of a path come from a literal or from a text. -/
theorem mem_substitute {tokens : List Token} {c : Char} (h : c ∈ substitute σ tokens) :
    (∃ text, .literal text ∈ tokens ∧ c ∈ text) ∨ ∃ name ∈ placeholders tokens, c ∈ σ name := by
  obtain ⟨token, hm, hc⟩ := List.mem_flatMap.1 h
  cases token with
  | literal text => exact .inl ⟨text, hm, hc⟩
  | placeholder name => exact .inr ⟨name, List.mem_filterMap.2 ⟨_, hm, rfl⟩, hc⟩

/-- A character that is in no text and in no name is written as often as the template has it. -/
theorem count_substitute {tokens : List Token} {c : Char}
    (ht : ∀ name ∈ placeholders tokens, c ∉ (Token.placeholder name).text)
    (hf : ∀ name ∈ placeholders tokens, c ∉ σ name) : (substitute σ tokens).count c = (untokenize tokens).count c := by
  induction tokens with
  | nil => rfl
  | cons token tokens ih =>
    rw [untokenize_cons, List.count_append]
    cases token with
    | literal text => rw [substitute_literal, List.count_append, ih ht hf]; rfl
    | placeholder name =>
      rw [placeholders_placeholder, List.forall_mem_cons] at ht hf
      rw [substitute_placeholder, List.count_append, ih ht.2 hf.2, List.count_eq_zero.2 hf.1,
        List.count_eq_zero.2 ht.1]

end Substitute

/-! ## Writing a path and matching it -/

/-- No literal of the tokens holds a mark of a query or a fragment. -/
def PathOnly (tokens : List Token) : Prop :=
  ∀ text, .literal text ∈ tokens → ∀ c ∈ text, endsPath c = false

theorem literal_subset_untokenize {tokens : List Token} {text : List Char} (h : .literal text ∈ tokens) :
    text ⊆ untokenize tokens :=
  fun _ hc => List.mem_flatMap.2 ⟨_, h, hc⟩

/-- Only literals without such marks can be part of a path. -/
theorem Division.pathOnly {foldsCase : Bool} {tokens : List Token} {texts : List (List Char)} {path : List Char}
    (h : Division foldsCase tokens texts path) (hp : ∀ c ∈ path, endsPath c = false) : PathOnly tokens := by
  induction tokens generalizing texts path with
  | nil => intro text hm; cases hm
  | cons token tokens ih =>
    cases token with
    | literal text =>
      obtain ⟨piece, rest, rfl, hs, hd⟩ := h
      rw [List.forall_mem_append] at hp
      intro other hm c hc
      rcases List.mem_cons.1 hm with he | hm
      · cases he
        by_contra hend
        rw [Bool.not_eq_false, endsPath, Bool.or_eq_true, beq_iff_eq, beq_iff_eq] at hend
        rcases hend with rfl | rfl
        · have := hp.1 _ ((hs.mark_mem_iff (by decide)).1 hc)
          cases this
        · have := hp.1 _ ((hs.mark_mem_iff (by decide)).1 hc)
          cases this
      · exact ih hd hp.2 other hm c hc
    | placeholder name =>
      obtain ⟨text, more, rest, rfl, rfl, -, hd⟩ := h
      intro other hm
      exact ih hd (List.forall_mem_append.1 hp).2 other (by simpa using hm)

/-- The texts of a division are parts of the path. -/
theorem Division.text_subset {foldsCase : Bool} {tokens : List Token} {texts : List (List Char)} {path text : List Char}
    (h : Division foldsCase tokens texts path) (hm : text ∈ texts) : text ⊆ path := by
  induction tokens generalizing texts path with
  | nil =>
    rw [h.1] at hm
    cases hm
  | cons token tokens ih =>
    cases token with
    | literal _ =>
      obtain ⟨piece, rest, rfl, -, hd⟩ := h
      exact fun c hc => List.mem_append_right _ (ih hd hm hc)
    | placeholder name =>
      obtain ⟨first, more, rest, rfl, rfl, -, hd⟩ := h
      rcases List.mem_cons.1 hm with rfl | hm
      · exact fun c hc => List.mem_append_left _ hc
      · exact fun c hc => List.mem_append_right _ (ih hd hm hc)

namespace Template
variable {foldsCase : Bool} {base : Option (List Char)} {template : List Char} {t : Template} {σ : Assignment}

/-- A path that is written from a template is its own normal form. Only the root ends in a slash, and it has no
placeholder. -/
theorem normalizePath_substitute (h : compile foldsCase base template = .ok t) (hp : PathOnly t.tokens)
    (hf : ∀ name ∈ t.placeholders, FillsPlaceholder (σ name))
    (he : ∀ name ∈ t.placeholders, ∀ c ∈ σ name, endsPath c = false) :
    normalizePath (substitute σ t.tokens) = substitute σ t.tokens := by
  have htext := untokenize_of_tokenize (of_compile h).1
  obtain ⟨hhead, hlast⟩ := mount_ends base template
  rw [← htext] at hhead hlast
  refine normalizePath_eq_self (head?_substitute hhead) (fun hl => ?_) fun c hc => ?_
  · have hroot := hlast (getLast?_untokenize hf hl)
    rw [substitute_eq_untokenize (by rw [hroot]; decide), hroot]
  · rcases mem_substitute hc with ⟨text, hm, hc⟩ | ⟨name, hm, hc⟩
    · exact hp text hm c hc
    · exact he name hm c hc

/-- Separated texts are captured again from the path that is written with them. -/
theorem captures?_substitute (h : compile foldsCase base template = .ok t) (hp : PathOnly t.tokens)
    (hf : ∀ name ∈ t.placeholders, FillsPlaceholder (σ name))
    (he : ∀ name ∈ t.placeholders, ∀ c ∈ σ name, endsPath c = false) (hs : Separated foldsCase σ t.tokens) :
    ∃ captures, t.captures? (substitute σ t.tokens) = some captures ∧ captures.map Prod.fst = t.placeholders ∧
      ∀ name ∈ t.placeholders, captures.lookup name = some (σ name) := by
  have hn := (of_compile h).2.2
  have hsearch := captures?_of_compile h (substitute σ t.tokens)
  rw [normalizePath_substitute h hp hf he] at hsearch
  obtain ⟨captures, hc, hl⟩ := search_of_division (division_substitute foldsCase hf)
  obtain ⟨hk, hd⟩ := search_division hc
  have htexts := hd.eq_of_separated hf hs hl
  refine ⟨captures, by rw [hsearch, hc], hk, fun name hm => ?_⟩
  have hassigned : t.placeholders.map (assignmentOf captures) = t.placeholders.map σ := by
    rw [Template.placeholders, ← htexts, ← hk]
    exact map_assignmentOf (hk ▸ hn)
  rw [lookup_eq_assignmentOf (hk ▸ hm), List.map_inj_left.1 hassigned name hm]

end Template

end TypedRoutes
