import TypedRoutes.Proofs.Template.Generation
/-!
# Which templates are ever matched

A template that compiles may still match no URI: the path of a request holds no mark of a query or a fragment, so a
literal with such a mark in it never finds its text. `Template.exists_isMatch_iff` says that nothing else keeps a
template from being matched. Without these marks, the path that is written with any texts in the placeholders is matched
(`Template.isMatch_substitute`).
-/
namespace TypedRoutes

/-! ## Marks in a template -/

theorem endsPath_eq_false_iff {c : Char} : endsPath c = false ↔ c ≠ '?' ∧ c ≠ '#' := by
  rw [endsPath, Bool.or_eq_false_iff, beq_eq_false_iff_ne, beq_eq_false_iff_ne]

theorem not_endsPath_of_mem_placeholder {name : String} (h : isIdentifier name.toList = true) :
    ∀ c ∈ (Token.placeholder name).text, endsPath c = false := by
  intro c hc
  refine endsPath_eq_false_iff.2 ⟨?_, ?_⟩
  · rintro rfl
    exact not_mem_placeholder_text h (by decide) (by decide) (by decide) hc
  · rintro rfl
    exact not_mem_placeholder_text h (by decide) (by decide) (by decide) hc

/-- Only literals can bring a mark of a query or a fragment into a template. -/
theorem Spells.pathOnly_iff {tokens : List Token} {text : List Char} (h : Spells tokens text) :
    PathOnly tokens ↔ '?' ∉ text ∧ '#' ∉ text := by
  have hmarks : ('?' ∉ text ∧ '#' ∉ text) ↔ ∀ c ∈ text, endsPath c = false := by
    constructor
    · rintro ⟨hq, hf⟩ c hc
      exact endsPath_eq_false_iff.2 ⟨fun he => hq (he ▸ hc), fun he => hf (he ▸ hc)⟩
    · intro hall
      exact ⟨fun hm => (endsPath_eq_false_iff.1 (hall _ hm)).1 rfl,
        fun hm => (endsPath_eq_false_iff.1 (hall _ hm)).2 rfl⟩
  rw [hmarks, ← h.text_eq]
  constructor
  · intro hp c hc
    obtain ⟨token, hm, hc⟩ := List.mem_flatMap.1 hc
    cases token with
    | literal text => exact hp text hm c hc
    | placeholder name => exact not_endsPath_of_mem_placeholder (h.wellFormed _ hm) c hc
  · intro hall text hm c hc
    exact hall c (literal_subset_untokenize hm hc)

namespace Template
variable {foldsCase : Bool} {base : Option (List Char)} {template : List Char} {t : Template}

/-! ## Matching -/

/-- A template with a mark of a query or a fragment in a literal matches no URI. -/
theorem pathOnly_of_isMatch (h : compile foldsCase base template = .ok t) {uri : List Char}
    (hm : t.isMatch uri = true) : PathOnly t.tokens := by
  obtain ⟨texts, hd⟩ := (isMatch_iff_division h).1 hm
  exact hd.pathOnly fun c hc => endsPath_of_mem_normalizePath hc

/-- The path that is written with texts in the placeholders is matched. -/
theorem isMatch_substitute (h : compile foldsCase base template = .ok t) (hp : PathOnly t.tokens) {σ : Assignment}
    (hf : ∀ name ∈ t.placeholders, FillsPlaceholder (σ name))
    (he : ∀ name ∈ t.placeholders, ∀ c ∈ σ name, endsPath c = false) :
    t.isMatch (substitute σ t.tokens) = true := by
  rw [isMatch_iff_division h, normalizePath_substitute h hp hf he]
  exact ⟨_, division_substitute foldsCase hf⟩

/-- A template that compiles is matched by some URI exactly if its mounted text has no mark of a query or a
fragment. -/
theorem exists_isMatch_iff (h : compile foldsCase base template = .ok t) :
    (∃ uri, t.isMatch uri = true) ↔ '?' ∉ mount base template ∧ '#' ∉ mount base template := by
  rw [← (spells_of_tokenize (of_compile h).1).pathOnly_iff]
  constructor
  · rintro ⟨uri, hm⟩
    exact pathOnly_of_isMatch h hm
  · intro hp
    refine ⟨substitute (fun _ => ['x']) t.tokens, isMatch_substitute h hp ?_ ?_⟩
    · intro name _
      decide
    · intro name _ c hc
      rw [List.mem_singleton.1 hc]
      rfl

/-- A page of search results, under a base path. -/
def results : Template :=
  ofTokens true "/api/results/{page}".toList [.literal "/api/results/".toList, .placeholder "page"]

/-- Nothing in the template of `results` ends a path, so some URI matches it. -/
theorem exists_isMatch_iff_results :
    compile true (some "api/".toList) "/results/{page}/".toList = .ok results ∧
    ('?' ∉ mount (some "api/".toList) "/results/{page}/".toList ∧
      '#' ∉ mount (some "api/".toList) "/results/{page}/".toList) ∧
    ∃ uri, results.isMatch uri = true := by
  have h : compile true (some "api/".toList) "/results/{page}/".toList = .ok results := by decide
  have hmarks : '?' ∉ mount (some "api/".toList) "/results/{page}/".toList ∧
      '#' ∉ mount (some "api/".toList) "/results/{page}/".toList := by decide
  exact ⟨h, hmarks, (exists_isMatch_iff h).2 hmarks⟩

/-- A template with a query in it. -/
def query : Template :=
  ofTokens false "/search?q".toList [.literal "/search?q".toList]

/-- A template with a query in it compiles, and no URI matches it: its own text is cut at the query. -/
theorem not_isMatch_query :
    compile false none "/search?q".toList = .ok query ∧ query.isMatch "/search?q".toList = false ∧
    ¬ ∃ uri, query.isMatch uri = true := by
  have h : compile false none "/search?q".toList = .ok query := by decide
  refine ⟨h, by decide, ?_⟩
  rintro ⟨uri, hm⟩
  have hmark : endsPath '?' = false := pathOnly_of_isMatch h hm "/search?q".toList (by decide) '?' (by decide)
  cases hmark

end Template

end TypedRoutes
