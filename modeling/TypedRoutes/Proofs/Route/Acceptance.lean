import Mathlib.Data.List.Induction
import TypedRoutes.Proofs.Route.Built
/-!
# Which declarations are accepted

Steps declare parameters in order, and of everything else the last step of its kind counts (`ofSteps_eq`).
`WellDeclared` says what steps must declare, without the checks: sound parameters, a text that tokens spell, the same
names for placeholders and path parameters, and a result with one verb.

`Declaration.build_ofSteps_iff`: exactly the steps that do so are accepted, as long as the patterns are within the
limit, and the route that they give is the one that they declare.
-/
namespace TypedRoutes

/-! ## What steps declare -/

namespace Step

def base? : Step → Option String
  | under base => some base
  | _ => none

def parameter? : Step → Option Parameter
  | parameter p => some p
  | _ => none

/-- The result type that a step declares, for a handler. -/
def result? (handler : String) : Step → Option ReturnType
  | returning t => some t
  | serving verb => some (.withVerb handler verb)
  | _ => none

def foldsCase? : Step → Option Bool
  | foldingCase foldsCase => some foldsCase
  | _ => none

end Step

namespace Declaration

/-- The parameters that steps declare, in order. -/
def parametersOf (steps : List Step) : List Parameter :=
  steps.filterMap Step.parameter?

/-- The last base path that steps declare. -/
def lastBase? (steps : List Step) : Option String :=
  (steps.filterMap Step.base?).getLast?

/-- The last result type that steps declare. -/
def lastResult? (handler : String) (steps : List Step) : Option ReturnType :=
  (steps.filterMap (Step.result? handler)).getLast?

/-- Whether steps leave literals to match without regard to case. -/
def foldsCaseOf (steps : List Step) : Bool :=
  ((steps.filterMap Step.foldsCase?).getLast?).getD false

/-- The text of a template under the base path of steps. -/
def mounted (template : String) (steps : List Step) : List Char :=
  mount ((lastBase? steps).map String.toList) template.toList

theorem ofSteps_concat (handler template : String) (steps : List Step) (step : Step) :
    ofSteps handler template (steps ++ [step]) = (ofSteps handler template steps).take step := by
  rw [ofSteps, List.foldl_append]
  rfl

theorem ofSteps_eq (handler template : String) (steps : List Step) :
    ofSteps handler template steps =
      ⟨handler, template, lastBase? steps, parametersOf steps, lastResult? handler steps, foldsCaseOf steps⟩ := by
  induction steps using List.reverseRecOn with
  | nil => rfl
  | append_singleton steps step ih =>
    rw [ofSteps_concat, ih]
    cases step <;>
      simp [take, lastBase?, parametersOf, lastResult?, foldsCaseOf, Step.base?, Step.parameter?, Step.result?,
        Step.foldsCase?]

/-! ## What is well declared -/

/-- Steps that declare a route whose template has some tokens and whose handler serves a verb. -/
structure WellDeclared (handler template : String) (steps : List Step) (tokens : List Token) (verb : Verb) : Prop where
  sound : SoundParameters (parametersOf steps)
  spelled : Spells tokens (mounted template steps)
  placeholders_nodup : (placeholders tokens).Nodup
  /-- The placeholders are the names of the path parameters. -/
  mem_placeholders : ∀ name, name ∈ placeholders tokens ↔ ∃ p ∈ parametersOf steps, p.isPath = true ∧ p.name = name
  result : ∃ t, lastResult? handler steps = some t ∧ t.Declares verb

section Accepted
variable {handler template : String} {steps : List Step}

/-- What passes the checks is well declared. -/
theorem wellDeclared_of_matched {t : Template} {verb : Verb} (h : (ofSteps handler template steps).Matched t)
    (hv : (ofSteps handler template steps).verb = .ok verb) :
    WellDeclared handler template steps t.tokens verb := by
  rw [ofSteps_eq] at h hv
  obtain ⟨htokens, -, hnodup⟩ := Template.of_compile h.compiled
  refine ⟨h.sound, spells_of_tokenize htokens, hnodup, fun name => ?_, verb_eq_ok_iff.1 hv⟩
  constructor
  · intro hm
    obtain ⟨p, hp, rfl⟩ := h.covered name hm
    obtain ⟨hp, hpath⟩ := List.mem_filter.1 hp
    exact ⟨p, hp, hpath, rfl⟩
  · rintro ⟨p, hp, hpath, rfl⟩
    exact h.used p (List.mem_filter.2 ⟨hp, hpath⟩)

/-- What is well declared passes the checks, if the patterns are within the limit. -/
theorem matched_of_wellDeclared {tokens : List Token} {verb : Verb}
    (hl : ∀ tokens, tokenize (mounted template steps) = .ok tokens →
      (Template.ofTokens (foldsCaseOf steps) (mounted template steps) tokens).withinLimit = true)
    (h : WellDeclared handler template steps tokens verb) :
    ∃ t, (ofSteps handler template steps).Matched t := by
  have htokens := tokenize_of_spells h.spelled
  have hnodup : (placeholders (merge [] tokens)).Nodup := by
    rw [placeholders_merge]
    exact h.placeholders_nodup
  have hcompiled := Template.compile_of_tokenize htokens hnodup (hl _ htokens)
  have hnames : ∀ name, name ∈ placeholders (merge [] tokens) ↔
      ∃ p ∈ parametersOf steps, p.isPath = true ∧ p.name = name := by
    rw [placeholders_merge]
    exact h.mem_placeholders
  have hapart : ∀ p ∈ parametersOf steps, p.isContent = true → p.name ∉ placeholders (merge [] tokens) := by
    intro p hp hc hm
    obtain ⟨q, hq, hpath, hn⟩ := (hnames p.name).1 hm
    exact h.sound.name_ne hq hp hpath hc hn
  rw [ofSteps_eq]
  refine ⟨_, ⟨⟨⟨⟨h.sound, hcompiled⟩, hapart⟩, fun name hm => ?_⟩, fun p hp => ?_⟩⟩
  · obtain ⟨p, hp, hpath, hn⟩ := (hnames name).1 hm
    exact ⟨p, List.mem_filter.2 ⟨hp, hpath⟩, hn⟩
  · obtain ⟨hp, hpath⟩ := List.mem_filter.1 hp
    exact (hnames p.name).2 ⟨p, hp, hpath, rfl⟩

end Accepted

/-- Steps are accepted exactly if they are well declared, as long as the patterns are within the limit. The route has
the path parameters in the order in which they are declared, which are the placeholders in another order, the one
content parameter, which is no placeholder, and the verb that is declared. -/
theorem build_ofSteps_iff (handler template : String) (steps : List Step)
    (hl : ∀ tokens, tokenize (mounted template steps) = .ok tokens →
      (Template.ofTokens (foldsCaseOf steps) (mounted template steps) tokens).withinLimit = true) :
    ((∃ r, (ofSteps handler template steps).build.run.value = .ok r) ↔
      ∃ tokens verb, WellDeclared handler template steps tokens verb) ∧
    ∀ r, (ofSteps handler template steps).build.run.value = .ok r →
      WellDeclared handler template steps r.template.tokens r.verb ∧ r.handler = handler ∧
      r.template = .ofTokens (foldsCaseOf steps) (mounted template steps) r.template.tokens ∧
      r.pathParameters = (parametersOf steps).filter Parameter.isPath ∧
      (r.pathParameters.map (·.name)).Perm r.template.placeholders ∧
      r.bodyParameter.toList = (parametersOf steps).filter Parameter.isContent ∧
      ∀ body ∈ r.bodyParameter, body.name ∉ r.template.placeholders := by
  refine ⟨⟨?_, ?_⟩, fun r h => ?_⟩
  · rintro ⟨r, h⟩
    obtain ⟨hm, hv, -⟩ := check_eq_ok_iff.1 (build_eq_ok_iff.1 h)
    exact ⟨_, _, wellDeclared_of_matched hm hv⟩
  · rintro ⟨tokens, verb, h⟩
    obtain ⟨t, hm⟩ := matched_of_wellDeclared hl h
    have hv : (ofSteps handler template steps).verb = .ok verb := by
      rw [ofSteps_eq]
      exact verb_eq_ok_iff.2 h.result
    exact ⟨⟨_, verb, t, _, _⟩, build_eq_ok_iff.2 (check_eq_ok_iff.2 ⟨hm, hv, rfl, rfl, rfl⟩)⟩
  · obtain ⟨hm, hv, hhandler, hpath, hbody⟩ := check_eq_ok_iff.1 (build_eq_ok_iff.1 h)
    have hperm := (wellFormed_of_build h).names_perm
    refine ⟨wellDeclared_of_matched hm hv, ?_⟩
    rw [ofSteps_eq] at hm hhandler hpath hbody
    refine ⟨hhandler, (Template.of_compile hm.compiled).2.1, hpath, hperm, ?_, fun body hb => ?_⟩
    · rw [hbody]
      exact hm.sound.toList_find?_isContent
    · rw [hbody] at hb
      exact hm.apart body (List.mem_of_find?_eq_some hb) (List.find?_some hb)

/-- A photo that is put into an album. Of the two base paths and the two results the last ones count. -/
def photoSteps : List Step :=
  [.under "v1", .parameter ⟨"photo", .scalar .text, .path⟩, .parameter ⟨"image", .custom "Image", .content⟩,
    .serving .get, .under "/api/", .parameter ⟨"album", .sequence (.scalar (.integer .int)), .path⟩,
    .returning (.futureOf (.withVerb "Created" .put))]

/-- The text under the last base path, cut in two literals where its tokens have one. -/
theorem photoSteps_wellDeclared : WellDeclared "photos.put" "/{album}/{photo}" photoSteps
    [.literal "/api".toList, .literal ['/'], .placeholder "album", .literal ['/'], .placeholder "photo"] .put where
  sound := ⟨by decide, by decide, by
    intro p hp hpath
    exact ParamType.isBindable_iff.1 (by revert p; decide)⟩
  spelled := ⟨by decide, by decide⟩
  placeholders_nodup := by decide
  mem_placeholders name := by
    have hnames : ["photo", "album"] = ((parametersOf photoSteps).filter Parameter.isPath).map (·.name) := rfl
    have hdeclared : name ∈ ["photo", "album"] ↔ ∃ p ∈ parametersOf photoSteps, p.isPath = true ∧ p.name = name := by
      rw [hnames]
      simp [and_assoc]
    rw [← hdeclared]
    exact (List.Perm.swap "photo" "album" []).mem_iff
  result := ⟨_, rfl, fun w => by cases w <;> decide⟩

/-- The steps are accepted, and give a route with their path parameters in order, their image and their verb. -/
theorem build_ofSteps_iff_photo :
    (∀ tokens, tokenize (mounted "/{album}/{photo}" photoSteps) = .ok tokens →
      (Template.ofTokens (foldsCaseOf photoSteps) (mounted "/{album}/{photo}" photoSteps) tokens).withinLimit = true) ∧
    ∃ r, (ofSteps "photos.put" "/{album}/{photo}" photoSteps).build.run.value = .ok r ∧
      r.verb = .put ∧ r.template.text = "/api/{album}/{photo}".toList ∧
      r.pathParameters.map (·.name) = ["photo", "album"] ∧ ["photo", "album"].Perm r.template.placeholders ∧
      r.bodyParameter.toList.map (·.name) = ["image"] := by
  have htokens : tokenize (mounted "/{album}/{photo}" photoSteps) = .ok
      [.literal "/api/".toList, .placeholder "album", .literal ['/'], .placeholder "photo"] := by decide
  have hl : ∀ tokens, tokenize (mounted "/{album}/{photo}" photoSteps) = .ok tokens →
      (Template.ofTokens (foldsCaseOf photoSteps) (mounted "/{album}/{photo}" photoSteps) tokens).withinLimit =
        true := by
    intro tokens h
    rw [htokens] at h
    cases h
    decide
  obtain ⟨haccepted, hroute⟩ := build_ofSteps_iff "photos.put" "/{album}/{photo}" photoSteps hl
  obtain ⟨r, h⟩ := haccepted.2 ⟨_, _, photoSteps_wellDeclared⟩
  obtain ⟨hwell, -, htemplate, hpath, hperm, hbody, -⟩ := hroute r h
  obtain ⟨t, ht, hverb⟩ := hwell.result
  obtain rfl : ReturnType.futureOf (.withVerb "Created" .put) = t := Option.some.inj ht
  have hnames : r.pathParameters.map (·.name) = ["photo", "album"] := by rw [hpath]; rfl
  refine ⟨hl, r, h, ((hverb .put).1 (by decide)).symm, ?_, hnames, hnames ▸ hperm, ?_⟩
  · rw [htemplate]
    rfl
  · rw [hbody]
    rfl

end Declaration

end TypedRoutes
