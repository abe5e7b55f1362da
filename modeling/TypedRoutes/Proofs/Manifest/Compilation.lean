import TypedRoutes.Manifest.Basic
import TypedRoutes.Proofs.Route.Acceptance
/-!
# Compiling a manifest

An entry is compiled as if its route were declared by hand, step by step (`declaration_eq_ofSteps`), and what the other
entries are does not matter for it. `Manifest.build_all_or_none`: a manifest gives the routes of all its entries, or
what the first entry without a route is refused for. A route serves the verb of its tag and that of its result type.
-/
namespace TypedRoutes.Manifest

/-! ## An entry, declared by hand -/

/-- The base path of an entry: its own, even if that is empty, or else that of the manifest. -/
def baseOf (m : Manifest) (e : Entry) : Option String :=
  match e.base with
  | some base => some base
  | none => m.base

/-- The steps that declare the verb of an entry. Beside a result type its tag declares nothing. -/
def verbSteps (e : Entry) : List Step :=
  match e.returns, e.tag with
  | some t, _ => [.returning t]
  | none, some verb => [.serving verb]
  | none, none => []

/-- The steps that declare the route of an entry. -/
def steps (m : Manifest) (e : Entry) : List Step :=
  .foldingCase m.foldsCase :: ((m.baseOf e).toList.map .under ++ e.parameters.map .parameter ++ verbSteps e)

/-- An entry has a route if its steps build it, and if its tag agrees with the result type, if it has both. -/
structure HasRoute (m : Manifest) (e : Entry) (r : Route) : Prop where
  built : (Declaration.ofSteps e.handler e.template (m.steps e)).build.run.value = .ok r
  agrees : ∀ t ∈ e.returns, ∀ tag ∈ e.tag, tag = r.verb

/-- Why an entry has no route. -/
inductive Refused (m : Manifest) (e : Entry) : RouteError → Prop
  | unbuilt {error : RouteError}
      (hb : (Declaration.ofSteps e.handler e.template (m.steps e)).build.run.value = .error error) : Refused m e error
  | disagrees {r : Route} {t : ReturnType} {tag : Verb}
      (hb : (Declaration.ofSteps e.handler e.template (m.steps e)).build.run.value = .ok r)
      (ht : e.returns = some t) (hg : e.tag = some tag) (hne : tag ≠ r.verb) :
      Refused m e ⟨e.handler, .ambiguousVerb t.name [r.verb, tag]⟩

variable {m : Manifest} {e : Entry} {r : Route}

/-- Parameters are declared one after the other. -/
theorem foldl_parameter (d : Declaration) (ps : List Parameter) :
    (ps.map .parameter).foldl Declaration.take d = { d with parameters := d.parameters ++ ps } := by
  induction ps generalizing d with
  | nil => simp
  | cons p ps ih =>
    rw [List.map_cons, List.foldl_cons, ih, Declaration.take]
    simp

/-- The declaration of an entry is the one that its steps make, whichever of the base paths, the result type and the tag
there are. -/
theorem declaration_eq_ofSteps (m : Manifest) (e : Entry) :
    m.declaration e = .ofSteps e.handler e.template (m.steps e) := by
  obtain ⟨handler, template, base, parameters, tag, returns⟩ := e
  simp only [Declaration.ofSteps, steps, List.foldl_cons, List.foldl_append, foldl_parameter]
  unfold declaration declaredResult baseOf verbSteps
  cases base <;> cases m.base <;> cases returns <;> cases tag <;> rfl

/-! ## One entry -/

theorem tagDefect?_eq_none_iff : tagDefect? e r = none ↔ ∀ t ∈ e.returns, ∀ tag ∈ e.tag, tag = r.verb := by
  unfold tagDefect?
  cases e.returns with
  | none => simp
  | some t =>
    cases e.tag with
    | none => simp
    | some tag => simp

theorem tagDefect?_eq_some_iff {defect : RouteDefect} : tagDefect? e r = some defect ↔
    ∃ t tag, e.returns = some t ∧ e.tag = some tag ∧ tag ≠ r.verb ∧ .ambiguousVerb t.name [r.verb, tag] = defect := by
  unfold tagDefect?
  cases e.returns with
  | none => simp
  | some t =>
    cases e.tag with
    | none => simp
    | some tag => simp

/-- An entry is compiled to what its steps build, and then its tag is checked. -/
theorem buildEntry_value (m : Manifest) (e : Entry) : (m.buildEntry e).run.value =
    (Declaration.ofSteps e.handler e.template (m.steps e)).build.run.value >>= fun r =>
      match tagDefect? e r with
      | some defect => .error ⟨e.handler, defect⟩
      | none => .ok r := by
  rw [buildEntry, Logged.value_bind, declaration_eq_ofSteps]
  congr 1
  funext r
  cases tagDefect? e r <;> rfl

theorem buildEntry_eq_ok_iff : (m.buildEntry e).run.value = .ok r ↔ m.HasRoute e r := by
  rw [buildEntry_value]
  constructor
  · intro h
    obtain ⟨r', hb, h⟩ := except_bind_ok h
    cases hd : tagDefect? e r' with
    | some defect =>
      rw [hd] at h
      cases h
    | none =>
      rw [hd] at h
      cases h
      exact ⟨hb, tagDefect?_eq_none_iff.1 hd⟩
  · rintro ⟨hb, ha⟩
    simp only [hb, Bind.bind, Except.bind, tagDefect?_eq_none_iff.2 ha]

theorem buildEntry_eq_error_iff {error : RouteError} :
    (m.buildEntry e).run.value = .error error ↔ m.Refused e error := by
  rw [buildEntry_value, except_bind_error]
  constructor
  · rintro (hb | ⟨r, hb, h⟩)
    · exact .unbuilt hb
    · cases hd : tagDefect? e r with
      | none =>
        rw [hd] at h
        cases h
      | some defect =>
        rw [hd] at h
        cases h
        obtain ⟨t, tag, ht, hg, hne, rfl⟩ := tagDefect?_eq_some_iff.1 hd
        exact .disagrees hb ht hg hne
  · rintro (hb | ⟨hb, ht, hg, hne⟩)
    · exact .inl hb
    · refine .inr ⟨_, hb, ?_⟩
      rw [tagDefect?_eq_some_iff.2 ⟨_, _, ht, hg, hne, rfl⟩]

/-! ## The route of an entry -/

namespace HasRoute

/-- The declaration of an entry with a route passes all checks. -/
theorem check (h : m.HasRoute e r) : (m.declaration e).check = .ok r := by
  rw [declaration_eq_ofSteps]
  exact Declaration.build_eq_ok_iff.1 h.built

/-- The template of a route is that of its entry under the base path, compiled with the option of the manifest. -/
theorem compiled (h : m.HasRoute e r) :
    Template.compile m.foldsCase ((m.baseOf e).map String.toList) e.template.toList = .ok r.template := by
  have hbase : (m.declaration e).base = m.baseOf e := by
    unfold declaration baseOf
    cases e.base <;> rfl
  rw [← hbase]
  exact (Declaration.check_eq_ok_iff.1 h.check).1.compiled

/-- The result type that an entry declares names the verb of its route. -/
theorem declares (h : m.HasRoute e r) {t : ReturnType} (ht : declaredResult e = some t) : t.Declares r.verb := by
  obtain ⟨result, hr, hv⟩ := Declaration.verb_eq_ok_iff.1 (Declaration.check_eq_ok_iff.1 h.check).2.1
  obtain rfl : t = result := Option.some.inj (ht.symm.trans hr)
  exact hv

/-- A route serves the verb of the result type, if its entry has one. -/
theorem verb_of_returns (h : m.HasRoute e r) {t : ReturnType} (ht : e.returns = some t) : t.verb = .ok r.verb :=
  ReturnType.verb_eq_ok_iff.2 (h.declares (by simp [declaredResult, ht]))

/-- A route serves the verb of the tag, if its entry has one: alone the tag is the result type, and beside one it has to
agree with it. -/
theorem verb_of_tag (h : m.HasRoute e r) {tag : Verb} (hg : e.tag = some tag) : r.verb = tag := by
  cases ht : e.returns with
  | some t => exact (h.agrees t ht tag hg).symm
  | none =>
    have hdeclares : (ReturnType.withVerb e.handler tag).Declares r.verb :=
      h.declares (by simp [declaredResult, ht, hg])
    exact ((hdeclares tag).1 (List.mem_singleton_self tag)).symm

end HasRoute

/-! ## All entries -/

theorem buildEntries_value (m : Manifest) (es : List Entry) :
    (m.buildEntries es).run.value = es.mapM fun e => (m.buildEntry e).run.value := by
  induction es with
  | nil => rfl
  | cons e es ih =>
    simp only [buildEntries, Logged.value_bind, List.mapM_cons, ih]
    rfl

theorem build_value (m : Manifest) :
    m.build.run.value = m.entries.mapM fun e => (m.buildEntry e).run.value := by
  rw [build, Logged.value_bind, buildEntries_value]
  cases m.entries.mapM fun e => (m.buildEntry e).run.value <;> rfl

theorem build_eq_ok_iff {rs : List Route} : m.build.run.value = .ok rs ↔ List.Forall₂ m.HasRoute m.entries rs := by
  rw [build_value, mapM_eq_ok_iff]
  simp only [buildEntry_eq_ok_iff]

/-- The routes of a manifest are well formed. -/
theorem wellFormed_of_build {rs : List Route} (h : m.build.run.value = .ok rs) : ∀ r ∈ rs, r.WellFormed := by
  have hboth : List.Forall₂ (fun r e => r.WellFormed ∧ m.HasRoute e r) rs m.entries :=
    (build_eq_ok_iff.1 h).flip.imp fun r e he => ⟨Declaration.wellFormed_of_build he.built, he⟩
  exact ((List.forall₂_and_left _ _).1 hboth).1

/-- A manifest gives the routes of its entries, each compiled on its own, or what the first entry without a route is
refused for. -/
theorem build_all_or_none (m : Manifest) :
    (∀ e, (∀ r, (m.buildEntry e).run.value = .ok r ↔ m.HasRoute e r) ∧
      ∀ error, (m.buildEntry e).run.value = .error error ↔ m.Refused e error) ∧
    (∀ rs, m.build.run.value = .ok rs ↔ List.Forall₂ m.HasRoute m.entries rs) ∧
    ((∃ rs, m.build.run.value = .ok rs) ↔ ∀ e ∈ m.entries, ∃ r, m.HasRoute e r) ∧
    (∀ error, m.build.run.value = .error error ↔ ∃ before e after, m.entries = before ++ e :: after ∧
      (∀ earlier ∈ before, ∃ r, m.HasRoute earlier r) ∧ m.Refused e error) ∧
    ∀ e r, m.HasRoute e r →
      r.template.text = mount ((m.baseOf e).map String.toList) e.template.toList ∧
      r.template = .ofTokens m.foldsCase r.template.text r.template.tokens ∧
      (∀ tag ∈ e.tag, r.verb = tag) ∧ ∀ t ∈ e.returns, t.verb = .ok r.verb := by
  refine ⟨fun e => ⟨fun r => buildEntry_eq_ok_iff, fun error => buildEntry_eq_error_iff⟩,
    fun rs => build_eq_ok_iff, ?_, fun error => ?_, fun e r h => ?_⟩
  · simp only [build_eq_ok_iff]
    exact exists_forall₂_iff
  · rw [build_value, mapM_eq_error_iff]
    simp only [buildEntry_eq_ok_iff, buildEntry_eq_error_iff]
  · have ht := (Template.of_compile h.compiled).2.1
    have htext : r.template.text = mount ((m.baseOf e).map String.toList) e.template.toList := by
      rw [ht]
      rfl
    refine ⟨htext, ?_, fun tag hg => h.verb_of_tag hg, fun t hr => h.verb_of_returns hr⟩
    rw [htext]
    exact ht

/-- The first entry turns down the base path of the manifest and has a route; the tag of the second one does not agree
with its result type, and no route is given at all. -/
example : (build ⟨some "api", false, [⟨"users.list", "/users", some "", [], some .get, none⟩,
      ⟨"users.add", "/users", none, [], some .put, some (.withVerb "Created" .post)⟩]⟩).run.value =
    .error ⟨"users.add", .ambiguousVerb "Created" [.post, .put]⟩ := by
  decide

end TypedRoutes.Manifest
