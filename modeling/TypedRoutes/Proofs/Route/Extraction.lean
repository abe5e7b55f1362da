import Mathlib.Data.List.Forall2
import TypedRoutes.Proofs.Route.Built
import TypedRoutes.Proofs.Template.Meaning
import TypedRoutes.Proofs.Value.Typing
/-!
# Extraction

`Route.bindAll_cases`: with a text for every parameter, binding either gives all values and raises nothing, or
stops at the first parameter whose text is no value of its type, with one event. On a built route a match gives
every parameter its text, so `Route.extract_agrees_with_isMatch`: extraction fails for want of a match exactly on
the URIs that do not match.
-/
namespace TypedRoutes

/-! ## Binding -/

theorem bind_ok {name : String} {type : ParamType} {raw : List Char} {v : Value} (h : Value.read type raw = .ok v) :
    (bind name type raw).run = ⟨.ok v, []⟩ := by
  simp only [bind, h]
  rfl

theorem bind_error {name : String} {type : ParamType} {raw : List Char} {reason : ReadFault}
    (h : Value.read type raw = .error reason) :
    (bind name type raw).run =
      ⟨.error (.conversion name type (String.ofList raw) reason),
        [.bindingFailed name type (String.ofList raw) reason]⟩ := by
  simp only [bind, h]
  rfl

/-- A text binds to a value exactly when it is read as one. -/
theorem bind_eq_ok_iff {name : String} {type : ParamType} {raw : List Char} {v : Value} :
    (bind name type raw).run.value = .ok v ↔ Value.read type raw = .ok v := by
  cases h : Value.read type raw with
  | ok w => rw [bind_ok h]; simp
  | error reason => rw [bind_error h]; simp

/-- The values that parameters are bound to, each from its own text. -/
def BindsTo (captures : Captures) (p : Parameter) (v : Value) : Prop :=
  ∃ raw, captures.lookup p.name = some raw ∧ (bind p.name p.type raw).run.value = .ok v

/-- The values that a binding gives conform to the declared types. -/
theorem BindsTo.conformsTo {captures : Captures} {p : Parameter} {v : Value} (h : BindsTo captures p v) :
    v.conformsTo p.type = true := by
  obtain ⟨raw, -, hb⟩ := h
  exact Value.read_conformsTo (bind_eq_ok_iff.1 hb)

namespace Route

theorem bindAll_ok_cons {r : Route} {uri : String} {captures : Captures} {p : Parameter} {ps : List Parameter}
    {raw : List Char} {v : Value} (hr : captures.lookup p.name = some raw) (hv : Value.read p.type raw = .ok v) :
    (r.bindAll uri captures (p :: ps)).run =
      ⟨(r.bindAll uri captures ps).run.value.map (v :: ·), (r.bindAll uri captures ps).run.events⟩ := by
  simp only [bindAll, hr, bind, hv]
  rcases hm : r.bindAll uri captures ps with ⟨value, events⟩
  cases value <;>
    simp [ExceptT.run, Bind.bind, ExceptT.bind, ExceptT.mk, ExceptT.bindCont, pure, ExceptT.pure, Except.map]

theorem bindAll_error_cons {r : Route} {uri : String} {captures : Captures} {p : Parameter} {ps : List Parameter}
    {raw : List Char} {reason : ReadFault} (hr : captures.lookup p.name = some raw)
    (hv : Value.read p.type raw = .error reason) :
    (r.bindAll uri captures (p :: ps)).run =
      ⟨.error (.conversion p.name p.type (String.ofList raw) reason),
        [.bindingFailed p.name p.type (String.ofList raw) reason]⟩ := by
  simp only [bindAll, hr, bind, hv]
  rfl

/-- With a text for every parameter, binding gives all values, or stops at the first parameter that has none
and raises the event of it, the only one that is raised. -/
theorem bindAll_cases (r : Route) (uri : String) {captures : Captures} {ps : List Parameter}
    (h : ∀ p ∈ ps, p.name ∈ captures.map Prod.fst) :
    (∃ vs, (r.bindAll uri captures ps).run = ⟨.ok vs, []⟩ ∧ List.Forall₂ (BindsTo captures) ps vs) ∨
    ∃ before p after raw reason, ps = before ++ p :: after ∧ (∀ q ∈ before, ∃ v, BindsTo captures q v) ∧
      captures.lookup p.name = some raw ∧
      (bind p.name p.type raw).run.value = .error (.conversion p.name p.type (String.ofList raw) reason) ∧
      (r.bindAll uri captures ps).run =
        ⟨.error (.conversion p.name p.type (String.ofList raw) reason),
          [.bindingFailed p.name p.type (String.ofList raw) reason]⟩ := by
  induction ps with
  | nil => exact .inl ⟨[], rfl, .nil⟩
  | cons p ps ih =>
    rw [List.forall_mem_cons] at h
    have hr := lookup_eq_assignmentOf h.1
    cases hv : Value.read p.type (assignmentOf captures p.name) with
    | error reason =>
      exact .inr ⟨[], p, ps, _, reason, rfl, by simp, hr, by rw [bind_error hv], bindAll_error_cons hr hv⟩
    | ok v =>
      have hb : BindsTo captures p v := ⟨_, hr, bind_eq_ok_iff.2 hv⟩
      rcases ih h.2 with ⟨vs, he, hvs⟩ | ⟨before, q, after, raw, reason, rfl, hbefore, hq, hqe, he⟩
      · exact .inl ⟨v :: vs, by rw [bindAll_ok_cons hr hv, he]; rfl, .cons hb hvs⟩
      · refine .inr ⟨p :: before, q, after, raw, reason, rfl, ?_, hq, hqe, ?_⟩
        · exact List.forall_mem_cons.2 ⟨⟨v, hb⟩, hbefore⟩
        · rw [bindAll_ok_cons hr hv, he]; rfl

/-! ## Extraction on a built route -/

theorem extract_of_captures? {r : Route} {uri : String} {captures : Captures}
    (h : r.template.captures? uri.toList = some captures) :
    r.extract uri = r.bindAll uri captures r.pathParameters := by
  rw [extract, h]

theorem extract_mismatch {r : Route} {uri : String} (h : r.template.captures? uri.toList = none) :
    (r.extract uri).run = ⟨.error (r.mismatch uri), []⟩ := by
  rw [extract, h]
  rfl

/-- On a well-formed route a match captures a text for every parameter. -/
theorem WellFormed.captures_names {r : Route} (h : r.WellFormed) {uri : String} {captures : Captures}
    (hc : r.template.captures? uri.toList = some captures) :
    ∀ p ∈ r.pathParameters, p.name ∈ captures.map Prod.fst := by
  obtain ⟨foldsCase, base, template, ht⟩ := h.compiled
  intro p hp
  rw [(Template.assigns_of_captures? ht hc).1]
  exact h.used p hp

theorem WellFormed.isMatch_eq {r : Route} (h : r.WellFormed) (uri : String) :
    r.isMatch uri = (r.template.captures? uri.toList).isSome := by
  obtain ⟨foldsCase, base, template, ht⟩ := h.compiled
  exact Template.isMatch_of_compile ht uri.toList

theorem WellFormed.exists_captures {r : Route} (h : r.WellFormed) {uri : String} (hm : r.isMatch uri = true) :
    ∃ captures, r.template.captures? uri.toList = some captures := by
  rw [h.isMatch_eq] at hm
  exact Option.isSome_iff_exists.1 hm

/-- Extraction from a URI that matches a well-formed route: all values and no event, or the first parameter that
cannot be bound and its event. -/
theorem WellFormed.extract_cases {r : Route} (h : r.WellFormed) {uri : String} {captures : Captures}
    (hc : r.template.captures? uri.toList = some captures) :
    (∃ vs, (r.extract uri).run = ⟨.ok vs, []⟩ ∧ List.Forall₂ (BindsTo captures) r.pathParameters vs) ∨
    ∃ before p after raw reason, r.pathParameters = before ++ p :: after ∧
      (∀ q ∈ before, ∃ v, BindsTo captures q v) ∧ captures.lookup p.name = some raw ∧
      (bind p.name p.type raw).run.value = .error (.conversion p.name p.type (String.ofList raw) reason) ∧
      (r.extract uri).run =
        ⟨.error (.conversion p.name p.type (String.ofList raw) reason),
          [.bindingFailed p.name p.type (String.ofList raw) reason]⟩ := by
  rw [extract_of_captures? hc]
  exact bindAll_cases r uri (h.captures_names hc)

/-- On a built route the test and the extraction agree: there is no match exactly when extraction says so, and a
match gives one conforming value for each parameter, or the first parameter that cannot be bound. The one event
there may be is that of this parameter. -/
theorem extract_agrees_with_isMatch {d : Declaration} {r : Route} (h : d.build.run.value = .ok r) (uri : String) :
    (r.isMatch uri = false ↔ ∃ u t, (r.extract uri).run.value = .error (.noMatch u t)) ∧
    (r.isMatch uri = false → (r.extract uri).run.events = []) ∧
    (r.isMatch uri = true → ∃ captures, r.template.captures? uri.toList = some captures ∧
      ((∃ vs, (r.extract uri).run = ⟨.ok vs, []⟩ ∧ vs.length = r.pathParameters.length ∧
          List.Forall₂ (fun p v => v.conformsTo p.type = true ∧ BindsTo captures p v) r.pathParameters vs) ∨
        ∃ before p after raw reason, r.pathParameters = before ++ p :: after ∧
          (∀ q ∈ before, ∃ v, BindsTo captures q v) ∧ captures.lookup p.name = some raw ∧
          (bind p.name p.type raw).run.value = .error (.conversion p.name p.type (String.ofList raw) reason) ∧
          (r.extract uri).run =
            ⟨.error (.conversion p.name p.type (String.ofList raw) reason),
              [.bindingFailed p.name p.type (String.ofList raw) reason]⟩)) := by
  have hr := Declaration.wellFormed_of_build h
  cases hc : r.template.captures? uri.toList with
  | none =>
    have hm : r.isMatch uri = false := by rw [hr.isMatch_eq, hc]; rfl
    have he := extract_mismatch hc
    refine ⟨⟨fun _ => ⟨uri, r.templateText, by rw [he]; rfl⟩, fun _ => hm⟩, fun _ => by rw [he], ?_⟩
    rw [hm]
    rintro ⟨⟩
  | some captures =>
    have hm : r.isMatch uri = true := by rw [hr.isMatch_eq, hc]; rfl
    have hcases := hr.extract_cases hc
    refine ⟨⟨by rw [hm]; rintro ⟨⟩, ?_⟩, by rw [hm]; rintro ⟨⟩, fun _ => ⟨captures, rfl, ?_⟩⟩
    · rintro ⟨u, t, he⟩
      rcases hcases with ⟨vs, hv, -⟩ | ⟨_, p, _, raw, reason, -, -, -, -, hv⟩
      · rw [hv] at he; cases he
      · rw [hv] at he; cases he
    · rcases hcases with ⟨vs, hv, hb⟩ | hfail
      · exact .inl ⟨vs, hv, hb.length_eq.symm, hb.imp fun p v hpv => ⟨hpv.conformsTo, hpv⟩⟩
      · exact .inr hfail

/-- Two parameters, declared in another order than their placeholders. -/
def showUser : Declaration :=
  .ofSteps "users.show" "/users/{id}/{tag}"
    [.parameter ⟨"tag", .scalar .text, .path⟩, .parameter ⟨"id", .scalar (.integer .int), .path⟩, .serving .get]

/-- The route of `showUser`. -/
def showUserRoute : Route where
  handler := "users.show"
  verb := .get
  template := .ofTokens false "/users/{id}/{tag}".toList
    [.literal "/users/".toList, .placeholder "id", .literal ['/'], .placeholder "tag"]
  pathParameters := [⟨"tag", .scalar .text, .path⟩, ⟨"id", .scalar (.integer .int), .path⟩]
  bodyParameter := none

/-- One URI that does not match, and one that does. -/
theorem extract_agrees_with_isMatch_users :
    showUser.build.run.value = .ok showUserRoute ∧
    showUserRoute.isMatch "/users/7" = false ∧
    (∃ u t, (showUserRoute.extract "/users/7").run.value = .error (.noMatch u t)) ∧
    showUserRoute.isMatch "/users/7/x" = true ∧
    ∃ captures, showUserRoute.template.captures? "/users/7/x".toList = some captures := by
  have h : showUser.build.run.value = .ok showUserRoute := by decide
  have hn : showUserRoute.isMatch "/users/7" = false := by decide
  have hm : showUserRoute.isMatch "/users/7/x" = true := by decide
  obtain ⟨captures, hc, -⟩ := (extract_agrees_with_isMatch h "/users/7/x").2.2 hm
  exact ⟨h, hn, (extract_agrees_with_isMatch h "/users/7").1.1 hn, hm, captures, hc⟩

end Route

end TypedRoutes
