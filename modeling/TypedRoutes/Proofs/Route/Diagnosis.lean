import TypedRoutes.Proofs.Route.Checks
/-!
# The defect that is reported

A declaration passes its checks in stages, each with what the ones before it have established: `Compiles`,
`ContentApart`, `Covered` and `Matched`. `FirstDefect` says what it is to fail at a stage: the stages before it are
passed, and the defect names a culprit that is really at fault and comes before any other of its kind.

`Declaration.build_error_iff`: a declaration reports a defect exactly if that is its first, and has a route exactly if
it passes all stages.
-/
namespace TypedRoutes.Declaration

/-! ## Stages -/

/-- The parameters are sound, and the template compiles. -/
structure Compiles (d : Declaration) (t : Template) : Prop where
  sound : SoundParameters d.parameters
  compiled : Template.compile d.foldsCase (d.base.map String.toList) d.template.toList = .ok t

/-- What is bound from the body is no placeholder either. -/
structure ContentApart (d : Declaration) (t : Template) : Prop extends Compiles d t where
  apart : ∀ p ∈ d.parameters, p.isContent = true → p.name ∉ t.placeholders

/-- Every placeholder has a path parameter, too. -/
structure Covered (d : Declaration) (t : Template) : Prop extends ContentApart d t where
  covered : ∀ name ∈ t.placeholders, d.HasPath name

/-- And every path parameter has a placeholder. -/
structure Matched (d : Declaration) (t : Template) : Prop extends Covered d t where
  used : ∀ p ∈ d.pathParameters, p.name ∈ t.placeholders

/-- The defect of the first check that a declaration does not pass. -/
inductive FirstDefect (d : Declaration) : RouteDefect → Prop
  | parameter {before after : List Parameter} {p : Parameter} {defect : RouteDefect}
      (hs : d.parameters = before ++ p :: after) (hb : SoundParameters before) (hd : ParameterDefect before p defect) :
      FirstDefect d defect
  | template {cause : TemplateError} (hp : SoundParameters d.parameters)
      (hc : Template.compile d.foldsCase (d.base.map String.toList) d.template.toList = .error cause) :
      FirstDefect d (.invalidTemplate d.template cause)
  | content {t : Template} {p : Parameter} (h : d.Compiles t) (hp : p ∈ d.parameters) (hc : p.isContent = true)
      (hm : p.name ∈ t.placeholders) : FirstDefect d (.contentParameterInTemplate p.name)
  | missing {t : Template} {before after : List String} {name : String} (h : d.ContentApart t)
      (hs : t.placeholders = before ++ name :: after) (hb : ∀ other ∈ before, d.HasPath other) (hn : ¬ d.HasPath name) :
      FirstDefect d (.missingParameter name)
  | orphan {t : Template} {before after : List Parameter} {p : Parameter} (h : d.Covered t)
      (hs : d.pathParameters = before ++ p :: after) (hb : ∀ q ∈ before, q.name ∈ t.placeholders)
      (hn : p.name ∉ t.placeholders) : FirstDefect d (.orphanParameter p.name)
  | silent {t : Template} (h : d.Matched t) (hr : d.returns = none) : FirstDefect d (.unresolvableVerb "()")
  | unmarked {t : Template} {result : ReturnType} (h : d.Matched t) (hr : d.returns = some result)
      (hm : result.innermost.markers = []) : FirstDefect d (.unresolvableVerb result.innermost.name)
  | ambiguous {t : Template} {result : ReturnType} {v w : Verb} (h : d.Matched t) (hr : d.returns = some result)
      (hv : v ∈ result.innermost.markers) (hw : w ∈ result.innermost.markers) (hne : v ≠ w) :
      FirstDefect d (.ambiguousVerb result.innermost.name result.verbs)

/-! ## All checks -/

section Refuse
variable {α : Type} {defect? : Option RouteDefect} {f : Unit → Except RouteDefect α}

theorem refuse_bind_ok {a : α} : refuse defect? >>= f = .ok a ↔ defect? = none ∧ f () = .ok a := by
  cases defect? with
  | none => simp [refuse, Bind.bind, Except.bind]
  | some defect => simp [refuse, Bind.bind, Except.bind]

theorem refuse_bind_error {defect : RouteDefect} :
    refuse defect? >>= f = .error defect ↔ defect? = some defect ∨ (defect? = none ∧ f () = .error defect) := by
  cases defect? with
  | none => simp [refuse, Bind.bind, Except.bind]
  | some defect => simp [refuse, Bind.bind, Except.bind]

end Refuse

variable {d : Declaration} {defect : RouteDefect}

theorem verb_eq_ok_iff {v : Verb} : d.verb = .ok v ↔ ∃ result, d.returns = some result ∧ result.Declares v := by
  rw [verb]
  split
  · rename_i hr
    simp [hr]
  · rename_i result hr
    simp [hr, ReturnType.verb_eq_ok_iff]

theorem verb_eq_error_iff : d.verb = .error defect ↔
    (d.returns = none ∧ defect = .unresolvableVerb "()") ∨
    ∃ result, d.returns = some result ∧ result.verb = .error defect := by
  rw [verb]
  split
  · rename_i hr
    simp [hr, eq_comm]
  · rename_i result hr
    simp [hr]

/-- The parameters of a declaration come after none. -/
theorem sound_iff : parametersDefect? [] d.parameters = none ↔ SoundParameters d.parameters :=
  parametersDefect?_eq_none_iff soundParameters_nil

/-- A declaration gives a route if it passes all stages: that of its template, its parameters and its verb. -/
theorem check_eq_ok_iff {r : Route} : d.check = .ok r ↔ d.Matched r.template ∧ d.verb = .ok r.verb ∧
    r.handler = d.handler ∧ r.pathParameters = d.pathParameters ∧ r.bodyParameter = d.bodyParameter := by
  constructor
  · intro h
    obtain ⟨hp, h⟩ := refuse_bind_ok.1 h
    obtain ⟨t, ht, h⟩ := except_bind_ok h
    obtain ⟨hcontent, h⟩ := refuse_bind_ok.1 h
    obtain ⟨hmissing, h⟩ := refuse_bind_ok.1 h
    obtain ⟨horphan, h⟩ := refuse_bind_ok.1 h
    obtain ⟨verb, hverb, h⟩ := except_bind_ok h
    cases h
    have hs := sound_iff.1 hp
    exact ⟨⟨⟨⟨⟨hs, except_mapError_ok ht⟩, (contentDefect?_eq_none_iff hs).1 hcontent⟩,
      missingDefect?_eq_none_iff.1 hmissing⟩, orphanDefect?_eq_none_iff.1 horphan⟩, hverb, rfl, rfl, rfl⟩
  · obtain ⟨handler, verb, t, pathParameters, bodyParameter⟩ := r
    rintro ⟨h, hverb, rfl, rfl, rfl⟩
    have hs := h.sound
    refine refuse_bind_ok.2 ⟨sound_iff.2 hs, ?_⟩
    rw [h.compiled]
    refine refuse_bind_ok.2 ⟨(contentDefect?_eq_none_iff hs).2 h.apart, ?_⟩
    refine refuse_bind_ok.2 ⟨missingDefect?_eq_none_iff.2 h.covered, ?_⟩
    refine refuse_bind_ok.2 ⟨orphanDefect?_eq_none_iff.2 h.used, ?_⟩
    rw [hverb]
    rfl

/-! ## The first defect -/

/-- Behind the template, the checks stop at the first of three defects of names or at the verb. -/
theorem check_of_compiles {t : Template} (h : d.Compiles t) : d.check = .error defect ↔
    d.contentDefect? t.placeholders = some defect ∨ (d.contentDefect? t.placeholders = none ∧
      (d.missingDefect? t.placeholders = some defect ∨ (d.missingDefect? t.placeholders = none ∧
        (d.orphanDefect? t.placeholders = some defect ∨ (d.orphanDefect? t.placeholders = none ∧
          d.verb = .error defect))))) := by
  rw [check, sound_iff.2 h.sound, h.compiled]
  change (refuse (d.contentDefect? t.placeholders) >>= _) = _ ↔ _
  rw [refuse_bind_error, refuse_bind_error, refuse_bind_error, except_bind_error]
  simp

theorem firstDefect_of_check (h : d.check = .error defect) : FirstDefect d defect := by
  rcases refuse_bind_error.1 h with hp | ⟨hp, hbehind⟩
  · obtain ⟨before, p, after, hs, hb, hd⟩ := (parametersDefect?_eq_some_iff soundParameters_nil).1 hp
    exact .parameter hs hb hd
  have hs := sound_iff.1 hp
  rcases except_bind_error.1 hbehind with hfails | ⟨t, ht, -⟩
  · obtain ⟨cause, hcause, rfl⟩ := except_mapError_error.1 hfails
    exact .template hs hcause
  have hcompiles : d.Compiles t := ⟨hs, except_mapError_ok ht⟩
  rcases (check_of_compiles hcompiles).1 h with hcontent | ⟨hcontent, h⟩
  · obtain ⟨p, hp, hc, hm, rfl⟩ := (contentDefect?_eq_some_iff hs).1 hcontent
    exact .content hcompiles hp hc hm
  have hapart : d.ContentApart t := ⟨hcompiles, (contentDefect?_eq_none_iff hs).1 hcontent⟩
  rcases h with hmissing | ⟨hmissing, h⟩
  · obtain ⟨before, name, after, hsplit, hb, hn, rfl⟩ := missingDefect?_eq_some_iff.1 hmissing
    exact .missing hapart hsplit hb hn
  have hcovered : d.Covered t := ⟨hapart, missingDefect?_eq_none_iff.1 hmissing⟩
  rcases h with horphan | ⟨horphan, hverb⟩
  · obtain ⟨before, p, after, hsplit, hb, hn, rfl⟩ := orphanDefect?_eq_some_iff.1 horphan
    exact .orphan hcovered hsplit hb hn
  have hmatched : d.Matched t := ⟨hcovered, orphanDefect?_eq_none_iff.1 horphan⟩
  rcases verb_eq_error_iff.1 hverb with ⟨hr, rfl⟩ | ⟨result, hr, hresult⟩
  · exact .silent hmatched hr
  rcases ReturnType.verb_eq_error_iff.1 hresult with ⟨hm, rfl⟩ | ⟨⟨v, hv, w, hw, hne⟩, rfl⟩
  · exact .unmarked hmatched hr hm
  · exact .ambiguous hmatched hr hv hw hne

/-- Names that match leave only the verb to fail. -/
theorem check_of_matched {t : Template} (h : d.Matched t) (hv : d.verb = .error defect) : d.check = .error defect :=
  (check_of_compiles h.toCompiles).2 <| .inr ⟨(contentDefect?_eq_none_iff h.sound).2 h.apart,
    .inr ⟨missingDefect?_eq_none_iff.2 h.covered, .inr ⟨orphanDefect?_eq_none_iff.2 h.used, hv⟩⟩⟩

theorem check_of_firstDefect (h : FirstDefect d defect) : d.check = .error defect := by
  cases h with
  | parameter hs hb hd =>
    refine refuse_bind_error.2 (.inl ?_)
    exact (parametersDefect?_eq_some_iff soundParameters_nil).2 ⟨_, _, _, hs, hb, hd⟩
  | template hp hc =>
    refine refuse_bind_error.2 (.inr ⟨sound_iff.2 hp, ?_⟩)
    rw [hc]
    rfl
  | content h hp hc hm =>
    refine (check_of_compiles h).2 (.inl ?_)
    exact (contentDefect?_eq_some_iff h.sound).2 ⟨_, hp, hc, hm, rfl⟩
  | missing h hs hb hn =>
    refine (check_of_compiles h.toCompiles).2 (.inr ⟨(contentDefect?_eq_none_iff h.sound).2 h.apart, .inl ?_⟩)
    exact missingDefect?_eq_some_iff.2 ⟨_, _, _, hs, hb, hn, rfl⟩
  | orphan h hs hb hn =>
    refine (check_of_compiles h.toCompiles).2 (.inr ⟨(contentDefect?_eq_none_iff h.sound).2 h.apart,
      .inr ⟨missingDefect?_eq_none_iff.2 h.covered, .inl ?_⟩⟩)
    exact orphanDefect?_eq_some_iff.2 ⟨_, _, _, hs, hb, hn, rfl⟩
  | silent h hr => exact check_of_matched h (verb_eq_error_iff.2 (.inl ⟨hr, rfl⟩))
  | unmarked h hr hm =>
    refine check_of_matched h (verb_eq_error_iff.2 (.inr ⟨_, hr, ?_⟩))
    exact ReturnType.verb_eq_error_iff.2 (.inl ⟨hm, rfl⟩)
  | ambiguous h hr hv hw hne =>
    refine check_of_matched h (verb_eq_error_iff.2 (.inr ⟨_, hr, ?_⟩))
    exact ReturnType.verb_eq_error_iff.2 (.inr ⟨⟨_, hv, _, hw, hne⟩, rfl⟩)

/-! ## What is built -/

theorem build_value (d : Declaration) : d.build.run.value = d.compile := by
  rw [build]
  cases d.compile <;> rfl

theorem build_eq_ok_iff {r : Route} : d.build.run.value = .ok r ↔ d.check = .ok r := by
  rw [build_value, compile]
  constructor
  · exact except_mapError_ok
  · intro h
    rw [h]
    rfl

/-- A declaration reports its first defect, with its handler, and it has a route exactly if it passes all stages and
declares one verb. -/
theorem build_error_iff (d : Declaration) :
    (∀ e, d.build.run.value = .error e ↔ e.handler = d.handler ∧ FirstDefect d e.defect) ∧
    ((∃ r, d.build.run.value = .ok r) ↔
      ∃ t result v, d.Matched t ∧ d.returns = some result ∧ result.Declares v) := by
  refine ⟨fun e => ?_, ?_⟩
  · obtain ⟨handler, defect⟩ := e
    rw [build_value, compile, except_mapError_error]
    constructor
    · rintro ⟨defect, h, ⟨⟩⟩
      exact ⟨rfl, firstDefect_of_check h⟩
    · rintro ⟨rfl, h⟩
      exact ⟨defect, check_of_firstDefect h, rfl⟩
  · constructor
    · rintro ⟨r, h⟩
      obtain ⟨hm, hverb, -⟩ := check_eq_ok_iff.1 (build_eq_ok_iff.1 h)
      obtain ⟨result, hr, hv⟩ := verb_eq_ok_iff.1 hverb
      exact ⟨r.template, result, r.verb, hm, hr, hv⟩
    · rintro ⟨t, result, v, hm, hr, hv⟩
      refine ⟨⟨d.handler, v, t, d.pathParameters, d.bodyParameter⟩, build_eq_ok_iff.2 (check_eq_ok_iff.2 ?_)⟩
      exact ⟨hm, verb_eq_ok_iff.2 ⟨result, hr, hv⟩, rfl, rfl, rfl⟩

/-- Of a second content parameter, a placeholder that is no name and a missing verb the first is reported. -/
example : (ofSteps "users.get" "/users/{9}" [.parameter ⟨"user", .custom "User", .content⟩,
      .parameter ⟨"note", .scalar .text, .content⟩]).build.run.value =
    .error ⟨"users.get", .multipleContentParameters "user" "note"⟩ := by
  decide

end TypedRoutes.Declaration
