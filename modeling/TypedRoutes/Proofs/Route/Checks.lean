import Mathlib.Data.List.Nodup
import TypedRoutes.Proofs.Result
import TypedRoutes.Proofs.Route.Verb
/-!
# The checks of a declaration

What each check says of the parts of a declaration. Parameters are checked one by one, each against those before it:
as long as these are `SoundParameters`, the next one leaves them so or has a `ParameterDefect`, and from this step
`parametersDefect?_eq_none_iff` and `parametersDefect?_eq_some_iff` follow for the whole list.

The other checks look for the first culprit in a list, and report it exactly if all before it pass.
-/
namespace TypedRoutes

/-! ## Types that can be bound -/

/-- A scalar type, or a sequence of one. -/
def ParamType.Bindable (t : ParamType) : Prop :=
  ∃ s, t = .scalar s ∨ t = .sequence (.scalar s)

theorem ParamType.isBindable_iff {t : ParamType} : t.isBindable = true ↔ t.Bindable := by
  cases t with
  | scalar s => simp [isBindable, Bindable]
  | custom name => simp [isBindable, Bindable]
  | sequence element => cases element <;> simp [isBindable, Bindable, scalar?]

/-! ## Parameters -/

/-- Parameters that can be declared together: each has a name of its own, one at most is bound from the body, and the
others have types that can be bound from a path. -/
structure SoundParameters (ps : List Parameter) : Prop where
  names_nodup : (ps.map (·.name)).Nodup
  one_content : (ps.filter Parameter.isContent).length ≤ 1
  bindable : ∀ p ∈ ps, p.isPath = true → p.type.Bindable

/-- What is wrong with a parameter that comes after others. -/
inductive ParameterDefect (earlier : List Parameter) (p : Parameter) : RouteDefect → Prop
  | duplicate (hn : p.name ∈ earlier.map (·.name)) : ParameterDefect earlier p (.duplicateParameter p.name)
  | content {first : Parameter} (hn : p.name ∉ earlier.map (·.name)) (hp : p.isContent = true)
      (hf : first ∈ earlier) (hc : first.isContent = true) :
      ParameterDefect earlier p (.multipleContentParameters first.name p.name)
  | type (hn : p.name ∉ earlier.map (·.name)) (hp : p.isPath = true) (ht : ¬ p.type.Bindable) :
      ParameterDefect earlier p (.invalidParameterType p.name p.type)

theorem Parameter.isPath_or_isContent (p : Parameter) :
    (p.source = .path ∧ p.isPath = true ∧ p.isContent = false) ∨
      (p.source = .content ∧ p.isPath = false ∧ p.isContent = true) := by
  cases hs : p.source
  · exact .inl ⟨rfl, by simp [isPath, hs], by simp [isContent, hs]⟩
  · exact .inr ⟨rfl, by simp [isPath, hs], by simp [isContent, hs]⟩

theorem soundParameters_nil : SoundParameters [] :=
  ⟨List.nodup_nil, by simp, by simp⟩

namespace SoundParameters
variable {ps qs : List Parameter}

theorem left (h : SoundParameters (ps ++ qs)) : SoundParameters ps := by
  refine ⟨?_, ?_, fun p hp => h.bindable p (List.mem_append_left _ hp)⟩
  · have hn := h.names_nodup
    rw [List.map_append] at hn
    exact hn.of_append_left
  · have hc := h.one_content
    rw [List.filter_append, List.length_append] at hc
    omega

/-- The first content parameter is the only one. -/
theorem toList_find?_isContent (h : SoundParameters ps) :
    (ps.find? Parameter.isContent).toList = ps.filter Parameter.isContent := by
  rw [← List.head?_filter]
  match hl : ps.filter Parameter.isContent with
  | [] => rfl
  | [q] => rfl
  | q :: q' :: more =>
    have hone := h.one_content
    rw [hl] at hone
    simp at hone

theorem find?_isContent (h : SoundParameters ps) {p : Parameter} (hm : p ∈ ps) (hc : p.isContent = true) :
    ps.find? Parameter.isContent = some p := by
  rw [← Option.mem_toList, h.toList_find?_isContent]
  exact List.mem_filter.2 ⟨hm, hc⟩

/-- A name stands for one parameter only. -/
theorem eq_of_name (h : SoundParameters ps) {p q : Parameter} (hp : p ∈ ps) (hq : q ∈ ps) (hn : p.name = q.name) :
    p = q :=
  List.inj_on_of_nodup_map h.names_nodup hp hq hn

/-- A path parameter and a content parameter have different names. -/
theorem name_ne (h : SoundParameters ps) {p q : Parameter} (hp : p ∈ ps) (hq : q ∈ ps) (hpath : p.isPath = true)
    (hc : q.isContent = true) : p.name ≠ q.name := by
  intro hn
  rw [h.eq_of_name hp hq hn, Parameter.isPath, beq_iff_eq] at hpath
  rw [Parameter.isContent, hpath] at hc
  cases hc

/-- One more parameter is sound with the others if it has a name of its own, is the only one from the body if it is
from the body, and can be bound if it is from the path. -/
theorem concat_iff (h : SoundParameters ps) {p : Parameter} :
    SoundParameters (ps ++ [p]) ↔ p.name ∉ ps.map (·.name) ∧
      (p.isContent = true → ∀ q ∈ ps, q.isContent = false) ∧ (p.isPath = true → p.type.Bindable) := by
  constructor
  · intro hs
    refine ⟨?_, fun hp q hq => ?_, hs.bindable p (by simp)⟩
    · have hn := hs.names_nodup
      rw [List.map_append, List.nodup_append'] at hn
      exact fun hm => hn.2.2 hm (by simp)
    · have hone := hs.one_content
      by_contra hqc
      have hmem : q ∈ ps.filter Parameter.isContent := List.mem_filter.2 ⟨hq, by simpa using hqc⟩
      have hpos := List.length_pos_of_mem hmem
      have hlast : ([p].filter Parameter.isContent).length = 1 := by simp [hp]
      rw [List.filter_append, List.length_append, hlast] at hone
      omega
  · rintro ⟨hname, hcontent, htype⟩
    refine ⟨?_, ?_, ?_⟩
    · rw [List.map_append, List.nodup_append']
      refine ⟨h.names_nodup, by simp, fun name hm hp => hname ?_⟩
      rw [List.map_singleton, List.mem_singleton] at hp
      exact hp ▸ hm
    · rw [List.filter_append, List.length_append]
      by_cases hp : p.isContent = true
      · have hnone : ps.filter Parameter.isContent = [] := by
          rw [List.filter_eq_nil_iff]
          intro q hq
          rw [hcontent hp q hq]
          exact Bool.false_ne_true
        simp [hnone, hp]
      · simpa [hp] using h.one_content
    · intro q hq
      rcases List.mem_append.1 hq with hq | hq
      · exact h.bindable q hq
      · rw [List.mem_singleton.1 hq]
        exact htype

end SoundParameters

namespace Declaration

section Parameters
variable {earlier ps : List Parameter} {p : Parameter} {defect : RouteDefect}

/-- The check of one parameter after sound ones. -/
theorem parameterDefect?_eq_some_iff (h : SoundParameters earlier) :
    parameterDefect? earlier p = some defect ↔ ParameterDefect earlier p defect := by
  have hany : earlier.any (·.name == p.name) = true ↔ p.name ∈ earlier.map (·.name) := by simp
  rw [parameterDefect?]
  split
  · rename_i hd
    rw [hany] at hd
    constructor
    · rintro ⟨⟩
      exact .duplicate hd
    · rintro (_ | ⟨hn, _, _, _⟩ | ⟨hn, _, _⟩)
      · rfl
      · exact absurd hd hn
      · exact absurd hd hn
  · rename_i hd
    rw [hany] at hd
    rcases p.isPath_or_isContent with ⟨hs, hp, hnc⟩ | ⟨hs, hnp, hc⟩
    · simp only [hs, Option.ite_none_left_eq_some, ParamType.isBindable_iff]
      constructor
      · rintro ⟨ht, ⟨⟩⟩
        exact .type hd hp ht
      · rintro (hn | ⟨_, hc, _, _⟩ | ⟨_, _, ht⟩)
        · exact absurd hn hd
        · rw [hnc] at hc
          cases hc
        · exact ⟨ht, rfl⟩
    · rw [hs]
      cases hf : earlier.find? Parameter.isContent with
      | some first =>
        constructor
        · rintro ⟨⟩
          exact .content hd hc (List.mem_of_find?_eq_some hf) (List.find?_some hf)
        · rintro (hn | ⟨_, _, hm, hfc⟩ | ⟨_, hp, _⟩)
          · exact absurd hn hd
          · rw [h.find?_isContent hm hfc] at hf
            cases hf
            rfl
          · rw [hnp] at hp
            cases hp
      | none =>
        constructor
        · rintro ⟨⟩
        · rintro (hn | ⟨_, _, hm, hfc⟩ | ⟨_, hp, _⟩)
          · exact absurd hn hd
          · exact absurd hfc (List.find?_eq_none.1 hf _ hm)
          · rw [hnp] at hp
            cases hp

/-- One more parameter without a defect leaves the parameters sound. -/
theorem parameterDefect?_eq_none_iff (h : SoundParameters earlier) :
    parameterDefect? earlier p = none ↔ SoundParameters (earlier ++ [p]) := by
  rw [h.concat_iff, Option.eq_none_iff_forall_ne_some]
  simp only [ne_eq, parameterDefect?_eq_some_iff h]
  constructor
  · intro hnone
    have hn : p.name ∉ earlier.map (·.name) := fun hn => hnone _ (.duplicate hn)
    refine ⟨hn, fun hp q hq => ?_, fun hp => ?_⟩
    · by_contra hc
      exact hnone _ (.content hn hp hq (by simpa using hc))
    · by_contra ht
      exact hnone _ (.type hn hp ht)
  · rintro ⟨hn, hcontent, htype⟩ _ (hd | ⟨_, hp, hf, hc⟩ | ⟨_, hp, ht⟩)
    · exact hn hd
    · rw [hcontent hp _ hf] at hc
      cases hc
    · exact ht (htype hp)

theorem parametersDefect?_cons_eq_none :
    parametersDefect? earlier (p :: ps) = none ↔
      parameterDefect? earlier p = none ∧ parametersDefect? (earlier ++ [p]) ps = none := by
  simp [parametersDefect?]

theorem parametersDefect?_cons_eq_some :
    parametersDefect? earlier (p :: ps) = some defect ↔ parameterDefect? earlier p = some defect ∨
      (parameterDefect? earlier p = none ∧ parametersDefect? (earlier ++ [p]) ps = some defect) := by
  simp [parametersDefect?]

/-- All parameters pass exactly if they are sound together. -/
theorem parametersDefect?_eq_none_iff (h : SoundParameters earlier) :
    parametersDefect? earlier ps = none ↔ SoundParameters (earlier ++ ps) := by
  induction ps generalizing earlier with
  | nil => simpa [parametersDefect?] using h
  | cons p ps ih =>
    rw [parametersDefect?_cons_eq_none, parameterDefect?_eq_none_iff h, List.append_cons earlier p ps]
    constructor
    · rintro ⟨hp, hps⟩
      exact (ih hp).1 hps
    · intro hs
      exact ⟨hs.left, (ih hs.left).2 hs⟩

/-- The defect of parameters is that of the first one that does not go with those before it. -/
theorem parametersDefect?_eq_some_iff (h : SoundParameters earlier) :
    parametersDefect? earlier ps = some defect ↔ ∃ before p after, ps = before ++ p :: after ∧
      SoundParameters (earlier ++ before) ∧ ParameterDefect (earlier ++ before) p defect := by
  induction ps generalizing earlier with
  | nil => simp [parametersDefect?]
  | cons q ps ih =>
    rw [parametersDefect?_cons_eq_some, parameterDefect?_eq_some_iff h, parameterDefect?_eq_none_iff h]
    constructor
    · rintro (hd | ⟨hq, hps⟩)
      · exact ⟨[], q, ps, rfl, by simpa using h, by simpa using hd⟩
      · obtain ⟨before, p, after, rfl, hs, hd⟩ := (ih hq).1 hps
        exact ⟨q :: before, p, after, rfl, by simpa using hs, by simpa using hd⟩
    · rintro ⟨before, p, after, hps, hs, hd⟩
      cases before with
      | nil =>
        cases hps
        exact .inl (by simpa using hd)
      | cons q' before =>
        cases hps
        rw [List.append_cons earlier q before] at hs hd
        exact .inr ⟨hs.left, (ih hs.left).2 ⟨before, p, after, rfl, hs, hd⟩⟩

end Parameters

/-! ## Parameters and placeholders -/

section FirstCulprit
variable {α β : Type} {passes : α → Bool} {report : α → β} {l : List α}

theorem map_find?_not_eq_none_iff :
    (l.find? fun a => ! passes a).map report = none ↔ ∀ a ∈ l, passes a = true := by
  simp

/-- The first that does not pass is reported. -/
theorem map_find?_not_eq_some_iff {b : β} :
    (l.find? fun a => ! passes a).map report = some b ↔ ∃ before a after, l = before ++ a :: after ∧
      (∀ c ∈ before, passes c = true) ∧ ¬ passes a = true ∧ b = report a := by
  simp only [Option.map_eq_some_iff, List.find?_eq_some_iff_append, Bool.not_eq_true', Bool.not_not, Bool.not_eq_true]
  constructor
  · rintro ⟨a, ⟨ha, before, after, hs, hb⟩, rfl⟩
    exact ⟨before, a, after, hs, hb, ha, rfl⟩
  · rintro ⟨before, a, after, hs, hb, ha, rfl⟩
    exact ⟨a, ⟨ha, before, after, hs, hb⟩, rfl⟩

end FirstCulprit

section Placeholders
variable {d : Declaration} {names : List String} {defect : RouteDefect}

/-- A path parameter of this name is declared. -/
def HasPath (d : Declaration) (name : String) : Prop :=
  ∃ p ∈ d.pathParameters, p.name = name

theorem hasPath_iff {name : String} : d.pathParameters.any (·.name == name) = true ↔ d.HasPath name := by
  simp [HasPath]

/-- The defect is that of the content parameter, if it is a placeholder. -/
theorem contentDefect?_eq_some_iff (h : SoundParameters d.parameters) :
    d.contentDefect? names = some defect ↔ ∃ p ∈ d.parameters, p.isContent = true ∧ p.name ∈ names ∧
      defect = .contentParameterInTemplate p.name := by
  rw [contentDefect?, bodyParameter]
  split
  · rename_i body hb
    simp only [Option.ite_none_right_eq_some, List.contains_iff_mem, Option.some.injEq]
    constructor
    · rintro ⟨hm, rfl⟩
      exact ⟨body, List.mem_of_find?_eq_some hb, List.find?_some hb, hm, rfl⟩
    · rintro ⟨p, hp, hc, hm, rfl⟩
      rw [h.find?_isContent hp hc] at hb
      cases hb
      exact ⟨hm, rfl⟩
  · rename_i hb
    simp only [reduceCtorEq, false_iff]
    rintro ⟨p, hp, hc, -, -⟩
    exact absurd hc (List.find?_eq_none.1 hb p hp)

/-- No content parameter is a placeholder. -/
theorem contentDefect?_eq_none_iff (h : SoundParameters d.parameters) :
    d.contentDefect? names = none ↔ ∀ p ∈ d.parameters, p.isContent = true → p.name ∉ names := by
  rw [Option.eq_none_iff_forall_ne_some]
  constructor
  · intro hnone p hp hc hm
    exact hnone _ ((contentDefect?_eq_some_iff h).2 ⟨p, hp, hc, hm, rfl⟩)
  · intro hall defect hd
    obtain ⟨p, hp, hc, hm, -⟩ := (contentDefect?_eq_some_iff h).1 hd
    exact hall p hp hc hm

theorem missingDefect?_eq_none_iff : d.missingDefect? names = none ↔ ∀ name ∈ names, d.HasPath name := by
  rw [missingDefect?, map_find?_not_eq_none_iff]
  simp only [hasPath_iff]

/-- The defect is that of the first placeholder without a parameter. -/
theorem missingDefect?_eq_some_iff :
    d.missingDefect? names = some defect ↔ ∃ before name after, names = before ++ name :: after ∧
      (∀ other ∈ before, d.HasPath other) ∧ ¬ d.HasPath name ∧ defect = .missingParameter name := by
  rw [missingDefect?, map_find?_not_eq_some_iff]
  simp only [hasPath_iff]

theorem orphanDefect?_eq_none_iff : d.orphanDefect? names = none ↔ ∀ p ∈ d.pathParameters, p.name ∈ names := by
  rw [orphanDefect?, map_find?_not_eq_none_iff]
  simp only [List.contains_iff_mem]

/-- The defect is that of the first path parameter that is no placeholder. -/
theorem orphanDefect?_eq_some_iff :
    d.orphanDefect? names = some defect ↔ ∃ before p after, d.pathParameters = before ++ p :: after ∧
      (∀ q ∈ before, q.name ∈ names) ∧ p.name ∉ names ∧ defect = .orphanParameter p.name := by
  rw [orphanDefect?, map_find?_not_eq_some_iff]
  simp only [List.contains_iff_mem]

end Placeholders

end Declaration

end TypedRoutes
