import Mathlib.Data.Fin.VecNotation
import Mathlib.Data.List.FinRange
import Mathlib.Data.Set.Function
import TypedRoutes.Proofs.Route.RoundTrip
import TypedRoutes.Proofs.Template.Renaming
/-!
# Other orders and other names

What a route does depends on its parameters through pairs of a parameter and a value, in no order
(`WellFormed.extract_pairs_iff`, `WellFormed.buildUri_pairs_iff`), and on their names only as far as a placeholder has
the same. So a declaration with its parameters in another order, and with other names for the placeholders and the
parameters of the path, has a route that matches the same URIs, extracts the same values in the other order from them,
and writes the same URIs for these (`Declaration.build_renamed`).
-/
namespace TypedRoutes

/-- A parameter of the path with another name. One that is bound from the body keeps its own. -/
def Parameter.renamed (f : String → String) (p : Parameter) : Parameter :=
  if p.isPath then { p with name := f p.name } else p

namespace Declaration

/-- The declaration with other names for the placeholders and the parameters of the path. -/
def renamed (f : String → String) (d : Declaration) : Declaration :=
  { d with
    template := String.ofList (renameText f d.template.toList)
    base := d.base.map fun base => String.ofList (renameText f base.toList)
    parameters := d.parameters.map (Parameter.renamed f) }

/-- The declaration with other parameters. -/
def withParameters {n : Nat} (d : Declaration) (parameters : Fin n → Parameter) : Declaration :=
  { d with parameters := List.ofFn parameters }

end Declaration

/-! ## Parameters and values -/

section Pairs
variable {n : Nat}

/-- The parameters of the path in order, each with its value. -/
def pathPairs (parameters : Fin n → Parameter) (values : Fin n → Value) : List (Parameter × Value) :=
  (List.ofFn fun i => (parameters i, values i)).filter (·.1.isPath)

/-- The values of the parameters of the path in order. -/
def pathValues (parameters : Fin n → Parameter) (values : Fin n → Value) : List Value :=
  (pathPairs parameters values).map Prod.snd

theorem map_fst_pathPairs (parameters : Fin n → Parameter) (values : Fin n → Value) :
    (pathPairs parameters values).map Prod.fst = (List.ofFn parameters).filter Parameter.isPath := by
  have hfst : List.ofFn parameters = (List.ofFn fun i => (parameters i, values i)).map Prod.fst := by
    rw [List.map_ofFn]
    rfl
  rw [hfst, List.filter_map, pathPairs]
  rfl

theorem isPath_of_mem_pathPairs {parameters : Fin n → Parameter} {values : Fin n → Value} {pair : Parameter × Value}
    (h : pair ∈ pathPairs parameters values) : pair.1.isPath = true :=
  (List.mem_filter.1 h).2

/-- In another order there are the same pairs. -/
theorem pathPairs_perm (parameters : Fin n → Parameter) (values : Fin n → Value) (π : Equiv.Perm (Fin n)) :
    (pathPairs (parameters ∘ π) (values ∘ π)).Perm (pathPairs parameters values) :=
  (π.ofFn_comp_perm fun i => (parameters i, values i)).filter _

/-- Any values may be those of the parameters of the path, if they are as many. -/
theorem exists_pathValues (parameters : Fin n → Parameter) {vs : List Value}
    (h : vs.length = ((List.ofFn parameters).filter Parameter.isPath).length) :
    ∃ values, pathValues parameters values = vs := by
  induction n generalizing vs with
  | zero =>
    rw [List.ofFn_zero] at h
    exact ⟨fun _ => .list [], (List.length_eq_zero_iff.1 h).symm⟩
  | succ n ih =>
    rw [List.ofFn_succ, List.filter_cons] at h
    by_cases hp : (parameters 0).isPath = true
    · rw [if_pos hp, List.length_cons] at h
      obtain ⟨v, more, rfl⟩ := List.exists_cons_of_length_eq_add_one h
      obtain ⟨values, rfl⟩ := ih (fun i => parameters i.succ) (Nat.succ.inj h)
      refine ⟨Fin.cons v values, ?_⟩
      simp [pathValues, pathPairs, List.ofFn_succ, hp]
    · rw [if_neg hp] at h
      obtain ⟨values, rfl⟩ := ih (fun i => parameters i.succ) h
      refine ⟨Fin.cons (.list []) values, ?_⟩
      simp [pathValues, pathPairs, List.ofFn_succ, hp]

end Pairs

namespace Route.WellFormed
variable {r : Route} {pairs : List (Parameter × Value)}

/-- Values are extracted if each is bound, whatever their order. -/
theorem extract_pairs_iff (h : r.WellFormed) (hp : pairs.map Prod.fst = r.pathParameters) (uri : String) :
    (r.extract uri).run.value = .ok (pairs.map Prod.snd) ↔
      ∃ captures, r.template.captures? uri.toList = some captures ∧ ∀ pair ∈ pairs, BindsTo captures pair.1 pair.2 := by
  have hpairs : ∀ captures, List.Forall₂ (BindsTo captures) r.pathParameters (pairs.map Prod.snd) ↔
      ∀ pair ∈ pairs, BindsTo captures pair.1 pair.2 := by
    intro captures
    rw [← hp, List.forall₂_map_left_iff, List.forall₂_map_right_iff, List.forall₂_same]
  cases hc : r.template.captures? uri.toList with
  | none => simp [extract_mismatch hc]
  | some captures =>
    constructor
    · intro he
      refine ⟨captures, rfl, (hpairs captures).1 ?_⟩
      rcases h.extract_cases hc with ⟨vs, hv, hb⟩ | ⟨_, p, _, raw, reason, -, -, -, -, hv⟩
      · rw [hv] at he
        injection he with he
        rwa [← he]
      · rw [hv] at he
        cases he
    · rintro ⟨_, ⟨⟩, hb⟩
      rw [extract_of_captures? hc, bindAll_of_bindsTo ((hpairs captures).2 hb)]

theorem placeholder_of_captured (h : r.WellFormed) {uri : List Char} {captures : Captures}
    (hc : r.template.captures? uri = some captures) {name : String} (hm : name ∈ captures.map Prod.fst) :
    name ∈ r.template.placeholders := by
  obtain ⟨foldsCase, base, template, ht⟩ := h.compiled
  exact (Template.assigns_of_captures? ht hc).1 ▸ hm

/-- A URI is written for values if each can be, whatever their order. -/
theorem buildUri_pairs_iff (h : r.WellFormed) (hp : pairs.map Prod.fst = r.pathParameters) {u : String} :
    r.buildUri (pairs.map Prod.snd) = .ok u ↔ (∀ pair ∈ pairs, Writable pair.1 pair.2) ∧
      ∃ σ : Assignment, (∀ pair ∈ pairs, σ pair.1.name = pair.2.placed) ∧
        u = String.ofList (substitute σ r.template.tokens) := by
  have hl : r.pathParameters.length = (pairs.map Prod.snd).length := by
    rw [← hp, List.length_map, List.length_map]
  rw [h.buildUri_eq_ok_iff hl, ← List.zip_of_prod hp rfl]

end Route.WellFormed

/-! ## One pair under another name -/

section Renamed
variable {f : String → String} {p : Parameter} {v : Value}

theorem Parameter.isPath_renamed (f : String → String) (p : Parameter) : (p.renamed f).isPath = p.isPath := by
  unfold renamed
  split <;> rfl

theorem Parameter.renamed_of_isPath (f : String → String) (hp : p.isPath = true) :
    p.renamed f = { p with name := f p.name } :=
  if_pos hp

/-- A text is found under another name if no other name becomes the same. -/
theorem lookup_renamed {captures : Captures} {name : String}
    (hf : ∀ other ∈ captures.map Prod.fst, f other = f name → other = name) :
    (captures.map (Prod.map f id)).lookup (f name) = captures.lookup name := by
  induction captures with
  | nil => rfl
  | cons first more ih =>
    obtain ⟨key, text⟩ := first
    rw [List.map_cons, List.forall_mem_cons] at hf
    have hkey : (f name == f key) = (name == key) := by
      rw [Bool.eq_iff_iff, beq_iff_eq, beq_iff_eq]
      exact ⟨fun h => (hf.1 h.symm).symm, congrArg f⟩
    rw [List.map_cons, Prod.map_apply, List.lookup_cons, List.lookup_cons, hkey, ih hf.2]
    rfl

theorem bindsTo_renamed {captures : Captures} (hp : p.isPath = true)
    (hf : ∀ other ∈ captures.map Prod.fst, f other = f p.name → other = p.name) :
    BindsTo (captures.map (Prod.map f id)) (p.renamed f) v ↔ BindsTo captures p v := by
  rw [p.renamed_of_isPath f hp]
  simp only [BindsTo, lookup_renamed hf, bind_eq_ok_iff]

theorem writable_renamed (hp : p.isPath = true) : Route.Writable (p.renamed f) v ↔ Route.Writable p v := by
  rw [p.renamed_of_isPath f hp]
  exact ⟨fun h => ⟨h.1, h.2⟩, fun h => ⟨h.1, h.2⟩⟩

end Renamed

/-! ## The other route -/

/-- The template of one route is that of the other with other names. -/
structure Route.Renames (f : String → String) (r r' : Route) : Prop where
  captures?_eq : ∀ uri, r'.template.captures? uri = (r.template.captures? uri).map (List.map (Prod.map f id))
  substitute_eq : ∀ σ, substitute σ r'.template.tokens = substitute (σ ∘ f) r.template.tokens
  injOn : Set.InjOn f {name | name ∈ r.template.placeholders}

namespace Route.Renames
variable {f : String → String} {r r' : Route} {pairs pairs' : List (Parameter × Value)}

/-- Whatever texts the names have, the other names can have them. -/
theorem exists_assignment (h : Renames f r r') (σ : Assignment) :
    ∃ τ : Assignment, ∀ name ∈ r.template.placeholders, τ (f name) = σ name :=
  ⟨σ ∘ Function.invFunOn f {name | name ∈ r.template.placeholders}, fun _ hm =>
    congrArg σ (h.injOn.leftInvOn_invFunOn hm)⟩

section Pairs
variable (h : Renames f r r') (hr : r.WellFormed) (hr' : r'.WellFormed)
  (hp : pairs.map Prod.fst = r.pathParameters) (hp' : pairs'.map Prod.fst = r'.pathParameters)
  (hperm : pairs'.Perm (pairs.map (Prod.map (Parameter.renamed f) id))) (hpath : ∀ pair ∈ pairs, pair.1.isPath = true)
include h hr hr' hp hp' hperm hpath

/-- The same values are extracted, in the order of the other pairs. -/
theorem extract_iff (uri : String) :
    (r.extract uri).run.value = .ok (pairs.map Prod.snd) ↔ (r'.extract uri).run.value = .ok (pairs'.map Prod.snd) := by
  rw [hr.extract_pairs_iff hp, hr'.extract_pairs_iff hp', h.captures?_eq]
  cases hc : r.template.captures? uri.toList with
  | none => simp
  | some captures =>
    simp only [Option.map_some, Option.some.injEq, exists_eq_left', hperm.mem_iff, List.forall_mem_map]
    refine forall₂_congr fun pair hm => (bindsTo_renamed (hpath pair hm) fun other ho he => ?_).symm
    exact h.injOn (hr.placeholder_of_captured hc ho) (hr.used _ (hp ▸ List.mem_map_of_mem hm)) he

/-- The same URI is written for the values in the order of the other pairs. -/
theorem buildUri_iff (u : String) :
    r.buildUri (pairs.map Prod.snd) = .ok u ↔ r'.buildUri (pairs'.map Prod.snd) = .ok u := by
  have hwritable : ∀ pair ∈ pairs, Writable (pair.1.renamed f) pair.2 ↔ Writable pair.1 pair.2 :=
    fun pair hm => writable_renamed (hpath pair hm)
  have hname : ∀ pair ∈ pairs, (pair.1.renamed f).name = f pair.1.name := fun pair hm => by
    rw [pair.1.renamed_of_isPath f (hpath pair hm)]
  rw [hr.buildUri_pairs_iff hp, hr'.buildUri_pairs_iff hp']
  simp only [hperm.mem_iff, List.forall_mem_map, h.substitute_eq, Prod.map_fst, Prod.map_snd, id]
  refine and_congr (forall₂_congr fun pair hm => (hwritable pair hm).symm) ⟨?_, ?_⟩
  · rintro ⟨σ, hσ, rfl⟩
    obtain ⟨τ, hτ⟩ := h.exists_assignment σ
    refine ⟨τ, fun pair hm => ?_, ?_⟩
    · rw [hname pair hm, hτ _ (hr.used _ (hp ▸ List.mem_map_of_mem hm)), hσ pair hm]
    · rw [substitute_congr (τ := τ ∘ f) fun name hm => (hτ name hm).symm]
  · rintro ⟨τ, hτ, rfl⟩
    exact ⟨τ ∘ f, fun pair hm => by rw [← hτ pair hm, hname pair hm]; rfl, rfl⟩

end Pairs

end Route.Renames

/-! ## The other declaration -/

namespace Declaration
variable {n : Nat} {d : Declaration} {parameters : Fin n → Parameter} {π : Equiv.Perm (Fin n)} {f : String → String}
  {r r' : Route}

theorem pathParameters_of_build (h : (d.withParameters parameters).build.run.value = .ok r) :
    r.pathParameters = (List.ofFn parameters).filter Parameter.isPath := by
  obtain ⟨-, -, -, hpath, -⟩ := check_eq_ok_iff.1 (build_eq_ok_iff.1 h)
  rw [hpath]
  rfl

theorem pathParameters_of_build_renamed (h : ((d.withParameters parameters).renamed f).build.run.value = .ok r) :
    r.pathParameters = ((List.ofFn parameters).filter Parameter.isPath).map (Parameter.renamed f) := by
  obtain ⟨-, -, -, hpath, -⟩ := check_eq_ok_iff.1 (build_eq_ok_iff.1 h)
  rw [hpath, pathParameters]
  change ((List.ofFn parameters).map (Parameter.renamed f)).filter Parameter.isPath = _
  rw [List.filter_map]
  congr 2
  funext p
  exact p.isPath_renamed f

section Built
variable (h : (d.withParameters parameters).build.run.value = .ok r)
  (h' : ((d.withParameters (parameters ∘ π)).renamed f).build.run.value = .ok r')
include h h'

/-- What a placeholder is renamed to is a placeholder of the other route, so it is an identifier. -/
theorem isIdentifier_of_build_renamed : ∀ name ∈ r.template.placeholders, isIdentifier (f name).toList = true := by
  have hr := wellFormed_of_build h
  have hr' := wellFormed_of_build h'
  intro name hm
  obtain ⟨p, hp, rfl⟩ := hr.covered name hm
  rw [pathParameters_of_build h] at hp
  have hother : p.renamed f ∈ r'.pathParameters := by
    rw [pathParameters_of_build_renamed h']
    exact List.mem_map_of_mem (((π.ofFn_comp_perm parameters).filter _).mem_iff.2 hp)
  have hname := hr'.spells.isIdentifier_of_mem (hr'.used _ hother)
  rwa [p.renamed_of_isPath f (List.mem_filter.1 hp).2] at hname

/-- The route of the other declaration is the route with its placeholders renamed. No two of them are renamed to one,
which would be a placeholder twice. -/
theorem renames_of_build : Route.Renames f r r' := by
  obtain ⟨hm, -⟩ := check_eq_ok_iff.1 (build_eq_ok_iff.1 h)
  obtain ⟨hm', -⟩ := check_eq_ok_iff.1 (build_eq_ok_iff.1 h')
  have hc := hm.compiled
  have hc' : Template.compile d.foldsCase ((d.base.map String.toList).map (renameText f))
      (renameText f d.template.toList) = .ok r'.template := by
    simpa [renamed, withParameters, Option.map_map, Function.comp_def] using hm'.compiled
  have hidentifier := isIdentifier_of_build_renamed h h'
  have hdistinct : (r.template.placeholders.map f).Nodup := by
    rw [← Template.placeholders_tokens hc hc' hidentifier]
    exact (Template.of_compile hc').2.2
  refine ⟨Template.captures?_renamed hc hc' hidentifier, Template.substitute_tokens hc hc' hidentifier, ?_⟩
  exact fun name hm other ho he => List.inj_on_of_nodup_map hdistinct hm ho he

end Built

/-- With its parameters in another order, and with other names for the placeholders and the parameters of the path, a
declaration that has a route still has one that matches the same URIs. From a URI both extract the same values, each in
the order of its parameters, or none; and for the same values both write the same URI, or none. -/
theorem build_renamed (h : (d.withParameters parameters).build.run.value = .ok r)
    (h' : ((d.withParameters (parameters ∘ π)).renamed f).build.run.value = .ok r') (uri : String) :
    r.isMatch uri = r'.isMatch uri ∧
    (∀ vs, vs.length = r.pathParameters.length → ∃ values, pathValues parameters values = vs) ∧
    ∀ values : Fin n → Value,
      ((r.extract uri).run.value = .ok (pathValues parameters values) ↔
        (r'.extract uri).run.value = .ok (pathValues (parameters ∘ π) (values ∘ π))) ∧
      ∀ u, r.buildUri (pathValues parameters values) = .ok u ↔
        r'.buildUri (pathValues (parameters ∘ π) (values ∘ π)) = .ok u := by
  have hr := wellFormed_of_build h
  have hr' := wellFormed_of_build h'
  have hrenames := renames_of_build h h'
  refine ⟨?_, fun vs hl => ?_, fun values => ?_⟩
  · rw [hr.isMatch_eq, hr'.isMatch_eq, hrenames.captures?_eq, Option.isSome_map]
  · rw [pathParameters_of_build h] at hl
    exact exists_pathValues parameters hl
  · have hp : (pathPairs parameters values).map Prod.fst = r.pathParameters := by
      rw [pathParameters_of_build h, map_fst_pathPairs]
    have hp' : ((pathPairs (parameters ∘ π) (values ∘ π)).map (Prod.map (Parameter.renamed f) id)).map Prod.fst =
        r'.pathParameters := by
      rw [pathParameters_of_build_renamed h', ← map_fst_pathPairs _ (values ∘ π), List.map_map, List.map_map]
      rfl
    have hvalues : pathValues (parameters ∘ π) (values ∘ π) =
        ((pathPairs (parameters ∘ π) (values ∘ π)).map (Prod.map (Parameter.renamed f) id)).map Prod.snd := by
      rw [List.map_map]
      rfl
    have hperm := (pathPairs_perm parameters values π).map (Prod.map (Parameter.renamed f) id)
    have hpath : ∀ pair ∈ pathPairs parameters values, pair.1.isPath = true := fun _ => isPath_of_mem_pathPairs
    rw [hvalues, pathValues]
    exact ⟨hrenames.extract_iff hr hr' hp hp' hperm hpath uri, hrenames.buildUri_iff hr hr' hp hp' hperm hpath⟩

/-- Copies of a part of a text, whose end is declared before its beginning. -/
def copies : Declaration :=
  .ofSteps "copies.put" "{from}-{to}" [.under "/copies/", .serving .put]

/-- The parameters of `copies`, with one from the body between the two from the path. -/
def copiesParameters : Fin 3 → Parameter :=
  ![⟨"to", .scalar (.integer .int), .path⟩, ⟨"note", .custom "Note", .content⟩,
    ⟨"from", .scalar (.integer .int), .path⟩]

/-- The route of `copies` with its parameters. -/
def copiesRoute : Route where
  handler := "copies.put"
  verb := .put
  template := .ofTokens false "/copies/{from}-{to}".toList
    [.literal "/copies/".toList, .placeholder "from", .literal ['-'], .placeholder "to"]
  pathParameters := [⟨"to", .scalar (.integer .int), .path⟩, ⟨"from", .scalar (.integer .int), .path⟩]
  bodyParameter := some ⟨"note", .custom "Note", .content⟩

/-- The route of `copies` with its parameters in the order of the path, and longer names for them. -/
def longCopiesRoute : Route where
  handler := "copies.put"
  verb := .put
  template := .ofTokens false "/copies/{char_from}-{char_to}".toList
    [.literal "/copies/".toList, .placeholder "char_from", .literal ['-'], .placeholder "char_to"]
  pathParameters := [⟨"char_from", .scalar (.integer .int), .path⟩, ⟨"char_to", .scalar (.integer .int), .path⟩]
  bodyParameter := some ⟨"note", .custom "Note", .content⟩

/-- The end and the beginning of a part, one a value for each parameter. -/
def partValues : Fin 3 → Value :=
  ![.scalar (.integer .int ⟨9, by decide⟩), .list [], .scalar (.integer .int ⟨1, by decide⟩)]

/-- The two integers change their places, and are not taken for each other. -/
theorem build_renamed_copies :
    (copies.withParameters copiesParameters).build.run.value = .ok copiesRoute ∧
    ((copies.withParameters (copiesParameters ∘ Equiv.swap 0 2)).renamed ("char_" ++ ·)).build.run.value =
      .ok longCopiesRoute ∧
    copiesRoute.buildUri [partValues 0, partValues 2] = .ok "/copies/1-9" ∧
    longCopiesRoute.buildUri [partValues 2, partValues 0] = .ok "/copies/1-9" := by
  have h : (copies.withParameters copiesParameters).build.run.value = .ok copiesRoute := by decide
  have h' : ((copies.withParameters (copiesParameters ∘ Equiv.swap 0 2)).renamed ("char_" ++ ·)).build.run.value =
      .ok longCopiesRoute := by
    decide
  have hb : copiesRoute.buildUri [partValues 0, partValues 2] = .ok "/copies/1-9" := by decide +kernel
  obtain ⟨-, -, hvalues⟩ := build_renamed h h' "/copies/1-9"
  exact ⟨h, h', hb, ((hvalues partValues).2 _).1 hb⟩

end Declaration

end TypedRoutes
