import TypedRoutes.Proofs.Route.Diagnosis
import TypedRoutes.Proofs.Template.Tokens
/-!
# What a built route is known to be

`Route.WellFormed` collects what the checks of a declaration leave standing: the names of the path
parameters and the placeholders are the same names, each once, every type can be bound from a URI, and the
template is one that compiles. `wellFormed_of_build`: every route that a declaration builds has it.
-/
namespace TypedRoutes

/-- What holds of the template and the path parameters of every built route. -/
structure Route.WellFormed (r : Route) : Prop where
  compiled : ∃ foldsCase base template, Template.compile foldsCase base template = .ok r.template
  names_nodup : (r.pathParameters.map (·.name)).Nodup
  bindable : ∀ p ∈ r.pathParameters, p.type.isBindable = true
  /-- Every placeholder has a parameter. -/
  covered : ∀ name ∈ r.template.placeholders, ∃ p ∈ r.pathParameters, p.name = name
  /-- Every parameter has a placeholder. -/
  used : ∀ p ∈ r.pathParameters, p.name ∈ r.template.placeholders

namespace Declaration

/-- A route that a declaration builds is well formed. -/
theorem wellFormed_of_build {d : Declaration} {r : Route} (h : d.build.run.value = .ok r) : r.WellFormed := by
  obtain ⟨hm, -, -, hpath, -⟩ := check_eq_ok_iff.1 (build_eq_ok_iff.1 h)
  refine ⟨⟨_, _, _, hm.compiled⟩, ?_, ?_, ?_, ?_⟩ <;> rw [hpath]
  · exact hm.sound.names_nodup.sublist (List.filter_sublist.map _)
  · intro p hp
    obtain ⟨hp, hs⟩ := List.mem_filter.1 hp
    exact ParamType.isBindable_iff.2 (hm.sound.bindable p hp hs)
  · exact hm.covered
  · exact hm.used

end Declaration

/-- The names of the path parameters are the placeholders, in another order. -/
theorem Route.WellFormed.names_perm {r : Route} (h : r.WellFormed) :
    (r.pathParameters.map (·.name)).Perm r.template.placeholders := by
  obtain ⟨foldsCase, base, template, hc⟩ := h.compiled
  refine (List.perm_ext_iff_of_nodup h.names_nodup (Template.of_compile hc).2.2).2 fun name => ?_
  rw [List.mem_map]
  constructor
  · rintro ⟨p, hp, rfl⟩
    exact h.used p hp
  · exact h.covered name

/-- The template is what its tokens spell. -/
theorem Route.WellFormed.spells {r : Route} (h : r.WellFormed) : Spells r.template.tokens r.template.text := by
  obtain ⟨foldsCase, base, template, hc⟩ := h.compiled
  obtain ⟨htokens, ht, -⟩ := Template.of_compile hc
  have htext : r.template.text = mount base template := by rw [ht]; rfl
  rw [htext]
  exact spells_of_tokenize htokens

end TypedRoutes
