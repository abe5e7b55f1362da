import TypedRoutes.Proofs.Route.RoundTrip
import TypedRoutes.Proofs.Template.Reachability
/-!
# The shape of a written URI

The values for a URI are not trusted, and the text of a list holds whatever characters its texts hold. Those that would
end a segment or the path are escaped, or the value is not written: `WellFormed.count_buildUri` counts each of them, and
the URI has as many as its template. So values can move no part of a URI to another place, and
`Route.buildUri_keeps_shape` says that the route still matches it.
-/
namespace TypedRoutes.Route

namespace WellFormed
variable {r : Route} {vs : List Value} {u : String}

/-- A mark that ends a segment or the path is written where the template has it, and nowhere else. -/
theorem count_buildUri (h : r.WellFormed) (hb : r.buildUri vs = .ok u) {c : Char} (hc : Value.isReserved c = true) :
    u.toList.count c = r.template.text.count c := by
  have hname : continuesName c = false ∧ c ≠ '{' ∧ c ≠ '}' := by
    simp only [Value.isReserved, Bool.or_eq_true, beq_iff_eq] at hc
    rcases hc with (rfl | rfl) | rfl <;> decide
  rw [(h.buildUri_eq hb).1, ← h.spells.text_eq]
  apply count_substitute
  · intro name hm
    exact not_mem_placeholder_text (h.spells.isIdentifier_of_mem hm) hname.1 hname.2.1 hname.2.2
  · intro name hm hmem
    have hfits := (h.written_fits hb name hm).2 c hmem
    rw [hc] at hfits
    cases hfits

/-- The path of a written URI is all of it. -/
theorem normalizePath_buildUri (h : r.WellFormed) (hp : PathOnly r.template.tokens) (hb : r.buildUri vs = .ok u) :
    normalizePath u.toList = u.toList := by
  obtain ⟨foldsCase, base, template, hc⟩ := h.compiled
  have hfits := fun name hm => fillsPlaceholder_of_fits (h.written_fits hb name hm)
  rw [(h.buildUri_eq hb).1]
  exact Template.normalizePath_substitute hc hp (fun name hm => (hfits name hm).1) fun name hm => (hfits name hm).2

/-- A route matches what is written for it. -/
theorem isMatch_buildUri (h : r.WellFormed) (hp : PathOnly r.template.tokens) (hb : r.buildUri vs = .ok u) :
    r.isMatch u = true := by
  obtain ⟨foldsCase, base, template, hc⟩ := h.compiled
  have hfits := fun name hm => fillsPlaceholder_of_fits (h.written_fits hb name hm)
  rw [isMatch, (h.buildUri_eq hb).1]
  exact Template.isMatch_substitute hc hp (fun name hm => (hfits name hm).1) fun name hm => (hfits name hm).2

/-- Extraction from a URI that matches is not refused for want of a match. -/
theorem extract_ne_noMatch (h : r.WellFormed) {uri : String} (hm : r.isMatch uri = true) (other template : String) :
    (r.extract uri).run.value ≠ .error (.noMatch other template) := by
  obtain ⟨captures, hc⟩ := h.exists_captures hm
  intro he
  rcases h.extract_cases hc with ⟨vs, hv, -⟩ | ⟨_, p, _, raw, reason, -, -, -, -, hv⟩
  · rw [hv] at he
    cases he
  · rw [hv] at he
    cases he

end WellFormed

/-- If a template has no query and no fragment, whatever values a URI is written for bring none into it, and no slash
either. Nothing of it is lost when its path is taken, and the route matches it. -/
theorem buildUri_keeps_shape {d : Declaration} {r : Route} {vs : List Value} {u : String}
    (h : d.build.run.value = .ok r) (hq : '?' ∉ r.template.text) (hf : '#' ∉ r.template.text)
    (hb : r.buildUri vs = .ok u) :
    '?' ∉ u.toList ∧ '#' ∉ u.toList ∧ u.toList.count '/' = r.template.text.count '/' ∧
      normalizePath u.toList = u.toList ∧ r.isMatch u = true ∧
      ∀ uri template, (r.extract u).run.value ≠ .error (.noMatch uri template) := by
  have hr := Declaration.wellFormed_of_build h
  have hp : PathOnly r.template.tokens := hr.spells.pathOnly_iff.2 ⟨hq, hf⟩
  have hm := hr.isMatch_buildUri hp hb
  refine ⟨?_, ?_, hr.count_buildUri hb rfl, hr.normalizePath_buildUri hp hb, hm, hr.extract_ne_noMatch hm⟩
  · rw [← List.count_eq_zero, hr.count_buildUri hb rfl, List.count_eq_zero]
    exact hq
  · rw [← List.count_eq_zero, hr.count_buildUri hb rfl, List.count_eq_zero]
    exact hf

/-- Files of several kinds with the tags they have, in any case and with nothing between kind and tags. -/
def tagged : Declaration :=
  .ofSteps "files.tagged" "files/{kind}{tags}/"
    [.foldingCase true, .under "/store/", .parameter ⟨"tags", .sequence (.scalar .text), .path⟩,
      .parameter ⟨"kind", .scalar .char, .path⟩, .serving .get]

/-- The route of `tagged`. -/
def taggedRoute : Route where
  handler := "files.tagged"
  verb := .get
  template := .ofTokens true "/store/files/{kind}{tags}".toList
    [.literal "/store/files/".toList, .placeholder "kind", .placeholder "tags"]
  pathParameters := [⟨"tags", .sequence (.scalar .text), .path⟩, ⟨"kind", .scalar .char, .path⟩]
  bodyParameter := none

/-- Tags that look like parts of a URI stay tags. -/
theorem buildUri_keeps_shape_tagged :
    tagged.build.run.value = .ok taggedRoute ∧
    taggedRoute.buildUri [.list [.scalar (.text "../?all"), .scalar (.text "#1;")], .scalar (.char 'z')] =
      .ok "/store/files/z..%2F%3Fall;%231%3B" ∧
    taggedRoute.isMatch "/store/files/z..%2F%3Fall;%231%3B" = true ∧
    "/store/files/z..%2F%3Fall;%231%3B".toList.count '/' = taggedRoute.template.text.count '/' := by
  have h : tagged.build.run.value = .ok taggedRoute := by decide
  have hb : taggedRoute.buildUri [.list [.scalar (.text "../?all"), .scalar (.text "#1;")], .scalar (.char 'z')] =
      .ok "/store/files/z..%2F%3Fall;%231%3B" := by decide +kernel
  obtain ⟨-, -, hslash, -, hm, -⟩ := buildUri_keeps_shape h (by decide) (by decide) hb
  exact ⟨h, hb, hm, hslash⟩

end TypedRoutes.Route
