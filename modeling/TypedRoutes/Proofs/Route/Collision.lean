import TypedRoutes.Proofs.Route.RoundTrip
/-!
# URIs that stand for more than one list of values

Writing looks at each value by itself, so a text may hold the very literal that ends it, and two lists of values can
have one URI (`Route.buildUri_collision`). Separated texts rule this out: `Route.buildUri_ne_of_separated` says that
values that are not the same have different URIs if the texts of both are separated. This needs no match and no
extraction, so it holds of templates with a query, too.
-/
namespace TypedRoutes.Route

/-- Values that are written as the same texts have one settled form, the one that is read of the texts. -/
theorem allSettled_eq_of_encode {text : String → List Char} {ps : List Parameter} {vs ws : List Value}
    (hb : ∀ p ∈ ps, p.type.isBindable = true) (hv : List.Forall₂ (fun p v => encode p v = .ok (text p.name)) ps vs)
    (hw : List.Forall₂ (fun p w => encode p w = .ok (text p.name)) ps ws) :
    Value.allSettled vs = Value.allSettled ws := by
  induction hv generalizing ws with
  | nil =>
    cases hw
    rfl
  | cons hv _ ih =>
    cases hw with
    | cons hw hws =>
      rw [List.forall_mem_cons] at hb
      obtain ⟨hvt, hve⟩ := encode_eq_ok hv
      obtain ⟨hwt, hwe⟩ := encode_eq_ok hw
      have hread := Value.read_of_encode hb.1 hvt hve
      rw [Value.read_of_encode hb.1 hwt hwe, Except.ok.injEq] at hread
      rw [Value.allSettled, Value.allSettled, hread, ih hb.2 hws]

theorem WellFormed.written_fills {r : Route} {vs : List Value} {u : String} (h : r.WellFormed)
    (hb : r.buildUri vs = .ok u) : ∀ name ∈ r.template.placeholders, FillsPlaceholder (r.written vs name) :=
  fun name hm => (fillsPlaceholder_of_fits (h.written_fits hb name hm)).1

/-- Values with one URI have one settled form, if the texts of both are separated. -/
theorem WellFormed.allSettled_eq_of_buildUri {r : Route} {vs ws : List Value} {u : String} (h : r.WellFormed)
    (hv : r.buildUri vs = .ok u) (hw : r.buildUri ws = .ok u)
    (hs : Separated false (r.written vs) r.template.tokens) (ht : Separated false (r.written ws) r.template.tokens) :
    Value.allSettled vs = Value.allSettled ws := by
  obtain ⟨huv, hvs⟩ := h.buildUri_eq hv
  obtain ⟨huw, hws⟩ := h.buildUri_eq hw
  have hwritten := eq_of_substitute_eq (h.written_fills hv) (h.written_fills hw) hs ht (huv.symm.trans huw)
  refine allSettled_eq_of_encode h.bindable hvs (forall₂_imp_of_mem hws fun p hp w hw => ?_)
  rw [hwritten p.name (h.used p hp)]
  exact hw

/-- Values that are not the same have different URIs, if none of the first is a float that is not a number and the
texts of both are separated. -/
theorem buildUri_ne_of_separated {d : Declaration} {r : Route} {vs ws : List Value} {u u' : String}
    (h : d.build.run.value = .ok r) (hn : Value.anyHolds Scalar.isNan vs = false)
    (hv : r.buildUri vs = .ok u) (hw : r.buildUri ws = .ok u')
    (hs : Separated false (r.written vs) r.template.tokens) (ht : Separated false (r.written ws) r.template.tokens)
    (hne : Value.allSame vs ws = false) : u ≠ u' := by
  rintro rfl
  have heq := (Declaration.wellFormed_of_build h).allSettled_eq_of_buildUri hv hw hs ht
  rw [Value.allSame_of_allSettled hn heq] at hne
  cases hne

/-- A range in one segment, its ends apart by a hyphen. -/
def range : Declaration :=
  .ofSteps "ranges.get" "/range/{from}-{to}"
    [.parameter ⟨"from", .scalar .text, .path⟩, .parameter ⟨"to", .scalar .text, .path⟩, .serving .get]

/-- The route of `range`. -/
def rangeRoute : Route where
  handler := "ranges.get"
  verb := .get
  template := .ofTokens false "/range/{from}-{to}".toList
    [.literal "/range/".toList, .placeholder "from", .literal ['-'], .placeholder "to"]
  pathParameters := [⟨"from", .scalar .text, .path⟩, ⟨"to", .scalar .text, .path⟩]
  bodyParameter := none

/-- The ends of a range. -/
def rangeValues (first last : String) : List Value :=
  [.scalar (.text first), .scalar (.text last)]

/-- Ends with a hyphen in the last one only have different URIs, even if they have the same letters. -/
theorem buildUri_ne_of_separated_range :
    range.build.run.value = .ok rangeRoute ∧
    Value.anyHolds Scalar.isNan (rangeValues "a" "b-c") = false ∧
    rangeRoute.buildUri (rangeValues "a" "b-c") = .ok "/range/a-b-c" ∧
    rangeRoute.buildUri (rangeValues "ab" "-c") = .ok "/range/ab--c" ∧
    Separated false (rangeRoute.written (rangeValues "a" "b-c")) rangeRoute.template.tokens ∧
    Separated false (rangeRoute.written (rangeValues "ab" "-c")) rangeRoute.template.tokens ∧
    Value.allSame (rangeValues "a" "b-c") (rangeValues "ab" "-c") = false ∧ "/range/a-b-c" ≠ "/range/ab--c" := by
  have h : range.build.run.value = .ok rangeRoute := by decide
  have hv : rangeRoute.buildUri (rangeValues "a" "b-c") = .ok "/range/a-b-c" := by decide +kernel
  have hw : rangeRoute.buildUri (rangeValues "ab" "-c") = .ok "/range/ab--c" := by decide +kernel
  have hs : Separated false (rangeRoute.written (rangeValues "a" "b-c")) rangeRoute.template.tokens := by
    decide +kernel
  have ht : Separated false (rangeRoute.written (rangeValues "ab" "-c")) rangeRoute.template.tokens := by
    decide +kernel
  exact ⟨h, by decide, hv, hw, hs, ht, by decide, buildUri_ne_of_separated h (by decide) hv hw hs ht (by decide)⟩

/-- A hyphen in the first end is taken for the one between the ends: two ranges have one URI, from which only one of
them is extracted. -/
theorem buildUri_collision :
    range.build.run.value = .ok rangeRoute ∧
    rangeRoute.template.tokens =
      [.literal "/range/".toList, .placeholder "from", .literal ['-'], .placeholder "to"] ∧
    Value.allSame (rangeValues "a" "b-c") (rangeValues "a-b" "c") = false ∧
    rangeRoute.buildUri (rangeValues "a" "b-c") = .ok "/range/a-b-c" ∧
    rangeRoute.buildUri (rangeValues "a-b" "c") = .ok "/range/a-b-c" ∧
    (rangeRoute.extract "/range/a-b-c").run.value = .ok (rangeValues "a" "b-c") := by
  refine ⟨by decide, rfl, by decide, ?_, ?_, ?_⟩
  · decide +kernel
  · decide +kernel
  · rfl

end TypedRoutes.Route
