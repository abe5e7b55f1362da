import TypedRoutes.Proofs.Route.Extraction
import TypedRoutes.Proofs.Route.Writing
/-!
# Writing a URI and extracting from it

`Route.extract_buildUri`: values are extracted again from the URI that is written for them, if their texts are
separated and none is a float that is not a number. `Route.buildUri_extract`: what is extracted from a URI can be
written again; with one placeholder in a segment the URI that is written gives the same values, and from it on
writing and extracting change nothing more, but for the sign of a decimal zero, which is read no more.
-/
namespace TypedRoutes

namespace Route

/-! ## Texts of values -/

/-- The text that each name has in a URI that is written for some values. -/
def written (r : Route) (values : List Value) : Assignment :=
  match encodeAll r.pathParameters values with
  | .ok texts => assignmentOf texts
  | .error _ => fun _ => []

theorem encode_eq_ok {p : Parameter} {v : Value} {cs : List Char} (h : encode p v = .ok cs) :
    v.conformsTo p.type = true ∧ v.encode = .ok cs := by
  unfold encode at h
  split at h
  · rename_i hc
    exact ⟨hc, except_mapError_ok h⟩
  · cases h

namespace WellFormed
variable {r : Route} {vs : List Value} {u : String}

/-- A written URI is the template with the text of each value in its placeholder. -/
theorem buildUri_eq (h : r.WellFormed) (hb : r.buildUri vs = .ok u) :
    u.toList = substitute (r.written vs) r.template.tokens ∧
      List.Forall₂ (fun p v => encode p v = .ok (r.written vs p.name)) r.pathParameters vs := by
  have hl := length_of_buildUri hb
  rw [h.buildUri_of_length hl] at hb
  obtain ⟨texts, ht, rfl⟩ := except_map_ok hb
  have hwritten : r.written vs = assignmentOf texts := by rw [written, ht]
  obtain ⟨hw, rfl⟩ := encodeAll_eq_ok_iff.1 ht
  rw [hwritten, String.toList_ofList]
  refine ⟨rfl, List.forall₂_iff_zip.2 ⟨hl, fun hm => ?_⟩⟩
  exact encode_eq_ok_iff.2 ⟨hw _ hm, h.assignmentOf_namedText hl hm⟩

/-- A URI can be written for values that can be written one by one. -/
theorem buildUri_ok (h : r.WellFormed) (hvs : List.Forall₂ (fun p v => ∃ cs, encode p v = .ok cs) r.pathParameters vs) :
    ∃ u, r.buildUri vs = .ok u := by
  have hl := hvs.length_eq
  refine ⟨_, (h.buildUri_eq_ok_iff hl).2 ⟨fun pair hm => ?_, _, fun pair hm => h.assignmentOf_namedText hl hm, rfl⟩⟩
  obtain ⟨cs, hcs⟩ := (List.forall₂_iff_zip.1 hvs).2 hm
  exact (encode_eq_ok_iff.1 hcs).1

/-- The texts in a written URI fit into their segments. -/
theorem written_fits (h : r.WellFormed) (hb : r.buildUri vs = .ok u) :
    ∀ name ∈ r.template.placeholders, FitsSegment (r.written vs name) := by
  obtain ⟨-, hvs⟩ := h.buildUri_eq hb
  have hboth : List.Forall₂ (fun p v => FitsSegment (r.written vs p.name) ∧ encode p v = .ok (r.written vs p.name))
      r.pathParameters vs := hvs.imp fun p v hv => ⟨(Value.encode_ok (encode_eq_ok hv).2).2, hv⟩
  intro name hm
  obtain ⟨p, hp, rfl⟩ := h.covered name hm
  exact ((List.forall₂_and_left _ _).1 hboth).1 p hp

end WellFormed

/-! ## Extracting again -/

/-- A text of its own for every parameter binds them all. -/
theorem bindAll_of_bindsTo {r : Route} {uri : String} {captures : Captures} {ps : List Parameter} {vs : List Value}
    (h : List.Forall₂ (BindsTo captures) ps vs) : (r.bindAll uri captures ps).run = ⟨.ok vs, []⟩ := by
  induction h with
  | nil => rfl
  | cons hv _ ih =>
    obtain ⟨raw, hr, hb⟩ := hv
    rw [bindAll_ok_cons hr (bind_eq_ok_iff.1 hb), ih]
    rfl

theorem fillsPlaceholder_of_fits {cs : List Char} (h : FitsSegment cs) :
    FillsPlaceholder cs ∧ ∀ c ∈ cs, endsPath c = false := by
  refine ⟨⟨h.1, fun hm => Bool.noConfusion (h.2 _ hm : Value.isReserved '/' = false)⟩, fun c hc => ?_⟩
  have hr := h.2 c hc
  simp only [Value.isReserved, Bool.or_eq_false_iff] at hr
  rw [endsPath, hr.1.2, hr.2]
  rfl

theorem fits_of_fillsPlaceholder {cs : List Char} (h : FillsPlaceholder cs) (he : ∀ c ∈ cs, endsPath c = false) :
    FitsSegment cs := by
  refine ⟨h.1, fun c hc => ?_⟩
  have hslash : c ≠ '/' := fun hs => h.2 (hs ▸ hc)
  have hend := he c hc
  simp only [endsPath, Bool.or_eq_false_iff] at hend
  simp [Value.isReserved, hslash, hend]

/-- The values are extracted again from a written URI whose texts are separated: what is captured for a parameter is
what its value was written as. -/
theorem WellFormed.extract_written {r : Route} {vs : List Value} {u : String} (h : r.WellFormed)
    (hp : PathOnly r.template.tokens) (hb : r.buildUri vs = .ok u)
    (hs : Separated r.template.extractor.foldsCase (r.written vs) r.template.tokens) :
    r.isMatch u = true ∧ (r.extract u).run = ⟨.ok (Value.allSettled vs), []⟩ := by
  obtain ⟨foldsCase, base, template, hc⟩ := h.compiled
  have hfold : r.template.extractor.foldsCase = foldsCase := by rw [(Template.of_compile hc).2.1]; rfl
  rw [hfold] at hs
  obtain ⟨hu, hvs⟩ := h.buildUri_eq hb
  have hfits := fun name hm => fillsPlaceholder_of_fits (h.written_fits hb name hm)
  obtain ⟨captures, hcap, hk, hlook⟩ := Template.captures?_substitute hc hp (fun name hm => (hfits name hm).1)
    (fun name hm => (hfits name hm).2) hs
  rw [← hu] at hcap
  refine ⟨by rw [h.isMatch_eq, hcap]; rfl, ?_⟩
  rw [extract_of_captures? hcap]
  refine bindAll_of_bindsTo ?_
  rw [Value.allSettled_eq_map, List.forall₂_map_right_iff]
  refine forall₂_imp_of_mem hvs fun p hm v hv => ⟨_, hlook p.name (h.used p hm), bind_eq_ok_iff.2 ?_⟩
  obtain ⟨ht, he⟩ := encode_eq_ok hv
  exact Value.read_of_encode (h.bindable p hm) ht he

/-! ## Writing again -/

/-- What is extracted from a URI can be written one by one, since texts that are captured from a normal path fit into
their segments, and the template has no query or fragment. -/
theorem WellFormed.encode_extracted {r : Route} {uri : String} {vs : List Value} (h : r.WellFormed)
    (he : (r.extract uri).run.value = .ok vs) :
    PathOnly r.template.tokens ∧
      List.Forall₂ (fun p v => ∃ cs, encode p v = .ok cs) r.pathParameters vs := by
  obtain ⟨foldsCase, base, template, hc⟩ := h.compiled
  cases hcap : r.template.captures? uri.toList with
  | none =>
    rw [extract_mismatch hcap] at he
    cases he
  | some captures =>
    obtain ⟨hk, hassigns⟩ := Template.assigns_of_captures? hc hcap
    have hdivision := assigns_iff_division.1 hassigns
    refine ⟨hdivision.pathOnly fun c hm => endsPath_of_mem_normalizePath hm, ?_⟩
    rcases h.extract_cases hcap with ⟨ws, hw, hvs⟩ | ⟨_, p, _, raw, reason, -, -, -, -, hw⟩
    · rw [hw] at he
      cases he
      refine forall₂_imp_of_mem hvs fun p hm v hv => ?_
      obtain ⟨raw, hr, hb⟩ := hv
      have hname := h.used p hm
      have hraw : raw = assignmentOf captures p.name := by
        rw [assignmentOf, hr]
        rfl
      have hpart : raw ⊆ normalizePath uri.toList :=
        hdivision.text_subset (hraw ▸ List.mem_map_of_mem hname)
      have hfits : FitsSegment raw :=
        fits_of_fillsPlaceholder (hraw ▸ hassigns.fills p.name hname)
          fun c hc => endsPath_of_mem_normalizePath (hpart hc)
      obtain ⟨cs, hcs⟩ := Value.encode_of_read (bind_eq_ok_iff.1 hb) hfits
      exact ⟨cs, by rw [encode, if_pos (BindsTo.conformsTo ⟨raw, hr, hb⟩), hcs]; rfl⟩
    · rw [hw] at he
      cases he

/-! ## Round trips of built routes -/

/-- A URI that is written for values matches its route and gives the same values again, in the order of the
declaration: where the template has no query, no value is a float that is not a number, and the texts are
separated. -/
theorem extract_buildUri {d : Declaration} {r : Route} {vs : List Value} {u : String}
    (h : d.build.run.value = .ok r) (hq : '?' ∉ r.template.text) (hf : '#' ∉ r.template.text)
    (hn : Value.anyHolds Scalar.isNan vs = false) (hb : r.buildUri vs = .ok u)
    (hs : Separated r.template.extractor.foldsCase (r.written vs) r.template.tokens) :
    r.isMatch u = true ∧ (r.extract u).run = ⟨.ok (Value.allSettled vs), []⟩ ∧
      Value.allSame vs (Value.allSettled vs) = true := by
  have hr := Declaration.wellFormed_of_build h
  have hp : PathOnly r.template.tokens := by
    obtain ⟨foldsCase, base, template, hc⟩ := hr.compiled
    obtain ⟨htokens, ht, -⟩ := Template.of_compile hc
    have htext : untokenize r.template.tokens = r.template.text := by
      rw [untokenize_of_tokenize htokens, ht]
      rfl
    intro text hm c hc
    have hmem := literal_subset_untokenize hm hc
    rw [htext] at hmem
    rw [endsPath, Bool.or_eq_false_iff, beq_eq_false_iff_ne, beq_eq_false_iff_ne]
    constructor
    · rintro rfl
      exact hq hmem
    · rintro rfl
      exact hf hmem
  obtain ⟨hmatch, he⟩ := hr.extract_written hp hb hs
  exact ⟨hmatch, he, Value.allSame_of_allAlike hn (Value.allAlike_allSettled vs)⟩

/-- A file of a release, in a segment with its version, and tags in any order. -/
def release : Declaration :=
  .ofSteps "releases.file" "/{name}-V{version}/{tags}"
    [.parameter ⟨"tags", .sequence (.scalar .text), .path⟩, .parameter ⟨"version", .scalar (.integer .int), .path⟩,
      .parameter ⟨"name", .scalar .text, .path⟩, .foldingCase true, .serving .get]

/-- The route of `release`. -/
def releaseRoute : Route where
  handler := "releases.file"
  verb := .get
  template := .ofTokens true "/{name}-V{version}/{tags}".toList
    [.literal ['/'], .placeholder "name", .literal "-V".toList, .placeholder "version", .literal ['/'],
      .placeholder "tags"]
  pathParameters := [⟨"tags", .sequence (.scalar .text), .path⟩, ⟨"version", .scalar (.integer .int), .path⟩,
    ⟨"name", .scalar .text, .path⟩]
  bodyParameter := none

/-- Two tags, one of them with both separators in it, a version and a name. -/
def releaseValues : List Value :=
  [.list [.scalar (.text "a/b;c"), .scalar (.text "ü")], .scalar (.integer .int ⟨-7, by decide⟩),
    .scalar (.text "re-edit")]

/-- The tags come back from their percent signs, and the name ends at the literal behind it. -/
theorem extract_buildUri_release :
    release.build.run.value = .ok releaseRoute ∧
    releaseRoute.buildUri releaseValues = .ok "/re-edit-V-7/a%2Fb%3Bc;%C3%BC" ∧
    Separated true (releaseRoute.written releaseValues) releaseRoute.template.tokens ∧
    releaseRoute.isMatch "/re-edit-V-7/a%2Fb%3Bc;%C3%BC" = true ∧
    (releaseRoute.extract "/re-edit-V-7/a%2Fb%3Bc;%C3%BC").run = ⟨.ok releaseValues, []⟩ := by
  have h : release.build.run.value = .ok releaseRoute := by decide
  have hb : releaseRoute.buildUri releaseValues = .ok "/re-edit-V-7/a%2Fb%3Bc;%C3%BC" := by decide +kernel
  have hs : Separated true (releaseRoute.written releaseValues) releaseRoute.template.tokens := by decide +kernel
  obtain ⟨hmatch, he, -⟩ := extract_buildUri h (by decide) (by decide) (by decide) hb hs
  exact ⟨h, hb, hs, hmatch, he⟩

/-- What is extracted from a URI can be written again. With one placeholder in a segment at most, the URI that is
written gives the same values, a decimal zero without a sign; if there is no such sign, it is written once more for
them, and if there is one, the URI that is written without it from then on. -/
theorem buildUri_extract {d : Declaration} {r : Route} {uri : String} {vs : List Value}
    (h : d.build.run.value = .ok r) (he : (r.extract uri).run.value = .ok vs) :
    ∃ w, r.buildUri vs = .ok w ∧
      (onePerSegment r.template.tokens = true →
        (r.extract w).run = ⟨.ok (Value.allSettled vs), []⟩ ∧ Value.allAlike vs (Value.allSettled vs) = true ∧
        ∃ w', r.buildUri (Value.allSettled vs) = .ok w' ∧ (r.extract w').run = ⟨.ok (Value.allSettled vs), []⟩ ∧
          (Value.anyHolds Scalar.isSignedZero vs = false → Value.allSettled vs = vs ∧ w' = w)) := by
  have hr := Declaration.wellFormed_of_build h
  obtain ⟨hp, hvs⟩ := hr.encode_extracted he
  obtain ⟨w, hw⟩ := hr.buildUri_ok hvs
  refine ⟨w, hw, fun hone => ?_⟩
  have hread := (hr.extract_written hp hw (separated_of_onePerSegment hone)).2
  have he' : (r.extract w).run.value = .ok (Value.allSettled vs) := by rw [hread]
  obtain ⟨-, hvs'⟩ := hr.encode_extracted he'
  obtain ⟨w', hw'⟩ := hr.buildUri_ok hvs'
  have hread' := (hr.extract_written hp hw' (separated_of_onePerSegment hone)).2
  rw [Value.allSettled_allSettled] at hread'
  refine ⟨hread, Value.allAlike_allSettled vs, w', hw', hread', fun hz => ?_⟩
  have hself := Value.allSettled_eq_self hz
  rw [hself, hw] at hw'
  cases hw'
  exact ⟨hself, rfl⟩

/-- A price by its amount. -/
def price : Declaration :=
  .ofSteps "prices.at" "/prices/{amount}" [.parameter ⟨"amount", .scalar .decimal, .path⟩, .serving .get]

/-- The route of `price`. -/
def priceRoute : Route where
  handler := "prices.at"
  verb := .get
  template := .ofTokens false "/prices/{amount}".toList [.literal "/prices/".toList, .placeholder "amount"]
  pathParameters := [⟨"amount", .scalar .decimal, .path⟩]
  bodyParameter := none

/-- The amount of 10.50. -/
def tenFifty : Value :=
  .scalar (.decimal ⟨⟨1050, 2, by decide, by decide⟩, false⟩)

/-- Zero to some places, with a sign or without. -/
def zeroAmount (places : Fin 29) (negative : Bool) : Value :=
  .scalar (.decimal ⟨{ Number.Magnitude.zero with scale := places, scale_le := places.is_le }, negative⟩)

/-- A sign and an underscore are written no more. -/
theorem buildUri_extract_price :
    price.build.run.value = .ok priceRoute ∧
    (priceRoute.extract "/prices/+1_0.50").run.value = .ok [tenFifty] ∧
    onePerSegment priceRoute.template.tokens = true ∧
    priceRoute.buildUri [tenFifty] = .ok "/prices/10.50" ∧
    (priceRoute.extract "/prices/10.50").run = ⟨.ok (Value.allSettled [tenFifty]), []⟩ := by
  have h : price.build.run.value = .ok priceRoute := by decide
  have he : (priceRoute.extract "/prices/+1_0.50").run.value = .ok [tenFifty] := by rfl
  have hb : priceRoute.buildUri [tenFifty] = .ok "/prices/10.50" := by decide +kernel
  have hone : onePerSegment priceRoute.template.tokens = true := by decide
  obtain ⟨w, hw, hagain⟩ := buildUri_extract h he
  rw [hb] at hw
  cases hw
  exact ⟨h, he, hone, hb, (hagain hone).1⟩

/-- A number that is rounded to zero keeps its sign and is written with it, but the sign is not read again: the URI
that is written for what is extracted from the written one is another. -/
theorem rebuilt_uri_differs :
    price.build.run.value = .ok priceRoute ∧ onePerSegment priceRoute.template.tokens = true ∧
    (priceRoute.extract "/prices/-0.4e-28").run.value = .ok [zeroAmount 28 true] ∧
    priceRoute.buildUri [zeroAmount 28 true] = .ok "/prices/-0.0000000000000000000000000000" ∧
    (priceRoute.extract "/prices/-0.0000000000000000000000000000").run.value = .ok [zeroAmount 28 false] ∧
    priceRoute.buildUri [zeroAmount 28 false] ≠ .ok "/prices/-0.0000000000000000000000000000" := by
  refine ⟨by decide, by decide, by rfl, by decide +kernel, by rfl, by decide +kernel⟩

end Route

end TypedRoutes
