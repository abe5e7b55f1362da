import TypedRoutes.Proofs.Route.Extraction
import TypedRoutes.Proofs.Template.NormalPath
/-!
# Routes see the path alone

A route tells a URI by its path, so it matches the one where it matches the other and takes the same values from both.
Only where there is no match does the error name the URI itself (`BindError.naming`). What the path is and what it does
not depend on is said together with it in `Route.normalizePath_canonical`.
-/
namespace TypedRoutes

/-- The same error for another URI: it is named where there is no match. -/
def BindError.naming (uri : String) : BindError → BindError
  | noMatch _ template => .noMatch uri template
  | e => e

namespace Route

/-- The URI that the captured texts are from shows in an error at most. -/
theorem bindAll_naming (r : Route) (uri other : String) (captures : Captures) (ps : List Parameter) :
    (r.bindAll other captures ps).run =
      ⟨(r.bindAll uri captures ps).run.value.mapError (.naming other), (r.bindAll uri captures ps).run.events⟩ := by
  induction ps with
  | nil => rfl
  | cons p ps ih =>
    cases hr : captures.lookup p.name with
    | none =>
      simp only [bindAll, hr]
      rfl
    | some raw =>
      cases hv : Value.read p.type raw with
      | error reason =>
        rw [bindAll_error_cons hr hv, bindAll_error_cons hr hv]
        rfl
      | ok v =>
        rw [bindAll_ok_cons hr hv, bindAll_ok_cons hr hv, ih]
        cases (r.bindAll uri captures ps).run.value <;> rfl

/-- Extraction depends on the path of a URI, but for the URI that is named where there is no match. -/
theorem extract_naming (r : Route) {uri other : String}
    (h : normalizePath other.toList = normalizePath uri.toList) :
    (r.extract other).run = ⟨(r.extract uri).run.value.mapError (.naming other), (r.extract uri).run.events⟩ := by
  have hc : r.template.captures? other.toList = r.template.captures? uri.toList := by
    rw [Template.captures?, Template.captures?, h]
  cases hu : r.template.captures? uri.toList with
  | none =>
    rw [extract_mismatch hu, extract_mismatch (hc.trans hu)]
    rfl
  | some captures =>
    rw [extract_of_captures? hu, extract_of_captures? (hc.trans hu)]
    exact bindAll_naming r uri other captures r.pathParameters

/-- The path of a URI is in normal form and is its own path. Neither a query or a fragment behind it nor a scheme and an
authority in front of it change it, and every route answers for the path as it does for the URI. -/
theorem normalizePath_canonical (uri : List Char) :
    ((normalizePath uri).head? = some '/' ∧ '?' ∉ normalizePath uri ∧ '#' ∉ normalizePath uri ∧
      ((normalizePath uri).getLast? = some '/' → normalizePath uri = ['/']) ∧
      normalizePath (normalizePath uri) = normalizePath uri) ∧
    (∀ suffix, suffix.head? = some '?' ∨ suffix.head? = some '#' → normalizePath (uri ++ suffix) = normalizePath uri) ∧
    (∀ scheme authority rest, (∀ c ∈ scheme ++ authority, c ≠ '/' ∧ c ≠ '?' ∧ c ≠ '#') →
      (∀ c ∈ rest.head?, c = '/' ∨ c = '?' ∨ c = '#') →
      normalizePath (scheme ++ "://".toList ++ authority ++ rest) = normalizePath rest) ∧
    ∀ r : Route, r.isMatch (String.ofList (normalizePath uri)) = r.isMatch (String.ofList uri) ∧
      (r.extract (String.ofList (normalizePath uri))).run =
        ⟨(r.extract (String.ofList uri)).run.value.mapError (.naming (String.ofList (normalizePath uri))),
          (r.extract (String.ofList uri)).run.events⟩ := by
  have hn := normalPath_normalizePath uri
  refine ⟨⟨hn.head, hn.no_query, hn.no_fragment, hn.last, hn.eq_self⟩, fun suffix hs => ?_,
    fun scheme authority rest hfree hr => ?_, fun r => ⟨?_, r.extract_naming ?_⟩⟩
  · cases suffix with
    | nil => simp at hs
    | cons c suffix =>
      have hc : endsPath c = true := by simpa [endsPath] using hs
      exact normalizePath_query uri hc suffix
  · refine normalizePath_authority (fun c hc => ?_) fun c hc => ?_
    · exact ⟨(hfree c hc).1, endsPath_eq_false_iff.2 (hfree c hc).2⟩
    · simpa [endsPath] using hr c hc
  · rw [isMatch, isMatch, Template.isMatch, Template.isMatch, String.toList_ofList, String.toList_ofList,
      normalizePath_normalizePath]
  · rw [String.toList_ofList, String.toList_ofList, normalizePath_normalizePath]

/-- A second address in the query is not looked at, and a colon more does not hide the authority. -/
theorem normalizePath_canonical_addresses :
    "?next=http://other/x".toList.head? = some '?' ∧
    normalizePath ("users/1/".toList ++ "?next=http://other/x".toList) = normalizePath "users/1/".toList ∧
    (∀ c ∈ "web:".toList ++ "host:80".toList, c ≠ '/' ∧ c ≠ '?' ∧ c ≠ '#') ∧
    (∀ c ∈ "/users/1#top".toList.head?, c = '/' ∨ c = '?' ∨ c = '#') ∧
    normalizePath ("web:".toList ++ "://".toList ++ "host:80".toList ++ "/users/1#top".toList) =
      normalizePath "/users/1#top".toList := by
  obtain ⟨-, hquery, hauthority, -⟩ := normalizePath_canonical "users/1/".toList
  have hfree : ∀ c ∈ "web:".toList ++ "host:80".toList, c ≠ '/' ∧ c ≠ '?' ∧ c ≠ '#' := by simp
  have hhead : ∀ c ∈ "/users/1#top".toList.head?, c = '/' ∨ c = '?' ∨ c = '#' := by simp
  exact ⟨rfl, hquery _ (.inl rfl), hfree, hhead, hauthority _ _ _ hfree hhead⟩

end Route

end TypedRoutes
