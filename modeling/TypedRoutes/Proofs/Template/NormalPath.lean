import TypedRoutes.Proofs.Template.Reachability
/-!
# Paths in normal form

The path of a URI is in normal form: it begins with a slash, ends in none unless it is the root, and holds no mark of a
query or a fragment (`normalPath_normalizePath`). A path in normal form is its own path (`NormalPath.eq_self`), so to
take the path of a path changes nothing. Nor does the path depend on what stands around it in the URI: neither on a
query or a fragment (`normalizePath_query`) nor on a scheme and an authority (`normalizePath_authority`).
-/
namespace TypedRoutes
open Text

/-- A path that begins with a slash, ends in none unless it is the root, and holds no mark of a query or a
fragment. -/
structure NormalPath (path : List Char) : Prop where
  head : path.head? = some '/'
  last : path.getLast? = some '/' → path = ['/']
  no_query : '?' ∉ path
  no_fragment : '#' ∉ path

theorem NormalPath.endsPath_eq_false {path : List Char} (h : NormalPath path) {c : Char} (hc : c ∈ path) :
    endsPath c = false :=
  endsPath_eq_false_iff.2 ⟨fun he => h.no_query (he ▸ hc), fun he => h.no_fragment (he ▸ hc)⟩

/-- A path in normal form is the path of itself. -/
theorem NormalPath.eq_self {path : List Char} (h : NormalPath path) : normalizePath path = path :=
  normalizePath_eq_self h.head h.last fun _ => h.endsPath_eq_false

/-! ## The path of a URI -/

theorem head?_rooted (cs : List Char) : (rooted cs).head? = some '/' := by
  unfold rooted
  split <;> rfl

/-- Only the root ends in a slash that was put in front. -/
theorem getLast?_rooted {cs : List Char} (hcs : cs.getLast? ≠ some '/') (h : (rooted cs).getLast? = some '/') :
    rooted cs = ['/'] := by
  unfold rooted at h ⊢
  split at h
  · exact absurd h hcs
  · cases cs with
    | nil => rfl
    | cons c cs =>
      rw [List.getLast?_cons_cons] at h
      exact absurd h hcs

theorem normalPath_normalizePath (uri : List Char) : NormalPath (normalizePath uri) where
  head := head?_rooted _
  last := getLast?_rooted fun h => Bool.noConfusion (getLast?_trimEnd h : isSlash '/' = false)
  no_query h := Bool.noConfusion (endsPath_of_mem_normalizePath h : endsPath '?' = false)
  no_fragment h := Bool.noConfusion (endsPath_of_mem_normalizePath h : endsPath '#' = false)

theorem normalizePath_normalizePath (uri : List Char) : normalizePath (normalizePath uri) = normalizePath uri :=
  (normalPath_normalizePath uri).eq_self

/-! ## What stands behind the path -/

theorem beforeQuery_query (uri : List Char) {c : Char} (hc : endsPath c = true) (suffix : List Char) :
    beforeQuery (uri ++ c :: suffix) = beforeQuery uri := by
  induction uri with
  | nil => simp [beforeQuery, hc]
  | cons d uri ih =>
    rw [beforeQuery, beforeQuery, List.cons_append, List.takeWhile_cons, List.takeWhile_cons]
    split
    · exact congrArg (d :: ·) ih
    · rfl

theorem normalizePath_query (uri : List Char) {c : Char} (hc : endsPath c = true) (suffix : List Char) :
    normalizePath (uri ++ c :: suffix) = normalizePath uri := by
  rw [normalizePath, beforeQuery_query uri hc, normalizePath]

/-! ## What stands in front of the path -/

/-- A text is cut at a mark behind characters that are none. -/
theorem beforeQuery_append {front : List Char} (h : ∀ c ∈ front, endsPath c = false) (rest : List Char) :
    beforeQuery (front ++ rest) = front ++ beforeQuery rest :=
  List.takeWhile_append_of_pos fun c hc => by rw [h c hc]; rfl

/-- Whatever colons the scheme has, the first `://` is the one that ends it: the second character of that word is a
slash, and none follows a colon of the scheme. -/
theorem afterScheme?_append {scheme : List Char} (h : '/' ∉ scheme) (rest : List Char) :
    afterScheme? (scheme ++ "://".toList ++ rest) = some rest := by
  induction scheme with
  | nil => rfl
  | cons c scheme ih =>
    rw [List.mem_cons, not_or] at h
    have hslash : isSlash c = false := beq_eq_false_iff_ne.2 (Ne.symm h.1)
    have hword : afterWord? "://".toList (c :: (scheme ++ "://".toList ++ rest)) = none := by
      cases scheme with
      | nil => by_cases hc : ':' = c <;> simp [afterWord?, hc]
      | cons d scheme =>
        have hd : '/' ≠ d := fun he => h.2 (he ▸ List.mem_cons_self)
        by_cases hc : ':' = c <;> simp [afterWord?, hc, hd]
    rw [List.cons_append, List.cons_append, afterScheme?, hslash, if_neg (by simp), hword]
    exact ih h.2

/-- A text that is empty or begins with a slash has no authority to lose. -/
theorem withoutAuthority_eq_self {path : List Char} (h : ∀ c ∈ path.head?, c = '/') : withoutAuthority path = path := by
  cases path with
  | nil => rfl
  | cons c path =>
    obtain rfl : c = '/' := h c rfl
    rfl

/-- The path begins at the first slash behind the authority. -/
theorem withoutAuthority_append {scheme authority path : List Char} (hs : '/' ∉ scheme) (ha : '/' ∉ authority)
    (h : ∀ c ∈ path.head?, c = '/') :
    withoutAuthority (scheme ++ "://".toList ++ (authority ++ path)) = path := by
  have hdrop : authority.dropWhile (! isSlash ·) = [] := by
    rw [List.dropWhile_eq_nil_iff]
    intro c hc
    have : c ≠ '/' := fun he => ha (he ▸ hc)
    simpa [isSlash] using this
  simp only [withoutAuthority, afterScheme?_append hs, List.dropWhile_append, hdrop, List.isEmpty_nil, if_true]
  cases path with
  | nil => rfl
  | cons c path =>
    obtain rfl : c = '/' := h c rfl
    rfl

/-- What follows an authority is empty when it is cut, or begins with a slash. -/
theorem head?_beforeQuery {rest : List Char} (h : ∀ c ∈ rest.head?, c = '/' ∨ endsPath c = true) :
    ∀ c ∈ (beforeQuery rest).head?, c = '/' := by
  cases rest with
  | nil => simp [beforeQuery]
  | cons d rest =>
    intro c hc
    rw [beforeQuery, List.takeWhile_cons] at hc
    split at hc
    · rename_i hd
      obtain rfl : d = c := by simpa using hc
      rcases h d rfl with he | he
      · exact he
      · simp [he] at hd
    · cases hc

theorem normalizePath_authority {scheme authority rest : List Char}
    (h : ∀ c ∈ scheme ++ authority, c ≠ '/' ∧ endsPath c = false)
    (hr : ∀ c ∈ rest.head?, c = '/' ∨ endsPath c = true) :
    normalizePath (scheme ++ "://".toList ++ authority ++ rest) = normalizePath rest := by
  rw [List.forall_mem_append] at h
  have hfront : ∀ c ∈ scheme ++ "://".toList ++ authority, endsPath c = false := by
    simp only [List.forall_mem_append]
    exact ⟨⟨fun c hc => (h.1 c hc).2, by simp [endsPath]⟩, fun c hc => (h.2 c hc).2⟩
  have hhead := head?_beforeQuery hr
  rw [normalizePath, normalizePath, beforeQuery_append hfront, List.append_assoc,
    withoutAuthority_append (fun hm => (h.1 _ hm).1 rfl) (fun hm => (h.2 _ hm).1 rfl) hhead,
    withoutAuthority_eq_self hhead]

end TypedRoutes
