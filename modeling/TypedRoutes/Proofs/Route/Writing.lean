import TypedRoutes.Proofs.Route.Built
import TypedRoutes.Proofs.Template.Generation
import TypedRoutes.Proofs.Value.Writing
/-!
# When a URI can be written

Values are written one by one, in the order in which their parameters are declared. A value is `Writable` for its
parameter or has a `WriteDefect`, and the first one with a defect decides (`encodeAll_eq_error_iff`). On a built route
every placeholder has a parameter, so nothing can fail behind the values: `Route.buildUri_first_defect` says which error
there is for which values, and which URI if there is none.
-/
namespace TypedRoutes.Route

/-! ## One value -/

/-- A value that can be written for a parameter. -/
structure Writable (p : Parameter) (v : Value) : Prop where
  conforms : v.conformsTo p.type = true
  placeable : v.Placeable

instance (p : Parameter) (v : Value) : Decidable (Writable p v) :=
  decidable_of_iff (v.conformsTo p.type = true ∧ v.Placeable) ⟨fun h => ⟨h.1, h.2⟩, fun h => ⟨h.conforms, h.placeable⟩⟩

/-- What is wrong with a value that is to be written for a parameter. -/
inductive WriteDefect (p : Parameter) (v : Value) : BindError → Prop
  | type (ht : v.conformsTo p.type = false) : WriteDefect p v (.valueType p.name p.type v.kind)
  | value {fault : WriteFault} (ht : v.conformsTo p.type = true) (hf : v.Unplaceable fault) :
      WriteDefect p v (.unrepresentable p.name fault)

theorem encode_of_conforms {p : Parameter} {v : Value} (h : v.conformsTo p.type = true) :
    encode p v = v.encode.mapError (.unrepresentable p.name) :=
  if_pos h

theorem encode_eq_ok_iff {p : Parameter} {v : Value} {cs : List Char} :
    encode p v = .ok cs ↔ Writable p v ∧ cs = v.placed := by
  cases ht : v.conformsTo p.type with
  | false =>
    unfold encode
    rw [ht]
    constructor
    · intro h
      cases h
    · rintro ⟨h, -⟩
      rw [h.conforms] at ht
      cases ht
  | true =>
    rw [encode_of_conforms ht]
    constructor
    · intro h
      obtain ⟨hp, hcs⟩ := Value.encode_eq_ok_iff.1 (except_mapError_ok h)
      exact ⟨⟨ht, hp⟩, hcs⟩
    · rintro ⟨h, hcs⟩
      rw [Value.encode_eq_ok_iff.2 ⟨h.placeable, hcs⟩]
      rfl

theorem encode_eq_error_iff {p : Parameter} {v : Value} {e : BindError} :
    encode p v = .error e ↔ WriteDefect p v e := by
  cases ht : v.conformsTo p.type with
  | false =>
    unfold encode
    rw [ht]
    constructor
    · intro h
      cases h
      exact .type ht
    · rintro (_ | ⟨hc, _⟩)
      · rfl
      · rw [ht] at hc
        cases hc
  | true =>
    rw [encode_of_conforms ht, except_mapError_error]
    constructor
    · rintro ⟨fault, hf, rfl⟩
      exact .value ht (Value.encode_eq_error_iff.1 hf)
    · rintro (hn | ⟨_, hf⟩)
      · rw [ht] at hn
        cases hn
      · exact ⟨_, Value.encode_eq_error_iff.2 hf, rfl⟩

/-! ## All values -/

section Pairs
variable {ps : List Parameter} {vs : List Value}

/-- The text of a value with the name of its parameter. -/
def namedText (pair : Parameter × Value) : String × List Char :=
  (pair.1.name, pair.2.placed)

theorem encodeAll_eq_mapM (ps : List Parameter) (vs : List Value) :
    encodeAll ps vs = (ps.zip vs).mapM fun pair => (encode pair.1 pair.2).map (pair.1.name, ·) := by
  induction ps generalizing vs with
  | nil => simp [encodeAll, pure, Except.pure]
  | cons p ps ih =>
    cases vs with
    | nil => simp [encodeAll, pure, Except.pure]
    | cons v vs =>
      rw [encodeAll, ih, List.zip_cons_cons, List.mapM_cons]
      cases encode p v with
      | error e => rfl
      | ok text => rfl

theorem encode_named_ok_iff {pair : Parameter × Value} {named : String × List Char} :
    (encode pair.1 pair.2).map (pair.1.name, ·) = .ok named ↔ Writable pair.1 pair.2 ∧ namedText pair = named := by
  constructor
  · intro h
    obtain ⟨cs, hcs, rfl⟩ := except_map_ok h
    obtain ⟨hw, rfl⟩ := encode_eq_ok_iff.1 hcs
    exact ⟨hw, rfl⟩
  · rintro ⟨hw, rfl⟩
    rw [encode_eq_ok_iff.2 ⟨hw, rfl⟩]
    rfl

theorem encode_named_error_iff {pair : Parameter × Value} {e : BindError} :
    (encode pair.1 pair.2).map (pair.1.name, ·) = .error e ↔ WriteDefect pair.1 pair.2 e := by
  rw [except_map_error, encode_eq_error_iff]

/-- All values are written if each of them can be. -/
theorem encodeAll_eq_ok_iff {texts : Captures} : encodeAll ps vs = .ok texts ↔
    (∀ pair ∈ ps.zip vs, Writable pair.1 pair.2) ∧ (ps.zip vs).map namedText = texts := by
  rw [encodeAll_eq_mapM, mapM_eq_ok_iff]
  simp only [encode_named_ok_iff]
  rw [List.forall₂_and_left, ← List.forall₂_map_left_iff (R := Eq), List.forall₂_eq_eq_eq]

/-- The first value that cannot be written decides what is wrong. -/
theorem encodeAll_eq_error_iff {e : BindError} : encodeAll ps vs = .error e ↔ ∃ before p v after,
    ps.zip vs = before ++ (p, v) :: after ∧ (∀ pair ∈ before, Writable pair.1 pair.2) ∧ WriteDefect p v e := by
  rw [encodeAll_eq_mapM, mapM_eq_error_iff]
  simp only [encode_named_ok_iff, encode_named_error_iff, exists_and_left, exists_eq', and_true]
  simp only [Prod.exists]

end Pairs

/-! ## The URI that is written -/

theorem buildUri_of_length_ne {r : Route} {vs : List Value} (h : r.pathParameters.length ≠ vs.length) :
    r.buildUri vs = .error (.valueCount r.pathParameters.length vs.length) :=
  if_neg h

theorem length_of_buildUri {r : Route} {vs : List Value} {u : String} (h : r.buildUri vs = .ok u) :
    r.pathParameters.length = vs.length := by
  by_contra hl
  rw [buildUri_of_length_ne hl] at h
  cases h

namespace WellFormed
variable {r : Route} {vs : List Value} {u : String}

theorem fill?_eq (h : r.WellFormed) {texts : Captures} (hk : texts.map Prod.fst = r.pathParameters.map (·.name)) :
    r.template.fill? texts = some (substitute (assignmentOf texts) r.template.tokens) := by
  refine fillTokens_eq_substitute fun name hm => ?_
  obtain ⟨p, hp, rfl⟩ := h.covered name hm
  rw [hk]
  exact List.mem_map_of_mem hp

section Length
variable (hl : r.pathParameters.length = vs.length)
include hl

theorem map_fst_pairs : (r.pathParameters.zip vs).map Prod.fst = r.pathParameters :=
  List.map_fst_zip (Nat.le_of_eq hl)

/-- The names of the texts are those of the parameters, in order. -/
theorem map_fst_namedText :
    ((r.pathParameters.zip vs).map namedText).map Prod.fst = r.pathParameters.map (·.name) := by
  conv_rhs => rw [← map_fst_pairs hl]
  simp [namedText]

/-- Every placeholder has a parameter with a value. -/
theorem exists_pair (h : r.WellFormed) {name : String} (hm : name ∈ r.template.placeholders) :
    ∃ pair ∈ r.pathParameters.zip vs, pair.1.name = name := by
  obtain ⟨p, hp, rfl⟩ := h.covered name hm
  rw [← map_fst_pairs hl] at hp
  obtain ⟨pair, hpair, rfl⟩ := List.mem_map.1 hp
  exact ⟨pair, hpair, rfl⟩

/-- The text of a value is found by the name of its parameter. -/
theorem assignmentOf_namedText (h : r.WellFormed) {pair : Parameter × Value} (hm : pair ∈ r.pathParameters.zip vs) :
    assignmentOf ((r.pathParameters.zip vs).map namedText) pair.1.name = pair.2.placed := by
  have hn : (((r.pathParameters.zip vs).map namedText).map Prod.fst).Nodup := by
    rw [map_fst_namedText hl]
    exact h.names_nodup
  have hlook := lookup_of_mem hn (List.mem_map_of_mem hm : namedText pair ∈ _)
  simp [assignmentOf, hlook]

/-- With a value for each parameter, only a value can be at fault: the placeholders are filled with the texts. -/
theorem buildUri_of_length (h : r.WellFormed) :
    r.buildUri vs = (encodeAll r.pathParameters vs).map fun texts =>
      String.ofList (substitute (assignmentOf texts) r.template.tokens) := by
  unfold buildUri
  rw [if_pos hl]
  cases he : encodeAll r.pathParameters vs with
  | error e => rfl
  | ok texts =>
    obtain ⟨-, rfl⟩ := encodeAll_eq_ok_iff.1 he
    simp only [Bind.bind, Except.bind, h.fill?_eq (map_fst_namedText hl), Except.map]

theorem buildUri_eq_error_iff (h : r.WellFormed) {e : BindError} : r.buildUri vs = .error e ↔ ∃ before p v after,
    r.pathParameters.zip vs = before ++ (p, v) :: after ∧ (∀ pair ∈ before, Writable pair.1 pair.2) ∧
      WriteDefect p v e := by
  rw [h.buildUri_of_length hl, except_map_error, encodeAll_eq_error_iff]

/-- A URI is the template with the text of each value for the placeholder of its parameter. Every placeholder has a
parameter, so there is one text only for it. -/
theorem buildUri_eq_ok_iff (h : r.WellFormed) : r.buildUri vs = .ok u ↔
    (∀ pair ∈ r.pathParameters.zip vs, Writable pair.1 pair.2) ∧
      ∃ σ : Assignment, (∀ pair ∈ r.pathParameters.zip vs, σ pair.1.name = pair.2.placed) ∧
        u = String.ofList (substitute σ r.template.tokens) := by
  rw [h.buildUri_of_length hl]
  constructor
  · intro hu
    obtain ⟨texts, ht, rfl⟩ := except_map_ok hu
    obtain ⟨hw, rfl⟩ := encodeAll_eq_ok_iff.1 ht
    exact ⟨hw, _, fun pair hm => h.assignmentOf_namedText hl hm, rfl⟩
  · rintro ⟨hw, σ, hσ, rfl⟩
    rw [encodeAll_eq_ok_iff.2 ⟨hw, rfl⟩]
    have hsame : substitute (assignmentOf ((r.pathParameters.zip vs).map namedText)) r.template.tokens =
        substitute σ r.template.tokens := by
      apply substitute_congr
      intro name hm
      obtain ⟨pair, hpair, rfl⟩ := h.exists_pair hl hm
      rw [h.assignmentOf_namedText hl hpair, hσ pair hpair]
    simp [Except.map, hsame]

end Length

end WellFormed

/-- Without a value for each parameter the numbers of both are reported. Otherwise the first value that cannot be
written is, with its parameter and what is wrong with it; and if there is none, the URI is the template with the text of
each value in the placeholder of its parameter, which always is there. -/
theorem buildUri_first_defect {d : Declaration} {r : Route} (h : d.build.run.value = .ok r) (vs : List Value) :
    (∀ expected actual, r.buildUri vs = .error (.valueCount expected actual) ↔
      r.pathParameters.length ≠ vs.length ∧ expected = r.pathParameters.length ∧ actual = vs.length) ∧
    (r.pathParameters.length = vs.length →
      (∀ e, r.buildUri vs = .error e ↔ ∃ before p v after, r.pathParameters.zip vs = before ++ (p, v) :: after ∧
        (∀ pair ∈ before, Writable pair.1 pair.2) ∧ WriteDefect p v e) ∧
      ∀ u, r.buildUri vs = .ok u ↔ (∀ pair ∈ r.pathParameters.zip vs, Writable pair.1 pair.2) ∧
        ∃ σ : Assignment, (∀ pair ∈ r.pathParameters.zip vs, σ pair.1.name = pair.2.placed) ∧
          u = String.ofList (substitute σ r.template.tokens)) ∧
    ∀ template, r.buildUri vs ≠ .error (.unfilledPlaceholder template) := by
  have hr := Declaration.wellFormed_of_build h
  by_cases hl : r.pathParameters.length = vs.length
  · refine ⟨?_, fun _ => ⟨fun e => hr.buildUri_eq_error_iff hl, fun u => hr.buildUri_eq_ok_iff hl⟩, ?_⟩
    · intro expected actual
      rw [hr.buildUri_eq_error_iff hl]
      constructor
      · rintro ⟨_, _, _, _, _, _, hd⟩
        cases hd
      · rintro ⟨hne, -⟩
        exact absurd hl hne
    · intro template he
      obtain ⟨_, _, _, _, _, _, hd⟩ := (hr.buildUri_eq_error_iff hl).1 he
      cases hd
  · rw [buildUri_of_length_ne hl]
    refine ⟨?_, fun h => absurd h hl, ?_⟩
    · intro expected actual
      simp [hl, eq_comm]
    · intro template he
      cases he

/-- Books on a shelf by their codes, which are declared before the shelf. -/
def shelf : Declaration :=
  .ofSteps "shelves.books" "/shelves/{row}/{codes}"
    [.parameter ⟨"codes", .sequence (.scalar .char), .path⟩, .parameter ⟨"row", .scalar .text, .path⟩, .serving .get]

/-- The route of `shelf`. -/
def shelfRoute : Route where
  handler := "shelves.books"
  verb := .get
  template := .ofTokens false "/shelves/{row}/{codes}".toList
    [.literal "/shelves/".toList, .placeholder "row", .literal ['/'], .placeholder "codes"]
  pathParameters := [⟨"codes", .sequence (.scalar .char), .path⟩, ⟨"row", .scalar .text, .path⟩]
  bodyParameter := none

/-- The codes of books, and their shelf. -/
def shelfValues (codes : List Char) (row : String) : List Value :=
  [.list (codes.map fun c => .scalar (.char c)), .scalar (.text row)]

/-- Of a code that is a separator and a shelf without a name the code is reported, since it is declared first; no values
at all are too few; and codes on a shelf with a name have a URI. -/
theorem buildUri_first_defect_shelf :
    shelf.build.run.value = .ok shelfRoute ∧
    shelfRoute.buildUri (shelfValues ['a', ';'] "") = .error (.unrepresentable "codes" .separator) ∧
    shelfRoute.buildUri [] = .error (.valueCount 2 0) ∧
    shelfRoute.buildUri (shelfValues ['a', 'é'] "top") = .ok "/shelves/top/a;é" := by
  have h : shelf.build.run.value = .ok shelfRoute := by decide
  refine ⟨h, ?_, ?_, ?_⟩
  · refine (((buildUri_first_defect h _).2.1 rfl).1 _).2 ⟨[], _, _, _, rfl, by simp, .value rfl (.separator ?_)⟩
    decide
  · exact ((buildUri_first_defect h []).1 2 0).2 ⟨by decide, rfl, rfl⟩
  · exact (((buildUri_first_defect h _).2.1 rfl).2 _).2
      ⟨by decide, fun name => if name = "row" then "top".toList else "a;é".toList, by decide, rfl⟩

end TypedRoutes.Route
