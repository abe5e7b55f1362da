import TypedRoutes.Value.Binding
import TypedRoutes.Proofs.Result
/-!
# Values have the type they are read at

`Value.read_conformsTo`: whatever text is read at a type, the value conforms to the type.
-/
namespace TypedRoutes
open Text

/-! ## The type of what is read -/

theorem Scalar.read_type {type : ScalarType} {cs : List Char} {s : Scalar} (h : read type cs = .ok s) :
    s.type = type := by
  cases type with
  | text => cases h; rfl
  | dateTime =>
    rw [read] at h
    split at h
    · cases h; rfl
    · cases h
  | _ =>
    obtain ⟨x, -, rfl⟩ := except_map_ok h
    rfl

namespace Value

theorem readElement_scalar {type : ScalarType} {cs : List Char} {v : Value} (h : readElement type cs = .ok v) :
    ∃ s, v = .scalar s ∧ s.type = type := by
  cases type with
  | text =>
    rw [readElement] at h
    split at h
    · cases h; exact ⟨_, rfl, rfl⟩
    · cases h
  | _ =>
    obtain ⟨s, hs, rfl⟩ := except_map_ok h
    exact ⟨s, rfl, Scalar.read_type (except_mapError_ok hs)⟩

theorem readElements_cons {type : ScalarType} {piece : List Char} {pieces : List (List Char)} {vs : List Value}
    (h : readElements type (piece :: pieces) = .ok vs) :
    ∃ v more, vs = v :: more ∧ readElement type piece = .ok v ∧ readElements type pieces = .ok more := by
  rw [readElements] at h
  obtain ⟨v, hv, h⟩ := except_bind_ok h
  obtain ⟨more, hm, h⟩ := except_bind_ok h
  cases h
  exact ⟨v, more, rfl, hv, hm⟩

theorem readElements_conform {type : ScalarType} {pieces : List (List Char)} {vs : List Value}
    (h : readElements type pieces = .ok vs) : allConformTo vs (.scalar type) = true := by
  induction pieces generalizing vs with
  | nil => cases h; rfl
  | cons piece pieces ih =>
    obtain ⟨v, more, rfl, hv, hm⟩ := readElements_cons h
    obtain ⟨s, rfl, rfl⟩ := readElement_scalar hv
    simp [allConformTo, conformsTo, ih hm]

/-- What the element type of a sequence says of the sequence. -/
theorem sequence_of_element? {t : ParamType} {type : ScalarType} (h : t.element? = some type) :
    t = .sequence (.scalar type) := by
  cases t with
  | sequence u =>
    cases u with
    | scalar s => cases h; rfl
    | sequence _ => cases h
    | custom _ => cases h
  | scalar _ => cases h
  | custom _ => cases h

/-- The two ways to read a text: as a scalar, or as the elements of a sequence. -/
theorem read_cases {type : ParamType} {cs : List Char} {v : Value} (h : read type cs = .ok v) :
    (∃ t s, type = .scalar t ∧ v = .scalar s ∧ Scalar.read t cs = .ok s) ∨
    (∃ t vs, type = .sequence (.scalar t) ∧ v = .list vs ∧ readElements t (split separator cs) = .ok vs) := by
  unfold read at h
  split at h
  · obtain ⟨s, hs, rfl⟩ := except_map_ok h
    exact .inl ⟨_, s, rfl, rfl, except_mapError_ok hs⟩
  · rename_i he
    obtain ⟨vs, hs, rfl⟩ := except_map_ok h
    exact .inr ⟨_, vs, sequence_of_element? he, rfl, hs⟩
  · cases h

/-- A value that is read at a type conforms to it. -/
theorem read_conformsTo {type : ParamType} {cs : List Char} {v : Value} (h : read type cs = .ok v) :
    v.conformsTo type = true := by
  rcases read_cases h with ⟨t, s, rfl, rfl, hs⟩ | ⟨t, vs, rfl, rfl, hs⟩
  · simp [conformsTo, Scalar.read_type hs]
  · exact readElements_conform hs

end Value

end TypedRoutes
