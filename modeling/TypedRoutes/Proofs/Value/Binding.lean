import TypedRoutes.Proofs.Text.Pieces
import TypedRoutes.Proofs.Value.Scalar
import TypedRoutes.Proofs.Value.Typing
/-!
# Values read back

`Value.read_of_encode`: what a value is written as is read at its type as the value again, but for the signs of
decimal zeros (`Value.settled`). `Value.encode_of_read`: a value that was read from the text of a segment can be
written, since such a text is not empty, and none of its marks is left in an element that cannot hold one.
-/
namespace TypedRoutes
open Text

/-- A text that can stand in a segment: it is not empty and ends neither the segment nor the path. -/
def FitsSegment (cs : List Char) : Prop :=
  cs ≠ [] ∧ ∀ c ∈ cs, Value.isReserved c = false

namespace Value

mutual

/-- The value with no sign on any decimal zero. -/
def settled : Value → Value
  | scalar s => .scalar s.settled
  | list items => .list (allSettled items)

/-- The values with no sign on any decimal zero. -/
def allSettled : List Value → List Value
  | [] => []
  | v :: vs => settled v :: allSettled vs

end

mutual

/-- Whether a value is or holds a scalar with a property. -/
def holds (p : Scalar → Bool) : Value → Bool
  | scalar s => p s
  | list items => anyHolds p items

/-- Whether any of some values is or holds a scalar with a property. -/
def anyHolds (p : Scalar → Bool) : List Value → Bool
  | [] => false
  | v :: vs => holds p v || anyHolds p vs

end

mutual

/-- Whether two values are the same, where what is not a number is the same as itself. -/
def alike : Value → Value → Bool
  | scalar s, scalar t => s.alike t
  | list vs, list ws => allAlike vs ws
  | _, _ => false

/-- Whether two lists have alike values at the same places. -/
def allAlike : List Value → List Value → Bool
  | [], [] => true
  | v :: vs, w :: ws => alike v w && allAlike vs ws
  | _, _ => false

end

/-! ## Settled values -/

theorem allSettled_eq_map (vs : List Value) : allSettled vs = vs.map settled := by
  induction vs with
  | nil => rfl
  | cons v vs ih => rw [allSettled, List.map_cons, ih]

mutual

theorem settled_settled : ∀ v : Value, v.settled.settled = v.settled
  | scalar s => congrArg scalar s.settled_settled
  | list items => congrArg list (allSettled_allSettled items)

theorem allSettled_allSettled : ∀ vs : List Value, allSettled (allSettled vs) = allSettled vs
  | [] => rfl
  | v :: vs => by rw [allSettled, allSettled, settled_settled v, allSettled_allSettled vs]

end

mutual

theorem settled_eq_self : ∀ {v : Value}, v.holds Scalar.isSignedZero = false → v.settled = v
  | scalar _, h => congrArg scalar (Scalar.settled_eq_self h)
  | list _, h => congrArg list (allSettled_eq_self h)

theorem allSettled_eq_self : ∀ {vs : List Value}, anyHolds Scalar.isSignedZero vs = false → allSettled vs = vs
  | [], _ => rfl
  | v :: vs, h => by
    rw [anyHolds, Bool.or_eq_false_iff] at h
    rw [allSettled, settled_eq_self h.1, allSettled_eq_self h.2]

end

mutual

/-- A value and its settled form are the same value. -/
theorem alike_settled : ∀ v : Value, v.alike v.settled = true
  | scalar s => s.alike_settled
  | list items => allAlike_allSettled items

theorem allAlike_allSettled : ∀ vs : List Value, allAlike vs (allSettled vs) = true
  | [] => rfl
  | v :: vs => by
    rw [allSettled, allAlike, alike_settled v, allAlike_allSettled vs]
    rfl

end

mutual

/-- Values that hold nothing that is not a number are alike only if they are the same. -/
theorem same_of_alike : ∀ {v w : Value}, v.holds Scalar.isNan = false → v.alike w = true → v.same w = true
  | scalar s, scalar t, hn, h => by
    rw [holds] at hn
    simpa [alike, Scalar.alike, hn, same] using h
  | list _, list _, hn, h => allSame_of_allAlike hn h
  | scalar _, list _, _, h => by cases h
  | list _, scalar _, _, h => by cases h

theorem allSame_of_allAlike : ∀ {vs ws : List Value}, anyHolds Scalar.isNan vs = false → allAlike vs ws = true →
    allSame vs ws = true
  | [], [], _, _ => rfl
  | v :: vs, w :: ws, hn, h => by
    rw [anyHolds, Bool.or_eq_false_iff] at hn
    rw [allAlike, Bool.and_eq_true] at h
    rw [allSame, same_of_alike hn.1 h.1, allSame_of_allAlike hn.2 h.2]
    rfl
  | [], _ :: _, _, h => by cases h
  | _ :: _, [], _, h => by cases h

end

mutual

/-- Values of one settled form are the same, unless they hold something that is not a number. -/
theorem same_of_settled : ∀ {v w : Value}, v.holds Scalar.isNan = false → v.settled = w.settled → v.same w = true
  | scalar _, scalar _, hn, h => Scalar.same_of_settled hn (by injection h)
  | list _, list _, hn, h => allSame_of_allSettled hn (by injection h)
  | scalar _, list _, _, h => by cases h
  | list _, scalar _, _, h => by cases h

theorem allSame_of_allSettled : ∀ {vs ws : List Value}, anyHolds Scalar.isNan vs = false →
    allSettled vs = allSettled ws → allSame vs ws = true
  | [], [], _, _ => rfl
  | v :: vs, w :: ws, hn, h => by
    rw [anyHolds, Bool.or_eq_false_iff] at hn
    rw [allSettled, allSettled, List.cons.injEq] at h
    rw [allSame, same_of_settled hn.1 h.1, allSame_of_allSettled hn.2 h.2]
    rfl
  | [], _ :: _, _, h => by cases h
  | _ :: _, [], _, h => by cases h

end

/-! ## Elements -/

theorem sep_mem_marks : separator ∈ marks := by decide

theorem isReserved_eq_false {c : Char} (h : c ∉ marks) : isReserved c = false := by
  simp only [marks, List.mem_cons, List.not_mem_nil, or_false, not_or] at h
  simp [isReserved, h]

theorem encodeElement_text (s : String) : encodeElement (.scalar (.text s)) = .ok (Percent.encode s) := rfl

/-- Any other element is written as its plain text, if that holds no separator. -/
theorem encodeElement_scalar {s : Scalar} (ht : s.type ≠ .text) :
    encodeElement (.scalar s) = if separator ∈ s.plain then .error .separator else .ok s.plain := by
  cases s with
  | text _ => exact absurd rfl ht
  | _ => rfl

theorem readElement_eq {type : ScalarType} (ht : type ≠ .text) (cs : List Char) :
    readElement type cs = ((Scalar.read type cs).mapError .scalar).map .scalar := by
  cases type with
  | text => exact absurd rfl ht
  | _ => rfl

/-- An element that can be written is written without a separator. -/
theorem separator_of_encodeElement {v : Value} {piece : List Char} (h : encodeElement v = .ok piece) :
    separator ∉ piece := by
  unfold encodeElement at h
  split at h
  · cases h
    exact fun hm => Percent.not_mark_of_mem_encode hm sep_mem_marks
  · split at h
    · cases h
    · rename_i hsep
      cases h
      exact hsep

/-- An element is read back from what it is written as. -/
theorem readElement_of_encodeElement {type : ScalarType} {s : Scalar} {piece : List Char} (ht : s.type = type)
    (h : encodeElement (.scalar s) = .ok piece) : readElement type piece = .ok (.scalar s.settled) := by
  subst ht
  by_cases ht : s.type = .text
  · cases s with
    | text s =>
      cases h
      rw [Scalar.type, readElement, Percent.decode_encode, Utf8.decode_encode]
      rfl
    | _ => cases ht
  · rw [encodeElement_scalar ht] at h
    split at h
    · cases h
    · cases h
      rw [readElement_eq ht, Scalar.read_plain]
      rfl

theorem encodeElements_cons {v : Value} {vs : List Value} {pieces : List (List Char)}
    (h : encodeElements (v :: vs) = .ok pieces) :
    ∃ piece more, pieces = piece :: more ∧ encodeElement v = .ok piece ∧ encodeElements vs = .ok more := by
  rw [encodeElements] at h
  obtain ⟨piece, hv, h⟩ := except_bind_ok h
  obtain ⟨more, hm, h⟩ := except_bind_ok h
  cases h
  exact ⟨piece, more, rfl, hv, hm⟩

theorem separator_of_encodeElements {vs : List Value} {pieces : List (List Char)}
    (h : encodeElements vs = .ok pieces) : ∀ piece ∈ pieces, separator ∉ piece := by
  induction vs generalizing pieces with
  | nil => cases h; simp
  | cons v vs ih =>
    obtain ⟨piece, more, rfl, hv, hm⟩ := encodeElements_cons h
    exact List.forall_mem_cons.2 ⟨separator_of_encodeElement hv, ih hm⟩

theorem readElements_of_encodeElements {type : ScalarType} {vs : List Value} {pieces : List (List Char)}
    (ht : allConformTo vs (.scalar type) = true) (h : encodeElements vs = .ok pieces) :
    readElements type pieces = .ok (allSettled vs) := by
  induction vs generalizing pieces with
  | nil => cases h; rfl
  | cons v vs ih =>
    obtain ⟨piece, more, rfl, hv, hm⟩ := encodeElements_cons h
    rw [allConformTo, Bool.and_eq_true] at ht
    cases v with
    | list items => exact absurd ht.1 (by simp [conformsTo])
    | scalar s =>
      have hs : s.type = type := by simpa [conformsTo] using ht.1
      rw [readElements, readElement_of_encodeElement hs hv, ih ht.2 hm]
      rfl

/-! ## Writing, then reading -/

theorem encode_ok {v : Value} {cs : List Char} (h : v.encode = .ok cs) : v.segmentText = .ok cs ∧ FitsSegment cs := by
  unfold encode at h
  obtain ⟨text, hs, h⟩ := except_bind_ok h
  split at h
  · cases h
  · rename_i hne
    split at h
    · cases h
    · rename_i hres
      cases h
      refine ⟨hs, by simpa using hne, fun c hc => ?_⟩
      simpa using fun hr => hres (List.any_eq_true.2 ⟨c, hc, hr⟩)

theorem encode_of_fits {v : Value} {cs : List Char} (h : v.segmentText = .ok cs) (hf : FitsSegment cs) :
    v.encode = .ok cs := by
  have hne : cs.isEmpty = false := by simpa using hf.1
  have hres : cs.any isReserved = false := by
    rw [List.any_eq_false]
    intro c hc
    rw [hf.2 c hc]
    exact Bool.false_ne_true
  rw [encode, h]
  change (if cs.isEmpty then Except.error WriteFault.empty else if cs.any isReserved then _ else _) = _
  rw [hne, hres]
  rfl

/-- What a value is written as is read back as the value, but for the signs of decimal zeros. Only a scalar at its own
type and a list at a sequence of scalars are bound from a URI and conform; and an empty list is not written. -/
theorem read_of_encode {type : ParamType} {v : Value} {cs : List Char} (hb : type.isBindable = true)
    (ht : v.conformsTo type = true) (h : v.encode = .ok cs) : read type cs = .ok v.settled := by
  obtain ⟨htext, hne, -⟩ := encode_ok h
  cases v with
  | scalar s =>
    cases type with
    | scalar t =>
      have hs : s.type = t := by simpa [conformsTo] using ht
      cases htext
      subst hs
      unfold read
      dsimp only
      rw [Scalar.read_plain]
      rfl
    | sequence _ => cases ht
    | custom _ => cases ht
  | list items =>
    cases type with
    | scalar _ => cases ht
    | custom _ => cases ht
    | sequence t =>
      cases t with
      | sequence _ => cases hb
      | custom _ => cases hb
      | scalar t =>
        obtain ⟨pieces, hp, rfl⟩ := except_map_ok htext
        have hpieces : pieces ≠ [] := by
          rintro rfl
          exact hne rfl
        change (readElements t (split separator (join separator pieces))).map list = _
        rw [split_join hpieces (separator_of_encodeElements hp), readElements_of_encodeElements ht hp]
        rfl

/-! ## Reading, then writing -/

/-- What a scalar of a segment's text is written as: for a text or a character the text itself. -/
theorem plain_fits {type : ScalarType} {raw : List Char} {s : Scalar} (h : Scalar.read type raw = .ok s)
    (hf : FitsSegment raw) : FitsSegment s.plain := by
  have htype := Scalar.read_type h
  by_cases ht : type = .text
  · subst ht
    cases h
    simpa [Scalar.plain] using hf
  · by_cases hc : type = .char
    · subst hc
      obtain ⟨c, hread, rfl⟩ := except_map_ok h
      unfold Scalar.readChar at hread
      split at hread
      · cases hread
        exact hf
      · cases hread
    · rw [← htype] at ht hc
      exact ⟨Scalar.plain_ne_nil ht, fun c hm => isReserved_eq_false (Scalar.not_mark_of_mem_plain ht hc hm)⟩

/-- A piece that is not empty stands for a byte at least, so the text that is read of it is not written as nothing. -/
theorem eq_nil_of_encode_eq_nil {piece : List Char} {s : String} (hs : Utf8.decode (Percent.decode piece) = .ok s)
    (he : Percent.encode s = []) : piece = [] := by
  by_contra hp
  have hempty : s = "" := by
    by_contra hne
    exact Percent.encode_ne_nil hne he
  have hbytes := Utf8.encode_of_decode hs
  rw [hempty, Utf8.encode_eq] at hbytes
  exact Percent.decode_ne_nil hp hbytes.symm

/-- What is read of a piece without a separator can be written, without a reserved character if the piece has none. -/
theorem encodeElement_of_readElement {type : ScalarType} {piece : List Char} {v : Value}
    (h : readElement type piece = .ok v) (hsep : separator ∉ piece) (hres : ∀ c ∈ piece, isReserved c = false) :
    ∃ written, encodeElement v = .ok written ∧ (∀ c ∈ written, isReserved c = false) ∧
      (written = [] → piece = []) := by
  by_cases ht : type = .text
  · subst ht
    rw [readElement] at h
    split at h
    · rename_i s hs
      cases h
      exact ⟨_, encodeElement_text s, fun c hc => isReserved_eq_false (Percent.not_mark_of_mem_encode hc),
        eq_nil_of_encode_eq_nil hs⟩
    · cases h
  · rw [readElement_eq ht] at h
    obtain ⟨s, hs, rfl⟩ := except_map_ok h
    replace hs := except_mapError_ok hs
    have htype := Scalar.read_type hs
    by_cases hc : type = .char
    · subst hc
      obtain ⟨c, hread, rfl⟩ := except_map_ok hs
      unfold Scalar.readChar at hread
      split at hread
      · cases hread
        exact ⟨[c], if_neg hsep, hres, fun he => he⟩
      · cases hread
    · rw [← htype] at ht hc
      have hmarks : ∀ c ∈ s.plain, c ∉ marks := fun c hm => Scalar.not_mark_of_mem_plain ht hc hm
      have hplain : separator ∉ s.plain := fun hm => hmarks _ hm sep_mem_marks
      exact ⟨s.plain, by rw [encodeElement_scalar ht, if_neg hplain],
        fun c hm => isReserved_eq_false (hmarks c hm), fun he => absurd he (Scalar.plain_ne_nil ht)⟩

theorem encodeElements_of_readElements {type : ScalarType} {pieces : List (List Char)} {vs : List Value}
    (h : readElements type pieces = .ok vs) (hsep : ∀ piece ∈ pieces, separator ∉ piece)
    (hres : ∀ piece ∈ pieces, ∀ c ∈ piece, isReserved c = false) :
    ∃ written, encodeElements vs = .ok written ∧ (∀ piece ∈ written, ∀ c ∈ piece, isReserved c = false) ∧
      (written = [] → pieces = []) ∧ (written = [[]] → pieces = [[]]) := by
  induction pieces generalizing vs with
  | nil =>
    cases h
    exact ⟨[], rfl, by simp, fun _ => rfl, by simp⟩
  | cons piece pieces ih =>
    obtain ⟨v, more, rfl, hv, hm⟩ := readElements_cons h
    rw [List.forall_mem_cons] at hsep hres
    obtain ⟨first, hfirst, hfres, hfempty⟩ := encodeElement_of_readElement hv hsep.1 hres.1
    obtain ⟨rest, hrest, hrres, hrnil, -⟩ := ih hm hsep.2 hres.2
    refine ⟨first :: rest, ?_, List.forall_mem_cons.2 ⟨hfres, hrres⟩, by simp, ?_⟩
    · rw [encodeElements, hfirst, hrest]
      rfl
    · intro he
      obtain ⟨rfl, rfl⟩ : first = [] ∧ rest = [] := by simpa using he
      rw [hfempty rfl, hrnil rfl]

/-- A value that is read from the text of a segment can be written: the pieces of the text have no separator and no
reserved character, and elements that join to nothing would be none at all, or one empty text. -/
theorem encode_of_read {type : ParamType} {raw : List Char} {v : Value} (h : read type raw = .ok v)
    (hf : FitsSegment raw) : ∃ cs, v.encode = .ok cs := by
  rcases read_cases h with ⟨t, s, rfl, rfl, hs⟩ | ⟨t, vs, rfl, rfl, hs⟩
  · exact ⟨s.plain, encode_of_fits rfl (plain_fits hs hf)⟩
  · have hsep : ∀ piece ∈ split separator raw, separator ∉ piece :=
      fun piece hp hm => (mem_of_mem_split hp _ hm).2 rfl
    have hres : ∀ piece ∈ split separator raw, ∀ c ∈ piece, isReserved c = false :=
      fun piece hp c hc => hf.2 c (mem_of_mem_split hp c hc).1
    obtain ⟨written, hw, hwres, hnil, hone⟩ := encodeElements_of_readElements hs hsep hres
    refine ⟨join separator written, encode_of_fits (by rw [segmentText, hw]; rfl) ⟨?_, ?_⟩⟩
    · refine join_ne_nil (fun he => split_ne_nil separator raw (hnil he)) fun he => ?_
      exact hf.1 (eq_of_split_singleton (hone he))
    · intro c hc
      rcases mem_join hc with rfl | ⟨piece, hp, hm⟩
      · rfl
      · exact hwres piece hp c hm

end Value

end TypedRoutes
