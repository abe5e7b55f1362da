import TypedRoutes.Proofs.Route.Extraction
import TypedRoutes.Proofs.Text.Percent
import TypedRoutes.Proofs.Text.Pieces
/-!
# Binding sequences

A text is bound to a sequence piece by piece, so texts that meet at a separator are bound to the elements of both
(`bindSequence_append_ok`): the pieces are those of the one and then those of the other. What is wrong is told of the
first piece that is no element. An element that is a text is decoded after the text is split, so an escaped separator is
part of an element and divides none (`bindSequence_escaped_separator`).
-/
namespace TypedRoutes
open Text
open Value (separator)

namespace Value

/-! ## Elements -/

theorem readElements_eq_mapM (type : ScalarType) (pieces : List (List Char)) :
    readElements type pieces = pieces.mapM (readElement type) := by
  induction pieces with
  | nil => rfl
  | cons piece pieces ih =>
    rw [readElements, List.mapM_cons, ih]
    rfl

/-- Pieces behind others are read after them. -/
theorem readElements_append (type : ScalarType) (pieces more : List (List Char)) :
    readElements type (pieces ++ more) =
      readElements type pieces >>= fun vs => (readElements type more).map (vs ++ ·) := by
  rw [readElements_eq_mapM, readElements_eq_mapM, readElements_eq_mapM, List.mapM_append]
  rfl

/-- There is a value for every piece. -/
theorem length_readElements {type : ScalarType} {pieces : List (List Char)} {vs : List Value}
    (h : readElements type pieces = .ok vs) : vs.length = pieces.length := by
  rw [readElements_eq_mapM] at h
  exact (mapM_eq_ok_iff.1 h).length_eq.symm

/-- The bytes that a piece is decoded to are those of a text, and this is the value. -/
def DecodesTo (piece : List Char) (v : Value) : Prop :=
  ∃ s, v = .scalar (.text s) ∧ Utf8.encode s = Percent.decode piece

theorem readElement_text_iff {piece : List Char} {v : Value} :
    readElement .text piece = .ok v ↔ DecodesTo piece v := by
  rw [readElement]
  constructor
  · intro h
    split at h
    · rename_i s hs
      cases h
      exact ⟨s, rfl, Utf8.encode_of_decode hs⟩
    · cases h
  · rintro ⟨s, rfl, hs⟩
    rw [← hs, Utf8.decode_encode]

/-- A text is refused as an element only if its bytes are those of no text. -/
theorem readElement_text_error {piece : List Char} {reason : ReadFault} (h : readElement .text piece = .error reason) :
    (∀ s, Utf8.encode s ≠ Percent.decode piece) ∧ ∃ fault, reason = .encoding (String.ofList piece) fault := by
  constructor
  · intro s hs
    rw [readElement_text_iff.2 ⟨s, rfl, hs⟩] at h
    cases h
  · rw [readElement] at h
    split at h
    · cases h
    · rename_i fault hf
      cases h
      exact ⟨fault, rfl⟩

theorem readElements_text_iff {pieces : List (List Char)} {vs : List Value} :
    readElements .text pieces = .ok vs ↔ List.Forall₂ DecodesTo pieces vs := by
  rw [readElements_eq_mapM, mapM_eq_ok_iff]
  simp only [readElement_text_iff]

end Value

/-! ## Sequences -/

/-- What a text is bound to at a sequence of a scalar type. -/
def bindSequence (name : String) (type : ScalarType) (raw : List Char) : Except BindError Value :=
  (bind name (.sequence (.scalar type)) raw).run.value

/-- The error of a text that is no sequence of a scalar type: it tells the whole text. -/
def sequenceError (name : String) (type : ScalarType) (raw : List Char) (reason : ReadFault) : BindError :=
  .conversion name (.sequence (.scalar type)) (String.ofList raw) reason

section Sequences
variable {name : String} {type : ScalarType} {a b raw : List Char} {xs ys : List Value} {reason : ReadFault}

theorem read_sequence (type : ScalarType) (raw : List Char) :
    Value.read (.sequence (.scalar type)) raw = (Value.readElements type (split separator raw)).map .list := rfl

/-- A text is bound to what its pieces are read as. -/
theorem bindSequence_ok_iff :
    bindSequence name type raw = .ok (.list xs) ↔ Value.readElements type (split separator raw) = .ok xs := by
  rw [bindSequence, bind_eq_ok_iff, read_sequence]
  constructor
  · intro h
    obtain ⟨_, hr, ⟨⟩⟩ := except_map_ok h
    exact hr
  · intro h
    rw [h]
    rfl

theorem bindSequence_of_error (h : Value.readElements type (split separator raw) = .error reason) :
    bindSequence name type raw = .error (sequenceError name type raw reason) := by
  have hr : Value.read (.sequence (.scalar type)) raw = .error reason := by
    rw [read_sequence, h]
    rfl
  rw [bindSequence, bind_error hr]
  rfl

/-- A text that is not bound is refused for the first of its pieces that is no element. -/
theorem bindSequence_error_iff : bindSequence name type raw = .error (sequenceError name type raw reason) ↔
    Value.readElements type (split separator raw) = .error reason := by
  refine ⟨fun h => ?_, bindSequence_of_error⟩
  cases hr : Value.readElements type (split separator raw) with
  | ok xs =>
    rw [bindSequence_ok_iff.2 hr] at h
    cases h
  | error reason' =>
    rw [bindSequence_of_error hr] at h
    cases h
    rfl

/-- A text is bound to one element more than it has separators, or refused as a whole. -/
theorem bindSequence_cases (name : String) (type : ScalarType) (raw : List Char) :
    (∃ xs, bindSequence name type raw = .ok (.list xs) ∧ xs.length = raw.count separator + 1) ∨
      ∃ reason, bindSequence name type raw = .error (sequenceError name type raw reason) := by
  cases h : Value.readElements type (split separator raw) with
  | ok xs => exact .inl ⟨xs, bindSequence_ok_iff.2 h, by rw [Value.length_readElements h, length_split]⟩
  | error reason => exact .inr ⟨reason, bindSequence_of_error h⟩

theorem bindSequence_append_ok (ha : bindSequence name type a = .ok (.list xs))
    (hb : bindSequence name type b = .ok (.list ys)) :
    bindSequence name type (a ++ separator :: b) = .ok (.list (xs ++ ys)) := by
  rw [bindSequence_ok_iff] at ha hb ⊢
  rw [split_append_sep, Value.readElements_append, ha, hb]
  rfl

theorem bindSequence_append_error_left (ha : bindSequence name type a = .error (sequenceError name type a reason))
    (b : List Char) : bindSequence name type (a ++ separator :: b) =
      .error (sequenceError name type (a ++ separator :: b) reason) := by
  rw [bindSequence_error_iff] at ha ⊢
  rw [split_append_sep, Value.readElements_append, ha]
  rfl

theorem bindSequence_append_error_right (ha : bindSequence name type a = .ok (.list xs))
    (hb : bindSequence name type b = .error (sequenceError name type b reason)) :
    bindSequence name type (a ++ separator :: b) =
      .error (sequenceError name type (a ++ separator :: b) reason) := by
  rw [bindSequence_ok_iff] at ha
  rw [bindSequence_error_iff] at hb ⊢
  rw [split_append_sep, Value.readElements_append, ha, hb]
  rfl

/-- A text without separators is one element or none. -/
theorem bindSequence_single (name : String) (type : ScalarType) (h : separator ∉ raw) :
    (∃ x, bindSequence name type raw = .ok (.list [x])) ∨
      ∃ reason, bindSequence name type raw = .error (sequenceError name type raw reason) := by
  rcases bindSequence_cases name type raw with ⟨xs, hb, hlength⟩ | herror
  · rw [List.count_eq_zero_of_not_mem h] at hlength
    obtain ⟨x, rfl⟩ := List.length_eq_one_iff.1 hlength
    exact .inl ⟨x, hb⟩
  · exact .inr herror

/-- Texts are the elements that their pieces are decoded to. -/
theorem bindSequence_text_iff :
    bindSequence name .text raw = .ok (.list xs) ↔ List.Forall₂ Value.DecodesTo (split separator raw) xs := by
  rw [bindSequence_ok_iff, Value.readElements_text_iff]

/-- A sequence of texts is refused for the first piece whose bytes are those of no text. -/
theorem bindSequence_text_error (h : bindSequence name .text raw = .error (sequenceError name .text raw reason)) :
    ∃ before piece after fault, split separator raw = before ++ piece :: after ∧
      (∀ other ∈ before, ∃ s, Utf8.encode s = Percent.decode other) ∧
      (∀ s, Utf8.encode s ≠ Percent.decode piece) ∧ reason = .encoding (String.ofList piece) fault := by
  rw [bindSequence_error_iff, Value.readElements_eq_mapM, mapM_eq_error_iff] at h
  obtain ⟨before, piece, after, hs, hbefore, he⟩ := h
  obtain ⟨hpiece, fault, rfl⟩ := Value.readElement_text_error he
  refine ⟨before, piece, after, fault, hs, ?_, hpiece, rfl⟩
  intro other hother
  obtain ⟨v, hv⟩ := hbefore other hother
  obtain ⟨s, -, hs⟩ := Value.readElement_text_iff.1 hv
  exact ⟨s, hs⟩

/-! ## Escaped separators -/

/-- The byte of a separator, as it is escaped. -/
def separatorEscapes : List (List Char) :=
  ["%3B".toList, "%3b".toList]

theorem separator_not_mem_escape {escape : List Char} (h : escape ∈ separatorEscapes) : separator ∉ escape := by
  have hall : ∀ escape ∈ separatorEscapes, separator ∉ escape := by decide
  exact hall escape h

/-- An escape is decoded to the separator, whatever is around it. -/
theorem decode_escape_between {escape : List Char} (h : escape ∈ separatorEscapes) (left right : List Char) :
    Percent.decode (left ++ escape ++ right) =
      Percent.decode left ++ Utf8.encode ";" ++ Percent.decode right := by
  have hbyte : Utf8.encode ";" = [0x3B] := by
    rw [Utf8.encode_eq]
    rfl
  have hescape : ∃ low, escape = ['%', '3', low] ∧ Percent.hexValue? low = some 11 := by
    simp only [separatorEscapes, List.mem_cons, List.not_mem_nil, or_false] at h
    rcases h with rfl | rfl
    · exact ⟨'B', rfl, by decide⟩
    · exact ⟨'b', rfl, by decide⟩
  obtain ⟨low, rfl, hlow⟩ := hescape
  have hhigh : Percent.hexValue? '3' = some 3 := by decide
  rw [List.append_assoc, List.cons_append, List.cons_append, List.cons_append, List.nil_append,
    Percent.decode_append_percent, Percent.decode_escape hhigh hlow, hbyte, List.append_assoc]
  rfl

/-- Texts that meet at an escaped separator have one element of the last of the one and the first of the other. -/
theorem bindSequence_escaped_separator {escape : List Char} (h : escape ∈ separatorEscapes) {s t : String}
    (ha : bindSequence name .text a = .ok (.list (xs ++ [.scalar (.text s)])))
    (hb : bindSequence name .text b = .ok (.list (.scalar (.text t) :: ys))) :
    bindSequence name .text (a ++ escape ++ b) =
      .ok (.list (xs ++ .scalar (.text (s ++ ";" ++ t)) :: ys)) := by
  rw [bindSequence_text_iff] at ha hb ⊢
  have hlast := List.forall₂_drop_append _ _ _ ha
  have hbefore := List.forall₂_take_append _ _ _ ha
  obtain ⟨last, _, ⟨_, ⟨⟩, hs⟩, ⟨⟩, hdrop⟩ := List.forall₂_cons_right_iff.1 hlast
  obtain ⟨first, after, ⟨_, ⟨⟩, ht⟩, hafter, hsplit⟩ := List.forall₂_cons_right_iff.1 hb
  have ha' : split separator a = (split separator a).take xs.length ++ [last] := by
    rw [← hdrop, List.take_append_drop]
  rw [split_append_inner ha' (separator_not_mem_escape h) hsplit]
  refine List.rel_append hbefore (.cons ⟨_, rfl, ?_⟩ hafter)
  rw [Utf8.encode_append, Utf8.encode_append, hs, ht, decode_escape_between h]

end Sequences

/-! ## Sequences that meet -/

/-- Texts that meet at a separator are bound to the elements of both. What cannot be bound is refused as a whole, for
the first of its pieces that is no element; what can has one element more than there are separators. An element that is
a text is what its piece is decoded to, refused only if the bytes are those of no text, and the decoding comes after the
splitting: texts that meet at an escaped separator have one element of the two that meet there. -/
theorem bindSequence_homomorphism (name : String) (type : ScalarType) :
    (∀ a b xs ys, bindSequence name type a = .ok (.list xs) → bindSequence name type b = .ok (.list ys) →
      bindSequence name type (a ++ separator :: b) = .ok (.list (xs ++ ys))) ∧
    (∀ a b reason, bindSequence name type a = .error (sequenceError name type a reason) →
      bindSequence name type (a ++ separator :: b) =
        .error (sequenceError name type (a ++ separator :: b) reason)) ∧
    (∀ a b xs reason, bindSequence name type a = .ok (.list xs) →
      bindSequence name type b = .error (sequenceError name type b reason) →
      bindSequence name type (a ++ separator :: b) =
        .error (sequenceError name type (a ++ separator :: b) reason)) ∧
    (∀ raw, (∃ xs, bindSequence name type raw = .ok (.list xs) ∧ xs.length = raw.count separator + 1) ∨
      ∃ reason, bindSequence name type raw = .error (sequenceError name type raw reason)) ∧
    (∀ raw, separator ∉ raw → (∃ x, bindSequence name type raw = .ok (.list [x])) ∨
      ∃ reason, bindSequence name type raw = .error (sequenceError name type raw reason)) ∧
    (∀ raw xs, bindSequence name .text raw = .ok (.list xs) ↔
      List.Forall₂ Value.DecodesTo (split separator raw) xs) ∧
    (∀ raw reason, bindSequence name .text raw = .error (sequenceError name .text raw reason) →
      ∃ before piece after fault, split separator raw = before ++ piece :: after ∧
        (∀ other ∈ before, ∃ s, Utf8.encode s = Percent.decode other) ∧
        (∀ s, Utf8.encode s ≠ Percent.decode piece) ∧ reason = .encoding (String.ofList piece) fault) ∧
    (∀ escape ∈ separatorEscapes, ∀ a b xs ys s t,
      bindSequence name .text a = .ok (.list (xs ++ [.scalar (.text s)])) →
      bindSequence name .text b = .ok (.list (.scalar (.text t) :: ys)) →
      bindSequence name .text (a ++ escape ++ b) = .ok (.list (xs ++ .scalar (.text (s ++ ";" ++ t)) :: ys))) :=
  ⟨fun _ _ _ _ => bindSequence_append_ok, fun _ b _ h => bindSequence_append_error_left h b,
    fun _ _ _ _ => bindSequence_append_error_right, bindSequence_cases name type,
    fun _ => bindSequence_single name type, fun _ _ => bindSequence_text_iff, fun _ _ => bindSequence_text_error,
    fun _ h _ _ _ _ _ _ => bindSequence_escaped_separator h⟩

/-- Two lists of numbers that meet, and one that meets a list with an empty element: no number is empty. -/
theorem bindSequence_homomorphism_numbers :
    bindSequence "ids" (.integer .int) "1;-2;3".toList =
      .ok (.list [.scalar (.integer .int ⟨1, by decide⟩), .scalar (.integer .int ⟨-2, by decide⟩),
        .scalar (.integer .int ⟨3, by decide⟩)]) ∧
    bindSequence "ids" (.integer .int) "1;;x".toList =
      .error (sequenceError "ids" (.integer .int) "1;;x".toList (.scalar (.integer .empty))) := by
  obtain ⟨hok, -, hright, -⟩ := bindSequence_homomorphism "ids" (.integer .int)
  have hone : bindSequence "ids" (.integer .int) "1".toList = .ok (.list [.scalar (.integer .int ⟨1, by decide⟩)]) :=
    rfl
  have hmore : bindSequence "ids" (.integer .int) "-2;3".toList =
      .ok (.list [.scalar (.integer .int ⟨-2, by decide⟩), .scalar (.integer .int ⟨3, by decide⟩)]) := rfl
  have hempty : bindSequence "ids" (.integer .int) ";x".toList =
      .error (sequenceError "ids" (.integer .int) ";x".toList (.scalar (.integer .empty))) := rfl
  exact ⟨hok _ _ _ _ hone hmore, hright _ _ _ _ hone hempty⟩

end TypedRoutes
