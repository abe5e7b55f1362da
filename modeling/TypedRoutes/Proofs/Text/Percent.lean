import TypedRoutes.Text.Percent
/-!
# Percent coding read back

`Percent.decode_encode`: decoding gives the bytes of the text that was encoded, and `Utf8.decode_encode` the text of
the bytes. An encoded text holds none of the marks that a URI is divided by (`Percent.not_mark_of_mem_encode`), and
nothing is empty that was not.
-/
namespace TypedRoutes.Text

/-- The marks that a URI is divided by: between elements, after a segment, before the query and the fragment. -/
def marks : List Char := [';', '/', '?', '#']

theorem not_mark_of_isAlphanum {c : Char} (h : c.isAlphanum = true) : c ∉ marks := by
  simp only [marks, List.mem_cons, List.not_mem_nil, or_false, not_or]
  refine ⟨?_, ?_, ?_, ?_⟩ <;> rintro rfl <;> cases h

/-! ## Bytes of a text -/

namespace Utf8

theorem toList_loop (bs : ByteArray) (i : Nat) (taken : List UInt8) :
    ByteArray.toList.loop bs i taken = taken.reverse ++ bs.data.toList.drop i := by
  fun_induction ByteArray.toList.loop bs i taken with
  | case1 i taken hi ih =>
    have hnext : bs.data.toList.drop i = bs.get! i :: bs.data.toList.drop (i + 1) := by
      rw [List.drop_eq_getElem_cons (by simpa using hi)]
      simp [ByteArray.get!, hi]
    rw [ih, hnext, List.reverse_cons, List.append_assoc, List.singleton_append]
  | case2 i taken hi =>
    have hend : bs.data.toList.drop i = [] := List.drop_eq_nil_of_le (by simpa using hi)
    rw [hend, List.append_nil]

/-- The bytes of a text, as a list. -/
theorem encode_eq (s : String) : encode s = s.toByteArray.data.toList := by
  rw [encode, String.toUTF8_eq_toByteArray, ByteArray.toList, toList_loop]
  rfl

/-- The bytes of a text are those of its characters. -/
theorem encode_ofList (cs : List Char) : encode (String.ofList cs) = cs.flatMap String.utf8EncodeChar := by
  rw [encode_eq, String.toByteArray_ofList, List.utf8Encode]
  simp

@[simp] theorem decode_encode (s : String) : decode (encode s) = .ok s := by
  have hb : (⟨(encode s).toArray⟩ : ByteArray) = s.toByteArray := by rw [encode_eq]
  have hv : s.toByteArray.IsValidUTF8 := s.isValidUTF8
  rw [decode, hb, String.fromUTF8?, dif_pos hv]
  rfl

theorem encode_append (s t : String) : encode (s ++ t) = encode s ++ encode t := by
  rw [encode_eq, encode_eq, encode_eq, String.toByteArray_append]
  simp

/-- A text that is decoded has the bytes that it was decoded from. -/
theorem encode_of_decode {bs : List UInt8} {s : String} (h : decode bs = .ok s) : encode s = bs := by
  unfold decode String.fromUTF8? at h
  split at h
  · rename_i heq
    split at heq
    · cases heq
      cases h
      rw [encode_eq]
      rfl
    · cases heq
  · cases h

theorem encode_eq_nil {s : String} (h : encode s = []) : s = "" := by
  have hd := decode_encode s
  have he := decode_encode ""
  rw [h] at hd
  rw [show encode "" = [] from by rw [encode_eq]; rfl] at he
  rw [hd] at he
  injection he

end Utf8

/-! ## Encoded texts -/

namespace Percent

theorem hexValue?_hexDigit {n : Nat} (h : n < 16) : hexValue? (hexDigit n) = some n := by
  have : ∀ m : Fin 16, hexValue? (hexDigit m) = some m.val := by decide
  exact this ⟨n, h⟩

theorem decode_cons {c : Char} (hc : c ≠ '%') (cs : List Char) :
    decode (c :: cs) = String.utf8EncodeChar c ++ decode cs := by
  rw [decode]
  rintro h l rest ⟨⟩
  exact absurd rfl hc

theorem decode_escape {h l : Char} {n m : Nat} (hh : hexValue? h = some n) (hl : hexValue? l = some m)
    (cs : List Char) : decode ('%' :: h :: l :: cs) = UInt8.ofNat (16 * n + m) :: decode cs := by
  rw [decode, hh, hl]

/-- A percent sign that no two digits follow stands for itself. -/
theorem decode_percent {cs : List Char}
    (h : ∀ high low rest, cs = high :: low :: rest → hexValue? high = none ∨ hexValue? low = none) :
    decode ('%' :: cs) = String.utf8EncodeChar '%' ++ decode cs := by
  match cs, h with
  | [], _ => rfl
  | [_], _ => rfl
  | high :: low :: rest, h =>
    rw [decode]
    rcases h high low rest rfl with hh | hl
    · rw [hh]
    · rw [hl]
      split
      · simp_all
      · rfl

/-- A percent sign belongs to no escape before it: as one of the two characters behind another sign it is no digit. -/
theorem decode_append_percent (text rest : List Char) :
    decode (text ++ '%' :: rest) = decode text ++ decode ('%' :: rest) := by
  have hsign : hexValue? '%' = none := by decide
  fun_induction decode text with
  | case1 => rfl
  | case2 high low cs n m hl hh ih =>
    rw [List.cons_append, List.cons_append, List.cons_append, decode_escape hh hl, ih, List.cons_append]
  | case3 high low cs hne ih =>
    have h : hexValue? high = none ∨ hexValue? low = none := by
      cases hh : hexValue? high with
      | none => exact .inl rfl
      | some n =>
        cases hl : hexValue? low with
        | none => exact .inr rfl
        | some m => exact absurd hl (hne n m hh)
    rw [List.cons_append, decode_percent, ih, List.append_assoc]
    rintro _ _ _ ⟨⟩
    exact h
  | case4 c cs hne ih =>
    by_cases hc : c = '%'
    · subst hc
      rw [List.cons_append, decode_percent, ih, List.append_assoc]
      match cs, hne with
      | [], _ =>
        rintro _ _ _ ⟨⟩
        exact .inl hsign
      | [_], _ =>
        rintro _ _ _ ⟨⟩
        exact .inr hsign
      | high :: low :: cs, hne => exact absurd rfl (hne high low cs rfl)
    · rw [List.cons_append, decode_cons hc, ih, List.append_assoc]

/-- A byte that stands for itself is a character of its own. -/
theorem utf8EncodeChar_unreserved (b : UInt8) (h : isUnreserved (Char.ofNat b.toNat) = true) :
    Char.ofNat b.toNat ≠ '%' ∧ String.utf8EncodeChar (Char.ofNat b.toNat) = [b] := by
  have : ∀ n : Fin 256, isUnreserved (Char.ofNat n) = true →
      Char.ofNat n ≠ '%' ∧ String.utf8EncodeChar (Char.ofNat n) = [UInt8.ofNat n] := by decide +kernel
  have hb := this ⟨b.toNat, b.toNat_lt⟩ h
  simpa using hb

/-- A byte is read back from what it is encoded as, itself or an escape. -/
theorem decode_encodeByte (b : UInt8) (cs : List Char) : decode (encodeByte b ++ cs) = b :: decode cs := by
  have hb := b.toNat_lt
  unfold encodeByte
  dsimp only
  split
  · rename_i h
    obtain ⟨hp, he⟩ := utf8EncodeChar_unreserved b h
    rw [List.singleton_append, decode_cons hp, he]
    rfl
  · rw [List.cons_append, List.cons_append, List.cons_append, List.nil_append,
      decode_escape (hexValue?_hexDigit (by omega)) (hexValue?_hexDigit (by omega))]
    have hval : 16 * (b.toNat / 16) + b.toNat % 16 = b.toNat := by omega
    rw [hval, UInt8.ofNat_toNat]

/-- Decoding gives the bytes of the text that was encoded. -/
@[simp] theorem decode_encode (s : String) : decode (encode s) = Utf8.encode s := by
  rw [encode]
  induction Utf8.encode s with
  | nil => rfl
  | cons b bs ih => rw [List.flatMap_cons, decode_encodeByte, ih]

theorem not_mark_of_isUnreserved {c : Char} (h : isUnreserved c = true) : c ∉ marks := by
  simp only [marks, List.mem_cons, List.not_mem_nil, or_false, not_or]
  refine ⟨?_, ?_, ?_, ?_⟩ <;> rintro rfl <;> cases h

theorem not_mark_hexDigit {n : Nat} (h : n < 16) : hexDigit n ∉ marks := by
  have : ∀ m : Fin 16, hexDigit m ∉ marks := by decide
  exact this ⟨n, h⟩

/-- An encoded text holds none of the marks that a URI is divided by. -/
theorem not_mark_of_mem_encode {s : String} {c : Char} (h : c ∈ encode s) : c ∉ marks := by
  obtain ⟨b, -, hb⟩ := List.mem_flatMap.1 h
  have hlt := b.toNat_lt
  unfold encodeByte at hb
  dsimp only at hb
  split at hb
  · rename_i hu
    rw [List.mem_singleton.1 hb]
    exact not_mark_of_isUnreserved hu
  · simp only [List.mem_cons, List.not_mem_nil, or_false] at hb
    rcases hb with rfl | rfl | rfl
    · decide
    · exact not_mark_hexDigit (by omega)
    · exact not_mark_hexDigit (by omega)

theorem encode_ne_nil {s : String} (h : s ≠ "") : encode s ≠ [] := by
  intro he
  have hd := decode_encode s
  rw [he] at hd
  exact h (Utf8.encode_eq_nil hd.symm)

/-- Every character stands for a byte at least. -/
theorem decode_ne_nil {cs : List Char} (h : cs ≠ []) : decode cs ≠ [] := by
  unfold decode
  split
  · exact absurd rfl h
  · split
    · exact List.cons_ne_nil _ _
    · simp
  · simp

end Percent

end TypedRoutes.Text
