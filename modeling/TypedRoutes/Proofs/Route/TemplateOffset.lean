import TypedRoutes.Proofs.Route.Diagnosis
import TypedRoutes.Proofs.Template.Grammar
import TypedRoutes.Proofs.Template.Mounting
import TypedRoutes.Proofs.Text.Percent
/-!
# Where the template of a declaration is at fault

A brace at fault is told by the number of bytes before it, in the text that is read: the template mounted under its
base. The template that the error names is the one of the declaration, and there the brace has a place of its own
(`FaultyBrace.of_mount`): as many bytes further on as the template has leading slashes, and as many nearer as the
mounted text has in front of it. So the offset is that of the brace in the template that is named only if these are
equally many, as they are for a template with one leading slash and no base (`Declaration.build_offset`).
-/
namespace TypedRoutes
open Text

/-! ## Braces at fault -/

/-- The brace that an error is about, with the number of bytes before it. -/
def TemplateError.brace? : TemplateError → Option (Char × Nat)
  | unclosedPlaceholder offset => some ('{', offset)
  | unexpectedClose offset => some ('}', offset)
  | _ => none

/-- A brace at fault with so many bytes before it: they are a template, and no closing brace follows an opening one. -/
def FaultyBrace (text : List Char) (brace : Char) (offset : Nat) : Prop :=
  ∃ front rest names, text = front ++ brace :: rest ∧ IsTemplate front names ∧ byteLength front = offset ∧
    (brace = '}' ∨ brace = '{' ∧ '}' ∉ rest)

/-- The byte of a text that has so many before it. -/
def byteAt? (text : List Char) (offset : Nat) : Option UInt8 :=
  (Utf8.encode (String.ofList text))[offset]?

theorem length_flatMap_utf8EncodeChar (text : List Char) :
    (text.flatMap String.utf8EncodeChar).length = byteLength text := by
  induction text with
  | nil => rfl
  | cons c text ih => rw [List.flatMap_cons, List.length_append, String.length_utf8EncodeChar, ih, byteLength]

section FaultyBrace
variable {text : List Char} {cause : TemplateError} {brace : Char} {offset : Nat}

theorem FaultyBrace.of_fault (h : TemplateFault text cause) (hb : cause.brace? = some (brace, offset)) :
    FaultyBrace text brace offset := by
  cases cause with
  | unclosedPlaceholder i =>
    cases hb
    obtain ⟨front, rest, names, ht, hf, hclose, hi⟩ := fault_unclosedPlaceholder_iff.1 h
    exact ⟨front, rest, names, ht, hf, hi, .inr ⟨rfl, hclose⟩⟩
  | unexpectedClose i =>
    cases hb
    obtain ⟨front, rest, names, ht, hf, hi⟩ := fault_unexpectedClose_iff.1 h
    exact ⟨front, rest, names, ht, hf, hi, .inl rfl⟩
  | _ => cases hb

/-- A text is read up to its brace at fault. -/
theorem FaultyBrace.tokenize (h : FaultyBrace text brace offset) :
    ∃ cause, cause.brace? = some (brace, offset) ∧ tokenize text = .error cause := by
  obtain ⟨front, rest, names, rfl, hf, rfl, rfl | ⟨rfl, hclose⟩⟩ := h
  · exact ⟨_, rfl, tokenize_of_faultAt hf (.close rest)⟩
  · exact ⟨_, rfl, tokenize_of_faultAt hf (.unclosed hclose)⟩

/-- So a text has no other. -/
theorem FaultyBrace.offset_eq {i j : Nat} (hi : FaultyBrace text brace i) (hj : FaultyBrace text brace j) : i = j := by
  obtain ⟨cause, hb, hread⟩ := hi.tokenize
  obtain ⟨cause', hb', hread'⟩ := hj.tokenize
  rw [hread] at hread'
  cases hread'
  rw [hb] at hb'
  cases hb'
  rfl

/-- The byte at the offset is the brace. -/
theorem FaultyBrace.byteAt?_eq (h : FaultyBrace text brace offset) :
    byteAt? text offset = some (UInt8.ofNat brace.toNat) := by
  obtain ⟨front, rest, names, rfl, -, rfl, hbrace⟩ := h
  have hbyte : String.utf8EncodeChar brace = [UInt8.ofNat brace.toNat] := by
    rcases hbrace with rfl | ⟨rfl, -⟩ <;> decide
  rw [byteAt?, Utf8.encode_ofList, List.flatMap_append, List.flatMap_cons, hbyte, List.singleton_append,
    ← length_flatMap_utf8EncodeChar, List.getElem?_append_right (Nat.le_refl _), Nat.sub_self]
  rfl

/-! ## Slashes around a template -/

theorem byteLength_of_slashes {slashes : List Char} (h : ∀ c ∈ slashes, c = '/') :
    byteLength slashes = slashes.length := by
  induction slashes with
  | nil => rfl
  | cons c slashes ih =>
    rw [List.forall_mem_cons] at h
    have hsize : '/'.utf8Size = 1 := by decide
    rw [byteLength, h.1, hsize, ih h.2, List.length_cons, Nat.add_comm]

theorem isTemplate_of_slashes {slashes : List Char} (h : ∀ c ∈ slashes, c = '/') : IsTemplate slashes [] :=
  isTemplate_of_braceFree (fun hm => absurd (h _ hm) (by decide)) fun hm => absurd (h _ hm) (by decide)

/-- Slashes around a text move its brace at fault, and that is all they do. -/
theorem FaultyBrace.around {before behind : List Char} (hb : ∀ c ∈ before, c = '/') (ha : ∀ c ∈ behind, c = '/')
    (h : FaultyBrace text brace offset) : FaultyBrace (before ++ text ++ behind) brace (before.length + offset) := by
  obtain ⟨front, rest, names, rfl, hf, rfl, hbrace⟩ := h
  refine ⟨before ++ front, rest ++ behind, names, by simp, (isTemplate_of_slashes hb).append hf, ?_, ?_⟩
  · rw [byteLength_append, byteLength_of_slashes hb]
  · rcases hbrace with rfl | ⟨rfl, hclose⟩
    · exact .inl rfl
    · refine .inr ⟨rfl, ?_⟩
      intro hm
      rcases List.mem_append.1 hm with hm | hm
      · exact hclose hm
      · exact absurd (ha _ hm) (by decide)

/-- The number of slashes that a text begins with. -/
def leadingSlashes (text : List Char) : Nat :=
  (text.takeWhile isSlash).length

/-- A text is what is left of it between slashes. -/
theorem eq_around_trimSlashes (text : List Char) : ∃ before behind, text = before ++ trimSlashes text ++ behind ∧
    before.length = leadingSlashes text ∧ (∀ c ∈ before, c = '/') ∧ ∀ c ∈ behind, c = '/' := by
  obtain ⟨behind, htext, hb, ha⟩ := eq_around_trim isSlash text
  exact ⟨_, behind, htext, rfl, fun c hc => isSlash_iff.1 (hb c hc), fun c hc => isSlash_iff.1 (ha c hc)⟩

/-! ## Braces of a mounted template -/

/-- A template behind a slash is a template, since no name holds the slash. -/
theorem IsTemplate.behind_slash {front behind : List Char} {names : List String}
    (h : IsTemplate (front ++ '/' :: behind) names) : ∃ names, IsTemplate behind names := by
  obtain ⟨tokens, hs, -⟩ := h.exists_tokens
  obtain ⟨-, right, -, hright, -⟩ := hs.cut
  exact ⟨_, hright.isTemplate⟩

/-- A brace is at fault on the one side of a slash or on the other. -/
theorem FaultyBrace.of_append {front : List Char} (h : FaultyBrace (front ++ '/' :: text) brace offset) :
    FaultyBrace (front ++ ['/']) brace offset ∨
      ∃ j, FaultyBrace text brace j ∧ offset = byteLength (front ++ ['/']) + j := by
  obtain ⟨before, rest, names, ht, hf, rfl, hbrace⟩ := h
  have hsplit : front ++ ['/'] ++ text = before ++ brace :: rest := by simpa using ht
  rcases cut_append hsplit with ⟨more, rfl, rfl⟩ | ⟨more, hfront, rfl⟩
  · right
    have hbehind : IsTemplate (front ++ '/' :: more) names := by simpa using hf
    obtain ⟨others, hmore⟩ := hbehind.behind_slash
    exact ⟨_, ⟨more, rest, others, rfl, hmore, rfl, hbrace⟩, byteLength_append _ _⟩
  · left
    exact ⟨before, more, names, hfront, hf, rfl, hbrace.imp_right fun ⟨ho, hc⟩ => ⟨ho, fun hm => hc (by simp [hm])⟩⟩

/-- What a mounted text has in front of the template. -/
def mountFront (base : Option (List Char)) : List Char :=
  match base.map trimSlashes with
  | none | some [] => ['/']
  | some base => '/' :: base ++ ['/']

/-- A mounted text is what it has in front and what is left of the template, or the base alone. -/
theorem mount_eq_front (base : Option (List Char)) (template : List Char) : ∃ front, mountFront base = front ++ ['/'] ∧
    (mount base template = front ++ '/' :: trimSlashes template ∨ mount base template = front) := by
  cases base with
  | none => exact ⟨[], rfl, .inl rfl⟩
  | some base =>
    by_cases hb : trimSlashes base = []
    · exact ⟨[], by simp [mountFront, hb], .inl (by simp [mount, hb])⟩
    · obtain ⟨c, cs, hcons⟩ := List.exists_cons_of_ne_nil hb
      refine ⟨'/' :: trimSlashes base, by simp [mountFront, hcons], ?_⟩
      rw [mount_some hb, belowBase]
      split
      · exact .inr (List.append_nil _)
      · exact .inl rfl

/-- A brace at fault in a mounted text is at fault in front of the template, or in the template. There it has the
leading slashes before it that mounting drops, and not what mounting adds. -/
theorem FaultyBrace.of_mount {base : Option (List Char)} {template : List Char}
    (h : FaultyBrace (mount base template) brace offset) : FaultyBrace (mountFront base) brace offset ∨
      ∃ j, FaultyBrace template brace j ∧ offset + leadingSlashes template = j + byteLength (mountFront base) := by
  obtain ⟨before, behind, htemplate, hlength, hb, ha⟩ := eq_around_trimSlashes template
  obtain ⟨front, hfront, hm | hm⟩ := mount_eq_front base template
  · rw [hm] at h
    rw [hfront]
    rcases h.of_append with h | ⟨j, hj, rfl⟩
    · exact .inl h
    · right
      have haround := hj.around hb ha
      rw [← htemplate, hlength] at haround
      exact ⟨_, haround, by omega⟩
  · rw [hm] at h
    rw [hfront]
    have hnone : ∀ c ∈ ([] : List Char), c = '/' := by simp
    have hslash : ∀ c ∈ ['/'], c = '/' := by simp
    have haround := h.around hnone hslash
    rw [List.nil_append, List.length_nil, Nat.zero_add] at haround
    exact .inl haround

end FaultyBrace

/-! ## Declarations -/

namespace Declaration

/-- The text that is read for the template of a declaration. -/
def mountedText (d : Declaration) : List Char :=
  mount (d.base.map String.toList) d.template.toList

/-- What this text has in front of the template. -/
def mountedFront (d : Declaration) : List Char :=
  mountFront (d.base.map String.toList)

variable {d : Declaration} {e : RouteError} {template : String} {cause : TemplateError} {brace : Char} {offset : Nat}

/-- The error of a template tells the template that is declared, and why the mounted text is refused. -/
theorem compile_of_invalidTemplate (h : d.build.run.value = .error e)
    (he : e.defect = .invalidTemplate template cause) :
    template = d.template ∧
      Template.compile d.foldsCase (d.base.map String.toList) d.template.toList = .error cause := by
  rw [build_value, compile, except_mapError_error] at h
  obtain ⟨defect, hcheck, rfl⟩ := h
  obtain rfl : defect = _ := he
  cases firstDefect_of_check hcheck with
  | parameter _ _ hd => cases hd
  | template _ hc => exact ⟨rfl, hc⟩

/-- A slash is no brace. -/
theorem not_faultyBrace_slash : ¬ FaultyBrace ['/'] brace offset := by
  rintro ⟨front, rest, names, ht, -, -, hbrace⟩
  have hm : brace ∈ ['/'] := by simp [ht]
  rcases hbrace with rfl | ⟨rfl, -⟩
  · simp at hm
  · simp at hm

/-- The offset of a template error is the place of the brace at fault in the mounted text. In the template that is told
the brace has another place, if it is there at all, unless as many bytes are mounted in front of the template as it has
leading slashes: one, if there is no base and the template begins with one slash. -/
theorem build_offset (h : d.build.run.value = .error e) (he : e.defect = .invalidTemplate template cause)
    (hb : cause.brace? = some (brace, offset)) :
    template = d.template ∧
    FaultyBrace d.mountedText brace offset ∧ byteAt? d.mountedText offset = some (UInt8.ofNat brace.toNat) ∧
    (FaultyBrace d.mountedFront brace offset ∨
      ∃ place, FaultyBrace template.toList brace place ∧
        byteAt? template.toList place = some (UInt8.ofNat brace.toNat) ∧
        offset + leadingSlashes template.toList = place + byteLength d.mountedFront ∧
        (FaultyBrace template.toList brace offset ↔ leadingSlashes template.toList = byteLength d.mountedFront)) ∧
    (d.mountedFront = ['/'] → leadingSlashes template.toList = 1 →
      FaultyBrace template.toList brace offset ∧ byteAt? template.toList offset = some (UInt8.ofNat brace.toNat)) := by
  obtain ⟨rfl, hc⟩ := compile_of_invalidTemplate h he
  have hsize : cause ≠ .patternTooLarge := by
    rintro rfl
    cases hb
  have hmounted : FaultyBrace d.mountedText brace offset := .of_fault (Template.fault_of_compile hc hsize) hb
  have hplaces : FaultyBrace d.mountedFront brace offset ∨ ∃ place, FaultyBrace d.template.toList brace place ∧
      offset + leadingSlashes d.template.toList = place + byteLength d.mountedFront := hmounted.of_mount
  refine ⟨rfl, hmounted, hmounted.byteAt?_eq, ?_, ?_⟩
  · rcases hplaces with hfront | ⟨place, hfault, hplace⟩
    · exact .inl hfront
    · refine .inr ⟨place, hfault, hfault.byteAt?_eq, hplace, ?_, ?_⟩
      · intro hoffset
        have := hoffset.offset_eq hfault
        omega
      · intro hequal
        obtain rfl : offset = place := by omega
        exact hfault
  · intro hfront hone
    rcases hplaces with hslash | ⟨place, hfault, hplace⟩
    · rw [hfront] at hslash
      exact absurd hslash not_faultyBrace_slash
    · have hlength : byteLength ['/'] = 1 := by decide
      rw [hfront, hlength, hone] at hplace
      obtain rfl : offset = place := by omega
      exact ⟨hfault, hfault.byteAt?_eq⟩

/-- A template with a brace left open, under a base path. -/
def unclosed : Declaration :=
  .ofSteps "users.get" "users/\x7bid" [.under "api/", .serving .get]

/-- The brace is told by its place in the mounted text, behind eleven bytes; the template that is told has nine. -/
theorem build_offset_unclosed :
    unclosed.build.run.value = .error ⟨"users.get", .invalidTemplate "users/\x7bid" (.unclosedPlaceholder 11)⟩ ∧
    (TemplateError.unclosedPlaceholder 11).brace? = some ('{', 11) ∧
    unclosed.mountedText = "/api/users/\x7bid".toList ∧ FaultyBrace unclosed.mountedText '{' 11 ∧
    byteAt? unclosed.mountedText 11 = some (UInt8.ofNat '{'.toNat) := by
  have h : unclosed.build.run.value =
      .error ⟨"users.get", .invalidTemplate "users/\x7bid" (.unclosedPlaceholder 11)⟩ := by decide
  obtain ⟨-, hmounted, hbyte, -⟩ := build_offset h rfl rfl
  exact ⟨h, rfl, by decide, hmounted, hbyte⟩

/-- Without a leading slash the offset is that of no brace in the template that is told: the byte there is a letter, and
the brace at fault is the byte before it. -/
theorem offset_misses_template :
    (ofSteps "users.get" "users/\x7bid" [.serving .get]).build.run.value =
      .error ⟨"users.get", .invalidTemplate "users/\x7bid" (.unclosedPlaceholder 7)⟩ ∧
    byteAt? "users/\x7bid".toList 7 = some (UInt8.ofNat 'i'.toNat) ∧
    byteAt? "users/\x7bid".toList 6 = some (UInt8.ofNat '{'.toNat) := by
  refine ⟨by decide, ?_, ?_⟩
  · rw [byteAt?, Utf8.encode_ofList]
    decide
  · rw [byteAt?, Utf8.encode_ofList]
    decide

end Declaration

end TypedRoutes
