import TypedRoutes.Proofs.Template.Generation
/-!
# The grammar of templates

`IsTemplate` says what a template is without reading one: characters other than braces, and names in braces. A text
that is no template has one in front of a brace that is at fault (`FaultAt`). `TemplateFault` is the fault of such a
brace, or the first name of a template that is there twice.

Every text is a template with distinct names or has a fault (`isTemplate_or_fault`). Compiling gives the tokens of the
one (`Template.compile_of_isTemplate`) and tells the fault of the other (`Template.compile_of_fault`).
-/
namespace TypedRoutes

/-! ## Names -/

/-- A letter of ASCII or an underscore. -/
def NameStart (c : Char) : Prop :=
  ('A' ≤ c ∧ c ≤ 'Z') ∨ ('a' ≤ c ∧ c ≤ 'z') ∨ c = '_'

/-- A letter or a digit of ASCII or an underscore. -/
def NameChar (c : Char) : Prop :=
  NameStart c ∨ ('0' ≤ c ∧ c ≤ '9')

/-- A name: it does not begin with a digit. -/
def IsName (name : List Char) : Prop :=
  ∃ c rest, name = c :: rest ∧ NameStart c ∧ ∀ d ∈ rest, NameChar d

theorem startsName_iff {c : Char} : startsName c = true ↔ NameStart c := by
  have hranges : startsName c =
      (decide ('A' ≤ c ∧ c ≤ 'Z') || decide ('a' ≤ c) && decide (c ≤ 'z') || c == '_') := rfl
  rw [hranges, NameStart]
  simp [or_assoc]

theorem continuesName_iff {c : Char} : continuesName c = true ↔ NameChar c := by
  have hsplit : continuesName c = (startsName c || decide ('0' ≤ c) && decide (c ≤ '9')) := by
    rw [continuesName, startsName, Char.isAlphanum, Bool.or_right_comm]
    rfl
  rw [hsplit, Bool.or_eq_true, startsName_iff, NameChar]
  simp

theorem isIdentifier_iff {name : List Char} : isIdentifier name = true ↔ IsName name := by
  cases name with
  | nil => simp [isIdentifier, IsName]
  | cons c cs =>
    simp only [isIdentifier, Bool.and_eq_true, List.all_eq_true, startsName_iff, continuesName_iff]
    constructor
    · rintro ⟨hc, hcs⟩
      exact ⟨c, cs, rfl, hc, hcs⟩
    · rintro ⟨_, _, ⟨⟩, hc, hcs⟩
      exact ⟨hc, hcs⟩

theorem IsName.close_not_mem {name : List Char} (h : IsName name) : '}' ∉ name :=
  not_mem_of_isIdentifier (isIdentifier_iff.2 h) (by decide)

/-! ## Templates -/

/-- The text is a template with these names, in order: characters other than braces, and names in braces. -/
inductive IsTemplate : List Char → List String → Prop
  | nil : IsTemplate [] []
  | char {c : Char} {text : List Char} {names : List String} (ho : c ≠ '{') (hc : c ≠ '}')
      (h : IsTemplate text names) : IsTemplate (c :: text) names
  | group {name : String} {text : List Char} {names : List String} (hn : IsName name.toList)
      (h : IsTemplate text names) : IsTemplate ('{' :: name.toList ++ '}' :: text) (name :: names)

theorem IsTemplate.append {text more : List Char} {names others : List String} (h : IsTemplate text names)
    (h' : IsTemplate more others) : IsTemplate (text ++ more) (names ++ others) := by
  induction h with
  | nil => exact h'
  | char ho hc _ ih => exact .char ho hc ih
  | group hn _ ih =>
    rw [List.append_assoc]
    exact .group hn ih

/-- Text without braces is a template without names. -/
theorem isTemplate_of_braceFree {text : List Char} (ho : '{' ∉ text) (hc : '}' ∉ text) : IsTemplate text [] := by
  induction text with
  | nil => exact .nil
  | cons c text ih =>
    rw [List.mem_cons, not_or] at ho hc
    exact .char (Ne.symm ho.1) (Ne.symm hc.1) (ih ho.2 hc.2)

theorem isTemplate_untokenize {tokens : List Token} (hw : ∀ token ∈ tokens, token.WellFormed) :
    IsTemplate (untokenize tokens) (placeholders tokens) := by
  induction tokens with
  | nil => exact .nil
  | cons token tokens ih =>
    rw [List.forall_mem_cons] at hw
    rw [untokenize_cons]
    cases token with
    | literal text => exact (isTemplate_of_braceFree hw.1.1 hw.1.2).append (ih hw.2)
    | placeholder name =>
      rw [Token.text, List.append_assoc]
      exact .group (isIdentifier_iff.1 hw.1) (ih hw.2)

/-- What tokens spell is a template, with the names of their placeholders. -/
theorem Spells.isTemplate {tokens : List Token} {text : List Char} (h : Spells tokens text) :
    IsTemplate text (placeholders tokens) :=
  h.text_eq ▸ isTemplate_untokenize h.wellFormed

/-- A template is spelled by tokens with its names. -/
theorem IsTemplate.exists_tokens {text : List Char} {names : List String} (h : IsTemplate text names) :
    ∃ tokens, Spells tokens text ∧ placeholders tokens = names := by
  induction h with
  | nil => exact ⟨[], spells_nil, rfl⟩
  | @char c text names ho hc _ ih =>
    obtain ⟨tokens, hs, rfl⟩ := ih
    have hw : (Token.literal [c]).WellFormed := by
      exact ⟨fun hm => ho (List.mem_singleton.1 hm).symm, fun hm => hc (List.mem_singleton.1 hm).symm⟩
    exact ⟨.literal [c] :: tokens, hs.cons hw, rfl⟩
  | @group name text names hn _ ih =>
    obtain ⟨tokens, hs, rfl⟩ := ih
    have hspelled := hs.named (isIdentifier_iff.2 hn)
    rw [String.ofList_toList] at hspelled
    exact ⟨.placeholder name :: tokens, hspelled, rfl⟩

/-- A template is read into tokens with its names. -/
theorem IsTemplate.tokenize {text : List Char} {names : List String} (h : IsTemplate text names) :
    ∃ tokens, tokenize text = .ok tokens ∧ placeholders tokens = names := by
  obtain ⟨tokens, hs, rfl⟩ := h.exists_tokens
  exact ⟨_, tokenize_of_spells hs, placeholders_merge [] tokens⟩

/-! ## Faults -/

/-- The fault of the brace at the front of a text, with so many bytes before it. -/
inductive FaultAt (offset : Nat) : List Char → TemplateError → Prop
  | close (rest : List Char) : FaultAt offset ('}' :: rest) (.unexpectedClose offset)
  | unclosed {rest : List Char} (h : '}' ∉ rest) : FaultAt offset ('{' :: rest) (.unclosedPlaceholder offset)
  | name {name : String} (hc : '}' ∉ name.toList) (hn : ¬ IsName name.toList) (rest : List Char) :
      FaultAt offset ('{' :: name.toList ++ '}' :: rest) (.invalidName name)

/-- What keeps a text from being a template with distinct names: a brace, with a template before it, or the first name
of a template that is there twice. -/
inductive TemplateFault (text : List Char) : TemplateError → Prop
  | brace {front rest : List Char} {names : List String} {e : TemplateError} (ht : text = front ++ rest)
      (hf : IsTemplate front names) (h : FaultAt (byteLength front) rest e) : TemplateFault text e
  | twice {before after : List String} {name : String} (ht : IsTemplate text (before ++ name :: after))
      (hn : before.Nodup) (hm : name ∈ before) : TemplateFault text (.duplicatePlaceholder name)

theorem fault_unexpectedClose_iff {text : List Char} {i : Nat} : TemplateFault text (.unexpectedClose i) ↔
    ∃ front rest names, text = front ++ '}' :: rest ∧ IsTemplate front names ∧ byteLength front = i := by
  constructor
  · intro h
    cases h with
    | brace ht hf h =>
      cases h with
      | close rest => exact ⟨_, rest, _, ht, hf, rfl⟩
  · rintro ⟨front, rest, names, ht, hf, rfl⟩
    exact .brace ht hf (.close rest)

theorem fault_unclosedPlaceholder_iff {text : List Char} {i : Nat} : TemplateFault text (.unclosedPlaceholder i) ↔
    ∃ front rest names, text = front ++ '{' :: rest ∧ IsTemplate front names ∧ '}' ∉ rest ∧ byteLength front = i := by
  constructor
  · intro h
    cases h with
    | brace ht hf h =>
      cases h with
      | unclosed hc => exact ⟨_, _, _, ht, hf, hc, rfl⟩
  · rintro ⟨front, rest, names, ht, hf, h, rfl⟩
    exact .brace ht hf (.unclosed h)

theorem fault_invalidName_iff {text : List Char} {name : String} : TemplateFault text (.invalidName name) ↔
    ∃ front rest names, text = front ++ '{' :: name.toList ++ '}' :: rest ∧ IsTemplate front names ∧
      '}' ∉ name.toList ∧ ¬ IsName name.toList := by
  constructor
  · intro h
    cases h with
    | brace ht hf h =>
      cases h with
      | name hc hn rest => exact ⟨_, rest, _, by rw [ht, List.append_assoc], hf, hc, hn⟩
  · rintro ⟨front, rest, names, rfl, hf, hc, hn⟩
    exact .brace (List.append_assoc _ _ _) hf (.name hc hn rest)

theorem fault_duplicatePlaceholder_iff {text : List Char} {name : String} :
    TemplateFault text (.duplicatePlaceholder name) ↔
      ∃ before after, IsTemplate text (before ++ name :: after) ∧ before.Nodup ∧ name ∈ before := by
  constructor
  · intro h
    cases h with
    | brace _ _ h => cases h
    | twice ht hn hm => exact ⟨_, _, ht, hn, hm⟩
  · rintro ⟨before, after, ht, hn, hm⟩
    exact .twice ht hn hm

/-- A fault is found behind whatever is read before it. -/
theorem readLiteral_of_faultAt {offset : Nat} {rest : List Char} {e : TemplateError} (h : FaultAt offset rest e)
    (literal : List Char) : readLiteral offset literal rest = .error e := by
  cases h with
  | close rest => rw [readLiteral, if_pos rfl]
  | unclosed h =>
    rw [readLiteral, if_neg (by decide), if_pos rfl, readName_unclosed h]
    rfl
  | @name name hc hn rest =>
    have hid : ¬ isIdentifier name.toList = true := fun hid => hn (isIdentifier_iff.1 hid)
    rw [List.cons_append, readLiteral, if_neg (by decide), if_pos rfl, readName_closed hc, if_neg hid,
      String.ofList_toList]
    rfl

/-- What is wrong behind a template is found, with the bytes of the template before it. -/
theorem IsTemplate.readLiteral_error {front rest : List Char} {names : List String} {e : TemplateError}
    (hf : IsTemplate front names) {offset : Nat}
    (h : ∀ literal, readLiteral (offset + byteLength front) literal rest = .error e) (literal : List Char) :
    readLiteral offset literal (front ++ rest) = .error e := by
  induction hf generalizing offset literal with
  | nil => exact h literal
  | @char c text names ho hc _ ih =>
    rw [List.cons_append, readLiteral, if_neg hc, if_neg ho]
    refine ih (fun literal => ?_) _
    rw [Nat.add_assoc]
    exact h literal
  | @group name text names hn _ ih =>
    have hlength : byteLength ('{' :: name.toList ++ '}' :: text) =
        1 + byteLength name.toList + 1 + byteLength text := by
      rw [List.cons_append, byteLength, byteLength_append, byteLength]
      have hopen : '{'.utf8Size = 1 := by decide
      have hclose : '}'.utf8Size = 1 := by decide
      omega
    have hrest : readLiteral (offset + 1 + byteLength name.toList + 1) [] (text ++ rest) = .error e := by
      refine ih (fun literal => ?_) []
      have := h literal
      rw [hlength] at this
      simpa [Nat.add_assoc] using this
    rw [List.cons_append, List.cons_append, List.append_assoc, List.cons_append, readLiteral, if_neg (by decide),
      if_pos rfl, readName_closed hn.close_not_mem, if_pos (isIdentifier_iff.2 hn), hrest]
    rfl

/-- A text is read up to the brace that is at fault. -/
theorem tokenize_of_faultAt {front rest : List Char} {names : List String} {e : TemplateError}
    (hf : IsTemplate front names) (h : FaultAt (byteLength front) rest e) : tokenize (front ++ rest) = .error e := by
  rw [tokenize]
  refine hf.readLiteral_error (fun literal => ?_) []
  rw [Nat.zero_add]
  exact readLiteral_of_faultAt h literal

/-- Every text is a template, or has one in front of a brace that is at fault. -/
theorem exists_template_front (text : List Char) : ∃ front rest names, text = front ++ rest ∧ IsTemplate front names ∧
    (rest = [] ∨ ∀ offset, ∃ e, FaultAt offset rest e) := by
  cases text with
  | nil => exact ⟨[], [], [], rfl, .nil, .inl rfl⟩
  | cons c cs =>
    by_cases hclose : c = '}'
    · subst hclose
      exact ⟨[], _, [], rfl, .nil, .inr fun offset => ⟨_, .close cs⟩⟩
    by_cases hopen : c = '{'
    · subst hopen
      by_cases hm : '}' ∈ cs
      · obtain ⟨name, more, rfl, hname⟩ := List.eq_append_cons_of_mem hm
        rw [← String.toList_ofList (l := name)] at hname ⊢
        by_cases hn : IsName (String.ofList name).toList
        · obtain ⟨front, rest, names, rfl, ht, hr⟩ := exists_template_front more
          exact ⟨_, rest, _, by simp, .group hn ht, hr⟩
        · exact ⟨[], _, [], rfl, .nil, .inr fun offset => ⟨_, .name hname hn more⟩⟩
      · exact ⟨[], _, [], rfl, .nil, .inr fun offset => ⟨_, .unclosed hm⟩⟩
    · obtain ⟨front, rest, names, rfl, ht, hr⟩ := exists_template_front cs
      exact ⟨c :: front, rest, names, rfl, .char hopen hclose ht, hr⟩
termination_by text.length

/-- Every text is a template with distinct names, or has a fault. -/
theorem isTemplate_or_fault (text : List Char) :
    (∃ names, IsTemplate text names ∧ names.Nodup) ∨ ∃ e, TemplateFault text e := by
  obtain ⟨front, rest, names, rfl, ht, rfl | hr⟩ := exists_template_front text
  · rw [List.append_nil]
    cases hd : duplicate? [] names with
    | none => exact .inl ⟨names, ht, (duplicate?_eq_none.1 hd).1⟩
    | some name =>
      obtain ⟨before, after, rfl, hn, hm⟩ := duplicate?_nil_eq_some_iff.1 hd
      exact .inr ⟨_, .twice ht hn hm⟩
  · obtain ⟨e, he⟩ := hr (byteLength front)
    exact .inr ⟨e, .brace rfl ht he⟩

/-! ## The tokens of a template -/

/-- Literals that are made one are not empty. -/
theorem ne_nil_of_literal_mem_merge {literal : List Char} {tokens : List Token} {text : List Char}
    (h : .literal text ∈ merge literal tokens) : text ≠ [] := by
  have htoken : ∀ literal, Token.literal text ∈ literalToken literal → text ≠ [] := by
    intro literal hm
    cases literal with
    | nil => cases hm
    | cons c cs =>
      cases List.mem_singleton.1 hm
      exact List.cons_ne_nil c cs
  induction tokens generalizing literal with
  | nil => exact htoken literal h
  | cons token tokens ih =>
    cases token with
    | literal text' => exact ih h
    | placeholder name =>
      rw [merge, List.mem_append, List.mem_cons] at h
      rcases h with h | h | h
      · exact htoken literal h
      · cases h
      · exact ih h

/-- Literals that are made one do not follow each other. -/
theorem not_infix_merge (first second literal : List Char) (tokens : List Token) :
    ¬ [.literal first, .literal second] <:+: merge literal tokens := by
  induction tokens generalizing literal with
  | nil => cases literal <;> simp [merge, literalToken, List.infix_cons_iff]
  | cons token tokens ih =>
    cases token with
    | literal text => exact ih (literal ++ text)
    | placeholder name => cases literal <;> simp [merge, literalToken, List.infix_cons_iff, ih]

/-- The tokens that are read from a text have their literals made one. -/
theorem merge_of_tokenize {text : List Char} {tokens : List Token} (h : tokenize text = .ok tokens) :
    merge [] tokens = tokens := by
  have hm := tokenize_of_spells (spells_of_tokenize h)
  rw [h] at hm
  injection hm with hm
  exact hm.symm

/-- The tokens of a text that begins with a slash begin with a literal that does. -/
theorem head_of_tokenize {text : List Char} {tokens : List Token} (h : tokenize text = .ok tokens)
    (hslash : text.head? = some '/') : ∃ literal more, tokens = .literal ('/' :: literal) :: more := by
  rw [← untokenize_of_tokenize h] at hslash
  cases tokens with
  | nil => cases hslash
  | cons token more =>
    cases token with
    | placeholder name => cases hslash
    | literal text =>
      have hm : .literal text ∈ merge [] (.literal text :: more) := by
        rw [merge_of_tokenize h]
        exact List.mem_cons_self
      have hne := ne_nil_of_literal_mem_merge hm
      obtain ⟨c, literal, rfl⟩ := List.exists_cons_of_ne_nil hne
      rw [untokenize_cons, Token.text, List.cons_append, List.head?_cons] at hslash
      cases hslash
      exact ⟨literal, more, rfl⟩

/-! ## What compiling decides -/

namespace Template
section Compiled
variable {foldsCase : Bool} {base : Option (List Char)} {template : List Char}

/-- A template with distinct names compiles, if its patterns are within the limit. -/
theorem compile_of_isTemplate {names : List String} (h : IsTemplate (mount base template) names) (hn : names.Nodup)
    (hl : ∀ tokens, tokenize (mount base template) = .ok tokens →
      (ofTokens foldsCase (mount base template) tokens).withinLimit = true) :
    ∃ t, compile foldsCase base template = .ok t := by
  obtain ⟨tokens, ht, rfl⟩ := h.tokenize
  exact ⟨_, compile_of_tokenize ht hn (hl tokens ht)⟩

/-- A text with a fault is refused for it. -/
theorem compile_of_fault {e : TemplateError} (h : TemplateFault (mount base template) e) :
    compile foldsCase base template = .error e := by
  cases h with
  | brace ht hf h =>
    rw [compile, ht, tokenize_of_faultAt hf h]
    rfl
  | twice ht hn hm =>
    obtain ⟨tokens, hread, hnames⟩ := ht.tokenize
    have hd := duplicate?_nil_eq_some_iff.2 ⟨_, _, hnames, hn, hm⟩
    simp only [compile, hread, bind, Except.bind, hd]

/-- A text that is refused, and not for its size, has the fault that is told. -/
theorem fault_of_compile {e : TemplateError} (h : compile foldsCase base template = .error e)
    (hs : e ≠ .patternTooLarge) : TemplateFault (mount base template) e := by
  rcases isTemplate_or_fault (mount base template) with ⟨names, ht, hn⟩ | ⟨e', hf⟩
  · obtain ⟨tokens, hread, rfl⟩ := ht.tokenize
    have hd := duplicate?_eq_none.2 ⟨hn, fun _ _ => List.not_mem_nil⟩
    simp only [compile, hread, bind, Except.bind, hd] at h
    split at h
    · cases h
    · injection h with h
      exact absurd h.symm hs
  · rw [compile_of_fault hf] at h
    injection h with h
    exact h ▸ hf

/-- A text is refused for its fault, if its patterns are within the limit. -/
theorem compile_eq_error_iff {e : TemplateError}
    (hl : ∀ tokens, tokenize (mount base template) = .ok tokens →
      (ofTokens foldsCase (mount base template) tokens).withinLimit = true) :
    compile foldsCase base template = .error e ↔ TemplateFault (mount base template) e := by
  refine ⟨fun h => ?_, compile_of_fault⟩
  rcases isTemplate_or_fault (mount base template) with ⟨names, ht, hn⟩ | ⟨e', hf⟩
  · obtain ⟨t, hc⟩ := compile_of_isTemplate ht hn hl
    rw [h] at hc
    cases hc
  · have he : compile foldsCase base template = .error e' := compile_of_fault hf
    obtain rfl : e = e' := by
      rw [h] at he
      injection he
    exact hf

end Compiled

/-- Compiling accepts exactly the templates with distinct names, if their patterns are within the limit. The tokens of
one are its text: no literal is empty or has a brace in it, no two follow each other, and the first begins with the
slash. A text is refused for a brace at fault behind a template, told by its place in bytes or by the text in the
braces, and a template for its first name that is there twice. -/
theorem compile_decides_grammar (foldsCase : Bool) (base : Option (List Char)) (template : List Char)
    (hl : ∀ tokens, tokenize (mount base template) = .ok tokens →
      (ofTokens foldsCase (mount base template) tokens).withinLimit = true) :
    ((∃ t, compile foldsCase base template = .ok t) ↔ ∃ names, IsTemplate (mount base template) names ∧ names.Nodup) ∧
    (∀ t, compile foldsCase base template = .ok t →
      untokenize t.tokens = mount base template ∧ IsTemplate (mount base template) t.placeholders ∧
      (∀ text, .literal text ∈ t.tokens → text ≠ [] ∧ '{' ∉ text ∧ '}' ∉ text) ∧
      (∀ first second, ¬ [.literal first, .literal second] <:+: t.tokens) ∧
      ∃ text more, t.tokens = .literal ('/' :: text) :: more) ∧
    (∀ i, compile foldsCase base template = .error (.unexpectedClose i) ↔ ∃ front rest names,
      mount base template = front ++ '}' :: rest ∧ IsTemplate front names ∧
        (String.ofList front).utf8ByteSize = i) ∧
    (∀ i, compile foldsCase base template = .error (.unclosedPlaceholder i) ↔ ∃ front rest names,
      mount base template = front ++ '{' :: rest ∧ IsTemplate front names ∧ '}' ∉ rest ∧
        (String.ofList front).utf8ByteSize = i) ∧
    (∀ name, compile foldsCase base template = .error (.invalidName name) ↔ ∃ front rest names,
      mount base template = front ++ '{' :: name.toList ++ '}' :: rest ∧ IsTemplate front names ∧
        '}' ∉ name.toList ∧ ¬ IsName name.toList) ∧
    (∀ name, compile foldsCase base template = .error (.duplicatePlaceholder name) ↔ ∃ before after,
      IsTemplate (mount base template) (before ++ name :: after) ∧ before.Nodup ∧ name ∈ before) ∧
    compile foldsCase base template ≠ .error .patternTooLarge := by
  simp only [compile_eq_error_iff hl, ← byteLength_eq]
  refine ⟨⟨?_, ?_⟩, fun t h => ?_, fun _ => fault_unexpectedClose_iff, fun _ => fault_unclosedPlaceholder_iff,
    fun _ => fault_invalidName_iff, fun _ => fault_duplicatePlaceholder_iff, fun h => ?_⟩
  · rintro ⟨t, h⟩
    obtain ⟨ht, -, hn⟩ := of_compile h
    exact ⟨t.placeholders, (spells_of_tokenize ht).isTemplate, hn⟩
  · rintro ⟨names, ht, hn⟩
    exact compile_of_isTemplate ht hn hl
  · obtain ⟨ht, -, -⟩ := of_compile h
    have hs := spells_of_tokenize ht
    have hmerge := merge_of_tokenize ht
    refine ⟨hs.text_eq, hs.isTemplate, fun text hm => ⟨?_, hs.wellFormed _ hm⟩, fun first second hi => ?_,
      head_of_tokenize ht (mount_ends base template).1⟩
    · rw [← hmerge] at hm
      exact ne_nil_of_literal_mem_merge hm
    · rw [← hmerge] at hi
      exact not_infix_merge first second [] t.tokens hi
  · cases (compile_eq_error_iff hl).1 h with
    | brace _ _ h => cases h

/-- The text of a menu under a base path is a template with two names, so it compiles to tokens of this text. -/
theorem compile_decides_grammar_menu :
    (∀ tokens, tokenize (mount (some "v1/".toList) "/café/{day}-{dish_2}".toList) = .ok tokens →
      (ofTokens true (mount (some "v1/".toList) "/café/{day}-{dish_2}".toList) tokens).withinLimit = true) ∧
    ∃ t, compile true (some "v1/".toList) "/café/{day}-{dish_2}".toList = .ok t ∧
      untokenize t.tokens = "/v1/café/{day}-{dish_2}".toList := by
  have hread : tokenize (mount (some "v1/".toList) "/café/{day}-{dish_2}".toList) = .ok
      [.literal "/v1/café/".toList, .placeholder "day", .literal ['-'], .placeholder "dish_2"] := by decide
  have hl : ∀ tokens, tokenize (mount (some "v1/".toList) "/café/{day}-{dish_2}".toList) = .ok tokens →
      (ofTokens true (mount (some "v1/".toList) "/café/{day}-{dish_2}".toList) tokens).withinLimit = true := by
    intro tokens h
    rw [hread] at h
    cases h
    decide
  obtain ⟨haccepted, htokens, -⟩ := compile_decides_grammar true (some "v1/".toList) "/café/{day}-{dish_2}".toList hl
  obtain ⟨t, h⟩ := haccepted.2 ⟨_, (spells_of_tokenize hread).isTemplate, by decide⟩
  have hmount : mount (some "v1/".toList) "/café/{day}-{dish_2}".toList = "/v1/café/{day}-{dish_2}".toList := by decide
  exact ⟨hl, t, h, (htokens t h).1.trans hmount⟩

/-- A brace at fault comes before a name that is there twice. Its place is counted in bytes. -/
example : compile false none "/é/{a}/{a}/\x7d".toList = .error (.unexpectedClose 12) := by decide

end Template

end TypedRoutes
