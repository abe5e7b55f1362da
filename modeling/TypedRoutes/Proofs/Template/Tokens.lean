import TypedRoutes.Template.Basic
import TypedRoutes.Proofs.Result
/-!
# What compiles

A text is a template if tokens spell it: text without braces, and names in braces. The tokens that are read from a
template spell it (`spells_of_tokenize`), and whatever spells a text is read from it again, up to the cuts between
literals (`tokenize_of_spells`). A template that compiles has the tokens of its mounted text, each placeholder once
(`Template.of_compile`), and one with such tokens compiles if its patterns are not too large
(`Template.compile_of_tokenize`).
-/
namespace TypedRoutes

@[simp] theorem untokenize_cons (token : Token) (tokens : List Token) :
    untokenize (token :: tokens) = token.text ++ untokenize tokens :=
  List.flatMap_cons

/-! ## Tokens that spell a text -/

/-- A literal without braces, or a placeholder whose name is an identifier. -/
def Token.WellFormed : Token → Prop
  | literal text => '{' ∉ text ∧ '}' ∉ text
  | placeholder name => isIdentifier name.toList = true

instance Token.WellFormed.decidable : (token : Token) → Decidable token.WellFormed
  | .literal _ => inferInstanceAs (Decidable (_ ∧ _))
  | .placeholder _ => inferInstanceAs (Decidable (_ = true))

/-- The text is that of well-formed tokens, one after the other: text without braces and names in braces. -/
structure Spells (tokens : List Token) (text : List Char) : Prop where
  wellFormed : ∀ token ∈ tokens, token.WellFormed
  text_eq : untokenize tokens = text

theorem spells_nil : Spells [] [] :=
  ⟨by simp, rfl⟩

theorem Spells.cons {token : Token} {tokens : List Token} {text : List Char} (hw : token.WellFormed)
    (h : Spells tokens text) : Spells (token :: tokens) (token.text ++ text) :=
  ⟨List.forall_mem_cons.2 ⟨hw, h.wellFormed⟩, by rw [untokenize_cons, h.text_eq]⟩

theorem Spells.literalToken {text rest : List Char} {tokens : List Token} (ho : '{' ∉ text) (hc : '}' ∉ text)
    (h : Spells tokens rest) : Spells (literalToken text ++ tokens) (text ++ rest) := by
  cases text with
  | nil => exact h
  | cons c cs => exact h.cons ⟨ho, hc⟩

theorem Spells.named {name rest : List Char} {tokens : List Token} (hn : isIdentifier name = true)
    (h : Spells tokens rest) : Spells (.placeholder (String.ofList name) :: tokens) ('{' :: name ++ '}' :: rest) := by
  have hw : (Token.placeholder (String.ofList name)).WellFormed := by
    rw [Token.WellFormed, String.toList_ofList]
    exact hn
  have := h.cons hw
  simpa [Token.text] using this

/-- The names that are spelled are identifiers. -/
theorem Spells.isIdentifier_of_mem {tokens : List Token} {text : List Char} {name : String} (h : Spells tokens text)
    (hm : name ∈ placeholders tokens) : isIdentifier name.toList = true := by
  obtain ⟨token, ht, he⟩ := List.mem_filterMap.1 hm
  cases token with
  | literal text => cases he
  | placeholder other =>
    cases he
    exact h.wellFormed _ ht

/-- Both readers keep all that they have read: the literal or the name so far, and the text ahead. At a brace the one
hands over to the other, so one induction carries both. -/
theorem spells_of_read (cs : List Char) :
    (∀ offset literal tokens, '{' ∉ literal → '}' ∉ literal → readLiteral offset literal cs = .ok tokens →
      Spells tokens (literal.reverse ++ cs)) ∧
    (∀ start offset name tokens, readName start offset name cs = .ok tokens →
      Spells tokens ('{' :: name.reverse ++ cs)) := by
  induction cs with
  | nil =>
    refine ⟨fun offset literal tokens ho hc h => ?_, fun start offset name tokens h => ?_⟩
    · rw [readLiteral] at h
      obtain rfl : TypedRoutes.literalToken literal.reverse = tokens := by simpa using h
      have hspelled : Spells (TypedRoutes.literalToken literal.reverse ++ []) (literal.reverse ++ []) :=
        spells_nil.literalToken (by simpa using ho) (by simpa using hc)
      simpa using hspelled
    · rw [readName] at h
      cases h
  | cons c cs ih =>
    obtain ⟨ihLiteral, ihName⟩ := ih
    refine ⟨fun offset literal tokens ho hc h => ?_, fun start offset name tokens h => ?_⟩
    · rw [readLiteral] at h
      split at h
      · cases h
      · rename_i hclose
        split at h
        · rename_i hopen
          subst hopen
          obtain ⟨more, hr, h⟩ := except_bind_ok h
          cases h
          exact (ihName _ _ _ _ hr).literalToken (by simpa using ho) (by simpa using hc)
        · rename_i hopen
          have := ihLiteral _ _ _ (by simp [ho, Ne.symm hopen]) (by simp [hc, Ne.symm hclose]) h
          simpa using this
    · rw [readName] at h
      split at h
      · rename_i hclose
        subst hclose
        split at h
        · rename_i hn
          obtain ⟨more, hr, h⟩ := except_bind_ok h
          cases h
          exact (ihLiteral _ _ _ (by simp) (by simp) hr).named hn
        · cases h
      · have := ihName _ _ _ _ h
        simpa using this

/-- The tokens of a template spell it. -/
theorem spells_of_tokenize {template : List Char} {tokens : List Token} (h : tokenize template = .ok tokens) :
    Spells tokens template :=
  (spells_of_read template).1 0 [] tokens (by simp) (by simp) h

/-- A template is its tokens, written one after the other. -/
theorem untokenize_of_tokenize {template : List Char} {tokens : List Token} (h : tokenize template = .ok tokens) :
    untokenize tokens = template :=
  (spells_of_tokenize h).text_eq

/-! ## Reading what tokens spell -/

/-- The bytes of a text. -/
def byteLength : List Char → Nat
  | [] => 0
  | c :: cs => c.utf8Size + byteLength cs

/-- The tokens with literals that follow each other made one, behind a literal so far. -/
def merge (literal : List Char) : List Token → List Token
  | [] => literalToken literal
  | .literal text :: tokens => merge (literal ++ text) tokens
  | .placeholder name :: tokens => literalToken literal ++ .placeholder name :: merge [] tokens

theorem byteLength_append (text more : List Char) : byteLength (text ++ more) = byteLength text + byteLength more := by
  induction text with
  | nil => exact (Nat.zero_add _).symm
  | cons c text ih => rw [List.cons_append, byteLength, byteLength, ih, Nat.add_assoc]

/-- The bytes of a text are those of its string. -/
theorem byteLength_eq (text : List Char) : byteLength text = (String.ofList text).utf8ByteSize := by
  induction text with
  | nil => rfl
  | cons c text ih =>
    have hcons : c :: text = [c] ++ text := rfl
    rw [byteLength, ih, hcons, String.ofList_append, String.utf8ByteSize_append]
    simp

/-- Text without braces goes to the literal so far. -/
theorem readLiteral_append {text : List Char} (ho : '{' ∉ text) (hc : '}' ∉ text) (offset : Nat)
    (literal rest : List Char) :
    readLiteral offset literal (text ++ rest) =
      readLiteral (offset + byteLength text) (text.reverse ++ literal) rest := by
  induction text generalizing offset literal with
  | nil => rfl
  | cons c text ih =>
    rw [List.mem_cons, not_or] at ho hc
    rw [List.cons_append, readLiteral, if_neg (Ne.symm hc.1), if_neg (Ne.symm ho.1), ih ho.2 hc.2]
    simp [byteLength, Nat.add_assoc]

/-- Text without a closing brace goes to the name so far. -/
theorem readName_append {text : List Char} (hc : '}' ∉ text) (start offset : Nat) (name rest : List Char) :
    readName start offset name (text ++ rest) =
      readName start (offset + byteLength text) (text.reverse ++ name) rest := by
  induction text generalizing offset name with
  | nil => rfl
  | cons c text ih =>
    rw [List.mem_cons, not_or] at hc
    rw [List.cons_append, readName, if_neg (Ne.symm hc.1), ih hc.2]
    simp [byteLength, Nat.add_assoc]

/-- Without a closing brace ahead a name has no end. -/
theorem readName_unclosed {text : List Char} (hc : '}' ∉ text) (start offset : Nat) (name : List Char) :
    readName start offset name text = .error (.unclosedPlaceholder start) := by
  have h := readName_append hc start offset name []
  rwa [List.append_nil, readName] at h

/-- The name up to the next closing brace is a placeholder if it is an identifier. -/
theorem readName_closed {name : List Char} (hc : '}' ∉ name) (start offset : Nat) (rest : List Char) :
    readName start offset [] (name ++ '}' :: rest) =
      if isIdentifier name then
        (readLiteral (offset + byteLength name + 1) [] rest).map (.placeholder (String.ofList name) :: ·)
      else .error (.invalidName (String.ofList name)) := by
  rw [readName_append hc, readName, if_pos rfl, List.append_nil, List.reverse_reverse]
  rfl

theorem not_mem_of_isIdentifier {name : List Char} {c : Char} (h : isIdentifier name = true)
    (hc : continuesName c = false) : c ∉ name := by
  cases name with
  | nil => cases h
  | cons d ds =>
    rw [isIdentifier, Bool.and_eq_true, List.all_eq_true] at h
    have hstart : ∀ e, startsName e = true → continuesName e = true := by
      intro e he
      simp only [startsName, continuesName, Char.isAlphanum, Bool.or_eq_true] at he ⊢
      exact he.imp_left .inl
    rintro hm
    have hcontinues : continuesName c = true := by
      rcases List.mem_cons.1 hm with rfl | hm
      · exact hstart c h.1
      · exact h.2 c hm
    rw [hc] at hcontinues
    cases hcontinues

/-- The text of a placeholder is its name in braces, and a name is made of few characters. -/
theorem not_mem_placeholder_text {name : String} {c : Char} (h : isIdentifier name.toList = true)
    (hc : continuesName c = false) (hopen : c ≠ '{') (hclose : c ≠ '}') : c ∉ (Token.placeholder name).text := by
  simp only [Token.text, List.mem_cons, List.mem_append, List.not_mem_nil, or_false, not_or]
  exact ⟨⟨hopen, not_mem_of_isIdentifier h hc⟩, hclose⟩

/-- Well-formed tokens are read again, but for the places where their literals are cut. -/
theorem readLiteral_untokenize {tokens : List Token} (h : ∀ token ∈ tokens, token.WellFormed) (offset : Nat)
    (literal : List Char) : readLiteral offset literal (untokenize tokens) = .ok (merge literal.reverse tokens) := by
  induction tokens generalizing offset literal with
  | nil => rfl
  | cons token tokens ih =>
    rw [List.forall_mem_cons] at h
    rw [untokenize_cons]
    cases token with
    | literal text =>
      rw [Token.text, readLiteral_append h.1.1 h.1.2, ih h.2, merge, List.reverse_append, List.reverse_reverse]
    | placeholder name =>
      have hname : isIdentifier name.toList = true := h.1
      have hclose := not_mem_of_isIdentifier (c := '}') hname (by decide)
      rw [Token.text, List.cons_append, List.cons_append, List.append_assoc, List.singleton_append, readLiteral,
        if_neg (by decide), if_pos rfl, readName_closed hclose, if_pos hname, ih h.2, String.ofList_toList]
      rfl

theorem tokenize_of_spells {tokens : List Token} {text : List Char} (h : Spells tokens text) :
    tokenize text = .ok (merge [] tokens) := by
  rw [tokenize, ← h.text_eq]
  exact readLiteral_untokenize h.wellFormed 0 []

theorem placeholders_append (tokens more : List Token) :
    placeholders (tokens ++ more) = placeholders tokens ++ placeholders more :=
  List.filterMap_append

theorem placeholders_literalToken (text : List Char) : placeholders (literalToken text) = [] := by
  cases text <;> rfl

@[simp] theorem placeholders_merge (literal : List Char) (tokens : List Token) :
    placeholders (merge literal tokens) = placeholders tokens := by
  induction tokens generalizing literal with
  | nil => exact placeholders_literalToken literal
  | cons token tokens ih =>
    cases token with
    | literal text => exact ih (literal ++ text)
    | placeholder name =>
      rw [merge, placeholders_append, placeholders_literalToken, List.nil_append]
      exact congrArg (name :: ·) (ih [])

/-! ## Templates that compile -/

theorem duplicate?_eq_none {seen names : List String} :
    duplicate? seen names = none ↔ names.Nodup ∧ ∀ name ∈ names, name ∉ seen := by
  induction names generalizing seen with
  | nil => simp [duplicate?]
  | cons name names ih =>
    rw [duplicate?]
    split
    · rename_i hs
      have hs' : name ∈ seen := by simpa using hs
      simp [hs']
    · rename_i hs
      have hs' : name ∉ seen := by simpa using hs
      rw [ih, List.nodup_cons]
      constructor
      · rintro ⟨hn, hall⟩
        refine ⟨⟨fun hm => hall name hm List.mem_cons_self, hn⟩, ?_⟩
        rintro other (_ | ⟨_, ho⟩)
        · exact hs'
        · exact fun hm => hall other ho (List.mem_cons_of_mem _ hm)
      · rintro ⟨⟨hm, hn⟩, hall⟩
        refine ⟨hn, fun other ho => ?_⟩
        rintro (_ | ⟨_, h⟩)
        · exact hm ho
        · exact hall other (List.mem_cons_of_mem _ ho) h

/-- A name is told if it is the first that occurred before, in the names already read or among those seen. -/
theorem duplicate?_eq_some_iff {seen names : List String} {name : String} :
    duplicate? seen names = some name ↔ ∃ before after, names = before ++ name :: after ∧ before.Nodup ∧
      (∀ other ∈ before, other ∉ seen) ∧ (name ∈ before ∨ name ∈ seen) := by
  induction names generalizing seen with
  | nil => simp [duplicate?]
  | cons first names ih =>
    rw [duplicate?]
    split
    · rename_i hs
      have hs' : first ∈ seen := by simpa using hs
      constructor
      · rintro ⟨⟩
        exact ⟨[], names, rfl, List.nodup_nil, by simp, .inr hs'⟩
      · rintro ⟨before, after, he, -, hall, -⟩
        cases before with
        | nil =>
          cases he
          rfl
        | cons other before =>
          cases he
          exact absurd hs' (hall first List.mem_cons_self)
    · rename_i hs
      have hs' : first ∉ seen := by simpa using hs
      rw [ih]
      constructor
      · rintro ⟨before, after, rfl, hn, hall, hm⟩
        simp only [List.mem_cons, not_or] at hall hm
        refine ⟨first :: before, after, rfl, List.nodup_cons.2 ⟨fun h => (hall first h).1 rfl, hn⟩, ?_, ?_⟩
        · exact List.forall_mem_cons.2 ⟨hs', fun other ho => (hall other ho).2⟩
        · simp only [List.mem_cons]
          tauto
      · rintro ⟨before, after, he, hn, hall, hm⟩
        cases before with
        | nil =>
          cases he
          simp [hs'] at hm
        | cons other before =>
          cases he
          rw [List.nodup_cons] at hn
          rw [List.forall_mem_cons] at hall
          refine ⟨before, after, rfl, hn.2, fun other ho => ?_, ?_⟩
          · rw [List.mem_cons, not_or]
            exact ⟨fun h => hn.1 (h ▸ ho), hall.2 other ho⟩
          · simp only [List.mem_cons] at hm ⊢
            tauto

/-- The name that is told is the first that occurs twice. -/
theorem duplicate?_nil_eq_some_iff {names : List String} {name : String} :
    duplicate? [] names = some name ↔
      ∃ before after, names = before ++ name :: after ∧ before.Nodup ∧ name ∈ before := by
  rw [duplicate?_eq_some_iff]
  simp

/-- What a compiled template is made of: the tokens of the mounted text, each placeholder once. -/
theorem Template.of_compile {foldsCase : Bool} {base : Option (List Char)} {template : List Char} {t : Template}
    (h : compile foldsCase base template = .ok t) :
    tokenize (mount base template) = .ok t.tokens ∧ t = ofTokens foldsCase (mount base template) t.tokens ∧
      t.placeholders.Nodup := by
  rw [compile] at h
  cases ht : tokenize (mount base template) with
  | error e => rw [ht] at h; cases h
  | ok tokens =>
    rw [ht] at h
    simp only [bind, Except.bind] at h
    split at h
    · cases h
    · rename_i hd
      split at h
      · obtain rfl : ofTokens foldsCase (mount base template) tokens = t := by simpa using h
        exact ⟨rfl, rfl, (duplicate?_eq_none.1 hd).1⟩
      · cases h

/-- A mounted text with tokens, each placeholder once, compiles if its patterns are within the limit. -/
theorem Template.compile_of_tokenize {foldsCase : Bool} {base : Option (List Char)} {template : List Char}
    {tokens : List Token} (ht : tokenize (mount base template) = .ok tokens)
    (hn : (TypedRoutes.placeholders tokens).Nodup)
    (hl : (ofTokens foldsCase (mount base template) tokens).withinLimit = true) :
    compile foldsCase base template = .ok (ofTokens foldsCase (mount base template) tokens) := by
  have hd : duplicate? [] (TypedRoutes.placeholders tokens) = none := duplicate?_eq_none.2 ⟨hn, by simp⟩
  simp only [compile, ht, bind, Except.bind, hd, hl, if_true]

end TypedRoutes
