import TypedRoutes.Proofs.Result
import TypedRoutes.Proofs.Template.CaseFolding
import TypedRoutes.Proofs.Template.NormalPath
/-!
# Disregarding case within ASCII and beyond

A template that disregards case compares folded forms. Where literals are equal to their parts of a path up to the case
of ASCII letters, it matches; but it matches further paths too, in which letters stand in `OtherForm`s. So it keeps to
ASCII exactly if no character of its literals has an other form (`Template.isMatch_asciiCase`). To find a path that it
should not match, take one that it matches and put the other form wherever the letter stands (`reformed`): the folded
forms stay, so it is matched still (`Template.isMatch_congr`), but there is no such letter left for the literal.
-/
namespace TypedRoutes
open Pattern Text

/-! ## Likenesses of texts -/

/-- Two texts that are equal up to the case of ASCII letters. -/
def SameAscii (text piece : List Char) : Prop :=
  lowerAscii text = lowerAscii piece

theorem sameAscii_iff {text piece : List Char} :
    SameAscii text piece ↔ List.Forall₂ (fun l c => l.toLower = c.toLower) text piece := by
  rw [SameAscii, lowerAscii, lowerAscii, ← List.forall₂_eq_eq_eq, List.forall₂_map_left_iff,
    List.forall₂_map_right_iff]

theorem sameChar_true_iff {l c : Char} : sameChar true l c = true ↔ foldCase l = foldCase c := by
  rw [sameChar, Bool.true_and, Bool.or_eq_true, beq_iff_eq, beq_iff_eq]
  exact or_iff_right_of_imp fun h => congrArg foldCase h

/-- Two texts of which each character of one is that of the other up to case, or an other form of it. -/
def SameFolded (text piece : List Char) : Prop :=
  List.Forall₂ (fun l c => l.toLower = c.toLower ∨ OtherForm l c) text piece

theorem sameText_true_iff {text piece : List Char} : SameText true text piece ↔ SameFolded text piece := by
  simp only [SameText, SameFolded, sameChar_true_iff, foldCase_eq_iff]

theorem SameAscii.sameFolded {text piece : List Char} (h : SameAscii text piece) : SameFolded text piece :=
  (sameAscii_iff.1 h).imp fun _ _ => .inl

theorem SameFolded.sameAscii {text piece : List Char} (h : SameFolded text piece)
    (hn : ∀ l ∈ text, ∀ c, ¬ OtherForm l c) : SameAscii text piece :=
  sameAscii_iff.2 (forall₂_imp_of_mem h fun l hl c hc => hc.resolve_right (hn l hl c))

/-! ## Paths that are the same up to case -/

section Path
variable {foldsCase : Bool} {path other : List Char}

theorem SameText.head?_mark {m : Char} (hm : m.toNat < 64) (h : SameText foldsCase path other) :
    path.head? = some m ↔ other.head? = some m := by
  cases h with
  | nil => rfl
  | cons hc _ =>
    rw [List.head?_cons, List.head?_cons, Option.some.injEq, Option.some.injEq]
    exact eq_mark_iff hm hc

theorem SameText.reverse (h : SameText foldsCase path other) : SameText foldsCase path.reverse other.reverse :=
  List.rel_reverse h

/-- A path stays in normal form when the case of its letters is changed. -/
theorem NormalPath.of_sameText (hn : NormalPath path) (h : SameText foldsCase path other) : NormalPath other where
  head := (h.head?_mark (by decide)).1 hn.head
  last hl := by
    rw [← List.head?_reverse] at hl
    have hlast := (h.reverse.head?_mark (by decide)).2 hl
    rw [List.head?_reverse] at hlast
    have hroot := hn.last hlast
    rw [hroot] at h
    obtain ⟨c, rest, hc, hrest, rfl⟩ := List.forall₂_cons_left_iff.1 h
    rw [(eq_mark_iff (by decide) hc).1 rfl, List.forall₂_nil_left_iff.1 hrest]
  no_query hq := hn.no_query ((h.mark_mem_iff (by decide)).2 hq)
  no_fragment hf := hn.no_fragment ((h.mark_mem_iff (by decide)).2 hf)

theorem SameText.split {front behind : List Char} (h : SameText foldsCase (front ++ behind) other) :
    ∃ front' behind', other = front' ++ behind' ∧ SameText foldsCase front front' ∧
      SameText foldsCase behind behind' := by
  have hfront := List.forall₂_take front.length h
  have hbehind := List.forall₂_drop front.length h
  rw [List.take_left] at hfront
  rw [List.drop_left] at hbehind
  exact ⟨_, _, (List.take_append_drop front.length other).symm, hfront, hbehind⟩

theorem SameText.fills {text piece : List Char} (h : SameText foldsCase text piece) (hf : FillsPlaceholder text) :
    FillsPlaceholder piece := by
  refine ⟨?_, fun hm => hf.2 ((h.mark_mem_iff (by decide)).2 hm)⟩
  rintro rfl
  exact hf.1 (List.forall₂_nil_right_iff.1 h)

theorem SameText.trans {text piece more : List Char} (h : SameText true text piece) (h' : SameText true piece more) :
    SameText true text more := by
  simp only [SameText, sameChar_true_iff] at h h' ⊢
  induction h generalizing more with
  | nil => exact h'
  | cons hc _ ih =>
    obtain ⟨d, rest, hd, hrest, rfl⟩ := List.forall₂_cons_left_iff.1 h'
    exact .cons (hc.trans hd) (ih hrest)

/-- A division follows its path through changes of case. -/
theorem Division.of_sameText {tokens : List Token} {texts : List (List Char)} (h : Division true tokens texts path)
    (hs : SameText true path other) : ∃ others, Division true tokens others other := by
  induction tokens generalizing texts path other with
  | nil =>
    obtain ⟨rfl, rfl⟩ := h
    exact ⟨[], rfl, List.forall₂_nil_left_iff.1 hs⟩
  | cons token tokens ih =>
    cases token with
    | literal text =>
      obtain ⟨piece, rest, rfl, ht, hd⟩ := h
      obtain ⟨piece', rest', rfl, hp, hr⟩ := hs.split
      obtain ⟨others, ho⟩ := ih hd hr
      exact ⟨others, piece', rest', rfl, ht.trans hp, ho⟩
    | placeholder name =>
      obtain ⟨text, more, rest, rfl, rfl, hf, hd⟩ := h
      obtain ⟨text', rest', rfl, ht, hr⟩ := hs.split
      obtain ⟨others, ho⟩ := ih hd hr
      exact ⟨text' :: others, text', others, rest', rfl, rfl, ht.fills hf, ho⟩

/-! ## Putting an other form for a letter -/

/-- The text with the character `d` wherever `l` stands, in either case. -/
def reformed (l d : Char) (text : List Char) : List Char :=
  text.map fun c => if c.toLower = l.toLower then d else c

theorem sameText_reformed {l d : Char} (h : OtherForm l d) (text : List Char) :
    SameText true text (reformed l d text) := by
  rw [SameText, reformed, List.forall₂_map_right_iff, List.forall₂_same]
  intro c _
  rw [sameChar_true_iff]
  split
  · rename_i hc
    exact (foldCase_eq_of_toLower_eq hc).trans h.1
  · rfl

/-- The letter is no longer there. -/
theorem toLower_ne_of_mem_reformed {l d c : Char} (h : OtherForm l d) {text : List Char} (hm : c ∈ reformed l d text) :
    c.toLower ≠ l.toLower := by
  obtain ⟨c', -, rfl⟩ := List.mem_map.1 hm
  split
  · exact h.2.symm
  · assumption

end Path

/-- A text that is the same up to the case of ASCII letters has each letter. -/
theorem SameAscii.exists_mem {text piece : List Char} (h : SameAscii text piece) {l : Char} (hl : l ∈ text) :
    ∃ c ∈ piece, c.toLower = l.toLower := by
  have hm : l.toLower ∈ lowerAscii piece := h ▸ List.mem_map_of_mem hl
  exact List.mem_map.1 hm

/-! ## What a template matches -/

namespace Template
variable {base : Option (List Char)} {template : List Char} {t : Template}

/-- No character of a literal has an other form. -/
def KeepsToAscii (t : Template) : Prop :=
  ∀ text, .literal text ∈ t.tokens → ∀ l ∈ text, ∀ c, ¬ OtherForm l c

/-- Whether a URI matches depends on the folded form of its path only. -/
theorem isMatch_congr (h : compile true base template = .ok t) {uri other : List Char}
    (hs : SameText true (normalizePath uri) (normalizePath other)) (hm : t.isMatch uri = true) :
    t.isMatch other = true := by
  rw [isMatch_iff_division h] at hm ⊢
  obtain ⟨texts, hd⟩ := hm
  exact hd.of_sameText hs

theorem isMatch_iff_folded (h : compile true base template = .ok t) {uri : List Char} :
    t.isMatch uri = true ↔ ∃ texts, DivisionBy SameFolded t.tokens texts (normalizePath uri) := by
  rw [isMatch_iff_division h]
  refine exists_congr fun texts => ?_
  rw [division_iff_by]
  constructor
  · intro hd
    exact hd.mono fun _ _ _ => sameText_true_iff.1
  · intro hd
    exact hd.mono fun _ _ _ => sameText_true_iff.2

/-- Without other forms a template matches up to the case of ASCII letters only. -/
theorem KeepsToAscii.isMatch_iff (hk : t.KeepsToAscii) (h : compile true base template = .ok t) {uri : List Char} :
    t.isMatch uri = true ↔ ∃ texts, DivisionBy SameAscii t.tokens texts (normalizePath uri) := by
  rw [isMatch_iff_folded h]
  refine exists_congr fun texts => ?_
  constructor
  · intro hd
    exact hd.mono fun text hm _ hs => hs.sameAscii (hk text hm)
  · intro hd
    exact hd.mono fun _ _ _ => SameAscii.sameFolded

/-- A template that matches up to the case of ASCII letters only has no other forms, if it matches at all. With such a
form in the place of its letter the path would still match, and a literal with the letter would have a part of the path
without it. -/
theorem keepsToAscii_of_isMatch (h : compile true base template = .ok t) {uri : List Char} (hm : t.isMatch uri = true)
    (ha : ∀ uri, t.isMatch uri = true → ∃ texts, DivisionBy SameAscii t.tokens texts (normalizePath uri)) :
    t.KeepsToAscii := by
  intro text ht l hl d hd
  have hsame := sameText_reformed hd (normalizePath uri)
  have hnormal := (normalPath_normalizePath uri).of_sameText hsame
  have hmatch : t.isMatch (reformed l d (normalizePath uri)) = true :=
    isMatch_congr h (by rwa [hnormal.eq_self]) hm
  obtain ⟨texts, hdivision⟩ := ha _ hmatch
  rw [hnormal.eq_self] at hdivision
  obtain ⟨piece, hsub, hpiece⟩ := hdivision.exists_piece ht
  obtain ⟨c, hc, hlower⟩ := SameAscii.exists_mem hpiece hl
  exact toLower_ne_of_mem_reformed hd (hsub hc) hlower

/-- A template that disregards case matches the paths with its literals up to the case of ASCII letters, and further
those with other forms of their characters. It matches only the former exactly if no character of its literals has an
other form, or if it matches nothing at all. Of the characters of ASCII only k and s have one. -/
theorem isMatch_asciiCase (h : compile true base template = .ok t) :
    (∀ uri, t.isMatch uri = true ↔ ∃ texts, DivisionBy SameFolded t.tokens texts (normalizePath uri)) ∧
    (t.KeepsToAscii → ∀ uri,
      (t.isMatch uri = true ↔ ∃ texts, DivisionBy SameAscii t.tokens texts (normalizePath uri))) ∧
    ((∃ uri, t.isMatch uri = true) →
      (∀ uri, t.isMatch uri = true → ∃ texts, DivisionBy SameAscii t.tokens texts (normalizePath uri)) →
      t.KeepsToAscii) ∧
    ∀ a b : Char, a.toNat < 128 →
      (OtherForm a b ↔ (a.toLower = 's' ∧ b = '\u017F') ∨ (a.toLower = 'k' ∧ b = '\u212A')) := by
  refine ⟨fun uri => isMatch_iff_folded h, fun hk uri => hk.isMatch_iff h, ?_, fun a b => otherForm_ascii_iff⟩
  rintro ⟨uri, hm⟩ ha
  exact keepsToAscii_of_isMatch h hm ha

/-- A template of letters without other forms. -/
def api : Template :=
  ofTokens true "/Api/{id}".toList [.literal "/Api/".toList, .placeholder "id"]

/-- It matches up to the case of ASCII letters and nothing else. -/
theorem isMatch_asciiCase_api :
    compile true none "/Api/{id}".toList = .ok api ∧ api.KeepsToAscii ∧ api.isMatch "/aPI/7".toList = true ∧
      ∃ texts, DivisionBy SameAscii api.tokens texts (normalizePath "/aPI/7".toList) := by
  have h : compile true none "/Api/{id}".toList = .ok api := by decide
  obtain ⟨-, hkeeps, -, hforms⟩ := isMatch_asciiCase h
  have hk : api.KeepsToAscii := by
    intro text hm l hl c
    have htext : text = "/Api/".toList := by simpa [api, ofTokens] using hm
    have hascii : l.toNat < 128 ∧ l.toLower ≠ 's' ∧ l.toLower ≠ 'k' := by
      have hall : ∀ l ∈ "/Api/".toList, l.toNat < 128 ∧ l.toLower ≠ 's' ∧ l.toLower ≠ 'k' :=
        List.all_iff_forall_prop.1 (by decide)
      exact hall l (htext ▸ hl)
    rw [hforms l c hascii.1]
    rintro (⟨hs, -⟩ | ⟨hk, -⟩)
    · exact hascii.2.1 hs
    · exact hascii.2.2 hk
  have hm : api.isMatch "/aPI/7".toList = true := by decide
  exact ⟨h, hk, hm, (hkeeps hk _).1 hm⟩

/-- A template with an s, which has an other form. -/
def tags : Template :=
  ofTokens true "/tags".toList [.literal "/tags".toList]

/-- A long s is matched by the s of a literal, and is not the same as it up to the case of ASCII letters. -/
theorem isMatch_tags_longS :
    compile true none "/tags".toList = .ok tags ∧ tags.isMatch "/tagſ".toList = true ∧
      ¬ ∃ texts, DivisionBy SameAscii tags.tokens texts (normalizePath "/tagſ".toList) := by
  refine ⟨by decide, by decide +kernel, ?_⟩
  rintro ⟨texts, hd⟩
  obtain ⟨piece, hsub, hs⟩ := hd.exists_piece List.mem_cons_self
  obtain ⟨c, hc, hlower⟩ := hs.exists_mem (l := 's') (by decide)
  have hall : ∀ c ∈ normalizePath "/tagſ".toList, c.toLower ≠ 's' := List.all_iff_forall_prop.1 (by decide)
  exact hall c (hsub hc) hlower

end Template

end TypedRoutes
