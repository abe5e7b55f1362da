import TypedRoutes.CommandLine.Arguments
import TypedRoutes.Manifest.Reading
import TypedRoutes.Proofs.Text.AsciiCase
/-!
# Names of verbs

A text is the name of a verb if it is equal to it up to the case of ASCII letters, and all these texts are read as the
verb. Three of the names are read from no other text. The capitals `ST` at the end of the fourth are also those of a
long s with a t, and of two ligatures, so this verb is read from sixteen texts more (`ofName?_spelled`). A text that is
read as no verb is refused in manifests and in arguments.
-/
namespace TypedRoutes.Verb
open Text

/-- A text that is equal to the name of a verb up to the case of ASCII letters. -/
def IsName (v : Verb) (cs : List Char) : Prop :=
  lowerAscii cs = lowerAscii v.name.toList

/-- The texts with the capitals `ST` that hold a letter outside ASCII. -/
def outsideEnds : List (List Char) :=
  [['\u017F', 't'], ['\u017F', 'T'], ['\uFB05'], ['\uFB06']]

/-- A text that holds a letter outside ASCII and has the name of a verb for its capitals. -/
def IsOutsideName (v : Verb) (cs : List Char) : Prop :=
  v = post ∧ ∃ front, ∃ behind ∈ outsideEnds, cs = front ++ behind ∧ lowerAscii front = "po".toList

/-- A text that spells a verb. -/
def IsSpelled (v : Verb) (cs : List Char) : Prop :=
  v.IsName cs ∨ v.IsOutsideName cs

/-! ## Capitals of the names -/

theorem ofName?_eq_some_iff {v : Verb} {cs : List Char} :
    ofName? cs = some v ↔ cs.flatMap capitals = v.name.toList := by
  rw [ofName?]
  constructor
  · intro h
    have hv := List.find?_some h
    exact beq_iff_eq.1 hv
  · intro h
    rw [h]
    cases v <;> decide

/-- No letter outside ASCII has its capitals in another name than that of `post`. -/
theorem flatMap_capitals_of_ne_post {v : Verb} (hv : v ≠ post) {cs : List Char} :
    cs.flatMap capitals = v.name.toList ↔ v.IsName cs := by
  cases v with
  | post => exact absurd rfl hv
  | get | put | delete => exact flatMap_capitals_eq_iff (by decide) (by decide)

/-- The long s and two ligatures have their capitals in the name of `post`. -/
theorem capitals_within_post : ∀ c ∈ outsideLetters, capitals c <:+: post.name.toList →
    c = '\u017F' ∨ c = '\uFB05' ∨ c = '\uFB06' :=
  List.all_iff_forall_prop.1 (by decide)

theorem cut_post {front behind : List Char} (h : front ++ 'S' :: behind = post.name.toList) :
    front = ['P', 'O'] ∧ behind = ['T'] := by
  have hname : post.name.toList = ['P', 'O', 'S', 'T'] := by decide
  rw [hname] at h
  rcases front with _ | ⟨a, _ | ⟨b, _ | ⟨c, _ | ⟨d, front⟩⟩⟩⟩ <;> simp_all

theorem lowerAscii_eq_t {cs : List Char} (h : lowerAscii cs = ['t']) : cs = ['t'] ∨ cs = ['T'] := by
  obtain ⟨c, rfl, hc⟩ := List.map_eq_singleton_iff.1 h
  have hnat : c.toLower.toNat = 't'.toNat := by rw [hc]
  have hforms : c.toNat = 't'.toNat ∨ c.toNat = 'T'.toNat := by
    rw [toNat_toLower] at hnat
    have ht : 't'.toNat = 116 := rfl
    have hT : 'T'.toNat = 84 := rfl
    split at hnat <;> omega
  rcases hforms with hn | hn
  · rw [Char.toNat_inj.1 hn]
    exact .inl rfl
  · rw [Char.toNat_inj.1 hn]
    exact .inr rfl

/-- Nothing stands behind a ligature. -/
theorem eq_nil_of_ligature {behind : List Char} (h : ['T'] ++ behind.flatMap capitals = ['T']) : behind = [] := by
  have hnil : lowerAscii behind = [] :=
    (flatMap_capitals_eq_iff (by decide) (by decide)).1 (List.append_right_eq_self.1 h)
  exact List.map_eq_nil_iff.1 hnil

/-- A letter outside ASCII begins the end of the text, where the capitals go on with `ST`: behind a long s there is the
`T` still to come, and a ligature has it already. -/
theorem mem_outsideEnds {front behind : List Char} {c : Char} (hc : c = '\u017F' ∨ c = '\uFB05' ∨ c = '\uFB06')
    (h : (front ++ c :: behind).flatMap capitals = post.name.toList) :
    lowerAscii front = "po".toList ∧ c :: behind ∈ outsideEnds := by
  rw [List.flatMap_append, List.flatMap_cons] at h
  have hfront : front.flatMap capitals = ['P', 'O'] := by
    rcases hc with rfl | rfl | rfl <;> exact (cut_post h).1
  refine ⟨(flatMap_capitals_eq_iff (by decide) (by decide)).1 hfront, ?_⟩
  rcases hc with rfl | rfl | rfl
  · have hbehind : lowerAscii behind = ['t'] := (flatMap_capitals_eq_iff (by decide) (by decide)).1 (cut_post h).2
    rcases lowerAscii_eq_t hbehind with rfl | rfl <;> decide
  · rw [eq_nil_of_ligature (cut_post h).2]
    decide
  · rw [eq_nil_of_ligature (cut_post h).2]
    decide

theorem flatMap_capitals_post {cs : List Char} :
    cs.flatMap capitals = post.name.toList ↔ post.IsName cs ∨ post.IsOutsideName cs := by
  have hupper : post.name.toList.all Char.isUpper = true := by decide
  constructor
  · intro h
    by_cases hin : ∀ c ∈ cs, c ∉ outsideLetters
    · rw [flatMap_capitals_of_not_mem hin] at h
      exact .inl ((map_toUpper_eq_iff hupper).1 h)
    · push Not at hin
      obtain ⟨c, hm, ho⟩ := hin
      have hc := capitals_within_post c ho (h ▸ capitals_within hm)
      obtain ⟨front, behind, rfl⟩ := List.append_of_mem hm
      obtain ⟨hf, hb⟩ := mem_outsideEnds hc h
      exact .inr ⟨rfl, front, _, hb, rfl, hf⟩
  · rintro (h | ⟨-, front, behind, hb, rfl, hf⟩)
    · exact flatMap_capitals_of_lowerAscii hupper h
    · have hfront : front.flatMap capitals = ['P', 'O'] := flatMap_capitals_of_lowerAscii (by decide) hf
      have hends : ∀ behind ∈ outsideEnds, behind.flatMap capitals = ['S', 'T'] := by decide
      rw [List.flatMap_append, hfront, hends behind hb]
      decide

theorem ofName?_eq_some_iff_isSpelled {v : Verb} {cs : List Char} : ofName? cs = some v ↔ v.IsSpelled cs := by
  rw [ofName?_eq_some_iff]
  by_cases hv : v = post
  · rw [hv]
    exact flatMap_capitals_post
  · rw [flatMap_capitals_of_ne_post hv]
    exact (or_iff_left fun h => hv h.1).symm

theorem ofName?_eq_none_iff {cs : List Char} : ofName? cs = none ↔ ∀ v : Verb, ¬ v.IsSpelled cs := by
  rw [Option.eq_none_iff_forall_ne_some]
  exact forall_congr' fun v => not_congr ofName?_eq_some_iff_isSpelled

/-- An outside name is not equal to the name of the verb up to the case of ASCII letters. -/
theorem IsOutsideName.not_isName {v : Verb} {cs : List Char} (h : v.IsOutsideName cs) : ¬ v.IsName cs := by
  intro hn
  obtain ⟨rfl, front, behind, hb, rfl, -⟩ := h
  have hends : ∀ behind ∈ outsideEnds, ∃ c ∈ behind, c.toLower ∉ lowerAscii post.name.toList := by
    simp [outsideEnds, lowerAscii, name]
  obtain ⟨c, hm, hc⟩ := hends behind hb
  have hlower : c.toLower ∈ lowerAscii (front ++ behind) := List.mem_map_of_mem (List.mem_append_right front hm)
  rw [hn] at hlower
  exact hc hlower

/-- A text is read as a verb just when it is equal to its name, unless it is an outside name. -/
theorem ofName?_iff_isName_iff {v : Verb} {cs : List Char} :
    (ofName? cs = some v ↔ v.IsName cs) ↔ ¬ v.IsOutsideName cs := by
  rw [ofName?_eq_some_iff_isSpelled]
  constructor
  · intro h ho
    exact ho.not_isName (h.1 (.inr ho))
  · intro ho
    exact or_iff_left ho

/-! ## Reading verbs -/

/-- A rule for strings is applied to the string that is read. -/
theorem textAs_of_text {α : Type} {rule : String → Except String α} {i j : Json.Input} {s : String}
    (h : Json.Reader.text i = .ok s j) :
    Json.Reader.textAs rule i =
      match rule s with
      | .ok a => .ok a j
      | .error reason => .error ⟨.refused reason, none⟩ j := by
  change EStateM.bind Json.Reader.text _ i = _
  rw [EStateM.bind, h]
  dsimp only
  cases rule s <;> rfl

theorem readVerb_of_text {i j : Json.Input} {s : String} (h : Json.Reader.text i = .ok s j) :
    Manifest.readVerb i =
      match ofName? s.toList with
      | some v => .ok v j
      | none => .error ⟨.refused (s!"unknown verb '{s}', expected one of " ++ listing all), none⟩ j := by
  rw [Manifest.readVerb, textAs_of_text h]
  cases ofName? s.toList <;> rfl

theorem takeVerb_eq {scope : CommandLine.Scope} {p : CommandLine.Progress} (h : CommandLine.Flag.verb ∉ p.flags)
    (text : String) :
    p.takeVerb scope text =
      match ofName? text.toList with
      | some v => ({ p.withFlag .verb with verb := some v }, none)
      | none => (p.withFlag .verb, some (.unknownVerb text)) :=
  if_neg h

/-- A verb is read from its name up to the case of ASCII letters, and from no other text than an outside name. A text
that spells no verb is an error in a manifest and in an argument, and the error tells it. -/
theorem ofName?_spelled (text : String) :
    (∀ v, ofName? text.toList = some v ↔ v.IsSpelled text.toList) ∧
    (∀ v, (ofName? text.toList = some v ↔ v.IsName text.toList) ↔ ¬ v.IsOutsideName text.toList) ∧
    (∀ i j, Json.Reader.text i = .ok text j →
      (∀ v, v.IsSpelled text.toList → Manifest.readVerb i = .ok v j) ∧
      ((∀ v : Verb, ¬ v.IsSpelled text.toList) → Manifest.readVerb i =
        .error ⟨.refused (s!"unknown verb '{text}', expected one of " ++ listing all), none⟩ j)) ∧
    ∀ scope (p : CommandLine.Progress), CommandLine.Flag.verb ∉ p.flags →
      (∀ v : Verb, v.IsSpelled text.toList → p.takeVerb scope text = ({ p.withFlag .verb with verb := some v }, none)) ∧
      ((∀ v : Verb, ¬ v.IsSpelled text.toList) →
        p.takeVerb scope text = (p.withFlag .verb, some (.unknownVerb text))) := by
  refine ⟨fun v => ofName?_eq_some_iff_isSpelled, fun v => ofName?_iff_isName_iff,
    fun i j h => ⟨fun v hv => ?_, fun hn => ?_⟩, fun scope p h => ⟨fun v hv => ?_, fun hn => ?_⟩⟩
  · rw [readVerb_of_text h, ofName?_eq_some_iff_isSpelled.2 hv]
  · rw [readVerb_of_text h, ofName?_eq_none_iff.2 hn]
  · rw [takeVerb_eq h, ofName?_eq_some_iff_isSpelled.2 hv]
  · rw [takeVerb_eq h, ofName?_eq_none_iff.2 hn]

/-- A long s is read as the s of `post`, though the text is not the name of the verb. -/
theorem ofName?_longS : ofName? "poſt".toList = some post ∧ ¬ post.IsName "poſt".toList := by
  have hname : ¬ post.IsName "poſt".toList := by
    unfold IsName
    decide
  exact ⟨by decide, hname⟩

end TypedRoutes.Verb
