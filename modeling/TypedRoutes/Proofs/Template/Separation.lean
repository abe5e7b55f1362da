import Mathlib.Data.List.Lex
import TypedRoutes.Proofs.Template.Meaning
import TypedRoutes.Proofs.Text.CaseFold
/-!
# Texts that are found again

A path may divide along the tokens of a template in many ways. Written out with texts of its own, it divides in
the way that it was written if the texts are `Separated`: where another placeholder follows in the same segment, a
literal comes directly behind the text, and occurs in the text and itself nowhere before.

`Division.eq_of_separated`: no other division of such a path has texts that are no longer. The last placeholder of a
segment needs no separation, since the rest of its segment leaves it one length only (`length_takeWhile_fillsGap`).
So a path is written with separated texts in one way only (`eq_of_substitute_eq`).
-/
namespace TypedRoutes
open Pattern Text

/-! ## Marks and case -/

/-- A mark is the same to a pattern as itself alone. -/
theorem eq_mark_iff {foldsCase : Bool} {l c m : Char} (hm : m.toNat < 64) (h : sameChar foldsCase l c = true) :
    l = m ↔ c = m := by
  simp only [sameChar, Bool.or_eq_true, beq_iff_eq, Bool.and_eq_true] at h
  rcases h with rfl | ⟨-, h⟩
  · rfl
  · have hfold : foldCase m = m := foldCase_of_lt (by omega)
    constructor
    · rintro rfl
      exact eq_of_foldCase_eq hm (h.symm.trans hfold)
    · rintro rfl
      exact eq_of_foldCase_eq hm (h.trans hfold)

/-- Texts that are the same to a pattern have the same marks. -/
theorem SameText.mark_mem_iff {foldsCase : Bool} {text piece : List Char} {m : Char} (hm : m.toNat < 64)
    (h : SameText foldsCase text piece) : m ∈ text ↔ m ∈ piece := by
  induction h with
  | nil => rfl
  | cons hc _ ih =>
    rw [List.mem_cons, List.mem_cons, ih]
    have := eq_mark_iff hm hc
    simp only [eq_comm (a := m), this]

/-! ## Separation -/

/-- Whether another placeholder follows before the end of the segment. -/
def anotherFollows : List Token → Bool
  | [] => false
  | .literal text :: tokens => !text.contains '/' && anotherFollows tokens
  | .placeholder _ :: _ => true

/-- Whether no segment has more than one placeholder. -/
def onePerSegment : List Token → Bool
  | [] => true
  | .literal _ :: tokens => onePerSegment tokens
  | .placeholder _ :: tokens => !anotherFollows tokens && onePerSegment tokens

/-- The literal occurs in the text from the `k`-th character on. -/
def OccursAt (foldsCase : Bool) (literal text : List Char) (k : Nat) : Prop :=
  ∃ piece rest, text.drop k = piece ++ rest ∧ SameText foldsCase literal piece

theorem occursAt_iff {foldsCase : Bool} {literal text : List Char} {k : Nat} :
    OccursAt foldsCase literal text k ↔ (afterText? foldsCase literal (text.drop k)).isSome = true := by
  constructor
  · rintro ⟨piece, rest, he, hp⟩
    rw [afterText?_eq_some.2 ⟨piece, he, hp⟩]
    rfl
  · intro h
    obtain ⟨rest, hr⟩ := Option.isSome_iff_exists.1 h
    obtain ⟨piece, he, hp⟩ := afterText?_eq_some.1 hr
    exact ⟨piece, rest, he, hp⟩

instance (foldsCase : Bool) (literal text : List Char) (k : Nat) : Decidable (OccursAt foldsCase literal text k) :=
  decidable_of_iff _ occursAt_iff.symm

/-- A literal comes directly behind the text, and occurs nowhere within the text and the literal itself before. -/
def EndsAtLiteral (foldsCase : Bool) (text : List Char) : List Token → Prop
  | .literal literal :: _ =>
    literal ≠ [] ∧ ∀ k < text.length, 1 ≤ k → ¬ OccursAt foldsCase literal (text ++ literal) k
  | _ => False

/-- Every text that another placeholder follows in its segment ends at the literal behind it. -/
def Separated (foldsCase : Bool) (σ : Assignment) : List Token → Prop
  | [] => True
  | .literal _ :: tokens => Separated foldsCase σ tokens
  | .placeholder name :: tokens =>
    (anotherFollows tokens = true → EndsAtLiteral foldsCase (σ name) tokens) ∧ Separated foldsCase σ tokens

instance (foldsCase : Bool) (text : List Char) : (tokens : List Token) → Decidable (EndsAtLiteral foldsCase text tokens)
  | .literal _ :: _ => inferInstanceAs (Decidable (_ ∧ _))
  | [] => .isFalse id
  | .placeholder _ :: _ => .isFalse id

instance Separated.decidable (foldsCase : Bool) (σ : Assignment) :
    (tokens : List Token) → Decidable (Separated foldsCase σ tokens)
  | [] => .isTrue trivial
  | .literal _ :: tokens => Separated.decidable foldsCase σ tokens
  | .placeholder _ :: tokens =>
    have := Separated.decidable foldsCase σ tokens
    inferInstanceAs (Decidable (_ ∧ _))

theorem EndsAtLiteral.exists_literal {foldsCase : Bool} {text : List Char} {tokens : List Token}
    (h : EndsAtLiteral foldsCase text tokens) : ∃ literal more, tokens = .literal literal :: more ∧
      ∀ k < text.length, 1 ≤ k → ¬ OccursAt foldsCase literal (text ++ literal) k := by
  cases tokens with
  | nil => exact h.elim
  | cons token more =>
    cases token with
    | literal literal => exact ⟨literal, more, rfl, h.2⟩
    | placeholder _ => exact h.elim

/-- With one placeholder in a segment at most there is nothing to separate. -/
theorem separated_of_onePerSegment {foldsCase : Bool} {σ : Assignment} {tokens : List Token}
    (h : onePerSegment tokens = true) : Separated foldsCase σ tokens := by
  induction tokens with
  | nil => trivial
  | cons token tokens ih =>
    cases token with
    | literal text => exact ih h
    | placeholder name =>
      rw [onePerSegment, Bool.and_eq_true, Bool.not_eq_true'] at h
      refine ⟨fun hf => ?_, ih h.2⟩
      rw [h.1] at hf
      cases hf

/-! ## The last placeholder of a segment -/

/-- The number of characters that tokens without a placeholder leave before the next slash. -/
def charsToSlash : List Token → Nat
  | .literal text :: tokens =>
    if '/' ∈ text then (text.takeWhile fillsGap).length else text.length + charsToSlash tokens
  | _ => 0

theorem takeWhile_fillsGap_append {text : List Char} (h : '/' ∉ text) (rest : List Char) :
    (text ++ rest).takeWhile fillsGap = text ++ rest.takeWhile fillsGap := by
  refine List.takeWhile_append_of_pos fun c hc => (fillsGap_iff c).2 ?_
  rintro rfl
  exact h hc

theorem SameText.length_takeWhile_append {foldsCase : Bool} {text piece : List Char} (h : SameText foldsCase text piece)
    (hm : '/' ∈ text) (rest : List Char) :
    ((piece ++ rest).takeWhile fillsGap).length = (text.takeWhile fillsGap).length := by
  induction h with
  | nil => cases hm
  | @cons l c text piece hc _ ih =>
    have hslash := eq_mark_iff (m := '/') (by decide) hc
    rw [List.cons_append, List.takeWhile_cons, List.takeWhile_cons]
    by_cases hl : l = '/'
    · rw [hslash.1 hl, hl]
      rfl
    · have hl' : fillsGap l = true := (fillsGap_iff l).2 hl
      have hc' : fillsGap c = true := (fillsGap_iff c).2 fun he => hl (hslash.2 he)
      have hm' : '/' ∈ text := (List.mem_cons.1 hm).resolve_left (Ne.symm hl)
      rw [if_pos hl', if_pos hc', List.length_cons, List.length_cons, ih hm']

/-- Where no other placeholder follows in the segment, every path that divides has its next slash at the same
place. -/
theorem length_takeWhile_fillsGap {foldsCase : Bool} {tokens : List Token} {texts : List (List Char)}
    {path : List Char} (h : Division foldsCase tokens texts path) (hf : anotherFollows tokens = false) :
    (path.takeWhile fillsGap).length = charsToSlash tokens := by
  induction tokens generalizing texts path with
  | nil =>
    rw [h.2]
    rfl
  | cons token tokens ih =>
    cases token with
    | placeholder name => cases hf
    | literal text =>
      obtain ⟨piece, rest, rfl, hp, hd⟩ := h
      unfold charsToSlash
      by_cases hm : '/' ∈ text
      · rw [if_pos hm, hp.length_takeWhile_append hm]
      · have hnot : '/' ∉ piece := fun h => hm ((hp.mark_mem_iff (by decide)).2 h)
        have hf' : anotherFollows tokens = false := by simpa [anotherFollows, hm] using hf
        rw [if_neg hm, takeWhile_fillsGap_append hnot, List.length_append, ih hd hf', hp.length_eq]

/-! ## The division that was written -/

/-- A path with texts in the placeholders divides into these texts. -/
theorem division_substitute (foldsCase : Bool) {σ : Assignment} {tokens : List Token}
    (h : ∀ name ∈ placeholders tokens, FillsPlaceholder (σ name)) :
    Division foldsCase tokens ((placeholders tokens).map σ) (substitute σ tokens) := by
  induction tokens with
  | nil => exact ⟨rfl, rfl⟩
  | cons token tokens ih =>
    cases token with
    | literal text => exact ⟨text, substitute σ tokens, rfl, sameText_refl foldsCase text, ih h⟩
    | placeholder name =>
      rw [placeholders_placeholder, List.forall_mem_cons] at h
      exact ⟨σ name, _, substitute σ tokens, rfl, rfl, h.1, ih h.2⟩

/-- A literal that begins within a text, in front of itself, occurs there. -/
theorem occursAt_of_append {foldsCase : Bool} {literal piece taken left rest rest' : List Char}
    (h : left ++ literal ++ rest = piece ++ rest') (hp : SameText foldsCase literal piece) :
    OccursAt foldsCase literal (taken ++ left ++ literal) taken.length := by
  have hle : piece.length ≤ (left ++ literal).length := by
    rw [← hp.length_eq, List.length_append]
    omega
  obtain ⟨more, hmore⟩ : piece <+: left ++ literal :=
    List.prefix_of_prefix_length_le ⟨rest', h.symm⟩ (List.prefix_append _ _) hle
  exact ⟨piece, more, by rw [List.append_assoc, List.drop_left, hmore], hp⟩

theorem NoLonger.head_le {text other : List Char} {texts others : List (List Char)}
    (h : NoLonger (text :: texts) (other :: others)) : text.length ≤ other.length := by
  rcases h with h | h
  · simp only [List.map_cons, List.cons.injEq] at h
    exact Nat.le_of_eq h.1
  · rcases List.cons_lex_cons_iff.1 h with hlt | ⟨he, -⟩
    · exact Nat.le_of_lt hlt
    · exact Nat.le_of_eq he

theorem NoLonger.tail {text other : List Char} {texts others : List (List Char)}
    (h : NoLonger (text :: texts) (other :: others)) (he : text.length = other.length) : NoLonger texts others := by
  rcases h with h | h
  · simp only [List.map_cons, List.cons.injEq] at h
    exact .inl h.2
  · rcases List.cons_lex_cons_iff.1 h with hlt | ⟨-, h⟩
    · omega
    · exact .inr h

/-- A text that ends at a literal is as long as the text in its place in another division, if that is no longer. For a
shorter one would end where the literal occurs too early. -/
theorem length_eq_of_endsAtLiteral {foldsCase : Bool} {σ : Assignment} {tokens : List Token}
    {written text rest : List Char} {more : List (List Char)} (hs : EndsAtLiteral foldsCase written tokens)
    (hf : FillsPlaceholder text) (hd : Division foldsCase tokens more rest)
    (he : written ++ substitute σ tokens = text ++ rest) (hle : text.length ≤ written.length) :
    text.length = written.length := by
  obtain ⟨literal, behind, rfl, hocc⟩ := hs.exists_literal
  by_contra hne
  have hlt := Nat.lt_of_le_of_ne hle hne
  obtain ⟨piece, rest', rfl, hp, -⟩ := hd
  obtain ⟨left, hleft⟩ : text <+: written :=
    List.prefix_of_prefix_length_le ⟨_, he.symm⟩ (List.prefix_append _ _) (Nat.le_of_lt hlt)
  have hpos : 1 ≤ text.length := Nat.one_le_iff_ne_zero.2 fun h0 => hf.1 (List.length_eq_zero_iff.1 h0)
  have hat : left ++ literal ++ substitute σ behind = piece ++ rest' := by
    rw [← hleft, List.append_assoc] at he
    rw [List.append_assoc]
    exact List.append_cancel_left he
  refine hocc text.length hlt hpos ?_
  rw [← hleft]
  exact occursAt_of_append hat hp

/-- Where no other placeholder follows in the segment, a text has one length in all divisions: with the rest of the
segment it reaches to the same slash. -/
theorem length_eq_of_not_anotherFollows {foldsCase : Bool} {tokens : List Token}
    {written text path rest : List Char} {texts more : List (List Char)} (hfollow : anotherFollows tokens = false)
    (hw : FillsPlaceholder written) (hf : FillsPlaceholder text) (hd : Division foldsCase tokens texts path)
    (hd' : Division foldsCase tokens more rest) (he : written ++ path = text ++ rest) :
    text.length = written.length := by
  have hpath := length_takeWhile_fillsGap hd hfollow
  have hrest := length_takeWhile_fillsGap hd' hfollow
  have hboth := congrArg (fun path => (path.takeWhile fillsGap).length) he
  simp only [takeWhile_fillsGap_append hw.2, takeWhile_fillsGap_append hf.2, List.length_append] at hboth
  omega

/-- Of a path with separated texts no other division has texts that are no longer. -/
theorem Division.eq_of_separated {foldsCase : Bool} {σ : Assignment} {tokens : List Token} {others : List (List Char)}
    (hf : ∀ name ∈ placeholders tokens, FillsPlaceholder (σ name)) (hs : Separated foldsCase σ tokens)
    (h : Division foldsCase tokens others (substitute σ tokens)) (hl : NoLonger others ((placeholders tokens).map σ)) :
    others = (placeholders tokens).map σ := by
  induction tokens generalizing others with
  | nil => exact h.1
  | cons token tokens ih =>
    cases token with
    | literal text =>
      obtain ⟨piece, rest, he, hp, hd⟩ := h
      obtain ⟨-, rfl⟩ := List.append_inj he hp.length_eq
      exact ih hf hs hd hl
    | placeholder name =>
      obtain ⟨text, more, rest, rfl, he, hfill, hd⟩ := h
      rw [placeholders_placeholder, List.forall_mem_cons] at hf
      rw [placeholders_placeholder, List.map_cons] at hl ⊢
      change σ name ++ substitute σ tokens = text ++ rest at he
      have hlen : text.length = (σ name).length := by
        cases hfollow : anotherFollows tokens with
        | true => exact length_eq_of_endsAtLiteral (hs.1 hfollow) hfill hd he hl.head_le
        | false =>
          have hwritten := division_substitute foldsCase hf.2
          exact length_eq_of_not_anotherFollows hfollow hf.1 hfill hwritten hd he
      obtain ⟨rfl, rfl⟩ := List.append_inj he hlen.symm
      rw [ih hf.2 hs.2 hd (hl.tail rfl)]

/-! ## Paths with separated texts -/

/-- Of the texts of two divisions, the one or the other are no longer. -/
theorem noLonger_total (texts others : List (List Char)) : NoLonger texts others ∨ NoLonger others texts := by
  rcases trichotomous_of (List.Lex (· < ·)) (texts.map List.length) (others.map List.length) with h | h | h
  · exact .inl (.inr h)
  · exact .inl (.inl h)
  · exact .inr (.inr h)

/-- One path is written with separated texts in one way only. -/
theorem eq_of_substitute_eq {foldsCase : Bool} {σ τ : Assignment} {tokens : List Token}
    (hσ : ∀ name ∈ placeholders tokens, FillsPlaceholder (σ name))
    (hτ : ∀ name ∈ placeholders tokens, FillsPlaceholder (τ name)) (hs : Separated foldsCase σ tokens)
    (ht : Separated foldsCase τ tokens) (h : substitute σ tokens = substitute τ tokens) :
    ∀ name ∈ placeholders tokens, σ name = τ name := by
  have hd := division_substitute foldsCase hσ
  have hd' := division_substitute foldsCase hτ
  have htexts : (placeholders tokens).map σ = (placeholders tokens).map τ := by
    rcases noLonger_total ((placeholders tokens).map σ) ((placeholders tokens).map τ) with hl | hl
    · exact (h ▸ hd).eq_of_separated hτ ht hl
    · exact ((h ▸ hd').eq_of_separated hσ hs hl).symm
  exact List.map_inj_left.1 htexts

end TypedRoutes
