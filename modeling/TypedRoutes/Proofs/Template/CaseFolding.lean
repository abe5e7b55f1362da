import TypedRoutes.Proofs.Template.Reachability
/-!
# Disregarding case

A template that disregards case matches what it matches exactly, since every division of a path is one still
(`Division.disregardingCase`). It may have more of them, and with shorter texts. But with one placeholder in a segment
at most a text has one length only, as a folded literal is as long as it was and folds no slash; so what is captured
stays the same (`search_disregardingCase`), and in any case it is taken from the path as it stands.
-/
namespace TypedRoutes
open Pattern

theorem SameText.disregardingCase {text piece : List Char} (h : SameText false text piece) :
    SameText true text piece := by
  rw [sameText_exact h]
  exact sameText_refl true piece

theorem Division.disregardingCase {tokens : List Token} {texts : List (List Char)} {path : List Char}
    (h : Division false tokens texts path) : Division true tokens texts path := by
  rw [division_iff_by] at h ⊢
  exact h.mono fun _ _ _ hs => hs.disregardingCase

/-- With one placeholder in a segment at most, what is captured exactly is captured without regard to case: the path is
written with the captured texts, and no other division has texts that are no longer. -/
theorem search_disregardingCase {tokens : List Token} {path : List Char} {captures : Captures}
    (ho : onePerSegment tokens = true) (hn : (placeholders tokens).Nodup)
    (h : search false (tokens.map Token.group) path = some captures) :
    search true (tokens.map Token.group) path = some captures := by
  obtain ⟨hk, hd⟩ := search_division h
  have htexts : (placeholders tokens).map (assignmentOf captures) = captures.map Prod.snd := by
    rw [← hk]
    exact map_assignmentOf (hk ▸ hn)
  have ha : Assigns false (assignmentOf captures) tokens path := assigns_iff_division.2 (by rwa [htexts])
  obtain ⟨found, hs, hl⟩ := search_of_division hd.disregardingCase
  obtain ⟨hk', hd'⟩ := search_division hs
  rw [ha.eq_substitute] at hd'
  rw [← htexts] at hl
  have hsnd := hd'.eq_of_separated ha.fills (separated_of_onePerSegment ho) hl
  have hsame : found = captures := (List.zip_of_prod hk' (hsnd.trans htexts)).trans (List.zip_of_prod hk rfl).symm
  rw [hs, hsame]

namespace Template
variable {base : Option (List Char)} {template : List Char} {t t' : Template}

/-- To disregard case takes no match away, and with one placeholder in a segment at most it changes no capture. The
captures are texts of the path itself. -/
theorem captures?_disregardingCase (h : compile false base template = .ok t) (h' : compile true base template = .ok t')
    (uri : List Char) :
    (t.isMatch uri = true → t'.isMatch uri = true) ∧
    (onePerSegment t.tokens = true → t.isMatch uri = true → t'.captures? uri = t.captures? uri) ∧
    ∀ captures, t'.captures? uri = some captures →
      captures.map Prod.fst = t'.placeholders ∧
      Division true t'.tokens (captures.map Prod.snd) (normalizePath uri) := by
  have htokens : t'.tokens = t.tokens := by
    have ht := (of_compile h).1
    rw [(of_compile h').1] at ht
    injection ht
  have hn := (of_compile h).2.2
  refine ⟨fun hm => ?_, fun ho hm => ?_, fun captures hc => ?_⟩
  · obtain ⟨texts, hd⟩ := (isMatch_iff_division h).1 hm
    rw [isMatch_iff_division h', htokens]
    exact ⟨texts, hd.disregardingCase⟩
  · rw [isMatch_of_compile h] at hm
    obtain ⟨captures, hc⟩ := Option.isSome_iff_exists.1 hm
    rw [hc, captures?_of_compile h', htokens]
    rw [captures?_of_compile h] at hc
    exact search_disregardingCase ho hn hc
  · rw [captures?_of_compile h'] at hc
    exact search_division hc

/-- A letter around its placeholder, in either case. -/
def marked (foldsCase : Bool) : Template :=
  ofTokens foldsCase "/x{id}x".toList [.literal ['/', 'x'], .placeholder "id", .literal ['x']]

/-- The capital letter within the text does not end it, since the segment goes on behind it. -/
theorem captures?_disregardingCase_marked :
    compile false none "/x{id}x".toList = .ok (marked false) ∧ compile true none "/x{id}x".toList = .ok (marked true) ∧
      (marked false).isMatch "/x1X2x".toList = true ∧
      (marked true).captures? "/x1X2x".toList = some [("id", "1X2".toList)] := by
  have h : compile false none "/x{id}x".toList = .ok (marked false) := by decide
  have h' : compile true none "/x{id}x".toList = .ok (marked true) := by decide
  have hm : (marked false).isMatch "/x1X2x".toList = true := by decide
  have hc : (marked false).captures? "/x1X2x".toList = some [("id", "1X2".toList)] := by decide
  obtain ⟨-, hsame, -⟩ := captures?_disregardingCase h h' "/x1X2x".toList
  exact ⟨h, h', hm, (hsame (by decide) hm).trans hc⟩

/-- With two placeholders in a segment a folded literal may be found earlier. -/
example :
    let tokens : List Token := [.literal ['/'], .placeholder "a", .literal ['x'], .placeholder "b"]
    (ofTokens false [] tokens).captures? "/1X2x3".toList = some [("a", "1X2".toList), ("b", "3".toList)] ∧
      (ofTokens true [] tokens).captures? "/1X2x3".toList = some [("a", "1".toList), ("b", "2x3".toList)] := by
  decide

end Template

end TypedRoutes
