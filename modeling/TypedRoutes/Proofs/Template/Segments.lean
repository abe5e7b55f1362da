import Mathlib.Data.List.Nodup
import TypedRoutes.Proofs.Template.Cutting
import TypedRoutes.Proofs.Template.NormalPath
import TypedRoutes.Proofs.Text.Pieces
/-!
# Matching segment by segment

A slash stands between any two segments, and no gap of a pattern takes one, nor does a literal that is compared without
regard to case take another character for one. So what matches a segment stays in it: the shortest gaps of a whole path
are the shortest gaps of each segment (`search_segment`, `search_underSlashes`).

`Template.captures?_bySegment`: a template matches a path if both have as many segments and each segment of the
template, compiled by itself, matches the segment of the path in its place; and it captures what they capture, one after
the other.
-/
namespace TypedRoutes
open Pattern Text

/-! ## What matches within a segment -/

section Segment
variable {foldsCase : Bool} {rest : List Char}

/-- A literal without a slash does not reach beyond a segment: to a pattern a slash is the same as itself alone. -/
theorem afterText?_segment {text segment : List Char} (ht : '/' ∉ text) (hr : ∀ c ∈ rest.head?, c = '/') :
    afterText? foldsCase text (segment ++ rest) = (afterText? foldsCase text segment).map (· ++ rest) := by
  induction text generalizing segment with
  | nil => rfl
  | cons l ls ih =>
    rw [List.mem_cons, not_or] at ht
    cases segment with
    | cons c cs =>
      rw [List.cons_append, afterText?, afterText?]
      split
      · exact ih ht.2
      · rfl
    | nil =>
      cases rest with
      | nil => rfl
      | cons c rest =>
        obtain rfl : c = '/' := hr c rfl
        have hsame : sameChar foldsCase l '/' = false := by
          rw [Bool.eq_false_iff]
          intro h
          exact ht.1 ((eq_mark_iff (by decide) h).2 rfl).symm
        have hnone : afterText? foldsCase (l :: ls) ('/' :: rest) = none := by rw [afterText?, hsame, if_neg (by simp)]
        exact hnone

/-- What follows a literal in a segment is an end of the segment. -/
theorem not_mem_of_afterText? {text segment part : List Char} (h : afterText? foldsCase text segment = some part)
    (hs : '/' ∉ segment) : '/' ∉ part := by
  obtain ⟨piece, rfl, -⟩ := afterText?_eq_some.1 h
  exact fun hm => hs (List.mem_append_right _ hm)

/-- A gap does not reach beyond a segment: all that counts is what follows it there. -/
theorem takeGap_segment {k k' : List Char → Option Captures} {segment : List Char} (hs : '/' ∉ segment)
    (hr : ∀ c ∈ rest.head?, c = '/') (hk : ∀ part, '/' ∉ part → k (part ++ rest) = k' part) :
    takeGap k (segment ++ rest) = takeGap k' segment := by
  induction segment with
  | nil =>
    cases rest with
    | nil => rfl
    | cons c rest =>
      obtain rfl : c = '/' := hr c rfl
      rfl
  | cons c cs ih =>
    rw [List.mem_cons, not_or] at hs
    rw [List.cons_append, takeGap_cons c _ (Ne.symm hs.1), takeGap_cons c _ (Ne.symm hs.1), hk cs hs.2, ih hs.2]

/-- Captures that are added behind do not change what a gap takes. -/
theorem takeGap_bind (k : List Char → Option Captures) (more : Option Captures) (path : List Char) :
    takeGap (fun part => (k part).bind fun found => more.map (found ++ ·)) path =
      (takeGap k path).bind fun (text, found) => more.map fun behind => (text, found ++ behind) := by
  induction path with
  | nil => rfl
  | cons c cs ih =>
    by_cases hc : c = '/'
    · subst hc
      rfl
    · rw [takeGap_cons c cs hc, takeGap_cons c cs hc, ih]
      cases k cs <;> cases more <;> cases takeGap k cs <;> rfl

/-- Tokens without a slash match a segment as if it were all there is, if the others go on at its end. -/
theorem search_segment {tokens others : List Token} {segment : List Char} (ht : '/' ∉ untokenize tokens)
    (hs : '/' ∉ segment) (hr : ∀ c ∈ rest.head?, c = '/')
    (ho : ∀ c cs, c ≠ '/' → search foldsCase (others.map Token.group) (c :: cs) = none) :
    search foldsCase ((tokens ++ others).map Token.group) (segment ++ rest) =
      (search foldsCase (tokens.map Token.group) segment).bind fun found =>
        (search foldsCase (others.map Token.group) rest).map (found ++ ·) := by
  induction tokens generalizing segment with
  | nil =>
    cases segment with
    | nil =>
      simp [search]
    | cons c cs =>
      have hc : c ≠ '/' := fun he => hs (he ▸ List.mem_cons_self)
      rw [List.nil_append, List.cons_append, ho c _ hc]
      rfl
  | cons token tokens ih =>
    rw [untokenize_cons, List.mem_append, not_or] at ht
    cases token with
    | literal text =>
      have htext : '/' ∉ text := ht.1
      rw [List.cons_append, List.map_cons, List.map_cons, Token.group, search, search, afterText?_segment htext hr]
      cases ha : afterText? foldsCase text segment with
      | none => rfl
      | some part => exact ih ht.2 (not_mem_of_afterText? ha hs)
    | placeholder name =>
      have hgap := takeGap_segment hs hr fun part (hp : '/' ∉ part) => ih ht.2 hp
      rw [List.cons_append, List.map_cons, List.map_cons, Token.group, search, search, hgap, takeGap_bind]
      cases takeGap (search foldsCase (tokens.map Token.group)) segment <;>
        cases search foldsCase (others.map Token.group) rest <;> rfl

end Segment

/-! ## All segments of a path -/

/-- What each of `parts` captures from the segment in its place, if there are as many segments and all match. -/
def captureEach {α : Type} (f : α → List Char → Option Captures) : List α → List (List Char) → Option (List Captures)
  | [], [] => some []
  | part :: parts, segment :: segments => do
    let found ← f part segment
    let more ← captureEach f parts segments
    some (found :: more)
  | _, _ => none

/-- The tokens of segments, each behind a slash. -/
def underSlashes (parts : List (List Token)) : List Token :=
  parts.flatMap (.literal ['/'] :: ·)

section CaptureEach
variable {α β : Type} {f : α → List Char → Option Captures} {parts : List α} {segments : List (List Char)}

/-- All segments match exactly if there are as many as parts and each matches the part in its place. -/
theorem captureEach_isSome_iff {test : α → List Char → Bool}
    (h : ∀ part ∈ parts, ∀ segment, test part segment = (f part segment).isSome) :
    (captureEach f parts segments).isSome = true ↔
      List.Forall₂ (fun part segment => test part segment = true) parts segments := by
  induction parts generalizing segments with
  | nil => cases segments <;> simp [captureEach]
  | cons part parts ih =>
    rw [List.forall_mem_cons] at h
    cases segments with
    | nil => simp [captureEach]
    | cons segment segments =>
      rw [List.forall₂_cons, ← ih h.2, captureEach, h.1]
      cases f part segment <;> cases captureEach f parts segments <;> simp

theorem captureEach_congr {g : β → List Char → Option Captures} {P : List Char → Prop} {others : List β}
    (h : List.Forall₂ (fun part other => ∀ segment, P segment → f part segment = g other segment) parts others)
    (hs : ∀ segment ∈ segments, P segment) : captureEach f parts segments = captureEach g others segments := by
  induction h generalizing segments with
  | nil => cases segments <;> rfl
  | cons hp _ ih =>
    cases segments with
    | nil => rfl
    | cons segment segments =>
      rw [List.forall_mem_cons] at hs
      rw [captureEach, captureEach, hp segment hs.1, ih hs.2]

end CaptureEach

theorem underSlashes_cons (part : List Token) (parts : List (List Token)) :
    underSlashes (part :: parts) = .literal ['/'] :: (part ++ underSlashes parts) := rfl

/-- The tokens of segments go on at a slash only. -/
theorem search_underSlashes_of_ne (foldsCase : Bool) (parts : List (List Token)) {c : Char} (hc : c ≠ '/')
    (cs : List Char) : search foldsCase ((underSlashes parts).map Token.group) (c :: cs) = none := by
  cases parts with
  | nil => rfl
  | cons part parts =>
    rw [underSlashes_cons]
    exact search_slash_of_ne foldsCase _ (by simpa using hc)

/-- On a path the tokens of segments capture what each captures from its segment. -/
theorem search_underSlashes (foldsCase : Bool) {parts : List (List Token)} {segments : List (List Char)}
    (hp : ∀ part ∈ parts, '/' ∉ untokenize part) (hs : ∀ segment ∈ segments, '/' ∉ segment) :
    search foldsCase ((underSlashes parts).map Token.group) (segments.flatMap ('/' :: ·)) =
      (captureEach (fun part => search foldsCase (part.map Token.group)) parts segments).map List.flatten := by
  induction parts generalizing segments with
  | nil => cases segments <;> rfl
  | cons part parts ih =>
    cases segments with
    | nil => rfl
    | cons segment segments =>
      rw [List.forall_mem_cons] at hp hs
      have hrest : ∀ c ∈ (segments.flatMap ('/' :: ·)).head?, c = '/' := by
        cases segments <;> simp
      have hsegment := search_segment hp.1 hs.1 hrest fun c cs hc => search_underSlashes_of_ne foldsCase parts hc cs
      rw [underSlashes_cons, List.flatMap_cons, List.cons_append, search_slash, hsegment, ih hp.2 hs.2, captureEach]
      cases search foldsCase (part.map Token.group) segment <;>
        cases captureEach (fun part => search foldsCase (part.map Token.group)) parts segments <;> rfl

/-! ## The segments of a template -/

/-- Tokens fall into those of the segments of their text. -/
theorem Spells.segments {tokens : List Token} {text : List Char} (h : Spells tokens text) :
    ∃ parts, List.Forall₂ Spells parts (split '/' text) ∧ placeholders tokens = parts.flatMap placeholders := by
  induction text using split_induction '/' generalizing tokens with
  | last piece hp =>
    rw [split_of_not_mem hp]
    exact ⟨[tokens], .cons h .nil, by simp⟩
  | more piece rest hp ih =>
    obtain ⟨left, right, hl, hr, hn⟩ := h.cut
    obtain ⟨parts, hparts, hnames⟩ := ih hr
    rw [split_append hp]
    exact ⟨left :: parts, .cons hl hparts, by rw [hn, hnames, List.flatMap_cons]⟩

/-- Tokens of segments spell the segments, each behind a slash. -/
theorem spells_underSlashes {parts : List (List Token)} {segments : List (List Char)}
    (h : List.Forall₂ Spells parts segments) : Spells (underSlashes parts) (segments.flatMap ('/' :: ·)) := by
  induction h with
  | nil => exact spells_nil
  | cons hp _ ih => exact (hp.append ih).slash

/-- With a slash in front, the tokens of the segments of a text spell it, as those of the text do. -/
theorem spells_underSlashes_split {parts : List (List Token)} {text : List Char}
    (h : List.Forall₂ Spells parts (split '/' text)) : Spells (underSlashes parts) ('/' :: text) := by
  rw [← flatMap_split text]
  exact spells_underSlashes h

theorem not_mem_untokenize_of_segments {parts : List (List Token)} {segments : List (List Char)}
    (h : List.Forall₂ Spells parts segments) (hs : ∀ segment ∈ segments, '/' ∉ segment) :
    ∀ part ∈ parts, '/' ∉ untokenize part := by
  induction h with
  | nil => simp
  | cons hp _ ih =>
    rw [List.forall_mem_cons] at hs ⊢
    exact ⟨hp.text_eq ▸ hs.1, ih hs.2⟩

/-- The tokens of all segments take the room of each, and of a slash for every one. -/
theorem patternSize_underSlashes {parts : List (List Token)} {part : List Token} (h : part ∈ parts) :
    32 * parts.length + patternSize part ≤ patternSize (underSlashes parts) := by
  have hslashes : ∀ others, 32 * others.length ≤ patternSize (underSlashes others) := by
    intro others
    induction others with
    | nil => exact Nat.zero_le _
    | cons other others ih =>
      rw [underSlashes_cons, patternSize_literal, patternSize_append, List.length_cons, List.length_singleton]
      omega
  induction parts with
  | nil => cases h
  | cons first parts ih =>
    rw [underSlashes_cons, patternSize_literal, patternSize_append, List.length_cons, List.length_singleton]
    rcases List.mem_cons.1 h with rfl | h
    · have := hslashes parts
      omega
    · have := ih h
      omega

namespace Template
variable {foldsCase : Bool} {base : Option (List Char)} {template : List Char} {t : Template}

theorem not_mem_of_mem_split {text segment : List Char} (h : segment ∈ split '/' text) : '/' ∉ segment :=
  fun hm => (mem_of_mem_split h '/' hm).2 rfl

/-- A segment behind a slash is mounted as it is. -/
theorem mount_segment {segment : List Char} (h : '/' ∉ segment) : mount none ('/' :: segment) = '/' :: segment := by
  have hne : ∀ c ∈ segment, isSlash c = false := fun c hc => beq_eq_false_iff_ne.2 fun he => h (he ▸ hc)
  have hstart : segment.dropWhile isSlash = segment := by
    cases segment with
    | nil => rfl
    | cons c cs => rw [List.dropWhile_cons, hne c List.mem_cons_self, if_neg (by simp)]
  have htrim : trimSlashes ('/' :: segment) = trimEnd isSlash (segment.dropWhile isSlash) := rfl
  have hmount : mount none ('/' :: segment) = '/' :: trimSlashes ('/' :: segment) := rfl
  rw [hmount, htrim, hstart, trimEnd_eq_self fun c hc => hne c (List.mem_of_getLast? hc)]

/-- A segment of a path is a path when a slash is put in front. -/
theorem normalPath_segment {uri segment : List Char} (h : segment ∈ split '/' (normalizePath uri)) :
    NormalPath ('/' :: segment) := by
  have hpath := normalPath_normalizePath uri
  refine ⟨rfl, fun hl => ?_, fun hq => ?_, fun hf => ?_⟩
  · cases segment with
    | nil => rfl
    | cons c cs =>
      rw [List.getLast?_cons_cons] at hl
      exact absurd (List.mem_of_getLast? hl) (not_mem_of_mem_split h)
  · exact hpath.no_query (mem_of_mem_split h '?' (by simpa using hq)).1
  · exact hpath.no_fragment (mem_of_mem_split h '#' (by simpa using hf)).1

/-- Tokens of a segment compile behind a slash, and capture from a segment of a path what they capture alone. -/
theorem exists_compiled (foldsCase : Bool) {tokens : List Token} {segment : List Char} (h : Spells tokens segment)
    (hslash : '/' ∉ segment) (hn : (TypedRoutes.placeholders tokens).Nodup)
    (hl : 32 + patternSize tokens ≤ patternLimit) :
    ∃ part, compile foldsCase none ('/' :: segment) = .ok part ∧ part.placeholders = TypedRoutes.placeholders tokens ∧
      ∀ rest, NormalPath ('/' :: rest) →
        part.captures? ('/' :: rest) = search foldsCase (tokens.map Token.group) rest := by
  have hspells : Spells (.literal ['/'] :: tokens) (mount none ('/' :: segment)) := by
    rw [mount_segment hslash]
    exact h.slash
  have hnames : TypedRoutes.placeholders (merge [] (.literal ['/'] :: tokens)) = TypedRoutes.placeholders tokens := by
    rw [placeholders_merge, placeholders_literal]
  have hlimit : (ofTokens foldsCase (mount none ('/' :: segment))
      (merge [] (.literal ['/'] :: tokens))).withinLimit = true := by
    rw [withinLimit_iff, patternSize_merge, patternSize_literal, List.length_nil, List.length_singleton]
    omega
  have hc := compile_of_tokenize (tokenize_of_spells hspells) (hnames ▸ hn) hlimit
  refine ⟨_, hc, hnames, fun rest hr => ?_⟩
  rw [captures?_of_spells hc hspells, hr.eq_self, search_slash]

/-- Tokens of segments compile segment by segment. -/
theorem exists_parts (foldsCase : Bool) {parts : List (List Token)} {segments : List (List Char)}
    (h : List.Forall₂ Spells parts segments) (hslash : ∀ segment ∈ segments, '/' ∉ segment)
    (hn : ∀ part ∈ parts, (TypedRoutes.placeholders part).Nodup)
    (hl : ∀ part ∈ parts, 32 + patternSize part ≤ patternLimit) :
    ∃ each : List Template,
      List.Forall₂ (fun segment part => compile foldsCase none ('/' :: segment) = .ok part) segments each ∧
      each.flatMap Template.placeholders = parts.flatMap TypedRoutes.placeholders ∧
      List.Forall₂ (fun tokens part => ∀ rest, NormalPath ('/' :: rest) →
        search foldsCase (tokens.map Token.group) rest = part.captures? ('/' :: rest)) parts each ∧
      ∀ part ∈ each, ∀ uri, part.isMatch uri = (part.captures? uri).isSome := by
  induction h with
  | nil => exact ⟨[], .nil, rfl, .nil, by simp⟩
  | cons hp _ ih =>
    rw [List.forall_mem_cons] at hslash hn hl
    obtain ⟨part, hc, hnames, hcaptures⟩ := exists_compiled foldsCase hp hslash.1 hn.1 hl.1
    obtain ⟨each, hcs, hmore, heach, hmatch⟩ := ih hslash.2 hn.2 hl.2
    refine ⟨part :: each, .cons hc hcs, ?_, .cons (fun rest hr => (hcaptures rest hr).symm) heach, ?_⟩
    · rw [List.flatMap_cons, List.flatMap_cons, hnames, hmore]
    · exact List.forall_mem_cons.2 ⟨isMatch_of_compile hc, hmatch⟩

/-- The segments of a template find in the segments of a path what the template finds in the path. -/
theorem captures?_of_segments (h : compile foldsCase base template = .ok t) {parts : List (List Token)}
    (hp : List.Forall₂ Spells parts (split '/' (mount base template))) (uri : List Char) :
    t.captures? uri =
      (captureEach (fun part => search foldsCase (part.map Token.group)) parts
        (split '/' (normalizePath uri))).map List.flatten := by
  have hwhole := (spells_of_tokenize (of_compile h).1).slash
  rw [captures?_of_compile h, ← search_slash, search_of_spells hwhole (spells_underSlashes_split hp), ← flatMap_split,
    search_underSlashes foldsCase (not_mem_untokenize_of_segments hp fun _ => not_mem_of_mem_split)
      fun _ => not_mem_of_mem_split]

/-- No segment of a template is estimated to take more room than the template. The mounted text begins with a slash, so
it has two segments at least, and the slash of one is to spare. -/
theorem patternSize_segment_le (h : compile foldsCase base template = .ok t) {parts : List (List Token)}
    (hp : List.Forall₂ Spells parts (split '/' (mount base template))) :
    ∀ part ∈ parts, 32 + patternSize part ≤ patternLimit := by
  intro part hm
  have hwhole := (spells_of_tokenize (of_compile h).1).slash
  have hsize := patternSize_of_spells hwhole (spells_underSlashes_split hp)
  have hpart := patternSize_underSlashes hm
  have hle := patternSize_le h
  have hlen : 2 ≤ parts.length := by
    rw [hp.length_eq]
    obtain ⟨rest, hrest⟩ := List.head?_eq_some_iff.1 (mount_ends base template).1
    have := List.length_pos_of_ne_nil (split_ne_nil '/' rest)
    rw [hrest, split_sep, List.length_cons]
    omega
  rw [patternSize_literal, List.length_singleton] at hsize
  omega

/-- A template is matched segment by segment: each of its segments compiles by itself, and a URI matches exactly if its
path has as many segments and each matches the one in its place. Then the captures are those of the segments, one after
the other. -/
theorem captures?_bySegment (h : compile foldsCase base template = .ok t) :
    ∃ parts : List Template,
      List.Forall₂ (fun segment part => compile foldsCase none ('/' :: segment) = .ok part)
        (split '/' (mount base template)) parts ∧
      t.placeholders = parts.flatMap Template.placeholders ∧
      ∀ uri,
        (t.isMatch uri = true ↔ List.Forall₂ (fun part segment => part.isMatch ('/' :: segment) = true) parts
          (split '/' (normalizePath uri))) ∧
        t.captures? uri =
          (captureEach (fun part segment => part.captures? ('/' :: segment)) parts
            (split '/' (normalizePath uri))).map List.flatten ∧
        ((split '/' (mount base template)).length ≠ (split '/' (normalizePath uri)).length →
          t.isMatch uri = false) := by
  obtain ⟨tokens, htokens, hnames⟩ := (spells_of_tokenize (of_compile h).1).segments
  have hnodup : ∀ part ∈ tokens, (TypedRoutes.placeholders part).Nodup := by
    have := (of_compile h).2.2
    rw [Template.placeholders, hnames] at this
    exact (List.nodup_flatMap.1 this).1
  obtain ⟨parts, hparts, hmore, heach, htest⟩ := exists_parts foldsCase htokens (fun _ => not_mem_of_mem_split) hnodup
    (patternSize_segment_le h htokens)
  have hcaptures : ∀ uri, t.captures? uri = (captureEach (fun part segment => part.captures? ('/' :: segment)) parts
      (split '/' (normalizePath uri))).map List.flatten := by
    intro uri
    rw [captures?_of_segments h htokens, captureEach_congr heach fun _ => normalPath_segment]
  refine ⟨parts, hparts, by rw [Template.placeholders, hnames, hmore], fun uri => ?_⟩
  have hmatch : t.isMatch uri = true ↔
      List.Forall₂ (fun part segment => part.isMatch ('/' :: segment) = true) parts
        (split '/' (normalizePath uri)) := by
    rw [isMatch_of_compile h, hcaptures, Option.isSome_map]
    exact captureEach_isSome_iff fun part hm segment => htest part hm ('/' :: segment)
  refine ⟨hmatch, hcaptures uri, fun hne => ?_⟩
  rw [Bool.eq_false_iff]
  intro hm
  exact hne (hparts.length_eq.trans (hmatch.1 hm).length_eq)

/-- Pages of albums, with two placeholders in one segment and one behind a letter. -/
def albums : Template :=
  ofTokens true "/Albums/{first}-{last}/p{page}".toList
    [.literal "/Albums/".toList, .placeholder "first", .literal ['-'], .placeholder "last", .literal "/p".toList,
      .placeholder "page"]

/-- The four segments of `albums`, the empty one in front of the first slash with them. -/
theorem captures?_bySegment_albums :
    compile true none "/Albums/{first}-{last}/p{page}".toList = .ok albums ∧
    ∃ parts : List Template, parts.length = 4 ∧ albums.placeholders = parts.flatMap Template.placeholders ∧
      albums.captures? "/albums/a-b-c/P7?all".toList =
        (captureEach (fun part segment => part.captures? ('/' :: segment)) parts
          [[], "albums".toList, "a-b-c".toList, "P7".toList]).map List.flatten ∧
      albums.isMatch "/albums/a-b-c".toList = false := by
  have h : compile true none "/Albums/{first}-{last}/p{page}".toList = .ok albums := by decide
  obtain ⟨parts, hparts, hnames, hall⟩ := captures?_bySegment h
  exact ⟨h, parts, hparts.length_eq.symm, hnames, (hall _).2.1, (hall _).2.2 (by decide)⟩

end Template

end TypedRoutes
