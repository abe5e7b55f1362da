import TypedRoutes.Proofs.Template.Cutting
import TypedRoutes.Proofs.Template.NormalPath
/-!
# Templates under a base path

A template that is mounted under a base path matches the paths below it. What is left of such a path behind the base is
a path of its own, or nothing, and the template captures from it what the mounted one captures from all of it
(`Template.captures?_mounted`). The root has nothing left for it but the base itself.
-/
namespace TypedRoutes
open Pattern Text

/-! ## The text of a mounted template -/

theorem isSlash_iff {c : Char} : isSlash c = true ↔ c = '/' :=
  beq_iff_eq

theorem trimSlashes_subset (cs : List Char) : trimSlashes cs ⊆ cs :=
  fun _ hc => (List.dropWhile_sublist _).subset (trimEnd_subset _ _ hc)

theorem mount_none (template : List Char) : mount none template = '/' :: trimSlashes template := rfl

/-- What a template adds to its base path: nothing for the root. -/
def belowBase (template : List Char) : List Char :=
  if trimSlashes template = [] then [] else '/' :: trimSlashes template

theorem mount_some {base : List Char} (h : trimSlashes base ≠ []) (template : List Char) :
    mount (some base) template = '/' :: trimSlashes base ++ belowBase template := by
  have hmount : mount (some base) template = if (trimSlashes template).isEmpty then '/' :: trimSlashes base
      else '/' :: trimSlashes base ++ '/' :: trimSlashes template := by
    rw [mount, Option.map_some]
    split
    · rename_i he
      cases he
    · rename_i he
      exact absurd (Option.some.inj he) h
    · rename_i he
      cases he
      rfl
  rw [hmount, belowBase]
  by_cases ht : trimSlashes template = []
  · simp [ht]
  · rw [if_neg ht, if_neg (by simpa using ht)]

/-! ## Nothing left to match -/

theorem Division.untokenize_eq_nil {foldsCase : Bool} {tokens : List Token} {texts : List (List Char)}
    (h : Division foldsCase tokens texts []) : untokenize tokens = [] := by
  induction tokens generalizing texts with
  | nil => rfl
  | cons token tokens ih =>
    cases token with
    | literal text =>
      obtain ⟨piece, rest, he, hp, hd⟩ := h
      obtain ⟨rfl, rfl⟩ := List.append_eq_nil_iff.1 he.symm
      obtain rfl : text = [] := List.length_eq_zero_iff.1 hp.length_eq
      rw [untokenize_cons, ih hd]
      rfl
    | placeholder name =>
      obtain ⟨text, more, rest, -, he, hf, -⟩ := h
      exact absurd (List.append_eq_nil_iff.1 he.symm).1 hf.1

/-- Only the empty text is found in the empty path. -/
theorem Spells.eq_nil_of_search {foldsCase : Bool} {tokens : List Token} {text : List Char} {captures : Captures}
    (h : Spells tokens text) (hs : search foldsCase (tokens.map Token.group) [] = some captures) : text = [] := by
  rw [← h.text_eq]
  exact (search_division hs).2.untokenize_eq_nil

theorem afterText?_exact {text path rest : List Char} :
    afterText? false text path = some rest ↔ path = text ++ rest := by
  rw [afterText?_eq_some]
  constructor
  · rintro ⟨piece, rfl, hp⟩
    rw [sameText_exact hp]
  · rintro rfl
    exact ⟨text, rfl, sameText_refl false text⟩

/-! ## What is left behind the base path -/

/-- What is left of a path behind a base, from a slash on, is a path that is not the root. It ends in no slash, as the
whole path, being longer than the root, ends in none. -/
theorem NormalPath.of_append {front rest : List Char} (h : NormalPath ('/' :: front ++ rest)) (hf : front ≠ [])
    (hr : rest.head? = some '/') : NormalPath rest ∧ rest ≠ ['/'] := by
  have hlast : rest.getLast? ≠ some '/' := by
    intro hl
    have hne : rest ≠ [] := by
      rintro rfl
      cases hr
    have hroot := h.last (by rw [List.getLast?_append_of_ne_nil _ hne, hl])
    simp [hf] at hroot
  refine ⟨⟨hr, fun hl => absurd hl hlast, ?_, ?_⟩, ?_⟩
  · exact fun hq => h.no_query (List.mem_append_right _ hq)
  · exact fun hm => h.no_fragment (List.mem_append_right _ hm)
  · rintro rfl
    exact hlast rfl

namespace Template
variable {foldsCase : Bool} {base template : List Char} {mounted t : Template}

/-- The root adds nothing to a base, and is found behind one where nothing is left. -/
theorem search_root_iff (h : compile foldsCase none template = .ok t) (hroot : trimSlashes template = [])
    {rest : List Char} {captures : Captures} (hr : rest.head? = some '/' → NormalPath rest ∧ rest ≠ ['/']) :
    search foldsCase (([] : List Token).map Token.group) rest = some captures ↔
      (rest = [] ∨ rest.head? = some '/') ∧ t.captures? rest = some captures := by
  have hspells : Spells [.literal ['/']] (mount none template) := by
    rw [mount_none, hroot]
    exact spells_nil.slash
  have hcaptures := captures?_of_spells h hspells rest
  cases rest with
  | nil =>
    have hempty : t.captures? [] = search foldsCase (([] : List Token).map Token.group) [] := hcaptures
    simp [hempty]
  | cons c more =>
    have hnone : search foldsCase (([] : List Token).map Token.group) (c :: more) = none := rfl
    rw [hnone]
    constructor
    · rintro ⟨⟩
    · rintro ⟨hhead, hc⟩
      obtain rfl : c = '/' := by simpa using hhead
      obtain ⟨hn, hne⟩ := hr rfl
      rw [hcaptures, hn.eq_self, search_slash] at hc
      cases more with
      | nil => exact absurd rfl hne
      | cons d more => cases hc

/-- Any other template is found behind a base where a path is left that it matches. Where nothing is left, it is not
found, nor is the root a path that it matches. -/
theorem search_slash_iff (h : compile foldsCase none template = .ok t) (hroot : trimSlashes template ≠ [])
    {tokens : List Token} (htokens : Spells tokens (trimSlashes template)) {rest : List Char} {captures : Captures}
    (hr : rest.head? = some '/' → NormalPath rest ∧ rest ≠ ['/']) :
    search foldsCase ((.literal ['/'] :: tokens).map Token.group) rest = some captures ↔
      (rest = [] ∨ rest.head? = some '/') ∧ t.captures? rest = some captures := by
  have hcaptures := captures?_of_spells h htokens.slash rest
  by_cases hhead : rest.head? = some '/'
  · rw [hcaptures, (hr hhead).1.eq_self]
    simp [hhead]
  · rw [search_slash_of_ne foldsCase tokens hhead]
    constructor
    · rintro ⟨⟩
    · rintro ⟨hempty, hc⟩
      obtain rfl : rest = [] := hempty.resolve_right hhead
      have hroot' : normalizePath [] = ['/'] := rfl
      rw [hcaptures, hroot', search_slash] at hc
      exact absurd (htokens.eq_nil_of_search hc) hroot

/-- A mounted template takes its base off the path, and finds what it adds to the base in the rest. -/
theorem captures?_of_mount (h : compile false (some base) template = .ok mounted)
    (hw : ∀ c ∈ base, c ≠ '{' ∧ c ≠ '}') (hb : trimSlashes base ≠ []) {below : List Token}
    (hs : Spells below (belowBase template)) (uri : List Char) (captures : Captures) :
    mounted.captures? uri = some captures ↔ ∃ rest, normalizePath uri = '/' :: trimSlashes base ++ rest ∧
      search false (below.map Token.group) rest = some captures := by
  have hbase : (Token.literal ('/' :: trimSlashes base)).WellFormed := by
    refine ⟨fun hm => ?_, fun hm => ?_⟩
    · have hm' : '{' ∈ trimSlashes base := by simpa using hm
      exact (hw '{' (trimSlashes_subset base hm')).1 rfl
    · have hm' : '}' ∈ trimSlashes base := by simpa using hm
      exact (hw '}' (trimSlashes_subset base hm')).2 rfl
  have hspells : Spells (.literal ('/' :: trimSlashes base) :: below) (mount (some base) template) := by
    rw [mount_some hb]
    exact hs.cons hbase
  rw [captures?_of_spells h hspells, List.map_cons, Token.group, search, Option.bind_eq_some_iff]
  simp only [afterText?_exact]

/-- Mounted under a base path, a template captures from a URI what it captures without the base from the path that is
left below it, and matches no other URI. -/
theorem captures?_mounted (hw : ∀ c ∈ base, c ≠ '{' ∧ c ≠ '}') (hb : trimSlashes base ≠ [])
    (hm : compile false (some base) template = .ok mounted) (ht : compile false none template = .ok t)
    (uri : List Char) (captures : Captures) :
    mounted.captures? uri = some captures ↔
      ∃ rest, normalizePath uri = '/' :: trimSlashes base ++ rest ∧ (rest = [] ∨ rest.head? = some '/') ∧
        t.captures? rest = some captures := by
  have hrest : ∀ rest, normalizePath uri = '/' :: trimSlashes base ++ rest →
      (rest.head? = some '/' → NormalPath rest ∧ rest ≠ ['/']) := by
    intro rest hu
    exact NormalPath.of_append (hu ▸ normalPath_normalizePath uri) hb
  by_cases hroot : trimSlashes template = []
  · have hbelow : Spells [] (belowBase template) := by
      rw [belowBase, if_pos hroot]
      exact spells_nil
    rw [captures?_of_mount hm hw hb hbelow]
    refine exists_congr fun rest => and_congr_right fun hu => ?_
    exact search_root_iff ht hroot (hrest rest hu)
  · have hspells : Spells t.tokens ([] ++ '/' :: trimSlashes template) := spells_of_tokenize (of_compile ht).1
    obtain ⟨-, tokens, -, htokens, -⟩ := hspells.cut
    have hbelow : Spells (.literal ['/'] :: tokens) (belowBase template) := by
      rw [belowBase, if_neg hroot]
      exact htokens.slash
    rw [captures?_of_mount hm hw hb hbelow]
    refine exists_congr fun rest => and_congr_right fun hu => ?_
    exact search_slash_iff ht hroot htokens (hrest rest hu)

/-- Widgets without a base path. -/
def widgets : Template :=
  ofTokens false "/widgets/{id}.{format}".toList
    [.literal "/widgets/".toList, .placeholder "id", .literal ['.'], .placeholder "format"]

/-- Widgets below a base path of two segments. -/
def mountedWidgets : Template :=
  ofTokens false "/api/v1/widgets/{id}.{format}".toList
    [.literal "/api/v1/widgets/".toList, .placeholder "id", .literal ['.'], .placeholder "format"]

/-- The same texts are captured with the base in front and without it. -/
theorem captures?_mounted_widgets :
    (∀ c ∈ "/api/v1/".toList, c ≠ '{' ∧ c ≠ '}') ∧ trimSlashes "/api/v1/".toList ≠ [] ∧
    compile false (some "/api/v1/".toList) "widgets/{id}.{format}".toList = .ok mountedWidgets ∧
    compile false none "widgets/{id}.{format}".toList = .ok widgets ∧
    mountedWidgets.captures? "http://host/api/v1/widgets/a.b.c/?x".toList =
      some [("id", ['a']), ("format", "b.c".toList)] ∧
    ∃ rest,
      normalizePath "http://host/api/v1/widgets/a.b.c/?x".toList = '/' :: trimSlashes "/api/v1/".toList ++ rest ∧
      (rest = [] ∨ rest.head? = some '/') ∧
      widgets.captures? rest = some [("id", ['a']), ("format", "b.c".toList)] := by
  have hw : ∀ c ∈ "/api/v1/".toList, c ≠ '{' ∧ c ≠ '}' := by simp
  have hb : trimSlashes "/api/v1/".toList ≠ [] := by decide
  have hm : compile false (some "/api/v1/".toList) "widgets/{id}.{format}".toList = .ok mountedWidgets := by decide
  have ht : compile false none "widgets/{id}.{format}".toList = .ok widgets := by decide
  have hc : mountedWidgets.captures? "http://host/api/v1/widgets/a.b.c/?x".toList =
      some [("id", ['a']), ("format", "b.c".toList)] := by decide
  exact ⟨hw, hb, hm, ht, hc, (captures?_mounted hw hb hm ht _ _).1 hc⟩

end Template

end TypedRoutes
