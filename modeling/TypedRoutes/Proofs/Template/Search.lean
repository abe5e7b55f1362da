import Mathlib.Data.List.Infix
import TypedRoutes.Template.Basic
/-!
# Rows are a search with backtracking

A pattern is matched by rows: one answer for every end of the path. `search` is the plain reading of a
pattern: a literal is taken off the front of the path, and a gap takes one character more each time the rest
of the pattern fails behind it.

`captureRow_eq` and `matchRow_eq`: the rows hold what `search` finds at every end of the path, so the matcher
and the extractor of a template agree (`matchRow_shape`).
-/
namespace TypedRoutes.Pattern
open Text

/-- What follows a literal at the start of a path. -/
def afterText? (foldsCase : Bool) : List Char → List Char → Option (List Char)
  | [], path => some path
  | _ :: _, [] => none
  | l :: ls, c :: cs => if sameChar foldsCase l c then afterText? foldsCase ls cs else none

/-- The answer of a gap at the start of a path, where `f` answers for what follows it. -/
def gapAnswer {α : Type} (fail : α) (step : Char → α → α → α) (f : List Char → α) : List Char → α
  | [] => fail
  | c :: cs => if fillsGap c then step c (f cs) (gapAnswer fail step f cs) else fail

/-- The shortest text of a gap at the start of a path such that `k` has captures for what follows it. -/
def takeGap (k : List Char → Option Captures) : List Char → Option (List Char × Captures) :=
  gapAnswer none shortestGap fun rest => (k rest).map ([], ·)

/-- The captures of pieces on a path, by trying the shortest gap first. -/
def search (foldsCase : Bool) : List Piece → List Char → Option Captures
  | [], path => if path.isEmpty then some [] else none
  | .literal text :: pieces, path => (afterText? foldsCase text path).bind (search foldsCase pieces)
  | .gap name :: pieces, path =>
    (takeGap (search foldsCase pieces) path).map fun (text, captures) => capture name text captures

/-! ## Rows -/

section Rows
variable {α : Type} (foldsCase : Bool) (fail : α) (f : List Char → α)

theorem emptyRow_eq (done : α) (path : List Char) :
    emptyRow fail done path = path.tails.map fun rest => if rest.isEmpty then done else fail := by
  induction path with
  | nil => rfl
  | cons c cs ih => simp [emptyRow, ih]

/-- One character of the literal takes one character of the path and one answer of the row. -/
theorem afterLiteral_eq (text path : List Char) :
    afterLiteral foldsCase fail text path (path.tails.map f) =
      ((afterText? foldsCase text path).map f).getD fail := by
  induction text generalizing path with
  | nil => cases path <;> rfl
  | cons l ls ih =>
    cases path with
    | nil => rfl
    | cons c cs =>
      simp only [List.tails_cons, List.map_cons, afterLiteral, afterText?]
      split
      · exact ih cs
      · rfl

theorem literalRow_eq (text path : List Char) :
    literalRow foldsCase fail text path (path.tails.map f) =
      path.tails.map fun rest => ((afterText? foldsCase text rest).map f).getD fail := by
  induction path with
  | nil =>
    have h := afterLiteral_eq foldsCase fail f text []
    simpa [literalRow] using h
  | cons c cs ih =>
    have h := afterLiteral_eq foldsCase fail f text (c :: cs)
    simp only [List.tails_cons, List.map_cons, literalRow, List.tail_cons] at h ⊢
    rw [h, ih]

theorem gapRow_eq (step : Char → α → α → α) (path : List Char) :
    gapRow fail step path (path.tails.map f) = path.tails.map (gapAnswer fail step f) := by
  induction path with
  | nil => rfl
  | cons c cs ih =>
    have head : ∀ g : List Char → α, (cs.tails.map g).headD fail = g cs := by
      intro g; cases cs <;> rfl
    simp only [List.tails_cons, List.map_cons, gapRow, List.tail_cons, ih, head]
    rfl

end Rows

/-- Every end of the path has the captures that the search finds there. The row of a piece is made of the row behind it,
so the induction is from the last piece on. -/
theorem captureRow_eq (foldsCase : Bool) (pieces : List Piece) (path : List Char) :
    captureRow foldsCase pieces path = path.tails.map (search foldsCase pieces) := by
  induction pieces with
  | nil => exact emptyRow_eq none (some []) path
  | cons piece pieces ih =>
    cases piece with
    | literal text =>
      rw [captureRow, ih, literalRow_eq]
      refine List.map_congr_left fun rest _ => ?_
      rw [search]
      cases afterText? foldsCase text rest <;> rfl
    | gap name =>
      rw [captureRow, ih, List.map_map, gapRow_eq, List.map_map]
      rfl

theorem gapAnswer_isSome (k : List Char → Option Captures) (path : List Char) :
    gapAnswer false orLonger (fun rest => (k rest).isSome) path =
      (takeGap k path).isSome := by
  induction path with
  | nil => rfl
  | cons c cs ih =>
    simp only [takeGap, gapAnswer] at ih ⊢
    split
    · rw [ih]
      cases k cs <;> cases gapAnswer none shortestGap (fun rest => (k rest).map ([], ·)) cs <;> rfl
    · rfl

/-- Every end of the path matches if the search finds captures there. -/
theorem matchRow_eq (foldsCase : Bool) (pieces : List Piece) (path : List Char) :
    matchRow foldsCase pieces path = path.tails.map fun rest => (search foldsCase pieces rest).isSome := by
  induction pieces with
  | nil =>
    rw [matchRow, emptyRow_eq]
    refine List.map_congr_left fun rest _ => ?_
    rw [search]
    cases rest.isEmpty <;> rfl
  | cons piece pieces ih =>
    cases piece with
    | literal text =>
      rw [matchRow, ih, literalRow_eq]
      refine List.map_congr_left fun rest _ => ?_
      rw [search]
      cases afterText? foldsCase text rest <;> rfl
    | gap name =>
      rw [matchRow, ih, gapRow_eq]
      refine List.map_congr_left fun rest _ => ?_
      rw [gapAnswer_isSome, search, Option.isSome_map]

/-- Names of gaps do not count for matching. -/
theorem matchRow_shape (foldsCase : Bool) (tokens : List Token) (path : List Char) :
    matchRow foldsCase (tokens.map Token.shape) path = matchRow foldsCase (tokens.map Token.group) path := by
  induction tokens with
  | nil => rfl
  | cons token tokens ih =>
    cases token <;> simp only [List.map_cons, Token.shape, Token.group, matchRow, ih]

theorem headD_tails_map {α : Type} (f : List Char → α) (path : List Char) (fail : α) :
    (path.tails.map f).headD fail = f path := by
  cases path <;> rfl

theorem captures?_eq_search (p : Pattern) (path : List Char) :
    p.captures? path = search p.foldsCase p.pieces path := by
  rw [captures?, captureRow_eq, headD_tails_map]

end TypedRoutes.Pattern

namespace TypedRoutes.Template
open Pattern

theorem captures?_ofTokens (foldsCase : Bool) (text : List Char) (tokens : List Token) (uri : List Char) :
    (ofTokens foldsCase text tokens).captures? uri =
      search foldsCase (tokens.map Token.group) (normalizePath uri) :=
  captures?_eq_search _ _

/-- The matcher of a template accepts the paths that its extractor takes captures from. -/
theorem isMatch_ofTokens (foldsCase : Bool) (text : List Char) (tokens : List Token) (uri : List Char) :
    (ofTokens foldsCase text tokens).isMatch uri =
      ((ofTokens foldsCase text tokens).captures? uri).isSome := by
  rw [captures?_ofTokens]
  simp only [Template.isMatch, ofTokens, Pattern.isMatch]
  rw [matchRow_shape, matchRow_eq, headD_tails_map]

end TypedRoutes.Template
