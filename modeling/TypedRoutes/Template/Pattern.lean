import TypedRoutes.Template.Token
import TypedRoutes.Text.CaseFold
/-!
# Patterns

A pattern is literal text with gaps in it, and matches a whole path. A gap takes one character or more,
none of them a slash, and as few as the rest of the pattern allows; so of all ways to match, the
leftmost gap is as short as possible, then the next one. Literals are compared character by character,
exactly or by their case-folded forms.

A pattern has a source text, in the notation of regular expressions, which is what logs and listings
show of it.

A pattern is matched from right to left along the path: a row holds, for every end of the path, the
answer for the pattern's rest, and each piece turns the row behind it into its own. `Pattern.isMatch`
does it with rows of truth values and `Pattern.captures?` with rows of captured texts.
-/
namespace TypedRoutes
open Text

/-- A piece of a pattern. A gap with a name captures its text. -/
inductive Piece where
  | literal (text : List Char)
  | gap (name : Option String)
  deriving DecidableEq, Repr

/-- A pattern over paths. -/
structure Pattern where
  pieces : List Piece
  foldsCase : Bool
  deriving DecidableEq, Repr

/-- The captured texts by the names of their gaps. -/
abbrev Captures := List (String × List Char)

/-- The characters with a meaning of their own in the source of a pattern. -/
def metaCharacters : List Char :=
  "\\.+*?()|[]\x7b\x7d^$#&-~".toList

/-- A literal in the source of a pattern. -/
def escape (text : List Char) : List Char :=
  text.flatMap fun c => if c ∈ metaCharacters then ['\\', c] else [c]

namespace Piece

/-- A piece in the source of a pattern. -/
def source : Piece → List Char
  | literal text => escape text
  | gap none => "(?:[^/]+?)".toList
  | gap (some name) => "(?P<".toList ++ name.toList ++ ">[^/]+?)".toList

/-- Whether a piece captures its text. -/
def isNamed : Piece → Bool
  | gap (some _) => true
  | _ => false

/-- An estimate of the room, in bytes, that a piece takes in a compiled pattern: one amount for every gap and
one for every character of a literal, however many bytes it is encoded in and whether case matters or not. -/
def size : Piece → Nat
  | literal text => 32 * text.length
  | gap _ => 832

end Piece

namespace Pattern

/-! ## Source -/

/-- The source of a pattern: it is matched from the beginning to the end of a path. -/
def source (p : Pattern) : List Char :=
  '^' :: p.pieces.flatMap Piece.source ++ ['$']

/-- The number of groups: the whole match and the named gaps. -/
def groupCount (p : Pattern) : Nat :=
  1 + p.pieces.countP Piece.isNamed

/-- An estimate of the room that a pattern takes. -/
def size (p : Pattern) : Nat :=
  p.pieces.foldr (fun piece n => piece.size + n) 0

/-! ## Matching -/

/-- Whether two characters are the same to a pattern. -/
def sameChar (foldsCase : Bool) (a b : Char) : Bool :=
  a == b || (foldsCase && foldCase a == foldCase b)

/-- Whether a gap may take a character. -/
def fillsGap (c : Char) : Bool :=
  c != '/'

/-- The answer of a row at the end of the path where a literal leaves off, if the path goes on with
the literal. -/
def afterLiteral {α : Type} (foldsCase : Bool) (fail : α) :
    List Char → List Char → List α → α
  | [], _, answer :: _ => answer
  | l :: ls, c :: cs, _ :: answers =>
    if sameChar foldsCase l c then afterLiteral foldsCase fail ls cs answers else fail
  | _, _, _ => fail

/-- The row of a literal from the row behind it. -/
def literalRow {α : Type} (foldsCase : Bool) (fail : α) (text : List Char) :
    List Char → List α → List α
  | [], row => [afterLiteral foldsCase fail text [] row]
  | c :: cs, row =>
    afterLiteral foldsCase fail text (c :: cs) row ::
      literalRow foldsCase fail text cs row.tail

/-- The row of a gap from the row behind it. `step` gives the answer of a gap that takes a character,
from the answer behind it if the gap ends there and the answer of a longer gap. -/
def gapRow {α : Type} (fail : α) (step : Char → α → α → α) : List Char → List α → List α
  | [], _ => [fail]
  | c :: cs, row =>
    let longer := gapRow fail step cs row.tail
    (if fillsGap c then step c (row.tail.headD fail) (longer.headD fail) else fail) :: longer

/-- The row of the empty pattern: only the empty end of a path matches it. -/
def emptyRow {α : Type} (fail done : α) : List Char → List α
  | [] => [done]
  | _ :: cs => fail :: emptyRow fail done cs

/-- A gap that takes a character matches if the rest of the pattern matches what follows, or a longer
gap does. -/
def orLonger (_ : Char) (rest longer : Bool) : Bool :=
  rest || longer

/-- For every end of a path, whether the pieces match it. -/
def matchRow (foldsCase : Bool) : List Piece → List Char → List Bool
  | [], path => emptyRow false true path
  | .literal text :: pieces, path =>
    literalRow foldsCase false text path (matchRow foldsCase pieces path)
  | .gap _ :: pieces, path => gapRow false orLonger path (matchRow foldsCase pieces path)

/-- The captures with a gap's text in front, if the gap has a name. -/
def capture (name : Option String) (text : List Char) (captures : Captures) : Captures :=
  match name with
  | some name => (name, text) :: captures
  | none => captures

/-- A gap that takes a character ends there if the rest of the pattern matches what follows; if not,
it takes the character and what a longer gap takes. -/
def shortestGap (c : Char) (rest longer : Option (List Char × Captures)) :
    Option (List Char × Captures) :=
  match rest, longer with
  | some (_, captures), _ => some ([c], captures)
  | none, some (text, captures) => some (c :: text, captures)
  | none, none => none

/-- For every end of a path, the captures of the pieces, if they match it. -/
def captureRow (foldsCase : Bool) : List Piece → List Char → List (Option Captures)
  | [], path => emptyRow none (some []) path
  | .literal text :: pieces, path =>
    literalRow foldsCase none text path (captureRow foldsCase pieces path)
  | .gap name :: pieces, path =>
    (gapRow none shortestGap path ((captureRow foldsCase pieces path).map (·.map ([], ·)))).map
      (·.map fun (text, captures) => capture name text captures)

/-- Whether a pattern matches a path. -/
def isMatch (p : Pattern) (path : List Char) : Bool :=
  (matchRow p.foldsCase p.pieces path).headD false

/-- The captures of a pattern on a path that it matches. -/
def captures? (p : Pattern) (path : List Char) : Option Captures :=
  (captureRow p.foldsCase p.pieces path).headD none

end Pattern

end TypedRoutes
