import TypedRoutes.Template.Path
import TypedRoutes.Template.Pattern
/-!
# Templates

A compiled template holds its tokens and two patterns made of them: the matcher, which only tells whether
a path has the right shape, and the extractor, which captures the text of each placeholder. Matching
and capturing take a whole URI and look at its path. `Template.fill?` goes the other way and writes a
path with given texts for the placeholders.
-/
namespace TypedRoutes

structure Template where
  text : List Char
  tokens : List Token
  matcher : Pattern
  extractor : Pattern
  deriving DecidableEq, Repr

/-- The piece of the matcher for a token. -/
def Token.shape : Token → Piece
  | literal text => .literal text
  | placeholder _ => .gap none

/-- The piece of the extractor for a token. -/
def Token.group : Token → Piece
  | literal text => .literal text
  | placeholder name => .gap (some name)

namespace Template

def ofTokens (foldsCase : Bool) (text : List Char) (tokens : List Token) : Template where
  text := text
  tokens := tokens
  matcher := ⟨tokens.map Token.shape, foldsCase⟩
  extractor := ⟨tokens.map Token.group, foldsCase⟩

/-- Whether both patterns are within the limit, by the estimate of the room that they take. It is meant to
tell some dozens of placeholders from thousands, and is not exact near the limit. -/
def withinLimit (t : Template) : Bool :=
  t.matcher.size ≤ patternLimit && t.extractor.size ≤ patternLimit

/-- Compiles a template under a base path. `foldsCase` tells whether literals match without regard to
case. -/
def compile (foldsCase : Bool) (base : Option (List Char)) (template : List Char) :
    Except TemplateError Template := do
  let text := mount base template
  let tokens ← tokenize text
  match duplicate? [] (TypedRoutes.placeholders tokens) with
  | some name => .error (.duplicatePlaceholder name)
  | none =>
    let t := ofTokens foldsCase text tokens
    if t.withinLimit then .ok t else .error .patternTooLarge

def placeholders (t : Template) : List String :=
  TypedRoutes.placeholders t.tokens

/-- Whether a URI has the shape of a template. -/
def isMatch (t : Template) (uri : List Char) : Bool :=
  t.matcher.isMatch (normalizePath uri)

/-- The text of each placeholder in a URI, in the order of the template, if the URI matches. -/
def captures? (t : Template) (uri : List Char) : Option Captures :=
  t.extractor.captures? (normalizePath uri)

/-- The tokens with a text for each placeholder. -/
def fillTokens (texts : Captures) : List Token → Option (List Char)
  | [] => some []
  | .literal text :: tokens => (fillTokens texts tokens).map (text ++ ·)
  | .placeholder name :: tokens => do
    let text ← texts.lookup name
    let rest ← fillTokens texts tokens
    some (text ++ rest)

/-- The path with a text for each placeholder, if all have one. -/
def fill? (t : Template) (texts : Captures) : Option (List Char) :=
  fillTokens texts t.tokens

end Template

end TypedRoutes
