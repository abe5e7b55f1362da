import TypedRoutes.Text.Trim
/-!
# Template tokens

A template is literal text with placeholders in it. A placeholder is a name in braces, and a brace has no
other use. `tokenize` reads a template from left to right and stops at the first thing it cannot read;
`untokenize` writes the tokens back.
-/
namespace TypedRoutes

/-- A piece of a template. -/
inductive Token where
  | literal (text : List Char)
  | placeholder (name : String)
  deriving DecidableEq, Repr

/-- Why a template cannot be compiled. Offsets count the bytes before the brace at fault. -/
inductive TemplateError where
  | unclosedPlaceholder (offset : Nat)
  | unexpectedClose (offset : Nat)
  | invalidName (name : String)
  | duplicatePlaceholder (name : String)
  | patternTooLarge
  deriving DecidableEq, Repr

/-- The room, in bytes, that a compiled pattern may take. -/
def patternLimit : Nat := 10485760

def TemplateError.message : TemplateError → String
  | unclosedPlaceholder offset => s!"unclosed placeholder starting at byte {offset}"
  | unexpectedClose offset => s!"unexpected '\x7d' at byte {offset}"
  | invalidName name => s!"placeholder name '{name}' is not a valid identifier"
  | duplicatePlaceholder name => s!"placeholder '{name}' appears more than once"
  | patternTooLarge => s!"Compiled regex exceeds size limit of {patternLimit} bytes."

/-- Whether a character can begin a name. -/
def startsName (c : Char) : Bool :=
  c.isAlpha || c == '_'

/-- Whether a character can continue a name. -/
def continuesName (c : Char) : Bool :=
  c.isAlphanum || c == '_'

/-- Whether a text is a name: a letter or an underscore, then letters, digits and underscores, all
of ASCII. -/
def isIdentifier : List Char → Bool
  | [] => false
  | c :: cs => startsName c && cs.all continuesName

/-- The token of a literal, unless it is empty. -/
def literalToken (text : List Char) : List Token :=
  if text.isEmpty then [] else [.literal text]

mutual

/-- Reads on outside of braces. `literal` is the literal so far, its last character first, and
`offset` the number of bytes read. -/
def readLiteral (offset : Nat) (literal : List Char) :
    List Char → Except TemplateError (List Token)
  | [] => .ok (literalToken literal.reverse)
  | c :: cs =>
    if c = '}' then .error (.unexpectedClose offset)
    else if c = '{' then do
      let tokens ← readName offset (offset + 1) [] cs
      .ok (literalToken literal.reverse ++ tokens)
    else readLiteral (offset + c.utf8Size) (c :: literal) cs

/-- Reads on after the brace at `start`. `name` is the name so far, its last character first. -/
def readName (start offset : Nat) (name : List Char) :
    List Char → Except TemplateError (List Token)
  | [] => .error (.unclosedPlaceholder start)
  | c :: cs =>
    if c = '}' then
      if isIdentifier name.reverse then do
        let tokens ← readLiteral (offset + 1) [] cs
        .ok (.placeholder (String.ofList name.reverse) :: tokens)
      else .error (.invalidName (String.ofList name.reverse))
    else readName start (offset + c.utf8Size) (c :: name) cs

end

def tokenize (template : List Char) : Except TemplateError (List Token) :=
  readLiteral 0 [] template

/-- A token as it stands in a template. -/
def Token.text : Token → List Char
  | literal text => text
  | placeholder name => '{' :: name.toList ++ ['}']

def untokenize (tokens : List Token) : List Char :=
  tokens.flatMap Token.text

/-- The names of the placeholders, in order. -/
def placeholders (tokens : List Token) : List String :=
  tokens.filterMap fun
    | .literal _ => none
    | .placeholder name => some name

/-- The first name that occurs a second time. -/
def duplicate? (seen : List String) : List String → Option String
  | [] => none
  | name :: names => if seen.contains name then some name else duplicate? (name :: seen) names

end TypedRoutes
