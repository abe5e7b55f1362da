import TypedRoutes.Json.Number
import TypedRoutes.Json.Text
/-!
# Values that are passed over

A value that nothing asks for is read to its end, at any depth. The lists and objects that are open
around the place at hand are kept on a stack.
-/
namespace TypedRoutes.Json

/-- A value with values in it. -/
inductive Enclosure where
  | list | object
  deriving DecidableEq, Repr

namespace Enclosure

def close : Enclosure → Char
  | list => ']'
  | object => '}'

/-- The cause when the document ends within an enclosure. -/
def ended : Enclosure → Cause
  | list => .endInList
  | object => .endInObject

/-- The cause when a value is followed by neither a comma nor the end of its enclosure. -/
def unseparated : Enclosure → Cause
  | list => .noListSeparator
  | object => .noObjectSeparator

end Enclosure

namespace Reader

/-- Passes over a value with no values in it, or over the opening bracket of an enclosure, which is
the result. -/
def skipStart : Reader (Option Enclosure) := do
  match ← peekToken with
  | none => failNext .endInValue
  | some 'n' => do eat; word "ull".toList; return none
  | some 't' => do eat; word "rue".toList; return none
  | some 'f' => do eat; word "alse".toList; return none
  | some '-' => do eat; skipNumber; return none
  | some '"' => do eat; skipString; return none
  | some '[' => do eat; return some .list
  | some '{' => do eat; return some .object
  | some c =>
    if c.isDigit then do
      skipNumber
      return none
    else failNext .noValue

/-- Takes the ends of enclosures and then the comma before the next value, if a value has come before
(`separated`). The result is the enclosures that are still open around the next value; with none, the
value is complete. -/
def skipEnds (separated : Bool) : List Enclosure → Reader (List Enclosure)
  | [] => return []
  | enclosure :: outer => do
    match ← peekToken with
    | none => failNext enclosure.ended
    | some c =>
      if c = ',' ∧ separated then do
        eat
        return enclosure :: outer
      else if c = enclosure.close then do
        eat
        skipEnds true outer
      else if separated then failNext enclosure.unseparated
      else return enclosure :: outer

/-- Passes over the key of the next value and the colon after it. -/
def skipKey : Reader Unit := do
  match ← peekToken with
  | some '"' => eat
  | some _ => failNext .keyNotString
  | none => failNext .endInObject
  skipString
  match ← peekToken with
  | some ':' => eat
  | some _ => failNext .noColon
  | none => failNext .endInObject

/-- Passes over a value within enclosures. Each turn takes a byte, so `fuel` need be no more than
their number. -/
def skipWithin : Nat → List Enclosure → Reader Unit
  | 0, _ => fail .endInValue
  | fuel + 1, enclosures => do
    let opened ← skipStart
    let enclosures ←
      match opened with
      | some enclosure => skipEnds false (enclosure :: enclosures)
      | none => skipEnds true enclosures
    match enclosures with
    | [] => return
    | .list :: _ => skipWithin fuel enclosures
    | .object :: _ => do
      skipKey
      skipWithin fuel enclosures

def skip : Reader Unit := do
  skipWithin ((← get).size + 1) []

end Reader

end TypedRoutes.Json
