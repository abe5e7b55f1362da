/-!
# Texts without controls

What is left of a text for a terminal where only its words are wanted: blanks stay, all other controls
go, and with an escape goes the sequence that it starts.

A blank control within a sequence is kept as well, and the text after it up to the next control that is
no blank; there the sequence goes on, unless the text has a character outside of ASCII. Strings for a
device end at the byte 9C, also where it is a part of a longer character; the rest of that character goes
with the string.
-/
namespace TypedRoutes.Text

/-- How far a sequence has been read. -/
inductive Sequence where
  /-- Outside of any sequence. -/
  | outside
  /-- After the escape. -/
  | escape
  /-- After a character that has one more follow. -/
  | designation
  /-- Among the parameters of a control function. -/
  | parameters
  /-- In a command for the system, up to the bell. -/
  | command
  /-- At the start of the header of a string for a device. -/
  | header
  /-- Among the parameters of the header. -/
  | headerParameters
  /-- At the end of the header. -/
  | headerEnd
  /-- In a string for a device. -/
  | string
  deriving DecidableEq, Repr

/-- Whether a control character is a blank. -/
def isBlankControl (c : Char) : Bool :=
  c = '\t' || c = '\n' || c = '\x0C' || c = '\r'

/-- Whether a character is a control of ASCII. -/
def isControl (c : Char) : Bool :=
  c.toNat < 0x20 || c.toNat = 0x7F

/-- Whether a character is kept outside of sequences. -/
def isShown (c : Char) : Bool :=
  !isControl c || isBlankControl c

namespace Sequence

/-- Whether a character is in a range. -/
def within (first last : Nat) (c : Char) : Bool :=
  first ≤ c.toNat && c.toNat ≤ last

/-- Whether the bytes of a character end a string for a device. -/
def endsString (c : Char) : Bool :=
  (String.utf8EncodeChar c).contains 0x9C

/-- How far the sequence is after one more character that is neither an escape nor breaks it off. -/
def advance : Sequence → Char → Sequence
  | outside, _ => outside
  | escape, c =>
    if c = '[' then parameters
    else if c = ']' then command
    else if c = 'P' then header
    else if c = 'X' ∨ c = '^' ∨ c = '_' then string
    else if within 0x20 0x2F c then designation
    else if within 0x30 0x7E c then outside
    else escape
  | designation, c => if within 0x30 0x7E c then outside else designation
  | parameters, c => if within 0x40 0x7E c then outside else parameters
  | command, c => if c = '\x07' then outside else command
  | header, c =>
    if within 0x20 0x2F c then headerEnd
    else if within 0x30 0x3F c then headerParameters
    else if within 0x40 0x7E c then string
    else header
  | headerParameters, c =>
    if within 0x20 0x2F c then headerEnd
    else if within 0x3C 0x7E c then string
    else headerParameters
  | headerEnd, c => if within 0x30 0x7E c then string else headerEnd
  | string, c => if endsString c then outside else string

/-- How far the sequence is after one more character. -/
def next (s : Sequence) (c : Char) : Sequence :=
  if c = '\x1B' then escape
  else if c = '\x18' ∨ c = '\x1A' then outside
  else s.advance c

/-- Whether a character is kept at a place in a sequence. -/
def keeps : Sequence → Char → Bool
  | outside, c => isShown c
  | escape, c | designation, c | parameters, c => isBlankControl c
  | _, _ => false

/-- What is kept of the rest of a text. `kept` tells whether the character before was kept. -/
def strip (kept : Bool) : Sequence → List Char → List Char
  | _, [] => []
  | s, c :: cs =>
    if (kept && isShown c) || s.keeps c then
      c :: strip true (if c.toNat < 0x80 then s else .outside) cs
    else strip false (s.next c) cs

end Sequence

/-- A text without its controls. -/
def withoutControls (s : String) : String :=
  String.ofList (Sequence.outside.strip false s.toList)

/-- A text in emphasis, on a terminal. -/
def emphasized (s : String) : String :=
  "\x1B[1m" ++ s ++ "\x1B[0m"

end TypedRoutes.Text
