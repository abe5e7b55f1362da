import TypedRoutes.Calendar.DateTime
import TypedRoutes.Text.Trim
/-!
# Layouts of date-times

A layout is a list of the parts that a text has in order. Reading by a layout is lenient: blanks may
stand before a number, a number may have fewer digits than the part has places, and a year with a
sign may have more. The stamp is a stricter form, with every place filled and an offset at the end.
`DateTime.read` tries the stamp first, then the layouts, then a date alone.
-/
namespace TypedRoutes.Calendar
open TypedRoutes.Number TypedRoutes.Text

inductive Field where
  | year | month | day | hour | minute | second
  deriving DecidableEq, Repr

inductive Part where
  | number (field : Field)
  | mark (c : Char)
  | blanks
  | fraction
  deriving DecidableEq, Repr

/-- What has been read of a date-time. -/
structure Parts where
  year : Int := 0
  month : Nat := 0
  day : Nat := 0
  hour : Nat := 0
  minute : Nat := 0
  second : Nat := 0
  nanosecond : Nat := 0

namespace Parts

def set (t : Parts) (field : Field) (n : Int) : Parts :=
  match field with
  | .year => { t with year := n }
  | .month => { t with month := n.toNat }
  | .day => { t with day := n.toNat }
  | .hour => { t with hour := n.toNat }
  | .minute => { t with minute := n.toNat }
  | .second => { t with second := n.toNat }

def dateTime? (t : Parts) : Option DateTime := do
  return ⟨← Date.of? t.year t.month t.day, ← TimeOfDay.of? t.hour t.minute t.second t.nanosecond⟩

end Parts

/-- Reads a number of one digit at least and `places` digits at most. -/
def readPlaces (places : Nat) (cs : List Char) : Option (Nat × List Char) :=
  let ds := (cs.take places).takeWhile Char.isDigit
  if ds.isEmpty then none else some (ofDigits ds, cs.drop ds.length)

/-- Reads a number of exactly `places` digits. -/
def readExactly (places : Nat) (cs : List Char) : Option (Nat × List Char) :=
  let ds := (cs.take places).takeWhile Char.isDigit
  if ds.length = places then some (ofDigits ds, cs.drop places) else none

/-- Reads digits of any number, one at least. -/
def readRun (cs : List Char) : Option (Nat × List Char) :=
  let (ds, rest) := digitRun cs
  if ds.isEmpty then none else some (ofDigits ds, rest)

/-- Reads the number of a field. -/
def Field.read (field : Field) (cs : List Char) : Option (Int × List Char) :=
  let natural := fun (x : Nat × List Char) => ((x.1 : Int), x.2)
  match field, cs.dropWhile isBlank with
  | .year, '-' :: cs => (readRun cs).map fun (n, rest) => (-(n : Int), rest)
  | .year, '+' :: cs => (readRun cs).map natural
  | .year, cs => (readPlaces 4 cs).map natural
  | _, cs => (readPlaces 2 cs).map natural

/-- Reads a point and the digits of a fraction of a second, if there is one; digits after the ninth
are dropped. -/
def readFraction : List Char → Option (Nat × List Char)
  | '.' :: cs =>
    let (ds, rest) := digitRun cs
    if ds.isEmpty then none
    else
      let kept := ds.take 9
      some (ofDigits kept * Nat.pow 10 (9 - kept.length), rest)
  | cs => some (0, cs)

/-- Reads a text part by part, to its end. -/
def readParts (t : Parts) : List Part → List Char → Option Parts
  | [], [] => some t
  | [], _ :: _ => none
  | .number field :: layout, cs =>
    match field.read cs with
    | some (n, rest) => readParts (t.set field n) layout rest
    | none => none
  | .mark m :: layout, c :: cs => if m = c then readParts t layout cs else none
  | .mark _ :: _, [] => none
  | .blanks :: layout, cs => readParts t layout (cs.dropWhile isBlank)
  | .fraction :: layout, cs =>
    match readFraction cs with
    | some (n, rest) => readParts { t with nanosecond := n } layout rest
    | none => none

def dateLayout : List Part :=
  [.number .year, .mark '-', .number .month, .mark '-', .number .day]

def minuteLayout : List Part :=
  [.number .hour, .mark ':', .number .minute]

def timeLayout : List Part :=
  minuteLayout ++ [.mark ':', .number .second, .fraction]

/-- The layouts of a date-time with no offset. -/
def layouts : List (List Part) :=
  [dateLayout ++ .mark 'T' :: timeLayout,
   dateLayout ++ .blanks :: timeLayout,
   dateLayout ++ .mark 'T' :: minuteLayout]

def readMark (m : Char) : List Char → Option (List Char)
  | c :: cs => if m = c then some cs else none
  | [] => none

/-- Reads an offset in minutes, to the end of the text: a sign, hours and minutes, or a `Z`. -/
def readOffset : List Char → Option Int
  | ['Z'] | ['z'] => some 0
  | sign :: cs => do
    let (hours, cs) ← readExactly 2 cs
    let cs ← readMark ':' cs
    let (minutes, cs) ← readExactly 2 cs
    if cs ≠ [] ∨ 60 ≤ minutes ∨ 24 ≤ hours then none
    else if sign = '+' then some (60 * hours + minutes : Nat)
    else if sign = '-' ∨ sign = '\u2212' then some (-(60 * hours + minutes : Nat))
    else none
  | [] => none

/-- Reads a stamp: a date and a time in full and the offset they are ahead of the result. -/
def readStamp (cs : List Char) : Option DateTime := do
  let (year, cs) ← readExactly 4 cs
  let cs ← readMark '-' cs
  let (month, cs) ← readExactly 2 cs
  let cs ← readMark '-' cs
  let (day, cs) ← readExactly 2 cs
  let cs ← readMark 'T' cs <|> readMark 't' cs <|> readMark ' ' cs
  let (hour, cs) ← readExactly 2 cs
  let cs ← readMark ':' cs
  let (minute, cs) ← readExactly 2 cs
  let cs ← readMark ':' cs
  let (second, cs) ← readExactly 2 cs
  let (nanosecond, cs) ← readFraction cs
  let offset ← readOffset cs
  let date ← Date.of? year month day
  let time ← TimeOfDay.of? hour minute second nanosecond
  DateTime.minusMinutes? ⟨date, time⟩ offset

def readLayout (layout : List Part) (cs : List Char) : Option DateTime :=
  (readParts {} layout cs).bind Parts.dateTime?

/-- Reads a date-time in any of its forms; a date alone is its midnight. -/
def DateTime.read (cs : List Char) : Option DateTime :=
  readStamp cs <|> layouts.findSome? (readLayout · cs) <|> readLayout dateLayout cs

end TypedRoutes.Calendar
