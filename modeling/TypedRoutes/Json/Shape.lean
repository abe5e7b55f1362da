import TypedRoutes.Json.Skip
/-!
# Values of known shape

Readers for values of which the shape is known: strings, booleans, lists, records and the like. A record is
written as an object with its fields in any order, or as a list with its fields in theirs. Fields that
are not required may be left out, and unknown fields of an object are passed over.

Records and lists may be nested to a depth; a reader of either takes the reader of what is inside, or
nothing at the greatest depth.
-/
namespace TypedRoutes.Json

/-- The greatest number of enclosures around a value. -/
def depthLimit : Nat := 127

namespace Reader
variable {α ρ : Type}

/-! ## Simple values -/

/-- Reads a value of a kind that is not the expected one, as far as it is needed to describe it. -/
def otherKind (expected : String) : Reader α := do
  let found : Found ←
    match ← peek with
    | some 'n' => do eat; word "ull".toList; pure .null
    | some 't' => do eat; word "rue".toList; pure (.boolean true)
    | some 'f' => do eat; word "alse".toList; pure (.boolean false)
    | some '-' => do eat; number true
    | some '"' => do eat; pure (.string (← string))
    | some '[' => pure .sequence
    | some '{' => pure .map
    | some c => if c.isDigit then number false else failNext .noValue
    | none => failNext .noValue
  fail (.wrongKind found expected)

/-- Reads a string that is described by a word, and refuses some by a rule. -/
def stringBy (expected : String) (rule : String → Except Cause α) : Reader α :=
  placed do
    match ← peekToken with
    | none => failNext .endInValue
    | some '"' => do
      eat
      match rule (← string) with
      | .ok a => return a
      | .error cause => reject cause
    | some _ => otherKind expected

def text : Reader String :=
  stringBy "a string" .ok

/-- Reads a string that stands for a value, if it does; otherwise the reason is given. The fault has
no position of its own. -/
def textAs (rule : String → Except String α) : Reader α := do
  match rule (← text) with
  | .ok a => return a
  | .error reason => reject (.refused reason)

def boolean : Reader Bool :=
  placed do
    match ← peekToken with
    | none => failNext .endInValue
    | some 't' => do eat; word "rue".toList; return true
    | some 'f' => do eat; word "alse".toList; return false
    | some _ => otherKind "a boolean"

def null : Reader Unit :=
  placed do
    match ← peekToken with
    | none => failNext .endInValue
    | some 'n' => do eat; word "ull".toList
    | some _ => otherKind "unit"

def optional (value : Reader α) : Reader (Option α) := do
  match ← peekToken with
  | some 'n' => do
    eat
    word "ull".toList
    return none
  | _ => return some (← value)

/-! ## Enclosures -/

/-- Takes the opening bracket of an enclosure, unless it is too deep. -/
def enter (inside : Option α) : Reader α := do
  match inside with
  | none => failNext .tooDeep
  | some a => do
    eat
    return a

/-- Takes the comma before the next element of a list, unless it is the first; tells whether there is
one. -/
def nextElement (first : Bool) : Reader Bool := do
  match ← peekToken with
  | none => failNext .endInList
  | some ']' => return false
  | some ',' =>
    -- A comma before the first element is left to the reader of elements, which refuses it.
    if first then return true
    else do
      eat
      match ← peekToken with
      | some ']' => failNext .trailingComma
      | some _ => return true
      | none => failNext .endInValue
  | some _ => if first then return true else failNext .noListSeparator

def endList : Reader Unit := do
  match ← peekToken with
  | some ']' => eat
  | some ',' => do
    eat
    match ← peekToken with
    | some ']' => failNext .trailingComma
    | _ => failNext .trailingCharacters
  | some _ => failNext .trailingCharacters
  | none => failNext .endInList

/-- Takes what stands before the key of the next field of an object, unless it is the first; tells
whether there is one. -/
def nextKey (first : Bool) : Reader Bool := do
  match ← peekToken with
  | none => failNext .endInObject
  | some '}' => return false
  | some c =>
    if first then if c = '"' then return true else failNext .keyNotString
    else if c = ',' then do
      eat
      match ← peekToken with
      | some '"' => return true
      | some '}' => failNext .trailingComma
      | some _ => failNext .keyNotString
      | none => failNext .endInValue
    else failNext .noObjectSeparator

def colon : Reader Unit := do
  match ← peekToken with
  | some ':' => eat
  | some _ => failNext .noColon
  | none => failNext .endInObject

def endObject : Reader Unit := do
  match ← peekToken with
  | some '}' => eat
  | some ',' => failNext .trailingComma
  | some _ => failNext .trailingCharacters
  | none => failNext .endInObject

/-- Reads elements to the end of a list. Each but the first takes a comma, so `fuel` need be no more
than the number of bytes. -/
def elements (element : Reader α) : Nat → Bool → Reader (List α)
  | 0, _ => fail .endInList
  | fuel + 1, first => do
    if ← nextElement first then
      let a ← element
      let as ← elements element fuel false
      return a :: as
    else return []

def list (element : Option (Reader α)) : Reader (List α) :=
  placed do
    match ← peekToken with
    | none => failNext .endInValue
    | some '[' => do
      let element ← enter element
      closedBy (do elements element ((← get).size + 1) true) endList
    | some _ => otherKind "a sequence"

/-- Reads the name of one of several variants that have no value, alone or as the key of `null`. -/
def variant (inside : Option Unit) (variants : List (String × α)) : Reader α := do
  let named : Reader α := stringBy "variant identifier" fun s =>
    match variants.lookup s with
    | some a => .ok a
    | none => .error (.unknownVariant s (variants.map (·.1)))
  match ← peekToken with
  | none => failNext .endInValue
  | some '"' => named
  | some '{' => do
    enter inside
    match ← peekToken with
    | none => failNext .endInObject
    | some '"' => pure ()
    | some '}' => failNext .noValue
    | some _ => failNext .keyNotString
    let a ← named
    colon
    null
    match ← peekToken with
    | some '}' => do
      eat
      return a
    | some _ => fail .noValue
    | none => fail .endInObject
  | some _ => failNext .noValue

end Reader

/-! ## Records -/

/-- A field of a record that is being read into a draft: its name, whether it may be left out, and how
its value goes into the draft. -/
structure Field (ρ : Type) where
  name : String
  required : Bool
  read : ρ → Reader ρ

/-- A field whose value is put into the draft by a function. -/
def Field.of {ρ α : Type} (name : String) (required : Bool) (value : Reader α) (set : ρ → α → ρ) :
    Field ρ :=
  ⟨name, required, fun draft => do return set draft (← value)⟩

namespace Reader
variable {ρ : Type}

/-- Reads the fields of an object into a draft. `filled` are the names of those that have been read.
Each turn takes a byte, so `fuel` need be no more than their number. -/
def objectFields (fields : List (Field ρ)) : Nat → Bool → List String → ρ → Reader ρ
  | 0, _, _, _ => fail .endInObject
  | fuel + 1, first, filled, draft => do
    if ← nextKey first then
      eat
      let key ← string
      match fields.find? (·.name == key) with
      | some field =>
        if filled.contains key then reject (.duplicateField key)
        else do
          colon
          let draft ← field.read draft
          objectFields fields fuel false (key :: filled) draft
      | none => do
        colon
        skip
        objectFields fields fuel false filled draft
    else
      match fields.find? fun f => f.required && ! filled.contains f.name with
      | some field => reject (.missingField field.name)
      | none => return draft

/-- The description of a record. -/
def recordName (name : String) (count : Nat) : String :=
  if count = 1 then s!"struct {name} with 1 element" else s!"struct {name} with {count} elements"

/-- Reads the fields of a list into a draft, after `done` of them. -/
def listFields (name : String) (count done : Nat) (first : Bool) :
    List (Field ρ) → ρ → Reader ρ
  | [], draft => return draft
  | field :: fields, draft => do
    if ← nextElement first then
      let draft ← field.read draft
      listFields name count (done + 1) false fields draft
    else if field.required then reject (.wrongLength done (recordName name count))
    else listFields name count (done + 1) first fields draft

/-- Reads a record. Without fields it is too deep to be read. -/
def record (name : String) (fields : Option (List (Field ρ))) (blank : ρ) : Reader ρ :=
  placed do
    match ← peekToken with
    | none => failNext .endInValue
    | some '[' => do
      let fields ← enter fields
      closedBy (listFields name fields.length 0 true fields blank) endList
    | some '{' => do
      let fields ← enter fields
      closedBy (do objectFields fields ((← get).size + 1) true [] blank) endObject
    | some _ => otherKind s!"struct {name}"

/-- Reads a document that holds one value. -/
def document (value : Reader ρ) (s : String) : Except Fault ρ :=
  let whole : Reader ρ := do
    let a ← value
    match ← peekToken with
    | none => return a
    | some _ => failNext .trailingCharacters
  match whole.run (Input.ofText s) with
  | .ok a _ => .ok a
  | .error f _ => .error f

end Reader

end TypedRoutes.Json
