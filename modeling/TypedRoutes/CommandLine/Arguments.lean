import TypedRoutes.CommandLine.UsageError
import TypedRoutes.Route.Verb
import TypedRoutes.Text.Similarity
/-!
# Arguments of the command line

The program checks a manifest, or probes one with a URI; `--verbose` before the command shows more
events. Options and operands may be mixed, and after `--` everything is an operand.

Arguments are read from the first to the last. A value that stands alone is not looked at before the
next argument that is no value, so of a bad value and an unexpected argument right after it, the argument
is the error.
-/
namespace TypedRoutes.CommandLine
open Text

inductive Command where
  | check (manifest : String)
  | probe (manifest uri : String) (verb : Option Verb)
  deriving DecidableEq, Repr

/-- What is asked for: the version, help, or a command, and whether more events are shown. -/
inductive Request where
  | version
  | help (scope : Scope)
  | run (verbose : Bool) (command : Command)
  deriving DecidableEq, Repr

/-- What ends the reading of arguments, whatever may follow. -/
inductive Stop where
  | answered (request : Request)
  | misused (error : UsageError)
  deriving DecidableEq, Repr

/-! ## The forms of an argument -/

/-- The forms of an argument: the two dashes that make all others operands, an option by its name and
perhaps its value, options by their letters, or a word that is an operand or a value. -/
inductive Form where
  | dashes
  | name (name : String) (value : Option String)
  | letters (letters : List Char)
  | word
  deriving DecidableEq, Repr

/-- The form of an argument. A dash alone is a word. -/
def Form.of (text : String) : Form :=
  match text.toList with
  | ['-', '-'] => dashes
  | '-' :: '-' :: cs =>
    let value :=
      match cs.dropWhile (· ≠ '=') with
      | [] => none
      | _ :: value => some (String.ofList value)
    name (String.ofList (cs.takeWhile (· ≠ '='))) value
  | '-' :: c :: cs => letters (c :: cs)
  | _ => word

/-! ## What has been given -/

/-- What has been begun: the verb option, perhaps without its value yet, or an operand. -/
inductive Held where
  | nothing
  | verb (value : Option String)
  | operand (text : String)
  deriving DecidableEq, Repr

/-- What has been read: the options in order, the verb, the operands, and what is held until the next
argument. -/
structure Progress where
  flags : List Flag
  verb : Option Verb
  operands : List String
  held : Held
  deriving DecidableEq, Repr

namespace Progress

def blank : Progress :=
  ⟨[], none, [], .nothing⟩

def isBlank (p : Progress) : Bool :=
  p.flags.isEmpty && p.operands.isEmpty

/-- The usage with what has been given, if anything has. -/
def usage (scope : Scope) (p : Progress) : Usage :=
  if p.isBlank then .whole scope else .given scope p.flags

/-- The usage with one option besides what has been given. -/
def usageBesides (scope : Scope) (p : Progress) (f : Flag) : Usage :=
  if p.isBlank then .given scope [f] else .besides scope f

/-- The options, with one more if it is not among them. -/
def withFlag (p : Progress) (f : Flag) : Progress :=
  if f ∈ p.flags then p else { p with flags := p.flags ++ [f] }

/-- Takes the value of the verb option. An option that is given again counts as not given. -/
def takeVerb (scope : Scope) (p : Progress) (text : String) : Progress × Option UsageError :=
  if .verb ∈ p.flags then ({ p with flags := p.flags.erase .verb }, some (.repeated .verb scope))
  else
    match Verb.ofName? text.toList with
    | some v => ({ p.withFlag .verb with verb := some v }, none)
    | none => (p.withFlag .verb, some (.unknownVerb text))

/-- Takes an operand. A manifest has a name. -/
def takeOperand (p : Progress) (text : String) : Progress × Option UsageError :=
  ({ p with operands := p.operands ++ [text] },
    if p.operands.isEmpty ∧ text.isEmpty then some (.noValue (bracketed "MANIFEST")) else none)

/-- Takes what is held, and tells what is wrong with it. -/
def settle (scope : Scope) (p : Progress) : Progress × Option UsageError :=
  let q := { p with held := .nothing }
  match p.held with
  | .nothing => (q, none)
  | .verb none => (q, some (.noValue Flag.verb.text))
  | .verb (some text) => q.takeVerb scope text
  | .operand text => q.takeOperand text

/-- What has been read, unless something is wrong with it. -/
def orStop : Progress × Option UsageError → Except Stop Progress
  | (p, none) => .ok p
  | (_, some e) => .error (.misused e)

/-- Takes what is held, unless something is wrong with it. -/
def settled (scope : Scope) (p : Progress) : Except Stop Progress :=
  orStop (p.settle scope)

def operandCount (p : Progress) : Nat :=
  match p.held with
  | .operand _ => p.operands.length + 1
  | _ => p.operands.length

/-- Begins an operand, if there is one more. -/
def giveOperand (scope : Scope) (p : Progress) (text : String) : Except Stop Progress :=
  if p.operandCount < scope.operands.length then do
    let p ← p.settled scope
    return { p with held := .operand text }
  else .error (.misused (.unexpected text .nothing (.whole scope)))

/-- Takes a value that stands with the verb option. -/
def giveVerb (scope : Scope) (p : Progress) (text : String) : Except Stop Progress := do
  let p ← p.settled scope
  orStop (p.takeVerb scope text)

/-- Takes an option that has no value, or begins the one that has. -/
def giveFlag (scope : Scope) (p : Progress) (f : Flag) : Except Stop Progress := do
  let p ← p.settled scope
  match f with
  | .verb => return { p with held := .verb none }
  | .help => .error (.answered (.help scope))
  | .version => .error (.answered .version)
  | .verbose =>
    if f ∈ p.flags then .error (.misused (.repeated f scope)) else return p.withFlag f

/-! ## Options -/

/-- The option that is most like a name. -/
def similarFlag? (scope : Scope) (name : String) : Option Flag :=
  (similar Flag.name name scope.flags).getLast?

/-- What an operand would be taken for, were it not for its dashes. -/
def operandHint (scope : Scope) : Hint :=
  if scope.operands.isEmpty then .nothing else .operand

/-- The error for an option that there is not: an option that is like it may be meant, or one of a
command that comes later. -/
def unknownFlag (scope : Scope) (p : Progress) (name : String) (later : List String) : UsageError :=
  let p := (p.settle scope).1
  let elsewhere? := fun word => do
    let command ← scope.command? word
    let f ← similarFlag? command name
    return Hint.flagOf command f
  match similarFlag? scope name with
  | some f => .unexpected ("--" ++ name) (.flag f) ((p.withFlag f).usage scope)
  | none =>
    .unexpected ("--" ++ name) ((later.findSome? elsewhere?).getD (operandHint scope)) (p.usage scope)

/-- Takes an option by its name. `later` are the arguments after it. -/
def giveName (scope : Scope) (p : Progress) (name : String) (value : Option String)
    (later : List String) : Except Stop Progress :=
  match scope.flags.find? (·.name == name), value with
  | some .verb, some text => p.giveVerb scope text
  | some f, some text =>
    .error (.misused (.unwantedValue f text (p.usageBesides scope f)))
  | some f, none => p.giveFlag scope f
  | none, _ => .error (.misused (p.unknownFlag scope name later))

/-- Takes options by their letters. What follows the letter of the verb option is its value. -/
def giveLetters (scope : Scope) (p : Progress) : List Char → Except Stop Progress
  | [] => .ok p
  | c :: cs =>
    match scope.flags.find? (·.letter == c), cs with
    | some .verb, '=' :: value => p.giveVerb scope (String.ofList value)
    | some .verb, d :: value => p.giveVerb scope (String.ofList (d :: value))
    | some f, _ => do
      let p ← p.giveFlag scope f
      p.giveLetters scope cs
    | none, _ =>
      .error
        (.misused (.unexpected (String.ofList ['-', c]) (operandHint scope) (.whole scope)))

end Progress

/-! ## Commands -/

/-- Reads the arguments of a command. `dashed` tells whether the two dashes have been read. -/
def readCommand (scope : Scope) : Bool → Progress → List String → Except Stop Progress
  | _, p, [] => p.settled scope
  | true, p, arg :: rest => do
    let p ← p.giveOperand scope arg
    readCommand scope true p rest
  | false, p, arg :: rest =>
    match Form.of arg with
    | .dashes => readCommand scope true p rest
    | .name name value => do
      let p ← p.giveName scope name value rest
      readCommand scope false p rest
    | .letters cs => do
      let p ← p.giveLetters scope cs
      readCommand scope false p rest
    | .word =>
      match p.held with
      | .verb none => readCommand scope false { p with held := .verb (some arg) } rest
      | _ => do
        let p ← p.giveOperand scope arg
        readCommand scope false p rest

/-- The command with what has been given to it, if that is all it needs. -/
def Progress.command (scope : Scope) (p : Progress) : Except Stop Command :=
  match scope, p.operands with
  | .check, [manifest] => .ok (.check manifest)
  | .probe, [manifest, uri] => .ok (.probe manifest uri p.verb)
  | _, operands =>
    .error
      (.misused
        (.missing ((scope.operands.drop operands.length).map bracketed) (.given scope p.flags)))

/-- Reads the names of the command to show the help for. -/
def readHelp : Scope → List String → Except Stop Request
  | scope, [] => .ok (.help scope)
  | scope, name :: rest =>
    match scope.command? name with
    | some command => readHelp command rest
    | none => .error (.misused (.unknownCommand scope name []))

/-- The error for a word that is no command. -/
def unknownCommand (word : String) : Stop :=
  .misused (.unknownCommand .program word (similar Scope.name word Scope.program.commands))

/-- Reads arguments from the options before the command on. -/
def readProgram : Bool → Progress → List String → Except Stop Request
  | _, p, [] => .error (.misused (if p.flags.isEmpty then .noArguments else .noCommand))
  | dashed, p, arg :: rest =>
    match Scope.program.command? arg, dashed with
    | some command, true => .error (.misused (.commandAfterDashes command))
    | some .help, false => readHelp .program rest
    | some command, false => do
      let given ← readCommand command false .blank rest
      return .run (p.flags.contains .verbose) (← given.command command)
    | none, true => .error (unknownCommand arg)
    | none, false =>
      match Form.of arg with
      | .dashes => readProgram true p rest
      | .name name value => do
        let p ← p.giveName .program name value rest
        readProgram false p rest
      | .letters cs => do
        let p ← p.giveLetters .program cs
        readProgram false p rest
      | .word => .error (unknownCommand arg)

/-- Reads all arguments. -/
def Request.ofArguments (args : List String) : Except UsageError Request :=
  match readProgram false .blank args with
  | .ok request => .ok request
  | .error (.answered request) => .ok request
  | .error (.misused e) => .error e

end TypedRoutes.CommandLine
