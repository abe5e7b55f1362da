import TypedRoutes.CommandLine.Help
import TypedRoutes.Text.Controls
/-!
# Errors of usage

Why arguments cannot be understood. The message names the fault, has a tip where it is plain what may be
meant, shows how the program or the command is called, and points to the help. Its words are written for a
terminal, with arguments and the option for the help in emphasis, and then freed of all controls: a sequence
that an argument leaves open ends where the emphasis does.
-/
namespace TypedRoutes.CommandLine
open Text

/-- What may be meant by an argument that is not expected. -/
inductive Hint where
  | nothing
  | operand
  | flag (f : Flag)
  | flagOf (command : Scope) (f : Flag)
  deriving DecidableEq, Repr

/-- Why arguments cannot be understood. -/
inductive UsageError where
  | noArguments
  | noCommand
  | unknownCommand (scope : Scope) (text : String) (similar : List Scope)
  | commandAfterDashes (command : Scope)
  | unexpected (text : String) (hint : Hint) (usage : Usage)
  | unwantedValue (f : Flag) (text : String) (usage : Usage)
  | unknownVerb (text : String)
  | noValue (name : String)
  | repeated (f : Flag) (scope : Scope)
  | missing (names : List String) (usage : Usage)
  deriving DecidableEq, Repr

namespace UsageError

def headline : UsageError → String
  | noArguments => "no arguments"
  | noCommand =>
    let names := ", ".intercalate (Scope.program.commands.map Scope.name)
    s!"'{programName}' requires a subcommand but one was not provided\n  [subcommands: {names}]"
  | unknownCommand _ text _ => s!"unrecognized subcommand '{emphasized text}'"
  | commandAfterDashes command => s!"unexpected argument '{command.name}' found"
  | unexpected text _ _ => s!"unexpected argument '{emphasized text}' found"
  | unwantedValue f text _ =>
    s!"unexpected value '{emphasized text}' for '{f.text}' found; no more were expected"
  | unknownVerb text =>
    s!"invalid value '{emphasized text}' for '{emphasized Flag.verb.text}': unknown verb '{text}'"
  | noValue name => s!"a value is required for '{name}' but none was supplied"
  | repeated f _ => s!"the argument '{f.text}' cannot be used multiple times"
  | missing names _ =>
    "\n  ".intercalate ("the following required arguments were not provided:" :: names)

def tip? : UsageError → Option String
  | unknownCommand _ _ [] => none
  | unknownCommand _ _ [command] => some s!"a similar subcommand exists: '{command.name}'"
  | unknownCommand _ _ commands =>
    let names := ", ".intercalate (commands.map fun c => s!"'{c.name}'")
    some s!"some similar subcommands exist: {names}"
  | commandAfterDashes command =>
    some s!"subcommand '{command.name}' exists; to use it, remove the '--' before it"
  | unexpected text .operand _ =>
    let literal := emphasized (String.append "-- " text)
    some s!"to pass '{emphasized text}' as a value, use '{literal}'"
  | unexpected _ (.flag f) _ => some s!"a similar argument exists: '--{f.name}'"
  | unexpected _ (.flagOf command f) _ => some s!"'{command.name} --{f.name}' exists"
  | _ => none

def usage? : UsageError → Option Usage
  | noArguments | noCommand | commandAfterDashes _ => some (.whole .program)
  | unknownCommand scope _ _ | repeated _ scope => some (.whole scope)
  | unexpected _ _ usage | unwantedValue _ _ usage | missing _ usage => some usage
  | unknownVerb _ | noValue _ => none

/-- Whether the message points to the help: not where there is no option for it. -/
def pointsToHelp (e : UsageError) : Bool :=
  e.usage?.all (·.scope.flags.contains .help)

/-- The message on a terminal. -/
def styled (e : UsageError) : String :=
  let pointer := s!"For more information, try '{emphasized Flag.help.text}'."
  "\n\n".intercalate
      (["error: " ++ e.headline] ++ (e.tip?.map ("  tip: " ++ ·)).toList ++
        (e.usage?.map ("Usage: " ++ ·.text)).toList ++ (if e.pointsToHelp then [pointer] else [])) ++
    "\n"

/-- The message for an error. Without any arguments it is the help. -/
def message (e : UsageError) : String :=
  if e = .noArguments then Scope.program.helpText else withoutControls e.styled

end UsageError

end TypedRoutes.CommandLine
