import TypedRoutes.CommandLine.Scope
/-!
# Help

The help for the program or a command: what it is for, how it is called, and what each of its commands,
operands and options means.
-/
namespace TypedRoutes.CommandLine

def Flag.purpose : Flag → String
  | verbose => "Enable verbose output"
  | verb => "Only consider routes serving this verb"
  | help => "Print help"
  | version => "Print version"

/-- An option with its letter and what it takes. -/
def Flag.entry (f : Flag) : String × String :=
  (String.ofList ['-', f.letter] ++ ", " ++ f.text, f.purpose)

namespace Scope

/-- What the program or a command is for. -/
def purpose : Scope → String
  | program => "Route compilation and typed request binding for embedded REST servers"
  | check => "Compile every route in a manifest and list them"
  | probe => "Find the first route matching a URI and bind its parameters"
  | help => "Print this message or the help of the given subcommand(s)"

/-- The operands and what they stand for. -/
def operandEntries : Scope → List (String × String)
  | program => []
  | check => [(bracketed "MANIFEST", "Path to the JSON route manifest")]
  | probe =>
    [(bracketed "MANIFEST", "Path to the JSON route manifest"),
     (bracketed "URI", "Request URI to test")]
  | help => [("[COMMAND]...", "Print help for the subcommand(s)")]

/-- The entries of a section under its heading, with their meanings aligned. -/
def helpSection (heading : String) (entries : List (String × String)) : List String :=
  if entries.isEmpty then []
  else
    let width := entries.foldr (fun e w => max e.1.length w) 0
    let line := fun (e : String × String) => "  " ++ e.1.pushn ' ' (width - e.1.length) ++ "  " ++ e.2
    ["\n".intercalate (heading :: entries.map line)]

def helpText (scope : Scope) : String :=
  "\n\n".intercalate
      ([scope.purpose, "Usage: " ++ (Usage.whole scope).text] ++
        helpSection "Commands:" (scope.commands.map fun c => (c.name, c.purpose)) ++
        helpSection "Arguments:" scope.operandEntries ++
        helpSection "Options:" (scope.flags.map Flag.entry)) ++
    "\n"

end Scope

end TypedRoutes.CommandLine
