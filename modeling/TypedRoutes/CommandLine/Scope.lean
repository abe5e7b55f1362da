/-!
# Commands and options

The program has commands, and it and its commands have options and operands of their own. An option is
written out after two dashes or as a letter after one. How the program or a command is called is shown
by its usage.
-/
namespace TypedRoutes.CommandLine

def programName : String := "oxide-route"

inductive Flag where
  | verbose | verb | help | version
  deriving DecidableEq, Repr

namespace Flag

def name : Flag → String
  | verbose => "verbose"
  | verb => "verb"
  | help => "help"
  | version => "version"

def letter : Flag → Char
  | verbose => 'v'
  | verb => 'X'
  | help => 'h'
  | version => 'V'

/-- An option as it is written, with what it takes. -/
def text : Flag → String
  | verb => "--verb <VERB>"
  | f => s!"--{f.name}"

end Flag

/-- A name in brackets: what stands there is to be put in. -/
def bracketed (name : String) : String :=
  s!"<{name}>"

/-- What arguments are given to: the program itself, before any command, or one of its commands. -/
inductive Scope where
  | program | check | probe | help
  deriving DecidableEq, Repr

namespace Scope

def name : Scope → String
  | program => programName
  | check => "check"
  | probe => "probe"
  | help => "help"

def commands : Scope → List Scope
  | program => [check, probe, help]
  | _ => []

def command? (scope : Scope) (name : String) : Option Scope :=
  scope.commands.find? (·.name == name)

def flags : Scope → List Flag
  | program => [.verbose, .help, .version]
  | check => [.help]
  | probe => [.verb, .help]
  | help => []

def operands : Scope → List String
  | check => ["MANIFEST"]
  | probe => ["MANIFEST", "URI"]
  | program | help => []

/-- What a call starts with. -/
def title : Scope → String
  | program => programName
  | s => s!"{programName} {s.name}"

/-- A command where one is needed. -/
def command : Scope → List String
  | program => ["<COMMAND>"]
  | help => ["[COMMAND]..."]
  | check | probe => []

/-- The options other than those for the help and the version. -/
def settings (scope : Scope) : List Flag :=
  scope.flags.filter fun f => f ≠ .help ∧ f ≠ .version

/-- All that can be given, as alternatives. -/
def alternatives (scope : Scope) : String :=
  bracketed ("|".intercalate (scope.operands ++ scope.settings.map Flag.text))

end Scope

/-- A way of calling the program or a command: with anything it takes, with the options that have been
given, or with one option besides what has been given, which stands as one of the alternatives. -/
inductive Usage where
  | whole (scope : Scope)
  | given (scope : Scope) (flags : List Flag)
  | besides (scope : Scope) (f : Flag)
  deriving DecidableEq, Repr

namespace Usage

def scope : Usage → Scope
  | whole s | given s _ | besides s _ => s

/-- The options and operands as they stand in a usage. -/
def parts : Usage → List String
  | whole s => (if s.settings.isEmpty then [] else ["[OPTIONS]"]) ++ s.operands.map bracketed
  | given s flags => flags.map Flag.text ++ s.operands.map bracketed
  | besides s f => (if f ∈ s.settings then [] else [f.text]) ++ [s.alternatives]

def text (u : Usage) : String :=
  " ".intercalate (u.scope.title :: u.parts ++ u.scope.command)

end Usage

end TypedRoutes.CommandLine
