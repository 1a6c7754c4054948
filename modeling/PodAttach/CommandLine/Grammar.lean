/-!
# Commands and options

What a command line may hold: a program with commands, and options that take a value or none. An option goes by a long
name, and some also by one letter.
-/

namespace PodAttach.CommandLine

/-- Which texts an option takes for its value. -/
inductive Check where
  | any
  | filled
  | oneOf (names : List String)
deriving DecidableEq, Repr

/-- What becomes of an option that is given. -/
inductive Use where
  | switch
  | value (check : Check)
  | help
  | version
deriving DecidableEq, Repr

structure Opt where
  name : String
  letter : Option Char
  use : Use
  about : String
deriving DecidableEq, Repr

structure Command where
  name : String
  about : String
  options : List Opt
deriving DecidableEq, Repr

structure Grammar where
  version : String
  top : Command
  commands : List Command
deriving DecidableEq, Repr

namespace Opt

def takesValue (opt : Opt) : Bool :=
  match opt.use with
  | .value _ => true
  | _ => false

/-- The name of an option's value: its own in capitals. -/
def valueName (opt : Opt) : String :=
  String.ofList (opt.name.toList.map fun c => if c == '-' then '_' else c.toUpper)

/-- The option as messages write it. -/
def title (opt : Opt) : String :=
  "--" ++ opt.name ++ if opt.takesValue then " <" ++ opt.valueName ++ ">" else ""

def choices (opt : Opt) : List String :=
  match opt.use with
  | .value (.oneOf names) => names
  | _ => []

end Opt

namespace Command

def named? (command : Command) (name : String) : Option Opt := command.options.find? (·.name == name)

def lettered? (command : Command) (letter : Char) : Option Opt := command.options.find? (·.letter == some letter)

end Command

/-- The name under which every program with commands explains itself. -/
def Grammar.helpName : String := "help"

/-- The names of all commands, that of the help command last, where there are commands. -/
def commandNames (commands : List Command) : List String :=
  if commands.isEmpty then [] else commands.map (·.name) ++ [Grammar.helpName]

namespace Grammar

def command? (grammar : Grammar) (name : String) : Option Command := grammar.commands.find? (·.name == name)

def helpAbout : String := "Print this message or the help of the given subcommand(s)"

end Grammar

end PodAttach.CommandLine
