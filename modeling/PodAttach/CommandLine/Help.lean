import PodAttach.CommandLine.Grammar

/-!
# Help

The texts that explain a program and its commands: what each is for, how it is used, and its parts in columns.
-/

namespace PodAttach.CommandLine

inductive Topic where
  | program
  | command (command : Command)
  | helpCommand
deriving DecidableEq, Repr

def padTo (width : Nat) (s : String) : String := s ++ String.ofList (List.replicate (width - s.length) ' ')

def columns (rows : List (String × String)) : String :=
  let width := rows.foldl (fun width row => max width row.1.length) 0
  String.join (rows.map fun (left, right) => "  " ++ padTo width left ++ "  " ++ right ++ "\n")

def usage (program : String) : Topic → String
  | .program => "Usage: " ++ program ++ " [OPTIONS] <COMMAND>"
  | .command command => "Usage: " ++ program ++ " " ++ command.name ++ " [OPTIONS]"
  | .helpCommand => "Usage: " ++ program ++ " " ++ Grammar.helpName ++ " [COMMAND]..."

/-- The line that shows how something is used with the options that were given, if there are any. -/
def usageWith (program : String) (topic : Topic) (given : List Opt) : String :=
  let options := String.join (given.map fun opt => " " ++ opt.title)
  if given.isEmpty then usage program topic
  else match topic with
    | .program => "Usage: " ++ program ++ options ++ " <COMMAND>"
    | .command command => "Usage: " ++ program ++ " " ++ command.name ++ options
    | .helpCommand => usage program topic

def Opt.row (opt : Opt) : String × String :=
  let letter := match opt.letter with
    | some c => "-" ++ String.singleton c ++ ", "
    | none => "    "
  let choices := match opt.choices with
    | [] => ""
    | names => " [possible values: " ++ ", ".intercalate names ++ "]"
  (letter ++ opt.title, opt.about ++ choices)

def optionSection (command : Command) : String := "Options:\n" ++ columns (command.options.map Opt.row)

def commandSection (grammar : Grammar) : String :=
  "Commands:\n" ++
    columns (grammar.commands.map (fun command => (command.name, command.about)) ++ [(Grammar.helpName, Grammar.helpAbout)])

def help (grammar : Grammar) (program : String) (topic : Topic) : String :=
  match topic with
  | .program =>
    grammar.top.about ++ "\n\n" ++ usage program topic ++ "\n\n" ++ commandSection grammar ++ "\n" ++
      optionSection grammar.top
  | .command command =>
    command.about ++ "\n\n" ++ usage program topic ++ "\n\n" ++ optionSection command
  | .helpCommand =>
    Grammar.helpAbout ++ "\n\n" ++ usage program topic ++ "\n\nArguments:\n" ++
      columns [("[COMMAND]...", "Print help for the subcommand(s)")]

def versionText (grammar : Grammar) : String := grammar.top.name ++ " " ++ grammar.version ++ "\n"

end PodAttach.CommandLine
