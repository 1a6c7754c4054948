import PodAttach.CommandLine.Help
import PodAttach.Text.Similarity

/-!
# Refusals

Why a command line leads to no run, as a cause and as the text that is shown for it. Help and version end a run too,
though nothing is wrong.
-/

namespace PodAttach.CommandLine

/-- What an option that nobody knows may stand for. -/
inductive Hint where
  | similar (opt : Opt)
  /-- An option of a command whose name comes later. -/
  | below (command option : String)
deriving DecidableEq, Repr

inductive Cause where
  | help (topic : Topic)
  | nothingGiven
  | version
  | unknownArgument (argument : String)
  /-- A long name that no option has, behind some options that were given. -/
  | unknownOption (name : String) (hint : Option Hint) (given : List Opt)
  /-- A command behind two dashes, where no command is looked for. -/
  | commandBehindDashes (name : String)
  /-- A name that is no command's, and the commands' names that look like it. -/
  | unknownCommand (name : String) (similar : List String)
  | missingCommand
  | repeated (opt : Opt)
  | missingValue (opt : Opt)
  | invalidValue (opt : Opt) (value : String)
  /-- A value for a switch, behind some options that were given. -/
  | unneededValue (opt : Opt) (value : String) (given : List Opt)
deriving DecidableEq, Repr

/-- A cause, and whose options were being read. -/
structure Refusal where
  topic : Topic
  cause : Cause
deriving DecidableEq, Repr

/-- A hint at names of a kind that look like the one that was given. -/
def similarHint (kind : String) : List String → String
  | [] => ""
  | [name] => "\n\n  tip: a similar " ++ kind ++ " exists: '" ++ name ++ "'"
  | names => "\n\n  tip: some similar " ++ kind ++ "s exist: " ++ ", ".intercalate (names.map fun n => "'" ++ n ++ "'")

def Hint.text : Hint → String
  | similar opt => similarHint "argument" ["--" ++ opt.name]
  | below command option => "\n\n  tip: '" ++ command ++ " --" ++ option ++ "' exists"

def choiceList (label : String) : List String → String
  | [] => ""
  | names => "\n  [" ++ label ++ ": " ++ ", ".intercalate names ++ "]"

def Cause.describe (grammar : Grammar) (program : String) : Cause → String
  | unknownArgument argument => "unexpected argument '" ++ argument ++ "' found"
  | unknownOption name hint _ =>
    "unexpected argument '--" ++ name ++ "' found" ++ (hint.map Hint.text).getD ""
  | commandBehindDashes name =>
    "unexpected argument '" ++ name ++ "' found\n\n  tip: subcommand '" ++ name ++
      "' exists; to use it, remove the '--' before it"
  | unknownCommand name similar =>
    "unrecognized subcommand '" ++ name ++ "'" ++ similarHint "subcommand" similar
  | missingCommand =>
    "'" ++ program ++ "' requires a subcommand but one was not provided" ++
      choiceList "subcommands" (commandNames grammar.commands)
  | repeated opt => "the argument '" ++ opt.title ++ "' cannot be used multiple times"
  | missingValue opt =>
    "a value is required for '" ++ opt.title ++ "' but none was supplied" ++
      choiceList "possible values" opt.choices
  | invalidValue opt value =>
    "invalid value '" ++ value ++ "' for '" ++ opt.title ++ "'" ++ choiceList "possible values" opt.choices ++
      similarHint "value" (Text.similarNames value opt.choices).getLast?.toList
  | unneededValue opt value _ =>
    "unexpected value '" ++ value ++ "' for '" ++ opt.title ++ "' found; no more were expected"
  | _ => ""

/-- How what was given is used. Of a value that is wrong nothing is said. -/
def Cause.usage? (program : String) (topic : Topic) : Cause → Option String
  | missingValue _ => none
  | invalidValue _ _ => none
  | unknownOption _ (some (.similar opt)) given =>
    usageWith program topic (if given.contains opt then given else given ++ [opt])
  | unknownOption _ _ given => usageWith program topic given
  | unneededValue opt _ given => usageWith program topic (if given.contains opt then given else given ++ [opt])
  | _ => usage program topic

def Refusal.text (grammar : Grammar) (program : String) (refusal : Refusal) : String :=
  match refusal.cause with
  | .help topic => CommandLine.help grammar program topic
  | .nothingGiven => CommandLine.help grammar program .program
  | .version => versionText grammar
  | cause =>
    "error: " ++ cause.describe grammar program ++
      ((cause.usage? program refusal.topic).map ("\n\n" ++ ·)).getD "" ++
      "\n\nFor more information, try '--help'.\n"

def Refusal.isAnswer (refusal : Refusal) : Bool :=
  match refusal.cause with
  | .help _ => true
  | .version => true
  | _ => false

end PodAttach.CommandLine
