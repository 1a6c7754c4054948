import PodAttach.CommandLine.Refusal

/-!
# Reading a command line

Arguments are read one after the other. An option whose value stands in the next argument stays open until something
else begins, and only then is its value looked at; so an argument that nobody knows is reported before a bad value that
was given earlier.
-/

namespace PodAttach.CommandLine

abbrev Given : Type := List (String × String)

/-- Whose arguments are read: a command's, with the commands that may follow. -/
structure Scope where
  command : Command
  topic : Topic
  commands : List Command
deriving DecidableEq, Repr

structure Scan where
  given : Given
  /-- The option that has not been looked at yet, with its value if that has come. -/
  waiting : Option (Opt × Option String)
deriving DecidableEq, Repr

namespace Scan

def start : Scan := ⟨[], none⟩

/-- The next argument may be the value of the option that is open. -/
def wantsValue (scan : Scan) : Bool := scan.waiting.any fun (_, value) => value.isNone

def note (scan : Scan) (opt : Opt) (value : String) : Except Cause Scan :=
  if (scan.given.lookup opt.name).isSome then .error (.repeated opt)
  else
    let noted : Scan := { scan with given := scan.given ++ [(opt.name, value)] }
    match opt.use with
    | .value .filled => if value = "" then .error (.missingValue opt) else .ok noted
    | .value (.oneOf names) =>
      if names.contains value then .ok noted
      else if value = "" then .error (.missingValue opt)
      else .error (.invalidValue opt value)
    | _ => .ok noted

def settle (scan : Scan) : Except Cause Scan :=
  let closed : Scan := { scan with waiting := none }
  match scan.waiting with
  | none => .ok closed
  | some (opt, none) => .error (.missingValue opt)
  | some (opt, some value) => closed.note opt value

def takeSwitch (topic : Topic) (scan : Scan) (opt : Opt) : Except Cause Scan := do
  let scan ← scan.settle
  match opt.use with
  | .help => .error (.help topic)
  | .version => .error .version
  | _ => scan.note opt "true"

def takeOption (scan : Scan) (opt : Opt) (attached : Option String) : Except Cause Scan := do
  let scan ← scan.settle
  match attached with
  | some value => scan.note opt value
  | none => return { scan with waiting := some (opt, none) }

/-- The options that have been given, with the one that is open if it has a value. One that is open for the second time
does not count as given. -/
def shown (scope : Scope) (scan : Scan) : List Opt :=
  let given := scan.given.filterMap fun (name, _) => scope.command.named? name
  match scan.waiting with
  | some (opt, some _) => if given.contains opt then given.erase opt else given ++ [opt]
  | _ => given

/-- What a name may stand for that no option has, in front of further arguments. -/
def hint? (scope : Scope) (name : String) (rest : List String) : Option Hint :=
  let similar? := fun (command : Command) =>
    (Text.similarNames name (command.options.map (·.name))).getLast?
  match similar? scope.command with
  | some option => (scope.command.named? option).map .similar
  | none =>
    rest.findSome? fun argument => (scope.commands.find? (·.name == argument)).bind fun command =>
      (similar? command).map (.below command.name)

/-- Takes an argument that starts with two dashes: a name, and behind an equals sign a value. -/
def takeLong (scope : Scope) (scan : Scan) (text : List Char) (rest : List String) : Except Cause Scan :=
  let name := String.ofList (text.takeWhile (· != '='))
  let attached := match text.dropWhile (· != '=') with
    | _ :: value => some (String.ofList value)
    | [] => none
  match scope.command.named? name with
  | none => .error (.unknownOption name (hint? scope name rest) (scan.shown scope))
  | some opt =>
    if opt.takesValue then scan.takeOption opt attached
    else match attached with
      | some value => .error (.unneededValue opt value ({ scan with waiting := none }.shown scope))
      | none => scan.takeSwitch scope.topic opt

/-- Takes letters behind one dash: switches, and at last an option to which the remaining text is attached. -/
def takeLetters (scope : Scope) (scan : Scan) : List Char → Except Cause Scan
  | [] => .ok scan
  | letter :: rest =>
    match scope.command.lettered? letter with
    | none => .error (.unknownArgument ("-" ++ String.singleton letter))
    | some opt =>
      if opt.takesValue then
        scan.takeOption opt (match rest with
          | [] => none
          | '=' :: value => some (String.ofList value)
          | value => some (String.ofList value))
      else do takeLetters scope (← scan.takeSwitch scope.topic opt) rest

/-- An argument that is neither an option nor the value of one. -/
def stray (scope : Scope) (behindDashes : Bool) (argument : String) : Cause :=
  let names := commandNames scope.commands
  if names.isEmpty then .unknownArgument argument
  else if behindDashes && names.contains argument then .commandBehindDashes argument
  else .unknownCommand argument (Text.similarNames argument names)

/-- Reads arguments up to a command, which is returned with the arguments behind it. -/
def read (scope : Scope) (scan : Scan) : List String → Except Cause (Scan × Option (String × List String))
  | [] => .ok (scan, none)
  | argument :: rest =>
    if !scan.wantsValue && (commandNames scope.commands).contains argument then .ok (scan, some (argument, rest))
    else match argument.toList with
      | ['-', '-'] => match rest with
        | [] => .ok (scan, none)
        | next :: _ => .error (stray scope true next)
      | '-' :: '-' :: text => do read scope (← scan.takeLong scope text rest) rest
      | '-' :: letter :: letters => do read scope (← scan.takeLetters scope (letter :: letters)) rest
      | _ => match scan.waiting with
        | some (opt, none) => read scope { scan with waiting := some (opt, some argument) } rest
        | _ => .error (stray scope false argument)

end Scan

/-- The topic of a help command with its arguments. Commands have no commands of their own. -/
def helpTopic (grammar : Grammar) : List String → Except Refusal Topic
  | [] => .ok .program
  | name :: rest =>
    let found := if name = Grammar.helpName then some Topic.helpCommand else (grammar.command? name).map .command
    match found, rest with
    | none, _ => .error ⟨.program, .unknownCommand name []⟩
    | some topic, [] => .ok topic
    | some topic, next :: _ => .error ⟨topic, .unknownCommand next []⟩

/-- A command with the options given before and behind its name. -/
structure Reading where
  command : Command
  outer : Given
  inner : Given
deriving DecidableEq, Repr

/-- The value of an option, the one behind the command's name first. -/
def Reading.value? (reading : Reading) (name : String) : Option String :=
  reading.inner.lookup name <|> reading.outer.lookup name

def readInner (command : Command) (arguments : List String) : Except Cause Given := do
  let (scan, _) ← Scan.read ⟨command, .command command, []⟩ .start arguments
  return (← scan.settle).given

def read (grammar : Grammar) (arguments : List String) : Except Refusal Reading :=
  match Scan.read ⟨grammar.top, .program, grammar.commands⟩ .start arguments with
  | .error cause => .error ⟨.program, cause⟩
  | .ok (scan, none) => match scan.settle with
    | .error cause => .error ⟨.program, cause⟩
    | .ok scan => .error ⟨.program, if scan.given.isEmpty then .nothingGiven else .missingCommand⟩
  | .ok (scan, some (name, rest)) =>
    match grammar.command? name with
    | none => match helpTopic grammar rest with
      | .ok topic => .error ⟨topic, .help topic⟩
      | .error refusal => .error refusal
    | some command => match readInner command rest with
      | .error cause => .error ⟨.command command, cause⟩
      | .ok inner => match scan.settle with
        | .error cause => .error ⟨.program, cause⟩
        | .ok scan => .ok ⟨command, scan.given, inner⟩

/-- The name a program is called by: the last part of its path, or else its own. -/
def programName (grammar : Grammar) (path : Option String) : String :=
  let parts := (path.getD "").toList.splitOn '/'
  match (parts.filter fun part => part ≠ [] ∧ part ≠ ['.']).getLast? with
  | some part => if part = ['.', '.'] then grammar.top.name else String.ofList part
  | none => grammar.top.name

end PodAttach.CommandLine
