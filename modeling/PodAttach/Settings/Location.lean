import PodAttach.Settings.Basic
import PodAttach.Text.Utf8

/-!
# Where settings are

The directories that a user keeps settings and data in, the files in them that are meant, and what can go wrong with a
settings file.
-/

namespace PodAttach

structure Environment where
  home : Option String
  /-- The home directory on the user's account, which stands in for one that is not named. -/
  accountHome : Option String
  configHome : Option String
  dataHome : Option String
deriving DecidableEq, Repr

namespace Environment

def below (directory name : String) : String :=
  if directory = "" || directory.toList.getLast? = some '/' then directory ++ name else directory ++ "/" ++ name

def homeDirectory? (env : Environment) : Option String := env.home.filter (· ≠ "") <|> env.accountHome

/-- A directory that may be named outright, by an absolute path, or else lies below the home directory. -/
def directory? (env : Environment) (named : Option String) (name : String) : Option String :=
  env.homeDirectory?.map fun home => (named.filter (·.toList.head? = some '/')).getD (below home name)

def own (directory : String) : String := below directory "podbridge"

/-- The settings file that is read when none is named. -/
def settingsPath? (env : Environment) : Option String :=
  (env.directory? env.configHome ".config").map fun directory => below (own directory) "config.toml"

def logDirectory (env : Environment) (settings : Settings) : String :=
  match settings.logDir with
  | some directory => directory
  | none => match env.directory? env.dataHome ".local/share" with
    | some directory => below (own directory) "logs"
    | none => ".podbridge/logs"

end Environment

namespace Settings

/-- What is wrong with a settings file. -/
inductive Fault where
  | unreadable (path reason : String)
  | malformed (path report : String)
deriving DecidableEq, Repr

def Fault.message : Fault → String
  | unreadable path _ => "failed to read config file " ++ path
  | malformed path _ => "failed to parse config file " ++ path

/-- What is behind a fault, in one line or more. -/
def Fault.reason : Fault → String
  | unreadable _ reason => reason
  | malformed _ report => report

/-- Reads a settings file, given its bytes or the reason why there are none. -/
def ofFile (path : String) (contents : Except String (List UInt8)) : Except Fault Settings :=
  match contents with
  | .error reason => .error (.unreadable path reason)
  | .ok bytes => match Text.Utf8.decode? bytes with
    | none => .error (.unreadable path "stream did not contain valid UTF-8")
    | some text => (read text).mapError (.malformed path)

end Settings

end PodAttach
