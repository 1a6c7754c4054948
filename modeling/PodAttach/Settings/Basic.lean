import PodAttach.Endpoint
import PodAttach.Number.Shortest
import PodAttach.Target.Page
import PodAttach.Text.Quoted
import PodAttach.Toml.Document

/-!
# Settings

What a settings file can set, each with a default. Keys that mean nothing are passed over; a value of the wrong type
makes the whole file unreadable.
-/

namespace PodAttach

structure Settings where
  host : String
  secure : Bool
  style : AddressStyle
  logDir : Option String
  logFilter : Option String
deriving DecidableEq, Repr

namespace Settings

open Toml

def default : Settings := ⟨Endpoint.defaultHost, false, .query, none, none⟩

def effectiveLogFilter (settings : Settings) : String := settings.logFilter.getD "podbridge=info"

/-! ### Values of the wrong type -/

inductive Mismatch where
  | wrongType (found wanted : String)
  | unknownStyle (name : String)
  /-- Neither the name of a style, nor a table with one. -/
  | noStyle
  /-- A table without exactly one entry names no style. -/
  | styleCount (isEmpty : Bool)
  /-- The entry that names a style has a value of its own. -/
  | styleValue (kind : String)
deriving DecidableEq, Repr

def Mismatch.message : Mismatch → String
  | wrongType found wanted => "invalid type: " ++ found ++ ", expected " ++ wanted
  | unknownStyle name => "unknown variant `" ++ name ++ "`, expected `query` or `path`"
  | noStyle => "wanted string or table"
  | styleCount true => "wanted exactly 1 element, found 0 elements"
  | styleCount false => "wanted exactly 1 element, more than 1 element"
  | styleValue "array" => "expected empty array"
  | styleValue "table" => "expected empty table"
  | styleValue kind => "expected table, found " ++ kind

/-- Numbers are never written with an exponent. -/
def plainNumbers : Number.Binary64.Layout := ⟨-400, 400, 'e'⟩

def describeFraction : Fraction → String
  | .finite isNegative magnitude =>
    (if isNegative then "-" else "") ++ String.ofList (magnitude.shortest.render plainNumbers)
  | .infinite isNegative => if isNegative then "-inf" else "inf"
  | .undefined => "NaN"

def describe : Value → String
  | .text s => "string " ++ Text.quote s
  | .flag b => "boolean `" ++ toString b ++ "`"
  | .integer n => "integer `" ++ toString n ++ "`"
  | .fraction f => "floating point `" ++ describeFraction f ++ "`"
  | .moment => "map"
  | .list _ => "sequence"
  | .table _ _ => "map"
  | .tables _ => "sequence"

/-- What cannot be taken, and where it is written, if that is not where its entry is. -/
abbrev Refused : Type := Mismatch × Option Extent

def readText (wanted : String) : Value → Except Refused String
  | .text s => .ok s
  | value => .error (.wrongType (describe value) wanted, none)

def readFlag : Value → Except Refused Bool
  | .flag b => .ok b
  | value => .error (.wrongType (describe value) "a boolean", none)

def contents? : Value → Option Mismatch
  | .list items => if items.isEmpty then none else some (.styleValue "array")
  | .tables items => if items.isEmpty then none else some (.styleValue "array")
  | .table _ entries => if entries.isEmpty then none else some (.styleValue "table")
  | value => some (.styleValue value.kind)

/-- A style is its name, or a table with nothing but an empty value under that name. -/
def readStyle : Value → Except Refused AddressStyle
  | .text name => match AddressStyle.ofName? name with
    | some style => .ok style
    | none => .error (.unknownStyle name, none)
  | .table _ [entry] => match AddressStyle.ofName? entry.key.name with
    | none => .error (.unknownStyle entry.key.name, entry.key.extent)
    | some style => match contents? entry.value with
      | some mismatch => .error (mismatch, entry.extent)
      | none => .ok style
  | .table _ entries => .error (.styleCount entries.isEmpty, none)
  | _ => .error (.noStyle, none)

/-! ### Files -/

def set (settings : Settings) (entry : Entry Value) : Except Refused Settings :=
  match entry.key.name with
  | "host" => do return { settings with host := ← readText "a string" entry.value }
  | "secure" => do return { settings with secure := ← readFlag entry.value }
  | "address_style" => do return { settings with style := ← readStyle entry.value }
  | "log_dir" => do return { settings with logDir := ← readText "path string" entry.value }
  | "log_filter" => do return { settings with logFilter := ← readText "a string" entry.value }
  | _ => .ok settings

/-- The settings in a document, whose entries are looked at in turn. -/
def ofEntries (entries : Entries) : Except (Mismatch × Extent) Settings :=
  entries.foldlM (fun settings entry => (settings.set entry).mapError fun (mismatch, extent) =>
    (mismatch, extent.getD (entry.extent.getD entry.key.extent))) default

/-- Reads settings from the text of a file, or shows what is wrong with it. -/
def read (source : List Char) : Except String Settings :=
  match Toml.read source with
  | .error trouble => .error (excerpt source (.point trouble.left) trouble.complaint.message)
  | .ok entries =>
    (ofEntries entries).mapError fun (mismatch, extent) => excerpt source extent mismatch.message

end Settings

end PodAttach
