import PodAttach.Number.Binary64
import PodAttach.Toml.Complaint
import PodAttach.Toml.Excerpt

/-!
# TOML values

Values and the tables they stand in, with the places where they are written. A table remembers how it came to be, since
that decides what may still be added to it: headers may reach into any table but an inline one, dotted keys only into
tables that nobody wrote out.
-/

namespace PodAttach.Toml

/-- How a table came to be. -/
inductive Origin where
  /-- It stands on one line, and is complete. -/
  | inline
  /-- It has a header of its own. -/
  | header
  /-- A header of a table below it needs it. -/
  | implied
  /-- A dotted key needs it. -/
  | dotted
deriving DecidableEq, Repr

inductive Fraction where
  | finite (isNegative : Bool) (magnitude : Number.Binary64)
  | infinite (isNegative : Bool)
  | undefined
deriving DecidableEq, Repr

structure Key where
  name : String
  /-- The key with its quotes. -/
  written : String
  extent : Extent
deriving DecidableEq, Repr

/-- What stands under a key, and where, if it stands in one place. -/
structure Entry (α : Type) where
  key : Key
  extent : Option Extent
  value : α
deriving Repr

inductive Value where
  | text (value : String)
  | flag (value : Bool)
  | integer (value : Int)
  | fraction (value : Fraction)
  | moment
  | list (items : List Value)
  | table (origin : Origin) (entries : List (Entry Value))
  /-- The tables under one repeated header. -/
  | tables (items : List (List (Entry Value)))
deriving Repr

def Value.kind : Value → String
  | text _ => "string"
  | flag _ => "boolean"
  | integer _ => "integer"
  | fraction _ => "float"
  | moment => "datetime"
  | list _ => "array"
  | table .inline _ => "inline table"
  | table _ _ => "table"
  | tables _ => "array of tables"

abbrev Entries : Type := List (Entry Value)

inductive Walk where
  | header
  | dotted
  | inline
deriving DecidableEq, Repr

namespace Entries

def get? (name : String) (entries : Entries) : Option (Entry Value) := List.find? (·.key.name == name) entries

/-- Puts an entry in place of the one with its key, or behind all others. -/
def put (entry : Entry Value) : Entries → Entries
  | [] => [entry]
  | e :: rest => if e.key.name = entry.key.name then entry :: rest else e :: put entry rest

/-- Changes the table at the end of a path, making the tables on the way that are missing; `change` is told how the
table came to be, `widen` where it is written, and `walked` is the way so far. -/
def descend (walk : Walk) (change : Origin → Entries → Except Reason Entries) (widen : Option Extent → Option Extent) :
    (walked : List String) → (path : List Key) → Origin → Entries → Except Reason Entries
  | _, [], origin, entries => change origin entries
  | walked, key :: path, _, entries =>
    let walked := walked ++ [key.name]
    let place := fun extent => if path.isEmpty then widen extent else extent
    match entries.get? key.name with
    | none =>
      let origin := if walk = .header then .implied else .dotted
      (descend walk change widen walked path origin []).map fun below =>
        entries.put ⟨key, none, .table origin below⟩
    | some ⟨key, extent, .table origin below⟩ =>
      if origin = .inline ∧ walk ≠ .inline then .error (.notTable walked "inline table")
      else if walk ≠ .header ∧ (origin = .header ∨ origin = .inline) then .error (.repeatedKey key.name none)
      else (descend walk change widen walked path origin below).map fun below =>
        entries.put ⟨key, place extent, .table origin below⟩
    | some ⟨key, extent, .tables items⟩ =>
      (descend walk change widen walked path .header (items.getLast?.getD [])).map fun below =>
        entries.put ⟨key, place extent, .tables (items.dropLast ++ [below])⟩
    | some ⟨_, _, value⟩ => .error (.notTable walked value.kind)

/-- Puts an entry under a new key, behind a path of dotted keys, in a table that may be known by its own path. A key by
itself has no place in a dotted table, nor has a dotted key in any other. -/
def assign (walk : Walk) (table : Option (List String)) (path : List Key) (entry : Entry Value) (origin : Origin)
    (entries : Entries) : Except Reason Entries :=
  descend walk (fun origin entries =>
    if (origin == .dotted) == path.isEmpty then .error (.repeatedKey entry.key.name none)
    else if (entries.get? entry.key.name).isSome then .error (.repeatedKey entry.key.name table)
    else .ok (entries.put entry)) id [] path origin entries

/-- Begins a table under a header. A table that the header only completes moves behind all others. -/
def openTable (parents : List Key) (key : Key) (extent : Extent) (entries : Entries) : Except Reason Entries :=
  let repeated := .error (.repeatedKey key.written (some (parents.map (·.name))))
  match entries.get? key.name with
  | none => .ok (entries.put ⟨key, extent, .table .header []⟩)
  | some ⟨_, _, .table .implied below⟩ =>
    .ok (List.filter (·.key.name != key.name) entries ++ [⟨key, extent, .table .header below⟩])
  | some _ => repeated

def openNext (parents : List Key) (key : Key) (extent : Extent) (entries : Entries) : Except Reason Entries :=
  match entries.get? key.name with
  | none => .ok (entries.put ⟨key, extent, .tables [[]]⟩)
  | some ⟨key, first, .tables items⟩ =>
    .ok (entries.put ⟨key, (first.getD extent).upTo extent, .tables (items ++ [[]])⟩)
  | some _ => .error (.repeatedKey key.written (some (parents.map (·.name))))

end Entries

end PodAttach.Toml
