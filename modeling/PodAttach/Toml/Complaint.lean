/-!
# What is wrong with a document

A complaint says what could not be read and what might have stood in its place, or why something that could be read
cannot stand where it does.
-/

namespace PodAttach.Toml

inductive Reason where
  /-- A key is in use, in a table that may be known by its path. -/
  | repeatedKey (key : String) (table : Option (List String))
  /-- A path leads through a value that is no table. -/
  | notTable (path : List String) (kind : String)
  | outOfRange
  | tooDeep
  | tooLarge
  | tooSmall
deriving DecidableEq, Repr

def Reason.message : Reason → String
  | repeatedKey key none => "duplicate key `" ++ key ++ "`"
  | repeatedKey key (some []) => "duplicate key `" ++ key ++ "` in document root"
  | repeatedKey key (some path) => "duplicate key `" ++ key ++ "` in table `" ++ ".".intercalate path ++ "`"
  | notTable path kind =>
    "dotted key `" ++ ".".intercalate path ++ "` attempted to extend non-table type (" ++ kind ++ ")"
  | outOfRange => "value is out of range"
  | tooDeep => "recursion limit exceeded"
  | tooLarge => "number too large to fit in target type"
  | tooSmall => "number too small to fit in target type"

structure Complaint where
  /-- What could not be read. -/
  subject : Option String
  /-- What might have stood there. -/
  wanted : List String
  reason : Option Reason
deriving DecidableEq, Repr

namespace Complaint

def none : Complaint := ⟨.none, [], .none⟩

def of (reason : Reason) : Complaint := ⟨.none, [], some reason⟩

def about (subject : String) : Complaint := ⟨some subject, [], .none⟩

/-- Names what could not be read, unless that has a name. -/
def name (subject : String) (complaint : Complaint) : Complaint :=
  { complaint with subject := complaint.subject <|> some subject }

def want (what : String) (complaint : Complaint) : Complaint :=
  { complaint with wanted := complaint.wanted ++ [what] }

def lines (complaint : Complaint) : List String :=
  (complaint.subject.map ("invalid " ++ ·)).toList ++
    (if complaint.wanted.isEmpty then [] else ["expected " ++ ", ".intercalate complaint.wanted]) ++
    (complaint.reason.map Reason.message).toList

def message (complaint : Complaint) : String := "\n".intercalate complaint.lines

end Complaint

end PodAttach.Toml
