import PodAttach.Toml.Quoted
import PodAttach.Toml.Scalar

/-!
# TOML documents

A document is a sequence of lines: table headers, assignments, comments. Its tables are put together line by line, and
whatever does not fit ends the reading. How deep values may be nested is limited, and so is the length of a dotted key.
-/

namespace PodAttach.Toml

open Reader

/-- Values may be nested less deep than this, and dotted keys have fewer parts. -/
def depthLimit : Nat := 80

def skipBlanks : Reader Unit := fun cs => .ok ((), cs.dropWhile isBlank)

/-! ### Comments and line ends -/

def afterComment (cs : List Char) : List Char :=
  match cs with
  | '#' :: rest => rest.dropWhile isPlain
  | _ => cs

/-- Reads to the end of a line, behind blanks and a comment. -/
def endLine : Reader Unit := fun cs =>
  let rest := afterComment (cs.dropWhile isBlank)
  match rest with
  | [] => .ok ((), [])
  | _ => match lineBreak? rest with
    | some length => .ok ((), rest.drop length)
    | none => fail .none rest

/-- What is left behind blanks, comments and line breaks between the elements of a list. -/
def afterLines (cs : List Char) : List Char :=
  let line := afterComment (cs.dropWhile isBlank)
  match lineBreak? line with
  | some length => if _h : (line.drop length).length < cs.length then afterLines (line.drop length) else cs
  | none => cs.dropWhile isBlank
termination_by cs.length
decreasing_by exact _h

def skipLines : Reader Unit := fun cs => .ok ((), afterLines cs)

/-! ### Keys -/

def isKeyChar (c : Char) : Bool := c.isAlphanum || c == '-' || c == '_'

def readName : Reader String := fun cs =>
  match cs with
  | '"' :: rest => readShort '"' rest
  | '\'' :: rest => readShort '\'' rest
  | _ =>
    let name := cs.takeWhile isKeyChar
    if name.isEmpty then fail .none cs else .ok (String.ofList name, cs.dropWhile isKeyChar)

/-- Reads one part of a key, with the blanks around it. -/
def readPartOfKey : Reader Key := do
  skipBlanks
  let text ← get
  let (name, extent) ← placed readName
  skipBlanks
  return ⟨name, String.ofList (extent.within text), extent⟩

def readKey : Reader (List Key) :=
  converted false (about "key" (separated '.' readPartOfKey)) fun path =>
    if path.length < depthLimit then .ok path else .error (.of .tooDeep)

/-- The table that a key is in, and its last part. -/
def splitKey (path : List Key) : Option (List Key × Key) := path.getLast?.map fun key => (path.dropLast, key)

/-! ### Values -/

/-- Reads a value between blanks, comments and line breaks. -/
def readElement (value : Reader Value) : Reader Value := do
  skipLines
  let item ← value
  skipLines
  return item

/-- Reads a list behind its opening bracket. A comma may stand behind the last element. -/
def readList (value : Reader Value) : Reader Value := do
  let items ← optional (separated ',' (readElement value))
  if items.isSome then
    let _ ← optional (exactly ',')
  skipLines
  must (wanting "`]`" (about "array" do let _ ← exactly ']'))
  return .list (items.getD [])

def readEquals : Reader Unit := wanting "`=`" (wanting "`.`" do let _ ← exactly '=')

structure Assignment where
  path : List Key
  extent : Extent
  value : Value
deriving Repr

def Assignment.place (a : Assignment) (walk : Walk) (table : Option (List String)) (origin : Origin)
    (entries : Entries) : Except Reason Entries :=
  match splitKey a.path with
  | some (path, key) => entries.assign walk table path ⟨key, a.extent, a.value⟩ origin
  | none => .ok entries

def readAssignment (value : Reader Value) (close : Reader Unit) : Reader Assignment := do
  let path ← readKey
  must do
    readEquals
    skipBlanks
    let (value, extent) ← placed value
    close
    return ⟨path, extent, value⟩

def readInline (value : Reader Value) : Reader Value := do
  let entries ← converted true
    (do
      let assignments ← optional (separated ',' (readAssignment value skipBlanks))
      skipBlanks
      return assignments.getD [])
    fun assignments =>
      (assignments.foldlM (fun entries a => Assignment.place a .inline none .inline entries) []).mapError .of
  must (wanting "`\x7d`" (about "inline table" do let _ ← exactly '\x7d'))
  return .table .inline entries

/-- Reads a value, with a reader for the values inside of it, unless it lies too deep for those. -/
def readValueOver (inner : Option (Reader Value)) : Reader Value := fun cs =>
  match cs with
  | [] => fail .none cs
  | first :: rest =>
    if first == '"' || first == '\'' then (Value.text <$> readQuoted first) rest
    else if first == '[' || first == '\x7b' then
      match inner with
      | none => .error ⟨true, cs.length, .of .tooDeep⟩
      | some value => if first == '[' then readList value rest else readInline value rest
    else readBare first cs

/-- Reads a value in which `depth` brackets may be open at a time. -/
def readValue : (depth : Nat) → Reader Value
  | 0 => readValueOver none
  | depth + 1 => readValueOver (some (readValue depth))

/-! ### Lines -/

/-- What has been read: all tables, and the path of the one that assignments go to. -/
structure Document where
  entries : Entries
  path : List Key
deriving Repr

namespace Document

def empty : Document := ⟨[], []⟩

/-- Carries out an assignment in the current table, which reaches to its end. -/
def assign (document : Document) (a : Assignment) : Except Complaint Document :=
  let table := document.path.map (·.name)
  let place := fun _ entries => a.place .dotted (some table) .header entries
  ((document.entries.descend .header place (Option.map (·.upTo a.extent)) [] document.path .header).map
    fun entries => { document with entries }).mapError .of

/-- Goes on with the table under a header. -/
def enter (document : Document) (begin : List Key → Key → Extent → Entries → Except Reason Entries) :
    List Key × Extent → Except Complaint Document
  | (path, extent) => match splitKey path with
    | none => .ok document
    | some (parents, key) =>
      ((document.entries.descend .header (fun _ entries => begin parents key extent entries) id [] parents .header).map
        fun entries => ⟨entries, path⟩).mapError .of

def readHeader (opening closing : List Char) : Reader (List Key × Extent) := do
  let (path, extent) ← placed do
    word opening
    let path ← must readKey
    must (wanting ("`" ++ String.ofList closing ++ "`") (wanting "`.`" (word closing)))
    return path
  must (wanting "`#`" (wanting "newline" endLine))
  return (path, extent)

/-- Reads one line, by its first character. -/
def readLine (document : Document) (first : Char) : Reader Document :=
  if first == '#' || first == '\n' || first == '\r' then do
    endLine
    return document
  else if first == '[' then about "table header" do
    if (← get).length < 2 then fail .none
    else if (← get).take 2 = ['[', '['] then
      converted true (readHeader ['[', '['] [']', ']']) (document.enter Entries.openNext)
    else converted true (readHeader ['['] [']']) (document.enter Entries.openTable)
  else
    converted true (readAssignment (readValue (depthLimit - 1)) (wanting "`#`" (wanting "newline" endLine)))
      document.assign

def readLines (document : Document) (cs : List Char) : Except Trouble Document :=
  match cs.dropWhile isBlank with
  | [] => .ok document
  | first :: start =>
    match document.readLine first (first :: start) with
    | .error trouble => .error trouble
    | .ok (document, rest) => if rest.length < cs.length then readLines document rest else .ok document
termination_by cs.length

end Document

/-- Reads a document, which may start with a byte order mark. -/
def read (cs : List Char) : Except Trouble Entries :=
  let text := match cs with
    | '\ufeff' :: rest => rest
    | _ => cs
  (Document.empty.readLines text).map (·.entries)

end PodAttach.Toml
