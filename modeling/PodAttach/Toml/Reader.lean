import PodAttach.Toml.Complaint
import PodAttach.Toml.Excerpt

/-!
# Readers

A reader takes what it reads from the front of a text. If it fails, it says where it stopped and what it misses there,
and whether something else may be tried in its place.
-/

namespace PodAttach.Toml

structure Trouble where
  /-- Nothing else can stand there. -/
  isFinal : Bool
  /-- The number of characters behind the place of the failure. -/
  left : Nat
  complaint : Complaint
deriving DecidableEq, Repr

abbrev Reader : Type → Type := StateT (List Char) (Except Trouble)

namespace Reader

variable {α β : Type}

def fail (complaint : Complaint) : Reader α := fun cs => .error ⟨false, cs.length, complaint⟩

/-- Allows for nothing else. -/
def must (reader : Reader α) : Reader α := fun cs =>
  (reader cs).mapError fun trouble => { trouble with isFinal := true }

/-- Says what it is that could not be read. -/
def about (subject : String) (reader : Reader α) : Reader α := fun cs =>
  (reader cs).mapError fun trouble => { trouble with complaint := trouble.complaint.name subject }

def wanting (what : String) (reader : Reader α) : Reader α := fun cs =>
  (reader cs).mapError fun trouble => { trouble with complaint := trouble.complaint.want what }

def or (first second : Reader α) : Reader α := fun cs =>
  match first cs with
  | .ok result => .ok result
  | .error trouble => if trouble.isFinal then .error trouble else second cs

def optional (reader : Reader α) : Reader (Option α) := or (some <$> reader) (pure none)

/-- Makes something of what was read, or is in trouble with it from its start. -/
def converted (isFinal : Bool) (reader : Reader α) (convert : α → Except Complaint β) : Reader β := fun cs =>
  match reader cs with
  | .error trouble => .error trouble
  | .ok (a, rest) => match convert a with
    | .ok b => .ok (b, rest)
    | .error complaint => .error ⟨isFinal, cs.length, complaint⟩

def placed (reader : Reader α) : Reader (α × Extent) := fun cs =>
  match reader cs with
  | .error trouble => .error trouble
  | .ok (a, rest) => .ok ((a, ⟨cs.length, rest.length⟩), rest)

/-! ### Characters -/

def char (isWanted : Char → Bool) : Reader Char := fun cs =>
  match cs with
  | c :: rest => if isWanted c then .ok (c, rest) else fail .none cs
  | [] => fail .none cs

def exactly (c : Char) : Reader Char := char (· == c)

def word (letters : List Char) : Reader Unit := fun cs =>
  if letters.isPrefixOf cs then .ok ((), cs.drop letters.length) else fail .none cs

def many (isWanted : Char → Bool) : Reader (List Char) := fun cs =>
  .ok (cs.takeWhile isWanted, cs.dropWhile isWanted)

def exactCount (count : Nat) (isWanted : Char → Bool) : Reader (List Char) := fun cs =>
  let found := cs.take count
  if found.length = count ∧ found.all isWanted then .ok (found, cs.drop count) else fail .none cs

/-! ### Lists -/

/-- Reads the items behind separators. A separator without an item behind it is left alone. -/
def following (separator : Char) (item : Reader α) (cs : List Char) : Except Trouble (List α × List Char) :=
  match cs with
  | c :: start =>
    if c = separator then
      match item start with
      | .error trouble => if trouble.isFinal then .error trouble else .ok ([], cs)
      | .ok (a, rest) =>
        if rest.length ≤ start.length then (following separator item rest).map fun (items, rest) => (a :: items, rest)
        else .ok ([a], rest)
    else .ok ([], cs)
  | [] => .ok ([], cs)
termination_by cs.length

def separated (separator : Char) (item : Reader α) : Reader (List α) := do
  let first ← item
  let others ← following separator item
  return first :: others

end Reader

end PodAttach.Toml
