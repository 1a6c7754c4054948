/-!
# Excerpts

A part of a text is shown by its line, with marks below it and a message under the whole. Parts are given by how much
of the text is left at their ends.
-/

namespace PodAttach.Toml

/-- A part of a text: the number of characters from its start to the end of the text, and from its end. -/
structure Extent where
  start : Nat
  stop : Nat
deriving DecidableEq, Repr

namespace Extent

/-- The character at a place, or nothing at the end of a text. -/
def point (left : Nat) : Extent := ⟨left, left - 1⟩

def upTo (extent later : Extent) : Extent := ⟨extent.start, later.stop⟩

def before (text : List Char) (extent : Extent) : List Char := text.take (text.length - extent.start)

def within (text : List Char) (extent : Extent) : List Char :=
  (text.drop (text.length - extent.start)).take (extent.start - extent.stop)

end Extent

def byteLength (cs : List Char) : Nat := (cs.map Char.utf8Size).foldl (· + ·) 0

def lastLine (cs : List Char) : List Char := (cs.reverse.takeWhile (· ≠ '\n')).reverse

/-- A line and a column, both counted from zero. -/
structure Place where
  line : Nat
  column : Nat
deriving DecidableEq, Repr

namespace Place

/-- Where an extent starts. The end of a text belongs to the line of its last character, and a column is counted in bytes
if it holds a character of several bytes. -/
def of (text : List Char) (extent : Extent) : Place :=
  let before := extent.before text
  match text.drop before.length with
  | [] => ⟨before.dropLast.count '\n', (lastLine before.dropLast).length + 1⟩
  | c :: _ =>
    let line := lastLine before
    ⟨before.count '\n', if c.utf8Size = 1 then line.length else byteLength line⟩

end Place

def excerpt (text : List Char) (extent : Extent) (message : String) : String :=
  let place := Place.of text extent
  let number := toString (place.line + 1)
  let line := (text.splitOn '\n').getD place.line []
  let width := min (byteLength (extent.within text)) (byteLength line - place.column)
  let margin := String.ofList (List.replicate (number.length + 1) ' ') ++ "|"
  let marks := List.replicate (place.column + 1) ' ' ++ List.replicate (max width 1) '^'
  "TOML parse error at line " ++ number ++ ", column " ++ toString (place.column + 1) ++ "\n" ++
    margin ++ "\n" ++
    number ++ " | " ++ String.ofList line ++ "\n" ++
    margin ++ String.ofList marks ++ "\n" ++
    message ++ "\n"

end PodAttach.Toml
