import PodAttach.Number.Binary64

/-!
# Similar words

How much two words look alike: the share of letters that they have in common nearby, less those that are out of order,
averaged over both words and the common letters.
-/

namespace PodAttach.Text

open Number

/-- How far apart two equal letters may stand. -/
def similarityReach (a b : List Char) : Nat := max a.length b.length / 2 - 1

/-- The first place within reach of `i` that holds `c` and is not taken. -/
def matchingPlace? (reach : Nat) (b : List Char) (taken : List Nat) (i : Nat) (c : Char) : Option Nat :=
  (List.range b.length).find? fun j => i - reach ≤ j && j ≤ i + reach && b[j]? == some c && !taken.contains j

/-- The places of `b` that letters of `a` are matched with, each with its letter, in the order of `a`. -/
def matchedPlaces (a b : List Char) : List (Nat × Char) :=
  (a.zipIdx.foldl (fun (found : List (Nat × Char)) (c, i) =>
    match matchingPlace? (similarityReach a b) b (found.map Prod.fst) i c with
    | some j => found ++ [(j, c)]
    | none => found) [])

/-- Common letters, and half the number of them that are out of order. -/
def commonLetters (a b : List Char) : Nat × Nat :=
  let places := matchedPlaces a b
  let inOrder := b.zipIdx.filterMap fun (c, j) => if (places.map Prod.fst).contains j then some c else none
  (places.length, (((places.map Prod.snd).zip inOrder).countP fun (c, d) => c != d) / 2)

/-- The likeness of two words, from nothing to one. It is reckoned in numbers of 64 bits. -/
def likeness (a b : String) : Binary64 :=
  let (m, n) := (a.toList.length, b.toList.length)
  let (common, swapped) := commonLetters a.toList b.toList
  if common = 0 then .zero
  else (do
    let shares ← (← Binary64.ofRatio common m).add (← Binary64.ofRatio common n)
    (← shares.add (← Binary64.ofRatio (common - swapped) common)).div (← Binary64.ofNat 3)).getD .zero

/-- The words are more than seven tenths alike. -/
def isSimilar (a b : String) : Bool := !(likeness a b).atMost ((Binary64.ofRatio 7 10).getD .zero)

/-- The names that are similar to a word, the most similar one last. -/
def similarNames (word : String) (names : List String) : List String :=
  (names.filter (isSimilar word)).mergeSort fun a b => (likeness word a).atMost (likeness word b)

end PodAttach.Text
