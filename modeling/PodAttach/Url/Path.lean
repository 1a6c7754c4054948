import PodAttach.Url.Percent
import PodAttach.Url.Scheme

/-!
# Paths

A path is a list of segments. A segment of one dot stays where it is, a segment of two dots takes back the segment
before it, but never one that names a drive; either dot may be percent-encoded.
-/

namespace PodAttach.Url

/-- A text with each percent-encoded dot read as a dot. -/
def readDots : List Char → List Char
  | '%' :: '2' :: 'e' :: cs => '.' :: readDots cs
  | '%' :: '2' :: 'E' :: cs => '.' :: readDots cs
  | c :: cs => c :: readDots cs
  | [] => []

def isSingleDot (segment : List Char) : Bool := readDots segment == ['.']

def isDoubleDot (segment : List Char) : Bool := readDots segment == ['.', '.']

/-- A letter and a colon or a vertical bar. -/
def isDrive : List Char → Bool
  | [letter, sign] => letter.isAlpha && (sign == ':' || sign == '|')
  | _ => false

/-- How a segment is kept, on top of the segments `below`. -/
def keepSegment (scheme : Scheme) (below : List (List Char)) (segment : List Char) : List Char :=
  if scheme == .file && below.isEmpty && isDrive segment then segment.take 1 ++ [':']
  else percentEncode pathSet segment

/-- Takes the last segment back, unless it names a drive. -/
def dropSegment : List (List Char) → List (List Char)
  | [] => []
  | segment :: below => if isDrive segment then segment :: below else below

/-- Goes through the segments of a text on top of a path, both lists with the last segment first in the result. A dot
segment at the very end leaves an empty segment. -/
def walk (scheme : Scheme) : (path : List (List Char)) → (segments : List (List Char)) → List (List Char)
  | path, [] => path
  | path, segment :: more =>
    let ending := fun (path : List (List Char)) => if more.isEmpty then [] :: path else path
    if isDoubleDot segment then walk scheme (ending (dropSegment path)) more
    else if isSingleDot segment then walk scheme (ending path) more
    else walk scheme (keepSegment scheme path segment :: path) more

/-- The segments of a path text without its first slash, on top of the segments `below`, last first. -/
def segmentsOn (scheme : Scheme) (below : List (List Char)) (text : List Char) : List (List Char) :=
  (walk scheme below (text.splitOnP scheme.isSlash)).reverse

end PodAttach.Url
