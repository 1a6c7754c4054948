import PodAttach.Text.Blank
import PodAttach.Url.Authority
import PodAttach.Url.Path

/-!
# URLs

Reading a URL, alone or relative to another one, and writing it. A URL without an authority has no host; an authority
may name an empty one. What is written reads as the same URL, without the credentials that were read past.
-/

namespace PodAttach

namespace Url

inductive Path where
  | segments (list : List String)
  /-- Text that is not a path, as in `mailto:someone`. -/
  | rootless (text : String)
deriving DecidableEq, Repr

end Url

structure Url where
  scheme : Url.Scheme
  authority : Option Url.Host
  port : Option UInt16
  path : Url.Path
  query : Option String
  fragment : Option String
deriving DecidableEq, Repr

namespace Url

/-- The host, where there is one and it is not empty. -/
def host? (url : Url) : Option Host := url.authority.filter (!·.isEmpty)

/-- The segments of the path, none for a path that is not a list of them. -/
def pathSegments (url : Url) : List String :=
  match url.path with
  | .segments list => list
  | .rootless _ => []

/-- The host with its port, as one would dial it. -/
def hostPort? (url : Url) : Option String :=
  url.host?.map fun host => match url.port with
    | some port => host.render ++ ":" ++ Nat.repr port.toNat
    | none => host.render

/-- The port to dial: the explicit one or the scheme's own. -/
def effectivePort? (url : Url) : Option UInt16 := url.port <|> url.scheme.defaultPort?

def queryPairs (url : Url) : List (String × String) :=
  match url.query with
  | some query => formPairs query.toList
  | none => []

/-! ### Reading -/

/-- Drops controls and spaces at both ends, and tabs and line breaks everywhere. -/
def clean (cs : List Char) : List Char :=
  (Text.strip (· ≤ ' ') cs).filter fun c => c != '\t' && c != '\n' && c != '\r'

def pathText (cs : List Char) : List Char := cs.takeWhile fun c => c != '?' && c != '#'

def tail (scheme : Scheme) (cs : List Char) : Option String × Option String :=
  let afterPath := cs.dropWhile fun c => c != '?' && c != '#'
  let set := if scheme.isSpecial then specialQuerySet else querySet
  let fragment := match afterPath.dropWhile (· != '#') with
    | _ :: text => some (String.ofList (percentEncode fragmentSet text))
    | [] => none
  match afterPath with
  | '?' :: more => (some (String.ofList (percentEncode set (more.takeWhile (· != '#')))), fragment)
  | _ => (none, fragment)

/-- The path after an authority. One slash before the first segment may be missing, and only under a special scheme is
there a segment where nothing is written. -/
def rootedPath (scheme : Scheme) (below : List (List Char)) (text : List Char) : Path :=
  match text with
  | [] => if scheme.isSpecial then .segments ((segmentsOn scheme below []).map String.ofList) else .segments []
  | c :: cs =>
    .segments ((segmentsOn scheme below (if scheme.isSlash c then cs else text)).map String.ofList)

/-- The URL on an authority that is read from the start of `cs`. -/
def onAuthority (scheme : Scheme) (cs : List Char) : Except Fault Url := do
  let authority ← Authority.read scheme cs
  let (query, fragment) := tail scheme authority.rest
  return { scheme, authority := some authority.host, port := authority.port,
           path := rootedPath scheme [] (pathText authority.rest), query, fragment }

def ofOther (scheme : Scheme) (cs : List Char) : Except Fault Url :=
  match cs with
  | '/' :: '/' :: rest => onAuthority scheme rest
  | _ =>
    let (query, fragment) := tail scheme cs
    let text := pathText cs
    let path := match text with
      | '/' :: _ => rootedPath scheme [] text
      | _ => .rootless (String.ofList (percentEncode controlSet text))
    .ok { scheme, authority := none, port := none, path, query, fragment }

/-- Under `file` empty segments before the first other one count for nothing. -/
def dropEmptySegments (list : List (List Char)) : List (List Char) :=
  match list.dropWhile List.isEmpty with
  | [] => [[]]
  | segments => segments

/-- A file URL with the host `host`, which a path that starts with a drive does without. -/
def fileOn (host : Host) (cs : List Char) : Url :=
  let (query, fragment) := tail .file cs
  let text := pathText cs
  let segments := segmentsOn .file [] (match text with
    | c :: more => if Scheme.file.isSlash c then more else text
    | [] => [])
  let onDrive := (segments.take 1).any isDrive
  { scheme := .file, authority := some (if onDrive then .name "" else host), port := none,
    path := .segments ((dropEmptySegments segments).map String.ofList), query, fragment }

/-- The host of a file URL; this machine's name stands for none, and a drive is no host. -/
def ofFile (cs : List Char) : Except Fault Url :=
  match cs with
  | a :: b :: rest =>
    if Scheme.file.isSlash a && Scheme.file.isSlash b then
      let hostChars := rest.takeWhile (!Scheme.file.endsAuthority ·)
      if hostChars.isEmpty || isDrive hostChars then .ok (fileOn (.name "") rest)
      else
        match Host.ofDomain hostChars with
        | .error fault => .error fault
        | .ok host =>
          let after := rest.drop hostChars.length
          .ok (fileOn (if host == .name "localhost" then .name "" else host) after)
    else .ok (fileOn (.name "") cs)
  | _ => .ok (fileOn (.name "") cs)

/-- The URL of a text behind its scheme and colon. Under a special scheme any number of slashes leads to the host. -/
def ofScheme (scheme : Scheme) (cs : List Char) : Except Fault Url :=
  match scheme with
  | .file => ofFile cs
  | .other _ => ofOther scheme cs
  | _ => onAuthority scheme (cs.dropWhile scheme.isSlash)

def read (s : String) : Except Fault Url :=
  match cutScheme? (clean s.toList) with
  | some (scheme, rest) => ofScheme scheme rest
  | none => .error .relative

/-- Takes a text without a scheme as a reference from the page `base`, whose path is a list of segments. -/
def follow (base : Url) (cs : List Char) : Except Fault Url :=
  let (query, fragment) := tail base.scheme cs
  let below := (base.pathSegments.map String.toList).reverse
  match cs with
  | [] => .ok { base with fragment := none }
  | '#' :: _ => .ok { base with fragment }
  | '?' :: _ => .ok { base with query, fragment }
  | c :: rest =>
    if base.scheme.isSlash c then
      if (rest.take 1).any base.scheme.isSlash then
        match cs with
        | '/' :: '/' :: after => onAuthority base.scheme after
        | _ => onAuthority base.scheme (cs.dropWhile base.scheme.isSlash)
      else .ok { base with path := rootedPath base.scheme [] (pathText cs), query, fragment }
    else
      .ok { base with path := rootedPath base.scheme (below.drop 1) (pathText cs), query, fragment }

/-- Reads a text on the page `base`: a URL of its own, or a reference from that page. -/
def readOn (base : Url) (s : String) : Except Fault Url :=
  let cs := clean s.toList
  match cutScheme? cs with
  | some (scheme, rest) => ofScheme scheme rest
  | none => follow base cs

/-! ### Writing -/

def Path.render : Path → String
  | .segments list => String.join (list.map ("/" ++ ·))
  | .rootless text => text

/-- A path that starts with an empty segment would read as an authority; a single dot keeps them apart. -/
def Path.renderUnhosted : Path → String
  | .segments ("" :: second :: more) => "/." ++ Path.render (.segments ("" :: second :: more))
  | path => path.render

def render (url : Url) : String :=
  let place := match url.authority with
    | some host => "//" ++ host.render ++ (match url.port with
      | some port => ":" ++ Nat.repr port.toNat
      | none => "") ++ url.path.render
    | none => url.path.renderUnhosted
  let part := fun (sign : String) (text : Option String) => match text with
    | some text => sign ++ text
    | none => ""
  url.scheme.name ++ ":" ++ place ++ part "?" url.query ++ part "#" url.fragment

end Url

end PodAttach
