import PodAttach.Target.Resolve

/-!
# Page addresses

The address of a page about a container says which container that is, and often which server knows it. The container's
coordinates stand in the query or in the path; the options of a log always stand in the query.
-/

namespace PodAttach

/-- Where a page address carries the coordinates. -/
inductive AddressStyle where
  | query
  | path
deriving DecidableEq, Repr

namespace AddressStyle

def name : AddressStyle → String
  | query => "query"
  | path => "path"

def ofName? : String → Option AddressStyle
  | "query" => some query
  | "path" => some path
  | _ => none

end AddressStyle

structure Page where
  host : Option String
  secure : Bool
  fields : Fields
deriving DecidableEq, Repr

namespace Page

/-- A page of which nothing is known. -/
def unknown : Page := ⟨none, false, .empty⟩

/-- The page that addresses without a host are relative to. -/
def localPage : Url :=
  { scheme := .http, authority := some (.name "localhost"), port := none, path := .segments [""],
    query := none, fragment := none }

/-- The URL of an address, and whether it names a host of its own. -/
def locate (address : String) : Except Target.AddressFault (Url × Bool) :=
  let address := Text.trim address
  match Url.read address with
  | .ok url => if url.host?.isSome then .ok (url, true) else .error (.noHost url)
  | .error .relative => match Url.readOn localPage address with
    | .ok url => .ok (url, false)
    | .error fault => .error (.malformed fault)
  | .error fault => .error (.malformed fault)

/-- The first value under each key that is not empty. -/
def queryFields (url : Url) : Fields :=
  url.queryPairs.foldl (fun fields (key, value) => if value = "" then fields else fields.insertIfNew key value) .empty

/-- The field that the next segment of a path holds. -/
def segmentKey? : String → Option String
  | "namespaces" => some "namespace"
  | "namespace" => some "namespace"
  | "pods" => some "pod"
  | "pod" => some "pod"
  | "containers" => some "container"
  | "container" => some "container"
  | _ => none

/-- The fields in the segments of a path. A segment that holds a value is no key. -/
def segmentFields : List String → List (String × String)
  | [] => []
  | [_] => []
  | segment :: value :: rest =>
    match segmentKey? segment with
    | some key => (key, value) :: segmentFields rest
    | none => segmentFields (value :: rest)

/-- The fields of a page address. Those in a path replace those in the query. -/
def fieldsOf (style : AddressStyle) (url : Url) : Fields :=
  match style with
  | .query => queryFields url
  | .path =>
    (segmentFields (url.pathSegments.filter (· ≠ ""))).foldl (fun fields (key, value) => fields.insert key value)
      (queryFields url)

def read (style : AddressStyle) (address : String) : Except Target.Fault Page :=
  match locate address with
  | .error fault => .error (.invalidAddress fault)
  | .ok (url, isAbsolute) =>
    .ok { host := if isAbsolute then url.hostPort? else none
          secure := isAbsolute && url.scheme.isSecure
          fields := fieldsOf style url }

/-- Reads a page address and the target it describes. -/
def resolve (address : String) (style : AddressStyle) (mode : Mode) : Except Target.Fault (Target × Page) := do
  let page ← read style address
  let target ← Target.resolve page.fields mode
  return (target, page)

end Page

end PodAttach
