/-! References: where a text leads that is given at some place. A reference may have parameters
after a semicolon in the last segment of its path. -/
namespace RemoteScreen

structure Reference where
  scheme : List Char := []
  authority : List Char := []
  path : List Char := []
  parameters : List Char := []
  query : List Char := []
  fragment : List Char := []
  deriving DecidableEq, Repr

namespace Reference

/-- The schemes whose places have an authority and steps from one to another. -/
def steppedSchemes : List String := [
  "", "ftp", "http", "gopher", "nntp", "imap", "wais", "file", "https", "shttp", "mms", "prospero",
  "rtsp", "rtsps", "rtspu", "sftp", "svn", "svn+ssh", "ws", "wss"]

/-- The other schemes whose places have an authority. -/
def hostedSchemes : List String := ["telnet", "snews", "rsync", "nfs", "git", "git+ssh"]

/-- The schemes whose places may have parameters. -/
def parameterSchemes : List String := [
  "", "ftp", "hdl", "prospero", "http", "imap", "https", "shttp", "rtsp", "rtsps", "rtspu", "sip",
  "sips", "mms", "sftp", "tel"]

def isStepped (scheme : List Char) : Bool := steppedSchemes.contains (String.ofList scheme)

def isHosted (scheme : List Char) : Bool :=
  isStepped scheme || hostedSchemes.contains (String.ofList scheme)

def isSchemeChar (c : Char) : Bool := c.isAlphanum || c == '+' || c == '.' || c == '-'

/-- The scheme of a reference, unless it has none and the one given counts. -/
def splitScheme (scheme cs : List Char) : List Char × List Char :=
  match cs.span isSchemeChar with
  | (c :: name, ':' :: rest) =>
    if c.isAlpha then ((c :: name).map Char.toLower, rest) else (scheme, cs)
  | _ => (scheme, cs)

def splitAuthority : List Char → List Char × List Char
  | '/' :: '/' :: cs => cs.span fun c => c != '/' && c != '?' && c != '#'
  | cs => ([], cs)

/-- The last segment ends where its parameters begin. -/
def splitParameters (path : List Char) : List Char × List Char :=
  let last := (path.reverse.takeWhile (· != '/')).reverse
  let (name, parameters) := last.span (· != ';')
  (path.take (path.length - last.length) ++ name, parameters.drop 1)

/-- Reads a reference that has the given scheme if it names none. -/
def read (scheme cs : List Char) : Reference :=
  let (scheme, rest) := splitScheme scheme cs
  let (authority, rest) := splitAuthority rest
  let (rest, fragment) := rest.span (· != '#')
  let (path, query) := rest.span (· != '?')
  let (path, parameters) :=
    if parameterSchemes.contains (String.ofList scheme) then splitParameters path else (path, [])
  { scheme, authority, path, parameters, query := query.drop 1, fragment := fragment.drop 1 }

/-- A part with its mark, unless it is empty. -/
def marked (mark : Char) (part : List Char) : List Char := if part = [] then [] else mark :: part

/-- A path next to an authority, even one that is empty, begins at the root. -/
def chars (r : Reference) : List Char :=
  let path := r.path ++ marked ';' r.parameters
  let path :=
    if r.authority ≠ [] ∨ (r.scheme ≠ [] ∧ isHosted r.scheme) ∨ path.take 2 = ['/', '/'] then
      "//".toList ++ r.authority ++
        (if path = [] ∨ path.head? = some '/' then path else '/' :: path)
    else path
  (if r.scheme = [] then [] else r.scheme ++ [':']) ++ path ++ marked '?' r.query ++
    marked '#' r.fragment

def here : List Char := ['.']

def up : List Char := ['.', '.']

/-- The segments on the way to a path: those of the base, of which the last does not count, and its
own. Empty ones in the middle are left out. -/
def segmentsFrom (base path : List Char) : List (List Char) :=
  if path.head? = some '/' then path.splitOn '/'
  else
    let way := base.splitOn '/'
    let all := (if way.getLast? = some [] then way else way.dropLast) ++ path.splitOn '/'
    all.take 1 ++ ((all.drop 1).dropLast.filter fun s => !s.isEmpty) ++ (all.drop 1).getLast?.toList

/-- Carries out the steps of a path. Steps that lead above the root are left out, and a path that
ends in a step ends in a slash. -/
def walk (segments : List (List Char)) : List Char :=
  let walked := segments.foldl (fun acc s =>
    if s = here then acc else if s = up then acc.dropLast else acc ++ [s]) []
  let last := segments.getLast?
  let walked := if last = some here ∨ last = some up then walked ++ [[]] else walked
  let path := ['/'].intercalate walked
  if path = [] then ['/'] else path

/-- What a reference of the same scheme is, seen from a base. -/
def onto (base r : Reference) : Reference :=
  if r.authority ≠ [] then r
  else if r.path = [] ∧ r.parameters = [] then
    { r with
      authority := base.authority, path := base.path, parameters := base.parameters
      query := if r.query = [] then base.query else r.query }
  else { r with authority := base.authority, path := walk (segmentsFrom base.path r.path) }

/-- Where a text leads from a base. It leads there by itself if it names another scheme, or if the
scheme has no steps. -/
def resolve (base cs : List Char) : List Char :=
  if base = [] then cs
  else if cs = [] then base
  else
    let b := read [] base
    let r := read b.scheme cs
    if r.scheme = b.scheme ∧ isStepped r.scheme then (b.onto r).chars else cs

end Reference
end RemoteScreen
