import RemoteScreen.Host.Address
import RemoteScreen.Host.Name
import RemoteScreen.Number.Numeral
import RemoteScreen.Text.Plain
import RemoteScreen.Text.Utf8

/-! URLs: reading one, and its normal text. -/
namespace RemoteScreen

structure Url where
  scheme : String := ""
  user : String := ""
  host : String := ""
  port : Option Int := none
  path : String := ""
  query : Option String := none
  fragment : Option String := none
  deriving DecidableEq, Repr

inductive UrlError where
  | tooLong
  | control (c : Char) (position : Nat)
  | port (text : String)
  | shortAddress (host : String)
  | longAddress (host : String)
  | name (host : String)
  | pathAfterHost
  | doubleSlash
  | leadingColon
  deriving DecidableEq, Repr

def UrlError.message : UrlError → String
  | .tooLong => "URL too long"
  | .control c position =>
    s!"Invalid non-printable ASCII character in URL, {Text.quote (String.singleton c)} at " ++
      s!"position {position}."
  | .port text => s!"Invalid port: {Text.quote text}"
  | .shortAddress host => s!"Invalid IPv4 address: {Text.quote host}"
  | .longAddress host => s!"Invalid IPv6 address: {Text.quote host}"
  | .name host => s!"Invalid IDNA hostname: {Text.quote host}"
  | .pathAfterHost => "For absolute URLs, path must be empty or begin with '/'"
  | .doubleSlash => "Relative URLs cannot have a path starting with '//'"
  | .leadingColon => "Relative URLs cannot have a path starting with ':'"

namespace Url

/-! Quoting -/

def isUnreserved (c : Char) : Bool :=
  c.isAlphanum || c == '-' || c == '.' || c == '_' || c == '~'

/-- Printable ASCII, less the characters that a part of a URL may not hold bare. -/
def isSafeBut (excluded : String) (c : Char) : Bool :=
  0x20 ≤ c.toNat && c.toNat < 0x7F && !excluded.toList.contains c

def pathSafe : Char → Bool := isSafeBut " \"#<>?`\x7b\x7d"
def querySafe : Char → Bool := isSafeBut " \"#<>"
def fragmentSafe : Char → Bool := isSafeBut " \"<>`"
def userSafe : Char → Bool := isSafeBut " \"#<>?`\x7b\x7d/;=@[\\]^|"
def hostSafe (c : Char) : Bool := "!$&'()*+,;=\"`\x7b\x7d%|\\".toList.contains c

def upperHex (n : Nat) : Char := (Nat.digitChar n).toUpper

/-- The octets of a character, each as a percent sign and two hexadecimal digits. -/
def escaped (c : Char) : List Char :=
  (Text.Utf8.encode [c]).flatMap fun b => ['%', upperHex (b.toNat / 16), upperHex (b.toNat % 16)]

/-- A character by itself where it is safe, and escaped elsewhere. -/
def written (safe : Char → Bool) (c : Char) : List Char :=
  if isUnreserved c || safe c then [c] else escaped c

/-- Escapes what is not safe. What is an escape already stays as it is. -/
def quoteChars (safe : Char → Bool) : List Char → List Char
  | [] => []
  | '%' :: a :: b :: cs =>
    if Host.isHexDigit a && Host.isHexDigit b then '%' :: a :: b :: quoteChars safe cs
    else written safe '%' ++ quoteChars safe (a :: b :: cs)
  | c :: cs => written safe c ++ quoteChars safe cs

def quote (safe : Char → Bool) (cs : List Char) : String :=
  String.ofList (quoteChars safe cs)

/-! Paths -/

def dropStep (acc : List (List Char)) : List (List Char) :=
  if acc = [] ∨ acc = [[]] then acc else acc.dropLast

/-- Carries out the steps "here" and "one up" of a path. -/
def walkPath (segments : List (List Char)) : List (List Char) :=
  segments.foldl (fun acc s =>
    if s = ['.'] then acc else if s = ['.', '.'] then dropStep acc else acc ++ [s]) []

def splitPath (cs : List Char) : List (List Char) := cs.splitOn '/'

def joinPath (segments : List (List Char)) : List Char := ['/'].intercalate segments

def normalPath (cs : List Char) : List Char :=
  let segments := splitPath cs
  if segments.contains ['.'] || segments.contains ['.', '.'] then joinPath (walkPath segments)
  else cs

/-! Reading -/

def isSchemeChar (c : Char) : Bool := c.isAlphanum || c == '+' || c == '.' || c == '-'

/-- The scheme before the first colon, if a scheme is what stands there. -/
def splitScheme (cs : List Char) : List Char × List Char :=
  let (s, rest) := cs.span isSchemeChar
  match s, rest with
  | [], ':' :: rest => ([], rest)
  | c :: _, ':' :: rest => if c.isAlpha then (s, rest) else ([], cs)
  | _, _ => ([], cs)

def splitAuthority : List Char → List Char × List Char
  | '/' :: '/' :: cs => cs.span fun c => c != '/' && c != '?' && c != '#'
  | cs => ([], cs)

/-- The part that a mark begins, up to one of the `stops`. -/
def splitMarked (mark : Char) (stops : List Char) : List Char → Option (List Char) × List Char
  | c :: cs =>
    if c = mark then
      let (part, rest) := cs.span fun c => !stops.contains c
      (some part, rest)
    else (none, c :: cs)
  | [] => (none, [])

/-- User, host and port. -/
def splitHost (cs : List Char) : List Char × List Char × List Char :=
  let afterUser := (cs.reverse.takeWhile (· != '@')).reverse
  let user := if cs.contains '@' then cs.take (cs.length - afterUser.length - 1) else []
  let (host, rest) :=
    if afterUser.head? = some '[' ∧ afterUser.contains ']' then
      let rest := (afterUser.reverse.takeWhile (· != ']')).reverse
      (afterUser.take (afterUser.length - rest.length), rest)
    else afterUser.span (· != ':')
  (user, host, match rest with | ':' :: port => port | port => port)

def isBracketed (cs : List Char) : Bool :=
  2 ≤ cs.length && cs.head? == some '[' && cs.getLast? == some ']'

/-- A host that looks like a numeric address, or stands in brackets, has to be one. Other hosts are
names: in plain letters they are quoted, and else they have to be written so. -/
def readHost (cs : List Char) : Except UrlError String :=
  let text := String.ofList cs
  let inner := (cs.drop 1).dropLast
  if Host.looksNumeric cs then
    if Host.isShortAddress cs then .ok text else .error (.shortAddress text)
  else if isBracketed cs then
    if Host.isLongAddress inner then .ok (String.ofList inner) else .error (.longAddress text)
  else if cs.all fun c => c.toNat < 0x80 then .ok (quote hostSafe (cs.map Char.toLower))
  else
    match Host.written? text with
    | some name => .ok name
    | none => .error (.name text)

def defaultPorts : List (String × Int) :=
  [("ftp", 21), ("http", 80), ("https", 443), ("ws", 80), ("wss", 443)]

/-- The number of a port, unless it is the usual one of the scheme. -/
def readPort (scheme : String) (cs : List Char) : Except UrlError (Option Int) :=
  if cs.isEmpty then .ok none
  else
    match Number.whole (String.ofList cs) with
    | .error _ => .error (.port (String.ofList cs))
    | .ok n => .ok (if defaultPorts.lookup scheme = some n then none else some n)

def checkPath (hasScheme hasHost : Bool) (path : List Char) : Except UrlError Unit :=
  if hasHost then
    if path.isEmpty || path.head? == some '/' then .ok () else .error .pathAfterHost
  else if hasScheme then .ok ()
  else if path.take 2 = ['/', '/'] then .error .doubleSlash
  else if path.head? = some ':' then .error .leadingColon
  else .ok ()

def isControl (c : Char) : Bool := c.toNat < 0x20 || c.toNat == 0x7F

def checkChars (cs : List Char) : Except UrlError Unit :=
  if 65536 < cs.length then .error .tooLong
  else
    match cs.find? isControl with
    | some c => .error (.control c (cs.takeWhile fun d => !isControl d).length)
    | none => .ok ()

def read (cs : List Char) : Except UrlError Url := do
  checkChars cs
  let (scheme, rest) := splitScheme cs
  let (authority, rest) := splitAuthority rest
  let (path, rest) := rest.span fun c => c != '?' && c != '#'
  let (query, rest) := splitMarked '?' ['#'] rest
  let (fragment, _) := splitMarked '#' [] rest
  let (user, host, port) := splitHost authority
  let user := quote userSafe user
  let host ← readHost host
  let port ← readPort (String.ofList scheme) port
  let hasHost := user != "" || host != "" || port.isSome
  checkPath (!scheme.isEmpty) hasHost path
  let path := if !scheme.isEmpty || hasHost then normalPath path else path
  .ok {
    scheme := String.ofList (scheme.map Char.toLower)
    user, host, port
    path := quote pathSafe path
    query := query.map (quote querySafe)
    fragment := fragment.map (quote fragmentSafe) }

def ofText (s : String) : Except UrlError Url := read s.toList

/-! Writing -/

/-- The host, in brackets if it holds colons, and the port. -/
def place (u : Url) : String :=
  (if u.host.toList.contains ':' then s!"[{u.host}]" else u.host) ++
    (match u.port with | some p => s!":{p}" | none => "")

def authority (u : Url) : String := (if u.user = "" then "" else u.user ++ "@") ++ u.place

def text (u : Url) : String :=
  (if u.scheme = "" then "" else u.scheme ++ ":") ++
    (if u.authority = "" then "" else "//" ++ u.authority) ++ u.path ++
    (match u.query with | some q => "?" ++ q | none => "") ++
    (match u.fragment with | some f => "#" ++ f | none => "")

/-! Sending -/

def isAbsolute (u : Url) : Bool := u.scheme != "" && u.host != ""

/-- What a URL without a scheme or a host comes to where there is nothing to resolve it against: its
path from the root, and its query. -/
def rooted (u : Url) : Url :=
  if u.isAbsolute then u
  else { path := String.ofList ('/' :: u.path.toList.dropWhile (· == '/')), query := u.query }

/-- What keeps a client from sending a request to a place. -/
inductive SendingError where
  | name (e : Host.NameError)
  | letters (e : Text.PlainError)
  deriving DecidableEq, Repr

namespace SendingError

def kind : SendingError → String
  | name e => e.kind
  | letters _ => "UnicodeEncodeError"

def message : SendingError → String
  | name e => e.message
  | letters e => e.message

end SendingError

/-- The host and the port that a request names: a name that stands for another has to be well
written, and all letters have to be plain. -/
def checkSending (u : Url) : Except SendingError Unit := do
  if Host.isWritten u.host then (Host.checkWritten u.host).mapError .name
  (Text.checkPlain u.place).mapError .letters

/-- A place whose kind nothing tells: no word and colon stand at the beginning of its text. -/
def isUntyped (u : Url) : Bool :=
  match ((u.text.toList.takeWhile (· != '#')).span fun c => c != '/' && c != ':') with
  | (_ :: _, ':' :: _) => false
  | _ => true

/-- The complaint about a place whose kind cannot be told. An empty fragment is not shown. -/
def unknownType (u : Url) : String :=
  let shown := if u.fragment = some "" then { u with fragment := none } else u
  s!"unknown url type: {Text.quote shown.text}"

end Url
end RemoteScreen
