import RemoteScreen.Compression.Container
import RemoteScreen.Text.Blank
import RemoteScreen.Text.Plain
import RemoteScreen.Text.Utf8

/-! The network as a client meets it: what it answers to each request, in turn. -/
namespace RemoteScreen

/-- An answer: its status, where it redirects to, if anywhere, and its body. -/
structure Reply where
  status : Int := 200
  location : Option String := none
  body : Text.Utf8.Octets := []
  deriving DecidableEq, Repr

namespace Reply

def isSuccess (r : Reply) : Bool := 200 ≤ r.status && r.status < 300

def redirectStatuses : List Int := [301, 302, 303, 307, 308]

/-- Where an answer sends the client. -/
def target? (r : Reply) : Option String :=
  if redirectStatuses.contains r.status then r.location else none

end Reply

/-- What comes of one request. -/
inductive Exchange where
  | reply (r : Reply)
  /-- The client reports trouble on the network. -/
  | trouble (reason : String)
  /-- Something else breaks, and nobody handles it. -/
  | broken (kind message : String)
  deriving DecidableEq, Repr

namespace Exchange

/-- The kinds of errors that clients report as trouble on the network. -/
def troubleKinds : List String := [
  "HTTPError", "RequestError", "TransportError", "TimeoutException", "ConnectTimeout",
  "ReadTimeout", "WriteTimeout", "PoolTimeout", "NetworkError", "ConnectError", "ReadError",
  "WriteError", "CloseError", "ProtocolError", "LocalProtocolError", "RemoteProtocolError", "ProxyError",
  "UnsupportedProtocol", "DecodingError", "TooManyRedirects", "InvalidURL"]

/-- How an error of some kind words its message: a key that is missing is quoted. -/
def spoken (kind message : String) : String :=
  if kind = "KeyError" then Text.quote message else message

/-- What an error of some kind comes to. -/
def ofRaised (kind message : String) : Exchange :=
  if troubleKinds.contains kind then trouble message else broken kind (spoken kind message)

abbrev Headers := List (String × String)

/-- What headers of one name say, in order. The case of names does not count. -/
def sayings (headers : Headers) (name : String) : List String :=
  headers.filterMap fun h => if h.1.map Char.toLower = name then some h.2 else none

/-- The ways in which a body was treated, in order. -/
def treatments (headers : Headers) : List String :=
  (sayings headers "content-encoding").flatMap fun s =>
    (s.splitOn ",").map fun way => (Text.strip way).map Char.toLower

/-- Headers that say where to go count as one. -/
def location? (headers : Headers) : Option String :=
  match sayings headers "location" with
  | [] => none
  | places => some (", ".intercalate places)

/-- What an answer comes to: its headers have to be plain, and what was done to its body is
undone. -/
def ofAnswer (status : Int) (headers : Headers) (octets : Text.Utf8.Octets) : Exchange :=
  match (headers.flatMap fun h => [h.1, h.2]).forM Text.checkPlain with
  | .error e => broken "UnicodeEncodeError" e.message
  | .ok () =>
    match Compression.undo (treatments headers) octets with
    | .error f => trouble f.message
    | .ok body => reply { status, location := location? headers, body }

end Exchange

/-- What is yet to come of the next requests, the last repeating, and the URLs asked for so far. -/
structure Network where
  coming : List Exchange := []
  requested : List String := []
  deriving DecidableEq, Repr

namespace Network

def silence : String := "no answer"

def ask (n : Network) (url : String) : Network × Exchange :=
  let requested := n.requested ++ [url]
  match n.coming with
  | [] => ({ n with requested }, .trouble silence)
  | [e] => ({ n with requested }, e)
  | e :: es => (⟨es, requested⟩, e)

@[simp] theorem requested_ask (n : Network) (url : String) :
    (n.ask url).1.requested = n.requested ++ [url] := by
  unfold ask
  split <;> rfl

end Network
end RemoteScreen
