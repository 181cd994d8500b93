import RemoteScreen.Descriptor.Response
import RemoteScreen.Fetch.Network
import RemoteScreen.Fetch.Redirect
import RemoteScreen.Payload.Fallback
import RemoteScreen.Session.Telemetry
import RemoteScreen.Settings

/-! The fetcher: asks one endpoint for a payload, and falls back on another response when there is
none to be had. -/
namespace RemoteScreen

structure Fetcher where
  endpoint : String
  /-- A fetcher without a client of somebody else's makes its own and closes it. -/
  ownClient : Bool := false
  follow : Bool := true
  fallback : Except Failure Response := .ok Payload.fallback
  /-- A telemetry channel; without a number, the one of the whole process. -/
  channel : Option Nat := none
  closed : Bool := false

/-- What a fetch gives: always a response, and why it is the fallback, if it is. -/
structure FetchResult where
  response : Response
  error : Option String := none

def FetchResult.isOk (r : FetchResult) : Bool := r.error.isNone

namespace Fetcher

/-- The endpoint and the time limit are read from the settings; the limit has to be a number. -/
def ofSettings (s : Settings) (ownClient : Bool) : Except Failure Fetcher := do
  let _ ← ((s.get "timeout" (.float 10.0)).toFloat).mapError .value
  .ok { endpoint := (s.get "endpoint").display, ownClient }

def close (f : Fetcher) : Fetcher := { f with closed := f.closed || f.ownClient }

/-- How many redirections a client follows. -/
def maxRedirects : Nat := 20

def tooManyRedirects : String := "Exceeded maximum allowed redirects."

def closedClient : Failure :=
  .outside "RuntimeError" "Cannot send a request, as the client has been closed."

/-- A client of the fetcher's own speaks two protocols. -/
def protocolTrouble? (f : Fetcher) (u : Url) : Option String :=
  if !f.ownClient then none
  else if u.scheme = "" then some "Request URL is missing an 'http://' or 'https://' protocol."
  else if ["http", "https", "ws", "wss"].contains u.scheme then none
  else some s!"Request URL has an unsupported protocol '{u.scheme}://'."

end Fetcher

namespace Session

variable {υ : Type}

def ask (url : Url) : Act υ Exchange := do
  let s ← get
  let (n, e) := s.network.ask url.text
  set { s with network := n }
  pure e

/-- What one request comes to: an end, or a URL to go on with. -/
inductive Leg where
  | done (outcome : Except String Reply)
  | onward (next : Url)

/-- One request. The place of a redirection has to be a URL, whether it is followed or not. -/
def leg (f : Fetcher) (url : Url) : Act υ Leg := do
  match f.protocolTrouble? url with
  | some reason => pure (.done (.error reason))
  | none =>
    match ← ask url with
    | .trouble reason => pure (.done (.error reason))
    | .broken kind message => fail (.outside kind message)
    | .reply r =>
      if url.isUntyped then fail (.outside "ValueError" url.unknownType)
      else
        match r.target?.map url.redirect with
        | none => pure (.done (.ok r))
        | some (.error (.reference e)) =>
          pure (.done (.error s!"Invalid URL in location header: {e.message}."))
        | some (.error (.target e)) => pure (.done (.error e.message))
        | some (.error (.sending e)) => fail (.outside e.kind e.message)
        | some (.ok next) => pure (if f.follow then .onward next else .done (.ok r))

/-- The final answer for a URL, or the reason why there is none. -/
def retrieve (f : Fetcher) : (redirects : Nat) → Url → Act υ (Except String Reply)
  | 0, url => do
    match ← leg f url with
    | .done outcome => pure outcome
    | .onward _ => pure (.error Fetcher.tooManyRedirects)
  | redirects + 1, url => do
    match ← leg f url with
    | .done outcome => pure outcome
    | .onward next => retrieve f redirects next

/-- The answer of the endpoint, or the reason why there is none. -/
def request (f : Fetcher) : Act υ (Except String Reply) := do
  match Url.ofText f.endpoint with
  | .error e => pure (.error e.message)
  | .ok url =>
    let url := url.rooted
    match url.checkSending with
    | .error e => fail (.outside e.kind e.message)
    | .ok () =>
      if f.closed then fail Fetcher.closedClient else retrieve f Fetcher.maxRedirects url

/-- The response that the endpoint sends, with no fallback. -/
def fetchRemote (f : Fetcher) : Act υ Response := do
  match ← request f with
  | .error reason => fail (.fetch (.unreachable f.endpoint reason))
  | .ok r =>
    if r.isSuccess then
      match Payload.decodeOctets r.body with
      | .ok response => pure response
      | .error e => fail (.decode e)
    else fail (.fetch (.status f.endpoint r.status))

def fetched (f : Fetcher) (response : Response) : Act υ FetchResult := do
  log .info "fetch" s!"Fetched {response.size} components from {f.endpoint}"
  pure { response }

/-- Reports why there is no payload and gives the fallback. -/
def fallBack (f : Fetcher) (channel : Nat) (e : FetchError) : Act υ FetchResult := do
  log .warning "fetch" s!"Fetch failed ({e.message}); using fallback components"
  emitEvent channel ⟨"fetch.fallback", [("reason", .text e.reason)]⟩
  let response ← ofExcept f.fallback
  pure { response, error := some e.message }

/-- The payload of the endpoint, or the fallback for every reason that fetching knows. -/
def fetch (f : Fetcher) : Act υ FetchResult := do
  let channel ← channelOr f.channel
  match ← attempt (timed channel "fetch.duration_ms" [] (fetchRemote f)) with
  | .ok response => fetched f response
  | .error (.fetch e) => fallBack f channel e
  | .error e => fail e

end Session
end RemoteScreen
