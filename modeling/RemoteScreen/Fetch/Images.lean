import RemoteScreen.Fetch.Url
import RemoteScreen.Image.Loader
import RemoteScreen.Settings

/-! Image loaders made from settings, and what a client without images says. -/
namespace RemoteScreen
namespace Loader

/-- The page that explains a status, as error messages name it. -/
def explanation (status : Int) : Url where
  scheme := "https"
  host := "developer.mozilla.org"
  path := s!"/en-US/docs/Web/HTTP/Status/{status}"

/-- What a client says of a page that is not there. -/
def notFound (u : Url) : String :=
  s!"Client error '404 Not Found' for url '{u.text}'\nFor more information check: " ++
    (explanation 404).text

/-- Every image is missing. -/
def missing (url : String) : Except String Value :=
  match Url.ofText url with
  | .error e => .error e.message
  | .ok u =>
    let u := u.rooted
    match u.checkSending with
    | .error e => .error e.message
    | .ok () => .error (if u.isUntyped then u.unknownType else notFound u)

/-- A pool has at least one worker. -/
def make (retrieve : String → Except String Value) (currency : Currency) (workers : Int) :
    Except Failure Loader :=
  if workers < 1 then .error .noWorkers
  else .ok { retrieve, workers := workers.toNat, currency }

/-- A loader that makes its own client needs a time limit, which has to be a number. -/
def ofSettings (s : Settings) (retrieve : String → Except String Value) (currency : Currency)
    (ownClient : Bool) : Except Failure Loader := do
  if ownClient then
    let _ ← ((s.get "timeout" (.float 10.0)).toFloat).mapError .value
  let workers ← ((s.get "image_workers" (.int 4)).toInt).mapError .value
  make retrieve currency workers

end Loader
end RemoteScreen
