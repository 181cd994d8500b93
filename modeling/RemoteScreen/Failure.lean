import RemoteScreen.Payload.Decode
import RemoteScreen.Value

/-! What can go wrong while the program runs, by cause, and the wording of each. -/
namespace RemoteScreen

inductive RegistryError where
  | emptyTag
  | duplicateTag (tag : String)
  deriving DecidableEq, Repr

def RegistryError.message : RegistryError → String
  | .emptyTag => "Type tag must be a non-empty string"
  | .duplicateTag tag => s!"Duplicate renderer for type tag: {Text.quote tag}"

/-- Why a payload could not be had. -/
inductive FetchError where
  | status (endpoint : String) (code : Int)
  | unreachable (endpoint reason : String)
  | undecodable (r : Payload.Rejection)

namespace FetchError

def message : FetchError → String
  | status endpoint code => s!"HTTP {code} from {endpoint}"
  | unreachable endpoint reason => s!"Request to {endpoint} failed: {reason}"
  | undecodable r => r.message

def statusCode? : FetchError → Option Int
  | status _ code => some code
  | _ => none

/-- The kind of error, as telemetry names it. -/
def reason : FetchError → String
  | undecodable _ => "DecodeError"
  | _ => "TransportError"

end FetchError

/-- Why a file cannot be opened for writing. -/
inductive FileError where
  | isDirectory (path : String)
  | fileExists (path : String)
  | notDirectory (path : String)
  deriving DecidableEq, Repr

def FileError.message : FileError → String
  | .isDirectory path => s!"[Errno 21] Is a directory: {Text.quote path}"
  | .fileExists path => s!"[Errno 17] File exists: {Text.quote path}"
  | .notDirectory path => s!"[Errno 20] Not a directory: {Text.quote path}"

inductive Failure where
  /-- A strategy gave up on a descriptor. -/
  | strategy (message : String)
  /-- A strategy that has nothing to render with was asked to. -/
  | noRendering
  | imageRefused (url : String)
  | sinkRefused (id : String)
  | registry (e : RegistryError)
  | value (e : ValueError)
  | fetch (e : FetchError)
  /-- Something outside broke in a way that nobody here handles. -/
  | outside (kind message : String)
  | destroyedWidget
  | notMounted (id name : String)
  | noWorkers
  | noSettings (kind : String)
  | wrongFormat (format : String)
  | reservedOption (key : String)
  | fileRefused (e : FileError)
  | noAttribute (package name : String)

namespace Failure

def decode (r : Payload.Rejection) : Failure := .fetch (.undecodable r)

def message : Failure → String
  | strategy m => m
  | noRendering => "'CompositeStrategy' object has no attribute 'render'"
  | imageRefused url => s!"bad url {url}"
  | sinkRefused id => s!"sink refused {id}"
  | registry e => e.message
  | value e => e.message
  | fetch e => e.message
  | outside _ m => m
  | destroyedWidget => "widget is destroyed"
  | notMounted id name => s!"Component not mounted: id={Text.quote id} name={Text.quote name}"
  | noWorkers => "max_workers must be greater than 0"
  | noSettings kind => s!"'{kind}' object has no attribute 'get'"
  | wrongFormat format => s!"Invalid format '{format}' for '%' style"
  | reservedOption key => s!"AppConfig.merged() got multiple values for argument '{key}'"
  | fileRefused e => e.message
  | noAttribute package name =>
    s!"module {Text.quote package} has no attribute {Text.quote name}"

end Failure
end RemoteScreen
