import RemoteScreen.Document.Value
import RemoteScreen.Failure

/-! Failures as JSON documents. -/
namespace RemoteScreen
namespace Failure

/-- The kind of error that a failure is shown as. -/
def kind : Failure → String
  | strategy _ | imageRefused _ | sinkRefused _ | notMounted .. => "RuntimeError"
  | noRendering | noSettings _ | noAttribute .. => "AttributeError"
  | registry _ => "RegistryError"
  | value (.numeral _) | value .notANumber | noWorkers | wrongFormat _ => "ValueError"
  | value (.notFloat _) | value (.notWhole _) | reservedOption _ => "TypeError"
  | value .tooLarge | value .infinite => "OverflowError"
  | fetch e => e.reason
  | outside kind _ => kind
  | destroyedWidget => "TclError"
  | fileRefused (.isDirectory _) => "IsADirectoryError"
  | fileRefused (.fileExists _) => "FileExistsError"
  | fileRefused (.notDirectory _) => "NotADirectoryError"

/-- The kind and the message; trouble on the way also shows its status. -/
def entries (e : Failure) : List (String × Json) :=
  [("error", .text e.kind), ("message", .text e.message)] ++
    match e with
    | fetch (.undecodable _) => []
    | fetch e => [("status_code", .optional .int e.statusCode?)]
    | _ => []

def toDocument (e : Failure) : Json := .object e.entries

end Failure
end RemoteScreen
