import RemoteScreen.Document.Value
import RemoteScreen.Log.Setup

/-! The state of the log as a JSON document. -/
namespace RemoteScreen

def Level.toDocument : Level → Json
  | .number n => (Value.int n).toDocument
  | .flag b => .bool b

namespace Log

def Handler.className (h : Handler) : String :=
  match h.output with
  | .file .. => "FileHandler"
  | _ => "StreamHandler"

def Handler.toDocument (h : Handler) : Json :=
  .list ([.text h.className, h.level.toDocument] ++
    match h.output with
    | .file path mode => [.text path, .text mode.name]
    | _ => [])

/-- Every line of a file ends in a line feed, whatever it ended in. -/
def plainEnds : List Char → List Char
  | '\r' :: '\n' :: cs => '\n' :: plainEnds cs
  | '\r' :: cs => '\n' :: plainEnds cs
  | c :: cs => c :: plainEnds cs
  | [] => []

/-- What a file holds, if it is text. -/
def fileDocument (octets : Text.Utf8.Octets) : Json :=
  match Text.Utf8.decode octets with
  | .ok cs => .text (String.ofList (plainEnds cs))
  | .error _ => .null

namespace Setup

def entries (s : Setup) : List (String × Json) :=
  [("level", s.level.toDocument), ("handlers", .list (s.handlers.map Handler.toDocument)),
    ("stderr", .text s.console), ("files", .object (s.files.map fun f => (f.1, fileDocument f.2))),
    ("libraries", .list (noisyLibraries.map fun _ => .int s.libraryLevel))]

end Setup
end Log
end RemoteScreen
