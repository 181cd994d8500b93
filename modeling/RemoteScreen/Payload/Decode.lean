import RemoteScreen.Json.Reader
import RemoteScreen.Payload.Violation

/-! Decoding a payload into a response, from octets, from a text, or from a JSON value that has
already been read. A payload that cannot be decoded gives a report and no tree. -/
namespace RemoteScreen
namespace Payload

open Text.Utf8 (Octets)

/-- Whether a payload came as written text or as a value; problems are worded differently. -/
inductive Form where
  | written
  | value
  deriving DecidableEq, Repr

inductive Rejection where
  | unreadable (input : Octets) (fault : Json.Fault)
  | mismatch (form : Form) (found : List Violation)

/-- How many containers a written payload may nest. -/
def maxContainers : Nat := 200

def Defect.message : Form → Defect → String
  | _, .missing => "Field required"
  | _, .notText => "Input should be a valid string"
  | .written, .notList => "Input should be a valid array"
  | .value, .notList => "Input should be a valid list"
  | .written, .notProperties => "Input should be an object"
  | .value, .notProperties => "Input should be a valid dictionary"
  | .written, .notDescriptor => "Input should be an object"
  | .value, .notDescriptor => "Input should be a valid dictionary or instance of DescriptorPayload"
  | .written, .notResponse => "Input should be an object"
  | .value, .notResponse => "Input should be a valid dictionary or instance of ResponsePayload"
  | _, .tooDeep => "Recursion error - maximum validation depth exceeded"

def Step.text : Step → String
  | .field name => name
  | .index n => toString n

def rootName : String := "<root>"

/-- The steps joined by points; where that is the empty text, the whole document is meant. -/
def Path.text (p : Path) : String :=
  let joined := ".".intercalate (p.map Step.text)
  if joined.isEmpty then rootName else joined

def Violation.message (form : Form) (v : Violation) : String :=
  s!"{v.path.text}: {v.defect.message form}"

/-- How many problems a report spells out. -/
def shownProblems : Nat := 3

/-- The first problems, and the number of the others if there are any. -/
def summary (problems : List String) : String :=
  let rest := problems.length - shownProblems
  "; ".intercalate (problems.take shownProblems ++
    if rest = 0 then [] else [s!"(+{rest} more)"])

def Rejection.problems : Rejection → List String
  | .unreadable input fault => [s!"{rootName}: Invalid JSON: {fault.message input}"]
  | .mismatch form found => found.map (Violation.message form)

def Rejection.message (r : Rejection) : String :=
  s!"Invalid components payload: {summary r.problems}"

def check (form : Form) (source : String) (doc : Json) : Except Rejection Response :=
  match components? doc with
  | some cs => .ok ⟨cs, source⟩
  | none => .error (.mismatch form (violations doc))

def decodeDocument (doc : Json) (source : String := remoteSource) : Except Rejection Response :=
  check .value source doc

def decodeOctets (input : Octets) (source : String := remoteSource) :
    Except Rejection Response :=
  match Json.read maxContainers input with
  | .ok doc => check .written source doc
  | .error fault => .error (.unreadable input fault)

def decodeText (s : String) (source : String := remoteSource) : Except Rejection Response :=
  decodeOctets (Text.Utf8.encode s.toList) source

end Payload
end RemoteScreen
