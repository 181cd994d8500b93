import RemoteScreen.Descriptor.Response
import RemoteScreen.Document.Value

/-! Descriptors and responses as JSON documents. -/
namespace RemoteScreen

namespace Properties

def toDocument (ps : Properties) : Json := .object (ps.map fun e => (e.1, .optional .text e.2))

end Properties

namespace Descriptor

mutual

def toDocument : Descriptor → Json
  | ⟨id, type, ps, cs⟩ => .object [("id", .text id), ("type", .text type),
      ("properties", ps.toDocument), ("children", childrenDocument cs)]

def childrenDocument : Option (List Descriptor) → Json
  | none => .null
  | some ds => .list (documents ds)

def documents : List Descriptor → List Json
  | [] => []
  | d :: ds => toDocument d :: documents ds

end

end Descriptor

namespace Response

/-- What a response is, without what is in it. -/
def summary (r : Response) : List (String × Json) :=
  [("source", .text r.source), ("len", .int r.size), ("is_fallback", .bool r.isFallback)]

def toDocument (r : Response) : Json :=
  .object (r.summary ++ [("components", .list (Descriptor.documents r.components))])

end Response
end RemoteScreen
