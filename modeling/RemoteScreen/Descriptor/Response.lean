import RemoteScreen.Descriptor.Basic

/-! A response: the ordered roots of one payload and where they came from. -/
namespace RemoteScreen

def remoteSource : String := "remote"

def fallbackSource : String := "fallback"

structure Response where
  components : List Descriptor := []
  source : String := remoteSource
  deriving Inhabited

namespace Response

def size (r : Response) : Nat := r.components.length

def isFallback (r : Response) : Bool := r.source == fallbackSource

end Response
end RemoteScreen
