import RemoteScreen.Fetch.Reference
import RemoteScreen.Fetch.Url

/-! Redirections: where an answer sends a client that asked for a URL. -/
namespace RemoteScreen

/-- What can be wrong with a redirection: its text is no URL, it leads to none from here, or no
request can be sent there. -/
inductive RedirectError where
  | reference (e : UrlError)
  | target (e : UrlError)
  | sending (e : Url.SendingError)
  deriving DecidableEq, Repr

namespace Url

/-- A reference that names a scheme and no host means the host it comes from. -/
def onHost (current ref : Url) : Except UrlError Url :=
  if ref.scheme ≠ "" ∧ ref.host = "" then do
    let u := { ref with host := current.host }
    checkPath true (u.authority != "") u.path.toList
    .ok u
  else .ok ref

/-- Where a redirection leads. A fragment goes along if the new place names none. -/
def redirect (current : Url) (location : String) : Except RedirectError Url := do
  let ref ← (ofText location).mapError .reference
  let ref ← (current.onHost ref).mapError .target
  let target ← if ref.isAbsolute then .ok ref
    else (read (Reference.resolve current.text.toList ref.text.toList)).mapError .target
  let target := if (target.fragment.getD "") = "" ∧ (current.fragment.getD "") ≠ "" then
    { target with fragment := current.fragment } else target
  target.checkSending.mapError .sending
  .ok target

end Url
end RemoteScreen
