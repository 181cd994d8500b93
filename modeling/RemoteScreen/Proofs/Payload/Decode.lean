import RemoteScreen.Document.Failure
import RemoteScreen.Proofs.Payload.Violation

/-! Decoding a value that has been read already: all of it in its wire form, or nothing. -/
namespace RemoteScreen
namespace Payload

variable {doc : Json} {source : String}

theorem check_eq_ok {form : Form} {r : Response} :
    check form source doc = .ok r ↔ components? doc = some r.components ∧ r.source = source := by
  obtain ⟨ds, origin⟩ := r
  unfold check
  rcases components? doc with - | cs
  · simp
  · simp [eq_comm]

theorem check_eq_error {form : Form} {e : Rejection} :
    check form source doc = .error e ↔
      components? doc = none ∧ e = .mismatch form (violations doc) := by
  unfold check
  rcases components? doc with - | cs
  · simp [eq_comm]
  · simp

theorem decodeDocument_eq_ok {r : Response} :
    decodeDocument doc source = .ok r ↔ components? doc = some r.components ∧ r.source = source :=
  check_eq_ok

theorem decodeDocument_eq_error {e : Rejection} :
    decodeDocument doc source = .error e ↔
      components? doc = none ∧ e = .mismatch .value (violations doc) := check_eq_error

theorem decodeOctets_eq_ok {input : Text.Utf8.Octets} {r : Response} :
    decodeOctets input source = .ok r ↔
      ∃ doc, Json.read maxContainers input = .ok doc ∧ check .written source doc = .ok r := by
  unfold decodeOctets
  rcases Json.read maxContainers input with fault | doc <;> simp

/-- What the payload says about its source does not count. -/
theorem source_of_decodeOctets {input : Text.Utf8.Octets} {r : Response}
    (h : decodeOctets input source = .ok r) : r.source = source := by
  obtain ⟨doc, -, hcheck⟩ := decodeOctets_eq_ok.1 h
  exact (check_eq_ok.1 hcheck).2

/-- Exactly the values of the wire form are decoded, into the forest they describe; any other value
gives an error that reports what is wrong with it, and no tree. -/
theorem decodeDocument_exact (doc : Json) (source : String) :
    ((∃ r, decodeDocument doc source = .ok r) ↔ IsResponse doc) ∧
      (∀ r, decodeDocument doc source = .ok r →
        r.source = source ∧ DescribesForest doc r.components) ∧
      (¬ IsResponse doc → ∃ e, decodeDocument doc source = .error e ∧
        (Failure.decode e).kind = "DecodeError" ∧ e.problems ≠ []) := by
  refine ⟨⟨?_, ?_⟩, ?_, ?_⟩
  · rintro ⟨r, hr⟩
    exact (components?_sound (decodeDocument_eq_ok.1 hr).1).1
  · intro hform
    obtain ⟨ds, hds⟩ := components?_complete hform
    exact ⟨⟨ds, source⟩, decodeDocument_eq_ok.2 ⟨hds, rfl⟩⟩
  · intro r hr
    obtain ⟨hread, hsource⟩ := decodeDocument_eq_ok.1 hr
    exact ⟨hsource, (components?_sound hread).2⟩
  · intro hform
    have hnone : components? doc = none :=
      Option.eq_none_iff_forall_ne_some.2 fun ds hds => hform (components?_sound hds).1
    have hfound : violations doc ≠ [] := fun hnil => hform (violations_eq_nil.1 hnil)
    refine ⟨_, decodeDocument_eq_error.2 ⟨hnone, rfl⟩, rfl, ?_⟩
    simpa [Rejection.problems] using hfound

/-- Children that are null, and no children in a list. -/
def childlessDocument : Json :=
  .object [("components", .list [
    .object [("id", .text "a"), ("type", .text "carousel"), ("properties", .object []),
      ("children", .null)],
    .object [("children", .list []), ("properties", .object [("title", .text "b")]),
      ("type", .text "carousel"), ("id", .text "a"), ("order", .number "2")]])]

theorem decodeDocument_exact_childless :
    IsResponse childlessDocument ∧ DescribesForest childlessDocument
      [⟨"a", "carousel", [], none⟩, ⟨"a", "carousel", [("title", some "b")], some []⟩] := by
  have hok : decodeDocument childlessDocument "cache" = .ok
      ⟨[⟨"a", "carousel", [], none⟩, ⟨"a", "carousel", [("title", some "b")], some []⟩], "cache"⟩ :=
    rfl
  obtain ⟨hiff, hmeans, -⟩ := decodeDocument_exact childlessDocument "cache"
  exact ⟨hiff.1 ⟨_, hok⟩, (hmeans _ hok).2⟩

end Payload
end RemoteScreen
