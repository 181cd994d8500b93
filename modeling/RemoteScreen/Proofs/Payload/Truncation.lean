import RemoteScreen.Json.Printer
import RemoteScreen.Proofs.Json.Continued
import RemoteScreen.Proofs.Payload.Agreement

/-! A payload that was cut off is never decoded: the last octet that counts is the brace that closes
the whole. -/
namespace RemoteScreen
namespace Payload

open Json.Reader (isSpace)
open Text.Utf8 (Octets)

variable {input p q : Octets} {source : String} {r : Response}

/-- Where two payloads are decoded and one continues the other, it does so with white space. -/
theorem decodeOctets_append {source' : String} {r' : Response}
    (hp : decodeOctets p source = .ok r) (hpq : decodeOctets (p ++ q) source' = .ok r') :
    r'.components = r.components ∧ ∀ b ∈ q, isSpace b := by
  obtain ⟨doc, hread, hcheck⟩ := decodeOctets_eq_ok.1 hp
  obtain ⟨whole, hwhole, hcheck'⟩ := decodeOctets_eq_ok.1 hpq
  have hcomponents := (check_eq_ok.1 hcheck).1
  have hcomponents' := (check_eq_ok.1 hcheck').1
  obtain ⟨es, items, rfl, -⟩ := components?_eq_some.1 hcomponents
  obtain ⟨rfl, hspace⟩ := Json.read_append hread nofun hwhole
  rw [hcomponents] at hcomponents'
  exact ⟨(Option.some.inj hcomponents').symm, hspace⟩

/-- Wherever a payload that can be decoded is cut off, if more than white space is lost, what is
left gives an error and no response. -/
theorem decodeOctets_cut (p q : Octets) (source source' : String)
    (hwhole : ∃ r, decodeOctets (p ++ q) source = .ok r) (hcut : ∃ b ∈ q, ¬ isSpace b) :
    ∃ e, decodeOctets p source' = .error e ∧ (Failure.decode e).kind = "DecodeError" := by
  obtain ⟨r, hr⟩ := hwhole
  rcases hp : decodeOctets p source' with e | r'
  · exact ⟨e, rfl, rfl⟩
  · obtain ⟨b, hb, hother⟩ := hcut
    exact absurd ((decodeOctets_append hp hr).2 b hb) hother

def accented : Json :=
  .object [("components", .list [
    .object [("id", .text "\u00e9"), ("type", .text "spacer"), ("properties", .object [])]])]

/-- The cut is between the two octets of the accented letter. -/
theorem decodeOctets_cut_accented :
    (∃ r, decodeOctets (Text.Utf8.encode accented.chars) "cache" = .ok r) ∧
      (Text.Utf8.encode accented.chars)[22]? = some 0xC3 ∧
      ∃ e, decodeOctets ((Text.Utf8.encode accented.chars).take 23) = .error e := by
  have hread : Json.read maxContainers (Text.Utf8.encode accented.chars) = .ok accented := by cbv
  have hok : ∃ r, decodeOctets (Text.Utf8.encode accented.chars) "cache" = .ok r := by
    rw [decodeOctets_of_read hread]
    exact ⟨⟨[⟨"\u00e9", "spacer", [], none⟩], "cache"⟩, rfl⟩
  refine ⟨hok, by decide, ?_⟩
  rw [← List.take_append_drop 23 (Text.Utf8.encode accented.chars)] at hok
  obtain ⟨e, he, -⟩ := decodeOctets_cut _ _ "cache" remoteSource hok ⟨0x7D, by decide, by decide⟩
  exact ⟨e, he⟩

end Payload
end RemoteScreen
