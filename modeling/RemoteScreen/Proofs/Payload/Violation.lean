import RemoteScreen.Payload.Violation
import RemoteScreen.Proofs.Payload.Schema

/-! A value has the wire form exactly when nothing is found to be wrong with it: reading and
reporting, which are separate, never disagree. -/
namespace RemoteScreen
namespace Payload

open Json (Holds Lacks lastValue?_eq_some lastValue?_eq_none)

variable {es : List (String × Json)} {check : Json → List Violation} {v : Json}

theorem ofText_eq_nil : ofText v = [] ↔ ∃ s, v = .text s := by
  cases v <;> simp [ofText]

theorem ofField_eq_nil {key : String} :
    ofField es key check = [] ↔ ∃ v, Holds es key v ∧ check v = [] := by
  simp only [ofField, field?, List.map_eq_nil_iff, ← lastValue?_eq_some]
  rcases Json.lastValue? key es with - | v <;> simp

theorem ofProperties_eq_nil :
    ofProperties v = [] ↔ ∃ ps, v = .object ps ∧ ∀ e ∈ ps, ∃ s, e.2 = .text s := by
  cases v with
  | object ps =>
    simp [ofProperties, List.flatMap_eq_nil_iff, ofText_eq_nil]
  | _ => simp [ofProperties]

theorem ofItems_eq_nil {items : List Json} (n : Nat) :
    ofItems check n items = [] ↔ ∀ item ∈ items, check item = [] := by
  induction items generalizing n with
  | nil => simp [ofItems]
  | cons item items ih => simp [ofItems, ih]

theorem ofChildren_eq_nil :
    ofChildren check (field? "children" es) = [] ↔
      Lacks es "children" ∨ Holds es "children" .null ∨
        ∃ items, Holds es "children" (.list items) ∧ ∀ item ∈ items, check item = [] := by
  simp only [field?, ← lastValue?_eq_some, ← lastValue?_eq_none]
  rcases Json.lastValue? "children" es with - | v <;> try cases v
  all_goals simp [ofChildren, ofItems_eq_nil]

theorem ofDescriptor_eq_nil {room : Nat} : ∀ {v : Json},
    ofDescriptor room v = [] ↔ IsDescriptor room v := by
  induction room with
  | zero => simp [ofDescriptor, IsDescriptor]
  | succ room ih =>
    intro v
    cases v with
    | object es =>
      simp only [ofDescriptor, List.append_eq_nil_iff, List.map_eq_nil_iff, ofField_eq_nil,
        ofText_eq_nil, ofProperties_eq_nil, ofChildren_eq_nil, ih]
      constructor
      · rintro ⟨⟨⟨⟨_, hid, id, rfl⟩, _, htype, type, rfl⟩, _, hps, ps, rfl, htexts⟩, hchildren⟩
        exact ⟨es, rfl, ⟨id, type, ps, hid, htype, hps, htexts⟩, hchildren⟩
      · rintro ⟨_, h, ⟨id, type, ps, hid, htype, hps, htexts⟩, hchildren⟩
        cases h
        exact ⟨⟨⟨⟨_, hid, id, rfl⟩, _, htype, type, rfl⟩, _, hps, ps, rfl, htexts⟩, hchildren⟩
    | _ => simp [ofDescriptor, IsDescriptor]

theorem violations_eq_nil {doc : Json} : violations doc = [] ↔ IsResponse doc := by
  have hcomponents (v : Json) : ofComponents v = [] ↔
      ∃ items, v = .list items ∧ ∀ item ∈ items, IsDescriptor 254 item := by
    cases v <;> simp [ofComponents, ofItems_eq_nil, ofDescriptor_eq_nil, maxNesting]
  cases doc with
  | object es =>
    simp only [violations, ofField_eq_nil, hcomponents]
    constructor
    · rintro ⟨_, hitems, items, rfl, hform⟩
      exact ⟨es, items, rfl, hitems, hform⟩
    · rintro ⟨_, items, h, hitems, hform⟩
      cases h
      exact ⟨_, hitems, items, rfl, hform⟩
  | _ => simp [violations, IsResponse]

end Payload
end RemoteScreen
