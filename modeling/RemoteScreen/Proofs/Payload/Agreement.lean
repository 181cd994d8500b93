import Mathlib
import RemoteScreen.Json.Printer
import RemoteScreen.Proofs.Json.Merged
import RemoteScreen.Proofs.Payload.Decode

/-! A written payload and the value it denotes are decoded alike. Reading the payload keeps the
repeated keys, and taking its value merges them: the fields of a descriptor do not notice, and the
properties only where one key is there twice. -/
namespace RemoteScreen
namespace Payload

open Json (Holds Lacks Within merged mergedItems mergedEntries mergeEntries holds_merged
  lacks_merged)

variable {es ps : List (String × Json)} {v : Json} {d : Descriptor} {doc : Json}

@[simp] theorem text?_merged (v : Json) : text? v.merged = text? v := by
  cases v <;> simp [merged, text?]

/-! What is read stays -/

theorem texts_merged (ps : List (String × Json)) :
    texts (mergeEntries (mergedEntries ps)) = texts ps := by
  have hsame : (mergedEntries ps).map (fun e => (e.1, text? e.2)) =
      ps.map fun e => (e.1, text? e.2) := by
    simp [Json.mergedEntries_eq]
  rw [texts, ← Json.mergeEntries_map, Json.mergeEntries_mergeEntries, hsame, texts]

theorem Headed.merged {id type : String} (h : Headed es id type ps) :
    Headed (mergeEntries (mergedEntries es)) id type (mergeEntries (mergedEntries ps)) where
  id := holds_merged.2 ⟨_, h.id, rfl⟩
  type := holds_merged.2 ⟨_, h.type, rfl⟩
  properties := holds_merged.2 ⟨_, h.properties, rfl⟩
  texts := by
    intro e hmem
    have hentry := Json.mem_of_mem_mergeEntries hmem
    rw [Json.mergedEntries_eq, List.mem_map] at hentry
    obtain ⟨e, he, rfl⟩ := hentry
    obtain ⟨s, hs⟩ := h.texts e he
    exact ⟨s, by simp [hs, Json.merged]⟩

theorem ChildrenRead.merged {read : Json → Option Descriptor}
    (hread : ∀ v d, read v = some d → read v.merged = some d) {cs : Option (List Descriptor)}
    (h : ChildrenRead es read cs) :
    ChildrenRead (mergeEntries (mergedEntries es)) read cs := by
  cases cs with
  | none =>
    exact h.imp lacks_merged.2 fun hnull => holds_merged.2 ⟨_, hnull, rfl⟩
  | some ds =>
    obtain ⟨items, hitems, hds⟩ := h
    refine ⟨mergedItems items, holds_merged.2 ⟨_, hitems, rfl⟩, ?_⟩
    rw [mapM_eq_some] at hds ⊢
    rw [Json.mergedItems_eq, List.forall₂_map_left_iff]
    exact hds.imp hread

theorem descriptor?_merged (room : Nat) : ∀ (v : Json) (d : Descriptor),
    descriptor? room v = some d → descriptor? room v.merged = some d := by
  induction room with
  | zero => exact fun v d h => by simp [descriptor?] at h
  | succ room ih =>
    intro v d h
    cases v with
    | object es =>
      obtain ⟨ps, hhead, hprops, hchildren⟩ := descriptor?_eq_some.1 h
      exact descriptor?_eq_some.2 ⟨_, hhead.merged, (texts_merged ps).trans hprops,
        hchildren.merged ih⟩
    | _ => simp [descriptor?] at h

theorem components?_merged {ds : List Descriptor} (h : components? doc = some ds) :
    components? doc.merged = some ds := by
  obtain ⟨es, items, rfl, hitems, hread⟩ := components?_eq_some.1 h
  refine components?_eq_some.2 ⟨_, mergedItems items, rfl, holds_merged.2 ⟨_, hitems, rfl⟩, ?_⟩
  rw [mapM_eq_some] at hread ⊢
  rw [Json.mergedItems_eq, List.forall₂_map_left_iff]
  exact hread.imp (descriptor?_merged _)

/-! What is reported stays -/

/-- No object of properties has a key twice. -/
def PropertiesOnce (doc : Json) : Prop :=
  ∀ es ps, Within (.object es) doc → ("properties", .object ps) ∈ es → (ps.map Prod.fst).Nodup

theorem propertiesOnce_list {items : List Json} :
    PropertiesOnce (.list items) ↔ ∀ v ∈ items, PropertiesOnce v := by
  constructor
  · exact fun h v hv es ps hes => h es ps (.item hv hes)
  · rintro h es ps (_ | ⟨hv, hes⟩)
    exact h _ hv es ps hes

theorem propertiesOnce_object :
    PropertiesOnce (.object es) ↔
      (∀ ps, ("properties", .object ps) ∈ es → (ps.map Prod.fst).Nodup) ∧
        ∀ e ∈ es, PropertiesOnce e.2 := by
  constructor
  · exact fun h => ⟨fun ps => h es ps (.whole _), fun e he ds ps hds => h ds ps (.entry he hds)⟩
  · rintro ⟨hhere, hbelow⟩ ds ps (_ | _ | ⟨he, hds⟩) hps
    · exact hhere ps hps
    · exact hbelow _ he ds ps hds hps

theorem propertiesOnce_item {key : String} {items : List Json} (h : PropertiesOnce (.object es))
    (hitems : Holds es key (.list items)) (hv : v ∈ items) : PropertiesOnce v :=
  propertiesOnce_list.1 ((propertiesOnce_object.1 h).2 _ hitems.mem) v hv

theorem ofText_merged (v : Json) : ofText v.merged = ofText v := by
  cases v <;> simp [merged, ofText]

theorem ofField_merged {key : String} {check : Json → List Violation}
    (hcheck : ∀ v, Holds es key v → check v.merged = check v) :
    ofField (mergeEntries (mergedEntries es)) key check = ofField es key check := by
  unfold ofField field?
  rw [Json.lastValue?_merged]
  rcases hv : Json.lastValue? key es with - | v
  · rfl
  · simp only [Option.map_some, hcheck v (Json.lastValue?_eq_some.1 hv)]

theorem ofProperties_merged (h : ∀ ps, v = .object ps → (ps.map Prod.fst).Nodup) :
    ofProperties v.merged = ofProperties v := by
  cases v with
  | object ps =>
    have hnodup : ((mergedEntries ps).map Prod.fst).Nodup := by
      simpa [Json.mergedEntries_eq, Function.comp_def] using h ps rfl
    simp only [merged, ofProperties, Json.mergeEntries_of_nodup hnodup]
    simp [Json.mergedEntries_eq, List.flatMap_map, ofText_merged]
  | _ => simp [merged, ofProperties]

theorem ofItems_merged {check : Json → List Violation} (n : Nat) {items : List Json}
    (hcheck : ∀ v ∈ items, check v.merged = check v) :
    ofItems check n (mergedItems items) = ofItems check n items := by
  induction items generalizing n with
  | nil => rfl
  | cons v vs ih =>
    obtain ⟨hv, hvs⟩ := List.forall_mem_cons.1 hcheck
    rw [mergedItems, ofItems, ofItems, hv, ih (n + 1) hvs]

theorem ofChildren_merged {check : Json → List Violation}
    (hcheck : ∀ items v, Holds es "children" (.list items) → v ∈ items → check v.merged = check v) :
    ofChildren check (field? "children" (mergeEntries (mergedEntries es))) =
      ofChildren check (field? "children" es) := by
  unfold field?
  rw [Json.lastValue?_merged]
  rcases hv : Json.lastValue? "children" es with - | v
  · rfl
  · cases v with
    | list items =>
      exact ofItems_merged 0 fun v hmem => hcheck items v (Json.lastValue?_eq_some.1 hv) hmem
    | _ => rfl

theorem ofDescriptor_merged (room : Nat) : ∀ v, PropertiesOnce v →
    ofDescriptor room v.merged = ofDescriptor room v := by
  induction room with
  | zero => exact fun v _ => rfl
  | succ room ih =>
    intro v h
    cases v with
    | object es =>
      have hproperties (v : Json) (hv : Holds es "properties" v) :
          ofProperties v.merged = ofProperties v := by
        refine ofProperties_merged ?_
        rintro ps rfl
        exact h es ps (.whole _) hv.mem
      have hchildren (items : List Json) (v : Json) (hitems : Holds es "children" (.list items))
          (hv : v ∈ items) : ofDescriptor room v.merged = ofDescriptor room v :=
        ih v (propertiesOnce_item h hitems hv)
      simp only [merged, ofDescriptor, ofField_merged fun v _ => ofText_merged v,
        ofField_merged hproperties, ofChildren_merged hchildren]
    | _ => rfl

theorem violations_merged (h : PropertiesOnce doc) : violations doc.merged = violations doc := by
  cases doc with
  | object es =>
    refine ofField_merged fun v hv => ?_
    cases v with
    | list items =>
      exact ofItems_merged 0 fun v hmem => ofDescriptor_merged _ v (propertiesOnce_item h hv hmem)
    | _ => rfl
  | _ => rfl

/-! Texts -/

variable {input : Text.Utf8.Octets} {source : String}

/-- A text that can be read is checked as the value that is read off it. -/
theorem decodeOctets_of_read (hread : Json.read maxContainers input = .ok doc) (source : String) :
    decodeOctets input source = check .written source doc := by
  unfold decodeOctets
  rw [hread]

theorem components?_eq_none : components? doc = none ↔ violations doc ≠ [] := by
  rw [Ne, violations_eq_nil, Option.eq_none_iff_forall_ne_some]
  constructor
  · intro hnone hform
    obtain ⟨ds, hds⟩ := components?_complete hform
    exact hnone ds hds
  · exact fun hform ds hds => hform (components?_sound hds).1

/-- A text that can be read and the value it denotes are decoded alike. What the text gives, the
value gives. Where no object of properties repeats a key, one is refused exactly when the other is,
for the same defects at the same places in the same order; only their wording is that of a written
payload or that of a value. -/
theorem decodeOctets_agrees (hread : Json.read maxContainers input = .ok doc) (source : String) :
    (∀ r, decodeOctets input source = .ok r → decodeDocument doc.merged source = .ok r) ∧
      (PropertiesOnce doc →
        ((∃ e, decodeOctets input source = .error e) ↔
          ∃ e, decodeDocument doc.merged source = .error e) ∧
        ∀ e e', decodeOctets input source = .error e →
          decodeDocument doc.merged source = .error e' →
            (Failure.decode e).kind = "DecodeError" ∧ (Failure.decode e').kind = "DecodeError" ∧
            e.problems.length = e'.problems.length ∧
            ∃ found, e = .mismatch .written found ∧ e' = .mismatch .value found) := by
  refine ⟨fun r hr => ?_, fun honce => ?_⟩
  · rw [decodeOctets_of_read hread, check_eq_ok] at hr
    obtain ⟨hcomponents, hsource⟩ := hr
    exact decodeDocument_eq_ok.2 ⟨components?_merged hcomponents, hsource⟩
  · have hfound := violations_merged honce
    have hnone : components? doc = none ↔ components? doc.merged = none := by
      rw [components?_eq_none, components?_eq_none, hfound]
    simp only [decodeOctets_of_read hread, check_eq_error, decodeDocument_eq_error, exists_and_left,
      exists_eq, and_true]
    refine ⟨hnone, ?_⟩
    rintro e e' ⟨-, rfl⟩ ⟨-, rfl⟩
    rw [hfound]
    refine ⟨rfl, rfl, ?_, _, rfl, rfl⟩
    simp [Rejection.problems]

/-- Two ids, of which the second is no text, and no type. -/
def twoIds : Json :=
  .object [("components", .list [
    .object [("id", .text "a"), ("id", .number "7"), ("properties", .object [("x", .text "y")])]])]

theorem propertiesOnce_twoIds : PropertiesOnce twoIds := by
  have hscalar : PropertiesOnce (.text "a") ∧ PropertiesOnce (.text "y") ∧
      PropertiesOnce (.number "7") := ⟨nofun, nofun, nofun⟩
  simp [twoIds, propertiesOnce_object, propertiesOnce_list, hscalar]

theorem decodeOctets_agrees_twoIds :
    Json.read maxContainers (Text.Utf8.encode twoIds.chars) = .ok twoIds ∧
      PropertiesOnce twoIds ∧
      decodeDocument twoIds.merged "cache" = .error (.mismatch .value
        [⟨[.field "components", .index 0, .field "id"], .notText⟩,
          ⟨[.field "components", .index 0, .field "type"], .missing⟩]) := by
  have hread : Json.read maxContainers (Text.Utf8.encode twoIds.chars) = .ok twoIds := by cbv
  have hwritten : decodeOctets (Text.Utf8.encode twoIds.chars) "cache" = .error (.mismatch .written
      [⟨[.field "components", .index 0, .field "id"], .notText⟩,
        ⟨[.field "components", .index 0, .field "type"], .missing⟩]) := by
    rw [decodeOctets_of_read hread]
    rfl
  obtain ⟨hiff, hsame⟩ := (decodeOctets_agrees hread "cache").2 propertiesOnce_twoIds
  obtain ⟨e, he⟩ := hiff.1 ⟨_, hwritten⟩
  obtain ⟨-, -, -, found, hfound, rfl⟩ := hsame _ _ hwritten he
  cases hfound
  exact ⟨hread, propertiesOnce_twoIds, he⟩

end Payload
end RemoteScreen
