import RemoteScreen.Document.Descriptor
import RemoteScreen.Proofs.Json.Printed
import RemoteScreen.Proofs.Payload.Truncation

/-! Decoding undoes writing. A forest that is written down is decoded to itself, however its texts
are escaped and wherever white space stands, unless it has too many levels; then nothing is decoded.
-/
namespace RemoteScreen

namespace Descriptor

/-- Every property has a text, and no key is there twice, in all of the tree. -/
inductive Wired : Descriptor → Prop where
  | mk {d : Descriptor} (once : (d.properties.map Prod.fst).Nodup)
      (texts : ∀ e ∈ d.properties, ∃ s, e.2 = some s)
      (below : ∀ ds, d.children = some ds → ∀ c ∈ ds, Wired c) : Wired d

mutual

/-- The number of descriptors from the root to the deepest one. -/
def levels : Descriptor → Nat
  | ⟨_, _, _, cs⟩ => levelsChildren cs + 1

def levelsChildren : Option (List Descriptor) → Nat
  | none => 0
  | some ds => levelsList ds

def levelsList : List Descriptor → Nat
  | [] => 0
  | d :: ds => max (levels d) (levelsList ds)

end

theorem levelsList_le {ds : List Descriptor} {n : Nat} :
    levelsList ds ≤ n ↔ ∀ d ∈ ds, levels d ≤ n := by
  induction ds with
  | nil => simp [levelsList]
  | cons d ds ih => rw [levelsList, Nat.max_le, ih, List.forall_mem_cons]

theorem documents_eq (ds : List Descriptor) : documents ds = ds.map toDocument := by
  induction ds with
  | nil => rfl
  | cons d ds ih => rw [documents, ih, List.map_cons]

/-! A level is two containers, an object and the list that it stands in. -/

theorem nesting_properties (ps : Properties) : ps.toDocument.nesting ≤ 1 := by
  rw [Properties.toDocument, Json.nesting, Json.nestingEntries_le]
  intro e he
  obtain ⟨⟨key, value⟩, -, rfl⟩ := List.mem_map.1 he
  cases value <;> exact Nat.le_refl 1

mutual

theorem nesting_toDocument : ∀ d : Descriptor,
    2 * d.levels ≤ d.toDocument.nesting + 1 ∧ d.toDocument.nesting ≤ 2 * d.levels
  | ⟨id, type, ps, cs⟩ => by
    have hps := nesting_properties ps
    have hcs := nesting_childrenDocument cs
    simp only [toDocument, levels, Json.nesting, Json.nestingEntries]
    omega

theorem nesting_childrenDocument : ∀ cs : Option (List Descriptor),
    2 * levelsChildren cs ≤ (childrenDocument cs).nesting ∧
      (childrenDocument cs).nesting ≤ 2 * levelsChildren cs + 1
  | none => by simp [childrenDocument, levelsChildren, Json.nesting]
  | some ds => by
    have hds := nestingItems_documents ds
    simpa only [childrenDocument, levelsChildren, Json.nesting] using hds

theorem nestingItems_documents : ∀ ds : List Descriptor,
    2 * levelsList ds ≤ Json.nestingItems (documents ds) ∧
      Json.nestingItems (documents ds) ≤ 2 * levelsList ds + 1
  | [] => by simp [documents, levelsList, Json.nestingItems]
  | d :: ds => by
    have hd := nesting_toDocument d
    have hds := nestingItems_documents ds
    simp only [documents, levelsList, Json.nestingItems]
    omega

end

end Descriptor

namespace Payload

open Json (Holds)

/-- A forest in its wire form. -/
def document (ds : List Descriptor) : Json :=
  .object [("components", .list (Descriptor.documents ds))]

theorem nesting_document (ds : List Descriptor) :
    (document ds).nesting ≤ maxContainers ↔ Descriptor.levelsList ds ≤ 99 := by
  have hds := Descriptor.nestingItems_documents ds
  simp only [document, Json.nesting, Json.nestingEntries, maxContainers]
  omega

/-- The entries of a property map. -/
def entriesOf (ps : Properties) : List (String × Json) :=
  ps.map fun e => (e.1, Json.optional .text e.2)

theorem texts_entriesOf {ps : Properties} (hnodup : (ps.map Prod.fst).Nodup)
    (htexts : ∀ e ∈ ps, ∃ s, e.2 = some s) : texts (entriesOf ps) = ps := by
  have hsame : (entriesOf ps).map (fun e => (e.1, text? e.2)) = ps.map id := by
    rw [entriesOf, List.map_map]
    refine List.map_congr_left ?_
    rintro ⟨key, value⟩ he
    obtain ⟨s, rfl⟩ := htexts _ he
    rfl
  rw [texts, hsame, List.map_id, Json.mergeEntries_of_nodup hnodup]

theorem headed_document {id type : String} {ps : Properties} {children : Json}
    (htexts : ∀ e ∈ ps, ∃ s, e.2 = some s) :
    Headed [("id", .text id), ("type", .text type), ("properties", ps.toDocument),
      ("children", children)] id type (entriesOf ps) where
  id := Json.lastValue?_eq_some.1 rfl
  type := Json.lastValue?_eq_some.1 rfl
  properties := Json.lastValue?_eq_some.1 rfl
  texts := by
    intro e he
    obtain ⟨p, hp, rfl⟩ := List.mem_map.1 he
    obtain ⟨s, hs⟩ := htexts p hp
    exact ⟨s, by rw [hs]; rfl⟩

theorem descriptor?_document {room : Nat} {d : Descriptor} (hwired : d.Wired)
    (hlevels : d.levels ≤ room) : descriptor? room d.toDocument = some d := by
  induction hwired generalizing room with
  | @mk d hnodup htexts _ ih =>
    obtain ⟨id, type, ps, cs⟩ := d
    rw [Descriptor.levels] at hlevels
    obtain ⟨room, rfl⟩ : ∃ n, room = n + 1 := ⟨room - 1, by omega⟩
    have hbelow : Descriptor.levelsChildren cs ≤ room := Nat.le_of_succ_le_succ hlevels
    rw [Descriptor.toDocument]
    refine descriptor?_eq_some.2 ⟨_, headed_document htexts, texts_entriesOf hnodup htexts, ?_⟩
    cases cs with
    | none => exact .inr (Json.lastValue?_eq_some.1 rfl)
    | some ds =>
      refine ⟨Descriptor.documents ds, Json.lastValue?_eq_some.1 rfl, ?_⟩
      rw [mapM_eq_some, Descriptor.documents_eq, List.forall₂_map_left_iff, List.forall₂_same]
      exact fun d hd => ih ds rfl d hd (Descriptor.levelsList_le.1 hbelow d hd)

theorem components?_document {ds : List Descriptor} (hwired : ∀ d ∈ ds, d.Wired)
    (hlevels : Descriptor.levelsList ds ≤ 254) : components? (document ds) = some ds := by
  refine components?_eq_some.2 ⟨_, Descriptor.documents ds, rfl, Json.lastValue?_eq_some.1 rfl, ?_⟩
  rw [mapM_eq_some, Descriptor.documents_eq, List.forall₂_map_left_iff, List.forall₂_same]
  exact fun d hd => descriptor?_document (hwired d hd) (Descriptor.levelsList_le.1 hlevels d hd)

/-! A forest as it is printed -/

theorem textual_toDocument {d : Descriptor} (hwired : d.Wired) : d.toDocument.Textual := by
  induction hwired with
  | @mk d _ htexts _ ih =>
    obtain ⟨id, type, ps, cs⟩ := d
    have hps : ps.toDocument.Textual := by
      refine .object fun e he => ?_
      obtain ⟨p, hp, rfl⟩ := List.mem_map.1 he
      obtain ⟨s, hs⟩ := htexts p hp
      rw [hs]
      exact .text s
    have hcs : (Descriptor.childrenDocument cs).Textual := by
      cases cs with
      | none => exact .null
      | some ds =>
        refine .list fun v hv => ?_
        rw [Descriptor.documents_eq] at hv
        obtain ⟨d, hd, rfl⟩ := List.mem_map.1 hv
        exact ih ds rfl d hd
    rw [Descriptor.toDocument]
    refine .object fun e he => ?_
    simp only [List.mem_cons, List.not_mem_nil, or_false] at he
    rcases he with rfl | rfl | rfl | rfl
    · exact .text id
    · exact .text type
    · exact hps
    · exact hcs

theorem textual_document {ds : List Descriptor} (hwired : ∀ d ∈ ds, d.Wired) :
    (document ds).Textual := by
  refine .object fun e he => ?_
  obtain rfl := List.mem_singleton.1 he
  refine .list fun v hv => ?_
  rw [Descriptor.documents_eq] at hv
  obtain ⟨d, hd, rfl⟩ := List.mem_map.1 hv
  exact textual_toDocument (hwired d hd)

/-- A forest that has been written down, whatever way, is decoded to exactly that forest where no
descriptor is on a level below the 99th. If one is, nothing is decoded. The compact text is one of
the ways. -/
theorem decodeOctets_document (ds : List Descriptor) (hwired : ∀ d ∈ ds, d.Wired)
    (source : String) :
    Json.SpellsDocument (document ds) (Text.Utf8.encode (document ds).print.toList) ∧
      ∀ input, Json.SpellsDocument (document ds) input →
        (Descriptor.levelsList ds ≤ 99 → decodeOctets input source = .ok ⟨ds, source⟩) ∧
        (100 ≤ Descriptor.levelsList ds → ∃ e, decodeOctets input source = .error e ∧
          (Failure.decode e).kind = "DecodeError") := by
  refine ⟨?_, fun input hinput => ⟨fun hlevels => ?_, fun hlevels => ?_⟩⟩
  · rw [Json.print, String.toList_ofList]
    exact (textual_document hwired).spellsDocument
  · have hread : Json.read maxContainers input = .ok (document ds) :=
      (Json.read_spelled hinput).2 ⟨rfl, (nesting_document ds).2 hlevels⟩
    rw [decodeOctets_of_read hread, check_eq_ok]
    exact ⟨components?_document hwired (by omega), rfl⟩
  · rcases hread : decodeOctets input source with e | r
    · exact ⟨e, rfl, rfl⟩
    · obtain ⟨doc, hdoc, hcheck⟩ := decodeOctets_eq_ok.1 hread
      obtain ⟨es, items, rfl, -⟩ := components?_eq_some.1 (check_eq_ok.1 hcheck).1
      obtain ⟨-, hroom⟩ := (Json.read_spelled hinput).1 hdoc
      have hshallow := (nesting_document ds).1 hroom
      omega

/-- So many levels of boxes around one leaf. -/
def tower : Nat → Descriptor
  | 0 => ⟨"leaf", "stat_card", [("title", some "\"a\\\n\u00e9")], none⟩
  | n + 1 => ⟨"box", "carousel", [], some [tower n]⟩

theorem tower_wired (n : Nat) : (tower n).Wired := by
  induction n with
  | zero => exact .mk (by simp [tower]) (by simp [tower]) (by simp [tower])
  | succ n ih => exact .mk (by simp [tower]) (by simp [tower]) (by simpa [tower] using ih)

theorem levels_tower (n : Nat) : (tower n).levels = n + 1 := by
  induction n with
  | zero => rfl
  | succ n ih =>
    simp only [tower, Descriptor.levels, Descriptor.levelsChildren, Descriptor.levelsList, ih]
    omega

theorem decodeOctets_document_tower :
    (∀ d ∈ [tower 98], d.Wired) ∧ (∀ d ∈ [tower 99], d.Wired) ∧
      decodeText (document [tower 98]).print "cache" = .ok ⟨[tower 98], "cache"⟩ ∧
      ∃ e, decodeText (document [tower 99]).print "cache" = .error e := by
  have hwired (n : Nat) : ∀ d ∈ [tower n], d.Wired := by simpa using tower_wired n
  have hlevels (n : Nat) : Descriptor.levelsList [tower n] = n + 1 := by
    simp [Descriptor.levelsList, levels_tower]
  obtain ⟨hprint, hread⟩ := decodeOctets_document [tower 98] (hwired 98) "cache"
  obtain ⟨hprint', hrefuse⟩ := decodeOctets_document [tower 99] (hwired 99) "cache"
  obtain ⟨e, he, -⟩ := (hrefuse _ hprint').2 (Nat.le_of_eq (hlevels 99).symm)
  exact ⟨hwired 98, hwired 99, (hread _ hprint).1 (Nat.le_of_eq (hlevels 98)), e, he⟩

end Payload
end RemoteScreen
