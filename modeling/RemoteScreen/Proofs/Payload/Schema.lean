import Mathlib.Data.List.Forall2
import RemoteScreen.Payload.Schema
import RemoteScreen.Proofs.Json.Entries

/-! The wire form as a predicate on JSON values, and what such a value says. Exactly the values of
the wire form are read, and what is read is what the value says. -/
namespace RemoteScreen
namespace Payload

open Json (Holds Lacks lastValue?_eq_some lastValue?_eq_none mergeEntries)

/-- Texts under "id" and "type", and an object of texts under "properties". -/
structure Headed (es : List (String × Json)) (id type : String) (ps : List (String × Json)) :
    Prop where
  id : Holds es "id" (.text id)
  type : Holds es "type" (.text type)
  properties : Holds es "properties" (.object ps)
  texts : ∀ e ∈ ps, ∃ s, e.2 = .text s

/-- A descriptor in its wire form, nested at most so many levels deep. -/
def IsDescriptor : (levels : Nat) → Json → Prop
  | 0, _ => False
  | levels + 1, v => ∃ es, v = .object es ∧ (∃ id type ps, Headed es id type ps) ∧
    (Lacks es "children" ∨ Holds es "children" .null ∨
      ∃ items, Holds es "children" (.list items) ∧ ∀ item ∈ items, IsDescriptor levels item)

/-- A property map has the texts of an object, each key once, and nothing else. -/
structure SameTexts (ps : List (String × Json)) (props : Properties) : Prop where
  once : (props.map Prod.fst).Nodup
  lookup : ∀ key t, props.lookup key = some t ↔ ∃ s, t = some s ∧ Holds ps key (.text s)

/-- A value and the tree it describes, node for node. -/
inductive Describes : Json → Descriptor → Prop where
  | childless {es id type ps props} (head : Headed es id type ps) (texts : SameTexts ps props)
      (children : Lacks es "children" ∨ Holds es "children" .null) :
      Describes (.object es) ⟨id, type, props, none⟩
  | parent {es id type ps props items ds} (head : Headed es id type ps)
      (texts : SameTexts ps props) (children : Holds es "children" (.list items))
      (below : List.Forall₂ Describes items ds) :
      Describes (.object es) ⟨id, type, props, some ds⟩

/-! Lists of values -/

section

variable {α β : Type} {f : α → Option β}

theorem mapM_eq_some {xs : List α} {ys : List β} :
    xs.mapM f = some ys ↔ List.Forall₂ (fun x y => f x = some y) xs ys := by
  induction xs generalizing ys with
  | nil => simp [eq_comm]
  | cons x xs ih =>
    rw [List.forall₂_cons_left_iff]
    simp only [List.mapM_cons, Option.bind_eq_bind, Option.bind_eq_some_iff, ih]
    constructor
    · rintro ⟨y, hy, ys, hys, h⟩
      exact ⟨y, ys, hy, hys, (Option.some.inj h).symm⟩
    · rintro ⟨y, ys, hy, hys, rfl⟩
      exact ⟨y, hy, ys, hys, rfl⟩

/-- A list is read as a whole or not at all. -/
theorem exists_mapM_eq_some {xs : List α} :
    (∃ ys, xs.mapM f = some ys) ↔ ∀ x ∈ xs, ∃ y, f x = some y := by
  induction xs with
  | nil => simp
  | cons x xs ih =>
    simp only [mapM_eq_some] at ih ⊢
    simp only [List.forall₂_cons_left_iff, List.mem_cons, forall_eq_or_imp, ← ih]
    constructor
    · rintro ⟨-, y, ys, hy, hys, -⟩
      exact ⟨⟨y, hy⟩, ys, hys⟩
    · rintro ⟨⟨y, hy⟩, ys, hys⟩
      exact ⟨y :: ys, y, ys, hy, hys, rfl⟩

end

/-! Fields -/

variable {es ps : List (String × Json)} {room : Nat} {v : Json} {d : Descriptor}

theorem text?_eq_some {s : String} : text? v = some s ↔ v = .text s := by
  cases v <;> simp [text?]

theorem textField?_eq_some {key s : String} :
    textField? key es = some s ↔ Holds es key (.text s) := by
  simp only [textField?, field?, Option.bind_eq_some_iff, lastValue?_eq_some, text?_eq_some]
  exact ⟨fun ⟨_, h, hv⟩ => hv ▸ h, fun h => ⟨_, h, rfl⟩⟩

theorem property?_eq_some {e : String × Json} {q : String × Option String} :
    property? e = some q ↔ (∃ s, e.2 = .text s) ∧ (e.1, text? e.2) = q := by
  obtain ⟨key, v⟩ := e
  cases v <;> simp [property?, text?]

/-- The properties that are read off the entries of an object. -/
def texts (ps : List (String × Json)) : Properties :=
  mergeEntries (ps.map fun e => (e.1, text? e.2))

theorem properties?_object_eq_some {props : Properties} :
    properties? (.object ps) = some props ↔ (∀ e ∈ ps, ∃ s, e.2 = .text s) ∧ texts ps = props := by
  have hread (qs : Properties) : ps.mapM property? = some qs ↔
      (∀ e ∈ ps, ∃ s, e.2 = .text s) ∧ ps.map (fun e => (e.1, text? e.2)) = qs := by
    rw [mapM_eq_some]
    simp only [property?_eq_some, List.forall₂_and_left]
    rw [← List.forall₂_eq_eq_eq, List.forall₂_map_left_iff]
  simp only [properties?, Option.map_eq_some_iff, hread]
  constructor
  · rintro ⟨qs, ⟨htexts, rfl⟩, rfl⟩
    exact ⟨htexts, rfl⟩
  · rintro ⟨htexts, rfl⟩
    exact ⟨_, ⟨htexts, rfl⟩, rfl⟩

theorem properties?_eq_some {props : Properties} :
    properties? v = some props ↔
      ∃ ps, v = .object ps ∧ (∀ e ∈ ps, ∃ s, e.2 = .text s) ∧ texts ps = props := by
  cases v with
  | object ps => simp [properties?_object_eq_some]
  | _ => simp [properties?]

theorem sameTexts (h : ∀ e ∈ ps, ∃ s, e.2 = .text s) : SameTexts ps (texts ps) where
  once := Json.nodup_keys_mergeEntries _
  lookup := by
    intro key t
    rw [texts, Json.lookup_mergeEntries_eq_some, Json.holds_map]
    constructor
    · rintro ⟨v, hv, rfl⟩
      obtain ⟨s, rfl⟩ := h _ hv.mem
      exact ⟨s, rfl, hv⟩
    · rintro ⟨s, rfl, hs⟩
      exact ⟨_, hs, rfl⟩

/-! Descriptors -/

def children? (read : Json → Option Descriptor) : Option Json → Option (Option (List Descriptor))
  | none => some none
  | some .null => some none
  | some (.list items) => (items.mapM read).map some
  | some _ => none

/-- What children are read as. -/
def ChildrenRead (es : List (String × Json)) (read : Json → Option Descriptor) :
    Option (List Descriptor) → Prop
  | none => Lacks es "children" ∨ Holds es "children" .null
  | some ds => ∃ items, Holds es "children" (.list items) ∧ items.mapM read = some ds

theorem children?_eq_some {read : Json → Option Descriptor} {cs : Option (List Descriptor)} :
    children? read (Json.lastValue? "children" es) = some cs ↔ ChildrenRead es read cs := by
  rcases cs with - | ds <;>
    simp only [ChildrenRead, ← lastValue?_eq_none, ← lastValue?_eq_some] <;>
    rcases Json.lastValue? "children" es with - | v <;> try cases v
  all_goals simp [children?]

theorem descriptor?_object :
    descriptor? (room + 1) (.object es) = (do
      let id ← textField? "id" es
      let type ← textField? "type" es
      let properties ← (field? "properties" es).bind properties?
      let children ← children? (descriptor? room) (field? "children" es)
      some ⟨id, type, properties, children⟩) := by
  rw [descriptor?]
  rcases field? "children" es with - | v
  · rfl
  · cases v <;> rfl

theorem descriptor?_eq_some :
    descriptor? (room + 1) (.object es) = some d ↔ ∃ ps, Headed es d.id d.type ps ∧
      texts ps = d.properties ∧ ChildrenRead es (descriptor? room) d.children := by
  obtain ⟨id, type, props, cs⟩ := d
  simp only [descriptor?_object, Option.bind_eq_bind, Option.bind_eq_some_iff, textField?_eq_some,
    properties?_eq_some, field?, lastValue?_eq_some, children?_eq_some]
  constructor
  · rintro ⟨_, hid, _, htype, _, ⟨_, hps, ps, rfl, htexts, rfl⟩, _, hcs, h⟩
    cases h
    exact ⟨ps, ⟨hid, htype, hps, htexts⟩, rfl, hcs⟩
  · rintro ⟨ps, ⟨hid, htype, hps, htexts⟩, rfl, hcs⟩
    exact ⟨id, hid, type, htype, _, ⟨_, hps, ps, rfl, htexts, rfl⟩, cs, hcs, rfl⟩

/-- Whatever is read has the wire form, and says what was read. -/
theorem descriptor?_sound (room : Nat) : ∀ {v : Json} {d : Descriptor},
    descriptor? room v = some d → IsDescriptor room v ∧ Describes v d := by
  induction room with
  | zero => exact fun h => by simp [descriptor?] at h
  | succ room ih =>
    intro v d h
    cases v with
    | object es =>
      obtain ⟨ps, hhead, hprops, hchildren⟩ := descriptor?_eq_some.1 h
      have htexts : SameTexts ps d.properties := hprops ▸ sameTexts hhead.texts
      obtain ⟨id, type, props, - | ds⟩ := d
      · refine ⟨⟨es, rfl, ⟨id, type, ps, hhead⟩, ?_⟩, .childless hhead htexts hchildren⟩
        exact hchildren.imp_right Or.inl
      · obtain ⟨items, hitems, hread⟩ := hchildren
        have hbelow := mapM_eq_some.1 hread
        obtain ⟨hform, hmeans⟩ :=
          (List.forall₂_and_left _ _).1 (hbelow.imp fun _ _ hitem => ih hitem)
        refine ⟨⟨es, rfl, ⟨id, type, ps, hhead⟩, ?_⟩, .parent hhead htexts hitems hmeans⟩
        exact .inr (.inr ⟨items, hitems, hform⟩)
    | _ => simp [descriptor?] at h

/-- Whatever has the wire form is read. -/
theorem descriptor?_complete {room : Nat} : ∀ {v : Json}, IsDescriptor room v →
    ∃ d, descriptor? room v = some d := by
  induction room with
  | zero => exact fun h => h.elim
  | succ room ih =>
    rintro v ⟨es, rfl, ⟨id, type, ps, hhead⟩, hchildren⟩
    have hread : ∃ cs, ChildrenRead es (descriptor? room) cs := by
      rcases hchildren with hlacks | hnull | ⟨items, hitems, hform⟩
      · exact ⟨none, .inl hlacks⟩
      · exact ⟨none, .inr hnull⟩
      · obtain ⟨ds, hds⟩ := exists_mapM_eq_some.2 fun item hitem => ih (hform item hitem)
        exact ⟨some ds, items, hitems, hds⟩
    obtain ⟨cs, hcs⟩ := hread
    exact ⟨⟨id, type, texts ps, cs⟩, descriptor?_eq_some.2 ⟨ps, hhead, rfl, hcs⟩⟩

/-! Responses -/

/-- A response in its wire form. -/
def IsResponse (doc : Json) : Prop :=
  ∃ es items, doc = .object es ∧ Holds es "components" (.list items) ∧
    ∀ item ∈ items, IsDescriptor 254 item

/-- A value and the forest it describes. -/
def DescribesForest (doc : Json) (ds : List Descriptor) : Prop :=
  ∃ es items, doc = .object es ∧ Holds es "components" (.list items) ∧
    List.Forall₂ Describes items ds

theorem components?_eq_some {doc : Json} {ds : List Descriptor} :
    components? doc = some ds ↔ ∃ es items, doc = .object es ∧
      Holds es "components" (.list items) ∧ items.mapM (descriptor? 254) = some ds := by
  cases doc with
  | object es =>
    simp only [components?, field?, ← lastValue?_eq_some, maxNesting, Json.object.injEq,
      exists_and_left, exists_eq_left']
    rcases Json.lastValue? "components" es with - | v <;> try cases v
    all_goals simp
  | _ => simp [components?]

theorem components?_sound {doc : Json} {ds : List Descriptor} (h : components? doc = some ds) :
    IsResponse doc ∧ DescribesForest doc ds := by
  obtain ⟨es, items, rfl, hitems, hread⟩ := components?_eq_some.1 h
  have hsound := (mapM_eq_some.1 hread).imp fun _ _ hitem => descriptor?_sound 254 hitem
  obtain ⟨hform, hmeans⟩ := (List.forall₂_and_left _ _).1 hsound
  exact ⟨⟨es, items, rfl, hitems, hform⟩, es, items, rfl, hitems, hmeans⟩

theorem components?_complete {doc : Json} (h : IsResponse doc) :
    ∃ ds, components? doc = some ds := by
  obtain ⟨es, items, rfl, hitems, hform⟩ := h
  obtain ⟨ds, hread⟩ := exists_mapM_eq_some.2 fun item hitem =>
    descriptor?_complete (hform item hitem)
  exact ⟨ds, components?_eq_some.2 ⟨es, items, rfl, hitems, hread⟩⟩

end Payload
end RemoteScreen
