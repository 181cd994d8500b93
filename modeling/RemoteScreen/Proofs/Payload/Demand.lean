import Mathlib.Data.List.Nodup
import RemoteScreen.Proofs.Json.Nesting
import RemoteScreen.Proofs.Payload.Agreement

/-! What a payload is asked for, place by place: which values are looked at and what has to stand
there. Nothing is asked of what lies below a value that is itself at fault. -/
namespace RemoteScreen
namespace Payload

/-! Places in a value -/

/-- The value one step below. -/
def Step.follow? : Step → Json → Option Json
  | .field key, .object es => field? key es
  | .index n, .list items => items[n]?
  | _, _ => none

/-- The value at the end of a path, if the path leads somewhere. -/
def Path.follow? : Path → Json → Option Json
  | [], v => some v
  | s :: p, v => (s.follow? v).bind (Path.follow? p)

@[simp] theorem Path.follow?_nil (v : Json) : Path.follow? [] v = some v := rfl

/-! Demands -/

/-- What has to stand at a place. -/
inductive Demand where
  | response
  | descriptors
  | descriptor
  | text
  | properties
  deriving DecidableEq, Repr

namespace Demand

/-- The defect of a value of the wrong type. -/
def wrongType : Demand → Defect
  | response => .notResponse
  | descriptors => .notList
  | descriptor => .notDescriptor
  | text => .notText
  | properties => .notProperties

/-- What is wrong with a value where it stands, or with there being none. -/
def fault? : Demand → Option Json → Option Defect
  | _, none => some .missing
  | response, some (.object _) => none
  | descriptors, some (.list _) => none
  | descriptor, some (.object _) => none
  | text, some (.text _) => none
  | properties, some (.object _) => none
  | d, some _ => some d.wrongType

end Demand

/-- A place one step below a value, what stands there and what has to. -/
structure Part where
  step : Step
  demand : Demand
  place : Option Json

/-- A field that has to be there. -/
def Part.field (key : String) (d : Demand) (es : List (String × Json)) : Part :=
  ⟨.field key, d, field? key es⟩

def Part.item (v : Json) (n : Nat) : Part := ⟨.index n, .descriptor, some v⟩

def Part.property (e : String × Json) : Part := ⟨.field e.1, .text, some e.2⟩

/-- Children may be absent or null, and then nothing is asked of them. -/
def Part.children (es : List (String × Json)) : List Part :=
  match field? "children" es with
  | none | some .null => []
  | some _ => [.field "children" .descriptors es]

/-- The parts of a value that are looked at, in order. -/
def Demand.parts : Demand → Json → List Part
  | response, .object es => [.field "components" .descriptors es]
  | descriptors, .list items => items.zipIdx.map fun (v, n) => .item v n
  | descriptor, .object es =>
    [.field "id" .text es, .field "type" .text es, .field "properties" .properties es] ++
      Part.children es
  | properties, .object ps => ps.map .property
  | _, _ => []

/-- From a place where `d` is asked, a path leads to a place where `e` is asked, and no value on
the way is at fault. -/
inductive Reaches : Demand → Option Json → Path → Demand → Option Json → Prop where
  | here (d : Demand) (o : Option Json) : Reaches d o [] d o
  | step {d e : Demand} {v : Json} {part : Part} {p : Path} {o : Option Json}
      (sound : d.fault? (some v) = none) (mem : part ∈ d.parts v)
      (rest : Reaches part.demand part.place p e o) : Reaches d (some v) (part.step :: p) e o

/-- Of two paths that part, the first takes the earlier part of the value where they do. -/
inductive Precedes : Demand → Option Json → Path → Path → Prop where
  | parted {d : Demand} {v : Json} {a b : Part} {p q : Path} (order : [a, b].Sublist (d.parts v)) :
      Precedes d (some v) (a.step :: p) (b.step :: q)
  | step {d : Demand} {v : Json} {part : Part} {p q : Path} (mem : part ∈ d.parts v)
      (rest : Precedes part.demand part.place p q) :
      Precedes d (some v) (part.step :: p) (part.step :: q)

/-- The payload is asked for something at the path. -/
def Asked (doc : Json) (p : Path) (d : Demand) : Prop :=
  ∃ o, Reaches .response (some doc) p d o

/-- How many lists a path enters. -/
def Path.depth (p : Path) : Nat := p.countP fun
  | .index _ => true
  | .field _ => false

/-- Every chain of nested descriptors has at most so many of them. -/
def Nests (levels : Nat) (doc : Json) : Prop :=
  ∀ p, Asked doc p .descriptor → p.depth ≤ levels

variable {d e : Demand} {o o' : Option Json} {v w doc : Json} {slot : Part} {p q : Path}
  {es ps : List (String × Json)} {items : List Json} {f : Defect}

/-! Parts -/

@[simp] theorem Demand.fault?_none (d : Demand) : d.fault? none = some .missing := by
  cases d <;> rfl

theorem Demand.eq_wrongType (h : d.fault? (some v) = some f) : f = d.wrongType := by
  cases d <;> cases v <;> first | exact (Option.some.inj h).symm | cases h

theorem Part.mem_children : slot ∈ Part.children es ↔
    slot = .field "children" .descriptors es ∧ field? "children" es ≠ none ∧
      field? "children" es ≠ some .null := by
  unfold Part.children
  rcases field? "children" es with - | v
  · simp
  · cases v <;> simp

theorem Demand.mem_parts_descriptors :
    slot ∈ descriptors.parts (.list items) ↔ ∃ v n, items[n]? = some v ∧ slot = .item v n := by
  simp only [parts, List.mem_map, Prod.exists, List.mem_zipIdx_iff_getElem?, eq_comm]

theorem Demand.mem_parts_descriptor :
    slot ∈ descriptor.parts (.object es) ↔ slot = .field "id" .text es ∨
      slot = .field "type" .text es ∨ slot = .field "properties" .properties es ∨
      slot ∈ Part.children es := by
  simp [parts]

/-! What is asked for is there to be followed -/

/-- No key of properties is there twice, at this place or below. -/
def Once : Demand → Option Json → Prop
  | .text, _ => True
  | .properties, some (.object ps) => (ps.map Prod.fst).Nodup
  | _, some v => PropertiesOnce v
  | _, none => True

theorem PropertiesOnce.field {key : String} (h : PropertiesOnce (.object es))
    (hv : field? key es = some v) : PropertiesOnce v :=
  (propertiesOnce_object.1 h).2 _ (Json.lastValue?_eq_some.1 hv).mem

theorem PropertiesOnce.once_field (h : PropertiesOnce (.object es)) (key : String)
    (hd : d ≠ .properties) : Once d (field? key es) := by
  rcases hv : field? key es with - | v
  · cases d <;> trivial
  · cases d <;> first | exact h.field hv | exact absurd rfl hd | trivial

theorem PropertiesOnce.once_properties (h : PropertiesOnce (.object es)) :
    Once .properties (field? "properties" es) := by
  rcases hv : field? "properties" es with - | v
  · trivial
  · cases v with
    | object ps => exact (propertiesOnce_object.1 h).1 ps (Json.lastValue?_eq_some.1 hv).mem
    | _ => exact h.field hv

theorem Once.of_mem (h : Once d (some v)) (hslot : slot ∈ d.parts v) :
    Once slot.demand slot.place := by
  cases d <;> cases v <;> try exact absurd hslot List.not_mem_nil
  case response.object es =>
    obtain rfl := List.mem_singleton.1 hslot
    exact h.once_field "components" nofun
  case descriptors.list items =>
    obtain ⟨v, n, hv, rfl⟩ := Demand.mem_parts_descriptors.1 hslot
    exact propertiesOnce_list.1 h v (List.mem_of_getElem? hv)
  case descriptor.object es =>
    rcases Demand.mem_parts_descriptor.1 hslot with rfl | rfl | rfl | hchildren
    · exact h.once_field "id" nofun
    · exact h.once_field "type" nofun
    · exact h.once_properties
    · obtain ⟨rfl, -, -⟩ := Part.mem_children.1 hchildren
      exact h.once_field "children" nofun
  case properties.object ps =>
    obtain ⟨entry, -, rfl⟩ := List.mem_map.1 hslot
    trivial

/-- The parts of a value lie in different places. -/
theorem Once.nodup_steps (h : Once d (some v)) : ((d.parts v).map Part.step).Nodup := by
  cases d <;> cases v <;> try exact List.nodup_nil
  case response.object es => exact List.nodup_singleton _
  case descriptors.list items =>
    have hsteps : (Demand.descriptors.parts (.list items)).map Part.step =
        (List.range items.length).map Step.index := by
      rw [Demand.parts, List.map_map, List.range_eq_range', ← List.zipIdx_map_snd, List.map_map]
      rfl
    rw [hsteps]
    exact List.nodup_range.map fun _ _ => Step.index.inj
  case descriptor.object es =>
    rcases hv : field? "children" es with - | v
    · simp [Demand.parts, Part.children, hv, Part.field]
    · cases v <;> simp [Demand.parts, Part.children, hv, Part.field]
  case properties.object ps =>
    have hsteps : (Demand.properties.parts (.object ps)).map Part.step =
        (ps.map Prod.fst).map Step.field := by
      simp [Demand.parts, Part.property]
    rw [hsteps]
    exact List.Nodup.map (fun _ _ => Step.field.inj) h

theorem lastValue?_of_mem {entry : String × Json} (hnodup : (ps.map Prod.fst).Nodup)
    (hmem : entry ∈ ps) : Json.lastValue? entry.1 ps = some entry.2 := by
  obtain ⟨before, after, rfl⟩ := List.append_of_mem hmem
  refine Json.lastValue?_eq_some.2 ⟨before, after, rfl, fun other hother heq => ?_⟩
  rw [List.map_append, List.map_cons] at hnodup
  have hhere := (List.nodup_cons.1 (List.nodup_append.1 hnodup).2.1).1
  exact hhere (heq ▸ List.mem_map_of_mem hother)

theorem Once.follow?_step (h : Once d (some v)) (hslot : slot ∈ d.parts v) :
    slot.step.follow? v = slot.place := by
  cases d <;> cases v <;> try exact absurd hslot List.not_mem_nil
  case response.object es =>
    obtain rfl := List.mem_singleton.1 hslot
    rfl
  case descriptors.list items =>
    obtain ⟨v, n, hv, rfl⟩ := Demand.mem_parts_descriptors.1 hslot
    exact hv
  case descriptor.object es =>
    rcases Demand.mem_parts_descriptor.1 hslot with rfl | rfl | rfl | hchildren
    · rfl
    · rfl
    · rfl
    · obtain ⟨rfl, -, -⟩ := Part.mem_children.1 hchildren
      rfl
  case properties.object ps =>
    obtain ⟨entry, hentry, rfl⟩ := List.mem_map.1 hslot
    exact lastValue?_of_mem h hentry

theorem Reaches.follow? (h : Reaches d (some v) p e o) (honce : Once d (some v)) :
    p.follow? v = o := by
  generalize hplace : some v = place at h honce
  induction h generalizing v with
  | here d o => exact hplace
  | step sound mem rest ih =>
    cases hplace
    rw [Path.follow?, honce.follow?_step mem]
    rcases hslot : Part.place _ with - | w
    · rw [hslot] at rest
      cases rest
      rfl
    · exact ih hslot.symm (honce.of_mem mem)

/-- The order is strict. -/
theorem Precedes.ne (h : Precedes d o p q) (honce : Once d o) : p ≠ q := by
  induction h with
  | parted order =>
    have hsteps := honce.nodup_steps.sublist (order.map Part.step)
    intro heq
    exact (List.nodup_cons.1 hsteps).1 (by simp [(List.cons.inj heq).1])
  | step mem rest ih => exact fun heq => ih (honce.of_mem mem) (List.cons.inj heq).2

theorem Demand.lacks_of_mem (hslot : slot ∈ d.parts v) (hplace : slot.place = none) :
    ∃ key es, slot.step = .field key ∧ v = .object es ∧ Json.Lacks es key := by
  have hfield (key : String) (d : Demand) (es : List (String × Json))
      (hplace : (Part.field key d es).place = none) :
      ∃ key' es', (Part.field key d es).step = .field key' ∧ Json.object es = .object es' ∧
        Json.Lacks es' key' :=
    ⟨key, es, rfl, rfl, Json.lastValue?_eq_none.1 hplace⟩
  cases d <;> cases v <;> try exact absurd hslot List.not_mem_nil
  case response.object es =>
    obtain rfl := List.mem_singleton.1 hslot
    exact hfield _ _ es hplace
  case descriptors.list items =>
    obtain ⟨v, n, hv, rfl⟩ := mem_parts_descriptors.1 hslot
    cases hplace
  case descriptor.object es =>
    rcases mem_parts_descriptor.1 hslot with rfl | rfl | rfl | hchildren
    · exact hfield _ _ es hplace
    · exact hfield _ _ es hplace
    · exact hfield _ _ es hplace
    · obtain ⟨rfl, -, -⟩ := Part.mem_children.1 hchildren
      exact hfield _ _ es hplace
  case properties.object ps =>
    obtain ⟨entry, hentry, rfl⟩ := List.mem_map.1 hslot
    cases hplace

/-- What is missing is a field that its object does not have. -/
theorem Reaches.lacks (h : Reaches d (some v) p e none) (honce : Once d (some v)) :
    ∃ key es, ∃ path : Path, p = path ++ [.field key] ∧ path.follow? v = some (.object es) ∧
      Json.Lacks es key := by
  generalize hplace : some v = place at h honce
  generalize hlast : (none : Option Json) = last at h
  induction h generalizing v with
  | here d o => rw [← hplace] at hlast; cases hlast
  | step sound mem rest ih =>
    cases hplace
    rename_i slot p o
    rcases hslot : slot.place with - | w
    · rw [hslot] at rest
      cases rest
      obtain ⟨key, es, hstep, rfl, hlacks⟩ := Demand.lacks_of_mem mem hslot
      exact ⟨key, es, [], by rw [hstep, List.nil_append], rfl, hlacks⟩
    · obtain ⟨key, es, path, rfl, hpath, hlacks⟩ := ih hslot.symm (honce.of_mem mem) hlast
      refine ⟨key, es, slot.step :: path, rfl, ?_, hlacks⟩
      rw [Path.follow?, honce.follow?_step mem, hslot]
      exact hpath

/-! Nesting -/

theorem Step.nesting_lt {s : Step} (h : s.follow? v = some w) : w.nesting < v.nesting := by
  cases s <;> cases v <;> try cases h
  case field.object key es =>
    exact Json.nestingEntries_le.1 le_rfl _ (Json.lastValue?_eq_some.1 h).mem
  case index.list n items =>
    exact Json.nestingItems_le.1 le_rfl _ (List.mem_of_getElem? h)

theorem Path.nesting_le (h : p.follow? v = some w) : w.nesting + p.length ≤ v.nesting := by
  induction p generalizing v with
  | nil => cases h; exact le_rfl
  | cons s p ih =>
    obtain ⟨u, hu, hw⟩ := Option.bind_eq_some_iff.1 h
    have hstep := Step.nesting_lt hu
    have hrest := ih hw
    rw [List.length_cons]
    omega

theorem Path.depth_le_length (p : Path) : p.depth ≤ p.length := List.countP_le_length

/-- In a value that is not nested deeper than that, descriptors are not either. -/
theorem nests_of_nesting {n : Nat} (honce : PropertiesOnce doc) (h : doc.nesting ≤ n) :
    Nests n doc := by
  rintro p ⟨- | v, hreach⟩
  · obtain ⟨key, es, path, rfl, hpath, -⟩ := hreach.lacks honce
    have hdepth : Path.depth (path ++ [.field key]) = path.depth := by
      simp [Path.depth, List.countP_append]
    have hle := Path.nesting_le hpath
    have hlength := path.depth_le_length
    omega
  · have hle := Path.nesting_le (hreach.follow? honce)
    have hlength := p.depth_le_length
    omega

end Payload
end RemoteScreen
