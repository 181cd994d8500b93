import RemoteScreen.Proofs.Payload.Demand

/-! The report on a value that is no payload lists every place that does not have what is asked of
it, once and in order, and its text spells out the first three. -/
namespace RemoteScreen
namespace Payload

variable {d e : Demand} {o : Option Json} {v w doc : Json} {slot : Part} {p q : Path}
  {es ps : List (String × Json)} {items : List Json} {f : Defect} {vs : List Violation}
  {check : Json → List Violation} {room : Nat}

/-! Lists of violations -/

/-- Just the defects below a place are listed, and they are listed in order. -/
structure Lists (d : Demand) (o : Option Json) (vs : List Violation) : Prop where
  mem_iff : ∀ v, v ∈ vs ↔ ∃ e o', Reaches d o v.path e o' ∧ e.fault? o' = some v.defect
  ordered : vs.Pairwise fun a b => Precedes d o a.path b.path

/-- Nothing is listed below a value that is itself at fault. -/
theorem lists_here (h : d.fault? o = some f) : Lists d o [Violation.here f] where
  mem_iff := by
    rintro ⟨p, f'⟩
    rw [List.mem_singleton]
    constructor
    · rintro ⟨⟩
      exact ⟨d, o, .here d o, h⟩
    · rintro ⟨e, o', hreach, hfault⟩
      cases hreach with
      | here =>
        cases h.symm.trans hfault
        rfl
      | step sound => exact absurd (sound.symm.trans h) nofun
  ordered := List.pairwise_singleton _ _

/-- The lists of the parts, one after the other, make the list of the whole. -/
theorem lists_parts (found : List (Part × List Violation)) (sound : d.fault? (some v) = none)
    (hparts : d.parts v = found.map Prod.fst)
    (hfound : ∀ x ∈ found, Lists x.1.demand x.1.place x.2) :
    Lists d (some v) (found.flatMap fun x => x.2.map (.under x.1.step)) where
  mem_iff := by
    intro u
    simp only [List.mem_flatMap, List.mem_map]
    constructor
    · rintro ⟨x, hx, u, hu, rfl⟩
      obtain ⟨e, o', hreach, hfault⟩ := ((hfound x hx).mem_iff u).1 hu
      refine ⟨e, o', .step sound ?_ hreach, hfault⟩
      exact hparts ▸ List.mem_map_of_mem hx
    · obtain ⟨path, f⟩ := u
      rintro ⟨e, o', hreach, hfault⟩
      cases hreach with
      | here => exact absurd (sound.symm.trans hfault) nofun
      | step _ mem rest =>
        obtain ⟨x, hx, rfl⟩ := List.mem_map.1 (hparts ▸ mem)
        exact ⟨x, hx, ⟨_, f⟩, ((hfound x hx).mem_iff _).2 ⟨e, o', rest, hfault⟩, rfl⟩
  ordered := by
    refine List.pairwise_flatMap.2 ⟨fun x hx => ?_, List.pairwise_iff_forall_sublist.2 ?_⟩
    · rw [List.pairwise_map]
      refine (hfound x hx).ordered.imp fun h => .step ?_ h
      exact hparts ▸ List.mem_map_of_mem hx
    · intro x y hsub a ha b hb
      obtain ⟨a, -, rfl⟩ := List.mem_map.1 ha
      obtain ⟨b, -, rfl⟩ := List.mem_map.1 hb
      exact .parted (hparts ▸ hsub.map Prod.fst)

/-! What each check lists -/

theorem lists_text : Lists .text (some v) (ofText v) := by
  cases v with
  | text s => exact lists_parts [] rfl rfl nofun
  | _ => exact lists_here rfl

theorem lists_properties : Lists .properties (some v) (ofProperties v) := by
  cases v with
  | object ps =>
    have hwhole := lists_parts (d := .properties) (v := .object ps)
      (ps.map fun e => (.property e, ofText e.2)) rfl (by simp [Demand.parts]) (by
        intro x hx
        obtain ⟨entry, -, rfl⟩ := List.mem_map.1 hx
        exact lists_text)
    rwa [List.flatMap_map] at hwhole
  | _ => exact lists_here rfl

/-- The violations in a field, seen from inside it. -/
def inField (check : Json → List Violation) : Option Json → List Violation
  | none => [Violation.here .missing]
  | some v => check v

theorem ofField_eq (es : List (String × Json)) (key : String) :
    ofField es key check = (inField check (field? key es)).map (.under (.field key)) := by
  unfold ofField inField
  rcases field? key es with - | v <;> rfl

theorem lists_field (h : ∀ v, o = some v → Lists d (some v) (check v)) :
    Lists d o (inField check o) := by
  cases o with
  | none => exact lists_here d.fault?_none
  | some v => exact h v rfl

theorem ofItems_eq (n : Nat) (items : List Json) :
    ofItems check n items =
      (items.zipIdx n).flatMap fun x => (check x.1).map (.under (.index x.2)) := by
  induction items generalizing n with
  | nil => rfl
  | cons v vs ih => rw [ofItems, ih, List.zipIdx_cons, List.flatMap_cons]

/-- The violations in a list of descriptors. -/
def ofList (check : Json → List Violation) : Json → List Violation
  | .list items => ofItems check 0 items
  | _ => [Violation.here .notList]

theorem lists_list
    (h : ∀ items, v = .list items → ∀ w ∈ items, Lists .descriptor (some w) (check w)) :
    Lists .descriptors (some v) (ofList check v) := by
  cases v with
  | list items =>
    have hwhole := lists_parts (d := .descriptors) (v := .list items)
      (items.zipIdx.map fun x => (.item x.1 x.2, check x.1)) rfl
      (by simp [Demand.parts]) (by
        intro x hx
        obtain ⟨⟨w, n⟩, hw, rfl⟩ := List.mem_map.1 hx
        exact h items rfl w (List.mem_of_getElem? (List.mem_zipIdx_iff_getElem?.1 hw)))
    rw [List.flatMap_map] at hwhole
    rw [ofList, ofItems_eq]
    exact hwhole
  | _ => exact lists_here rfl

theorem ofChildren_eq (es : List (String × Json)) :
    (ofChildren check (field? "children" es)).map (Violation.under (.field "children")) =
      (Part.children es).flatMap fun slot =>
        (inField (ofList check) slot.place).map (Violation.under slot.step) := by
  unfold Part.children
  rcases hv : field? "children" es with - | v
  · rfl
  · cases v <;> simp [ofChildren, Part.field, hv, inField, ofList]

theorem lists_object (h : ∀ v, field? "children" es = some v → v ≠ .null →
      Lists .descriptors (some v) (ofList check v)) :
    Lists .descriptor (some (.object es))
      (ofField es "id" ofText ++ ofField es "type" ofText ++
        ofField es "properties" ofProperties ++
        (ofChildren check (field? "children" es)).map (.under (.field "children"))) := by
  have hwhole := lists_parts (d := .descriptor) (v := .object es)
    ([(.field "id" .text es, inField ofText (field? "id" es)),
      (.field "type" .text es, inField ofText (field? "type" es)),
      (.field "properties" .properties es, inField ofProperties (field? "properties" es))] ++
      (Part.children es).map fun slot => (slot, inField (ofList check) slot.place)) rfl
    (by simp [Demand.parts, Function.comp_def]) (by
      intro x hx
      rcases List.mem_append.1 hx with hhead | hchildren
      · simp only [List.mem_cons, List.not_mem_nil, or_false] at hhead
        rcases hhead with rfl | rfl | rfl
        · exact lists_field fun _ _ => lists_text
        · exact lists_field fun _ _ => lists_text
        · exact lists_field fun _ _ => lists_properties
      · obtain ⟨slot, hslot, rfl⟩ := List.mem_map.1 hchildren
        obtain ⟨rfl, -, hnull⟩ := Part.mem_children.1 hslot
        exact lists_field fun v hv => h v hv fun hnil => hnull (hnil ▸ hv))
  rw [List.flatMap_append, List.flatMap_map] at hwhole
  simp only [ofField_eq, ofChildren_eq]
  simpa [List.flatMap_cons, Part.field] using hwhole

/-! Nesting -/

/-- So many more lists may be entered before the last descriptor is reached. -/
def Fits (room : Nat) (d : Demand) (o : Option Json) : Prop :=
  ∀ p o', Reaches d o p .descriptor o' → p.depth ≤ room

@[simp] theorem Path.depth_nil : Path.depth [] = 0 := rfl

@[simp] theorem Path.depth_field (key : String) (p : Path) :
    Path.depth (.field key :: p) = p.depth := by
  simp [Path.depth]

@[simp] theorem Path.depth_index (n : Nat) (p : Path) :
    Path.depth (.index n :: p) = p.depth + 1 := by
  simp [Path.depth]

theorem Fits.field (h : Fits room d (some v)) (key : String) (sound : d.fault? (some v) = none)
    (mem : .field key e es ∈ d.parts v) : Fits room e (field? key es) := by
  intro p o' hreach
  have hdepth := h _ _ (.step sound mem hreach)
  rwa [Part.field, Path.depth_field] at hdepth

theorem Fits.item (h : Fits room .descriptors (some (.list items))) (hw : w ∈ items) :
    ∃ r, room = r + 1 ∧ Fits r .descriptor (some w) := by
  obtain ⟨n, hn⟩ := List.mem_iff_getElem?.1 hw
  have hmem : Part.item w n ∈ Demand.descriptors.parts (.list items) :=
    Demand.mem_parts_descriptors.2 ⟨w, n, hn, rfl⟩
  have hbelow (p : Path) (o' : Option Json)
      (hreach : Reaches .descriptor (some w) p .descriptor o') : p.depth + 1 ≤ room := by
    have hdepth := h _ _ (.step rfl hmem hreach)
    rwa [Part.item, Path.depth_index] at hdepth
  refine ⟨room - 1, ?_, fun p o' hreach => Nat.le_sub_one_of_lt (hbelow p o' hreach)⟩
  have hself := hbelow [] _ (.here _ _)
  omega

theorem Fits.child (h : Fits room .descriptor (some (.object es)))
    (hv : field? "children" es = some (.list items)) (hw : w ∈ items) :
    ∃ r, room = r + 1 ∧ Fits r .descriptor (some w) := by
  have hmem : Part.field "children" .descriptors es ∈ Demand.descriptor.parts (.object es) :=
    Demand.mem_parts_descriptor.2 (.inr (.inr (.inr (Part.mem_children.2
      ⟨rfl, by simp [hv], by simp [hv]⟩))))
  have hlist := h.field "children" rfl hmem
  rw [hv] at hlist
  exact hlist.item hw

theorem lists_level (h : ∀ r w, room = r + 1 → Fits r .descriptor (some w) →
      Lists .descriptor (some w) (ofDescriptor room w))
    (hfits : Fits room .descriptor (some v)) :
    Lists .descriptor (some v) (ofDescriptor (room + 1) v) := by
  cases v with
  | object es =>
    refine lists_object fun v hv hnull => lists_list ?_
    rintro items rfl w hw
    obtain ⟨r, hr, hw⟩ := hfits.child hv hw
    exact h r w hr hw
  | _ => exact lists_here rfl

/-- Where descriptors fit, the bound on their nesting is not noticed. -/
theorem lists_descriptor (h : Fits room .descriptor (some v)) :
    Lists .descriptor (some v) (ofDescriptor (room + 1) v) := by
  induction room generalizing v with
  | zero => exact lists_level (fun r w hr => absurd hr nofun) h
  | succ room ih =>
    refine lists_level (fun r w hr hw => ?_) h
    cases hr
    exact ih hw

theorem lists_response (h : Nests 254 doc) : Lists .response (some doc) (violations doc) := by
  have hfits : Fits 254 .response (some doc) := fun p o' hreach => h p ⟨o', hreach⟩
  cases doc with
  | object es =>
    have hcomponents (v : Json) (hv : field? "components" es = some v) :
        Lists .descriptors (some v) (ofList (ofDescriptor maxNesting) v) := by
      refine lists_list ?_
      rintro items rfl w hw
      have hlist := hfits.field "components" rfl List.mem_cons_self
      rw [hv] at hlist
      obtain ⟨r, hr, hw⟩ := hlist.item hw
      cases hr
      exact lists_descriptor hw
    have hwhole := lists_parts (d := .response) (v := .object es)
      [(.field "components" .descriptors es,
        inField (ofList (ofDescriptor maxNesting)) (field? "components" es))] rfl rfl (by
        intro x hx
        obtain rfl := List.mem_singleton.1 hx
        exact lists_field hcomponents)
    have hsame : ofList (ofDescriptor maxNesting) = ofComponents := by
      funext v
      cases v <;> rfl
    rw [List.flatMap_singleton, hsame] at hwhole
    rw [violations, ofField_eq]
    exact hwhole
  | _ => exact lists_here rfl

/-! The text of a report -/

theorem Asked.text (h : Asked doc p d) :
    p.text = if p = [] then "<root>" else ".".intercalate (p.map Step.text) := by
  have hnonempty (key : String) (p : Path) (hkey : key ≠ "") :
      (".".intercalate ((Step.field key :: p).map Step.text)).isEmpty = false := by
    rw [Bool.eq_false_iff, Ne, String.isEmpty_iff, ← String.toList_eq_nil_iff,
      String.toList_intercalate]
    cases p <;> simp [Step.text, List.intercalate, hkey]
  obtain ⟨o, hreach⟩ := h
  generalize hv : some doc = place at hreach
  cases hreach with
  | here => rfl
  | step sound mem rest =>
    cases hv
    cases doc <;> try exact absurd mem List.not_mem_nil
    obtain rfl := List.mem_singleton.1 mem
    rw [Path.text, if_neg (List.cons_ne_nil _ _)]
    simp only [Part.field, hnonempty "components" _ (by decide)]
    rfl

theorem Asked.message {v : Violation} (h : Asked doc v.path d) :
    v.message .value =
      (if v.path = [] then "<root>" else ".".intercalate (v.path.map Step.text)) ++ ": " ++
        v.defect.message .value := by
  rw [← h.text]
  simp only [Violation.message, toString]

theorem summary_eq (problems : List String) :
    summary problems = "; ".intercalate (problems.take 3 ++
      if 3 < problems.length then ["(+" ++ toString (problems.length - 3) ++ " more)"] else []) := by
  have hmore : problems.length - 3 = 0 ↔ ¬ 3 < problems.length := by omega
  simp only [summary, shownProblems, hmore, ite_not, toString]

theorem Rejection.message_eq (r : Rejection) :
    r.message = "Invalid components payload: " ++ summary r.problems := by
  unfold Rejection.message
  simp only [toString]

theorem Rejection.problems_mismatch (form : Form) (found : List Violation) :
    (Rejection.mismatch form found).problems = found.map (Violation.message form) := rfl

/-- The report on a value that is refused lists the places that lack a field they have to have or
hold a value of the wrong type. Every such place that does not lie below another is listed once, in
depth-first order, and following its path in the value leads to it. The message spells out the first
three and counts the others. -/
theorem report_names_defects (source : String) (honce : PropertiesOnce doc)
    (hnests : Nests 254 doc) {r : Rejection} (hr : decodeDocument doc source = .error r) :
    ∃ found, r = .mismatch .value found ∧ found ≠ [] ∧
      (∀ v, v ∈ found ↔
        ∃ d, Asked doc v.path d ∧ d.fault? (v.path.follow? doc) = some v.defect) ∧
      (∀ v ∈ found,
        (v.defect = .missing ∧ ∃ key es, ∃ parent : Path, v.path = parent ++ [.field key] ∧
          parent.follow? doc = some (.object es) ∧ Json.Lacks es key) ∨
        ∃ d w, Asked doc v.path d ∧ v.path.follow? doc = some w ∧
          d.fault? (some w) = some d.wrongType ∧ v.defect = d.wrongType) ∧
      found.Pairwise (fun a b => Precedes .response (some doc) a.path b.path) ∧
      (found.map Violation.path).Nodup ∧
      (Failure.decode r).kind = "DecodeError" ∧
      (Failure.decode r).message =
        "Invalid components payload: " ++ "; ".intercalate
          ((found.take 3).map (fun v =>
              (if v.path = [] then "<root>" else ".".intercalate (v.path.map Step.text)) ++ ": " ++
                v.defect.message .value) ++
            if 3 < found.length then ["(+" ++ toString (found.length - 3) ++ " more)"] else []) := by
  obtain ⟨hnone, rfl⟩ := decodeDocument_eq_error.1 hr
  have hlists := lists_response hnests
  have hmem (v : Violation) : v ∈ violations doc ↔
      ∃ d, Asked doc v.path d ∧ d.fault? (v.path.follow? doc) = some v.defect := by
    rw [hlists.mem_iff]
    constructor
    · rintro ⟨d, o, hreach, hfault⟩
      exact ⟨d, ⟨o, hreach⟩, hreach.follow? honce ▸ hfault⟩
    · rintro ⟨d, ⟨o, hreach⟩, hfault⟩
      exact ⟨d, o, hreach, hreach.follow? honce ▸ hfault⟩
  refine ⟨violations doc, rfl, components?_eq_none.1 hnone, hmem, ?_, hlists.ordered, ?_, rfl, ?_⟩
  · intro v hv
    obtain ⟨d, - | w, hreach, hfault⟩ := (hlists.mem_iff v).1 hv
    · rw [Demand.fault?_none] at hfault
      exact .inl ⟨(Option.some.inj hfault).symm, hreach.lacks honce⟩
    · have hwrong := Demand.eq_wrongType hfault
      exact .inr ⟨d, w, ⟨_, hreach⟩, hreach.follow? honce, hwrong ▸ hfault, hwrong⟩
  · exact List.pairwise_map.2 (hlists.ordered.imp fun h => h.ne honce)
  · have hshown : ((violations doc).take 3).map (Violation.message .value) =
        ((violations doc).take 3).map fun v =>
          (if v.path = [] then "<root>" else ".".intercalate (v.path.map Step.text)) ++ ": " ++
            v.defect.message .value := by
      refine List.map_congr_left fun v hv => ?_
      obtain ⟨d, hd, -⟩ := (hmem v).1 (List.mem_of_mem_take hv)
      exact hd.message
    rw [← hshown]
    change Rejection.message _ = _
    rw [Rejection.message_eq, Rejection.problems_mismatch, summary_eq, List.length_map,
      List.map_take]

/-- A descriptor with no id and all else of the wrong type. -/
def misshapen : Json :=
  .object [("components", .list [
    .object [("children", .number "3"), ("type", .number "7"),
      ("properties", .object [("b", .null), ("a", .number "1")])]])]

theorem report_names_defects_misshapen :
    PropertiesOnce misshapen ∧ Nests 254 misshapen ∧
      ∃ r, decodeDocument misshapen "cache" = .error r ∧ (Failure.decode r).message =
        "Invalid components payload: components.0.id: Field required; " ++
          "components.0.type: Input should be a valid string; " ++
          "components.0.properties.b: Input should be a valid string; (+2 more)" := by
  have honce : PropertiesOnce misshapen := by
    have hscalar : PropertiesOnce (.number "3") ∧ PropertiesOnce (.number "7") ∧
        PropertiesOnce .null ∧ PropertiesOnce (.number "1") := ⟨nofun, nofun, nofun, nofun⟩
    simp [misshapen, propertiesOnce_object, propertiesOnce_list, hscalar]
  have hnests : Nests 254 misshapen := nests_of_nesting honce (by decide)
  have hr : decodeDocument misshapen "cache" =
      .error (.mismatch .value (violations misshapen)) := rfl
  obtain ⟨found, hfound, -, -, -, -, -, -, hmessage⟩ :=
    report_names_defects "cache" honce hnests hr
  cases hfound
  refine ⟨honce, hnests, _, hr, hmessage.trans ?_⟩
  cbv

end Payload
end RemoteScreen
