import RemoteScreen.Proofs.Json.Entries

/-! Merging the repeated keys of a document: every key keeps its value, and where no key is repeated
nothing changes. -/
namespace RemoteScreen
namespace Json

section

variable {α β : Type} {key : String} {es : List (String × α)} {x : α}

theorem putEntry_of_not_mem (h : key ∉ es.map Prod.fst) : putEntry key x es = es ++ [(key, x)] := by
  induction es with
  | nil => rfl
  | cons e es ih =>
    obtain ⟨hne, hnot⟩ := not_or.1 (fun h' => h (List.mem_cons.2 h'))
    simp [putEntry, Ne.symm hne, ih hnot]

theorem mergeEntries_of_nodup (h : (es.map Prod.fst).Nodup) : mergeEntries es = es := by
  induction es using List.reverseRecOn with
  | nil => rfl
  | append_singleton es e ih =>
    rw [List.map_append, List.nodup_append] at h
    obtain ⟨hnodup, -, hdisjoint⟩ := h
    have hnew : e.1 ∉ es.map Prod.fst := fun hmem => hdisjoint _ hmem _ (by simp) rfl
    rw [mergeEntries_concat, ih hnodup, putEntry_of_not_mem hnew]

theorem mergeEntries_mergeEntries (es : List (String × α)) :
    mergeEntries (mergeEntries es) = mergeEntries es :=
  mergeEntries_of_nodup (nodup_keys_mergeEntries es)

theorem putEntry_map (f : α → β) (key : String) (x : α) (es : List (String × α)) :
    putEntry key (f x) (es.map fun e => (e.1, f e.2)) =
      (putEntry key x es).map fun e => (e.1, f e.2) := by
  induction es with
  | nil => rfl
  | cons e es ih =>
    by_cases hkey : e.1 = key
    · simp [putEntry, hkey]
    · simp [putEntry, hkey, ih]

theorem mem_of_mem_putEntry {e : String × α} (h : e ∈ putEntry key x es) :
    e = (key, x) ∨ e ∈ es := by
  induction es with
  | nil => exact .inl (List.mem_singleton.1 h)
  | cons d es ih =>
    unfold putEntry at h
    split at h
    · exact (List.mem_cons.1 h).imp_right (List.mem_cons_of_mem d)
    · rcases List.mem_cons.1 h with rfl | h
      · exact .inr List.mem_cons_self
      · exact (ih h).imp_right (List.mem_cons_of_mem d)

/-- Merging makes up no entry. -/
theorem mem_of_mem_mergeEntries {e : String × α} (h : e ∈ mergeEntries es) : e ∈ es := by
  induction es using List.reverseRecOn with
  | nil => exact h
  | append_singleton es d ih =>
    rw [mergeEntries_concat] at h
    rcases mem_of_mem_putEntry h with rfl | h
    · exact List.mem_append_right es List.mem_cons_self
    · exact List.mem_append_left _ (ih h)

/-- Values may as well be changed after merging. -/
theorem mergeEntries_map (f : α → β) (es : List (String × α)) :
    mergeEntries (es.map fun e => (e.1, f e.2)) = (mergeEntries es).map fun e => (e.1, f e.2) := by
  induction es using List.reverseRecOn with
  | nil => rfl
  | append_singleton es e ih =>
    rw [List.map_append, List.map_singleton, mergeEntries_concat, mergeEntries_concat, ih]
    exact putEntry_map f e.1 e.2 _

theorem holds_mergeEntries : Holds (mergeEntries es) key x ↔ Holds es key x := by
  rw [← lookup_mergeEntries_eq_some, mergeEntries_mergeEntries, lookup_mergeEntries_eq_some]

end

variable {key : String} {es : List (String × Json)} {v : Json}

theorem mergedItems_eq (vs : List Json) : mergedItems vs = vs.map merged := by
  induction vs with
  | nil => rfl
  | cons v vs ih => rw [mergedItems, ih, List.map_cons]

theorem mergedEntries_eq (es : List (String × Json)) :
    mergedEntries es = es.map fun e => (e.1, merged e.2) := by
  induction es with
  | nil => rfl
  | cons e es ih => rw [mergedEntries, ih, List.map_cons]

/-- In the value of an object each key has the value of what it had last. -/
theorem holds_merged :
    Holds (mergeEntries (mergedEntries es)) key v ↔ ∃ w, Holds es key w ∧ merged w = v := by
  rw [holds_mergeEntries, mergedEntries_eq, holds_map]

theorem lastValue?_merged (key : String) (es : List (String × Json)) :
    lastValue? key (mergeEntries (mergedEntries es)) = (lastValue? key es).map merged := by
  ext v
  simp only [lastValue?_eq_some, holds_merged, Option.map_eq_some_iff]

theorem lacks_merged : Lacks (mergeEntries (mergedEntries es)) key ↔ Lacks es key := by
  rw [← lastValue?_eq_none, lastValue?_merged, Option.map_eq_none_iff, lastValue?_eq_none]

/-! Parts of a document -/

/-- A value stands somewhere in a document, or is the whole of it. -/
inductive Within : Json → Json → Prop where
  | whole (v : Json) : Within v v
  | item {v w : Json} {items : List Json} (mem : w ∈ items) (below : Within v w) :
      Within v (.list items)
  | entry {v w : Json} {es : List (String × Json)} {key : String} (mem : (key, w) ∈ es)
      (below : Within v w) : Within v (.object es)

end Json
end RemoteScreen
