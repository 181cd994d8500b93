import Mathlib.Data.List.Induction
import Mathlib.Data.List.Nodup
import RemoteScreen.Json.Basic

/-! The entries of an object: under a repeated key the last entry counts. -/
namespace RemoteScreen
namespace Json

variable {α : Type} {key k : String} {es : List (String × α)} {e : String × α} {x : α}

/-- No entry has the key. -/
def Lacks (es : List (String × α)) (key : String) : Prop := ∀ e ∈ es, e.1 ≠ key

/-- The last entry under the key has the value. -/
def Holds (es : List (String × α)) (key : String) (x : α) : Prop :=
  ∃ before after, es = before ++ (key, x) :: after ∧ Lacks after key

theorem lacks_nil (key : String) : Lacks ([] : List (String × α)) key :=
  fun _ h => absurd h List.not_mem_nil

theorem lacks_concat : Lacks (es ++ [e]) key ↔ Lacks es key ∧ e.1 ≠ key := by
  simp only [Lacks, List.mem_append, List.mem_singleton]
  constructor
  · exact fun h => ⟨fun d hd => h d (.inl hd), h e (.inr rfl)⟩
  · rintro ⟨h, he⟩ d (hd | rfl)
    · exact h d hd
    · exact he

theorem not_holds_nil : ¬ Holds ([] : List (String × α)) key x := by
  rintro ⟨before, after, h, -⟩
  simp at h

theorem holds_concat_self (es : List (String × α)) (key : String) (x : α) :
    Holds (es ++ [(key, x)]) key x := ⟨es, [], rfl, lacks_nil key⟩

/-- An entry at the end decides about its own key and about no other. -/
theorem holds_concat :
    Holds (es ++ [e]) key x ↔ if e.1 = key then e.2 = x else Holds es key x := by
  constructor
  · rintro ⟨before, after, h, hlacks⟩
    rcases List.eq_nil_or_concat after with rfl | ⟨after, d, rfl⟩
    · obtain ⟨-, hlast⟩ := List.append_inj' h rfl
      obtain rfl := List.singleton_inj.1 hlast
      simp
    · rw [List.concat_eq_append, ← List.cons_append, ← List.append_assoc] at h
      obtain ⟨rfl, hlast⟩ := List.append_inj' h rfl
      obtain rfl := List.singleton_inj.1 hlast
      rw [List.concat_eq_append] at hlacks
      obtain ⟨hlacks, hne⟩ := lacks_concat.1 hlacks
      rw [if_neg hne]
      exact ⟨before, after, rfl, hlacks⟩
  · intro h
    split at h
    case isTrue hkey =>
      obtain ⟨l, y⟩ := e
      subst hkey h
      exact holds_concat_self es l y
    case isFalse hne =>
      obtain ⟨before, after, rfl, hlacks⟩ := h
      refine ⟨before, after ++ [e], by simp, lacks_concat.2 ⟨hlacks, hne⟩⟩

theorem holds_map {β : Type} {f : α → β} {y : β} :
    Holds (es.map fun e => (e.1, f e.2)) key y ↔ ∃ x, Holds es key x ∧ f x = y := by
  induction es using List.reverseRecOn with
  | nil => simp [not_holds_nil]
  | append_singleton es e ih =>
    simp only [List.map_append, List.map_cons, List.map_nil, holds_concat]
    split
    · simp
    · exact ih

theorem Holds.mem (h : Holds es key x) : (key, x) ∈ es := by
  obtain ⟨before, after, rfl, -⟩ := h
  simp

/-! Look-up -/

theorem lastValue?_concat (key : String) (es : List (String × Json)) (e : String × Json) :
    lastValue? key (es ++ [e]) = if e.1 = key then some e.2 else lastValue? key es := by
  simp [lastValue?, List.foldl_append]

theorem lastValue?_eq_some {es : List (String × Json)} {v : Json} :
    lastValue? key es = some v ↔ Holds es key v := by
  induction es using List.reverseRecOn with
  | nil => simpa using not_holds_nil
  | append_singleton es e ih =>
    rw [lastValue?_concat, holds_concat]
    split
    · exact Option.some_inj
    · exact ih

theorem lastValue?_eq_none {es : List (String × Json)} :
    lastValue? key es = none ↔ Lacks es key := by
  induction es using List.reverseRecOn with
  | nil => simpa using lacks_nil key
  | append_singleton es e ih =>
    rw [lastValue?_concat, lacks_concat]
    split
    case isTrue hkey => simp [hkey]
    case isFalse hne => simp [ih, hne]

/-! Merging -/

theorem mergeEntries_concat (es : List (String × α)) (e : String × α) :
    mergeEntries (es ++ [e]) = putEntry e.1 e.2 (mergeEntries es) := by
  simp [mergeEntries, List.foldl_append]

theorem lookup_mergeEntries_eq_some :
    (mergeEntries es).lookup key = some x ↔ Holds es key x := by
  induction es using List.reverseRecOn with
  | nil => simpa using not_holds_nil
  | append_singleton es e ih =>
    rw [mergeEntries_concat, lookup_putEntry, holds_concat]
    by_cases hkey : e.1 = key
    · simp [hkey]
    · rw [if_neg hkey, if_neg (Ne.symm hkey)]
      exact ih

theorem keys_putEntry (key : String) (x : α) (es : List (String × α)) :
    (putEntry key x es).map Prod.fst =
      if key ∈ es.map Prod.fst then es.map Prod.fst else es.map Prod.fst ++ [key] := by
  induction es with
  | nil => rfl
  | cons e es ih =>
    by_cases hkey : e.1 = key
    · simp [putEntry, hkey]
    · have hne : ¬ key = e.1 := Ne.symm hkey
      simp only [putEntry, if_neg hkey, List.map_cons, ih, List.mem_cons, hne, false_or]
      split <;> rfl

theorem nodup_keys_putEntry (h : (es.map Prod.fst).Nodup) (key : String) (x : α) :
    ((putEntry key x es).map Prod.fst).Nodup := by
  rw [keys_putEntry]
  split
  case isTrue => exact h
  case isFalse hnew =>
    refine List.nodup_append.2 ⟨h, List.nodup_singleton _, ?_⟩
    rintro a ha b hb rfl
    exact hnew (List.mem_singleton.1 hb ▸ ha)

/-- After merging no key is there twice. -/
theorem nodup_keys_mergeEntries (es : List (String × α)) :
    ((mergeEntries es).map Prod.fst).Nodup := by
  induction es using List.reverseRecOn with
  | nil => exact List.nodup_nil
  | append_singleton es e ih =>
    rw [mergeEntries_concat]
    exact nodup_keys_putEntry ih e.1 e.2

end Json
end RemoteScreen
