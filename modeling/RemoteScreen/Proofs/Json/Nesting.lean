import RemoteScreen.Proofs.Json.Continued

/-! How deep a value is nested, and how deep the reader goes. -/
namespace RemoteScreen
namespace Json

open Text
open Text.Utf8 (Octets)

mutual

/-- The number of containers around the innermost value. -/
def nesting : Json → Nat
  | .list xs => nestingItems xs
  | .object es => nestingEntries es
  | _ => 0

def nestingItems : List Json → Nat
  | [] => 0
  | x :: xs => max (nesting x + 1) (nestingItems xs)

def nestingEntries : List (String × Json) → Nat
  | [] => 0
  | (_, x) :: es => max (nesting x + 1) (nestingEntries es)

end

theorem nestingItems_le {xs : List Json} {n : Nat} :
    nestingItems xs ≤ n ↔ ∀ x ∈ xs, nesting x + 1 ≤ n := by
  induction xs with
  | nil => simp [nestingItems]
  | cons x xs ih => rw [nestingItems, Nat.max_le, ih, List.forall_mem_cons]

theorem nestingEntries_le {es : List (String × Json)} {n : Nat} :
    nestingEntries es ≤ n ↔ ∀ e ∈ es, nesting e.2 + 1 ≤ n := by
  induction es with
  | nil => simp [nestingEntries]
  | cons e es ih => rw [nestingEntries, Nat.max_le, ih, List.forall_mem_cons]

namespace Reader

variable {s rest : Octets} {limit n room : Nat} {v : Json} {xs : List Json}
  {es : List (String × Json)} {element : Octets → Except Fault (Json × Octets)}

section

variable (helement : ∀ s x rest, element s = .ok (x, rest) → x.nesting + 1 ≤ room)

include helement

theorem nestingItems_of_items (h : items element n s = .ok (xs, rest)) :
    nestingItems xs ≤ room := by
  induction n generalizing s xs with
  | zero => simp [items] at h
  | succ n ih =>
    obtain ⟨x, t, hx, b, u, -, hcases⟩ := items_succ_eq_ok.1 h
    have hfirst := helement _ _ _ hx
    rcases hcases with ⟨-, rfl, -⟩ | ⟨-, -, ys, hys, rfl⟩
    · simpa [nestingItems] using hfirst
    · rw [nestingItems]
      exact Nat.max_le.2 ⟨hfirst, ih hys⟩

theorem nestingEntries_of_entries (h : entries element n s = .ok (es, rest)) :
    nestingEntries es ≤ room := by
  induction n generalizing s es with
  | zero => simp [entries] at h
  | succ n ih =>
    obtain ⟨e, t, he, b, u, -, hcases⟩ := entries_succ_eq_ok.1 h
    obtain ⟨-, -, key, -, -, w, -, x, hx, rfl⟩ := entry_eq_ok.1 he
    have hfirst := helement _ _ _ hx
    rcases hcases with ⟨-, rfl, -⟩ | ⟨-, c, w, -, -, ds, hds, rfl⟩
    · simpa [nestingEntries] using hfirst
    · rw [nestingEntries]
      exact Nat.max_le.2 ⟨hfirst, ih hds⟩

theorem nesting_of_list (h : list element limit s = .ok (v, rest)) : v.nesting ≤ room := by
  obtain ⟨b, t, -, ⟨-, rfl, -⟩ | ⟨-, xs, hxs, rfl⟩⟩ := list_eq_ok.1 h
  · exact Nat.zero_le _
  · exact nestingItems_of_items helement hxs

theorem nesting_of_object (h : object element limit s = .ok (v, rest)) : v.nesting ≤ room := by
  obtain ⟨b, t, -, ⟨-, rfl, -⟩ | ⟨-, es, hes, rfl⟩⟩ := object_eq_ok.1 h
  · exact Nat.zero_le _
  · exact nestingEntries_of_entries helement hes

theorem nesting_of_valueWith (h : valueWith element limit s = .ok (v, rest)) :
    v.nesting ≤ room := by
  obtain ⟨b, t, -, h⟩ := valueWith_eq_ok.1 h
  have hscalar (hv : v.nesting = 0) : v.nesting ≤ room := hv ▸ Nat.zero_le _
  have hword {value : Json} {cs : List Char} (hvalue : value.nesting = 0)
      (hw : word value cs t = .ok (v, rest)) : v.nesting ≤ room :=
    hscalar (word_value hw ▸ hvalue)
  obtain ⟨-, str, -, rfl⟩ | ⟨-, h⟩ | ⟨-, h⟩ | ⟨-, h⟩ | ⟨-, h⟩ | ⟨-, h⟩ | ⟨-, h⟩ | ⟨-, h⟩ | ⟨-, h⟩ |
    ⟨-, h⟩ := h
  · exact hscalar rfl
  · exact nesting_of_list helement h
  · exact nesting_of_object helement h
  · exact hword rfl h
  · exact hword rfl h
  · exact hword rfl h
  · exact hword rfl h
  · exact hword rfl h
  · obtain ⟨lexeme, rfl⟩ := negative_value h
    exact hscalar rfl
  · obtain ⟨lexeme, rfl⟩ := unsigned_value h
    exact hscalar rfl

end

/-- What is read has at most `room` containers around any of its values. -/
theorem nesting_of_value (h : value limit room s = .ok (v, rest)) : v.nesting ≤ room := by
  induction room generalizing s v rest with
  | zero => exact nesting_of_valueWith (fun s x rest hx => absurd hx refuseDepth_ne_ok) h
  | succ room ih => exact nesting_of_valueWith (fun s x rest hx => Nat.succ_le_succ (ih hx)) h

end Reader
end Json
end RemoteScreen
