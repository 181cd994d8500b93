import Mathlib.Tactic.IntervalCases
import RemoteScreen.Json.Printer
import RemoteScreen.Proofs.Json.Spelling

/-! The compact text of a value spells it. -/
namespace RemoteScreen
namespace Json

open Text.Utf8 (Octets encode encode_nil encode_cons encode_append)
open Reader (isSpace hexValue?)

/-- A value without numbers and truth values. -/
inductive Textual : Json → Prop where
  | null : Textual .null
  | text (s : String) : Textual (.text s)
  | list {xs : List Json} (items : ∀ x ∈ xs, Textual x) : Textual (.list xs)
  | object {es : List (String × Json)} (entries : ∀ e ∈ es, Textual e.2) : Textual (.object es)

theorem blank_nil : Blank [] := by simp [Blank]

theorem utf8EncodeChar_marks :
    String.utf8EncodeChar '"' = [0x22] ∧ String.utf8EncodeChar ',' = [0x2C] ∧
      String.utf8EncodeChar ':' = [0x3A] ∧ String.utf8EncodeChar '[' = [0x5B] ∧
      String.utf8EncodeChar ']' = [0x5D] ∧ String.utf8EncodeChar '{' = [0x7B] ∧
      String.utf8EncodeChar '}' = [0x7D] := ⟨rfl, rfl, rfl, rfl, rfl, rfl, rfl⟩

/-! Texts -/

theorem hexDigitChar_spelled {n : Nat} (h : n < 16) :
    ∃ b, String.utf8EncodeChar (hexDigitChar n) = [b] ∧ hexValue? b = some n := by
  interval_cases n
  all_goals exact ⟨_, rfl, rfl⟩

theorem spellsChar_escaped (c : Char) : SpellsChar c (encode (escaped c)) := by
  unfold escaped
  split_ifs with hquote hback hlow
  · subst hquote
    exact .short (by decide)
  · subst hback
    exact .short (by decide)
  · obtain ⟨b, hb, hhigh⟩ := hexDigitChar_spelled (n := c.toNat / 16) (by omega)
    obtain ⟨d, hd, hrest⟩ := hexDigitChar_spelled (n := c.toNat % 16) (by omega)
    have hoctets : encode ['\\', 'u', '0', '0', hexDigitChar (c.toNat / 16),
        hexDigitChar (c.toNat % 16)] = [0x5C, 0x75, 0x30, 0x30, b, d] := by
      simp only [encode_cons, hb, hd]
      rfl
    rw [hoctets]
    exact .unit (i := 0) (j := 0) rfl rfl hhigh hrest (by omega)
  · simpa using .plain hquote hback (by omega)

theorem spellsChars_escaped (cs : List Char) : SpellsChars cs (encode (cs.flatMap escaped)) := by
  induction cs with
  | nil => exact .nil
  | cons c cs ih =>
    rw [List.flatMap_cons, encode_append]
    exact .cons (spellsChar_escaped c) ih

theorem encode_quoted (s : String) :
    encode (quoted s) = 0x22 :: encode (s.toList.flatMap escaped) ++ [0x22] := by
  simp [quoted, utf8EncodeChar_marks]

/-! Values -/

section

variable {xs : List Json} {es : List (String × Json)} {e : String × Json}

theorem spellsItems_chars (hne : xs ≠ []) (h : ∀ x ∈ xs, Spells x (encode x.chars)) :
    SpellsItems xs (encode (itemChars xs)) := by
  induction xs with
  | nil => exact absurd rfl hne
  | cons x xs ih =>
    obtain ⟨hx, hxs⟩ := List.forall_mem_cons.1 h
    cases xs with
    | nil => simpa [itemChars] using SpellsItems.last blank_nil hx blank_nil
    | cons y ys =>
      have hothers := ih (List.cons_ne_nil y ys) hxs
      simpa [itemChars, utf8EncodeChar_marks] using SpellsItems.cons blank_nil hx blank_nil hothers

theorem spellsEntry_chars (h : Spells e.2 (encode e.2.chars)) :
    SpellsEntry e (encode (quoted e.1 ++ ':' :: e.2.chars)) := by
  have hentry := SpellsEntry.mk (spellsChars_escaped e.1.toList) blank_nil blank_nil h
  simpa [encode_quoted, utf8EncodeChar_marks] using hentry

theorem spellsEntries_chars (hne : es ≠ []) (h : ∀ e ∈ es, Spells e.2 (encode e.2.chars)) :
    SpellsEntries es (encode (entryChars es)) := by
  induction es with
  | nil => exact absurd rfl hne
  | cons e es ih =>
    obtain ⟨he, hes⟩ := List.forall_mem_cons.1 h
    have hentry := spellsEntry_chars he
    cases es with
    | nil => simpa [entryChars] using SpellsEntries.last blank_nil hentry blank_nil
    | cons d ds =>
      have hothers := ih (List.cons_ne_nil d ds) hes
      simpa [entryChars, utf8EncodeChar_marks] using
        SpellsEntries.cons blank_nil hentry blank_nil hothers

end

theorem Textual.spells {v : Json} (h : Textual v) : Spells v (encode v.chars) := by
  induction h with
  | null => exact .null
  | text s =>
    rw [chars, encode_quoted]
    exact .text (spellsChars_escaped s.toList)
  | @list xs _ ih =>
    by_cases hxs : xs = []
    · subst hxs
      exact .emptyList blank_nil
    · simpa [chars, utf8EncodeChar_marks] using Spells.list (spellsItems_chars hxs ih)
  | @object es _ ih =>
    by_cases hes : es = []
    · subst hes
      exact .emptyObject blank_nil
    · simpa [chars, utf8EncodeChar_marks] using Spells.object (spellsEntries_chars hes ih)

theorem Textual.spellsDocument {v : Json} (h : Textual v) : SpellsDocument v (encode v.chars) := by
  simpa using SpellsDocument.mk blank_nil h.spells blank_nil

end Json
end RemoteScreen
