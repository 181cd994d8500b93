import Mathlib.Data.List.Basic
import Mathlib.Data.List.TakeWhile
import RemoteScreen.Json.Reader

/-! When the readers of texts, lists and objects give a result, and which one: one equivalence for
each of them, from which all that is proved of them follows. -/
namespace RemoteScreen
namespace Json

open Text
open Text.Utf8 (Octets)

/-- Two readers in a row. -/
theorem bind_eq_ok {α β : Type} {x : Except Fault (α × Octets)}
    {f : α × Octets → Except Fault β} {b : β} :
    x >>= f = .ok b ↔ ∃ a t, x = .ok (a, t) ∧ f (a, t) = .ok b := by
  rcases x with e | ⟨a, t⟩ <;> simp [bind, Except.bind]

namespace Reader

variable {s t rest raw : Octets} {b : UInt8} {limit n : Nat} {v : Json} {xs : List Json}
  {e : String × Json} {es : List (String × Json)} {str : String}
  {element : Octets → Except Fault (Json × Octets)}

@[simp] theorem refuse_ne_ok {α : Type} {cause : Cause} {r : α × Octets} :
    refuse cause s ≠ .ok r := by
  simp [refuse]

theorem content_succ_eq_ok :
    content (n + 1) s = .ok (raw, rest) ↔ ∃ b t, s = b :: t ∧
      (b = 0x22 ∧ [] = raw ∧ t = rest ∨
        b = 0x5C ∧ (∃ piece u, escape t = .ok (piece, u) ∧ ∃ more, content n u = .ok (more, rest) ∧
          piece ++ more = raw) ∨
        b ≠ 0x22 ∧ b ≠ 0x5C ∧ 0x20 ≤ b ∧
          ∃ more, content n t = .ok (more, rest) ∧ b :: more = raw) := by
  rcases s with - | ⟨b, s⟩
  · simp [content]
  · simp only [content]
    by_cases hquote : b = 0x22
    · simp [hquote]
    · by_cases hback : b = 0x5C
      · simp [hback, bind_eq_ok]
      · by_cases hlow : b < 0x20
        · simp [hquote, hback, hlow, ← UInt8.not_lt]
        · simp [hquote, hback, hlow, bind_eq_ok, UInt8.not_lt.1 hlow]

theorem text_eq_ok :
    text limit s = .ok (str, rest) ↔
      ∃ raw, content limit s = .ok (raw, rest) ∧ Utf8.decode raw = .ok str.toList := by
  simp only [text, bind_eq_ok]
  constructor
  · rintro ⟨raw, t, hraw, h⟩
    split at h
    · next cs hcs =>
      cases h
      exact ⟨raw, hraw, by simpa using hcs⟩
    · simp at h
  · rintro ⟨raw, hraw, hcs⟩
    exact ⟨raw, rest, hraw, by simp [hcs]⟩

theorem items_succ_eq_ok :
    items element (n + 1) s = .ok (xs, rest) ↔ ∃ x t, element s = .ok (x, t) ∧
      ∃ b u, skipSpace t = b :: u ∧
        (b = 0x5D ∧ [x] = xs ∧ u = rest ∨
          b = 0x2C ∧ (skipSpace u).head? ≠ some 0x5D ∧
            ∃ ys, items element n (skipSpace u) = .ok (ys, rest) ∧ x :: ys = xs) := by
  simp only [items, bind_eq_ok]
  refine exists₂_congr fun x t => and_congr_right fun _ => ?_
  rcases skipSpace t with - | ⟨b, u⟩
  · simp
  · by_cases hclose : b = 0x5D
    · simp [hclose]
    · by_cases hcomma : b = 0x2C
      · rcases hu : skipSpace u with - | ⟨c, w⟩
        · simp [hcomma, bind_eq_ok, hu]
        · by_cases hc : c = 0x5D
          · simp [hcomma, hc, hu]
          · simp [hcomma, hc, bind_eq_ok, hu]
      · simp [hclose, hcomma]

theorem list_eq_ok :
    list element limit s = .ok (v, rest) ↔ ∃ b t, skipSpace s = b :: t ∧
      (b = 0x5D ∧ .list [] = v ∧ t = rest ∨
        b ≠ 0x5D ∧ ∃ xs, items element limit (b :: t) = .ok (xs, rest) ∧ .list xs = v) := by
  unfold list
  rcases skipSpace s with - | ⟨b, t⟩
  · simp
  · by_cases hclose : b = 0x5D
    · simp [hclose]
    · simp [hclose, bind_eq_ok]

theorem entry_eq_ok :
    entry element limit s = .ok (e, rest) ↔ ∃ t, s = 0x22 :: t ∧
      ∃ key u, text limit t = .ok (key, u) ∧ ∃ w, skipSpace u = 0x3A :: w ∧
        ∃ x, element (skipSpace w) = .ok (x, rest) ∧ (key, x) = e := by
  unfold entry
  rcases s with - | ⟨b, s⟩
  · simp
  · by_cases hquote : b = 0x22
    · subst hquote
      simp only [List.cons.injEq, true_and, exists_eq_left', bind_eq_ok]
      refine exists₂_congr fun key u => and_congr_right fun _ => ?_
      rcases skipSpace u with - | ⟨b, w⟩
      · simp
      · by_cases hcolon : b = 0x3A
        · simp [hcolon, bind_eq_ok]
        · simp [hcolon]
    · simp [hquote]

theorem entries_succ_eq_ok :
    entries element (n + 1) s = .ok (es, rest) ↔ ∃ e t, entry element n s = .ok (e, t) ∧
      ∃ b u, skipSpace t = b :: u ∧
        (b = 0x7D ∧ [e] = es ∧ u = rest ∨
          b = 0x2C ∧ ∃ c w, skipSpace u = c :: w ∧ c ≠ 0x7D ∧
            ∃ ds, entries element n (c :: w) = .ok (ds, rest) ∧ e :: ds = es) := by
  simp only [entries, bind_eq_ok]
  refine exists₂_congr fun e t => and_congr_right fun _ => ?_
  rcases skipSpace t with - | ⟨b, u⟩
  · simp
  · by_cases hclose : b = 0x7D
    · simp [hclose]
    · by_cases hcomma : b = 0x2C
      · rcases hu : skipSpace u with - | ⟨c, w⟩
        · simp [hcomma, hu]
        · by_cases hc : c = 0x7D
          · simp [hcomma, hc, hu]
          · simp [hcomma, hc, bind_eq_ok, hu]
      · simp [hclose, hcomma]

theorem object_eq_ok :
    object element limit s = .ok (v, rest) ↔ ∃ b t, skipSpace s = b :: t ∧
      (b = 0x7D ∧ .object [] = v ∧ t = rest ∨
        b ≠ 0x7D ∧ ∃ es, entries element limit (b :: t) = .ok (es, rest) ∧ .object es = v) := by
  unfold object
  rcases skipSpace s with - | ⟨b, t⟩
  · simp
  · by_cases hclose : b = 0x7D
    · simp [hclose]
    · simp [hclose, bind_eq_ok]

/-- The first octet of a value says what it is. -/
theorem valueWith_eq_ok :
    valueWith element limit s = .ok (v, rest) ↔ ∃ b t, skipSpace s = b :: t ∧
      (b = 0x22 ∧ (∃ str, text limit t = .ok (str, rest) ∧ .text str = v) ∨
        b = 0x5B ∧ list element limit t = .ok (v, rest) ∨
        b = 0x7B ∧ object element limit t = .ok (v, rest) ∨
        b = 0x74 ∧ word (.bool true) "rue".toList t = .ok (v, rest) ∨
        b = 0x66 ∧ word (.bool false) "alse".toList t = .ok (v, rest) ∨
        b = 0x6E ∧ word .null "ull".toList t = .ok (v, rest) ∨
        b = 0x4E ∧ word (.number "NaN") "aN".toList t = .ok (v, rest) ∨
        b = 0x49 ∧ word (.number "Infinity") "nfinity".toList t = .ok (v, rest) ∨
        b = 0x2D ∧ negative t = .ok (v, rest) ∨
        isDigit b ∧ unsigned [] (b :: t) = .ok (v, rest)) := by
  unfold valueWith
  rcases skipSpace s with - | ⟨b, t⟩
  · simp
  simp only [List.cons.injEq, ↓existsAndEq, true_and, and_true]
  by_cases hquote : b = 0x22
  · simp [hquote, bind_eq_ok, isDigit]
  by_cases hlist : b = 0x5B
  · simp [hlist, isDigit]
  by_cases hobject : b = 0x7B
  · simp [hobject, isDigit]
  by_cases htrue : b = 0x74
  · simp [htrue, isDigit]
  by_cases hfalse : b = 0x66
  · simp [hfalse, isDigit]
  by_cases hnull : b = 0x6E
  · simp [hnull, isDigit]
  by_cases hnan : b = 0x4E
  · simp [hnan, isDigit]
  by_cases hinfinity : b = 0x49
  · simp [hinfinity, isDigit]
  by_cases hminus : b = 0x2D
  · simp [hminus, isDigit]
  by_cases hdigit : isDigit b <;>
    simp [hquote, hlist, hobject, htrue, hfalse, hnull, hnan, hinfinity, hminus, hdigit]

end Reader

open Reader

theorem read_eq_ok {room : Nat} {s : Octets} {v : Json} :
    read room s = .ok v ↔
      ∃ rest, value (s.length + 1) room s = .ok (v, rest) ∧ ∀ b ∈ rest, isSpace b := by
  simp only [read, bind_eq_ok]
  constructor
  · rintro ⟨w, rest, hw, h⟩
    split at h
    · next hspace =>
      cases h
      exact ⟨rest, hw, List.dropWhile_eq_nil_iff.1 hspace⟩
    · simp at h
  · rintro ⟨rest, hw, hspace⟩
    have hend : skipSpace rest = [] := List.dropWhile_eq_nil_iff.2 hspace
    exact ⟨v, rest, hw, by rw [hend]⟩

end Json
end RemoteScreen
