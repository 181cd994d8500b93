import Mathlib.Data.List.TakeDrop
import Mathlib.Tactic.SplitIfs
import RemoteScreen.Proofs.Json.Reader

/-! Reading when more follows. A reader that has come to the end of a value does not look further,
numbers excepted: whatever is put behind the rest, it gives the same value and leaves the rest with
the addition. A number ends at the first octet that cannot be part of it, so there has to be one. -/
namespace RemoteScreen
namespace Json

open Text
open Text.Utf8 (Octets)

namespace Reader

variable {s t rest raw : Octets} {b : UInt8} {limit limit' : Nat} {v : Json} {xs : List Json}
  {e : String × Json} {es : List (String × Json)} {str : String}

theorem skipSpace_append (h : skipSpace s = b :: t) (q : Octets) :
    skipSpace (s ++ q) = b :: (t ++ q) := by
  unfold skipSpace at h ⊢
  rw [List.dropWhile_append, h]
  rfl

/-! Words and numbers -/

theorem word_append {value : Json} {cs : List Char} (h : word value cs s = .ok (v, rest))
    (q : Octets) : word value cs (s ++ q) = .ok (v, rest ++ q) := by
  induction cs generalizing s with
  | nil =>
    cases h
    rfl
  | cons c cs ih =>
    rcases s with - | ⟨b, s⟩
    · simp [word] at h
    · simp only [word, List.cons_append] at h ⊢
      split_ifs at h ⊢
      · exact ih h
      · simp at h

theorem span_append {p : UInt8 → Bool} (h : (s.span p).2 ≠ []) (q : Octets) :
    (s ++ q).span p = ((s.span p).1, (s.span p).2 ++ q) := by
  simp only [List.span_eq_takeWhile_dropWhile] at h ⊢
  induction s with
  | nil => exact absurd rfl h
  | cons b s ih =>
    by_cases hb : p b
    · simp only [List.dropWhile_cons_of_pos hb] at h
      obtain ⟨htake, hdrop⟩ := Prod.mk.inj (ih h)
      simp [List.takeWhile_cons_of_pos hb, List.dropWhile_cons_of_pos hb, htake, hdrop]
    · simp [List.takeWhile_cons_of_neg hb, List.dropWhile_cons_of_neg hb]

theorem digits_append {ds : Octets} (h : digits s = .ok (ds, rest)) (hrest : rest ≠ [])
    (q : Octets) : digits (s ++ q) = .ok (ds, rest ++ q) := by
  rcases s with - | ⟨b, s⟩
  · simp [digits] at h
  · simp only [digits, List.cons_append] at h ⊢
    split_ifs at h ⊢
    · have hspan := Except.ok.inj h
      rw [← List.cons_append, span_append (by rw [hspan]; exact hrest), hspan]
    · simp at h

theorem fraction_append {ds : Octets} (h : fraction s = .ok (ds, rest)) (hrest : rest ≠ [])
    (q : Octets) : fraction (s ++ q) = .ok (ds, rest ++ q) := by
  rcases s with - | ⟨b, s⟩
  · cases h
    exact absurd rfl hrest
  · by_cases hpoint : b = 0x2E
    · subst hpoint
      simp only [fraction, List.cons_append, bind_eq_ok] at h ⊢
      obtain ⟨ds, t, hds, h⟩ := h
      cases h
      exact ⟨ds, _, digits_append hds hrest q, rfl⟩
    · simp only [fraction, List.cons_append, List.cons.injEq, hpoint, false_and, forall_false,
        implies_true] at h ⊢
      cases h
      rfl

theorem exponentSign_append (hs : s ≠ []) (q : Octets) :
    exponentSign (s ++ q) = ((exponentSign s).1, (exponentSign s).2 ++ q) := by
  rcases s with - | ⟨b, s⟩
  · exact absurd rfl hs
  · rw [List.cons_append]
    unfold exponentSign
    by_cases hplus : b = 0x2B
    · simp [hplus]
    · by_cases hminus : b = 0x2D
      · simp [hminus]
      · simp [hplus, hminus]

theorem exponent_append {ds : Octets} (h : exponent s = .ok (ds, rest)) (hrest : rest ≠ [])
    (q : Octets) : exponent (s ++ q) = .ok (ds, rest ++ q) := by
  rcases s with - | ⟨e, s⟩
  · cases h
    exact absurd rfl hrest
  · simp only [exponent, List.cons_append] at h ⊢
    split_ifs at h ⊢
    · simp only [bind_eq_ok] at h ⊢
      obtain ⟨ds, t, hds, h⟩ := h
      cases h
      have hs : s ≠ [] := by
        rintro rfl
        simp [exponentSign, digits] at hds
      rw [exponentSign_append hs]
      exact ⟨ds, _, digits_append hds hrest q, rfl⟩
    · cases h
      rfl

theorem unsigned_append {sign : Octets} (h : unsigned sign s = .ok (v, rest)) (hrest : rest ≠ [])
    (q : Octets) : unsigned sign (s ++ q) = .ok (v, rest ++ q) := by
  simp only [unsigned, bind_eq_ok] at h ⊢
  obtain ⟨whole, t, hwhole, h⟩ := h
  split at h
  · simp at h
  next hzero =>
    split_ifs at h with hlong
    simp only [bind_eq_ok] at h
    obtain ⟨frac, u, hfrac, exp, w, hexp, h⟩ := h
    cases h
    have hu : u ≠ [] := by
      rintro rfl
      cases hexp
      exact absurd rfl hrest
    have ht : t ≠ [] := by
      rintro rfl
      cases hfrac
      exact absurd rfl hu
    refine ⟨whole, _, digits_append hwhole ht q, ?_⟩
    split
    · exact absurd rfl (hzero _ _)
    · rw [if_neg hlong]
      simp only [bind_eq_ok]
      exact ⟨frac, _, fraction_append hfrac hu q, exp, _, exponent_append hexp hrest q, rfl⟩

theorem negative_append (h : negative s = .ok (v, rest)) (hrest : rest ≠ []) (q : Octets) :
    negative (s ++ q) = .ok (v, rest ++ q) := by
  rcases s with - | ⟨b, s⟩
  · simp [negative, unsigned, digits, bind, Except.bind, refuse] at h
  · by_cases hinfinite : b = 0x49
    · subst hinfinite
      exact word_append h q
    · simp only [negative, List.cons_append, List.cons.injEq, hinfinite, false_and, forall_false,
        implies_true] at h ⊢
      exact unsigned_append h hrest q

theorem word_value {value : Json} {cs : List Char} (h : word value cs s = .ok (v, rest)) :
    v = value := by
  induction cs generalizing s with
  | nil =>
    cases h
    rfl
  | cons c cs ih =>
    rcases s with - | ⟨b, s⟩
    · simp [word] at h
    · simp only [word] at h
      split_ifs at h
      · exact ih h
      · simp at h

theorem unsigned_value {sign : Octets} (h : unsigned sign s = .ok (v, rest)) :
    ∃ lexeme, v = .number lexeme := by
  simp only [unsigned, bind_eq_ok] at h
  obtain ⟨whole, t, -, h⟩ := h
  split at h
  · simp at h
  · split_ifs at h
    simp only [bind_eq_ok] at h
    obtain ⟨frac, u, -, exp, w, -, h⟩ := h
    cases h
    exact ⟨_, rfl⟩

theorem negative_value (h : negative s = .ok (v, rest)) : ∃ lexeme, v = .number lexeme := by
  unfold negative at h
  split at h
  · exact ⟨_, word_value h⟩
  · exact unsigned_value h

/-! Texts -/

theorem hexFour_cons {a c d : UInt8} {n : Nat} :
    hexFour (a :: b :: c :: d :: s) = .ok (n, rest) ↔ ∃ i j k l, hexValue? a = some i ∧
      hexValue? b = some j ∧ hexValue? c = some k ∧ hexValue? d = some l ∧
        ((i * 16 + j) * 16 + k) * 16 + l = n ∧ s = rest := by
  simp only [hexFour, hexDigit]
  rcases hexValue? a <;> rcases hexValue? b <;> rcases hexValue? c <;> rcases hexValue? d <;>
    simp [bind, Except.bind]

theorem hexFour_append {n : Nat} (h : hexFour s = .ok (n, rest)) (q : Octets) :
    hexFour (s ++ q) = .ok (n, rest ++ q) := by
  rcases s with - | ⟨a, - | ⟨b, - | ⟨c, - | ⟨d, s⟩⟩⟩⟩
  · simp [hexFour] at h
  · simp [hexFour] at h
  · simp [hexFour] at h
  · simp [hexFour] at h
  · obtain ⟨i, j, k, l, hi, hj, hk, hl, hn, rfl⟩ := hexFour_cons.1 h
    exact hexFour_cons.2 ⟨i, j, k, l, hi, hj, hk, hl, hn, rfl⟩

theorem pairWith_append {high : Nat} (h : pairWith high s = .ok (raw, rest)) (q : Octets) :
    pairWith high (s ++ q) = .ok (raw, rest ++ q) := by
  unfold pairWith at h
  split at h
  · simp only [bind_eq_ok] at h
    obtain ⟨low, t, hlow, h⟩ := h
    split_ifs at h with hrange
    obtain ⟨rfl, rfl⟩ := Prod.mk.inj (Except.ok.inj h)
    rw [List.cons_append, List.cons_append, pairWith, bind_eq_ok]
    refine ⟨low, _, hexFour_append hlow q, ?_⟩
    simp only [hrange, if_true]
  all_goals simp at h

theorem codeUnit_append (h : codeUnit s = .ok (raw, rest)) (q : Octets) :
    codeUnit (s ++ q) = .ok (raw, rest ++ q) := by
  simp only [codeUnit, bind_eq_ok] at h ⊢
  obtain ⟨unit, t, hunit, h⟩ := h
  refine ⟨unit, _, hexFour_append hunit q, ?_⟩
  split_ifs at h ⊢
  · exact pairWith_append h q
  · cases h
    rfl

theorem escape_append (h : escape s = .ok (raw, rest)) (q : Octets) :
    escape (s ++ q) = .ok (raw, rest ++ q) := by
  rcases s with - | ⟨b, s⟩
  · simp [escape] at h
  · simp only [escape, List.cons_append] at h ⊢
    split_ifs at h ⊢
    all_goals first | exact codeUnit_append h q | (cases h; rfl) | simp at h

theorem content_append (hlimit : limit ≤ limit') (h : content limit s = .ok (raw, rest))
    (q : Octets) : content limit' (s ++ q) = .ok (raw, rest ++ q) := by
  induction limit generalizing limit' s raw with
  | zero => simp [content] at h
  | succ n ih =>
    obtain ⟨m, rfl⟩ : ∃ m, limit' = m + 1 := ⟨limit' - 1, by omega⟩
    have hle : n ≤ m := by omega
    obtain ⟨b, t, rfl, hcases⟩ := content_succ_eq_ok.1 h
    refine content_succ_eq_ok.2 ⟨b, t ++ q, rfl, ?_⟩
    rcases hcases with ⟨hb, hraw, rfl⟩ | ⟨hb, piece, u, hpiece, more, hmore, hraw⟩ |
      ⟨hquote, hback, hlow, more, hmore, hraw⟩
    · exact .inl ⟨hb, hraw, rfl⟩
    · exact .inr (.inl ⟨hb, piece, _, escape_append hpiece q, more, ih hle hmore, hraw⟩)
    · exact .inr (.inr ⟨hquote, hback, hlow, more, ih hle hmore, hraw⟩)

theorem text_append (hlimit : limit ≤ limit') (h : text limit s = .ok (str, rest)) (q : Octets) :
    text limit' (s ++ q) = .ok (str, rest ++ q) := by
  obtain ⟨raw, hraw, hstr⟩ := text_eq_ok.1 h
  exact text_eq_ok.2 ⟨raw, content_append hlimit hraw q, hstr⟩

/-! Lists, objects and values -/

/-- The end of a value is known without a look at what follows: something does, or it is no number.
-/
def Closed (v : Json) (rest : Octets) : Prop := rest ≠ [] ∨ ∀ lexeme, v ≠ .number lexeme

/-- The second reader goes on as the first, whatever is put behind. -/
structure Continues (m m' : Octets → Except Fault (Json × Octets)) : Prop where
  nil : ∀ r, m [] ≠ .ok r
  append : ∀ {s v rest}, m s = .ok (v, rest) → Closed v rest →
    ∀ q, m' (s ++ q) = .ok (v, rest ++ q)

section

variable {element element' : Octets → Except Fault (Json × Octets)}

theorem ne_nil_of_skipSpace (h : skipSpace s = b :: t) : s ≠ [] := by
  rintro rfl
  simp at h

theorem items_nil (helement : ∀ r, element [] ≠ .ok r) (n : Nat) (r : List Json × Octets) :
    items element n [] ≠ .ok r := by
  intro h
  cases n with
  | zero => simp [items] at h
  | succ n =>
    obtain ⟨x, t, hx, -⟩ := items_succ_eq_ok.1 h
    exact helement _ hx

theorem items_append (helement : Continues element element') (hlimit : limit ≤ limit')
    (h : items element limit s = .ok (xs, rest)) (q : Octets) :
    items element' limit' (s ++ q) = .ok (xs, rest ++ q) := by
  induction limit generalizing limit' s xs with
  | zero => simp [items] at h
  | succ n ih =>
    obtain ⟨m, rfl⟩ : ∃ m, limit' = m + 1 := ⟨limit' - 1, by omega⟩
    have hle : n ≤ m := by omega
    obtain ⟨x, t, hx, b, u, hu, hcases⟩ := items_succ_eq_ok.1 h
    have hx' := helement.append hx (.inl (ne_nil_of_skipSpace hu)) q
    refine items_succ_eq_ok.2 ⟨x, t ++ q, hx', b, u ++ q, skipSpace_append hu q, ?_⟩
    rcases hcases with ⟨hb, hxs, rfl⟩ | ⟨hb, hhead, ys, hys, hxs⟩
    · exact .inl ⟨hb, hxs, rfl⟩
    · rcases hw : skipSpace u with - | ⟨c, w⟩
      · rw [hw] at hys
        exact absurd hys (items_nil helement.nil n _)
      · rw [hw] at hhead hys
        refine .inr ⟨hb, ?_, ys, ?_, hxs⟩
        · simpa [skipSpace_append hw q] using hhead
        · rw [skipSpace_append hw q, ← List.cons_append]
          exact ih hle hys

theorem list_append (helement : Continues element element') (hlimit : limit ≤ limit')
    (h : list element limit s = .ok (v, rest)) (q : Octets) :
    list element' limit' (s ++ q) = .ok (v, rest ++ q) := by
  obtain ⟨b, t, ht, hcases⟩ := list_eq_ok.1 h
  refine list_eq_ok.2 ⟨b, t ++ q, skipSpace_append ht q, ?_⟩
  rcases hcases with ⟨hb, hv, rfl⟩ | ⟨hb, xs, hxs, hv⟩
  · exact .inl ⟨hb, hv, rfl⟩
  · exact .inr ⟨hb, xs, items_append helement hlimit hxs q, hv⟩

theorem entry_append (helement : Continues element element') (hlimit : limit ≤ limit')
    (h : entry element limit s = .ok (e, rest)) (hrest : rest ≠ []) (q : Octets) :
    entry element' limit' (s ++ q) = .ok (e, rest ++ q) := by
  obtain ⟨t, rfl, key, u, hkey, w, hw, x, hx, he⟩ := entry_eq_ok.1 h
  refine entry_eq_ok.2 ⟨t ++ q, rfl, key, u ++ q, text_append hlimit hkey q, w ++ q,
    skipSpace_append hw q, x, ?_, he⟩
  rcases hy : skipSpace w with - | ⟨c, y⟩
  · rw [hy] at hx
    exact absurd hx (helement.nil _)
  · rw [hy] at hx
    rw [skipSpace_append hy q, ← List.cons_append]
    exact helement.append hx (.inl hrest) q

theorem entries_append (helement : Continues element element') (hlimit : limit ≤ limit')
    (h : entries element limit s = .ok (es, rest)) (q : Octets) :
    entries element' limit' (s ++ q) = .ok (es, rest ++ q) := by
  induction limit generalizing limit' s es with
  | zero => simp [entries] at h
  | succ n ih =>
    obtain ⟨m, rfl⟩ : ∃ m, limit' = m + 1 := ⟨limit' - 1, by omega⟩
    have hle : n ≤ m := by omega
    obtain ⟨e, t, he, b, u, hu, hcases⟩ := entries_succ_eq_ok.1 h
    have he' := entry_append helement hle he (ne_nil_of_skipSpace hu) q
    refine entries_succ_eq_ok.2 ⟨e, t ++ q, he', b, u ++ q, skipSpace_append hu q, ?_⟩
    rcases hcases with ⟨hb, hes, rfl⟩ | ⟨hb, c, w, hw, hc, ds, hds, hes⟩
    · exact .inl ⟨hb, hes, rfl⟩
    · exact .inr ⟨hb, c, w ++ q, skipSpace_append hw q, hc, ds, ih hle hds, hes⟩

theorem object_append (helement : Continues element element') (hlimit : limit ≤ limit')
    (h : object element limit s = .ok (v, rest)) (q : Octets) :
    object element' limit' (s ++ q) = .ok (v, rest ++ q) := by
  obtain ⟨b, t, ht, hcases⟩ := object_eq_ok.1 h
  refine object_eq_ok.2 ⟨b, t ++ q, skipSpace_append ht q, ?_⟩
  rcases hcases with ⟨hb, hv, rfl⟩ | ⟨hb, es, hes, hv⟩
  · exact .inl ⟨hb, hv, rfl⟩
  · exact .inr ⟨hb, es, entries_append helement hlimit hes q, hv⟩

theorem Closed.ne_nil {lexeme : String} (h : Closed v rest) (hv : v = .number lexeme) :
    rest ≠ [] :=
  h.resolve_right fun hother => hother lexeme hv

theorem valueWith_continues (helement : Continues element element') (hlimit : limit ≤ limit') :
    Continues (valueWith element limit) (valueWith element' limit') where
  nil r := by simp [valueWith]
  append := by
    intro s v rest h hclosed q
    obtain ⟨b, t, ht, h⟩ := valueWith_eq_ok.1 h
    refine valueWith_eq_ok.2 ⟨b, t ++ q, skipSpace_append ht q, ?_⟩
    refine h.imp ?_ <| .imp ?_ <| .imp ?_ <| .imp ?_ <| .imp ?_ <| .imp ?_ <| .imp ?_ <|
      .imp ?_ <| .imp ?_ ?_
    all_goals refine .imp_right fun h => ?_
    · obtain ⟨str, hstr, hv⟩ := h
      exact ⟨str, text_append hlimit hstr q, hv⟩
    · exact list_append helement hlimit h q
    · exact object_append helement hlimit h q
    · exact word_append h q
    · exact word_append h q
    · exact word_append h q
    · exact word_append h q
    · exact word_append h q
    · obtain ⟨lexeme, hv⟩ := negative_value h
      exact negative_append h (hclosed.ne_nil hv) q
    · obtain ⟨lexeme, hv⟩ := unsigned_value h
      exact unsigned_append h (hclosed.ne_nil hv) q

theorem refuseDepth_ne_ok {r : Json × Octets} : refuseDepth s ≠ .ok r := by
  unfold refuseDepth
  split <;> simp

theorem refuseDepth_continues : Continues refuseDepth element' where
  nil _ := refuseDepth_ne_ok
  append h := absurd h refuseDepth_ne_ok

end

/-- Nor does more room change what is read. -/
theorem value_continues (hlimit : limit ≤ limit') {room room' : Nat} (hroom : room ≤ room') :
    Continues (value limit room) (value limit' room') := by
  induction room generalizing room' with
  | zero =>
    cases room' with
    | zero => exact valueWith_continues refuseDepth_continues hlimit
    | succ room' => exact valueWith_continues refuseDepth_continues hlimit
  | succ room ih =>
    obtain ⟨more, rfl⟩ : ∃ more, room' = more + 1 := ⟨room' - 1, by omega⟩
    exact valueWith_continues (ih (by omega)) hlimit

end Reader

open Reader

/-- Behind a document that can be read, only white space can follow. -/
theorem read_append {room : Nat} {p q : Octets} {v w : Json} (hp : read room p = .ok v)
    (hv : ∀ lexeme, v ≠ .number lexeme) (hpq : read room (p ++ q) = .ok w) :
    w = v ∧ ∀ b ∈ q, isSpace b := by
  obtain ⟨rest, hread, -⟩ := read_eq_ok.1 hp
  obtain ⟨after, hwhole, hspace⟩ := read_eq_ok.1 hpq
  have hlimit : p.length + 1 ≤ (p ++ q).length + 1 := by simp
  have hsame := (value_continues hlimit (Nat.le_refl room)).append hread (.inr hv) q
  obtain ⟨rfl, rfl⟩ := Prod.mk.inj (Except.ok.inj (hwhole.symm.trans hsame))
  exact ⟨rfl, fun b hb => hspace b (List.mem_append_right rest hb)⟩

end Json
end RemoteScreen
