import Mathlib.Data.List.TakeWhile
import RemoteScreen.Proofs.Json.Nesting
import RemoteScreen.Proofs.Text.Utf8

/-! How a value of texts, lists and objects may be written, and that it is read off whatever way it
was. White space may stand between any two marks, and a character may go by an escape. -/
namespace RemoteScreen
namespace Json

open Text
open Text.Utf8 (Octets)
open Reader (isSpace hexValue?)

/-! The grammar -/

def Blank (w : Octets) : Prop := ∀ b ∈ w, isSpace b

/-- The escapes of one letter. -/
def shortEscapes : List (Char × UInt8) :=
  [('"', 0x22), ('\\', 0x5C), ('/', 0x2F), ('\x08', 0x62), ('\x0c', 0x66), ('\n', 0x6E),
    ('\r', 0x72), ('\t', 0x74)]

/-- Only the quote, the backslash and the control characters cannot stand for themselves. -/
inductive SpellsChar (c : Char) : Octets → Prop where
  | plain (quote : c ≠ '"') (back : c ≠ '\\') (low : 0x20 ≤ c.toNat) :
      SpellsChar c (String.utf8EncodeChar c)
  | short {b : UInt8} (letter : (c, b) ∈ shortEscapes) : SpellsChar c [0x5C, b]
  | unit {a b d e : UInt8} {i j k l : Nat} (first : hexValue? a = some i)
      (second : hexValue? b = some j) (third : hexValue? d = some k) (fourth : hexValue? e = some l)
      (value : ((i * 16 + j) * 16 + k) * 16 + l = c.toNat) : SpellsChar c [0x5C, 0x75, a, b, d, e]

inductive SpellsChars : List Char → Octets → Prop where
  | nil : SpellsChars [] []
  | cons {c : Char} {cs : List Char} {t u : Octets} (first : SpellsChar c t)
      (others : SpellsChars cs u) : SpellsChars (c :: cs) (t ++ u)

mutual

/-- The octets of a value, from its first mark to its last. -/
inductive Spells : Json → Octets → Prop where
  | null : Spells .null [0x6E, 0x75, 0x6C, 0x6C]
  | text {s : String} {t : Octets} (chars : SpellsChars s.toList t) :
      Spells (.text s) (0x22 :: t ++ [0x22])
  | emptyList {w : Octets} (blank : Blank w) : Spells (.list []) (0x5B :: w ++ [0x5D])
  | list {xs : List Json} {t : Octets} (items : SpellsItems xs t) :
      Spells (.list xs) (0x5B :: t ++ [0x5D])
  | emptyObject {w : Octets} (blank : Blank w) : Spells (.object []) (0x7B :: w ++ [0x7D])
  | object {es : List (String × Json)} {t : Octets} (entries : SpellsEntries es t) :
      Spells (.object es) (0x7B :: t ++ [0x7D])

inductive SpellsItems : List Json → Octets → Prop where
  | last {x : Json} {w t w' : Octets} (before : Blank w) (item : Spells x t) (after : Blank w') :
      SpellsItems [x] (w ++ (t ++ w'))
  | cons {x : Json} {xs : List Json} {w t w' u : Octets} (before : Blank w) (item : Spells x t)
      (after : Blank w') (others : SpellsItems xs u) :
      SpellsItems (x :: xs) (w ++ (t ++ (w' ++ 0x2C :: u)))

inductive SpellsEntries : List (String × Json) → Octets → Prop where
  | last {e : String × Json} {w t w' : Octets} (before : Blank w) (entry : SpellsEntry e t)
      (after : Blank w') : SpellsEntries [e] (w ++ (t ++ w'))
  | cons {e : String × Json} {es : List (String × Json)} {w t w' u : Octets} (before : Blank w)
      (entry : SpellsEntry e t) (after : Blank w') (others : SpellsEntries es u) :
      SpellsEntries (e :: es) (w ++ (t ++ (w' ++ 0x2C :: u)))

inductive SpellsEntry : String × Json → Octets → Prop where
  | mk {key : String} {x : Json} {k w w' t : Octets} (name : SpellsChars key.toList k)
      (before : Blank w) (after : Blank w') (value : Spells x t) :
      SpellsEntry (key, x) (0x22 :: (k ++ 0x22 :: (w ++ 0x3A :: (w' ++ t))))

end

/-- A document is a value with white space around it. -/
inductive SpellsDocument (v : Json) : Octets → Prop where
  | mk {w t w' : Octets} (before : Blank w) (value : Spells v t) (after : Blank w') :
      SpellsDocument v (w ++ (t ++ w'))

/-- A value begins with a mark of its own, which is neither white space nor a closing bracket. -/
theorem Spells.head {v : Json} {t : Octets} (h : Spells v t) :
    ∃ b u, t = b :: u ∧ isSpace b = false ∧ b ≠ 0x5D ∧ b ≠ 0x7D := by
  cases h
  all_goals exact ⟨_, _, rfl, by decide⟩

theorem SpellsEntry.head {e : String × Json} {t : Octets} (h : SpellsEntry e t) :
    ∃ u, t = 0x22 :: u := by
  cases h
  exact ⟨_, rfl⟩

namespace Reader

variable {s t u w rest : Octets} {limit n room : Nat} {v : Json} {c : Char} {cs : List Char}
  {b : UInt8}

/-! White space -/

theorem skipSpace_blank (hw : Blank w) (s : Octets) : skipSpace (w ++ s) = skipSpace s :=
  List.dropWhile_append_of_pos hw

theorem skipSpace_blank_cons (hw : Blank w) (hb : isSpace b = false) (s : Octets) :
    skipSpace (w ++ b :: s) = b :: s := by
  rw [skipSpace_blank hw]
  simp [skipSpace, hb]

/-! Texts -/

theorem utf8EncodeChar_plain (hquote : c ≠ '"') (hback : c ≠ '\\') (hlow : 0x20 ≤ c.toNat) :
    ∀ b ∈ String.utf8EncodeChar c, b ≠ 0x22 ∧ b ≠ 0x5C ∧ 0x20 ≤ b := by
  intro b hb
  have hquote' : c.toNat ≠ 0x22 := fun h => hquote (Char.toNat_inj.1 h)
  have hback' : c.toNat ≠ 0x5C := fun h => hback (Char.toNat_inj.1 h)
  have hoctet := Utf8.toNat_of_mem_encode hb
  simp only [Ne, ← UInt8.toNat_inj, UInt8.le_iff_toNat_le, UInt8.reduceToNat]
  omega

theorem escape_short (h : (c, b) ∈ shortEscapes) (rest : Octets) :
    escape (b :: rest) = .ok (String.utf8EncodeChar c, rest) := by
  simp only [shortEscapes, List.mem_cons, Prod.mk.injEq, List.not_mem_nil, or_false] at h
  rcases h with ⟨rfl, rfl⟩ | ⟨rfl, rfl⟩ | ⟨rfl, rfl⟩ | ⟨rfl, rfl⟩ | ⟨rfl, rfl⟩ | ⟨rfl, rfl⟩ |
    ⟨rfl, rfl⟩ | ⟨rfl, rfl⟩
  all_goals rfl

theorem codeUnit_char {a b d e : UInt8} {i j k l : Nat} (ha : hexValue? a = some i)
    (hb : hexValue? b = some j) (hd : hexValue? d = some k) (he : hexValue? e = some l)
    (hvalue : ((i * 16 + j) * 16 + k) * 16 + l = c.toNat) (rest : Octets) :
    codeUnit (a :: b :: d :: e :: rest) = .ok (String.utf8EncodeChar c, rest) := by
  have hvalid : c.toNat < 0xD800 ∨ 0xDFFF < c.toNat ∧ c.toNat < 0x110000 := c.valid
  have hlow : ¬ isLow c.toNat := by
    simp only [isLow, Bool.and_eq_true, decide_eq_true_eq]
    omega
  have hhigh : ¬ isHigh c.toNat := by
    simp only [isHigh, Bool.and_eq_true, decide_eq_true_eq]
    omega
  have hunit : hexFour (a :: b :: d :: e :: rest) = .ok (c.toNat, rest) :=
    hexFour_cons.2 ⟨i, j, k, l, ha, hb, hd, he, hvalue, rfl⟩
  rw [codeUnit, bind_eq_ok]
  refine ⟨_, _, hunit, ?_⟩
  simp only [hlow, hhigh, Char.ofNat_toNat]
  rfl

theorem content_plain {bs more : Octets} (hplain : ∀ b ∈ bs, b ≠ 0x22 ∧ b ≠ 0x5C ∧ 0x20 ≤ b)
    (hlimit : bs.length ≤ limit) (h : content (limit - bs.length) s = .ok (more, rest)) :
    content limit (bs ++ s) = .ok (bs ++ more, rest) := by
  induction bs generalizing limit with
  | nil => simpa using h
  | cons b bs ih =>
    obtain ⟨n, rfl⟩ : ∃ n, limit = n + 1 := ⟨limit - 1, by rw [List.length_cons] at hlimit; omega⟩
    obtain ⟨⟨hquote, hback, hlow⟩, hbs⟩ := List.forall_mem_cons.1 hplain
    rw [List.length_cons, Nat.add_le_add_iff_right] at hlimit
    rw [List.length_cons, Nat.add_sub_add_right] at h
    have hmore := ih hbs hlimit h
    exact content_succ_eq_ok.2 ⟨b, _, rfl, .inr (.inr ⟨hquote, hback, hlow, _, hmore, rfl⟩)⟩

theorem content_escape {piece more : Octets} (hescape : escape s = .ok (piece, t))
    (h : content n t = .ok (more, rest)) :
    content (n + 1) (0x5C :: s) = .ok (piece ++ more, rest) :=
  content_succ_eq_ok.2 ⟨0x5C, s, rfl, .inr (.inl ⟨rfl, piece, t, hescape, more, h, rfl⟩)⟩

theorem content_spelled (h : SpellsChars cs t) (hlimit : t.length < limit) (rest : Octets) :
    content limit (t ++ 0x22 :: rest) = .ok (Utf8.encode cs, rest) := by
  induction h generalizing limit with
  | nil =>
    obtain ⟨n, rfl⟩ : ∃ n, limit = n + 1 := ⟨limit - 1, by omega⟩
    exact content_succ_eq_ok.2 ⟨0x22, rest, rfl, .inl ⟨rfl, rfl, rfl⟩⟩
  | @cons c cs t u hfirst _ ih =>
    obtain ⟨n, rfl⟩ : ∃ n, limit = n + 1 := ⟨limit - 1, by omega⟩
    rw [List.length_append] at hlimit
    rw [List.append_assoc, Utf8.encode_cons]
    cases hfirst with
    | plain hquote hback hlow =>
      refine content_plain (utf8EncodeChar_plain hquote hback hlow) (by omega) (ih ?_)
      omega
    | short hletter =>
      refine content_escape (escape_short hletter _) (ih ?_)
      simp only [List.length_cons] at hlimit
      omega
    | unit ha hb hd he hvalue =>
      refine content_escape (codeUnit_char ha hb hd he hvalue _) (ih ?_)
      simp only [List.length_cons] at hlimit
      omega

theorem text_spelled {str : String} (h : SpellsChars str.toList t) (hlimit : t.length < limit)
    (rest : Octets) : text limit (t ++ 0x22 :: rest) = .ok (str, rest) :=
  text_eq_ok.2 ⟨_, content_spelled h hlimit rest, Utf8.decode_encode _⟩

/-! Lists, objects and values -/

/-- A reader that reads off whatever was spelled, up to a length and so many containers. -/
def ReadsSpelled (element : Octets → Except Fault (Json × Octets)) (limit room : Nat) : Prop :=
  ∀ x t, Spells x t → t.length < limit → x.nesting + 1 ≤ room →
    ∀ rest, element (t ++ rest) = .ok (x, rest)

section

variable {element : Octets → Except Fault (Json × Octets)} {xs : List Json}
  {es : List (String × Json)} {e : String × Json}

theorem items_spelled (helement : ReadsSpelled element limit room) (h : SpellsItems xs u)
    (hlimit : u.length < limit) (hn : u.length < n) (hroom : nestingItems xs ≤ room)
    (rest : Octets) :
    ∃ b s, skipSpace (u ++ 0x5D :: rest) = b :: s ∧ b ≠ 0x5D ∧
      items element n (b :: s) = .ok (xs, rest) := by
  induction xs generalizing u n with
  | nil => cases h
  | cons x xs ih =>
    obtain ⟨n, rfl⟩ : ∃ m, n = m + 1 := ⟨n - 1, by omega⟩
    obtain ⟨hx, hxs⟩ := Nat.max_le.1 hroom
    cases h with
    | @last _ w t w' hw ht hw' =>
      simp only [List.length_append] at hlimit hn
      have hread := helement x t ht (by omega) hx (w' ++ 0x5D :: rest)
      obtain ⟨b, t, rfl, hb, hclose, -⟩ := ht.head
      refine ⟨b, t ++ (w' ++ 0x5D :: rest), ?_, hclose, items_succ_eq_ok.2 ⟨x, _, hread, ?_⟩⟩
      · simpa using skipSpace_blank_cons hw hb (t ++ (w' ++ 0x5D :: rest))
      · exact ⟨0x5D, rest, skipSpace_blank_cons hw' rfl rest, .inl ⟨rfl, rfl, rfl⟩⟩
    | @cons _ _ w t w' u hw ht hw' hu =>
      simp only [List.length_append, List.length_cons] at hlimit hn
      have hread := helement x t ht (by omega) hx (w' ++ 0x2C :: (u ++ 0x5D :: rest))
      obtain ⟨c, s, hs, hc, hitems⟩ := ih hu (by omega) (n := n) (by omega) hxs
      obtain ⟨b, t, rfl, hb, hclose, -⟩ := ht.head
      refine ⟨b, t ++ (w' ++ 0x2C :: (u ++ 0x5D :: rest)), ?_, hclose,
        items_succ_eq_ok.2 ⟨x, _, hread, ?_⟩⟩
      · simpa using skipSpace_blank_cons hw hb (t ++ (w' ++ 0x2C :: (u ++ 0x5D :: rest)))
      · refine ⟨0x2C, _, skipSpace_blank_cons hw' rfl _, .inr ⟨rfl, ?_, xs, ?_, rfl⟩⟩
        · simpa [hs] using hc
        · rw [hs]
          exact hitems

theorem entry_spelled (helement : ReadsSpelled element limit room) (h : SpellsEntry e t)
    (hlimit : t.length < limit) (hn : t.length ≤ n) (hroom : e.2.nesting + 1 ≤ room)
    (rest : Octets) : entry element n (t ++ rest) = .ok (e, rest) := by
  obtain @⟨key, x, k, w, w', t, hkey, hw, hw', hx⟩ := h
  simp only [List.length_append, List.length_cons] at hlimit hn
  have hread := helement x t hx (by omega) hroom rest
  have hname := text_spelled hkey (by omega : k.length < n) (w ++ 0x3A :: (w' ++ (t ++ rest)))
  have hcolon := skipSpace_blank_cons hw (by decide : isSpace 0x3A = false) (w' ++ (t ++ rest))
  have hvalue : skipSpace (w' ++ (t ++ rest)) = t ++ rest := by
    obtain ⟨b, t, rfl, hb, -⟩ := hx.head
    exact skipSpace_blank_cons hw' hb _
  simp only [List.cons_append, List.append_assoc]
  exact entry_eq_ok.2 ⟨_, rfl, key, _, hname, _, hcolon, x, by rw [hvalue, hread], rfl⟩

theorem entries_spelled (helement : ReadsSpelled element limit room) (h : SpellsEntries es u)
    (hlimit : u.length < limit) (hn : u.length < n) (hroom : nestingEntries es ≤ room)
    (rest : Octets) :
    ∃ s, skipSpace (u ++ 0x7D :: rest) = 0x22 :: s ∧
      entries element n (0x22 :: s) = .ok (es, rest) := by
  induction es generalizing u n with
  | nil => cases h
  | cons e es ih =>
    obtain ⟨n, rfl⟩ : ∃ m, n = m + 1 := ⟨n - 1, by omega⟩
    obtain ⟨he, hes⟩ := Nat.max_le.1 hroom
    cases h with
    | @last _ w t w' hw ht hw' =>
      simp only [List.length_append] at hlimit hn
      have hread := entry_spelled helement ht (by omega) (n := n) (by omega) he
        (w' ++ 0x7D :: rest)
      obtain ⟨t, rfl⟩ := ht.head
      refine ⟨t ++ (w' ++ 0x7D :: rest), ?_, entries_succ_eq_ok.2 ⟨e, _, hread, ?_⟩⟩
      · simpa using skipSpace_blank_cons hw rfl (t ++ (w' ++ 0x7D :: rest))
      · exact ⟨0x7D, rest, skipSpace_blank_cons hw' rfl rest, .inl ⟨rfl, rfl, rfl⟩⟩
    | @cons _ _ w t w' u hw ht hw' hu =>
      simp only [List.length_append, List.length_cons] at hlimit hn
      have hread := entry_spelled helement ht (by omega) (n := n) (by omega) he
        (w' ++ 0x2C :: (u ++ 0x7D :: rest))
      obtain ⟨s, hs, hentries⟩ := ih hu (by omega) (n := n) (by omega) hes
      obtain ⟨t, rfl⟩ := ht.head
      refine ⟨t ++ (w' ++ 0x2C :: (u ++ 0x7D :: rest)), ?_,
        entries_succ_eq_ok.2 ⟨e, _, hread, ?_⟩⟩
      · simpa using skipSpace_blank_cons hw rfl (t ++ (w' ++ 0x2C :: (u ++ 0x7D :: rest)))
      · exact ⟨0x2C, _, skipSpace_blank_cons hw' rfl _, .inr ⟨rfl, 0x22, s, hs, by decide, es,
          hentries, rfl⟩⟩

theorem list_spelled (helement : ReadsSpelled element limit room) (h : SpellsItems xs u)
    (hlimit : u.length < limit) (hroom : nestingItems xs ≤ room) (rest : Octets) :
    list element limit (u ++ 0x5D :: rest) = .ok (.list xs, rest) := by
  obtain ⟨b, s, hs, hb, hitems⟩ := items_spelled helement h hlimit hlimit hroom rest
  exact list_eq_ok.2 ⟨b, s, hs, .inr ⟨hb, xs, hitems, rfl⟩⟩

theorem object_spelled (helement : ReadsSpelled element limit room) (h : SpellsEntries es u)
    (hlimit : u.length < limit) (hroom : nestingEntries es ≤ room) (rest : Octets) :
    object element limit (u ++ 0x7D :: rest) = .ok (.object es, rest) := by
  obtain ⟨s, hs, hentries⟩ := entries_spelled helement h hlimit hlimit hroom rest
  exact object_eq_ok.2 ⟨0x22, s, hs, .inr ⟨by decide, es, hentries, rfl⟩⟩

theorem valueWith_spelled (helement : ReadsSpelled element limit room) (h : Spells v t)
    (hlimit : t.length < limit) (hroom : v.nesting ≤ room) (rest : Octets) :
    valueWith element limit (t ++ rest) = .ok (v, rest) := by
  rw [valueWith_eq_ok]
  cases h with
  | null => exact ⟨0x6E, _, rfl, by simp [word]⟩
  | @text s t hchars => 
    simp only [List.length_append, List.length_cons] at hlimit
    refine ⟨0x22, t ++ 0x22 :: rest, by simp [skipSpace, isSpace], .inl ⟨rfl, s, ?_, rfl⟩⟩
    exact text_spelled hchars (by omega) rest
  | @emptyList w hw =>
    refine ⟨0x5B, w ++ 0x5D :: rest, by simp [skipSpace, isSpace], .inr (.inl ⟨rfl, ?_⟩)⟩
    exact list_eq_ok.2 ⟨0x5D, rest, skipSpace_blank_cons hw rfl rest, .inl ⟨rfl, rfl, rfl⟩⟩
  | @list xs t hitems =>
    simp only [List.length_append, List.length_cons] at hlimit
    refine ⟨0x5B, t ++ 0x5D :: rest, by simp [skipSpace, isSpace], .inr (.inl ⟨rfl, ?_⟩)⟩
    exact list_spelled helement hitems (by omega) hroom rest
  | @emptyObject w hw =>
    refine ⟨0x7B, w ++ 0x7D :: rest, by simp [skipSpace, isSpace], .inr (.inr (.inl ⟨rfl, ?_⟩))⟩
    exact object_eq_ok.2 ⟨0x7D, rest, skipSpace_blank_cons hw rfl rest, .inl ⟨rfl, rfl, rfl⟩⟩
  | @object es t hentries =>
    simp only [List.length_append, List.length_cons] at hlimit
    refine ⟨0x7B, t ++ 0x7D :: rest, by simp [skipSpace, isSpace], .inr (.inr (.inl ⟨rfl, ?_⟩))⟩
    exact object_spelled helement hentries (by omega) hroom rest

end

/-- However a value is spelled, it is read, unless it is nested too deeply. -/
theorem value_spelled (h : Spells v t) (hlimit : t.length < limit) (hroom : v.nesting ≤ room)
    (rest : Octets) : value limit room (t ++ rest) = .ok (v, rest) := by
  induction room generalizing v t rest with
  | zero => exact valueWith_spelled (fun x t _ _ hx => by omega) h hlimit hroom rest
  | succ room ih =>
    refine valueWith_spelled (fun x t ht hlen hx rest => ?_) h hlimit hroom rest
    exact ih ht hlen (by omega) rest

theorem value_blank (hw : Blank w) (s : Octets) :
    value limit room (w ++ s) = value limit room s := by
  cases room <;> simp only [value, valueWith, skipSpace_blank hw]

end Reader

open Reader

/-- However an object is spelled, it is read off the document, and nothing else is, if it is not
nested too deeply; if it is, no object is. -/
theorem read_spelled {es ds : List (String × Json)} {input : Octets} {room : Nat}
    (h : SpellsDocument (.object es) input) :
    read room input = .ok (.object ds) ↔ ds = es ∧ nesting (.object es) ≤ room := by
  obtain @⟨w, t, w', hw, ht, hw'⟩ := h
  have hlimit : t.length < (w ++ (t ++ w')).length + 1 := by
    simp only [List.length_append]
    omega
  rw [read_eq_ok, value_blank hw]
  constructor
  · rintro ⟨rest, hread, -⟩
    -- More room would not have changed what was read.
    have hmore : value _ (max room (nesting (.object es))) (t ++ w' ++ []) = _ :=
      (value_continues (Nat.le_refl _) (Nat.le_max_left _ _)).append hread (.inr nofun) []
    rw [List.append_nil, value_spelled ht hlimit (Nat.le_max_right _ _) w'] at hmore
    obtain ⟨hsame, -⟩ := Prod.mk.inj (Except.ok.inj hmore)
    obtain rfl := Json.object.inj hsame
    exact ⟨rfl, nesting_of_value hread⟩
  · rintro ⟨rfl, hroom⟩
    exact ⟨w', value_spelled ht hlimit hroom w', hw'⟩

end Json
end RemoteScreen
