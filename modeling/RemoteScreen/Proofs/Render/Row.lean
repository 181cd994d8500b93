import Mathlib.Algebra.BigOperators.Group.List.Basic
import Mathlib.Data.List.Forall2
import Mathlib.Tactic.Ring
import RemoteScreen.Proofs.Render.Beside
import RemoteScreen.Proofs.Session.Outcome

/-! Rows: a slot for each child, with what the child is rendered as and a width that depends on both,
and how slots lie when they are laid out from left to right. -/
namespace RemoteScreen

namespace Renderable

variable {spacing : Int} {slots : List (Slot Renderable)} {slot : Slot Renderable} {i j : Nat}

/-- Where a slot begins: after the slots before it, and the spacing behind each of them. -/
def slotStart (spacing : Int) (slots : List (Slot Renderable)) (i : Nat) : Int :=
  ((slots.take i).map fun slot => slot.width + spacing).sum

@[simp] theorem slotStart_zero (spacing : Int) (slots : List (Slot Renderable)) :
    slotStart spacing slots 0 = 0 := rfl

theorem slotStart_cons_succ (spacing : Int) (slot : Slot Renderable)
    (slots : List (Slot Renderable)) (i : Nat) :
    slotStart spacing (slot :: slots) (i + 1) =
      slot.width + spacing + slotStart spacing slots i := by
  simp [slotStart]

theorem slotStart_succ (h : slots[i]? = some slot) :
    slotStart spacing slots (i + 1) = slotStart spacing slots i + slot.width + spacing := by
  obtain ⟨hi, rfl⟩ := List.getElem?_eq_some_iff.1 h
  rw [slotStart, List.take_succ_eq_append_getElem hi, List.map_append, List.sum_append, slotStart]
  simp
  ring

theorem slotStart_mono (hspacing : 0 ≤ spacing) (hwidths : ∀ slot ∈ slots, 0 ≤ slot.width) :
    Monotone (slotStart spacing slots) := by
  refine monotone_nat_of_le_succ fun i => ?_
  by_cases hi : i < slots.length
  · have hwidth := hwidths slots[i] (List.getElem_mem hi)
    rw [slotStart_succ (List.getElem?_eq_getElem hi)]
    omega
  · have hall := Nat.not_lt.1 hi
    rw [slotStart, slotStart, List.take_of_length_le hall, List.take_of_length_le (by omega)]

/-- No slot begins before one to its left has ended. -/
theorem slotStart_le (hspacing : 0 ≤ spacing) (hwidths : ∀ slot ∈ slots, 0 ≤ slot.width)
    (h : slots[i]? = some slot) (hij : i < j) :
    slotStart spacing slots i + slot.width ≤ slotStart spacing slots j := by
  have hmono := slotStart_mono hspacing hwidths hij
  rw [Nat.succ_eq_add_one, slotStart_succ h] at hmono
  omega

theorem slotStart_length (spacing : Int) (slots : List (Slot Renderable)) :
    slotStart spacing slots slots.length =
      (slots.map Slot.width).foldr (· + ·) 0 + spacing * slots.length := by
  induction slots with
  | nil => simp
  | cons slot slots ih =>
    rw [List.length_cons, slotStart_cons_succ, ih]
    simp
    ring

/-- A row is as wide as where its last slot ends. -/
theorem slotStart_last (h : slots.getLast? = some slot) :
    slotStart spacing slots (slots.length - 1) + slot.width = contentWidth spacing slots := by
  have hne : slots ≠ [] := by
    rintro rfl
    cases h
  have hpos := List.length_pos_iff.2 hne
  rw [List.getLast?_eq_getElem?] at h
  have hend : slotStart spacing slots slots.length = _ := slotStart_length spacing slots
  rw [← Nat.sub_add_cancel hpos, slotStart_succ h, Nat.sub_add_cancel hpos] at hend
  have hcount : spacing * ((slots.length : Int) - 1) = spacing * slots.length - spacing := by ring
  rw [contentWidth, if_neg (by simp [hne]), hcount]
  omega

end Renderable

namespace Render

open Session

variable {υ : Type} {s t u : Session υ} {c : Context} {d : Descriptor} {ds : List Descriptor}
  {r : Renderable} {rs : List Renderable}

/-- The descriptors are rendered one after the other, each from what the one before has left. -/
inductive InTurn (reg : Registry Strategy) (c : Context) :
    List Descriptor → List Renderable → Session υ → Session υ → Prop
  | nil (s : Session υ) : InTurn reg c [] [] s s
  | cons {d : Descriptor} {ds : List Descriptor} {r : Renderable} {rs : List Renderable}
      {s t u : Session υ} (first : exec (dispatch reg d c) s = (.ok r, t))
      (rest : InTurn reg c ds rs t u) : InTurn reg c (d :: ds) (r :: rs) s u

theorem dispatchChildren_eq (reg : Registry Strategy) (cs : Option (List Descriptor)) (c : Context) :
    (dispatchChildren reg cs c : Act υ _) = dispatchList reg (cs.getD []) c := by
  cases cs with
  | none =>
    rw [dispatchChildren]
    exact (dispatchList.eq_1 reg c).symm
  | some ds => rw [dispatchChildren, Option.getD_some]

theorem inTurn_of_dispatchList {reg : Registry Strategy}
    (h : exec (dispatchList reg ds c) s = (.ok rs, t)) : InTurn reg c ds rs s t := by
  induction ds generalizing s rs with
  | nil =>
    rw [dispatchList] at h
    obtain ⟨hrs, rfl⟩ := Prod.mk.inj h
    obtain rfl := Except.ok.inj hrs
    exact .nil s
  | cons d ds ih =>
    rw [dispatchList] at h
    obtain ⟨r, u, hd, h⟩ := exec_bind_eq_ok h
    obtain ⟨rs', u', hds, h⟩ := exec_bind_eq_ok h
    obtain ⟨hrs, rfl⟩ := Prod.mk.inj h
    obtain rfl := Except.ok.inj hrs
    exact .cons hd (ih hds)

theorem InTurn.length {reg : Registry Strategy} (h : InTurn reg c ds rs s t) :
    rs.length = ds.length := by
  induction h with
  | nil => rfl
  | cons _ _ ih => rw [List.length_cons, List.length_cons, ih]

/-- How wide a slot is that shows a child: placeholders and stats take less room. -/
structure Fits (child : Descriptor) (slot : Slot Renderable) : Prop where
  narrow : slot.content.isUnknown = true ∨ child.type = "galaxyStats" → slot.width = 200
  wide : slot.content.isUnknown = false → child.type ∈ ["planetCard", "carousel", "hscroll"] →
    slot.width = 250

/-- The slots of a row of the built-in kind. -/
def rowSlots (children : List Descriptor) (shown : List Renderable) : List (Slot Renderable) :=
  Strategy.slots Strategy.slotWidths Strategy.defaultWidth Strategy.unknownWidth children shown

theorem fits_slotWidth (child : Descriptor) (r : Renderable) :
    Fits child ⟨Strategy.slotWidth Strategy.slotWidths Strategy.defaultWidth
      Strategy.unknownWidth child r, r⟩ where
  narrow h := by
    rw [Strategy.slotWidth]
    rcases h with h | h
    · exact if_pos h
    · rw [h]
      split <;> rfl
  wide hknown htype := by
    have hwide : ∀ tag ∈ ["planetCard", "carousel", "hscroll"],
        (Strategy.slotWidths.lookup tag).getD Strategy.defaultWidth = 250 := by decide
    rw [Strategy.slotWidth, if_neg (Bool.eq_false_iff.1 hknown)]
    exact hwide child.type htype

theorem slotWidth_nonneg (child : Descriptor) (r : Renderable) :
    0 ≤ Strategy.slotWidth Strategy.slotWidths Strategy.defaultWidth Strategy.unknownWidth child r := by
  have hall : ∀ e ∈ Strategy.slotWidths, 0 ≤ e.2 := by decide
  rw [Strategy.slotWidth]
  split
  · decide
  · cases hwidth : Strategy.slotWidths.lookup child.type with
    | none => decide
    | some width =>
      obtain ⟨before, after, heq, -⟩ := List.lookup_eq_some_iff.1 hwidth
      exact hall (child.type, width) (by simp [heq])

theorem fits_rowSlots {children : List Descriptor} {shown : List Renderable}
    (h : shown.length = children.length) :
    List.Forall₂ Fits children (rowSlots children shown) := by
  induction children generalizing shown with
  | nil => exact .nil
  | cons child children ih =>
    cases shown with
    | nil => cases h
    | cons r shown => exact .cons (fits_slotWidth child r) (ih (Nat.succ.inj h))

theorem width_rowSlots (children : List Descriptor) (shown : List Renderable) :
    ∀ slot ∈ rowSlots children shown, 0 ≤ slot.width := by
  intro slot hslot
  obtain ⟨⟨child, r⟩, -, rfl⟩ := List.mem_map.1 hslot
  exact slotWidth_nonneg child r

/-- With the built-in strategies a row that is accepted is rendered as a row. -/
theorem dispatch_row (hd : d.type = "hscroll")
    (hc : c.accepts Registry.default "hscroll" = true) (s : Session υ) :
    Leads (dispatch Registry.default d c) s fun r t => ∃ shown,
      InTurn Registry.default (c.within Strategy.containerTypes Strategy.hscrollMessage)
        d.childList shown s t ∧
      r = .hscroll d.id (d.prop "title") (rowSlots d.childList shown) Renderable.slotSpacing := by
  obtain ⟨id, type, ps, cs⟩ := d
  obtain rfl : type = "hscroll" := hd
  obtain ⟨shown, t, hshown, -⟩ : ∃ shown t, exec (dispatchList Registry.default (cs.getD [])
      (c.within Strategy.containerTypes Strategy.hscrollMessage)) s = (.ok shown, t) ∧ _ :=
    Compositional.dispatchList (dispatch_compositional Strategy.placeholder_reliable) (cs.getD []) _
      (by simp [Registry.default, Strategy.placeholder]) s
  refine ⟨_, t, ?_, shown, inTurn_of_dispatchList hshown, rfl⟩
  rw [dispatch, dispatchWith_accepted hc (s := .hscroll) rfl]
  refine exec_guarded_ok ?_
  simp [Strategy.render, Strategy.hscroll, dispatchChildren_eq, hshown]
  rfl

end Render
end RemoteScreen
