import RemoteScreen.Proofs.View.Row

/-! Where the windows of a row lie: this follows from the place at which each of them was put in. And
layout, which goes through the views of a tree, packs each of them and has the rows measured later.
-/
namespace RemoteScreen

open Renderable (slotStart contentWidth)

/-- Where a window in a canvas ends that is told how wide it is. -/
def CanvasItem.right? {κ : Type} (i : CanvasItem κ) : Option Int :=
  match i.aspects.lookup "width" with
  | some (.value (.int n)) => some (i.x + n)
  | _ => none

namespace Session

variable {s t u : Session Ui} {r : Renderable} {v w m q n e canvas fuel : Nat} {x y : View}
  {slots : List (Slot Renderable)} {spacing : Int} {holders : List Nat}
  {items : List (CanvasItem Command)}

/-! Windows -/

@[simp] theorem right?_slotItem (place width : Int) (holder : Nat) :
    (slotItem place width holder).right? = some (place + width) := rfl

theorem length_rowItems (spacing : Int) (h : holders.length = slots.length) (place : Int) :
    (rowItems spacing place slots holders).length = slots.length := by
  induction slots generalizing holders place with
  | nil => rfl
  | cons slot slots ih =>
    cases holders with
    | nil => cases h
    | cons holder holders => exact congrArg Nat.succ (ih (Nat.succ.inj h) _)

/-- A window is put in as far from the first one as its slot begins from the first slot. -/
theorem getElem?_rowItems (spacing : Int) {i : Nat} (h : holders.length = slots.length)
    (hslot : slots[i]? = some slot) (place : Int) : ∃ holder, holders[i]? = some holder ∧
      (rowItems spacing place slots holders)[i]? =
        some (slotItem (place + slotStart spacing slots i) slot.width holder) := by
  induction slots generalizing holders place i with
  | nil => cases hslot
  | cons first slots ih =>
    cases holders with
    | nil => cases h
    | cons holder holders =>
      cases i with
      | zero =>
        obtain rfl := Option.some.inj hslot
        exact ⟨holder, rfl, by simp [rowItems]⟩
      | succ i =>
        obtain ⟨holder', hholder, hitem⟩ :=
          ih (Nat.succ.inj h) hslot (place + first.width + spacing)
        refine ⟨holder', hholder, ?_⟩
        rw [Renderable.slotStart_cons_succ]
        simpa [rowItems, Int.add_assoc] using hitem

/-- The windows of a row: one for each slot, in order, as wide as the slot and where the slot begins,
with the spacing between one and the next. They end where the row does. -/
structure Spread (spacing : Int) (slots : List (Slot Renderable)) (holders : List Nat)
    (items : List (CanvasItem Command)) : Prop where
  count : items.length = slots.length
  window : ∀ i slot, slots[i]? = some slot → ∃ holder, holders[i]? = some holder ∧
    items[i]? = some (slotItem (slotStart spacing slots i) slot.width holder)
  gap : ∀ i a b, items[i]? = some a → items[i + 1]? = some b →
    ∃ right, a.right? = some right ∧ b.x = right + spacing
  edge : ∀ a, items.getLast? = some a → a.right? = some (contentWidth spacing slots)
  empty : items = [] → contentWidth spacing slots = 0

theorem spread_rowItems (h : holders.length = slots.length) :
    Spread spacing slots holders (rowItems spacing 0 slots holders) := by
  have hcount := length_rowItems spacing h 0
  have hslots (i : Nat) (a : CanvasItem Command)
      (ha : (rowItems spacing 0 slots holders)[i]? = some a) : ∃ slot holder,
        slots[i]? = some slot ∧ a = slotItem (slotStart spacing slots i) slot.width holder := by
    have hi := hcount ▸ (List.getElem?_eq_some_iff.1 ha).1
    obtain ⟨holder, -, hitem⟩ :=
      getElem?_rowItems spacing h (List.getElem?_eq_getElem hi) 0
    rw [Int.zero_add] at hitem
    exact ⟨_, holder, List.getElem?_eq_getElem hi, Option.some.inj (ha.symm.trans hitem)⟩
  refine ⟨hcount, fun i slot hslot => ?_, fun i a b ha hb => ?_, fun a ha => ?_, fun hnil => ?_⟩
  · simpa using getElem?_rowItems spacing h hslot 0
  · obtain ⟨slot, holder, hslot, rfl⟩ := hslots i a ha
    obtain ⟨slot', holder', -, rfl⟩ := hslots (i + 1) b hb
    exact ⟨_, right?_slotItem _ _ _, Renderable.slotStart_succ hslot⟩
  · rw [List.getLast?_eq_getElem?, hcount] at ha
    obtain ⟨slot, holder, hslot, rfl⟩ := hslots _ a ha
    rw [← List.getLast?_eq_getElem?] at hslot
    rw [right?_slotItem, Renderable.slotStart_last hslot]
  · rw [hnil] at hcount
    rw [List.length_eq_zero_iff.1 hcount.symm]
    rfl

/-- One window ends before another one begins. -/
def LeftOf (a b : CanvasItem Command) : Prop := ∃ right, a.right? = some right ∧ right ≤ b.x

theorem Spread.apart (h : Spread spacing slots holders items) (hspacing : 0 ≤ spacing)
    (hwidths : ∀ slot ∈ slots, 0 ≤ slot.width) : items.Pairwise LeftOf := by
  refine List.pairwise_iff_getElem.2 fun i j hi hj hij => ?_
  obtain ⟨holder, -, hitem⟩ := h.window i _ (List.getElem?_eq_getElem (h.count ▸ hi))
  obtain ⟨holder', -, hitem'⟩ := h.window j _ (List.getElem?_eq_getElem (h.count ▸ hj))
  rw [List.getElem?_eq_getElem hi] at hitem
  rw [List.getElem?_eq_getElem hj] at hitem'
  rw [Option.some.inj hitem, Option.some.inj hitem']
  exact ⟨_, right?_slotItem _ _ _,
    Renderable.slotStart_le hspacing hwidths (List.getElem?_eq_getElem _) hij⟩

/-- How wide a row is can be seen from the windows in its canvas. -/
theorem Spread.width_unique {spacing' : Int} {slots' : List (Slot Renderable)} {holders' : List Nat}
    (h : Spread spacing slots holders items) (k : Spread spacing' slots' holders' items) :
    contentWidth spacing slots = contentWidth spacing' slots' := by
  cases hlast : items.getLast? with
  | none =>
    have hnil := List.getLast?_eq_none_iff.1 hlast
    rw [h.empty hnil, k.empty hnil]
  | some a => exact Option.some.inj ((h.edge a hlast).symm.trans (k.edge a hlast))

theorem Seated.length {children : List Nat} (h : Seated t canvas slots children holders) :
    children.length = slots.length ∧ holders.length = slots.length := by
  induction h with
  | nil => exact ⟨rfl, rfl⟩
  | cons _ _ ih => exact ⟨congrArg Nat.succ ih.1, congrArg Nat.succ ih.2⟩

theorem Tiled.spread (h : Tiled t x slots spacing canvas holders) :
    Spread spacing slots holders (rowItems spacing 0 slots holders) :=
  spread_rowItems h.seated.length.2

theorem Tiled.dresses (h : Tiled s x slots spacing canvas holders) (hst : Dresses s t) :
    Tiled t x slots spacing canvas holders :=
  h.sole (hst.sole s.ui.views.length s.ui.kit.widgets.length)
    (fun c hc => Nat.ne_of_lt (h.seated.lt c hc)) (Nat.ne_of_lt h.canvas_lt)

/-! Layout -/

/-- What is set for idle time when the views from `v` to before `n` are laid out: that their rows are
measured. -/
def Awaits (s : Session Ui) (v n : Nat) (errand : Errand Command) : Prop :=
  ∃ e x, v ≤ e ∧ e < n ∧ s.ui.views[e]? = some x ∧ x.kind = .hscroll ∧
    x.root = some errand.owner ∧ errand.command = .measure e

/-- The views from `v` to before `n` have been laid out. -/
structure LaidOut (v n : Nat) (s t : Session Ui) : Prop where
  dresses : Dresses s t
  errands : ∃ later, t.ui.kit.errands = s.ui.kit.errands ++ later ∧
    ∀ errand, errand ∈ later ↔ Awaits s v n errand

theorem LaidOut.of_errands (h : Dresses s t) (herrands : t.ui.kit.errands = s.ui.kit.errands)
    (v : Nat) : LaidOut v v s t := by
  refine ⟨h, [], herrands.trans (List.append_nil _).symm, fun errand => ?_⟩
  refine ⟨fun h => absurd h List.not_mem_nil, ?_⟩
  rintro ⟨e, x, he, he', -⟩
  omega

theorem LaidOut.trans {k : Nat} (h : LaidOut v k s t) (g : LaidOut k n t u) (hv : v ≤ k)
    (hn : k ≤ n) : LaidOut v n s u := by
  obtain ⟨before, hbefore, hfirst⟩ := h.errands
  obtain ⟨after, hafter, hlast⟩ := g.errands
  refine ⟨IsTrans.trans _ _ _ h.dresses g.dresses, before ++ after, ?_, fun errand => ?_⟩
  · rw [hafter, hbefore, List.append_assoc]
  · rw [List.mem_append, hfirst, hlast, Awaits, Awaits, Awaits, h.dresses.views]
    constructor
    · rintro (⟨e, x, he, he', hrest⟩ | ⟨e, x, he, he', hrest⟩)
      · exact ⟨e, x, he, Nat.lt_of_lt_of_le he' hn, hrest⟩
      · exact ⟨e, x, Nat.le_trans hv he, he', hrest⟩
    · rintro ⟨e, x, he, he', hrest⟩
      by_cases hk : e < k
      · exact .inl ⟨e, x, he, hk, hrest⟩
      · exact .inr ⟨e, x, Nat.not_lt.1 hk, he', hrest⟩

/-- A view comes before the views below it, and waits after them. -/
theorem awaits_succ (hx : s.ui.views[v]? = some x) (hroot : x.root = some w) (hn : v < n)
    (errand : Errand Command) : Awaits s v n errand ↔
      Awaits s (v + 1) n errand ∨ x.kind = .hscroll ∧ errand = ⟨w, .measure v⟩ := by
  constructor
  · rintro ⟨e, y, he, he', hy, hkind, hroot', hcommand⟩
    rcases Nat.eq_or_lt_of_le he with rfl | he
    · obtain rfl := Option.some.inj (hx.symm.trans hy)
      obtain rfl := Option.some.inj (hroot.symm.trans hroot')
      exact .inr ⟨hkind, by rw [← hcommand]⟩
    · exact .inl ⟨e, y, he, he', hy, hkind, hroot', hcommand⟩
  · rintro (⟨e, y, he, hrest⟩ | ⟨hkind, rfl⟩)
    · exact ⟨e, y, Nat.le_of_succ_le he, hrest⟩
    · exact ⟨v, x, Nat.le_refl v, hn, hx, hkind, hroot, rfl⟩

theorem Dresses.isAlive (h : Dresses s t) (hw : s.ui.kit.isAlive w = true) :
    t.ui.kit.isAlive w = true := Toolkit.isAlive_of_length_le h.length h.destroyed hw

/-- A mounted view is laid out as long as the views below it can be. -/
theorem Showing.laid (h : Showing s r v w q x) (hviews : t.ui.views = s.ui.views)
    (halive : t.ui.kit.isAlive w = true) (hn : v < n)
    (hbelow : ∀ t', Dresses t t' → Leads (x.components.forM (layoutDeep fuel)) t' fun _ u =>
      LaidOut (v + 1) n t' u) : Leads (layoutDeep (fuel + 1) v) t fun _ u => LaidOut v n t u := by
  have hx : t.ui.views[v]? = some x := hviews ▸ h.view
  refine leads_bind_eq (exec_view? v t) ?_
  simp only [hx, h.root]
  let repack (y : Widget Command) : Widget Command :=
    { y with packing := some (Aspects.ofValues x.packing) }
  let packed : Session Ui := t.withKit (t.ui.kit.update w repack)
  have hpacked : Dresses t packed := dresses_update (f := repack) (fun _ => rfl) (fun _ => rfl) t w
  refine leads_bind_eq (exec_pack halive x.packing) (leads_bind (hbelow packed hpacked) ?_)
  rintro _ u ⟨hdresses, later, hlater, hmem⟩
  have htu : Dresses t u := IsTrans.trans _ _ _ hpacked hdresses
  split
  next hkind =>
    refine ⟨⟨⟩, _, exec_whenIdle (htu.isAlive halive) _, ?_, later ++ [⟨w, .measure v⟩], ?_,
      fun errand => ?_⟩
    · exact IsTrans.trans _ _ _ htu ⟨rfl, Nat.le_refl _, rfl, fun _ _ => rfl, fun _ _ => rfl⟩
    · rw [← List.append_assoc]
      exact congrArg (· ++ _) hlater
    · rw [awaits_succ hx h.root hn, List.mem_append, List.mem_singleton, hmem]
      simp [Awaits, hkind, hpacked.views]
  next hkind =>
    refine leads_pure ⟨htu, later, hlater, fun errand => ?_⟩
    rw [awaits_succ hx h.root hn, hmem]
    simp [Awaits, hkind, hpacked.views]

mutual

/-- What is mounted is laid out, as long as its widgets stand. -/
theorem Mounted.laid : ∀ {r v n w m q}, Mounted s r v n w m q → ∀ (fuel : Nat) (t : Session Ui),
    n ≤ v + fuel → t.ui.views = s.ui.views →
    (∀ c, w ≤ c → c < m → t.ui.kit.isAlive c = true) →
      Leads (layoutDeep fuel v) t fun _ u => LaidOut v n t u
  | _, _, _, _, _, _, h@(.alone self _ owns), fuel, t, hfuel, hviews, halive => by
    obtain ⟨fuel, rfl⟩ : ∃ k, fuel = k + 1 := Nat.exists_eq_add_one.2 (by omega)
    refine self.laid hviews (halive _ (Nat.le_refl _) h.lt.2) h.lt.1 fun t' _ => ?_
    rw [owns]
    exact leads_pure (.of_errands (Std.Refl.refl t') rfl _)
  | _, v, n, w, m, _, h@(.paged self owns parts own page), fuel, t, hfuel, hviews, halive => by
    have hlt := h.lt
    obtain ⟨fuel, rfl⟩ : ∃ k, fuel = k + 1 := Nat.exists_eq_add_one.2 (by omega)
    refine self.laid hviews (halive _ (Nat.le_refl _) hlt.2) hlt.1 fun t' ht' => ?_
    rw [owns]
    refine leads_bind (page.laid fuel t' (by omega) (ht'.views.trans hviews) fun c hc hc' => ?_)
      fun _ u hu => leads_pure hu
    exact ht'.isAlive (halive c (by omega) hc')
  | _, v, n, w, m, _, h@(.filled self parts own row), fuel, t, hfuel, hviews, halive => by
    have hlt := h.lt
    obtain ⟨fuel, rfl⟩ : ∃ k, fuel = k + 1 := Nat.exists_eq_add_one.2 (by omega)
    refine self.laid hviews (halive _ (Nat.le_refl _) hlt.2) hlt.1 fun t' ht' => ?_
    refine row.laid fuel t' (by omega) (ht'.views.trans hviews) fun c hc hc' => ?_
    exact ht'.isAlive (halive c (by omega) hc')

theorem Lined.laid : ∀ {canvas slots children holders v n w m},
    Lined s canvas slots children holders v n w m → ∀ (fuel : Nat) (t : Session Ui),
    n ≤ v + fuel → t.ui.views = s.ui.views →
    (∀ c, w ≤ c → c < m → t.ui.kit.isAlive c = true) →
      Leads (children.forM (layoutDeep fuel)) t fun _ u => LaidOut v n t u
  | _, _, _, _, _, _, _, _, .nil, _, t, _, _, _ => leads_pure (.of_errands (Std.Refl.refl t) rfl _)
  | _, _, _, _, _, _, _, _, .cons _ slot rest, fuel, t, hfuel, hviews, halive => by
    have hslot := slot.lt
    have hrest := rest.le
    refine leads_bind (slot.laid fuel t (by omega) hviews fun c hc hc' => ?_) fun _ t' ht' => ?_
    · exact halive c (by omega) (by omega)
    · refine (rest.laid fuel t' (by omega) (ht'.dresses.views.trans hviews) fun c hc hc' => ?_).mono
        fun _ u hu => ht'.trans hu (Nat.le_of_lt hslot.1) hrest.1
      exact ht'.dresses.isAlive (halive c (by omega) hc')

end

end Session
end RemoteScreen
