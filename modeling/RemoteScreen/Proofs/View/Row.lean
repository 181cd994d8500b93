import RemoteScreen.Proofs.Render.Row
import RemoteScreen.Proofs.View.Visible

/-! Rows that are mounted. The slots of a row are mounted from left to right, each in a holder of its
own, and each holder is shown in the canvas of the row where the ones before it end. What is mounted
later, in the same row or anywhere else, leaves it there. -/
namespace RemoteScreen

namespace Toolkit

variable {κ : Type} {k : Toolkit κ} {w c : Nat}

def items? (k : Toolkit κ) (c : Nat) : Option (List (CanvasItem κ)) :=
  (k.widgets[c]?).map Widget.items

theorem items?_update {f : Widget κ → Widget κ} (hf : ∀ x, (f x).items = x.items) (c : Nat) :
    (k.update w f).items? c = k.items? c := by
  rw [items?, items?, update, List.getElem?_modify]
  by_cases hwc : w = c
  · cases k.widgets[c]? <;> simp [hwc, hf]
  · cases k.widgets[c]? <;> simp [hwc]

end Toolkit

namespace Session

variable {s t u : Session Ui} {a b v q w c e canvas : Nat} {x y : View} {r : Renderable}
  {slot : Slot Renderable} {slots : List (Slot Renderable)} {spacing : Int} {α : Type}

/-! Steps that change no view -/

/-- Views are as they were, and so are the widgets that there were but for their looks and how they
are packed. -/
structure Dresses (s t : Session Ui) : Prop where
  views : t.ui.views = s.ui.views
  length : s.ui.kit.widgets.length ≤ t.ui.kit.widgets.length
  destroyed : t.ui.kit.destroyed = s.ui.kit.destroyed
  parents : ∀ w < s.ui.kit.widgets.length, t.ui.kit.parent? w = s.ui.kit.parent? w
  items : ∀ w < s.ui.kit.widgets.length, t.ui.kit.items? w = s.ui.kit.items? w

instance : IsPreorder (Session Ui) Dresses where
  refl _ := ⟨rfl, Nat.le_refl _, rfl, fun _ _ => rfl, fun _ _ => rfl⟩
  trans _ _ _ h k :=
    { views := k.views.trans h.views
      length := Nat.le_trans h.length k.length
      destroyed := k.destroyed.trans h.destroyed
      parents := fun w hw => (k.parents w (Nat.lt_of_lt_of_le hw h.length)).trans (h.parents w hw)
      items := fun w hw => (k.items w (Nat.lt_of_lt_of_le hw h.length)).trans (h.items w hw) }

theorem dresses_update {f : Widget Command → Widget Command} (hparent : ∀ x, (f x).parent = x.parent)
    (hitems : ∀ x, (f x).items = x.items) (s : Session Ui) (w : Nat) :
    Dresses s { s with ui := { s.ui with kit := s.ui.kit.update w f } } where
  views := rfl
  length := Nat.le_of_eq (length_update s.ui.kit w f).symm
  destroyed := rfl
  parents c _ := Toolkit.parent?_update hparent c
  items c _ := Toolkit.items?_update hitems c

theorem dresses_append (s : Session Ui) (x : Widget Command) :
    Dresses s { s with ui := { s.ui with
      kit := { s.ui.kit with widgets := s.ui.kit.widgets ++ [x] } } } where
  views := rfl
  length := by simp
  destroyed := rfl
  parents w hw := congrArg (Option.bind · Widget.parent) (List.getElem?_append_left hw)
  items w hw := congrArg (Option.map Widget.items) (List.getElem?_append_left hw)

theorem create_dresses (p : Nat) (kind : WidgetKind) (aspects : Aspects Command) :
    Keeps Dresses (create p kind aspects) := by
  refine keeps_onKit fun s k w hk => ?_
  obtain ⟨-, heq⟩ := Option.ite_none_right_eq_some.1 hk
  obtain ⟨rfl, -⟩ := Prod.mk.inj (Option.some.inj heq)
  exact dresses_append s _

theorem change_dresses {change : Toolkit Command → Option (Toolkit Command)}
    (h : ∀ k k', change k = some k' → ∃ w f, k' = k.update w f ∧
      (∀ x, (f x).parent = x.parent) ∧ ∀ x, (f x).items = x.items) :
    Keeps Dresses (onKit fun k => (change k).map (·, ())) := by
  refine keeps_onKit fun s k _ hk => ?_
  obtain ⟨k', hchange, heq⟩ := Option.map_eq_some_iff.1 hk
  obtain ⟨rfl, -⟩ := Prod.mk.inj heq
  obtain ⟨w, f, rfl, hparent, hitems⟩ := h _ _ hchange
  exact dresses_update hparent hitems s w

theorem configure_dresses (w : Nat) (aspects : Aspects Command) :
    Keeps Dresses (configure w aspects) := change_dresses fun _ _ hk =>
  ⟨_, _, (Option.some.inj (Option.ite_none_right_eq_some.1 hk).2).symm, fun _ => rfl, fun _ => rfl⟩

theorem pack_dresses (w : Nat) (packing : Attributes) : Keeps Dresses (pack w packing) :=
  change_dresses fun _ _ hk => ⟨_, _, (Option.some.inj (Option.ite_none_right_eq_some.1 hk).2).symm,
    fun _ => rfl, fun _ => rfl⟩

theorem heading_dresses (p : Nat) (title : String) : Keeps Dresses (heading p title) := by
  unfold heading
  split
  · exact keeps_bind (keeps_bind (create_dresses p _ _) fun _ =>
      keeps_bind (pack_dresses _ _) fun _ => keeps_pure _) fun _ => keeps_pure _
  · exact keeps_pure _

/-- A new widget is the next one there is, and shows nothing yet. -/
theorem create_newest {p : Nat} {kind : WidgetKind} {aspects : Aspects Command}
    (h : exec (create p kind aspects) s = (.ok w, t)) : w = s.ui.kit.widgets.length ∧
      t.ui.kit.widgets.length = s.ui.kit.widgets.length + 1 ∧ t.ui.kit.items? w = some [] ∧
      t.ui.kit.parent? w = some p ∧ Dresses s t := by
  obtain ⟨rfl, rfl⟩ := exec_create_eq_ok h
  refine ⟨rfl, List.length_append, ?_, ?_, dresses_append s _⟩
  · exact congrArg (Option.map Widget.items) List.getElem?_concat_length
  · exact congrArg (Option.bind · Widget.parent) List.getElem?_concat_length

/-- A row is built with a canvas of its own, in which nothing is shown yet. -/
theorem exec_buildRow {title : String} {frame : Nat} (hx : s.ui.views[v]? = some x)
    (h : exec (buildRow v title q) s = (.ok (frame, canvas), t)) :
    s.ui.kit.widgets.length ≤ canvas ∧ canvas < t.ui.kit.widgets.length ∧
      t.ui.kit.items? canvas = some [] ∧ t.ui.views.length = s.ui.views.length ∧
      t.ui.views[v]? = some { x with parts := .hscroll canvas [] [], components := [] } := by
  unfold buildRow at h
  obtain ⟨frame', s₁, hs₁, h⟩ := (create_dresses q _ _).bind_eq_ok h
  obtain ⟨_, s₂, hs₂, h⟩ := (heading_dresses frame' title).bind_eq_ok h
  obtain ⟨canvas', s₃, hcanvas, h⟩ := exec_bind_eq_ok h
  obtain ⟨hcanvas, hlength, hitems, -, hs₃⟩ := create_newest hcanvas
  obtain ⟨bar, s₄, hs₄, h⟩ := (create_dresses frame' _ _).bind_eq_ok h
  obtain ⟨_, s₅, hs₅, h⟩ := (configure_dresses _ _).bind_eq_ok h
  obtain ⟨_, s₆, hs₆, h⟩ := (pack_dresses _ _).bind_eq_ok h
  obtain ⟨_, s₇, hs₇, h⟩ := (pack_dresses _ _).bind_eq_ok h
  rw [exec_bind, exec_updateView] at h
  obtain ⟨hpair, rfl⟩ := Prod.mk.inj h
  obtain ⟨rfl, rfl⟩ := Prod.mk.inj (Except.ok.inj hpair)
  have hbefore : Dresses s s₂ := IsTrans.trans _ _ _ hs₁ hs₂
  have hafter : Dresses s₃ s₇ :=
    IsTrans.trans _ _ _ hs₄ (IsTrans.trans _ _ _ hs₅ (IsTrans.trans _ _ _ hs₆ hs₇))
  have hlt : canvas' < s₃.ui.kit.widgets.length := by omega
  have hviews : s₇.ui.views = s.ui.views :=
    hafter.views.trans (hs₃.views.trans hbefore.views)
  refine ⟨hcanvas ▸ hbefore.length, Nat.lt_of_lt_of_le hlt hafter.length,
    (hafter.items canvas' hlt).trans hitems, ?_, withView_self (hviews ▸ hx) _⟩
  rw [length_withView, hviews]

/-! Where slots are shown -/

/-- What shows a holder in a canvas. -/
def slotItem (place width : Int) (holder : Nat) : CanvasItem Command :=
  ⟨place, 0, [("window", .widget holder), ("anchor", .text "nw"), ("width", .int width)]⟩

/-- What shows the holders of slots, from a place on. -/
def rowItems (spacing : Int) : Int → List (Slot Renderable) → List Nat → List (CanvasItem Command)
  | place, slot :: slots, holder :: holders =>
    slotItem place slot.width holder ::
      rowItems spacing (place + slot.width + spacing) slots holders
  | _, _, _ => []

/-- View `c` shows what is in a slot, and it is mounted in a holder in the canvas of the row. -/
structure Sits (t : Session Ui) (canvas : Nat) (slot : Slot Renderable) (c holder : Nat) : Prop where
  place : t.ui.kit.parent? holder = some canvas
  mounted : ∃ y w, t.ui.views[c]? = some y ∧ y.renderable = some slot.content.visible ∧
    y.root = some w ∧ t.ui.kit.parent? w = some holder

/-- Each slot has a view and a holder, in order. -/
inductive Seated (t : Session Ui) (canvas : Nat) :
    List (Slot Renderable) → (children holders : List Nat) → Prop
  | nil : Seated t canvas [] [] []
  | cons {slot slots c children holder holders} (first : Sits t canvas slot c holder)
      (rest : Seated t canvas slots children holders) :
      Seated t canvas (slot :: slots) (c :: children) (holder :: holders)

/-- A mounted row `x`: its slots are seated, and its canvas shows their holders in slot order. -/
structure Tiled (t : Session Ui) (x : View) (slots : List (Slot Renderable)) (spacing : Int)
    (canvas : Nat) (holders : List Nat) : Prop where
  parts : x.parts = .hscroll canvas (List.range' 1 slots.length) holders
  seated : Seated t canvas slots x.components holders
  items : t.ui.kit.items? canvas = some (rowItems spacing 0 slots holders)

/-- If view `e` shows a row, the row is tiled, with a canvas from widget `a` on and with views from
`b` on. -/
def RowAt (a b : Nat) (t : Session Ui) (e : Nat) : Prop :=
  ∀ x id title slots spacing, t.ui.views[e]? = some x →
    x.renderable = some (.hscroll id title slots spacing) → ∃ canvas holders, a ≤ canvas ∧
      (∀ c ∈ x.components, b ≤ c) ∧ Tiled t x slots spacing canvas holders

/-- Of the views and the widgets that there were only view `v` and widget `canvas` have changed, and
every widget is where it was. -/
structure Sole (v canvas : Nat) (s t : Session Ui) : Prop where
  views : ∀ e < s.ui.views.length, e ≠ v → t.ui.views[e]? = s.ui.views[e]?
  items : ∀ w < s.ui.kit.widgets.length, w ≠ canvas → t.ui.kit.items? w = s.ui.kit.items? w
  parents : ∀ w < s.ui.kit.widgets.length, t.ui.kit.parent? w = s.ui.kit.parent? w
  widgets : s.ui.kit.widgets.length ≤ t.ui.kit.widgets.length
  length : s.ui.views.length ≤ t.ui.views.length

theorem Sole.trans (h : Sole v canvas s t) (k : Sole v canvas t u) : Sole v canvas s u where
  views e he hev := (k.views e (Nat.lt_of_lt_of_le he h.length) hev).trans (h.views e he hev)
  items w hw hwc := (k.items w (Nat.lt_of_lt_of_le hw h.widgets) hwc).trans (h.items w hw hwc)
  parents w hw := (k.parents w (Nat.lt_of_lt_of_le hw h.widgets)).trans (h.parents w hw)
  widgets := Nat.le_trans h.widgets k.widgets
  length := Nat.le_trans h.length k.length

theorem Sits.sole {c holder : Nat} (h : Sits s canvas slot c holder) {canvas' : Nat}
    (hst : Sole v canvas' s t) (hc : c ≠ v) : Sits t canvas slot c holder := by
  obtain ⟨y, w, hy, hrenderable, hroot, hparent⟩ := h.mounted
  refine ⟨(hst.parents holder (Toolkit.lt_of_parent? h.place)).trans h.place, y, w, ?_, hrenderable,
    hroot, (hst.parents w (Toolkit.lt_of_parent? hparent)).trans hparent⟩
  exact (hst.views c (List.getElem?_eq_some_iff.1 hy).1 hc).trans hy

/-- The views in the slots of a row are there. -/
theorem Seated.lt {children holders : List Nat} (h : Seated s canvas slots children holders) :
    ∀ c ∈ children, c < s.ui.views.length := by
  induction h with
  | nil => exact fun c hc => absurd hc List.not_mem_nil
  | cons first rest ih =>
    obtain ⟨y, w, hy, -⟩ := first.mounted
    exact List.forall_mem_cons.2 ⟨(List.getElem?_eq_some_iff.1 hy).1, ih⟩

theorem Seated.sole {children holders : List Nat} (h : Seated s canvas slots children holders)
    {canvas' : Nat} (hst : Sole v canvas' s t) (hchildren : ∀ c ∈ children, c ≠ v) :
    Seated t canvas slots children holders := by
  induction h with
  | nil => exact .nil
  | cons first rest ih =>
    obtain ⟨hc, hrest⟩ := List.forall_mem_cons.1 hchildren
    exact .cons (first.sole hst hc) (ih hrest)

/-- The canvas of a row that is tiled is there. -/
theorem Tiled.canvas_lt {holders : List Nat} (h : Tiled s x slots spacing canvas holders) :
    canvas < s.ui.kit.widgets.length := by
  obtain ⟨y, hy, -⟩ := Option.map_eq_some_iff.1 h.items
  exact (List.getElem?_eq_some_iff.1 hy).1

theorem Tiled.sole {canvas' : Nat} {holders : List Nat}
    (h : Tiled s x slots spacing canvas' holders) (hst : Sole v canvas s t)
    (hchildren : ∀ c ∈ x.components, c ≠ v) (hcanvas : canvas' ≠ canvas) :
    Tiled t x slots spacing canvas' holders where
  parts := h.parts
  seated := h.seated.sole hst hchildren
  items := (hst.items canvas' h.canvas_lt hcanvas).trans h.items

theorem RowAt.mono {a' b' : Nat} (h : RowAt a b t e) (ha : a' ≤ a) (hb : b' ≤ b) :
    RowAt a' b' t e := by
  intro x id title slots spacing hx hr
  obtain ⟨canvas, holders, hcanvas, hchildren, htiled⟩ := h x id title slots spacing hx hr
  exact ⟨canvas, holders, Nat.le_trans ha hcanvas, fun c hc => Nat.le_trans hb (hchildren c hc),
    htiled⟩

theorem rowAt_of_length_le (h : t.ui.views.length ≤ e) : RowAt a b t e := by
  intro x _ _ _ _ hx
  exact absurd (List.getElem?_eq_some_iff.1 hx).1 (Nat.not_lt.2 h)

/-- A row is left alone by what goes on in a row whose canvas and whose view were there before. -/
theorem RowAt.sole (h : RowAt a b s e) (hst : Sole v canvas s t) (he : e < s.ui.views.length)
    (hev : e ≠ v) (ha : canvas < a) (hb : v < b) : RowAt a b t e := by
  intro x id title slots spacing hx hr
  rw [hst.views e he hev] at hx
  obtain ⟨canvas', holders, hcanvas, hchildren, htiled⟩ := h x id title slots spacing hx hr
  refine ⟨canvas', holders, hcanvas, hchildren, htiled.sole hst (fun c hc => ?_) ?_⟩
  · exact Nat.ne_of_gt (Nat.lt_of_lt_of_le hb (hchildren c hc))
  · exact Nat.ne_of_gt (Nat.lt_of_lt_of_le ha hcanvas)

/-! Mounting slots -/

theorem Unmoved.widgets_le (h : Unmoved s.ui.kit.widgets.length b s t) :
    s.ui.kit.widgets.length ≤ t.ui.kit.widgets.length := by
  refine Nat.not_lt.1 fun hlt => ?_
  have hlast := h.widgets _ hlt
  rw [List.getElem?_eq_none (Nat.le_refl _), List.getElem?_eq_getElem hlt] at hlast
  cases hlast

/-- A step that changes no view, and no widget but for its looks. -/
theorem Dresses.sole (h : Dresses s t) (v canvas : Nat) : Sole v canvas s t where
  views _ _ _ := by rw [h.views]
  items w hw _ := h.items w hw
  parents := h.parents
  widgets := h.length
  length := Nat.le_of_eq (by rw [h.views])

theorem sole_withNew (s : Session Ui) (x : View) (named v canvas : Nat) :
    Sole v canvas s (s.withNew x named) where
  views _ he _ := withNew_old he
  items _ _ _ := rfl
  parents _ _ := rfl
  widgets := Nat.le_refl _
  length := by
    rw [length_withNew]
    exact Nat.le_succ _

theorem sole_withView (s : Session Ui) (v : Nat) (f : View → View) (canvas : Nat) :
    Sole v canvas s (s.withView v f) where
  views _ _ hev := withView_ne f hev
  items _ _ _ := rfl
  parents _ _ := rfl
  widgets := Nat.le_refl _
  length := Nat.le_of_eq (length_withView s v f).symm

/-- What is mounted in a new view changes nothing that there was before the view. -/
theorem Sole.unmoved (h : Sole v canvas s t) (k : Unmoved t.ui.kit.widgets.length c t u)
    (hc : c = s.ui.views.length) (hlt : c < t.ui.views.length) : Sole v canvas s u where
  views e he hev := (k.views e (hc ▸ he)).trans (h.views e he hev)
  items w hw hwc := (congrArg (Option.map Widget.items)
    (k.widgets w (Nat.lt_of_lt_of_le hw h.widgets))).trans (h.items w hw hwc)
  parents w hw := (congrArg (Option.bind · Widget.parent)
    (k.widgets w (Nat.lt_of_lt_of_le hw h.widgets))).trans (h.parents w hw)
  widgets := Nat.le_trans h.widgets k.widgets_le
  length := hc ▸ Nat.le_of_lt (k.lt hlt)

/-- A slot gets the next widget for its holder and the next view. -/
theorem exec_addHolder {holder child : Nat} {r : Renderable}
    (h : exec (addHolder canvas r) s = (.ok (holder, child), t)) :
    holder = s.ui.kit.widgets.length ∧ child = s.ui.views.length ∧
      t.ui.kit.widgets.length = s.ui.kit.widgets.length + 1 ∧
      t.ui.kit.parent? holder = some canvas ∧ child + 1 = t.ui.views.length ∧
      (∃ z, t.ui.views[child]? = some z ∧ Made r z) ∧ ∀ v canvas', Sole v canvas' s t := by
  unfold addHolder at h
  obtain ⟨w, s₁, hcreate, h⟩ := exec_bind_eq_ok h
  obtain ⟨hw, hlength, -, hparent, hs₁⟩ := create_newest hcreate
  obtain ⟨z, named, hz, hview⟩ := exec_viewOf r View.pagePacking s₁
  rw [exec_bind, hview] at h
  obtain ⟨hpair, rfl⟩ := Prod.mk.inj h
  obtain ⟨rfl, rfl⟩ := Prod.mk.inj (Except.ok.inj hpair)
  refine ⟨hw, by rw [hs₁.views], hlength, hparent, (length_withNew s₁ z named).symm,
    ⟨z, withNew_self s₁ z named, hz⟩, fun v canvas' => ?_⟩
  exact (hs₁.sole v canvas').trans (sole_withNew s₁ z named v canvas')

/-- A slot is taken in: its holder is shown at the place, as the next item of the canvas. -/
theorem exec_addSlot_at {holder child : Nat} {place width : Int} {windows holders : List Nat}
    {items : List (CanvasItem Command)} (hx : s.ui.views[v]? = some x)
    (hparts : x.parts = .hscroll canvas windows holders)
    (hitems : s.ui.kit.items? canvas = some items)
    (h : exec (addSlot v canvas holder child place width) s = (.ok ⟨⟩, t)) :
    t.ui.views[v]? = some { x with
      components := x.components ++ [child]
      parts := .hscroll canvas (windows ++ [items.length + 1]) (holders ++ [holder]) } ∧
    t.ui.kit.items? canvas = some (items ++ [slotItem place width holder]) ∧
    t.ui.views.length = s.ui.views.length ∧
    Sole v canvas s t := by
  let item := s.ui.kit.addItem canvas (slotItem place width holder)
  have hexec : exec (addSlot v canvas holder child place width) s =
      (.ok ⟨⟩, ((s.withView v (adopting child)).withKit item.1).withView v (slotted item.2 holder)) := rfl
  obtain ⟨-, rfl⟩ := Prod.mk.inj (h.symm.trans hexec)
  obtain ⟨z, hz, rfl⟩ := Option.map_eq_some_iff.1 hitems
  have hnumber : item.2 = z.items.length + 1 := by
    simp only [item, Toolkit.addItem, Toolkit.widget?, hz]
    rfl
  have hother (w : Nat) (hw : w ≠ canvas) : item.1.widgets[w]? = s.ui.kit.widgets[w]? :=
    List.getElem?_modify_ne _ _ hw.symm
  have hself : item.1.widgets[canvas]? =
      some { z with items := z.items ++ [slotItem place width holder] } := by
    simp [item, Toolkit.addItem, Toolkit.update, hz]
  have hlength : (((s.withView v (adopting child)).withKit item.1).withView v
      (slotted item.2 holder)).ui.views.length = s.ui.views.length :=
    (length_withView _ v _).trans (length_withView s v _)
  refine ⟨?_, congrArg (Option.map Widget.items) hself, hlength, ?_⟩
  · have hxt := withView_self (s := (s.withView v (adopting child)).withKit item.1) (withView_self hx _)
      (slotted item.2 holder)
    rw [hxt]
    simp only [slotted, adopting, hparts, hnumber]
  · exact {
      views := fun e _ hev =>
        (withView_ne (s := (s.withView v (adopting child)).withKit item.1) _ hev).trans (withView_ne _ hev)
      items := fun w _ hw => congrArg (Option.map Widget.items) (hother w hw)
      parents := fun w _ => Toolkit.parent?_update (k := s.ui.kit) (w := canvas)
        (f := fun y => { y with items := y.items ++ [slotItem place width holder] })
        (fun _ => rfl) w
      widgets := Nat.le_of_eq (length_update s.ui.kit canvas _).symm
      length := Nat.le_of_eq hlength.symm }

/-- From any session the view of a renderable is mounted with all rows of the renderable tiled: its
own one, and those that are mounted below it in new views. -/
def TilesRows (r : Renderable) : Prop := ∀ (s t : Session Ui) (v q : Nat) (x : View) (n : Unit),
  s.ui.views[v]? = some x → x.renderable = some r.visible → exec (mountShown r v q) s = (.ok n, t) →
    ∀ e, e = v ∨ s.ui.views.length ≤ e → RowAt s.ui.kit.widgets.length s.ui.views.length t e

/-- A slot has been mounted in a new holder, and the row `x` has taken it in and shows the holder as the
last item of its canvas. -/
structure Lodged (r : Renderable) (v canvas : Nat) (width place : Int) (x : View)
    (windows holders : List Nat) (items : List (CanvasItem Command)) (s t : Session Ui) : Prop where
  sole : Sole v canvas s t
  row : t.ui.views[v]? = some { x with
    components := x.components ++ [s.ui.views.length]
    parts := .hscroll canvas (windows ++ [items.length + 1]) (holders ++ [s.ui.kit.widgets.length]) }
  items : t.ui.kit.items? canvas =
    some (items ++ [slotItem place width s.ui.kit.widgets.length])
  seat : Sits t canvas ⟨width, r⟩ s.ui.views.length s.ui.kit.widgets.length
  rows : ∀ e, s.ui.views.length ≤ e → e < t.ui.views.length →
    RowAt s.ui.kit.widgets.length s.ui.views.length t e
  lt : s.ui.views.length < t.ui.views.length

theorem exec_mountSlot {n : Unit} (hr : TilesRows r) (hx : s.ui.views[v]? = some x)
    {windows holders : List Nat} {items : List (CanvasItem Command)}
    (hparts : x.parts = .hscroll canvas windows holders) (hcanvas : canvas < s.ui.kit.widgets.length)
    (hitems : s.ui.kit.items? canvas = some items) {place width : Int}
    (h : exec (mountSlot r v canvas place width) s = (.ok n, t)) :
    Lodged r v canvas width place x windows holders items s t := by
  unfold mountSlot at h
  obtain ⟨⟨holder, c⟩, s₁, hadd, h⟩ := exec_bind_eq_ok h
  obtain ⟨_, s₂, hmount, htake⟩ := exec_bind_eq_ok h
  obtain ⟨rfl, rfl, hlength₁, hplace, hnewest, ⟨z, hz, hmade⟩, hs₁⟩ := exec_addHolder hadd
  let holder := s.ui.kit.widgets.length
  let c := s.ui.views.length
  have hv : v < c := (List.getElem?_eq_some_iff.1 hx).1
  have hc : c < s₁.ui.views.length := hnewest ▸ Nat.lt_succ_self c
  obtain ⟨hunmoved, y, hy, -, hrenderable, hroot, hparent⟩ :=
    mountShown_newest hnewest hz hmade.parts hmount
  have hs₂ (v' canvas' : Nat) : Sole v' canvas' s s₂ := (hs₁ v' canvas').unmoved hunmoved rfl hc
  have hx₂ : s₂.ui.views[v]? = some x :=
    ((hs₂ c canvas).views v hv (Nat.ne_of_lt hv)).trans hx
  have hitems₂ : s₂.ui.kit.items? canvas = some items :=
    ((hs₂ v holder).items canvas hcanvas (Nat.ne_of_lt hcanvas)).trans hitems
  obtain ⟨hxt, hitemst, hlengtht, hst⟩ := exec_addSlot_at hx₂ hparts hitems₂ htake
  have hseat : Sits s₂ canvas ⟨width, r⟩ c holder := by
    refine ⟨?_, y, _, hy, hrenderable.trans hmade.renderable, hroot, hparent⟩
    rw [Toolkit.parent?, hunmoved.widgets holder (hlength₁ ▸ Nat.lt_succ_self _)]
    exact hplace
  refine ⟨(hs₂ v canvas).trans hst, hxt, hitemst, hseat.sole hst (Nat.ne_of_gt hv), fun e he hlt => ?_,
    hlengtht ▸ hunmoved.lt hc⟩
  have hnew : e = c ∨ s₁.ui.views.length ≤ e := by omega
  have hrow := hr s₁ s₂ c holder z _ hz hmade.renderable hmount e hnew
  refine (hrow.sole hst (hlengtht ▸ hlt) (by omega) (by omega) (by omega)).mono ?_ ?_
  · omega
  · omega

/-- The slots of a row that are still to be mounted. -/
theorem exec_mountSlots {slots : List (Slot Renderable)} {n : Unit}
    (hslots : ∀ slot ∈ slots, TilesRows slot.content) (hx : s.ui.views[v]? = some x)
    {windows holders : List Nat} {items : List (CanvasItem Command)}
    (hparts : x.parts = .hscroll canvas windows holders) (hcanvas : canvas < s.ui.kit.widgets.length)
    (hitems : s.ui.kit.items? canvas = some items) {place : Int}
    (h : exec (mountSlots slots v canvas spacing place) s = (.ok n, t)) :
    Sole v canvas s t ∧ (∀ e, s.ui.views.length ≤ e →
      RowAt s.ui.kit.widgets.length s.ui.views.length t e) ∧
    ∃ children holders', t.ui.views[v]? = some { x with
        components := x.components ++ children
        parts := .hscroll canvas (windows ++ List.range' (items.length + 1) slots.length)
          (holders ++ holders') } ∧
      t.ui.kit.items? canvas = some (items ++ rowItems spacing place slots holders') ∧
      Seated t canvas slots children holders' ∧ ∀ c ∈ children, s.ui.views.length ≤ c := by
  induction slots generalizing s x windows holders items place with
  | nil =>
    rw [mountSlots] at h
    obtain ⟨-, rfl⟩ := Prod.mk.inj h
    refine ⟨(Std.Refl.refl s : Dresses s s).sole v canvas, fun e he => rowAt_of_length_le he,
      [], [], ?_, ?_, .nil, fun c hc => absurd hc List.not_mem_nil⟩
    · simpa [← hparts] using hx
    · simpa [rowItems] using hitems
  | cons slot slots ih =>
    obtain ⟨width, r⟩ := slot
    obtain ⟨hr, hrest⟩ := List.forall_mem_cons.1 hslots
    rw [mountSlots_cons] at h
    obtain ⟨_, u, hslot, hremaining⟩ := exec_bind_eq_ok h
    have hu := exec_mountSlot hr hx hparts hcanvas hitems hslot
    have hv : v < s.ui.views.length := (List.getElem?_eq_some_iff.1 hx).1
    obtain ⟨hut, hrows, children, holders', hxt, hitemst, hseated, hchildren⟩ :=
      ih hrest hu.row rfl (Nat.lt_of_lt_of_le hcanvas hu.sole.widgets) hu.items hremaining
    refine ⟨hu.sole.trans hut, fun e he => ?_, s.ui.views.length :: children,
      s.ui.kit.widgets.length :: holders', ?_, ?_,
      .cons (hu.seat.sole hut (Nat.ne_of_gt hv)) hseated, ?_⟩
    · by_cases hlt : e < u.ui.views.length
      · exact (hu.rows e he hlt).sole hut hlt (by omega) hcanvas hv
      · exact (hrows e (Nat.not_lt.1 hlt)).mono hu.sole.widgets hu.sole.length
    · rw [hxt]
      simp [List.range'_succ]
    · rw [hitemst]
      simp [rowItems]
    · exact List.forall_mem_cons.2 ⟨Nat.le_refl _, fun c hc =>
        Nat.le_trans hu.sole.length (hchildren c hc)⟩

/-! Trees -/

/-- Views show what they showed after a step that is secluded in any way. -/
theorem Secluded.shown {m : Act Ui α} {P : α → Prop} {n : α} (h : Secluded 0 0 m P)
    (hexec : exec m s = (.ok n, t)) (hx : s.ui.views[e]? = some x) :
    ∃ y, t.ui.views[e]? = some y ∧ y.renderable = x.renderable := by
  obtain ⟨y, hy, -, hrenderable⟩ := (h s n t
    ⟨Nat.zero_le _, Nat.zero_le _, fun _ _ _ _ _ _ => Nat.zero_le _⟩ hexec).2.1.shown e x hx
  exact ⟨y, hy, hrenderable⟩

/-- The view of what is no row: only new views can be rows then. -/
theorem tilesRows_of_new
    (hrow : ∀ id title slots spacing, r.visible ≠ .hscroll id title slots spacing)
    (h : ∀ (s t : Session Ui) (v q : Nat) (n : Unit), v < s.ui.views.length →
      exec (mountShown r v q) s = (.ok n, t) → ∀ e, s.ui.views.length ≤ e →
        RowAt s.ui.kit.widgets.length s.ui.views.length t e) : TilesRows r := by
  intro s t v q x n hx hshown hexec e he
  rcases he with rfl | he
  · obtain ⟨y, hy, hrenderable⟩ :=
      ((mountShown_frames r e q).secluded (Nat.zero_le e)).shown hexec hx
    intro z id title slots spacing hz hr
    obtain rfl := Option.some.inj (hy.symm.trans hz)
    rw [hrenderable, hshown] at hr
    exact absurd (Option.some.inj hr) (hrow id title slots spacing)
  · exact h s t v q n (List.getElem?_eq_some_iff.1 hx).1 hexec e he

/-- A view without views of its own. -/
theorem leaf_tilesRows {build : Nat → Nat → Act Ui Nat}
    (hrow : ∀ id title slots spacing, r.visible ≠ .hscroll id title slots spacing)
    (heq : ∀ v q, mountShown r v q = build v q >>= setRoot v)
    (hmakes : ∀ v q, Makes r.outfit (build v q)) : TilesRows r := by
  refine tilesRows_of_new hrow fun s t v q n _ hexec e he => rowAt_of_length_le ?_
  rw [heq] at hexec
  obtain ⟨w, s₁, hbuild, hroot⟩ := exec_bind_eq_ok hexec
  obtain ⟨-, rfl⟩ := Prod.mk.inj ((exec_updateView _ _ s₁).symm.trans hroot)
  rw [length_withView, (hmakes v q s w s₁ hbuild).2]
  exact he

theorem carousel_tilesRows (id title : String) {pages : List Renderable} (height : Int)
    (hpages : ∀ r ∈ pages, TilesRows r) : TilesRows (.carousel id title pages height) := by
  refine tilesRows_of_new (fun _ _ _ _ => nofun) fun s t v q n hv hexec e he => ?_
  rw [mountShown] at hexec
  obtain ⟨⟨frame, host⟩, s₁, hbuild, hexec⟩ := exec_bind_eq_ok hexec
  obtain ⟨hwidgets, hviews⟩ := makes_buildCarousel v title height q s _ _ hbuild
  cases pages with
  | nil =>
    obtain ⟨_, s₂, hsync, hroot⟩ := exec_bind_eq_ok hexec
    obtain ⟨-, rfl⟩ := Prod.mk.inj ((exec_updateView _ _ s₂).symm.trans hroot)
    refine rowAt_of_length_le ?_
    rw [length_withView, (makes_syncNavigation v _ _ _ hsync).2, hviews]
    exact he
  | cons first rest =>
    obtain ⟨z, named, s₂, hz, hsync, hmount⟩ := exec_mountFirst_cons hexec
    obtain ⟨hwidgets', hviews'⟩ := makes_syncNavigation v _ _ _ hsync
    rw [length_withView, length_withNew, hviews] at hviews'
    -- The page has been made after the carousel, so it is a new view.
    have hvc : v < s₁.ui.views.length := hviews.symm ▸ hv
    have hown := withView_ne (s := s₁.withNew z named) (v := v)
      (View.owning s₁.ui.views.length) (Nat.ne_of_gt hvc)
    obtain ⟨y, hy, hrenderable⟩ := (secluded_syncNavigation (Nat.zero_le v)).shown hsync
      (hown.trans (withNew_self s₁ z named))
    have hpage := (withView_ne (s := s₂) (v := v) (View.rooted frame)
      (Nat.ne_of_gt hvc)).trans hy
    have hrow := hpages first List.mem_cons_self _ t _ host y n hpage
      (hrenderable.trans hz.renderable) hmount e (by rw [length_withView]; omega)
    refine hrow.mono ?_ ?_
    · have hkept : s₂.ui.kit.widgets.length = s₁.ui.kit.widgets.length := hwidgets'
      change s.ui.kit.widgets.length ≤ s₂.ui.kit.widgets.length
      omega
    · rw [length_withView, hviews']
      exact Nat.le_succ _

theorem hscroll_tilesRows (id title : String) {slots : List (Slot Renderable)} (spacing : Int)
    (hslots : ∀ slot ∈ slots, TilesRows slot.content) :
    TilesRows (.hscroll id title slots spacing) := by
  intro s t v q x n hx hshown hexec e he
  rw [mountShown] at hexec
  obtain ⟨⟨frame, canvas⟩, s₁, hbuild, hexec⟩ := exec_bind_eq_ok hexec
  obtain ⟨_, s₂, hmount, hroot⟩ := exec_bind_eq_ok hexec
  obtain ⟨-, rfl⟩ := Prod.mk.inj ((exec_updateView _ _ s₂).symm.trans hroot)
  obtain ⟨hfresh, hcanvas, hitems, hviews, hx₁⟩ := exec_buildRow hx hbuild
  obtain ⟨-, hrows, children, holders, hx₂, hitems₂, hseated, hchildren⟩ :=
    exec_mountSlots hslots hx₁ rfl hcanvas hitems hmount
  rw [hviews] at hrows hchildren
  have hv : v < s.ui.views.length := (List.getElem?_eq_some_iff.1 hx).1
  have hst : Sole v canvas s₂ (s₂.withView v (View.rooted frame)) := sole_withView s₂ v _ canvas
  rcases he with rfl | he
  · intro y id' title' slots' spacing' hy hr
    obtain rfl := Option.some.inj ((withView_self hx₂ (View.rooted frame)).symm.trans hy)
    obtain ⟨rfl, rfl, rfl, rfl⟩ := Renderable.hscroll.inj (Option.some.inj (hshown.symm.trans hr))
    refine ⟨canvas, holders, hfresh, hchildren, rfl, ?_, hitems₂⟩
    exact hseated.sole hst fun c hc => Nat.ne_of_gt (Nat.lt_of_lt_of_le hv (hchildren c hc))
  · by_cases hes : e < s₂.ui.views.length
    · have hrow := (hrows e he).sole hst hes (by omega) hcanvas hv
      exact hrow.mono (Nat.le_trans hfresh (Nat.le_of_lt hcanvas)) (Nat.le_refl _)
    · refine rowAt_of_length_le ?_
      rw [length_withView]
      exact Nat.not_lt.1 hes

mutual

theorem tilesRows : ∀ r : Renderable, TilesRows r
  | .card _ title body region => leaf_tilesRows (fun _ _ _ _ => nofun)
      (fun v q => by rw [mountShown]) fun v q => makes_buildCard v title body region q
  | .stat _ label value _ => leaf_tilesRows (fun _ _ _ _ => nofun)
      (fun v q => by rw [mountShown]) fun _ q => makes_buildStat label value q
  | .action id title sink => leaf_tilesRows (fun _ _ _ _ => nofun)
      (fun v q => by rw [mountShown]) fun _ q => makes_buildAction (.action id title sink) title q
  | .unknown _ _ message => leaf_tilesRows (fun _ _ _ _ => nofun)
      (fun v q => by rw [mountShown]) fun _ q => makes_buildUnknown message q
  | .plain _ => leaf_tilesRows (fun _ _ _ _ => nofun)
      (fun v q => by rw [mountShown]) fun _ q => makes_buildUnknown Renderable.unknownMessage q
  | .carousel id title pages height => carousel_tilesRows id title height (tilesRows_pages pages)
  | .hscroll id title slots gap => hscroll_tilesRows id title gap (tilesRows_slots slots)

theorem tilesRows_pages : ∀ pages : List Renderable, ∀ r ∈ pages, TilesRows r
  | [] => fun _ h => absurd h List.not_mem_nil
  | r :: pages => List.forall_mem_cons.2 ⟨tilesRows r, tilesRows_pages pages⟩

theorem tilesRows_slots : ∀ slots : List (Slot Renderable), ∀ slot ∈ slots, TilesRows slot.content
  | [] => fun _ h => absurd h List.not_mem_nil
  | ⟨_, r⟩ :: slots => List.forall_mem_cons.2 ⟨tilesRows r, tilesRows_slots slots⟩

end

end Session
end RemoteScreen
