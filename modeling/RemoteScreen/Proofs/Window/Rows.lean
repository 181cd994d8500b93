import RemoteScreen.Proofs.View.Layout
import RemoteScreen.Proofs.View.Lifecycle
import RemoteScreen.Window.Application

/-! Rows on screen. A row is tiled when it is mounted, it is laid out with the views in it, and when
there is time its scroll region is made as wide as its slots. -/
namespace RemoteScreen

open Renderable (contentWidth)

namespace Toolkit

variable {κ : Type}

def scrollRegion? (k : Toolkit κ) (c : Nat) : Option (Aspect κ) :=
  (k.aspects? c).bind (List.lookup "scrollregion")

theorem scrollRegion?_update_ne {k : Toolkit κ} {w c : Nat} {f : Widget κ → Widget κ} (h : w ≠ c) :
    (k.update w f).scrollRegion? c = k.scrollRegion? c :=
  congrArg (Option.bind · _) (aspects?_update_ne h)

end Toolkit

namespace Session

open Toolkit (Extended)

variable {s t u : Session Ui} {r : Renderable} {v w m q n e canvas : Nat} {x y : View}
  {slots : List (Slot Renderable)} {spacing : Int} {holders : List Nat}

/-! Measuring -/

/-- View `e` is mounted and shows a row. -/
structure HasRow (s : Session Ui) (e : Nat) (x : View) (slots : List (Slot Renderable))
    (spacing : Int) (canvas : Nat) (holders : List Nat) : Prop where
  view : s.ui.views[e]? = some x
  renderable : ∃ id title, x.renderable = some (.hscroll id title slots spacing)
  parts : ∃ windows, x.parts = .hscroll canvas windows holders

/-- The rows that are mounted are tiled, in canvases that stand. -/
def RowsStand (s : Session Ui) : Prop := ∀ e x slots spacing canvas holders,
  HasRow s e x slots spacing canvas holders →
    s.ui.kit.isAlive canvas = true ∧ Tiled s x slots spacing canvas holders

/-- A scroll region. -/
def rowRegion (width height : Int) : Aspect Command :=
  .value (.list [.int 0, .int 0, .int width, .int height])

/-- If view `e` shows a row, the scroll region of the canvas is as wide as the row. -/
def Measured (s : Session Ui) (e : Nat) : Prop := ∀ x slots spacing canvas holders,
  HasRow s e x slots spacing canvas holders → ∃ height,
    s.ui.kit.scrollRegion? canvas = some (rowRegion (contentWidth spacing slots) height)

theorem HasRow.congr (h : HasRow t e x slots spacing canvas holders)
    (hviews : t.ui.views = s.ui.views) : HasRow s e x slots spacing canvas holders :=
  ⟨hviews ▸ h.view, h.renderable, h.parts⟩

theorem HasRow.canvas_unique {x' : View} {slots' : List (Slot Renderable)} {spacing' : Int}
    {canvas' : Nat} {holders' : List Nat} (h : HasRow s e x slots spacing canvas holders)
    (k : HasRow s e x' slots' spacing' canvas' holders') : canvas = canvas' := by
  obtain rfl := Option.some.inj (h.view.symm.trans k.view)
  obtain ⟨windows, hparts⟩ := h.parts
  obtain ⟨windows', hparts'⟩ := k.parts
  exact (Parts.hscroll.inj (hparts.symm.trans hparts')).1

theorem RowsStand.dresses (h : RowsStand s) (hst : Dresses s t) : RowsStand t := by
  intro e x slots spacing canvas holders hrow
  obtain ⟨halive, htiled⟩ := h e x slots spacing canvas holders (hrow.congr hst.views)
  exact ⟨hst.isAlive halive, htiled.dresses hst⟩

/-- The height that the slots of a row ask for. -/
def rowHeight (s : Session Ui) (holders : List Nat) : Int :=
  (holders.map s.ui.kit.requestedHeight).foldl max 0

/-- What measuring gives the canvas of a row. -/
def rowLook (width height : Int) : Aspects Command :=
  [("height", .int (max height 1)), ("scrollregion", rowRegion width height)]

def relooked (look : Aspects Command) (y : Widget Command) : Widget Command :=
  { y with aspects := Toolkit.overlay y.aspects look }

theorem exec_measure (h : HasRow s v x slots spacing canvas holders)
    (halive : s.ui.kit.isAlive canvas = true) :
    exec (measure v) s = (.ok ⟨⟩, s.withKit (s.ui.kit.update canvas
      (relooked (rowLook (contentWidth spacing slots) (rowHeight s holders))))) := by
  obtain ⟨id, title, hrenderable⟩ := h.renderable
  obtain ⟨windows, hparts⟩ := h.parts
  simp only [measure, exec_bind, exec_view?, h.view, hparts, hrenderable, exec_theKit]
  exact exec_configure halive _

/-- A view that shows no row is not measured. -/
theorem exec_measure_of_none
    (h : ∀ x slots spacing canvas holders, ¬HasRow s v x slots spacing canvas holders) :
    exec (measure v) s = (.ok ⟨⟩, s) := by
  rw [measure, exec_bind, exec_view?]
  cases hx : s.ui.views[v]? with
  | none => rfl
  | some x =>
    dsimp only
    split
    next canvas windows holders id title slots spacing hparts hrenderable =>
      exact absurd ⟨hx, ⟨id, title, hrenderable⟩, windows, hparts⟩ (h x slots spacing canvas holders)
    · rfl

/-- A row that is measured gets a scroll region that is as wide as the row. -/
theorem scrollRegion?_relooked (hcanvas : canvas < s.ui.kit.widgets.length) (width height : Int) :
    (s.ui.kit.update canvas (relooked (rowLook width height))).scrollRegion? canvas =
      some (rowRegion width height) := by
  have hlook : ((rowLook width height).map Prod.fst).Nodup := by simp [rowLook]
  rw [Toolkit.scrollRegion?, Toolkit.aspects?_update_self hcanvas]
  exact wears_overlay hlook _ _ (List.mem_cons_of_mem _ List.mem_cons_self)

/-- Measuring a row fits its scroll region, and leaves those that have been fitted fitted: a canvas
shows windows that end where the row does, so rows in one canvas are equally wide. -/
theorem measure_leads (h : RowsStand s) (v : Nat) : Leads (measure v) s fun _ t => Dresses s t ∧
    t.ui.kit.errands = s.ui.kit.errands ∧ Measured t v ∧ ∀ e, Measured s e → Measured t e := by
  by_cases hrow : ∃ x slots spacing canvas holders, HasRow s v x slots spacing canvas holders
  · obtain ⟨x, slots, spacing, canvas, holders, hrow⟩ := hrow
    obtain ⟨halive, htiled⟩ := h v x slots spacing canvas holders hrow
    let fit := relooked (rowLook (contentWidth spacing slots) (rowHeight s holders))
    have hdresses : Dresses s (s.withKit (s.ui.kit.update canvas fit)) :=
      dresses_update (f := fit) (fun _ => rfl) (fun _ => rfl) s canvas
    have hregion := scrollRegion?_relooked htiled.canvas_lt (contentWidth spacing slots)
      (rowHeight s holders)
    have hfits (e : Nat) (hfit : e = v ∨ Measured s e) :
        Measured (s.withKit (s.ui.kit.update canvas fit)) e := by
      intro x' slots' spacing' canvas' holders' hrow'
      replace hrow' : HasRow s e x' slots' spacing' canvas' holders' :=
        hrow'.congr hdresses.views
      by_cases hcanvas : canvas = canvas'
      · subst hcanvas
        have htiled' := (h e x' slots' spacing' canvas holders' hrow').2
        have hitems := Option.some.inj (htiled.items.symm.trans htiled'.items)
        have hspread := htiled.spread
        rw [hitems] at hspread
        exact ⟨rowHeight s holders, hspread.width_unique htiled'.spread ▸ hregion⟩
      · rcases hfit with rfl | hfit
        · exact absurd (hrow.canvas_unique hrow') hcanvas
        · obtain ⟨height', hregion'⟩ := hfit x' slots' spacing' canvas' holders' hrow'
          exact ⟨height', (Toolkit.scrollRegion?_update_ne hcanvas).trans hregion'⟩
    exact ⟨⟨⟩, _, exec_measure hrow halive, hdresses, rfl, hfits v (.inl rfl),
      fun e he => hfits e (.inr he)⟩
  · refine ⟨⟨⟩, s, exec_measure_of_none fun x slots spacing canvas holders hx => ?_, ?_⟩
    · exact hrow ⟨x, slots, spacing, canvas, holders, hx⟩
    · refine ⟨Std.Refl.refl s, rfl, fun x slots spacing canvas holders hx => ?_, fun _ he => he⟩
      exact absurd ⟨x, slots, spacing, canvas, holders, hx⟩ hrow

/-! Idle time -/

/-- Nothing else waits for idle time than that rows are measured. -/
def OnlyMeasures (s : Session Ui) : Prop :=
  ∀ errand ∈ s.ui.kit.errands, ∃ v, errand.command = .measure v

/-- What waits is done in turn, and each row that waits to be measured is measured. The invariant is
that rows stand: measuring leaves them where they are. -/
theorem runErrandsUpTo_leads (fuel : Nat) : ∀ s : Session Ui, RowsStand s → OnlyMeasures s →
    s.ui.kit.errands.length ≤ fuel → Leads (runErrandsUpTo fuel) s fun _ t => Dresses s t ∧
      ∀ e, (Measured s e ∨ ∃ errand ∈ s.ui.kit.errands, errand.command = .measure e) →
        Measured t e := by
  induction fuel with
  | zero =>
    intro s _ _ hlength
    have hnil := List.length_eq_zero_iff.1 (Nat.le_zero.1 hlength)
    refine leads_pure ⟨Std.Refl.refl s, fun e he => he.resolve_right ?_⟩
    rintro ⟨errand, herrand, -⟩
    exact List.not_mem_nil (hnil ▸ herrand)
  | succ fuel ih =>
    intro s hrows hmeasures hlength
    refine leads_bind_eq (exec_theKit s) ?_
    rcases herrands : s.ui.kit.errands with - | ⟨errand, rest⟩
    · rw [Toolkit.takeErrand?, herrands]
      refine leads_pure ⟨Std.Refl.refl s, fun e he => he.resolve_right ?_⟩
      rintro ⟨errand, herrand, -⟩
      exact List.not_mem_nil herrand
    · obtain ⟨v, hv⟩ := hmeasures errand (herrands ▸ List.mem_cons_self)
      let taken : Session Ui := s.withKit { s.ui.kit with errands := rest }
      have htaken : Dresses s taken := ⟨rfl, Nat.le_refl _, rfl, fun _ _ => rfl, fun _ _ => rfl⟩
      rw [Toolkit.takeErrand?, herrands]
      refine leads_bind_eq (t := taken) (exec_updateKit _ s) ?_
      rw [hv]
      refine leads_bind (measure_leads (hrows.dresses htaken) v) fun _ t ht => ?_
      obtain ⟨hdresses, hkept, hmeasured, hothers⟩ := ht
      have hst : Dresses s t := IsTrans.trans _ _ _ htaken hdresses
      have hrest : t.ui.kit.errands = rest := hkept
      refine (ih t (hrows.dresses hst) (fun later hlater => ?_) ?_).mono ?_
      · exact hmeasures later (herrands ▸ List.mem_cons_of_mem _ (hrest ▸ hlater))
      · rw [herrands, List.length_cons] at hlength
        rw [hrest]
        omega
      · rintro _ u ⟨hdresses', hall⟩
        refine ⟨IsTrans.trans _ _ _ hst hdresses', fun e he => hall e ?_⟩
        rcases he with he | ⟨later, hlater, hcommand⟩
        · exact .inl (hothers e fun x slots spacing canvas holders hrow =>
            he x slots spacing canvas holders (hrow.congr rfl))
        · rcases List.mem_cons.1 hlater with rfl | hlater
          · obtain rfl := Command.measure.inj (hv.symm.trans hcommand)
            exact .inl hmeasured
          · exact .inr ⟨later, hrest ▸ hlater, hcommand⟩

theorem runErrands_leads (hrows : RowsStand s) (hmeasures : OnlyMeasures s) :
    Leads runErrands s fun _ t => Dresses s t ∧
      ∀ errand ∈ s.ui.kit.errands, ∀ e, errand.command = .measure e → Measured t e := by
  refine leads_bind_eq (exec_theKit s) ?_
  refine (runErrandsUpTo_leads _ s hrows hmeasures (Nat.le_refl _)).mono fun _ t ⟨hst, hall⟩ => ?_
  exact ⟨hst, fun errand herrand e he => hall e (.inr ⟨errand, herrand, he⟩)⟩

instance : ViewChanges (Stays OnlyMeasures) where
  Own _ := True
  log _ _ _ _ h := h
  addRegion _ _ h := h
  subscribe _ _ _ h := h
  unsubscribe _ _ _ h := h
  addWidget _ _ h := h
  own_create := gives_created
  updateWidget _ _ _ h := h
  destroyWidget _ _ _ h errand herrand := h errand (List.mem_filter.1 herrand).1
  addErrand _ _ v h := List.forall_mem_append.2 ⟨h, List.forall_mem_singleton.2 ⟨v, rfl⟩⟩
  addView _ _ _ _ h := h
  updateView _ _ _ _ _ h := h
  own_root _ _ _ _ _ h := h fun _ _ => trivial
  named _ _ h := h
  startPolling _ _ _ h := h
  stopPolling _ _ _ h := h
  forgetPolling _ h := h

/-! Mounting and layout -/

/-- A view for `whole` has been made and mounted, and nothing that was there before has changed. -/
structure TreeRaised (whole : Renderable) (q : Nat) (s t : Session Ui) : Prop where
  mounted : Mounted t whole s.ui.views.length t.ui.views.length s.ui.kit.widgets.length
    t.ui.kit.widgets.length q
  kit : Extended s.ui.kit.widgets.length q s.ui.kit t.ui.kit
  sole : Sole s.ui.views.length s.ui.kit.widgets.length s t
  rows : ∀ e, s.ui.views.length ≤ e → RowAt s.ui.kit.widgets.length s.ui.views.length t e

theorem raise_leads (hgrown : s.ui.kit.Grown) (hq : s.ui.kit.isAlive q = true) (whole : Renderable)
    (packing : Attributes) : Leads (do
      let v ← viewOf whole packing
      mount v q
      pure v) s fun v t => v = s.ui.views.length ∧ TreeRaised whole q s t := by
  obtain ⟨x, named, hx, hview⟩ := exec_viewOf whole packing s
  let v := s.ui.views.length
  have hxv : (s.withNew x named).ui.views[v]? = some x := withNew_self s x named
  have hlength : v + 1 = (s.withNew x named).ui.views.length := (length_withNew s x named).symm
  have hmount := (erectsWell whole (s.withNew x named) v q x hgrown hq hlength hxv hx).and_exec
  refine leads_bind_eq hview (leads_bind (hmount.of_exec (exec_mount_made hxv hx q))
    fun _ t ht => leads_pure ⟨rfl, ?_⟩)
  obtain ⟨herects, hexec⟩ := ht
  refine ⟨herects.mounted, herects.kit, ?_, fun e he => ?_⟩
  · exact (sole_withNew s x named _ _).unmoved herects.unmoved rfl (hlength ▸ Nat.lt_succ_self v)
  · have hnew : e = v ∨ (s.withNew x named).ui.views.length ≤ e := by omega
    have hrow := tilesRows whole _ t v q x _ hxv hx.renderable hexec e hnew
    exact hrow.mono (Nat.le_refl _) (hlength ▸ Nat.le_succ v)

/-- The canvas of a row that has been mounted stands, and the row is tiled. -/
theorem TreeRaised.tiled {whole : Renderable} (h : TreeRaised whole q s t) (hgrown : s.ui.kit.Grown)
    (he : s.ui.views.length ≤ e) (hrow : HasRow t e x slots spacing canvas holders) :
    t.ui.kit.isAlive canvas = true ∧ Tiled t x slots spacing canvas holders := by
  obtain ⟨id, title, hrenderable⟩ := hrow.renderable
  obtain ⟨windows, hparts⟩ := hrow.parts
  obtain ⟨canvas', holders', hnew, -, htiled⟩ :=
    h.rows e he x id title slots spacing hrow.view hrenderable
  obtain ⟨rfl, -, rfl⟩ := Parts.hscroll.inj (hparts.symm.trans htiled.parts)
  exact ⟨h.kit.isAlive_new hgrown hnew htiled.canvas_lt, htiled⟩

theorem TreeRaised.rowsStand {whole : Renderable} (h : TreeRaised whole q s t)
    (hgrown : s.ui.kit.Grown) (hrows : RowsStand s) : RowsStand t := by
  intro e x slots spacing canvas holders hrow
  by_cases he : e < s.ui.views.length
  · have hold : HasRow s e x slots spacing canvas holders :=
      ⟨(h.sole.views e he (Nat.ne_of_lt he)).symm.trans hrow.view, hrow.renderable, hrow.parts⟩
    obtain ⟨halive, htiled⟩ := hrows e x slots spacing canvas holders hold
    refine ⟨h.kit.isAlive halive, htiled.sole h.sole (fun c hc => ?_) ?_⟩
    · exact Nat.ne_of_lt (htiled.seated.lt c hc)
    · exact Nat.ne_of_lt htiled.canvas_lt
  · exact h.tiled hgrown (Nat.not_lt.1 he) hrow

mutual

/-- All views of a tree that is mounted show a part of the tree, with a widget of their own. -/
theorem Mounted.showing : ∀ {r v n w m q}, Mounted t r v n w m q → ∀ e, v ≤ e → e < n →
    ∃ r' w' q' x, Showing t r' e w' q' x
  | _, v, _, _, _, _, .alone self _ _, e, he, he' => by
    obtain rfl : e = v := by omega
    exact ⟨_, _, _, _, self⟩
  | _, v, _, _, _, _, .paged self _ _ _ page, e, he, he' => by
    rcases Nat.eq_or_lt_of_le he with rfl | he
    · exact ⟨_, _, _, _, self⟩
    · exact page.showing e he he'
  | _, v, _, _, _, _, .filled self _ _ row, e, he, he' => by
    rcases Nat.eq_or_lt_of_le he with rfl | he
    · exact ⟨_, _, _, _, self⟩
    · exact row.showing e he he'

theorem Lined.showing : ∀ {canvas slots children holders v n w m},
    Lined t canvas slots children holders v n w m → ∀ e, v ≤ e → e < n →
      ∃ r' w' q' x, Showing t r' e w' q' x
  | _, _, _, _, _, _, _, _, .nil, e, he, he' => absurd he' (Nat.not_lt.2 he)
  | _, _, _, _, _, _, _, _, .cons (n := n) _ slot rest, e, he, he' => by
    by_cases hen : e < n
    · exact slot.showing e he hen
    · exact rest.showing e (Nat.not_lt.1 hen) he'

end

/-- The first view of a tree that is mounted shows the whole tree. -/
theorem Mounted.self (h : Mounted t r v n w m q) : ∃ x, Showing t r v w q x := by
  cases h with
  | alone self => exact ⟨_, self⟩
  | paged self => exact ⟨_, self⟩
  | filled self => exact ⟨_, self⟩

/-- A view of a tree that shows a row is a row view, and it is mounted. -/
theorem Showing.row (h : Showing t r e w q y) (hx : t.ui.views[e]? = some x) {id title : String}
    (hr : x.renderable = some (.hscroll id title slots spacing)) :
    x.kind = .hscroll ∧ x.root = some w := by
  obtain rfl := Option.some.inj (hx.symm.trans h.view)
  refine ⟨?_, h.root⟩
  have hvisible := Option.some.inj (h.renderable.symm.trans hr)
  rw [h.kind]
  cases r with
  | hscroll => rfl
  | _ => cases hvisible

/-- View `e` shows a row in a canvas: the view and the holder of each slot are in the canvas, and the
windows of the canvas spread over the row, none of them over another one. -/
def Displayed (t : Session Ui) (e : Nat) (slots : List (Slot Renderable)) (spacing : Int)
    (canvas : Nat) : Prop :=
  ∃ x holders items, t.ui.views[e]? = some x ∧
    x.parts = .hscroll canvas (List.range' 1 slots.length) holders ∧
    Seated t canvas slots x.components holders ∧ t.ui.kit.items? canvas = some items ∧
    Spread spacing slots holders items ∧ items.Pairwise LeftOf

theorem Tiled.displayed (h : Tiled t x slots spacing canvas holders) (hx : t.ui.views[e]? = some x)
    (hspacing : 0 ≤ spacing) (hwidths : ∀ slot ∈ slots, 0 ≤ slot.width) :
    Displayed t e slots spacing canvas :=
  ⟨x, holders, _, hx, h.parts, h.seated, h.items, h.spread, h.spread.apart hspacing hwidths⟩

/-- However it comes that a view of a row is mounted, the row is displayed. -/
theorem mount_displayed {id title : String} {a : Unit} (hx : s.ui.views[v]? = some x)
    (hkind : x.kind = .hscroll) (hr : x.renderable = some (.hscroll id title slots spacing))
    (hspacing : 0 ≤ spacing) (hwidths : ∀ slot ∈ slots, 0 ≤ slot.width)
    (hexec : exec (mount v q) s = (.ok a, t)) : ∃ canvas, Displayed t v slots spacing canvas := by
  have hmount : exec (mount v q) s = exec (mountShown (.hscroll id title slots spacing) v q) s := by
    simp [mount, depth, mountDeep, hx, hkind, ViewKind.isGroup, shownBy, hr]
  rw [hmount] at hexec
  obtain ⟨y, hy, hshown⟩ := ((mountShown_frames _ v q).secluded (Nat.zero_le v)).shown hexec hx
  obtain ⟨canvas, holders, -, -, htiled⟩ := tilesRows (.hscroll id title slots spacing) s t v q
    x a hx hr hexec v (.inl rfl) y id title slots spacing hy (hshown.trans hr)
  exact ⟨canvas, htiled.displayed hy hspacing hwidths⟩

/-- A tree is mounted and laid out. -/
theorem raise_laid (hgrown : s.ui.kit.Grown) (hq : s.ui.kit.isAlive q = true) (whole : Renderable)
    (packing : Attributes) : Leads (do
      let v ← viewOf whole packing
      mount v q
      layout v
      pure v) s fun v u => v = s.ui.views.length ∧
        ∃ t, TreeRaised whole q s t ∧ LaidOut v t.ui.views.length t u := by
  have heq : (do
      let v ← viewOf whole packing
      mount v q
      layout v
      pure v) = (do
      let v ← (do
        let v ← viewOf whole packing
        mount v q
        pure v)
      layout v
      pure v) := by simp
  rw [heq]
  refine leads_bind (raise_leads hgrown hq whole packing) fun v t ⟨hv, hraised⟩ => ?_
  subst hv
  have hdepth : exec depth t = (.ok (t.ui.views.length + 1), t) := rfl
  refine leads_bind (leads_bind_eq hdepth (hraised.mounted.laid _ t (by omega) rfl
    fun c hc hc' => hraised.kit.isAlive_new hgrown hc hc')) fun _ u hu => ?_
  exact leads_pure ⟨rfl, t, hraised, hu⟩

/-- The rows in a tree that has been laid out are tiled, and wait to be measured. -/
theorem TreeRaised.row {whole : Renderable} (h : TreeRaised whole q s t)
    (hlaid : LaidOut s.ui.views.length t.ui.views.length t u) (he : s.ui.views.length ≤ e)
    (hx : u.ui.views[e]? = some x) {id title : String}
    (hr : x.renderable = some (.hscroll id title slots spacing)) :
    (∃ canvas holders, Tiled u x slots spacing canvas holders) ∧
      ∃ root, x.root = some root ∧ ⟨root, .measure e⟩ ∈ u.ui.kit.errands := by
  obtain ⟨hdresses, later, hlater, hmem⟩ := hlaid
  rw [hdresses.views] at hx
  have hlt := (List.getElem?_eq_some_iff.1 hx).1
  obtain ⟨canvas, holders, -, -, htiled⟩ := h.rows e he x id title slots spacing hx hr
  obtain ⟨r, w, q', y, hshowing⟩ := h.mounted.showing e he hlt
  obtain ⟨hkind, hroot⟩ := hshowing.row hx hr
  exact ⟨⟨canvas, holders, htiled.dresses hdresses⟩, w, hroot, hlater ▸ List.mem_append_right _
    ((hmem _).2 ⟨e, x, he, hlt, hx, hkind, hroot, rfl⟩)⟩

/-- Every row in a tree that is mounted and laid out is displayed and waits to be measured; when idle
time comes, its scroll region gets as wide as the row is. -/
theorem raise_displayed (hgrown : s.ui.kit.Grown) (hq : s.ui.kit.isAlive q = true)
    (whole : Renderable) (packing : Attributes) (id title : String) (hspacing : 0 ≤ spacing)
    (hwidths : ∀ slot ∈ slots, 0 ≤ slot.width) : Leads (do
      let v ← viewOf whole packing
      mount v q
      layout v
      pure v) s fun v t =>
        (∃ m, Mounted t whole v t.ui.views.length s.ui.kit.widgets.length m q) ∧
        (∀ e x, v ≤ e → t.ui.views[e]? = some x →
          x.renderable = some (.hscroll id title slots spacing) →
            (∃ canvas, Displayed t e slots spacing canvas) ∧
              ∃ root, x.root = some root ∧ ⟨root, .measure e⟩ ∈ t.ui.kit.errands) ∧
        (RowsStand s → OnlyMeasures s → Leads runErrands t fun _ u => u.ui.views = t.ui.views ∧
          ∀ e x, v ≤ e → t.ui.views[e]? = some x →
            x.renderable = some (.hscroll id title slots spacing) →
              ∃ canvas height, Displayed u e slots spacing canvas ∧
                u.ui.kit.scrollRegion? canvas =
                  some (rowRegion (contentWidth spacing slots) height)) := by
  have hkeeps : Keeps (Stays OnlyMeasures) (do
      let v ← viewOf whole packing
      mount v q
      layout v
      pure v) := by
    refine keeps_bind (keeps_viewOf _ _) fun v => ?_
    exact keeps_bind (keeps_mount _ _) fun _ => keeps_bind (keeps_layout _) fun _ => keeps_pure _
  refine ((raise_laid hgrown hq whole packing).and_keeps hkeeps).mono ?_
  rintro v t ⟨⟨rfl, t₁, hraised, hlaid⟩, hmeasures⟩
  have hdresses := hlaid.dresses
  refine ⟨⟨t₁.ui.kit.widgets.length, ?_⟩, fun e x he hx hr => ?_, fun hrows hs => ?_⟩
  · rw [hdresses.views]
    exact hraised.mounted.kept ⟨fun e _ _ => by rw [hdresses.views],
      fun c _ hc => hdresses.parents c hc⟩
  · obtain ⟨⟨canvas, holders, htiled⟩, hwaits⟩ := hraised.row hlaid he hx hr
    exact ⟨⟨canvas, htiled.displayed hx hspacing hwidths⟩, hwaits⟩
  · have hstand : RowsStand t := (hraised.rowsStand hgrown hrows).dresses hdresses
    refine (runErrands_leads hstand (hmeasures hs)).mono fun _ u ⟨htu, hall⟩ => ?_
    refine ⟨htu.views, fun e x he hx hr => ?_⟩
    obtain ⟨⟨canvas, holders, htiled⟩, root, -, herrand⟩ := hraised.row hlaid he hx hr
    have hxu : u.ui.views[e]? = some x := htu.views.symm ▸ hx
    obtain ⟨height, hregion⟩ := hall _ herrand e rfl x slots spacing canvas holders
      ⟨hxu, ⟨id, title, hr⟩, _, htiled.parts⟩
    exact ⟨canvas, height, (htiled.dresses htu).displayed hxu hspacing hwidths, hregion⟩

/-- Row `r` is tiled by these slots wherever it is shown. -/
structure TilesBy (r : Renderable) (slots : List (Slot Renderable)) (spacing : Int) : Prop where
  /-- However it comes that a view of the row is mounted, it displays the slots. -/
  mounted : ∀ (s t : Session Ui) (v q : Nat) (x : View), s.ui.views[v]? = some x →
    x.kind = .hscroll → x.renderable = some r → exec (mount v q) s = (.ok ⟨⟩, t) →
      ∃ canvas, Displayed t v slots spacing canvas
  /-- Whenever the row is measured, its scroll region gets as wide as its slots are. -/
  measured : ∀ (s : Session Ui) (e canvas : Nat) (x : View) (holders : List Nat),
    HasRow s e x slots spacing canvas holders → s.ui.kit.isAlive canvas = true →
      Leads (measure e) s fun _ t => ∃ height, t.ui.kit.scrollRegion? canvas =
        some (rowRegion (contentWidth spacing slots) height)
  /-- In a tree that is mounted and laid out in any widget that stands, all views of the row display
  the slots and wait to be measured; and they are, when idle time comes. -/
  within : ∀ (s : Session Ui) (q : Nat) (whole : Renderable) (packing : Attributes),
    s.ui.kit.Grown → s.ui.kit.isAlive q = true → Leads (do
      let v ← viewOf whole packing
      mount v q
      layout v
      pure v) s fun v t =>
        (∃ m, Mounted t whole v t.ui.views.length s.ui.kit.widgets.length m q) ∧
        (∀ e x, v ≤ e → t.ui.views[e]? = some x → x.renderable = some r →
          (∃ canvas, Displayed t e slots spacing canvas) ∧
            ∃ root, x.root = some root ∧ ⟨root, .measure e⟩ ∈ t.ui.kit.errands) ∧
        (RowsStand s → OnlyMeasures s → Leads runErrands t fun _ u => u.ui.views = t.ui.views ∧
          ∀ e x, v ≤ e → t.ui.views[e]? = some x → x.renderable = some r →
            ∃ canvas height, Displayed u e slots spacing canvas ∧
              u.ui.kit.scrollRegion? canvas =
                some (rowRegion (contentWidth spacing slots) height))

theorem tilesBy (id title : String) (hspacing : 0 ≤ spacing)
    (hwidths : ∀ slot ∈ slots, 0 ≤ slot.width) :
    TilesBy (.hscroll id title slots spacing) slots spacing where
  mounted _ _ _ _ _ hx hkind hr hexec := mount_displayed hx hkind hr hspacing hwidths hexec
  measured _ _ _ _ _ hrow halive := ⟨⟨⟩, _, exec_measure hrow halive, _,
    scrollRegion?_relooked (Toolkit.lt_of_isAlive halive) _ _⟩
  within _ _ whole packing hgrown hq :=
    raise_displayed hgrown hq whole packing id title hspacing hwidths

/-- Rows are tiled. The built-in strategies render a row with a slot for each child, which holds
what the child is rendered as and is as wide as both have it. Wherever the view of the row is
mounted, alone or within any tree, the windows of its canvas are those slots in order, each where
the widths and the spacing of the slots before it put it. Measuring the row, which waits for idle
time, makes the scroll region as wide as where the last of them ends. -/
theorem row_tiles {d : Descriptor} {c : Context} (hd : d.type = "hscroll")
    (hc : c.accepts Registry.default "hscroll" = true) (s : Session Ui) :
    Leads (Render.dispatch Registry.default d c) s fun r t => ∃ slots,
      r = .hscroll d.id (d.prop "title") slots Renderable.slotSpacing ∧
      Render.InTurn Registry.default (c.within Strategy.containerTypes Strategy.hscrollMessage)
        d.childList (slots.map Slot.content) s t ∧
      List.Forall₂ Render.Fits d.childList slots ∧ TilesBy r slots Renderable.slotSpacing := by
  refine (Render.dispatch_row hd hc s).mono ?_
  rintro _ t ⟨shown, hturn, rfl⟩
  have hlength := hturn.length
  refine ⟨Render.rowSlots d.childList shown, rfl, ?_, Render.fits_rowSlots hlength, ?_⟩
  · rw [Render.rowSlots, Render.contents_slots hlength]
    exact hturn
  · exact tilesBy _ _ (by decide) (Render.width_rowSlots d.childList shown)

/-- A row with a card, a stat, a row in the row and something that no strategy is there for. -/
def mixedRow : Descriptor := ⟨"row", "hscroll", [("title", some "Worlds")], some [
  ⟨"mars", "planetCard", [("title", some "Mars")], none⟩,
  ⟨"count", "galaxyStats", [("value", some "8")], none⟩,
  ⟨"moons", "hscroll", [], some [⟨"io", "planetCard", [], none⟩]⟩, ⟨"odd", "mystery", [], none⟩]⟩

/-- The widths of the slots of a row. -/
def slotWidths? : Renderable → Option (List Int)
  | .hscroll _ _ slots _ => some (slots.map Slot.width)
  | _ => none

theorem row_tiles_mixed : mixedRow.type = "hscroll" ∧
    ({} : Context).accepts Registry.default "hscroll" = true ∧
    ({ ui := {} } : Session Ui).ui.kit.Grown ∧
    ∃ slots v u canvas height, slots.map Slot.width = [250, 200, 250, 200] ∧
      Displayed u v slots Renderable.slotSpacing canvas ∧
      u.ui.kit.scrollRegion? canvas = some (rowRegion 945 height) := by
  let s : Session Ui := { ui := {} }
  have hgrown : s.ui.kit.Grown := Toolkit.grown_withWindow
  obtain ⟨r, t₀, hexec, slots, rfl, -, -, htiles⟩ :=
    row_tiles (d := mixedRow) (c := {}) rfl (by decide) s
  have hwidths : (exec (Render.dispatch Registry.default mixedRow {}) s).1.toOption.bind
      slotWidths? = some [250, 200, 250, 200] := by decide +kernel
  rw [hexec] at hwidths
  replace hwidths : slots.map Slot.width = [250, 200, 250, 200] := Option.some.inj hwidths
  have hwidth : contentWidth Renderable.slotSpacing slots = 945 := by
    have hlength := congrArg List.length hwidths
    rw [List.length_map] at hlength
    rw [contentWidth, hwidths, hlength]
    cases slots with
    | nil => cases hlength
    | cons => rfl
  obtain ⟨v, t, -, ⟨m, hmounted⟩, -, hidle⟩ := htiles.within s window
    (.hscroll mixedRow.id (mixedRow.prop "title") slots Renderable.slotSpacing) View.pagePacking
    hgrown rfl
  obtain ⟨_, u, -, -, hrows⟩ := hidle (fun e x _ _ _ _ hrow => by cases hrow.view)
    fun errand herrand => absurd herrand List.not_mem_nil
  obtain ⟨x, hx⟩ := hmounted.self
  obtain ⟨canvas, height, hdisplayed, hregion⟩ := hrows v x (Nat.le_refl v) hx.view hx.renderable
  exact ⟨rfl, by decide, hgrown, slots, v, u, canvas, height, hwidths, hdisplayed,
    hwidth ▸ hregion⟩

end Session
end RemoteScreen
