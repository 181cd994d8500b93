import RemoteScreen.Proofs.View.Mounted
import RemoteScreen.Proofs.View.Seclusion

/-! How much building makes. In any place that stands the widgets of a view are built, as many as
its renderable asks for, and no view is made on the way. -/
namespace RemoteScreen

namespace Renderable

/-- How many widgets there are for a heading. -/
def headings (title : String) : Nat := if title = "" then 0 else 1

/-- How many widgets the view of a renderable has for itself, apart from those that its children
have and the holders of slots. -/
def outfit : Renderable → Nat
  | card .. => 4
  | stat .. => 3
  | action .. => 1
  | unknown .. => 1
  | carousel _ title _ _ => headings title + 6
  | hscroll _ title _ _ => headings title + 3
  | plain _ => 1

end Renderable

namespace Session

open Toolkit (Extended Site)
open Renderable (headings)

variable {α β : Type} {s t u : Session Ui} {a q v w n k : Nat} {x y : View}

/-! Counting -/

/-- A step that makes `n` widgets and no view. -/
def Makes (n : Nat) (m : Act Ui α) : Prop := ∀ s a t, exec m s = (.ok a, t) →
  t.ui.kit.widgets.length = s.ui.kit.widgets.length + n ∧ t.ui.views.length = s.ui.views.length

theorem makes_pure (a : α) : Makes 0 (pure a : Act Ui α) := by
  intro s b t hexec
  obtain ⟨-, rfl⟩ := Prod.mk.inj hexec
  exact ⟨rfl, rfl⟩

theorem makes_bind {m : Act Ui α} {f : α → Act Ui β} (hm : Makes n m) (hf : ∀ a, Makes k (f a)) :
    Makes (k + n) (m >>= f) := by
  intro s b u hexec
  obtain ⟨a, t, hfirst, hrest⟩ := exec_bind_eq_ok hexec
  obtain ⟨hwidgets, hviews⟩ := hm s a t hfirst
  obtain ⟨hwidgets', hviews'⟩ := hf a t b u hrest
  exact ⟨by omega, hviews'.trans hviews⟩

theorem makes_create (p : Nat) (kind : WidgetKind) (aspects : Aspects Command) :
    Makes 1 (create p kind aspects) := by
  intro s w t hexec
  obtain ⟨-, rfl⟩ := exec_create_eq_ok hexec
  exact ⟨List.length_append, rfl⟩

/-- A step that changes the toolkit, but not how many widgets there are. -/
theorem makes_onKit {f : Toolkit Command → Option (Toolkit Command × α)}
    (hf : ∀ k k' a, f k = some (k', a) → ∃ w g, k' = k.update w g) : Makes 0 (onKit f) := by
  intro s a t hexec
  rw [onKit, exec_bind, exec_theKit] at hexec
  dsimp only at hexec
  cases hk : f s.ui.kit with
  | none =>
    rw [hk] at hexec
    cases hexec
  | some next =>
    rw [hk] at hexec
    obtain ⟨-, rfl⟩ := Prod.mk.inj hexec
    obtain ⟨w, g, heq⟩ := hf _ _ _ hk
    refine ⟨?_, rfl⟩
    dsimp only
    rw [heq, length_update]
    rfl

theorem makes_change {change : Toolkit Command → Option (Toolkit Command)}
    (h : ∀ k k', change k = some k' → ∃ w f, k' = k.update w f) :
    Makes 0 (onKit fun k => (change k).map (·, ())) := by
  refine makes_onKit fun k k' _ hk => ?_
  obtain ⟨k'', hchange, heq⟩ := Option.map_eq_some_iff.1 hk
  obtain ⟨rfl, -⟩ := Prod.mk.inj heq
  exact h k k'' hchange

theorem makes_configure (w : Nat) (aspects : Aspects Command) : Makes 0 (configure w aspects) :=
  makes_change fun _ _ hk => ⟨_, _, (Option.some.inj (Option.ite_none_right_eq_some.1 hk).2).symm⟩

theorem makes_pack (w : Nat) (packing : Attributes) : Makes 0 (pack w packing) :=
  makes_change fun _ _ hk => ⟨_, _, (Option.some.inj (Option.ite_none_right_eq_some.1 hk).2).symm⟩

theorem makes_updateWidget (w : Nat) (f : Widget Command → Widget Command) :
    Makes 0 (updateKit fun k => k.update w f) := by
  intro s _ t hexec
  obtain ⟨-, rfl⟩ := Prod.mk.inj hexec
  exact ⟨length_update _ _ _, rfl⟩

theorem makes_place (p : Nat) (kind : WidgetKind) (aspects : Aspects Command)
    (packing : Attributes) : Makes 1 (place p kind aspects packing) :=
  makes_bind (makes_create p kind aspects) fun w =>
    makes_bind (makes_pack w packing) fun _ => makes_pure w

theorem makes_heading (p : Nat) (title : String) : Makes (headings title) (heading p title) := by
  unfold heading headings
  by_cases htitle : title = ""
  · rw [if_pos htitle, if_neg (not_not.2 htitle)]
    exact makes_pure ()
  · rw [if_neg htitle, if_pos htitle]
    exact makes_bind (makes_place p _ _ _) fun _ => makes_pure ()

theorem makes_updateView (v : Nat) (f : View → View) : Makes 0 (updateView v f) := by
  intro s _ t hexec
  obtain ⟨-, rfl⟩ := Prod.mk.inj ((exec_updateView v f s).symm.trans hexec)
  exact ⟨rfl, length_withView s v f⟩

theorem makes_subscribe (n l : Nat) : Makes 0 (subscribe n l : Act Ui Unit) := by
  intro s _ t hexec
  obtain ⟨-, rfl⟩ := Prod.mk.inj hexec
  exact ⟨rfl, rfl⟩

/-- A step that goes on with a view that has been read. -/
theorem makes_view {f : Option View → Act Ui α} (hf : ∀ x, Makes n (f x)) :
    Makes n (view? v >>= f) := fun s b t hexec => hf _ s b t hexec

theorem makes_showImage (n v : Nat) : Makes 0 (showImage n v) := by
  refine makes_view fun x => ?_
  have hregion {f : Option (Region Nat) → Act Ui Unit} (hf : ∀ r, Makes 0 (f r)) :
      Makes 0 (region? n >>= f) := fun s b t hexec => hf _ s b t hexec
  refine hregion fun r => ?_
  split
  · exact makes_configure _ _
  · exact makes_pure ()

theorem makes_syncNavigation (v : Nat) : Makes 0 (syncNavigation v) := by
  refine makes_view fun x => ?_
  split
  · split
    · refine makes_bind (makes_configure _ _) fun _ => ?_
      exact makes_bind (makes_updateWidget _ _) fun _ => makes_updateWidget _ _
    · exact makes_pure ()
  · exact makes_pure ()

theorem makes_buildCard (v : Nat) (title body : String) (region q : Nat) :
    Makes 4 (buildCard v title body region q) := by
  unfold buildCard
  exact makes_bind (makes_create q _ _) fun frame => makes_bind (makes_place frame _ _ _) fun _ =>
    makes_bind (makes_updateView v _) fun _ => makes_bind (makes_place frame _ _ _) fun _ =>
    makes_bind (makes_place frame _ _ _) fun _ => makes_bind (makes_showImage region v) fun _ =>
    makes_bind (makes_subscribe region v) fun _ => makes_pure frame

theorem makes_buildStat (label value : String) (q : Nat) : Makes 3 (buildStat label value q) := by
  unfold buildStat
  exact makes_bind (makes_create q _ _) fun frame => makes_bind (makes_place frame _ _ _) fun _ =>
    makes_bind (makes_place frame _ _ _) fun _ => makes_pure frame

theorem makes_buildAction (r : Renderable) (title : String) (q : Nat) :
    Makes 1 (buildAction r title q) := makes_create q _ _

theorem makes_buildUnknown (message : String) (q : Nat) : Makes 1 (buildUnknown message q) :=
  makes_create q _ _

theorem makes_buildCarousel (v : Nat) (title : String) (height : Int) (q : Nat) :
    Makes (headings title + 6) (buildCarousel v title height q) := by
  have h : Makes (5 + headings title + 1) (buildCarousel v title height q) :=
    makes_bind (makes_create q _ _) fun frame => makes_bind (makes_heading frame title) fun _ =>
      makes_bind (makes_place frame _ _ _) fun host =>
      makes_bind (makes_updateWidget host _) fun _ =>
      makes_bind (makes_place frame _ _ _) fun nav => makes_bind (makes_place nav _ _ _) fun _ =>
      makes_bind (makes_place nav _ _ _) fun _ => makes_bind (makes_place nav _ _ _) fun _ =>
      makes_bind (makes_updateView v _) fun _ => makes_pure (frame, host)
  rwa [show 5 + headings title + 1 = headings title + 6 by omega] at h

theorem makes_buildRow (v : Nat) (title : String) (q : Nat) :
    Makes (headings title + 3) (buildRow v title q) := by
  have h : Makes (2 + headings title + 1) (buildRow v title q) :=
    makes_bind (makes_create q _ _) fun frame => makes_bind (makes_heading frame title) fun _ =>
      makes_bind (makes_create frame _ _) fun canvas =>
      makes_bind (makes_create frame _ _) fun bar =>
      makes_bind (makes_configure canvas _) fun _ => makes_bind (makes_pack canvas _) fun _ =>
      makes_bind (makes_pack bar _) fun _ => makes_bind (makes_updateView v _) fun _ =>
      makes_pure (frame, canvas)
  rwa [show 2 + headings title + 1 = headings title + 3 by omega] at h

/-! Building in any place that stands -/

/-- A card is built, whether or not its region is there. -/
theorem buildCard_stands (h : Site a q s.ui.kit) (hx : s.ui.views[v]? = some x)
    (title body : String) (region : Nat) :
    Leads (buildCard v title body region q) s fun _ t => Extended a q s.ui.kit t.ui.kit ∧
      ∃ y, t.ui.views[v]? = some y ∧ y.components = x.components := by
  refine leads_bind (create_leads h (.inl rfl) _ _) fun frame s₁ ⟨h₁, hframe⟩ => ?_
  refine leads_bind (place_leads h₁.site (.inr hframe) _ _ _) fun label s₂ ⟨h₂, hlabel⟩ => ?_
  let furnish (x : View) : View := { x with parts := .card label }
  have hsite : Site a q (s₂.withView v furnish).ui.kit := h₂.site
  have hframe₃ : Fresh a (s₂.withView v furnish) frame := h₂.fresh hframe
  have hlabel₃ : Fresh a (s₂.withView v furnish) label := hlabel
  refine leads_bind_eq (exec_updateView v furnish s₂) ?_
  refine leads_bind (place_leads hsite (.inr hframe₃) _ _ _) fun _ s₄ ⟨h₄, _⟩ => ?_
  refine leads_bind (place_leads h₄.site (.inr (h₄.fresh hframe₃)) _ _ _) fun _ s₅ ⟨h₅, _⟩ => ?_
  have hlabel₅ := h₅.fresh (h₄.fresh hlabel₃)
  have hx₅ : s₅.ui.views[v]? = some (furnish x) := by
    rw [h₅.eq, h₄.eq]
    refine withView_self ?_ furnish
    rw [h₂.eq, h₁.eq]
    exact hx
  have hkit : Extended a q s.ui.kit s₅.ui.kit :=
    (h₁.trans h₂).kit.trans (h₄.trans h₅).kit
  have hshow : Leads (showImage region v) s₅ fun _ t => Builds a q s₅ t := by
    cases hr : s₅.regions[region]? with
    | none =>
      refine ⟨⟨⟩, s₅, ?_, .refl h₅.site⟩
      simp [showImage, hx₅, region?, hr]
    | some r =>
      exact (configure_leads h₅.site hlabel₅ r.look).of_exec (exec_showImage hx₅ rfl hr)
  refine leads_bind hshow fun _ s₆ h₆ => ?_
  refine leads_bind_eq (exec_modify _ _) (leads_pure ⟨hkit.trans h₆.kit, furnish x, ?_, rfl⟩)
  change s₆.ui.views[v]? = some (furnish x)
  rw [h₆.eq]
  exact hx₅

theorem buildCarousel_stands (h : Site a q s.ui.kit) (hx : s.ui.views[v]? = some x) (title : String)
    (height : Int) :
    Leads (buildCarousel v title height q) s fun b t => ∃ previous label next,
      Extended a q s.ui.kit t.ui.kit ∧ Fresh a t b.2 ∧ Fresh a t label ∧
        t.ui.views[v]? = some { x with
          parts := .carousel b.2 previous label next, components := [] } := by
  refine (buildCarousel_leads h v title height).mono ?_
  rintro ⟨frame, host⟩ t ⟨u, previous, label, next, hu, rfl, -, hparts, -⟩
  refine ⟨previous, label, next, hu.kit, hparts host (by simp), hparts label (by simp), ?_⟩
  refine withView_self ?_ _
  rw [hu.eq]
  exact hx

theorem buildRow_stands (h : Site a q s.ui.kit) (hx : s.ui.views[v]? = some x) (title : String) :
    Leads (buildRow v title q) s fun b t => Extended a q s.ui.kit t.ui.kit ∧ Fresh a t b.2 ∧
      t.ui.views[v]? = some { x with parts := .hscroll b.2 [] [], components := [] } := by
  refine (buildRow_leads h v title).mono ?_
  rintro ⟨frame, canvas⟩ t ⟨u, hu, rfl, -, hcanvas⟩
  refine ⟨hu.kit, hcanvas, withView_self ?_ _⟩
  rw [hu.eq]
  exact hx

/-- The label and the buttons of a carousel that has just been built. -/
theorem syncNavigation_leads (h : Site a q s.ui.kit) (hx : s.ui.views[v]? = some x)
    {host previous label next : Nat} (hparts : x.parts = .carousel host previous label next)
    (hlabel : Fresh a s label) : Leads (syncNavigation v) s fun _ t => Builds a q s t := by
  refine leads_bind_eq (exec_view? v s) ?_
  simp only [hx, hparts]
  refine leads_bind (configure_leads h hlabel _) fun _ t ht => ?_
  refine leads_bind (setDisabled_leads ht.site previous _) fun _ u hu => ?_
  exact (setDisabled_leads hu.site next _).mono fun _ w hw => (ht.trans hu).trans hw

/-- A slot is taken into its row, whatever the row is. -/
theorem exec_addSlot (v canvas holder child : Nat) (place width : Int) (s : Session Ui) :
    ∃ item entry, exec (addSlot v canvas holder child place width) s = (.ok ⟨⟩,
      ((s.withView v (adopting child)).withKit
        (s.ui.kit.addItem canvas entry).1).withView v (slotted item holder)) :=
  ⟨_, _, rfl⟩

end Session
end RemoteScreen
