import RemoteScreen.Proofs.Session.Outcome
import RemoteScreen.Proofs.Toolkit.Tree
import RemoteScreen.Proofs.View.Changes

/-! Building widgets. In a place that stands every step of a build comes to its end: it adds widgets
in that place, and leaves what was there as it was. -/
namespace RemoteScreen

/-- A widget that can be used or not stays where it is and looks the same. -/
theorem Widget.setDisabled_kept {κ : Type} (x : Widget κ) (on : Bool) :
    (x.setDisabled on).parent = x.parent ∧ (x.setDisabled on).aspects = x.aspects := by
  unfold Widget.setDisabled
  split
  · split <;> exact ⟨rfl, rfl⟩
  · exact ⟨rfl, rfl⟩

namespace View

/-! What mounting a view, turning its pages and destroying it change in the view -/

def rooted (w : Nat) (x : View) : View := { x with root := some w }

def uprooted (x : View) : View := { x with root := none }

def furnished (parts : Parts) (x : View) : View := { x with parts, components := [] }

def owning (c : Nat) (x : View) : View := { x with components := [c] }

def leafed (i : Nat) (x : View) : View := { x with index := i }

end View

namespace Session

open Toolkit (Extended Site)

variable {s t u : Session Ui} {a q w : Nat}

def withKit (s : Session Ui) (k : Toolkit Command) : Session Ui :=
  { s with ui := { s.ui with kit := k } }

/-- Only widgets have changed, by building in widget `q` since there were `a` of them. -/
structure Builds (a q : Nat) (s t : Session Ui) : Prop where
  eq : t = s.withKit t.ui.kit
  kit : Extended a q s.ui.kit t.ui.kit
  site : Site a q t.ui.kit

theorem Builds.refl (h : Site a q s.ui.kit) : Builds a q s s := ⟨rfl, .refl a q _, h⟩

theorem Builds.trans (h : Builds a q s t) (g : Builds a q t u) : Builds a q s u where
  eq := g.eq.trans (by rw [h.eq]; rfl)
  kit := h.kit.trans g.kit
  site := g.site

theorem Builds.of_kit (h : Site a q s.ui.kit) {k : Toolkit Command}
    (hk : Extended a q s.ui.kit k) : Builds a q s (s.withKit k) := ⟨rfl, hk, hk.site h⟩

/-- What is built in a widget that has been built in widget `q` is built in widget `q`. -/
theorem Builds.widen {p : Nat} (h : Builds s.ui.kit.widgets.length p s t) (hp : p = q ∨ a ≤ p)
    (hsite : Site a q s.ui.kit) : Builds a q s t := by
  have hkit := h.kit.widen hp hsite.base
  exact ⟨h.eq, hkit, hkit.site hsite⟩

/-- A widget that has been made since there were `a` of them. -/
def Fresh (a : Nat) (s : Session Ui) (w : Nat) : Prop := a ≤ w ∧ w < s.ui.kit.widgets.length

theorem Builds.fresh (h : Builds a q s t) (hw : Fresh a s w) : Fresh a t w :=
  ⟨hw.1, Nat.lt_of_lt_of_le hw.2 h.kit.length⟩

theorem Fresh.isAlive (hw : Fresh a s w) (h : Site a q s.ui.kit) : s.ui.kit.isAlive w = true :=
  h.fresh w hw.1 hw.2

/-! Single widgets -/

theorem exec_create_eq_ok {p : Nat} {kind : WidgetKind} {aspects : Aspects Command}
    (h : exec (create p kind aspects) s = (.ok w, t)) : w = s.ui.kit.widgets.length ∧
      t = s.withKit { s.ui.kit with
        widgets := s.ui.kit.widgets ++ [{ kind, parent := some p, aspects }] } := by
  rw [create, onKit, exec_bind, exec_theKit] at h
  dsimp only at h
  by_cases halive : s.ui.kit.isAlive p = true
  · rw [Toolkit.create?, if_pos halive] at h
    obtain ⟨hw, rfl⟩ := Prod.mk.inj h
    exact ⟨(Except.ok.inj hw).symm, rfl⟩
  · rw [Toolkit.create?, if_neg halive] at h
    cases h

theorem create_leads (h : Site a q s.ui.kit) {p : Nat} (hp : p = q ∨ Fresh a s p)
    (kind : WidgetKind) (aspects : Aspects Command) :
    Leads (create p kind aspects) s fun w t => Builds a q s t ∧ Fresh a t w := by
  have halive : s.ui.kit.isAlive p = true := by
    rcases hp with rfl | hp
    · exact h.place
    · exact hp.isAlive h
  have hroom : p = q ∨ a ≤ p := hp.imp_right And.left
  refine ⟨s.ui.kit.widgets.length, s.withKit { s.ui.kit with
    widgets := s.ui.kit.widgets ++ [{ kind, parent := some p, aspects }] }, ?_, ?_, ?_⟩
  · simp [create, onKit, Toolkit.create?, halive, withKit]
  · exact .of_kit h (.create h halive hroom _ rfl)
  · exact ⟨h.base, by simp [withKit]⟩

theorem exec_pack (hw : s.ui.kit.isAlive w = true) (packing : Attributes) :
    exec (pack w packing) s = (.ok ⟨⟩, s.withKit (s.ui.kit.update w fun x =>
      { x with packing := some (Aspects.ofValues packing) })) := by
  simp [pack, onKit, Toolkit.pack?, hw, withKit]

theorem pack_leads (h : Site a q s.ui.kit) (hw : s.ui.kit.isAlive w = true) (packing : Attributes) :
    Leads (pack w packing) s fun _ t => Builds a q s t :=
  ⟨⟨⟩, _, exec_pack hw packing, .of_kit h (.update (fun _ => rfl) (.inr fun _ => rfl))⟩

theorem place_leads (h : Site a q s.ui.kit) {p : Nat} (hp : p = q ∨ Fresh a s p)
    (kind : WidgetKind) (aspects : Aspects Command) (packing : Attributes) :
    Leads (place p kind aspects packing) s fun w t => Builds a q s t ∧ Fresh a t w := by
  refine leads_bind (create_leads h hp kind aspects) fun w t ⟨ht, hw⟩ => ?_
  refine leads_bind (pack_leads ht.site (hw.isAlive ht.site) packing) fun _ u hu => ?_
  exact leads_pure ⟨ht.trans hu, hu.fresh hw⟩

theorem exec_configure (hw : s.ui.kit.isAlive w = true) (aspects : Aspects Command) :
    exec (configure w aspects) s = (.ok ⟨⟩, s.withKit (s.ui.kit.update w fun x =>
      { x with aspects := Toolkit.overlay x.aspects aspects })) := by
  simp [configure, onKit, Toolkit.configure?, hw, withKit]

theorem configure_leads (h : Site a q s.ui.kit) (hw : Fresh a s w) (aspects : Aspects Command) :
    Leads (configure w aspects) s fun _ t => Builds a q s t :=
  ⟨⟨⟩, _, exec_configure (hw.isAlive h) aspects,
    .of_kit h (.update (fun _ => rfl) (.inl hw.1))⟩

/-- A change of a widget that stays where it is and looks the same. -/
theorem updateWidget_leads (h : Site a q s.ui.kit) {f : Widget Command → Widget Command}
    (hparent : ∀ x, (f x).parent = x.parent) (haspects : ∀ x, (f x).aspects = x.aspects) :
    Leads (updateKit fun k => k.update w f) s fun _ t => Builds a q s t :=
  ⟨⟨⟩, s.withKit (s.ui.kit.update w f), rfl, .of_kit h (.update hparent (.inr haspects))⟩

theorem setDisabled_leads (h : Site a q s.ui.kit) (w : Nat) (on : Bool) :
    Leads (setDisabled w on) s fun _ t => Builds a q s t :=
  updateWidget_leads h (fun x => (x.setDisabled_kept on).1) fun x => (x.setDisabled_kept on).2

theorem heading_leads (h : Site a q s.ui.kit) {p : Nat} (hp : p = q ∨ Fresh a s p)
    (title : String) : Leads (heading p title) s fun _ t => Builds a q s t := by
  unfold heading
  split
  · refine leads_bind (place_leads h hp _ _ _) fun _ t ⟨ht, _⟩ => ?_
    exact leads_pure ht
  · exact leads_pure (.refl h)

/-! Views without parts -/

theorem buildStat_leads (h : Site a q s.ui.kit) (label value : String) :
    Leads (buildStat label value q) s fun w t => Builds a q s t ∧ Fresh a t w := by
  refine leads_bind (create_leads h (.inl rfl) _ _) fun frame t ⟨ht, hframe⟩ => ?_
  refine leads_bind (place_leads ht.site (.inr hframe) _ _ _) fun _ u ⟨hu, _⟩ => ?_
  refine leads_bind (place_leads hu.site (.inr (hu.fresh hframe)) _ _ _) fun _ v ⟨hv, _⟩ => ?_
  exact leads_pure ⟨(ht.trans hu).trans hv, hv.fresh (hu.fresh hframe)⟩

theorem buildAction_leads (h : Site a q s.ui.kit) (r : Renderable) (title : String) :
    Leads (buildAction r title q) s fun w t => Builds a q s t ∧ Fresh a t w :=
  create_leads h (.inl rfl) _ _

theorem buildUnknown_leads (h : Site a q s.ui.kit) (message : String) :
    Leads (buildUnknown message q) s fun w t => Builds a q s t ∧ Fresh a t w :=
  create_leads h (.inl rfl) _ _

/-! Views that go on using some of their widgets -/

/-- A session in which one view has changed. -/
def withView (s : Session Ui) (v : Nat) (f : View → View) : Session Ui :=
  { s with ui := { s.ui with views := s.ui.views.modify v f } }

/-- A view with one more view of its own. -/
def adopting (c : Nat) (x : View) : View := { x with components := x.components ++ [c] }

@[simp] theorem exec_updateView (v : Nat) (f : View → View) (s : Session Ui) :
    exec (updateView v f) s = (.ok ⟨⟩, s.withView v f) := rfl

theorem buildCarousel_leads (h : Site a q s.ui.kit) (v : Nat) (title : String) (height : Int) :
    Leads (buildCarousel v title height q) s fun r t =>
      ∃ u previous label next, Builds a q s u ∧
        t = u.withView v (fun x => { x with
          parts := .carousel r.2 previous label next, components := [] }) ∧
        Fresh a u r.1 ∧ (∀ w ∈ [r.2, previous, label, next], Fresh a u w) ∧ previous ≠ next := by
  refine leads_bind (create_leads h (.inl rfl) _ _) fun frame s₁ ⟨h₁, hframe⟩ => ?_
  refine leads_bind (heading_leads h₁.site (.inr hframe) title) fun _ s₂ h₂ => ?_
  have hframe₂ := h₂.fresh hframe
  refine leads_bind (place_leads h₂.site (.inr hframe₂) _ _ _) fun host s₃ ⟨h₃, hhost⟩ => ?_
  refine leads_bind (updateWidget_leads h₃.site (fun _ => rfl) fun _ => rfl) fun _ s₄ h₄ => ?_
  have hframe₄ := h₄.fresh (h₃.fresh hframe₂)
  refine leads_bind (place_leads h₄.site (.inr hframe₄) _ _ _) fun nav s₅ ⟨h₅, hnav⟩ => ?_
  refine leads_bind (place_leads h₅.site (.inr hnav) _ _ _) fun previous s₆ ⟨h₆, hprevious⟩ => ?_
  have hnav₆ := h₆.fresh hnav
  refine leads_bind (place_leads h₆.site (.inr hnav₆) _ _ _) fun label s₇ ⟨h₇, hlabel⟩ => ?_
  have hnav₇ := h₇.fresh hnav₆
  have hprevious₇ := h₇.fresh hprevious
  -- The other button is made when the first one is there already.
  have hsite₇ := h₇.site.grown.site (hnav₇.isAlive h₇.site)
  refine leads_bind (place_leads hsite₇ (.inl rfl) _ _ _) fun next s₈ ⟨h₈', hnext⟩ => ?_
  have h₈ : Builds a q s₇ s₈ := h₈'.widen (.inr hnav₇.1) h₇.site
  refine leads_bind_eq (exec_updateView _ _ _) ?_
  have hrest : Builds a q s₄ s₈ := ((h₅.trans h₆).trans h₇).trans h₈
  have hall : Builds a q s s₈ := (((h₁.trans h₂).trans h₃).trans h₄).trans hrest
  refine leads_pure ⟨s₈, previous, label, next, hall, rfl, hrest.fresh hframe₄, ?_, ?_⟩
  · simp only [List.forall_mem_cons]
    exact ⟨hrest.fresh (h₄.fresh hhost), h₈.fresh hprevious₇, h₈.fresh hlabel,
      ⟨Nat.le_trans h₇.site.base hnext.1, hnext.2⟩, fun w hw => absurd hw List.not_mem_nil⟩
  · exact Nat.ne_of_lt (Nat.lt_of_lt_of_le hprevious₇.2 hnext.1)

theorem buildRow_leads (h : Site a q s.ui.kit) (v : Nat) (title : String) :
    Leads (buildRow v title q) s fun r t => ∃ u, Builds a q s u ∧
      t = u.withView v (fun x => { x with parts := .hscroll r.2 [] [], components := [] }) ∧
      Fresh a u r.1 ∧ Fresh a u r.2 := by
  refine leads_bind (create_leads h (.inl rfl) _ _) fun frame s₁ ⟨h₁, hframe⟩ => ?_
  refine leads_bind (heading_leads h₁.site (.inr hframe) title) fun _ s₂ h₂ => ?_
  have hframe₂ := h₂.fresh hframe
  refine leads_bind (create_leads h₂.site (.inr hframe₂) _ _) fun canvas s₃ ⟨h₃, hcanvas⟩ => ?_
  have hframe₃ := h₃.fresh hframe₂
  refine leads_bind (create_leads h₃.site (.inr hframe₃) _ _) fun bar s₄ ⟨h₄, hbar⟩ => ?_
  have hcanvas₄ := h₄.fresh hcanvas
  refine leads_bind (configure_leads h₄.site hcanvas₄ _) fun _ s₅ h₅ => ?_
  have hcanvas₅ := (h₅.fresh hcanvas₄).isAlive h₅.site
  refine leads_bind (pack_leads h₅.site hcanvas₅ _) fun _ s₆ h₆ => ?_
  have hbar₆ := (h₆.fresh (h₅.fresh hbar)).isAlive h₆.site
  refine leads_bind (pack_leads h₆.site hbar₆ _) fun _ s₇ h₇ => ?_
  refine leads_bind_eq (exec_updateView _ _ _) ?_
  have hrest : Builds a q s₄ s₇ := (h₅.trans h₆).trans h₇
  have hall : Builds a q s s₇ := (((h₁.trans h₂).trans h₃).trans h₄).trans hrest
  exact leads_pure ⟨s₇, hall, rfl, hrest.fresh (h₄.fresh hframe₃), hrest.fresh hcanvas₄⟩

end Session
end RemoteScreen
