import RemoteScreen.Proofs.Render.Requests
import RemoteScreen.Proofs.View.Building
import RemoteScreen.Window.Application

/-! How views, widgets and regions hang together. Every widget was made within some views, one inside
the other, and the path of these views tells whose widget it is and which views it goes with. A card
view that has its label listens to its region, and the label looks as the region wants it. -/
namespace RemoteScreen

/-- The widgets that a view goes on changing or building in. -/
def Parts.widgets : Parts → List Nat
  | .none => []
  | .card label => [label]
  | .carousel host previous label next => [host, previous, label, next]
  | .hscroll canvas _ _ => [canvas]

namespace View

def Owns (x : View) (w : Nat) : Prop := x.root = some w ∨ w ∈ x.parts.widgets

/-- The label and the region of a card view that has its label. -/
def follows? (x : View) : Option (Nat × Nat) :=
  match x.parts, x.region? with
  | .card label, some n => some (label, n)
  | _, _ => none

theorem follows?_eq_some {x : View} {label n : Nat} :
    x.follows? = some (label, n) ↔ x.parts = .card label ∧ x.region? = some n := by
  unfold follows?
  split <;> simp_all

/-- A view as it is made, and as it is when it has been destroyed. -/
def ended (x : View) : View := { x with parts := .none, components := [], root := none }

end View

namespace Session

open Toolkit (Extended Site)
open Renderable (cardRegions)

/-- View `v` shows region `n` on a label. -/
def Follows (u : Ui) (v label n : Nat) : Prop :=
  (u.views[v]?).bind View.follows? = some (label, n)

/-- All that is asked of the looks of a widget is set. -/
def Wears (as look : Aspects Command) : Prop := ∀ e ∈ look, as.lookup e.1 = some e.2

/-- Widgets hang below each other in the order of their paths: each is made within the same views as
its parent, or within one more. What a view owns stands, and was made within that view first. -/
structure Nested (path : Nat → List Nat) (u : Ui) : Prop where
  grown : u.kit.Grown
  stands : u.kit.isAlive window = true
  outer : path window = []
  hangs : ∀ c p, u.kit.parent? c = some p → path c = path p ∨ ∃ v, path c = v :: path p
  own : ∀ (v : Nat) (x : View), u.views[v]? = some x →
    ∃ vs, ∀ w, x.Owns w → u.kit.isAlive w = true ∧ path w = v :: vs

/-- View `c` shows a renderable. -/
def Visible (views : List View) (c : Nat) : Prop :=
  ∃ (y : View) (r : Renderable), views[c]? = some y ∧ y.renderable = some r.visible

/-- Views own views that were made later and show a renderable, no two the same one. A view shows a
renderable or is there to hold others. -/
structure Forest (views : List View) : Prop where
  later : ∀ (v : Nat) (x : View), views[v]? = some x → ∀ c ∈ x.components, v < c ∧ c < views.length
  single : ∀ (u v : Nat) (x y : View), views[u]? = some x → views[v]? = some y →
    ∀ c ∈ x.components, c ∈ y.components → u = v
  sort : ∀ x ∈ views, x.kind.isGroup = true ∧ x.renderable = none ∨
    ∃ r : Renderable, x.renderable = some r.visible ∧ x.kind = .ofRenderable r
  shown : ∀ (v : Nat) (x : View), views[v]? = some x → ∀ c ∈ x.components, Visible views c

structure Followed (s : Session Ui) : Prop where
  within : ∀ x ∈ s.ui.views, ∀ r, x.renderable = some r →
    ∀ n ∈ cardRegions [r], n < s.regions.length
  heard : ∀ (n : Nat) (r : Region Nat), s.regions[n]? = some r →
    r.listeners.Nodup ∧ ∀ v, v ∈ r.listeners ↔ ∃ label, Follows s.ui v label n
  looks : ∀ (v label n : Nat) (r : Region Nat), Follows s.ui v label n → s.regions[n]? = some r →
    ∃ as, s.ui.kit.aspects? label = some as ∧ Wears as r.look

structure Housed (path : Nat → List Nat) (s : Session Ui) : Prop extends
  Nested path s.ui, Forest s.ui.views, Followed s

variable {s t : Session Ui} {path path' : Nat → List Nat} {a q v w label n : Nat} {x : View}

theorem follows_iff : Follows s.ui v label n ↔
    ∃ x, s.ui.views[v]? = some x ∧ x.parts = .card label ∧ x.region? = some n := by
  unfold Follows
  rw [Option.bind_eq_some_iff]
  exact exists_congr fun x => and_congr_right fun _ => View.follows?_eq_some

theorem cardRegions_card {r : Renderable} (h : r.region? = some n) : cardRegions [r] = [n] := by
  cases r with
  | card id title body region =>
    obtain rfl := Option.some.inj h
    rfl
  | _ => cases h

theorem Followed.lt_of_region? (h : Followed s) (hx : s.ui.views[v]? = some x)
    (hregion : x.region? = some n) : n < s.regions.length := by
  obtain ⟨r, hr, hn⟩ := Option.bind_eq_some_iff.1 hregion
  have hmem : n ∈ cardRegions [r] := by
    rw [cardRegions_card hn]
    exact List.mem_singleton_self n
  exact h.within x (List.mem_of_getElem? hx) r hr n hmem

/-- The label of a view stands, and no other view has it. -/
theorem Nested.of_follows (h : Nested path s.ui) (hfollows : Follows s.ui v label n) :
    s.ui.kit.isAlive label = true ∧ ∃ vs, path label = v :: vs := by
  obtain ⟨x, hx, hparts, -⟩ := follows_iff.1 hfollows
  obtain ⟨vs, hown⟩ := h.own v x hx
  have hlabel : x.Owns label := .inr (by simp [hparts, Parts.widgets])
  exact ⟨(hown label hlabel).1, vs, (hown label hlabel).2⟩

theorem Nested.lt_of_owns (h : Nested path s.ui) (hx : s.ui.views[v]? = some x) (hw : x.Owns w) :
    w < s.ui.kit.widgets.length := by
  obtain ⟨vs, hown⟩ := h.own v x hx
  exact Toolkit.lt_of_isAlive (hown w hw).1

/-- The views around a widget are around all that is below it. -/
theorem Nested.suffix_of_mem_subtree (h : Nested path s.ui) {c : Nat}
    (hc : c ∈ s.ui.kit.subtree w) : path w <:+ path c := by
  refine Toolkit.subtree_induction h.grown (P := fun c => path w <:+ path c) List.suffix_rfl ?_ hc
  intro c p hp hsuffix
  rcases h.hangs c p hp with heq | ⟨v, heq⟩
  · exact heq ▸ hsuffix
  · exact heq ▸ hsuffix.trans (List.suffix_cons v _)

/-! Changes of widgets -/

/-- Widgets have been added in a place, all within the same views. -/
theorem Nested.extended (h : Nested path s.ui) {k : Toolkit Command} {vs : List Nat}
    (he : Extended s.ui.kit.widgets.length q s.ui.kit k) (hq : s.ui.kit.isAlive q = true)
    (hold : ∀ c < s.ui.kit.widgets.length, path' c = path c)
    (hnew : ∀ c, s.ui.kit.widgets.length ≤ c → c < k.widgets.length → path' c = vs)
    (hvs : vs = path q ∨ ∃ v, vs = v :: path q) : Nested path' (s.withKit k).ui where
  grown := he.grown (h.grown.site hq)
  stands := he.isAlive h.stands
  outer := (hold _ (Toolkit.lt_of_isAlive h.stands)).trans h.outer
  hangs := by
    intro c p hp
    change k.parent? c = some p at hp
    by_cases hc : c < s.ui.kit.widgets.length
    · rw [he.parents c hc] at hp
      have hpc : p < c := h.grown.earlier c p hp
      rw [hold c hc, hold p (Nat.lt_trans hpc hc)]
      exact h.hangs c p hp
    · have hlt : c < k.widgets.length := Toolkit.lt_of_parent? hp
      obtain ⟨p', hp', hpc, hplace⟩ := he.hung c (Nat.not_lt.1 hc) hlt
      obtain rfl := Option.some.inj (hp.symm.trans hp')
      rw [hnew c (Nat.not_lt.1 hc) hlt]
      rcases hplace with rfl | hpnew
      · rw [hold p (Toolkit.lt_of_isAlive hq)]
        exact hvs
      · exact .inl (hnew p hpnew (Nat.lt_trans hpc hlt)).symm
  own := by
    intro v x hx
    obtain ⟨vs, hown⟩ := h.own v x hx
    refine ⟨vs, fun w hw => ?_⟩
    have halive := (hown w hw).1
    exact ⟨he.isAlive halive, (hold w (Toolkit.lt_of_isAlive halive)).trans (hown w hw).2⟩

/-- What listens to regions and how labels look depends on little. -/
theorem Followed.of_ui (h : Followed s) {u : Ui}
    (hwithin : ∀ x ∈ u.views, ∀ r, x.renderable = some r →
      ∀ n ∈ cardRegions [r], n < s.regions.length)
    (hfollows : ∀ v label n, Follows u v label n ↔ Follows s.ui v label n)
    (haspects : ∀ v label n, Follows s.ui v label n →
      u.kit.aspects? label = s.ui.kit.aspects? label) : Followed { s with ui := u } where
  within := hwithin
  heard := by
    intro n r hr
    obtain ⟨hnodup, hheard⟩ := h.heard n r hr
    refine ⟨hnodup, fun v => (hheard v).trans ?_⟩
    exact exists_congr fun label => (hfollows v label n).symm
  looks := by
    intro v label n r hfollow hr
    have hbefore := (hfollows v label n).1 hfollow
    obtain ⟨as, has, hwears⟩ := h.looks v label n r hbefore hr
    exact ⟨as, (haspects v label n hbefore).trans has, hwears⟩

theorem Housed.extended (h : Housed path s) {k : Toolkit Command} {vs : List Nat}
    (he : Extended s.ui.kit.widgets.length q s.ui.kit k) (hq : s.ui.kit.isAlive q = true)
    (hold : ∀ c < s.ui.kit.widgets.length, path' c = path c)
    (hnew : ∀ c, s.ui.kit.widgets.length ≤ c → c < k.widgets.length → path' c = vs)
    (hvs : vs = path q ∨ ∃ v, vs = v :: path q) : Housed path' (s.withKit k) where
  toNested := h.toNested.extended he hq hold hnew hvs
  toForest := h.toForest
  toFollowed := by
    refine h.toFollowed.of_ui h.within (fun _ _ _ => Iff.rfl) fun v label n hfollows => ?_
    exact he.aspects label (Toolkit.lt_of_isAlive (h.toNested.of_follows hfollows).1)

/-- No widget has come, gone or moved, and no view has changed. -/
theorem Nested.congr (h : Nested path s.ui)
    (hlength : t.ui.kit.widgets.length = s.ui.kit.widgets.length)
    (hdestroyed : t.ui.kit.destroyed = s.ui.kit.destroyed)
    (hparents : ∀ c, t.ui.kit.parent? c = s.ui.kit.parent? c)
    (hviews : t.ui.views = s.ui.views) : Nested path t.ui := by
  have halive (w : Nat) : t.ui.kit.isAlive w = s.ui.kit.isAlive w :=
    Toolkit.isAlive_congr hlength hdestroyed w
  refine ⟨⟨?_, ?_, ?_, ?_⟩, ?_, h.outer, ?_, ?_⟩
  · exact fun c p hp => h.grown.earlier c p (hparents c ▸ hp)
  · intro c p hc hp
    rw [halive] at hc ⊢
    exact h.grown.upright c p hc (hparents c ▸ hp)
  · rw [hdestroyed, hlength]
    exact h.grown.made
  · rw [hdestroyed]
    exact h.grown.once
  · rw [halive]
    exact h.stands
  · exact fun c p hp => h.hangs c p (hparents c ▸ hp)
  · intro v x hx
    rw [hviews] at hx
    obtain ⟨vs, hown⟩ := h.own v x hx
    exact ⟨vs, fun w hw => ⟨(halive w).trans (hown w hw).1, (hown w hw).2⟩⟩

/-- Nothing has changed but how widgets are packed, what is set for later, and the looks of widgets
that are no labels of cards. -/
structure Still (s t : Session Ui) : Prop where
  length : t.ui.kit.widgets.length = s.ui.kit.widgets.length
  destroyed : t.ui.kit.destroyed = s.ui.kit.destroyed
  parents : ∀ c, t.ui.kit.parent? c = s.ui.kit.parent? c
  views : t.ui.views = s.ui.views
  regions : t.regions = s.regions
  aspects : ∀ v label n, Follows s.ui v label n →
    t.ui.kit.aspects? label = s.ui.kit.aspects? label

theorem Still.follows (h : Still s t) (v label n : Nat) :
    Follows t.ui v label n ↔ Follows s.ui v label n := by
  unfold Follows
  rw [h.views]

theorem Still.refl (s : Session Ui) : Still s s :=
  ⟨rfl, rfl, fun _ => rfl, rfl, rfl, fun _ _ _ _ => rfl⟩

theorem Still.trans {u : Session Ui} (h : Still s t) (k : Still t u) : Still s u where
  length := k.length.trans h.length
  destroyed := k.destroyed.trans h.destroyed
  parents := fun c => (k.parents c).trans (h.parents c)
  views := k.views.trans h.views
  regions := k.regions.trans h.regions
  aspects := fun v label n hfollow =>
    (k.aspects v label n ((h.follows v label n).2 hfollow)).trans (h.aspects v label n hfollow)

theorem Still.of_widgets (hwidgets : t.ui.kit.widgets = s.ui.kit.widgets)
    (hdestroyed : t.ui.kit.destroyed = s.ui.kit.destroyed) (hviews : t.ui.views = s.ui.views)
    (hregions : t.regions = s.regions) : Still s t where
  length := by rw [hwidgets]
  destroyed := hdestroyed
  parents := fun c => by rw [Toolkit.parent?, Toolkit.parent?, hwidgets]
  views := hviews
  regions := hregions
  aspects := fun _ label _ _ => by rw [Toolkit.aspects?, Toolkit.aspects?, hwidgets]

/-- A widget has changed that stays where it is, and is no label of a card or looks the same. -/
theorem Still.update {f : Widget Command → Widget Command} (hparent : ∀ x, (f x).parent = x.parent)
    (haspects : (∀ v label n, Follows s.ui v label n → label ≠ w) ∨
      ∀ x, (f x).aspects = x.aspects) : Still s (s.withKit (s.ui.kit.update w f)) where
  length := List.length_modify _ _ _
  destroyed := rfl
  parents := fun c => Toolkit.parent?_update hparent c
  views := rfl
  regions := rfl
  aspects := by
    intro v label n hfollow
    rcases haspects with hne | hsame
    · exact Toolkit.aspects?_update_ne (hne v label n hfollow).symm
    · exact Toolkit.aspects?_update hsame label

theorem Still.isAlive (h : Still s t) (w : Nat) : t.ui.kit.isAlive w = s.ui.kit.isAlive w :=
  Toolkit.isAlive_congr h.length h.destroyed w

theorem configure_still (hw : s.ui.kit.isAlive w = true)
    (hne : ∀ v label n, Follows s.ui v label n → label ≠ w) (aspects : Aspects Command) :
    Leads (configure w aspects) s fun _ t => Still s t := by
  refine ⟨⟨⟩, _, exec_configure hw aspects, ?_⟩
  exact .update (f := fun x => { x with aspects := Toolkit.overlay x.aspects aspects })
    (fun _ => rfl) (.inl hne)

theorem setDisabled_still (s : Session Ui) (w : Nat) (on : Bool) :
    Leads (setDisabled w on) s fun _ t => Still s t :=
  ⟨⟨⟩, _, rfl, .update (fun x => (x.setDisabled_kept on).1)
    (.inr fun x => (x.setDisabled_kept on).2)⟩

theorem pack_still (hw : s.ui.kit.isAlive w = true) (packing : Attributes) :
    Leads (pack w packing) s fun _ t => Still s t :=
  ⟨⟨⟩, _, exec_pack hw packing, .update (fun _ => rfl) (.inr fun _ => rfl)⟩

theorem addItem_still (s : Session Ui) (canvas : Nat) (item : CanvasItem Command) :
    Leads (addItem canvas item) s fun _ t => Still s t :=
  ⟨_, s.withKit (s.ui.kit.addItem canvas item).1, rfl,
    .update (fun _ => rfl) (.inr fun _ => rfl)⟩

theorem Housed.still (h : Housed path s) (k : Still s t) : Housed path t where
  toNested := h.toNested.congr k.length k.destroyed k.parents k.views
  later := k.views ▸ h.later
  single := k.views ▸ h.single
  sort := k.views ▸ h.sort
  shown := k.views ▸ h.shown
  within := k.views ▸ k.regions ▸ h.within
  heard := by
    intro n r hr
    obtain ⟨hnodup, hheard⟩ := h.heard n r (k.regions ▸ hr)
    exact ⟨hnodup, fun v => (hheard v).trans (exists_congr fun l => (k.follows v l n).symm)⟩
  looks := by
    intro v label n r hfollow hr
    have hbefore := (k.follows v label n).1 hfollow
    rw [k.aspects v label n hbefore]
    exact h.looks v label n r hbefore (k.regions ▸ hr)

/-- The paths of widgets when those from number `a` on have been made within the views `vs`. -/
def raised (a : Nat) (vs : List Nat) (path : Nat → List Nat) (c : Nat) : List Nat :=
  if c < a then path c else vs

theorem raised_of_lt {c : Nat} {vs : List Nat} (hc : c < a) : raised a vs path c = path c :=
  if_pos hc

theorem raised_of_le {c : Nat} {vs : List Nat} (hc : a ≤ c) : raised a vs path c = vs :=
  if_neg (Nat.not_lt.2 hc)

theorem Housed.builds (h : Housed path s) (hb : Builds s.ui.kit.widgets.length q s t)
    (hq : s.ui.kit.isAlive q = true) {vs : List Nat} (hvs : vs = path q ∨ ∃ v, vs = v :: path q) :
    Housed (raised s.ui.kit.widgets.length vs path) t := by
  rw [hb.eq]
  exact h.extended hb.kit hq (fun _ hc => raised_of_lt hc) (fun _ hc _ => raised_of_le hc) hvs

/-! Changes of views -/

theorem getElem?_withView (s : Session Ui) (v : Nat) (f : View → View) (u : Nat) :
    (s.withView v f).ui.views[u]? = if u = v then (s.ui.views[u]?).map f else s.ui.views[u]? := by
  unfold withView
  dsimp only
  rw [List.getElem?_modify]
  by_cases hu : u = v
  · subst hu
    rw [if_pos rfl]
    cases s.ui.views[u]? <;> simp
  · rw [if_neg hu]
    cases s.ui.views[u]? <;> simp [Ne.symm hu]

theorem withView_self (hx : s.ui.views[v]? = some x) (f : View → View) :
    (s.withView v f).ui.views[v]? = some (f x) := by
  rw [getElem?_withView, if_pos rfl, hx, Option.map_some]

theorem withView_ne (f : View → View) {u : Nat} (hu : u ≠ v) :
    (s.withView v f).ui.views[u]? = s.ui.views[u]? := by
  rw [getElem?_withView, if_neg hu]

@[simp] theorem length_withView (s : Session Ui) (v : Nat) (f : View → View) :
    (s.withView v f).ui.views.length = s.ui.views.length := List.length_modify _ _ _

/-- A view of a session in which one has changed is that one or an old one. -/
theorem withView_cases (hx : s.ui.views[v]? = some x) {f : View → View} {u : Nat} {y : View}
    (hy : (s.withView v f).ui.views[u]? = some y) :
    u = v ∧ y = f x ∨ u ≠ v ∧ s.ui.views[u]? = some y := by
  by_cases hu : u = v
  · subst hu
    exact .inl ⟨rfl, (Option.some.inj ((withView_self hx f).symm.trans hy)).symm⟩
  · exact .inr ⟨hu, (withView_ne f hu).symm.trans hy⟩

theorem Nested.withView (h : Nested path s.ui) (hx : s.ui.views[v]? = some x) {f : View → View}
    {vs : List Nat} (hown : ∀ w, (f x).Owns w → s.ui.kit.isAlive w = true ∧ path w = v :: vs) :
    Nested path (s.withView v f).ui where
  grown := h.grown
  stands := h.stands
  outer := h.outer
  hangs := h.hangs
  own := by
    intro u y hy
    rcases withView_cases hx hy with ⟨rfl, rfl⟩ | ⟨-, hold⟩
    · exact ⟨vs, hown⟩
    · exact h.own u y hold

/-- No view owns view `c`. -/
def Free (s : Session Ui) (c : Nat) : Prop :=
  ∀ (u : Nat) (y : View), s.ui.views[u]? = some y → c ∉ y.components

theorem Forest.free (h : Forest s.ui.views) (v : Nat) (hv : s.ui.views.length ≤ v) : Free s v :=
  fun u y hy hmem => absurd (h.later u y hy v hmem).2 (Nat.not_lt.2 hv)

/-- A view goes on showing what it has shown, and has come to own views that no view owned. -/
theorem Forest.withView (h : Forest s.ui.views) (hx : s.ui.views[v]? = some x) {f : View → View}
    (hcomponents : ∀ c ∈ (f x).components, c ∈ x.components ∨
      v < c ∧ Free s c ∧ Visible s.ui.views c)
    (hkind : (f x).kind = x.kind) (hrenderable : (f x).renderable = x.renderable) :
    Forest (s.withView v f).ui.views where
  later := by
    intro u y hy c hc
    rw [length_withView]
    rcases withView_cases hx hy with ⟨rfl, rfl⟩ | ⟨-, hold⟩
    · rcases hcomponents c hc with hcold | ⟨hlt, -, y, r, hy, -⟩
      · exact h.later u x hx c hcold
      · exact ⟨hlt, (List.getElem?_eq_some_iff.1 hy).1⟩
    · exact h.later u y hold c hc
  single := by
    have hbefore {u : Nat} {y : View} (hy : (s.withView v f).ui.views[u]? = some y) {c : Nat}
        (hc : c ∈ y.components) :
        (∃ z, s.ui.views[u]? = some z ∧ c ∈ z.components) ∨ u = v ∧ Free s c := by
      rcases withView_cases hx hy with ⟨rfl, rfl⟩ | ⟨-, hold⟩
      · rcases hcomponents c hc with hcold | ⟨-, hfree, -⟩
        · exact .inl ⟨x, hx, hcold⟩
        · exact .inr ⟨rfl, hfree⟩
      · exact .inl ⟨y, hold, hc⟩
    intro u₁ u₂ y₁ y₂ hy₁ hy₂ c hc₁ hc₂
    rcases hbefore hy₁ hc₁ with ⟨z₁, hz₁, hcz₁⟩ | ⟨rfl, hfree₁⟩
    · rcases hbefore hy₂ hc₂ with ⟨z₂, hz₂, hcz₂⟩ | ⟨-, hfree₂⟩
      · exact h.single u₁ u₂ z₁ z₂ hz₁ hz₂ c hcz₁ hcz₂
      · exact absurd hcz₁ (hfree₂ u₁ z₁ hz₁)
    · rcases hbefore hy₂ hc₂ with ⟨z₂, hz₂, hcz₂⟩ | ⟨rfl, -⟩
      · exact absurd hcz₂ (hfree₁ u₂ z₂ hz₂)
      · rfl
  sort := by
    intro y hy
    obtain ⟨u, hu⟩ := List.mem_iff_getElem?.1 hy
    rcases withView_cases hx hu with ⟨rfl, rfl⟩ | ⟨-, hold⟩
    · rw [hkind, hrenderable]
      exact h.sort x (List.mem_of_getElem? hx)
    · exact h.sort y (List.mem_of_getElem? hold)
  shown := by
    have hshows {c : Nat} (hc : Visible s.ui.views c) : Visible (s.withView v f).ui.views c := by
      obtain ⟨y, r, hy, hr⟩ := hc
      by_cases hcv : c = v
      · subst hcv
        obtain rfl := Option.some.inj (hx.symm.trans hy)
        exact ⟨f x, r, withView_self hx f, hrenderable.trans hr⟩
      · exact ⟨y, r, (withView_ne f hcv).trans hy, hr⟩
    intro u y hy c hc
    rcases withView_cases hx hy with ⟨rfl, rfl⟩ | ⟨-, hold⟩
    · rcases hcomponents c hc with hcold | ⟨-, -, hnew⟩
      · exact hshows (h.shown u x hx c hcold)
      · exact hshows hnew
    · exact hshows (h.shown u y hold c hc)

/-- The regions of what a view shows are there. -/
theorem Followed.within_withView (h : Followed s) (hx : s.ui.views[v]? = some x) {f : View → View}
    (hrenderable : (f x).renderable = x.renderable) : ∀ y ∈ (s.withView v f).ui.views, ∀ r,
      y.renderable = some r → ∀ n ∈ cardRegions [r], n < s.regions.length := by
  intro y hy r hr
  obtain ⟨u, hu⟩ := List.mem_iff_getElem?.1 hy
  rcases withView_cases hx hu with ⟨rfl, rfl⟩ | ⟨-, hold⟩
  · exact h.within x (List.mem_of_getElem? hx) r (hrenderable ▸ hr)
  · exact h.within y (List.mem_of_getElem? hold) r hr

/-- A view goes on showing what it has shown, and following what it has followed. -/
theorem Followed.withView (h : Followed s) (hx : s.ui.views[v]? = some x) {f : View → View}
    (hrenderable : (f x).renderable = x.renderable) (hfollows : (f x).follows? = x.follows?) :
    Followed (s.withView v f) := by
  refine h.of_ui (h.within_withView hx hrenderable) ?_ fun _ _ _ _ => rfl
  intro u label n
  change ((s.withView v f).ui.views[u]?).bind View.follows? = _ ↔ _
  by_cases huv : u = v
  · subst huv
    rw [withView_self hx, Option.bind_some, hfollows, Follows, hx, Option.bind_some]
  · rw [withView_ne f huv]
    rfl

/-- A view has changed: it owns what stands and is its own, shows what it has shown, and has come to
own views that no view owned. -/
theorem Housed.withView (h : Housed path s) (hx : s.ui.views[v]? = some x) {f : View → View}
    {l : List Nat} (hown : ∀ w, (f x).Owns w → s.ui.kit.isAlive w = true ∧ path w = v :: l)
    (hcomponents : ∀ c ∈ (f x).components, c ∈ x.components ∨
      v < c ∧ Free s c ∧ Visible s.ui.views c)
    (hkind : (f x).kind = x.kind) (hrenderable : (f x).renderable = x.renderable)
    (hfollows : (f x).follows? = x.follows?) : Housed path (s.withView v f) where
  toNested := h.toNested.withView hx hown
  toForest := h.toForest.withView hx hcomponents hkind hrenderable
  toFollowed := h.toFollowed.withView hx hrenderable hfollows

/-- A session with one more view. -/
def withNew (s : Session Ui) (x : View) (named : Nat) : Session Ui :=
  { s with ui := { s.ui with views := s.ui.views ++ [x], named } }

theorem withNew_old {x : View} {named : Nat} (hv : v < s.ui.views.length) :
    (s.withNew x named).ui.views[v]? = s.ui.views[v]? := List.getElem?_append_left hv

theorem withNew_self (s : Session Ui) (x : View) (named : Nat) :
    (s.withNew x named).ui.views[s.ui.views.length]? = some x := by
  simp [withNew]

@[simp] theorem length_withNew (s : Session Ui) (x : View) (named : Nat) :
    (s.withNew x named).ui.views.length = s.ui.views.length + 1 := by
  simp [withNew]

/-- A view of one more session is an old one or the new one. -/
theorem withNew_cases {x y : View} {named : Nat} (hy : (s.withNew x named).ui.views[v]? = some y) :
    s.ui.views[v]? = some y ∨ v = s.ui.views.length ∧ y = x := by
  have hlt := (List.getElem?_eq_some_iff.1 hy).1
  rw [length_withNew] at hlt
  rcases Nat.lt_succ_iff_lt_or_eq.1 hlt with hold | rfl
  · exact .inl ((withNew_old hold).symm.trans hy)
  · exact .inr ⟨rfl, (Option.some.inj ((withNew_self s x named).symm.trans hy)).symm⟩

/-- The view of a renderable as it is made. -/
structure Made (r : Renderable) (x : View) : Prop where
  kind : x.kind = .ofRenderable r
  renderable : x.renderable = some r.visible
  root : x.root = none
  parts : x.parts = .none
  components : x.components = []
  index : x.index = 0

theorem exec_viewOf (r : Renderable) (packing : Attributes) (s : Session Ui) :
    ∃ x named, Made r x ∧
      exec (viewOf r packing) s = (.ok s.ui.views.length, s.withNew x named) := by
  let x (id : String) : View := {
    kind := .ofRenderable r, id, name := (ViewKind.ofRenderable r).name
    renderable := some r.visible, packing }
  by_cases hid : r.id = ""
  · refine ⟨x s!"uuid-{s.ui.named + 1}", s.ui.named + 1, ⟨rfl, rfl, rfl, rfl, rfl, rfl⟩, ?_⟩
    simp [viewOf, makeView, nameView, addView, hid, withNew, x]
  · refine ⟨x r.id, s.ui.named, ⟨rfl, rfl, rfl, rfl, rfl, rfl⟩, ?_⟩
    simp [viewOf, makeView, nameView, addView, hid, withNew, x]

theorem cardRegions_visible (r : Renderable) : cardRegions [r.visible] = cardRegions [r] := by
  cases r <;> rfl

theorem Housed.withNew (h : Housed path s) {r : Renderable} (hx : Made r x)
    (hr : ∀ n ∈ cardRegions [r], n < s.regions.length) (named : Nat) :
    Housed path (s.withNew x named) where
  grown := h.grown
  stands := h.stands
  outer := h.outer
  hangs := h.hangs
  own := by
    intro u y hy
    rcases withNew_cases hy with hold | ⟨rfl, rfl⟩
    · exact h.own u y hold
    · refine ⟨[], fun w hw => ?_⟩
      simp [View.Owns, hx.root, hx.parts, Parts.widgets] at hw
  later := by
    intro u y hy c hc
    rw [length_withNew]
    rcases withNew_cases hy with hold | ⟨rfl, rfl⟩
    · have hlater := h.later u y hold c hc
      exact ⟨hlater.1, Nat.lt_succ_of_lt hlater.2⟩
    · rw [hx.components] at hc
      exact absurd hc List.not_mem_nil
  single := by
    intro u₁ u₂ y₁ y₂ hy₁ hy₂ c hc₁ hc₂
    rcases withNew_cases hy₁ with hold₁ | ⟨-, rfl⟩
    · rcases withNew_cases hy₂ with hold₂ | ⟨-, rfl⟩
      · exact h.single u₁ u₂ y₁ y₂ hold₁ hold₂ c hc₁ hc₂
      · rw [hx.components] at hc₂
        exact absurd hc₂ List.not_mem_nil
    · rw [hx.components] at hc₁
      exact absurd hc₁ List.not_mem_nil
  sort := by
    intro y hy
    rcases List.mem_append.1 hy with hold | hnew
    · exact h.sort y hold
    · obtain rfl := List.mem_singleton.1 hnew
      exact .inr ⟨r, hx.renderable, hx.kind⟩
  shown := by
    intro u y hy c hc
    rcases withNew_cases hy with hold | ⟨-, rfl⟩
    · obtain ⟨z, r, hz, hr⟩ := h.shown u y hold c hc
      exact ⟨z, r, (withNew_old (List.getElem?_eq_some_iff.1 hz).1).trans hz, hr⟩
    · rw [hx.components] at hc
      exact absurd hc List.not_mem_nil
  toFollowed := by
    refine h.toFollowed.of_ui ?_ ?_ fun _ _ _ _ => rfl
    · intro y hy r' hr'
      rcases List.mem_append.1 hy with hold | hnew
      · exact h.within y hold r' hr'
      · obtain rfl := List.mem_singleton.1 hnew
        obtain rfl := Option.some.inj (hx.renderable.symm.trans hr')
        rw [cardRegions_visible]
        exact hr
    · intro u label n
      change ((s.withNew x named).ui.views[u]?).bind View.follows? = _ ↔ _
      rw [Option.bind_eq_some_iff, Follows, Option.bind_eq_some_iff]
      constructor
      · rintro ⟨y, hy, hfollows⟩
        rcases withNew_cases hy with hold | ⟨-, rfl⟩
        · exact ⟨y, hold, hfollows⟩
        · simp [View.follows?, hx.parts] at hfollows
      · rintro ⟨y, hy, hfollows⟩
        exact ⟨y, (withNew_old (List.getElem?_eq_some_iff.1 hy).1).trans hy, hfollows⟩

/-- No view owns the view that was made last. -/
theorem Forest.free_withNew (h : Forest s.ui.views) {r : Renderable} {z : View} (hz : Made r z)
    (named : Nat) : Free (s.withNew z named) s.ui.views.length := by
  intro u y hy hmem
  rcases withNew_cases hy with hold | ⟨-, rfl⟩
  · exact h.free _ (Nat.le_refl _) u y hold hmem
  · rw [hz.components] at hmem
    exact absurd hmem List.not_mem_nil

/-- A view comes to own the view that was made last, beside views that it has owned before. -/
theorem Housed.adopts (h : Housed path s) (hx : s.ui.views[v]? = some x) {r : Renderable} {z : View}
    (hz : Made r z) (hr : ∀ n ∈ cardRegions [r], n < s.regions.length) (named : Nat)
    {f : View → View} {cs : List Nat} (hcs : cs ⊆ x.components)
    (hf : f x = { x with components := cs ++ [s.ui.views.length] }) :
    Housed path ((s.withNew z named).withView v f) := by
  have hv : v < s.ui.views.length := (List.getElem?_eq_some_iff.1 hx).1
  obtain ⟨vs, hown⟩ := h.own v x hx
  refine (h.withNew hz hr named).withView ((withNew_old hv).trans hx) (l := vs) (fun w hw => ?_)
    (fun c hc => ?_) (by rw [hf]) (by rw [hf]) (by rw [hf]; rfl)
  · rw [hf] at hw
    exact hown w hw
  · rw [hf] at hc
    rcases List.mem_append.1 hc with hc | hc
    · exact .inl (hcs hc)
    · obtain rfl := List.mem_singleton.1 hc
      exact .inr ⟨hv, h.free_withNew hz named, z, r, withNew_self s z named, hz.renderable⟩

end Session
end RemoteScreen
