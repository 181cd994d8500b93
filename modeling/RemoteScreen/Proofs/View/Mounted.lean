import RemoteScreen.Proofs.View.Listening

/-! Mounting the view of a renderable. Whatever the tree, the view is mounted where it is to be, and
with it a view for all that can be seen of the tree; each is owned by the view it is mounted in, cards
listen to their regions, and no other view changes. -/
namespace RemoteScreen

/-- What can be seen of the children of a renderable when it is at a page. -/
def Renderable.shownAt : Renderable → Nat → List Renderable
  | carousel _ _ pages _, page => pages[page]?.toList
  | hscroll _ _ slots _, _ => slots.map Slot.content
  | _, _ => []

/-- What a view shows in views of its own. -/
def View.content (x : View) : List Renderable :=
  match x.renderable with
  | some r => r.shownAt x.index
  | none => []

/-- A card has its label. -/
def View.Furnished (x : View) : Prop := ∀ n, x.region? = some n → ∃ label, x.parts = .card label

namespace Session

open Toolkit (Extended Site)
open Renderable (cardRegions)

variable {s t u : Session Ui} {path path' : Nat → List Nat} {q v w c e : Nat} {x y : View}
  {r : Renderable}

/-- View `c` is mounted and shows a renderable. -/
def Presents (s : Session Ui) (r : Renderable) (c : Nat) : Prop :=
  ∃ y, s.ui.views[c]? = some y ∧ y.root.isSome = true ∧ y.renderable = some r.visible

/-- A view owns a mounted view for all that it shows, in this order. -/
def Complete (s : Session Ui) (x : View) : Prop := List.Forall₂ (Presents s) x.content x.components

/-- View `e`, whose widget is `w`, is owned by a mounted view and was mounted in it. -/
def Hangs (path : Nat → List Nat) (s : Session Ui) (e w : Nat) : Prop :=
  ∃ (u : Nat) (y : View) (r : Nat), s.ui.views[u]? = some y ∧ y.root = some r ∧
    e ∈ y.components ∧ path w = e :: path r

/-- A view as mounting makes it; `Held` tells what holds it. -/
structure Fitted (Held : Nat → Nat → Prop) (s : Session Ui) (e : Nat) (y : View) : Prop where
  furnished : y.Furnished
  complete : Complete s y
  index : y.index = 0
  root : ∃ w, y.root = some w ∧ Held e w

/-- No view changes but `v`, which is not mounted before. -/
structure Spares (v : Nat) (path path' : Nat → List Nat) (s t : Session Ui) : Prop where
  unmounted : ∀ x, s.ui.views[v]? = some x → x.root = none
  length : s.ui.views.length ≤ t.ui.views.length
  others : ∀ u < s.ui.views.length, u ≠ v → t.ui.views[u]? = s.ui.views[u]?
  paths : ∀ c < s.ui.kit.widgets.length, path' c = path c

/-- What changes afterwards is that view again or one that is new. -/
theorem Spares.trans {path'' : Nat → List Nat} (h : Spares v path path' s t)
    (k : Spares c path' path'' t u) (hc : c = v ∨ s.ui.views.length ≤ c)
    (hwidgets : s.ui.kit.widgets.length ≤ t.ui.kit.widgets.length) : Spares v path path'' s u where
  unmounted := h.unmounted
  length := Nat.le_trans h.length k.length
  others := by
    intro e he hne
    have hec : e ≠ c := by omega
    exact (k.others e (Nat.lt_of_lt_of_le he h.length) hec).trans (h.others e he hne)
  paths := fun w hw => (k.paths w (Nat.lt_of_lt_of_le hw hwidgets)).trans (h.paths w hw)

theorem Spares.view (h : Spares v path path' s t) (hy : s.ui.views[e]? = some y)
    (hroot : y.root.isSome = true) : t.ui.views[e]? = some y := by
  have hne : e ≠ v := by
    rintro rfl
    rw [h.unmounted y hy] at hroot
    cases hroot
  rw [h.others e (List.getElem?_eq_some_iff.1 hy).1 hne, hy]

theorem Spares.presents (h : Spares v path path' s t) (hs : Presents s r c) : Presents t r c := by
  obtain ⟨y, hy, hroot, hrenderable⟩ := hs
  exact ⟨y, h.view hy hroot, hroot, hrenderable⟩

theorem Spares.complete (h : Spares v path path' s t) (hx : Complete s x) : Complete t x :=
  hx.imp fun _ _ => h.presents

theorem Spares.hangs (h : Spares v path path' s t) (hs : Nested path s.ui)
    (he : s.ui.views[e]? = some y) (hw : y.root = some w) (hangs : Hangs path s e w) :
    Hangs path' t e w := by
  obtain ⟨u, z, r, hz, hroot, hmem, hpath⟩ := hangs
  refine ⟨u, z, r, h.view hz (by rw [hroot]; rfl), hroot, hmem, ?_⟩
  rw [h.paths w (hs.lt_of_owns he (.inl hw)), h.paths r (hs.lt_of_owns hz (.inl hroot))]
  exact hpath

theorem Fitted.mono {Held Held' : Nat → Nat → Prop} (h : Fitted Held s e y)
    (hheld : ∀ w, Held e w → Held' e w) : Fitted Held' s e y := by
  obtain ⟨w, hw, hplace⟩ := h.root
  exact ⟨h.furnished, h.complete, h.index, w, hw, hheld w hplace⟩

theorem Spares.fitted (h : Spares v path path' s t) (hs : Nested path s.ui)
    (he : s.ui.views[e]? = some y) (hy : Fitted (Hangs path s) s e y) :
    Fitted (Hangs path' t) t e y := by
  obtain ⟨w, hw, hangs⟩ := hy.root
  exact ⟨hy.furnished, h.complete hy.complete, hy.index, w, hw, h.hangs hs he hw hangs⟩

/-- View `v` has been mounted. -/
structure Mounts (path path' : Nat → List Nat) (v : Nat) (s t : Session Ui) : Prop extends
    Spares v path path' s t where
  housed : Housed path' t
  widgets : s.ui.kit.widgets.length ≤ t.ui.kit.widgets.length
  destroyed : t.ui.kit.destroyed = s.ui.kit.destroyed
  new : ∀ (e : Nat) (y : View), s.ui.views.length ≤ e → t.ui.views[e]? = some y →
    Fitted (Hangs path' t) t e y
  self : ∃ x y w, s.ui.views[v]? = some x ∧ t.ui.views[v]? = some y ∧ y.ended = x.ended ∧
    y.root = some w ∧ y.Furnished ∧ (x.index = 0 → x.components = [] → Complete t y)

/-- The view that has been mounted is as the view before, but for what mounting is about. -/
theorem Mounts.view (h : Mounts path path' v s t) (hx : s.ui.views[v]? = some x) :
    ∃ y w, t.ui.views[v]? = some y ∧ y.ended = x.ended ∧ y.root = some w ∧ y.Furnished ∧
      (x.index = 0 → x.components = [] → Complete t y) := by
  obtain ⟨x', y, w, hx', hy, hended, hroot, hfurnished, hcomplete⟩ := h.self
  obtain rfl := Option.some.inj (hx.symm.trans hx')
  exact ⟨y, w, hy, hended, hroot, hfurnished, hcomplete⟩

theorem Mounts.isAlive (h : Mounts path path' v s t) (hw : s.ui.kit.isAlive w = true) :
    t.ui.kit.isAlive w = true := by
  obtain ⟨hlt, hmem⟩ := Toolkit.isAlive_iff.1 hw
  exact Toolkit.isAlive_iff.2 ⟨Nat.lt_of_lt_of_le hlt h.widgets, h.destroyed ▸ hmem⟩

/-- The view of a renderable that has been mounted as it was made. -/
theorem Mounts.made (h : Mounts path path' v s t) (hx : s.ui.views[v]? = some x) (hmade : Made r x) :
    ∃ y w, t.ui.views[v]? = some y ∧ y.root = some w ∧ y.renderable = some r.visible ∧
      ∀ Held : Nat → Nat → Prop, Held v w → Fitted Held t v y := by
  obtain ⟨y, w, hy, hended, hw, hfurnished, hcomplete⟩ := h.view hx
  have hrenderable : y.renderable = some r.visible :=
    (congrArg (fun z => z.ended.renderable) hended).trans hmade.renderable
  have hindex : y.index = 0 := (congrArg (fun z => z.ended.index) hended).trans hmade.index
  exact ⟨y, w, hy, hw, hrenderable, fun Held hheld =>
    ⟨hfurnished, hcomplete hmade.index hmade.components, hindex, w, hw, hheld⟩⟩

/-- No view takes in the view that is mounted. -/
theorem Mounts.free (h : Mounts path path' v s t) (hfree : Free s v) : Free t v := by
  intro u y hy hmem
  obtain ⟨x, -, -, hx, -⟩ := h.self
  have hlt := (h.housed.later u y hy v hmem).1
  rw [h.others u (Nat.lt_trans hlt (List.getElem?_eq_some_iff.1 hx).1) (Nat.ne_of_lt hlt)] at hy
  exact hfree u y hy hmem

/-- What is to be mounted: a view that shows a renderable and is not mounted, in a widget that
stands. -/
structure Mountable (path : Nat → List Nat) (s : Session Ui) (r : Renderable) (v q : Nat)
    (x : View) : Prop where
  housed : Housed path s
  view : s.ui.views[v]? = some x
  root : x.root = none
  parts : x.parts = .none
  renderable : x.renderable = some r.visible
  place : s.ui.kit.isAlive q = true

/-- Mounting the view of a renderable comes to its end, and the view is mounted in its place. -/
def MountsWell (r : Renderable) : Prop :=
  ∀ path s v q x, Mountable path s r v q x → Leads (mountShown r v q) s fun _ t =>
    ∃ path', Mounts path path' v s t ∧
      ∀ y w, t.ui.views[v]? = some y → y.root = some w → path' w = v :: path q

/-! Views without views of their own -/

/-- The last step of mounting a view without views of its own: the view gets its widget. -/
theorem mounts_root (hx : s.ui.views[v]? = some x) (hroot : x.root = none)
    (hcontent : x.content = []) (ht : Housed path' t)
    (hpaths : ∀ c < s.ui.kit.widgets.length, path' c = path c)
    (hwidgets : s.ui.kit.widgets.length ≤ t.ui.kit.widgets.length)
    (hdestroyed : t.ui.kit.destroyed = s.ui.kit.destroyed)
    (hlength : t.ui.views.length = s.ui.views.length) {parts : Parts}
    (hxt : t.ui.views[v]? = some { x with parts })
    (hothers : ∀ u, u ≠ v → t.ui.views[u]? = s.ui.views[u]?)
    (hfurnished : ∀ n, x.region? = some n → ∃ label, parts = .card label)
    {l : List Nat} (hown : ∀ c ∈ w :: parts.widgets, t.ui.kit.isAlive c = true ∧ path' c = v :: l) :
    Mounts path path' v s (t.withView v (View.rooted w)) := by
  refine ⟨⟨fun y hy => ?_, ?_, ?_, hpaths⟩, ?_, hwidgets, hdestroyed, ?_, ?_⟩
  · obtain rfl := Option.some.inj (hx.symm.trans hy)
    exact hroot
  · rw [length_withView, hlength]
  · intro u hu hne
    rw [withView_ne _ hne, hothers u hne]
  · refine ht.withView hxt (l := l) (fun c hc => hown c ?_) (fun c hc => .inl hc) rfl rfl rfl
    rcases hc with hc | hc
    · exact List.mem_cons.2 (.inl (Option.some.inj hc).symm)
    · exact List.mem_cons.2 (.inr hc)
  · intro e y he hy
    have hlt := (List.getElem?_eq_some_iff.1 hy).1
    rw [length_withView, hlength] at hlt
    exact absurd hlt (Nat.not_lt.2 he)
  · refine ⟨x, _, w, hx, withView_self hxt _, rfl, rfl, hfurnished, fun _ hcomponents => ?_⟩
    have hempty : View.content (View.rooted w { x with parts }) = [] := hcontent
    unfold Complete
    rw [hempty]
    exact hcomponents ▸ List.Forall₂.nil

theorem Mountable.content (h : Mountable path s r v q x) :
    x.content = r.visible.shownAt x.index := by
  rw [View.content, h.renderable]

theorem Mountable.region? (h : Mountable path s r v q x) : x.region? = r.visible.region? := by
  rw [View.region?, h.renderable, Option.bind_some]

theorem leaf_mountsWell (hregion : r.visible.region? = none)
    (hshown : ∀ page, r.visible.shownAt page = []) {build : Nat → Act Ui Nat}
    (heq : ∀ v q, mountShown r v q = build q >>= setRoot v)
    (hbuild : ∀ (s : Session Ui) (a q : Nat), Site a q s.ui.kit →
      Leads (build q) s fun w t => Builds a q s t ∧ Fresh a t w) : MountsWell r := by
  intro path s v q x h
  rw [heq]
  refine leads_bind (hbuild s _ q (h.housed.grown.site h.place)) fun w t ⟨ht, hw⟩ => ?_
  have hhoused := h.housed.builds ht h.place (.inr ⟨v, rfl⟩)
  have hviews : t.ui.views = s.ui.views := by
    rw [ht.eq]
    rfl
  have hpath : raised s.ui.kit.widgets.length (v :: path q) path w = v :: path q :=
    raised_of_le hw.1
  have hxt : t.ui.views[v]? = some { x with parts := .none } := by
    rw [hviews, h.view, ← h.parts]
  refine ⟨⟨⟩, _, exec_updateView _ _ _, raised s.ui.kit.widgets.length (v :: path q) path, ?_, ?_⟩
  · refine mounts_root (l := path q) h.view h.root (h.content.trans (hshown _)) hhoused
      (fun _ hc => raised_of_lt hc) ht.kit.length ht.kit.destroyed (by rw [hviews]) hxt
      (fun u _ => by rw [hviews]) (fun n hn => ?_) fun c hc => ?_
    · rw [h.region?, hregion] at hn
      cases hn
    · obtain rfl := List.mem_singleton.1 hc
      exact ⟨hw.isAlive ht.site, hpath⟩
  · intro y w' hy hw'
    obtain rfl := Option.some.inj ((withView_self hxt _).symm.trans hy)
    obtain rfl := Option.some.inj hw'
    exact hpath

theorem card_mountsWell (id title body : String) (n : Nat) :
    MountsWell (.card id title body n) := by
  intro path s v q x h
  have hregion : x.region? = some n := h.region?
  rw [mountShown]
  refine leads_bind (buildCard_leads h.housed h.view h.root h.parts hregion h.place title body)
    fun frame t ⟨k, label, hkit, hframe, hlabel, ht, hhoused⟩ => ?_
  have hxt : t.ui.views[v]? = some { x with parts := .card label } := by
    rw [ht]
    exact withView_self (s := s.withKit k) h.view _
  have hkeq : t.ui.kit = k := by
    rw [ht]
    rfl
  have hothers (u : Nat) (hu : u ≠ v) : t.ui.views[u]? = s.ui.views[u]? := by
    rw [ht]
    exact withView_ne (s := s.withKit k) _ hu
  have hlength : t.ui.views.length = s.ui.views.length := by
    rw [ht]
    exact length_withView (s.withKit k) v _
  have hpath : raised s.ui.kit.widgets.length (v :: path q) path frame = v :: path q :=
    raised_of_le hframe.1
  refine ⟨⟨⟩, _, exec_updateView _ _ _, raised s.ui.kit.widgets.length (v :: path q) path, ?_, ?_⟩
  · refine mounts_root (l := path q) h.view h.root h.content hhoused
      (fun _ hc => raised_of_lt hc) (hkeq ▸ hkit.length) (hkeq ▸ hkit.destroyed) hlength hxt hothers
      (fun _ _ => ⟨label, rfl⟩) fun c hc => ?_
    have hnew : s.ui.kit.widgets.length ≤ c ∧ c < k.widgets.length := by
      rcases List.mem_cons.1 hc with rfl | hc
      · exact hframe
      · obtain rfl := List.mem_singleton.1 hc
        exact hlabel
    rw [hkeq]
    exact ⟨hkit.isAlive_new h.housed.grown hnew.1 hnew.2, raised_of_le hnew.1⟩
  · intro y w' hy hw'
    obtain rfl := Option.some.inj ((withView_self hxt _).symm.trans hy)
    obtain rfl := Option.some.inj hw'
    exact hpath

/-! Carousels -/

/-- The label and the buttons of a carousel are no labels of cards. -/
theorem syncNavigation_still (h : Housed path s) (v : Nat) :
    Leads (syncNavigation v) s fun _ t => Still s t := by
  refine leads_bind_eq (exec_view? v s) ?_
  split
  next x hx =>
    split
    next host previous label next hparts =>
      obtain ⟨vs, hown⟩ := h.own v x hx
      obtain ⟨halive, hpath⟩ := hown label (.inr (by simp [hparts, Parts.widgets]))
      have hne (u l m : Nat) (hfollow : Follows s.ui u l m) : l ≠ label := by
        rintro rfl
        obtain ⟨-, us, hus⟩ := h.toNested.of_follows hfollow
        obtain ⟨y, hy, hcard, -⟩ := follows_iff.1 hfollow
        obtain rfl : u = v := (List.cons.inj (hus.symm.trans hpath)).1
        obtain rfl := Option.some.inj (hx.symm.trans hy)
        rw [hparts] at hcard
        cases hcard
      refine leads_bind (configure_still halive hne _) fun _ t ht => ?_
      refine leads_bind (setDisabled_still t previous _) fun _ u hu => ?_
      exact (setDisabled_still u next _).mono fun _ w hw => (ht.trans hu).trans hw
    · exact leads_pure (.refl s)
  · exact leads_pure (.refl s)

/-- The views of the pages of a carousel show regions that are there. -/
theorem Followed.within_child (h : Followed s) (hx : s.ui.views[v]? = some x) {r child : Renderable}
    (hr : x.renderable = some r) (hchild : child ∈ r.children) :
    ∀ n ∈ cardRegions [child], n < s.regions.length := by
  intro n hn
  have hnone : r.region? = none := by
    cases r with
    | card => exact absurd hchild List.not_mem_nil
    | _ => rfl
  refine h.within x (List.mem_of_getElem? hx) r hr n ?_
  rw [Render.cardRegions_node hnone]
  exact Render.mem_cardRegions.2 ⟨child, hchild, hn⟩

/-- Carousel `x` has got its widget and owns a new view for its page, which is yet to be mounted. -/
structure PageOwned (path : Nat → List Nat) (r : Renderable) (v frame : Nat) (x : View)
    (s u : Session Ui) : Prop where
  housed : Housed path u
  view : u.ui.views[v]? = some { x with components := [s.ui.views.length], root := some frame }
  page : ∃ z, u.ui.views[s.ui.views.length]? = some z ∧ Made r z
  length : u.ui.views.length = s.ui.views.length + 1
  others : ∀ e < s.ui.views.length, e ≠ v → u.ui.views[e]? = s.ui.views[e]?
  widgets : u.ui.kit.widgets.length = s.ui.kit.widgets.length
  destroyed : u.ui.kit.destroyed = s.ui.kit.destroyed

/-- What is done up to the page of a carousel, and that the page is mounted then. -/
theorem mountFirst_pageOwned (rest : List Renderable) (host : Nat) {frame : Nat} {l : List Nat}
    (h : Housed path s) (hx : s.ui.views[v]? = some x)
    (hown : ∀ c, c = frame ∨ x.Owns c → s.ui.kit.isAlive c = true ∧ path c = v :: l)
    (hr : ∀ n ∈ cardRegions [r], n < s.regions.length) :
    ∃ u, PageOwned path r v frame x s u ∧
      exec (mountFirst (r :: rest) v frame host) s =
        exec (mountShown r s.ui.views.length host) u := by
  obtain ⟨z, named, hz, hview⟩ := exec_viewOf r View.pagePacking s
  let c := s.ui.views.length
  have hv : v < c := (List.getElem?_eq_some_iff.1 hx).1
  have hcv : c ≠ v := Nat.ne_of_gt hv
  have h₁ : Housed path ((s.withNew z named).withView v (View.owning c)) :=
    h.adopts hx hz hr named (List.nil_subset _) rfl
  have hx₁ : ((s.withNew z named).withView v (View.owning c)).ui.views[v]? = some (x.owning c) :=
    withView_self ((withNew_old hv).trans hx) _
  obtain ⟨⟨⟩, t, hsync, ht⟩ := syncNavigation_still h₁ v
  have hxt : t.ui.views[v]? = some (x.owning c) := ht.views ▸ hx₁
  have hu : Housed path (t.withView v (View.rooted frame)) := by
    refine (h₁.still ht).withView hxt (f := View.rooted frame) (l := l) (fun w hw => ?_) (fun e he => .inl he)
      rfl rfl rfl
    rw [ht.isAlive w]
    exact hown w (hw.imp (fun hw => (Option.some.inj hw).symm) .inr)
  refine ⟨t.withView v (View.rooted frame), ⟨hu, withView_self hxt _, ⟨z, ?_, hz⟩, ?_, fun e he hne => ?_,
    ht.length, ht.destroyed⟩, ?_⟩
  · rw [withView_ne _ hcv, ht.views, withView_ne _ hcv]
    exact withNew_self s z named
  · rw [length_withView, ht.views, length_withView, length_withNew]
  · rw [withView_ne _ hne, ht.views, withView_ne _ hne, withNew_old he]
  · have hown : exec (updateView v fun x => { x with components := [s.ui.views.length] })
        (s.withNew z named) = (.ok ⟨⟩, (s.withNew z named).withView v (View.owning c)) := rfl
    have hroot : exec (setRoot v frame) t = (.ok ⟨⟩, t.withView v (View.rooted frame)) := rfl
    simp only [mountFirst, exec_bind, hview, hown, hsync, hroot, c]

theorem PageOwned.isAlive {frame : Nat} (h : PageOwned path r v frame x s u) (w : Nat) :
    u.ui.kit.isAlive w = s.ui.kit.isAlive w := Toolkit.isAlive_congr h.widgets h.destroyed w

/-- With its page the carousel has been mounted. -/
theorem PageOwned.mounts {frame host : Nat} (h : PageOwned path r v frame x s u)
    (hx : s.ui.views[v]? = some x) (hroot : x.root = none) (hfurnished : x.Furnished)
    (hcontent : x.index = 0 → x.content = [r]) (hframe : frame < s.ui.kit.widgets.length)
    (hpath : path frame = path host) (ht : Mounts path path' s.ui.views.length u t)
    (hplaced : ∀ y w, t.ui.views[s.ui.views.length]? = some y → y.root = some w →
      path' w = s.ui.views.length :: path host) :
    Mounts path path' v s t ∧ t.ui.views[v]? =
      some { x with components := [s.ui.views.length], root := some frame } := by
  have hv : v < s.ui.views.length := (List.getElem?_eq_some_iff.1 hx).1
  have hopen : Spares v path path s u := by
    refine ⟨fun y hy => ?_, by rw [h.length]; omega, h.others, fun _ _ => rfl⟩
    obtain rfl := Option.some.inj (hx.symm.trans hy)
    exact hroot
  have hspares : Spares v path path' s t :=
    hopen.trans ht.toSpares (.inr (Nat.le_refl _)) (Nat.le_of_eq h.widgets.symm)
  have hxt := (ht.others v (by rw [h.length]; omega) (Nat.ne_of_lt hv)).trans h.view
  obtain ⟨z, hz, hmade⟩ := h.page
  obtain ⟨y, w, hy, hw, hrenderable, hfitted⟩ := ht.made hz hmade
  have hhangs : Hangs path' t s.ui.views.length w := by
    refine ⟨v, _, frame, hxt, rfl, List.mem_singleton_self _, ?_⟩
    rw [hplaced y w hy hw, hspares.paths frame hframe, hpath]
  refine ⟨⟨hspares, ht.housed, h.widgets ▸ ht.widgets, ht.destroyed.trans h.destroyed, ?_, ?_⟩, hxt⟩
  · intro e y' he hy'
    rcases Nat.eq_or_lt_of_le he with rfl | he
    · obtain rfl := Option.some.inj (hy.symm.trans hy')
      exact hfitted _ hhangs
    · exact ht.new e y' (by rw [h.length]; omega) hy'
  · refine ⟨x, _, frame, hx, hxt, rfl, rfl, hfurnished, fun hx0 _ => ?_⟩
    have hpage : View.content { x with components := [s.ui.views.length], root := some frame } =
        [r] := hcontent hx0
    unfold Complete
    rw [hpage]
    exact .cons ⟨y, hy, by rw [hw]; rfl, hrenderable⟩ .nil

theorem mountFirst_leads {id title : String} {pages : List Renderable} {height : Int}
    (hpages : ∀ r ∈ pages, MountsWell r) (h : Housed path s) (hx : s.ui.views[v]? = some x)
    (hroot : x.root = none) {host previous label next frame : Nat}
    (hparts : x.parts = .carousel host previous label next)
    (hrenderable : x.renderable = some (.carousel id title pages height))
    (hframe : s.ui.kit.isAlive frame = true) (hpath : path frame = path host) :
    Leads (mountFirst pages v frame host) s fun _ t => ∃ path', Mounts path path' v s t ∧
      ∀ y w, t.ui.views[v]? = some y → y.root = some w → w = frame := by
  obtain ⟨vs, hown⟩ := h.own v x hx
  obtain ⟨hhost, hhostpath⟩ := hown host (.inr (by simp [hparts, Parts.widgets]))
  have hall (c : Nat) (hc : c = frame ∨ x.Owns c) :
      s.ui.kit.isAlive c = true ∧ path c = v :: vs := by
    rcases hc with rfl | hc
    · exact ⟨hframe, hpath.trans hhostpath⟩
    · exact hown c hc
  have hregion : x.Furnished := by
    intro n hn
    rw [View.region?, hrenderable] at hn
    cases hn
  cases pages with
  | nil =>
    rw [mountFirst]
    refine leads_bind (syncNavigation_still h v) fun _ t ht => ?_
    have hxt : t.ui.views[v]? = some { x with parts := x.parts } := by
      rw [ht.views]
      exact hx
    refine ⟨⟨⟩, _, exec_updateView _ _ _, path, ?_, ?_⟩
    · refine mounts_root (l := vs) hx hroot ?_ (h.still ht) (fun _ _ => rfl)
        (Nat.le_of_eq ht.length.symm) ht.destroyed (by rw [ht.views]) hxt
        (fun u _ => by rw [ht.views]) hregion fun c hc => ?_
      · rw [View.content, hrenderable]
        rfl
      · rw [Toolkit.isAlive_congr ht.length ht.destroyed]
        exact hall c ((List.mem_cons.1 hc).imp_right .inr)
    · intro y w hy hw
      obtain rfl := Option.some.inj ((withView_self hxt _).symm.trans hy)
      exact (Option.some.inj hw).symm
  | cons r rest =>
    obtain ⟨u, hu, hexec⟩ := mountFirst_pageOwned rest host h hx hall
      (h.within_child hx hrenderable List.mem_cons_self)
    obtain ⟨z, hz, hmade⟩ := hu.page
    have hmount : Mountable path u r s.ui.views.length host z :=
      ⟨hu.housed, hz, hmade.root, hmade.parts, hmade.renderable, (hu.isAlive host).trans hhost⟩
    refine ((hpages r List.mem_cons_self path u _ host z hmount).of_exec hexec).mono ?_
    rintro _ t ⟨path', ht, hplaced⟩
    have hcontent (hx0 : x.index = 0) : x.content = [r] := by
      simp [View.content, hrenderable, hx0, Renderable.shownAt]
    obtain ⟨hmounts, hxt⟩ := hu.mounts hx hroot hregion hcontent (Toolkit.lt_of_isAlive hframe)
      hpath ht hplaced
    refine ⟨path', hmounts, fun y w hy hw => ?_⟩
    obtain rfl := Option.some.inj (hxt.symm.trans hy)
    exact (Option.some.inj hw).symm

/-- The frame of a view has been built, with what the view goes on using. -/
theorem Mountable.built (h : Mountable path s r v q x) (hb : Builds s.ui.kit.widgets.length q s u)
    {f : View → View} (hended : (f x).ended = x.ended) (hroot : (f x).root = none)
    (hparts : ∀ w ∈ (f x).parts.widgets, Fresh s.ui.kit.widgets.length u w)
    (hcomponents : (f x).components = []) (hfollows : (f x).follows? = x.follows?) :
    Housed (raised s.ui.kit.widgets.length (v :: path q) path) (u.withView v f) ∧
    ∀ path' t, Mounts (raised s.ui.kit.widgets.length (v :: path q) path) path' v
      (u.withView v f) t → Mounts path path' v s t := by
  have hhoused := h.housed.builds hb h.place (.inr ⟨v, rfl⟩)
  have hviews : u.ui.views = s.ui.views := by
    rw [hb.eq]
    rfl
  have hxu : u.ui.views[v]? = some x := hviews ▸ h.view
  have hx₁ : (u.withView v f).ui.views[v]? = some (f x) := withView_self hxu f
  have hlength : (u.withView v f).ui.views.length = s.ui.views.length := by
    rw [length_withView, hviews]
  constructor
  · refine hhoused.withView hxu (l := path q) (fun w hw => ?_) (fun c hc => ?_)
      (congrArg (fun z => z.ended.kind) hended) (congrArg (fun z => z.ended.renderable) hended)
      hfollows
    · rcases hw with hw | hw
      · rw [hroot] at hw
        cases hw
      · exact ⟨(hparts w hw).isAlive hb.site, raised_of_le (hparts w hw).1⟩
    · rw [hcomponents] at hc
      exact absurd hc List.not_mem_nil
  · intro path' t ht
    refine ⟨⟨fun y hy => ?_, ?_, fun e he hne => ?_, fun c hc => ?_⟩, ht.housed, ?_, ?_, ?_, ?_⟩
    · obtain rfl := Option.some.inj (h.view.symm.trans hy)
      exact h.root
    · exact hlength ▸ ht.length
    · rw [ht.others e (hlength.symm ▸ he) hne, withView_ne _ hne, hviews]
    · rw [ht.paths c (Nat.lt_of_lt_of_le hc hb.kit.length), raised_of_lt hc]
    · exact Nat.le_trans hb.kit.length ht.widgets
    · exact ht.destroyed.trans hb.kit.destroyed
    · exact fun e y he hy => ht.new e y (hlength.symm ▸ he) hy
    · obtain ⟨y, w, hy, hyended, hw, hfurnished, hcomplete⟩ := ht.view hx₁
      have hindex : (f x).index = x.index := congrArg (fun z => z.ended.index) hended
      exact ⟨x, y, w, h.view, hy, hyended.trans hended, hw, hfurnished,
        fun hx0 _ => hcomplete (hindex.trans hx0) hcomponents⟩

theorem carousel_mountsWell (id title : String) {pages : List Renderable} (height : Int)
    (hpages : ∀ r ∈ pages, MountsWell r) : MountsWell (.carousel id title pages height) := by
  intro path s v q x h
  have hsite := h.housed.grown.site h.place
  rw [mountShown]
  refine leads_bind (buildCarousel_leads hsite v title height) ?_
  rintro ⟨frame, host⟩ t ⟨u, previous, label, next, hu, ht, hframe, hall, -⟩
  let furnish := View.furnished (.carousel host previous label next)
  obtain rfl : t = u.withView v furnish := ht
  have hviews : u.ui.views = s.ui.views := by
    rw [hu.eq]
    rfl
  have hfollows : (furnish x).follows? = x.follows? := by
    simp [furnish, View.furnished, View.follows?, h.parts]
  obtain ⟨hhoused, hmounts⟩ := h.built hu (f := furnish) rfl h.root hall rfl hfollows
  have hhost : Fresh s.ui.kit.widgets.length u host := hall host List.mem_cons_self
  have hx₁ : (u.withView v furnish).ui.views[v]? = some (furnish x) :=
    withView_self (hviews ▸ h.view) furnish
  have hpath (w : Nat) (hw : Fresh s.ui.kit.widgets.length u w) :
      raised s.ui.kit.widgets.length (v :: path q) path w = v :: path q := raised_of_le hw.1
  refine (mountFirst_leads hpages hhoused hx₁ h.root rfl h.renderable (hframe.isAlive hu.site)
    ((hpath frame hframe).trans (hpath host hhost).symm)).mono ?_
  rintro _ t ⟨path', ht, hroot⟩
  refine ⟨path', hmounts path' t ht, fun y w hy hw => ?_⟩
  obtain rfl := hroot y w hy hw
  rw [ht.paths w hframe.2]
  exact hpath w hframe

/-! Rows -/

/-- Slots have been mounted in the canvas of view `v`, which has come to own the views `cs`. -/
structure Filled (path path' : Nat → List Nat) (v canvas : Nat) (x : View)
    (shown : List Renderable) (cs : List Nat) (s t : Session Ui) : Prop extends
    Spares v path path' s t where
  housed : Housed path' t
  widgets : s.ui.kit.widgets.length ≤ t.ui.kit.widgets.length
  destroyed : t.ui.kit.destroyed = s.ui.kit.destroyed
  self : ∃ windows holders, t.ui.views[v]? = some { x with
    components := x.components ++ cs, parts := .hscroll canvas windows holders }
  shown : List.Forall₂ (Presents t) shown cs
  new : ∀ (e : Nat) (y : View), s.ui.views.length ≤ e → t.ui.views[e]? = some y →
    Fitted (fun e w => e ∈ cs ∧ path' w = e :: path' canvas ∨ Hangs path' t e w) t e y

theorem Filled.refl (h : Housed path s) (hx : s.ui.views[v]? = some x) (hroot : x.root = none)
    {canvas : Nat} {windows holders : List Nat} (hparts : x.parts = .hscroll canvas windows holders) :
    Filled path path v canvas x [] [] s s := by
  refine ⟨⟨fun y hy => ?_, Nat.le_refl _, fun _ _ _ => rfl, fun _ _ => rfl⟩, h, Nat.le_refl _, rfl,
    ⟨windows, holders, ?_⟩, .nil, fun e y he hy => ?_⟩
  · obtain rfl := Option.some.inj (hx.symm.trans hy)
    exact hroot
  · rw [List.append_nil, ← hparts]
    exact hx
  · exact absurd (List.getElem?_eq_some_iff.1 hy).1 (Nat.not_lt.2 he)

/-- What has been mounted in a canvas stays there. -/
theorem Spares.fitted_in (h : Spares v path path' s t) (hs : Nested path s.ui) {canvas : Nat}
    (hcanvas : canvas < s.ui.kit.widgets.length) (he : s.ui.views[e]? = some y)
    {cs cs' : List Nat} (hcs : cs ⊆ cs')
    (hy : Fitted (fun e w => e ∈ cs ∧ path w = e :: path canvas ∨ Hangs path s e w) s e y) :
    Fitted (fun e w => e ∈ cs' ∧ path' w = e :: path' canvas ∨ Hangs path' t e w) t e y := by
  obtain ⟨w, hw, hheld⟩ := hy.root
  refine ⟨hy.furnished, h.complete hy.complete, hy.index, w, hw, ?_⟩
  rcases hheld with ⟨hmem, hpath⟩ | hangs
  · refine .inl ⟨hcs hmem, ?_⟩
    rw [h.paths w (hs.lt_of_owns he (.inl hw)), h.paths canvas hcanvas]
    exact hpath
  · exact .inr (h.hangs hs he hw hangs)

/-- Slots that are mounted after others. -/
theorem Filled.trans {path'' : Nat → List Nat} {canvas : Nat} {shown shown' : List Renderable}
    {cs cs' : List Nat} (h : Filled path path' v canvas x shown cs s t)
    (k : Filled path' path'' v canvas y shown' cs' t u) (hx : s.ui.views[v]? = some x)
    (hy : t.ui.views[v]? = some y) (hcanvas : canvas < s.ui.kit.widgets.length) :
    Filled path path'' v canvas x (shown ++ shown') (cs ++ cs') s u where
  toSpares := h.toSpares.trans k.toSpares (.inl rfl) h.widgets
  housed := k.housed
  widgets := Nat.le_trans h.widgets k.widgets
  destroyed := k.destroyed.trans h.destroyed
  self := by
    obtain ⟨windows, holders, hself⟩ := h.self
    obtain ⟨windows', holders', hself'⟩ := k.self
    obtain rfl := Option.some.inj (hy.symm.trans hself)
    refine ⟨windows', holders', ?_⟩
    rw [hself', List.append_assoc]
  shown := List.rel_append (h.shown.imp fun _ _ => k.toSpares.presents) k.shown
  new := by
    intro e z he hz
    rcases Nat.lt_or_ge e t.ui.views.length with hlt | hge
    · have hv : v < s.ui.views.length := (List.getElem?_eq_some_iff.1 hx).1
      have hzt : t.ui.views[e]? = some z := (k.others e hlt (by omega)).symm.trans hz
      exact k.toSpares.fitted_in h.housed.toNested (Nat.lt_of_lt_of_le hcanvas h.widgets) hzt
        (List.subset_append_left _ _) (h.new e z he hzt)
    · exact (k.new e z hge hz).mono fun w => Or.imp_left <|
        And.imp_left (List.mem_append_right cs)

/-- A row keeps the window of a slot in its canvas, and what holds the slot. -/
def slotted (item holder : Nat) (y : View) : View :=
  { y with parts :=
    match y.parts with
    | .hscroll canvas windows holders => .hscroll canvas (windows ++ [item]) (holders ++ [holder])
    | p => p }

/-- A mounted slot is taken into its row. -/
theorem addSlot_leads (h : Housed path s) (hx : s.ui.views[v]? = some x) (hroot : x.root = none)
    {canvas : Nat} {windows holders : List Nat} (hparts : x.parts = .hscroll canvas windows holders)
    (hvc : v < c) (hfree : Free s c) (hslot : Presents s r c) (holder : Nat) (place width : Int) :
    Leads (addSlot v canvas holder c place width) s fun _ t =>
      Filled path path v canvas x [r] [c] s t := by
  obtain ⟨vs, hown⟩ := h.own v x hx
  have hshows : Visible s.ui.views c := by
    obtain ⟨y, hy, -, hr⟩ := hslot
    exact ⟨y, r, hy, hr⟩
  have h₁ : Housed path (s.withView v (adopting c)) := by
    refine h.withView hx (f := adopting c) hown (fun e he => ?_) rfl rfl rfl
    rcases List.mem_append.1 he with he | he
    · exact .inl he
    · obtain rfl := List.mem_singleton.1 he
      exact .inr ⟨hvc, hfree, hshows⟩
  have hx₁ : (s.withView v (adopting c)).ui.views[v]? = some (adopting c x) := withView_self hx _
  refine leads_bind_eq (exec_updateView v _ s) ?_
  refine leads_bind (addItem_still _ _ _) fun item s₂ h₂ => ?_
  have hx₂ : s₂.ui.views[v]? = some (adopting c x) := h₂.views ▸ hx₁
  have hnote : slotted item holder (adopting c x) = { x with
      components := x.components ++ [c]
      parts := .hscroll canvas (windows ++ [item]) (holders ++ [holder]) } := by
    simp only [slotted, adopting, hparts]
  have h₃ : Housed path (s₂.withView v (slotted item holder)) := by
    refine (h₁.still h₂).withView hx₂ (f := (slotted item holder)) (l := vs) (fun w hw => ?_)
      (fun e he => .inl he) rfl rfl ?_
    · rw [h₂.isAlive]
      rw [hnote] at hw
      refine hown w (hw.imp_right fun hw => ?_)
      rw [hparts]
      exact hw
    · rw [hnote]
      simp [View.follows?, adopting, hparts]
  have hspares : Spares v path path s (s₂.withView v (slotted item holder)) := by
    refine ⟨fun y hy => ?_, ?_, fun e _ hne => ?_, fun _ _ => rfl⟩
    · obtain rfl := Option.some.inj (hx.symm.trans hy)
      exact hroot
    · rw [length_withView, h₂.views, length_withView]
    · rw [withView_ne _ hne, h₂.views, withView_ne _ hne]
  refine ⟨⟨⟩, _, exec_updateView v (slotted item holder) s₂, hspares, h₃, Nat.le_of_eq h₂.length.symm, h₂.destroyed,
    ⟨windows ++ [item], holders ++ [holder], ?_⟩, .cons (hspares.presents hslot) .nil,
    fun e y he hy => ?_⟩
  · rw [← hnote]
    exact withView_self hx₂ _
  · have hlt := (List.getElem?_eq_some_iff.1 hy).1
    rw [length_withView, h₂.views, length_withView] at hlt
    exact absurd hlt (Nat.not_lt.2 he)

/-- A slot gets a holder in the canvas of its row, and a view that is not mounted. -/
theorem addHolder_leads {a canvas : Nat} (h : Site a q s.ui.kit)
    (hcanvas : canvas = q ∨ Fresh a s canvas) (r : Renderable) :
    Leads (addHolder canvas r) s fun b t =>
      b = (s.ui.kit.widgets.length, s.ui.views.length) ∧ ∃ u z named, Builds a q s u ∧
        u.ui.kit.widgets.length = s.ui.kit.widgets.length + 1 ∧
        u.ui.kit.parent? s.ui.kit.widgets.length = some canvas ∧ Made r z ∧
        t = u.withNew z named := by
  refine leads_bind (create_leads h hcanvas _ _).and_exec ?_
  rintro holder u ⟨⟨hu, -⟩, hexec⟩
  obtain ⟨rfl, rfl⟩ := exec_create_eq_ok hexec
  obtain ⟨z, named, hz, hview⟩ := exec_viewOf r View.pagePacking (s.withKit _)
  refine leads_bind_eq hview (leads_pure ⟨rfl, _, z, named, hu, List.length_append, ?_, hz, rfl⟩)
  exact congrArg (Option.bind · Widget.parent) List.getElem?_concat_length

/-- Mounts one slot of a row. -/
def mountSlot (r : Renderable) (v canvas : Nat) (place width : Int) : Act Ui Unit := do
  let (holder, child) ← addHolder canvas r
  mountShown r child holder
  addSlot v canvas holder child place width

theorem mountSlots_cons (width : Int) (r : Renderable) (slots : List (Slot Renderable))
    (v canvas : Nat) (spacing place : Int) :
    mountSlots (⟨width, r⟩ :: slots) v canvas spacing place = (do
      mountSlot r v canvas place width
      mountSlots slots v canvas spacing (place + width + spacing)) := by
  simp [mountSlots, mountSlot]

/-- A holder and a view have been made for a slot; no other view has changed. -/
theorem Builds.spares_new {l : List Nat} (h : Builds s.ui.kit.widgets.length q s t)
    (hunmounted : ∀ x, s.ui.views[v]? = some x → x.root = none) (z : View) (named : Nat) :
    Spares v path (raised s.ui.kit.widgets.length l path) s (t.withNew z named) := by
  have hviews : t.ui.views = s.ui.views := by
    rw [h.eq]
    rfl
  refine ⟨hunmounted, ?_, fun e he _ => ?_, fun w hw => raised_of_lt hw⟩
  · rw [length_withNew, hviews]
    exact Nat.le_succ _
  · rw [withNew_old (hviews.symm ▸ he), hviews]

/-- A slot is mounted in a holder of its own, and the row takes it in. -/
theorem mountSlot_filled {id title : String} {all : List (Slot Renderable)} {gap : Int}
    (hr : MountsWell r) (hchild : r ∈ all.map Slot.content) {canvas : Nat}
    {windows holders : List Nat} (h : Housed path s) (hx : s.ui.views[v]? = some x)
    (hroot : x.root = none) (hparts : x.parts = .hscroll canvas windows holders)
    (hrenderable : x.renderable = some (.hscroll id title all gap)) (place width : Int) :
    Leads (mountSlot r v canvas place width) s fun _ t => ∃ path',
      Filled path path' v canvas x [r] [s.ui.views.length] s t := by
  let c := s.ui.views.length
  obtain ⟨vs, hown⟩ := h.own v x hx
  have hcanvas := (hown canvas (.inr (by simp [hparts, Parts.widgets]))).1
  have hcanvas' : canvas < s.ui.kit.widgets.length := Toolkit.lt_of_isAlive hcanvas
  have hv : v < c := (List.getElem?_eq_some_iff.1 hx).1
  refine leads_bind (addHolder_leads (h.grown.site hcanvas) (.inl rfl) r) ?_
  rintro ⟨holder, c'⟩ s₂ ⟨hpair, s₁, z, named, h₁, hcount, -, hz, rfl⟩
  obtain ⟨rfl, rfl⟩ := Prod.mk.inj hpair
  let holder := s.ui.kit.widgets.length
  have hviews₁ : s₁.ui.views = s.ui.views := by
    rw [h₁.eq]
    rfl
  have hhoused₁ := h.builds h₁ hcanvas (.inl rfl)
  have hregions := hhoused₁.toFollowed.within_child (hviews₁.symm ▸ hx) hrenderable hchild
  have hnew : Spares v path (raised holder (path canvas) path) s (s₁.withNew z named) := by
    refine h₁.spares_new (fun y hy => ?_) z named
    obtain rfl := Option.some.inj (hx.symm.trans hy)
    exact hroot
  have hc₁ : (s₁.withNew z named).ui.views[c]? = some z := by
    have hself := withNew_self s₁ z named
    rwa [hviews₁] at hself
  have hx₁ : (s₁.withNew z named).ui.views[v]? = some x :=
    (withNew_old (hviews₁.symm ▸ hv)).trans (hviews₁.symm ▸ hx)
  have hfree : Free (s₁.withNew z named) c := by
    have hlast := hhoused₁.toForest.free_withNew hz named
    rwa [hviews₁] at hlast
  have hholder : Fresh holder s₁ holder := ⟨Nat.le_refl _, hcount ▸ Nat.lt_succ_self _⟩
  have hmount : Mountable _ (s₁.withNew z named) r c holder z :=
    ⟨hhoused₁.withNew hz hregions named, hc₁, hz.root, hz.parts, hz.renderable,
      hholder.isAlive h₁.site⟩
  -- The slot is mounted before its row owns it.
  refine leads_bind (hr _ _ c holder z hmount) ?_
  rintro _ t ⟨path', ht, hplaced⟩
  have hspares : Spares v path path' s t :=
    hnew.trans ht.toSpares (.inr (Nat.le_refl _)) h₁.kit.length
  have hxt := (ht.others v (List.getElem?_eq_some_iff.1 hx₁).1 (Nat.ne_of_lt hv)).trans hx₁
  obtain ⟨y, w, hy, hw, hshows, hfitted⟩ := ht.made hc₁ hz
  have hplace : path' w = c :: path' canvas := by
    rw [hplaced y w hy hw, raised_of_le hholder.1, hspares.paths canvas hcanvas']
  refine (addSlot_leads ht.housed hxt hroot hparts hv (ht.free hfree) ⟨y, hy, by rw [hw]; rfl, hshows⟩
    holder place width).mono fun _ u hu => ⟨path', ?_⟩
  have hwidgets := Nat.le_trans h₁.kit.length ht.widgets
  refine ⟨hspares.trans hu.toSpares (.inl rfl) hwidgets, hu.housed, Nat.le_trans hwidgets hu.widgets,
    hu.destroyed.trans (ht.destroyed.trans h₁.kit.destroyed), hu.self, hu.shown, fun e y' he hy' => ?_⟩
  rcases Nat.lt_or_ge e t.ui.views.length with hlt | hge
  · have hyt : t.ui.views[e]? = some y' := (hu.others e hlt (by omega)).symm.trans hy'
    refine hu.toSpares.fitted_in ht.housed.toNested (Nat.lt_of_lt_of_le hcanvas' hwidgets) hyt
      (List.Subset.refl [c]) ?_
    rcases Nat.eq_or_lt_of_le he with rfl | he
    · obtain rfl := Option.some.inj (hy.symm.trans hyt)
      exact hfitted _ (.inl ⟨List.mem_singleton_self _, hplace⟩)
    · refine (ht.new e y' ?_ hyt).mono fun _ => .inr
      rw [length_withNew, hviews₁]
      exact he
  · exact hu.new e y' hge hy'

theorem mountSlots_leads {id title : String} {all slots : List (Slot Renderable)} {gap : Int}
    (hslots : ∀ slot ∈ slots, MountsWell slot.content) (hall : slots ⊆ all) {canvas : Nat}
    {windows holders : List Nat} (h : Housed path s) (hx : s.ui.views[v]? = some x)
    (hroot : x.root = none) (hparts : x.parts = .hscroll canvas windows holders)
    (hrenderable : x.renderable = some (.hscroll id title all gap)) (spacing place : Int) :
    Leads (mountSlots slots v canvas spacing place) s fun _ t => ∃ path' cs,
      Filled path path' v canvas x (slots.map Slot.content) cs s t := by
  induction slots generalizing s path x windows holders place with
  | nil =>
    rw [mountSlots]
    exact leads_pure ⟨path, [], .refl h hx hroot hparts⟩
  | cons slot slots ih =>
    obtain ⟨width, r⟩ := slot
    obtain ⟨hr, hrest⟩ := List.forall_mem_cons.1 hslots
    obtain ⟨hmem, hall⟩ := List.cons_subset.1 hall
    obtain ⟨vs, hown⟩ := h.own v x hx
    have hcanvas := (hown canvas (.inr (by simp [hparts, Parts.widgets]))).1
    rw [mountSlots_cons]
    refine leads_bind (mountSlot_filled hr (List.mem_map_of_mem hmem) h hx hroot hparts hrenderable
      place width) ?_
    rintro _ t ⟨path₁, ht⟩
    obtain ⟨windows, holders, hxt⟩ := ht.self
    refine (ih hrest hall ht.housed hxt hroot rfl hrenderable _).mono ?_
    rintro _ u ⟨path', cs, hu⟩
    exact ⟨path', _ :: cs, ht.trans hu hx hxt (Toolkit.lt_of_isAlive hcanvas)⟩

/-- The last step of mounting a row: the row gets its widget, below which its canvas hangs. -/
theorem Filled.mounts {canvas frame : Nat} {shown : List Renderable} {cs vs : List Nat}
    (h : Filled path path' v canvas x shown cs s t) (hx : s.ui.views[v]? = some x)
    (hregion : x.region? = none) (hcomponents : x.components = []) (hcontent : x.content = shown)
    (hframe : s.ui.kit.isAlive frame = true) (hcanvas : s.ui.kit.isAlive canvas = true)
    (hframepath : path frame = v :: vs) (hcanvaspath : path canvas = v :: vs) :
    Mounts path path' v s (t.withView v (View.rooted frame)) := by
  obtain ⟨windows, holders, hself⟩ := h.self
  rw [hcomponents, List.nil_append] at hself
  have hkept (w : Nat) (hw : s.ui.kit.isAlive w = true) (hpath : path w = v :: vs) :
      t.ui.kit.isAlive w = true ∧ path' w = v :: vs := by
    obtain ⟨hlt, hmem⟩ := Toolkit.isAlive_iff.1 hw
    refine ⟨Toolkit.isAlive_iff.2 ⟨Nat.lt_of_lt_of_le hlt h.widgets, h.destroyed ▸ hmem⟩, ?_⟩
    rw [h.paths w hlt, hpath]
  obtain ⟨hframe', hframepath'⟩ := hkept frame hframe hframepath
  obtain ⟨hcanvas', hcanvaspath'⟩ := hkept canvas hcanvas hcanvaspath
  have hxt := withView_self hself (View.rooted frame)
  have hlast : Spares v path' path' t (t.withView v (View.rooted frame)) := by
    refine ⟨fun y hy => ?_, ?_, fun u _ hne => withView_ne _ hne, fun _ _ => rfl⟩
    · obtain rfl := Option.some.inj (hself.symm.trans hy)
      exact h.unmounted x hx
    · rw [length_withView]
  refine ⟨⟨h.unmounted, ?_, fun u hu hne => ?_, h.paths⟩, ?_, h.widgets, h.destroyed, ?_, ?_⟩
  · rw [length_withView]
    exact h.length
  · rw [withView_ne _ hne, h.others u hu hne]
  · refine h.housed.withView hself (l := vs) (fun w hw => ?_) (fun e he => .inl he) rfl rfl rfl
    rcases hw with hw | hw
    · obtain rfl := Option.some.inj hw
      exact ⟨hframe', hframepath'⟩
    · obtain rfl := List.mem_singleton.1 hw
      exact ⟨hcanvas', hcanvaspath'⟩
  · intro e y he hy
    have hne : e ≠ v := by
      have hv : v < s.ui.views.length := (List.getElem?_eq_some_iff.1 hx).1
      omega
    rw [withView_ne _ hne] at hy
    have hfit := h.new e y he hy
    obtain ⟨w, hw, hheld⟩ := hfit.root
    refine ⟨hfit.furnished, hlast.complete hfit.complete, hfit.index, w, hw, ?_⟩
    rcases hheld with ⟨hmem, hpath⟩ | hangs
    · exact ⟨v, _, frame, hxt, rfl, hmem, by rw [hpath, hframepath', hcanvaspath']⟩
    · exact hlast.hangs h.housed.toNested hy hw hangs
  · refine ⟨x, _, frame, hx, hxt, rfl, rfl, fun n hn => ?_, fun _ _ => ?_⟩
    · have hn : x.region? = some n := hn
      rw [hregion] at hn
      cases hn
    · have hshown := h.shown.imp fun _ _ => hlast.presents
      rw [← hcontent] at hshown
      exact hshown

theorem hscroll_mountsWell (id title : String) {slots : List (Slot Renderable)} (gap : Int)
    (hslots : ∀ slot ∈ slots, MountsWell slot.content) :
    MountsWell (.hscroll id title slots gap) := by
  intro path s v q x h
  rw [mountShown]
  refine leads_bind (buildRow_leads (h.housed.grown.site h.place) v title) ?_
  rintro ⟨frame, canvas⟩ t ⟨u, hu, ht, hframe, hcanvas⟩
  let furnish := View.furnished (.hscroll canvas [] [])
  obtain rfl : t = u.withView v furnish := ht
  have hviews : u.ui.views = s.ui.views := by
    rw [hu.eq]
    rfl
  have hfollows : (furnish x).follows? = x.follows? := by
    simp [furnish, View.furnished, View.follows?, h.parts]
  have hparts (w : Nat) (hw : w ∈ (furnish x).parts.widgets) :
      Fresh s.ui.kit.widgets.length u w := by
    obtain rfl := List.mem_singleton.1 hw
    exact hcanvas
  obtain ⟨hhoused, hmounts⟩ := h.built hu (f := furnish) rfl h.root hparts rfl hfollows
  have hx₁ : (u.withView v furnish).ui.views[v]? = some (furnish x) :=
    withView_self (hviews ▸ h.view) furnish
  refine leads_bind (mountSlots_leads hslots (List.Subset.refl _) hhoused hx₁ h.root rfl
    h.renderable gap 0) ?_
  rintro _ t ⟨path', cs, ht⟩
  have hdone := ht.mounts hx₁ h.region? rfl h.content (hframe.isAlive hu.site)
    (hcanvas.isAlive hu.site) (raised_of_le hframe.1) (raised_of_le hcanvas.1)
  refine ⟨⟨⟩, _, exec_updateView _ _ _, path', hmounts path' _ hdone, fun y w hy hw => ?_⟩
  obtain ⟨windows, holders, hself⟩ := ht.self
  obtain rfl := Option.some.inj ((withView_self hself _).symm.trans hy)
  obtain rfl := Option.some.inj hw
  rw [ht.paths frame hframe.2]
  exact raised_of_le hframe.1

/-! Trees -/

mutual

theorem mountsWell : ∀ r : Renderable, MountsWell r
  | .card id title body region => card_mountsWell id title body region
  | .stat _ label value _ => leaf_mountsWell rfl (fun _ => rfl) (fun v q => by rw [mountShown])
      fun _ _ _ h => buildStat_leads h label value
  | .action id title sink => leaf_mountsWell rfl (fun _ => rfl) (fun v q => by rw [mountShown])
      fun _ _ _ h => buildAction_leads h (.action id title sink) title
  | .unknown _ _ message => leaf_mountsWell rfl (fun _ => rfl) (fun v q => by rw [mountShown])
      fun _ _ _ h => buildUnknown_leads h message
  | .plain _ => leaf_mountsWell rfl (fun _ => rfl) (fun v q => by rw [mountShown])
      fun _ _ _ h => buildUnknown_leads h Renderable.unknownMessage
  | .carousel id title pages height => carousel_mountsWell id title height (mountsWell_pages pages)
  | .hscroll id title slots gap => hscroll_mountsWell id title gap (mountsWell_slots slots)

theorem mountsWell_pages : ∀ pages : List Renderable, ∀ r ∈ pages, MountsWell r
  | [] => fun _ h => absurd h List.not_mem_nil
  | r :: pages => List.forall_mem_cons.2 ⟨mountsWell r, mountsWell_pages pages⟩

theorem mountsWell_slots : ∀ slots : List (Slot Renderable), ∀ slot ∈ slots,
    MountsWell slot.content
  | [] => fun _ h => absurd h List.not_mem_nil
  | ⟨_, r⟩ :: slots => List.forall_mem_cons.2 ⟨mountsWell r, mountsWell_slots slots⟩

end

end Session
end RemoteScreen
