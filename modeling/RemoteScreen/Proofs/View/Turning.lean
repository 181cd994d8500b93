import RemoteScreen.Proofs.View.Kept
import RemoteScreen.Proofs.View.Lifecycle
import RemoteScreen.Proofs.View.Standing

/-! Pages that are turned, stacks of views that are replaced, and stacks that are mounted. What a view
has owned is destroyed first; then it takes in what it is to show. -/
namespace RemoteScreen
namespace Session

open Renderable (cardRegions)

variable {s t u : Session Ui} {path path' : Nat → List Nat} {q v w c e : Nat} {x y : View}
  {r : Renderable} {whole top : Nat → Prop}

/-- An owner of what a view owns is that view, or is below what it owns as well. -/
theorem Under.owner (h : Forest s.ui.views) {d : Nat} (hunder : Under s d c)
    (hy : s.ui.views[e]? = some y) (hc : c ∈ y.components) : c = d ∨ Under s d e := by
  cases hunder with
  | self => exact .inl rfl
  | step hu hz hcz =>
    obtain rfl := h.single _ _ _ _ hz hy _ hcz hc
    exact .inr hu

/-! Letting go -/

/-- A view that lets go of all that it owns. -/
theorem clear_leads (h : Settled path s) (hs : Standing whole top s)
    (hx : s.ui.views[v]? = some x) (hwhole : whole v → x.renderable = none) :
    Leads (clearComponents v) s fun _ t => Settled path t ∧ Standing whole top t ∧ Lasting s t ∧
      t.ui.kit.widgets = s.ui.kit.widgets ∧ t.ui.views[v]? = some (emptied x) ∧
      t.ui.views.length = s.ui.views.length ∧
      (∀ (e : Nat) (y : View), s.ui.views[e]? = some y → ¬Under s v e → t.ui.views[e]? = some y) := by
  refine (clearComponents_leads h hx).mono fun _ t ⟨ht, u, htorn, heq⟩ => ?_
  subst heq
  have hlater (c : Nat) (hc : c ∈ x.components) (e : Nat) (hunder : Under s c e) : v < e :=
    Nat.lt_of_lt_of_le (h.later v x hx c hc).1 (Under.le h.toForest hunder)
  have hxu : u.ui.views[v]? = some x :=
    htorn.kept v x hx fun ⟨c, hc, hunder⟩ => Nat.lt_irrefl v (hlater c hc v hunder)
  have hended (c : Nat) (hc : c ∈ x.components) : ∃ y, u.ui.views[c]? = some y ∧ y.root = none := by
    obtain ⟨y, r, hy, -⟩ := h.shown v x hx c hc
    exact ⟨y.ended, htorn.ended c y hy ⟨c, hc, .self⟩, rfl⟩
  have hstanding : Standing whole top u := by
    refine hs.torn htorn ?_ ?_
    · exact fun e y c ⟨d, hd, hunder⟩ hy hc => ⟨d, hd, hunder.step hy hc⟩
    · intro e y c hy he _ hr hc ⟨d, hd, hunder⟩
      rcases hunder.owner h.toForest hy hc with rfl | hunder
      · obtain rfl := h.single e v y x hy hx c hc hd
        obtain rfl := Option.some.inj (hx.symm.trans hy)
        rw [hwhole he] at hr
        cases hr
      · exact ⟨d, hd, hunder⟩
  have hxt : (u.withView v emptied).ui.views[v]? = some (emptied x) := withView_self hxu emptied
  refine ⟨ht, ?_, htorn.lasting.trans ?_, htorn.widgets, hxt, ?_, fun e y hy hnot => ?_⟩
  · exact hstanding.withView hxu rfl rfl rfl (fun c hc => .inr (hended c hc)) hwhole
  · exact .withView hxu rfl rfl fun _ => rfl
  · rw [length_withView, htorn.length]
  · have hne : e ≠ v := fun he => hnot (he ▸ .self)
    rw [withView_ne emptied hne]
    exact htorn.kept e y hy fun hbelow => hnot ((under_iff hx).2 (.inr hbelow))

/-! Pages -/

theorem pages_subset_children (hr : r ∈ x.pages) :
    ∃ shown : Renderable, x.renderable = some shown ∧ r ∈ shown.children ∧
      ∀ page, shown.shownAt page = x.pages[page]?.toList := by
  unfold View.pages at hr ⊢
  split at hr
  next id title pages height hshown =>
    exact ⟨_, hshown, hr, fun page => rfl⟩
  · exact absurd hr List.not_mem_nil

/-- View `v` is at another page: it keeps its widget, and views that are not below it stay as they are. -/
structure Turned (v : Nat) (s t : Session Ui) : Prop where
  root : ∀ x, s.ui.views[v]? = some x → ∃ y, t.ui.views[v]? = some y ∧ y.root = x.root
  others : ∀ (e : Nat) (x : View), s.ui.views[e]? = some x → ¬Under s v e → t.ui.views[e]? = some x

theorem Turned.refl (v : Nat) (s : Session Ui) : Turned v s s :=
  ⟨fun x hx => ⟨x, hx, rfl⟩, fun _ _ hx _ => hx⟩

/-- A carousel has been given another index. -/
theorem Settled.leafed (h : Settled path s) (hx : s.ui.views[v]? = some x) (i : Nat) :
    Settled path (s.withView v (View.leafed i)) := by
  obtain ⟨vs, hown⟩ := h.own v x hx
  have hhoused := h.toHoused.withView hx (f := View.leafed i) hown (fun c hc => .inl hc) rfl rfl rfl
  exact h.changed hhoused hx rfl rfl id fun c hc => .inl hc

/-- What is owned does not depend on the index of a carousel. -/
theorem under_leafed (hx : s.ui.views[v]? = some x) (i d : Nat) :
    Under (s.withView v (View.leafed i)) d e ↔ Under s d e := by
  refine under_congr fun u => ?_
  by_cases hu : u = v
  · subst hu
    rw [withView_self hx, hx]
    rfl
  · rw [withView_ne _ hu]

/-- Turning to a page comes to its end. The page is destroyed and the other one made. -/
theorem showPage_leads (h : Settled path s) (hs : Standing whole top s) (v : Nat) (index : Int) :
    Leads (showPage v index) s fun _ t => ∃ path', Settled path' t ∧ Outgrows path path' s t ∧
      Standing whole top t ∧ Lasting s t ∧ Turned v s t := by
  have hnothing : ∃ path', Settled path' s ∧ Outgrows path path' s s ∧ Standing whole top s ∧
      Lasting s s ∧ Turned v s s :=
    ⟨path, h, .of_length path rfl, hs, Std.Refl.refl s, .refl v s⟩
  refine leads_bind_eq (exec_view? v s) ?_
  split
  · exact leads_pure hnothing
  next x hx =>
  dsimp only
  generalize (Renderable.clampPage x.pages.length index).toNat = i
  split
  · exact leads_pure hnothing
  next r hr =>
  obtain ⟨shown, hshown, hchild, hcontent⟩ := pages_subset_children (List.mem_of_getElem? hr)
  -- While the page is changed, nothing is said of what the carousel shows.
  have hs₀ : Standing (fun e => whole e ∧ e ≠ v) top s := hs.mono (fun _ he => he.1) fun _ => id
  have hexempt {z : View} (hv : whole v ∧ v ≠ v) : z.renderable = none := absurd rfl hv.2
  have hx₁ : (s.withView v (View.leafed i)).ui.views[v]? = some (x.leafed i) := withView_self hx _
  have h₁ : Settled path (s.withView v (View.leafed i)) := h.leafed hx i
  have hs₁ : Standing (fun e => whole e ∧ e ≠ v) top (s.withView v (View.leafed i)) :=
    hs₀.withView hx rfl rfl rfl (fun c hc => .inl hc) hexempt
  refine leads_bind_eq (exec_updateView v _ s) ?_
  refine leads_bind (clear_leads h₁ hs₁ hx₁ hexempt)
    fun _ s₂ ⟨h₂, hs₂, hlasting₂, hwidgets₂, hx₂, hlength₂, hothers₂⟩ => ?_
  obtain ⟨z, named, hz, hview⟩ := exec_viewOf r View.pagePacking s₂
  refine leads_bind_eq hview ?_
  have hregions := h₂.toFollowed.within_child hx₂ (show (emptied (x.leafed i)).renderable = _ from hshown)
    hchild
  refine leads_bind (addComponent_leads h₂ hx₂ hz hregions named)
    fun _ s₃ ⟨path', h₃, hgrown₃, htakes⟩ => ?_
  have hs₃ := hs₂.takes htakes hx₂ hexempt
  have hx₃ := htakes.owner _ hx₂
  refine (syncNavigation_still h₃.toHoused v).mono fun _ t hstill => ?_
  have hlasting : Lasting s t := by
    have hleaf : Lasting s (s.withView v (View.leafed i)) := .withView hx rfl rfl fun _ => rfl
    exact ((hleaf.trans hlasting₂).trans (htakes.lasting hx₂)).trans hstill.lasting
  have hxt : t.ui.views[v]? = some { x.leafed i with components := [s₂.ui.views.length] } := by
    rw [hstill.views]
    exact hx₃
  have hgrown : Outgrows path path' s t := by
    have hcleared : Outgrows path path s s₂ := .of_length path (congrArg List.length hwidgets₂)
    exact (hcleared.trans hgrown₃).trans (.of_length path' hstill.length)
  have hturned : Turned v s t := by
    refine ⟨fun y hy => ?_, fun e y hy hnot => ?_⟩
    · obtain rfl := Option.some.inj (hx.symm.trans hy)
      exact ⟨_, hxt, rfl⟩
    · have hne : e ≠ v := fun he => hnot (he ▸ .self)
      have hlt : e < s₂.ui.views.length := by
        rw [hlength₂, length_withView]
        exact (List.getElem?_eq_some_iff.1 hy).1
      rw [hstill.views, htakes.others e hlt hne]
      exact hothers₂ e y ((withView_ne _ hne).trans hy) fun hunder => hnot ((under_leafed hx i v).1 hunder)
  refine ⟨path', h₃.still hstill, hgrown, (hs₃.congr hstill.views).completed fun y hy hsome => ?_,
    hlasting, hturned⟩
  obtain rfl := Option.some.inj (hxt.symm.trans hy)
  obtain ⟨y, hy, hrenderable⟩ := htakes.taken
  have hfit := htakes.mounted _ hx₂ hsome _ y (Nat.le_refl _) hy
  obtain ⟨w, hw, -⟩ := hfit.root
  have hpage : View.content { x.leafed i with components := [s₂.ui.views.length] } = [r] := by
    rw [View.content, show View.renderable { x.leafed i with components := _ } = _ from hshown]
    exact (hcontent i).trans (by rw [hr]; rfl)
  have hpresents : Presents t r s₂.ui.views.length :=
    ⟨y, hstill.views ▸ hy, by rw [hw]; rfl, hrenderable⟩
  unfold Complete
  rw [hpage]
  exact .cons hpresents .nil

/-! Stacks -/

/-- View `c` has been made for a renderable and taken in by a view with widget `root`: where that one
is mounted, so is view `c`. -/
structure Taken (root : Option Nat) (s : Session Ui) (r : Renderable) (c : Nat) : Prop where
  shown : ∃ y, s.ui.views[c]? = some y ∧ y.renderable = some r.visible
  mounted : root.isSome = true → ∀ y, s.ui.views[c]? = some y → y.root.isSome = true
  waits : root = none → ∀ y, s.ui.views[c]? = some y → Made r y

theorem Taken.congr {root : Option Nat} (h : Taken root s r c)
    (hview : t.ui.views[c]? = s.ui.views[c]?) : Taken root t r c where
  shown := hview ▸ h.shown
  mounted := hview ▸ h.mounted
  waits := hview ▸ h.waits

theorem Takes.child (h : Takes v r s t) (hx : s.ui.views[v]? = some x) :
    Taken x.root t r s.ui.views.length where
  shown := h.taken
  mounted := by
    intro hsome y hy
    obtain ⟨w, hw, -⟩ := (h.mounted x hx hsome _ y (Nat.le_refl _) hy).root
    rw [hw]
    rfl
  waits := fun hnone => (h.waits x hx hnone).2

/-- The views of a stack have been replaced by views that were made for it, one for each renderable. -/
structure Stacked (v : Nat) (x : View) (rs : List Renderable) (s t : Session Ui) : Prop where
  view : ∃ cs, t.ui.views[v]? = some { x with components := cs } ∧ cs.Nodup ∧
    (∀ c ∈ cs, s.ui.views.length ≤ c) ∧ List.Forall₂ (Taken x.root t) rs cs

/-- View `v`, which owned nothing, has taken in a view `cs` for each of the renderables. -/
structure Stacking (whole top : Nat → Prop) (path path' : Nat → List Nat) (v : Nat) (x : View)
    (rs : List Renderable) (cs : List Nat) (s t : Session Ui) : Prop where
  settled : Settled path' t
  outgrows : Outgrows path path' s t
  standing : Standing whole top t
  lasting : Lasting s t
  regions : s.regions.length ≤ t.regions.length
  length : s.ui.views.length ≤ t.ui.views.length
  view : t.ui.views[v]? = some { x with components := cs }
  nodup : cs.Nodup
  new : ∀ c ∈ cs, s.ui.views.length ≤ c ∧ c < t.ui.views.length
  taken : List.Forall₂ (Taken x.root t) rs cs

/-- One more view is made and taken in. -/
theorem Stacking.step {rs : List Renderable} {cs : List Nat}
    (h : Stacking whole top path path' v x rs cs s t) (hv : v < s.ui.views.length)
    (hwhole : whole v → x.renderable = none) (hy : Made r y)
    (hr : ∀ n ∈ cardRegions [r], n < t.regions.length) (named : Nat) :
    Leads (addComponent v t.ui.views.length) (t.withNew y named) fun _ u => ∃ path'',
      Stacking whole top path path'' v x (rs ++ [r]) (cs ++ [t.ui.views.length]) s u := by
  refine ((addComponent_leads h.settled h.view hy hr named).and_keeps
    (keeps_addComponent (R := ViewsOnly) v _)).mono fun _ u ⟨⟨path'', hu, hgrown, htakes⟩, hkept⟩ => ?_
  have hregions : t.regions.length ≤ u.regions.length := hkept.regions.length_le
  have hchild := htakes.child h.view
  have hfresh : t.ui.views.length ∉ cs := fun hmem => Nat.lt_irrefl _ (h.new _ hmem).2
  obtain ⟨z, hz, -⟩ := htakes.taken
  have hlt : t.ui.views.length < u.ui.views.length := (List.getElem?_eq_some_iff.1 hz).1
  refine ⟨path'', hu, h.outgrows.trans hgrown, h.standing.takes htakes h.view hwhole,
    h.lasting.trans (htakes.lasting h.view), Nat.le_trans h.regions hregions,
    Nat.le_trans h.length (Nat.le_of_lt hlt), htakes.owner _ h.view, ?_, fun c hc => ?_, ?_⟩
  · exact List.nodup_append_comm.1 (List.nodup_cons.2 ⟨hfresh, h.nodup⟩)
  · rcases List.mem_append.1 hc with hc | hc
    · exact ⟨(h.new c hc).1, Nat.lt_trans (h.new c hc).2 hlt⟩
    · obtain rfl := List.mem_singleton.1 hc
      exact ⟨h.length, hlt⟩
  · refine List.rel_append (forall₂_of_mem h.taken fun c hc r hr => ?_) (.cons hchild .nil)
    have hle := (h.new c hc).1
    exact hr.congr (htakes.others c (h.new c hc).2 (by omega))

theorem replaceViews_leads (h : Settled path s) (hs : Standing whole top s)
    (hx : s.ui.views[s.ui.screen.view]? = some x)
    (hwhole : whole s.ui.screen.view → x.renderable = none) {rs : List Renderable}
    (hrs : ∀ n ∈ cardRegions rs, n < s.regions.length) :
    Leads (replaceViews rs) s fun _ t => ∃ path', Settled path' t ∧ Outgrows path path' s t ∧
      Standing whole top t ∧ Lasting s t ∧ Stacked s.ui.screen.view x rs s t := by
  let v := s.ui.screen.view
  have hv : v < s.ui.views.length := (List.getElem?_eq_some_iff.1 hx).1
  refine leads_bind_eq (exec_theUi s) ?_
  refine leads_bind ((clear_leads h hs hx hwhole).and_keeps (keeps_clearComponents (R := ViewsOnly) v))
    fun _ s₁ ⟨⟨h₁, hs₁, hlasting₁, hwidgets₁, hx₁, hlength₁, _⟩, hkept₁⟩ => ?_
  have hstart : Stacking whole top path path v x [] [] s s₁ := ⟨h₁,
    .of_length path (congrArg List.length hwidgets₁), hs₁, hlasting₁, hkept₁.regions.length_le,
    Nat.le_of_eq hlength₁.symm, hx₁, List.nodup_nil, fun c hc => absurd hc List.not_mem_nil, .nil⟩
  refine leads_bind (P := fun _ t => ∃ path' cs, Stacking whole top path path' v x rs cs s t) ?_ ?_
  · refine leads_forIn (fun before t => ∃ path' cs, Stacking whole top path path' v x before cs s t)
      ⟨path, [], hstart⟩ ?_
    rintro before r after t hrs' ⟨path', cs, ht⟩
    have hr (n : Nat) (hn : n ∈ cardRegions [r]) : n < t.regions.length := by
      have hmem : n ∈ cardRegions rs := by
        refine Render.cardRegions_subset (fun z hz => ?_) hn
        rw [List.mem_singleton.1 hz, hrs']
        exact List.mem_append_right _ List.mem_cons_self
      exact Nat.lt_of_lt_of_le (hrs n hmem) ht.regions
    obtain ⟨z, named, hz, hview⟩ := exec_viewOf r View.stackPacking t
    refine leads_bind_eq hview (leads_bind (ht.step hv hwhole hz hr named) ?_)
    exact fun _ u ⟨path'', hu⟩ => leads_pure ⟨rfl, path'', _, hu⟩
  · rintro _ t ⟨path', cs, ht⟩
    exact leads_pure ⟨path', ht.settled, ht.outgrows, ht.standing, ht.lasting, cs, ht.view, ht.nodup,
      fun c hc => (ht.new c hc).1, ht.taken⟩

/-! Mounting a stack -/

/-- Widgets have been added, and views have not changed. -/
theorem Settled.repath (h : Settled path s) (ht : Housed path' t) (hviews : t.ui.views = s.ui.views)
    (hpaths : ∀ c < s.ui.kit.widgets.length, path' c = path c) : Settled path' t where
  toHoused := ht
  linked := by
    intro e x w hx hw
    rw [hviews] at hx
    have hlt {e : Nat} {x : View} {w : Nat} (hx : s.ui.views[e]? = some x) (hw : x.root = some w) :
        w < s.ui.kit.widgets.length := h.toNested.lt_of_owns hx (.inl hw)
    rcases h.linked e x w hx hw with htop | ⟨u, y, r, hy, hr, hmem, hpath⟩
    · exact .inl ((hpaths w (hlt hx hw)).trans htop)
    · refine .inr ⟨u, y, r, hviews ▸ hy, hr, hmem, ?_⟩
      rw [hpaths w (hlt hx hw), hpaths r (hlt hy hr), hpath]
  bare := hviews ▸ h.bare

/-- A view has been given a widget that is in no other view. -/
theorem Settled.rooted (h : Settled path s) (hx : s.ui.views[v]? = some x) (hnone : x.root = none)
    (hw : s.ui.kit.isAlive w = true) (hpath : path w = [v]) :
    Settled path (s.withView v (View.rooted w)) := by
  have hown (c : Nat) (hc : (x.rooted w).Owns c) : s.ui.kit.isAlive c = true ∧ path c = v :: [] := by
    rcases hc with hc | hc
    · obtain rfl := Option.some.inj hc
      exact ⟨hw, hpath⟩
    · have hc : c ∈ x.parts.widgets := hc
      rw [h.bare v x hx hnone] at hc
      exact absurd hc List.not_mem_nil
  have hhoused := h.toHoused.withView hx (f := View.rooted w) hown (fun c hc => .inl hc) rfl rfl rfl
  refine ⟨hhoused, fun e z r hz hr => ?_, fun e z hz hroot => ?_⟩
  · rcases withView_cases hx hz with ⟨rfl, rfl⟩ | ⟨-, hold⟩
    · obtain rfl := Option.some.inj hr
      exact .inl hpath
    · refine (h.linked e z r hold hr).imp_right fun ⟨u, y, r', hy, hr', hrest⟩ => ?_
      refine ⟨u, y, r', (withView_ne _ ?_).trans hy, hr', hrest⟩
      rintro rfl
      obtain rfl := Option.some.inj (hx.symm.trans hy)
      rw [hnone] at hr'
      cases hr'
  · rcases withView_cases hx hz with ⟨rfl, rfl⟩ | ⟨-, hold⟩
    · cases hroot
    · exact h.bare e z hold hroot

theorem Standing.rooted (h : Standing whole top s) (hx : s.ui.views[v]? = some x)
    (hnone : x.root = none) (hrenderable : x.renderable = none) (htop : top v) :
    Standing whole top (s.withView v (View.rooted w)) := by
  have hview {e : Nat} {y : View} (hy : s.ui.views[e]? = some y) (hsome : y.root.isSome = true) :
      (s.withView v (View.rooted w)).ui.views[e]? = some y := by
    refine (withView_ne _ ?_).trans hy
    rintro rfl
    obtain rfl := Option.some.inj (hx.symm.trans hy)
    rw [hnone] at hsome
    cases hsome
  refine ⟨fun e z hz hsome => ?_, fun e z hz hsome he hr => ?_, fun e z hz hsome => ?_⟩
  · rcases withView_cases hx hz with ⟨rfl, rfl⟩ | ⟨-, hold⟩
    · intro n hn
      rw [View.region?, show (x.rooted w).renderable = none from hrenderable] at hn
      cases hn
    · exact h.furnished e z hold hsome
  · rcases withView_cases hx hz with ⟨rfl, rfl⟩ | ⟨-, hold⟩
    · rw [show (x.rooted w).renderable = none from hrenderable] at hr
      cases hr
    · refine (h.complete e z hold hsome he hr).mono fun c _ r hpresents => ?_
      exact hpresents.kept fun y hy hysome => ⟨y, hview hy hysome, hysome, rfl⟩
  · rcases withView_cases hx hz with ⟨rfl, rfl⟩ | ⟨-, hold⟩
    · exact .inl htop
    · refine (h.held e z hold hsome).imp_right ?_
      rintro ⟨o, y, hy, hysome, hmem⟩
      exact ⟨o, y, hview hy hysome, hysome, hmem⟩

theorem schedulePoll_still (hw : s.ui.kit.isAlive w = true) :
    Leads (schedulePoll w) s fun _ t => Still s t := by
  refine leads_bind_eq (exec_get s) ?_
  split
  · refine leads_bind_eq (exec_theUi s) ?_
    exact leads_bind_eq (exec_after hw _ _) ⟨⟨⟩, _, rfl, .of_widgets rfl rfl rfl rfl⟩
  · exact leads_pure (.refl s)

theorem buildGroup_leads (h : Housed path s) (hq : s.ui.kit.isAlive q = true) (kind : ViewKind) :
    Leads (buildGroup kind q) s fun w t => ∃ u, Builds s.ui.kit.widgets.length q s u ∧
      Fresh s.ui.kit.widgets.length u w ∧ Still u t := by
  have hsite := h.grown.site hq
  unfold buildGroup
  split
  · refine leads_bind (create_leads hsite (.inl rfl) _ _) fun w u ⟨hu, hw⟩ => ?_
    refine leads_bind (schedulePoll_still (hw.isAlive hu.site)) fun _ t ht => ?_
    exact leads_pure ⟨u, hu, hw, ht⟩
  · exact (create_leads hsite (.inl rfl) _ _).mono fun w u ⟨hu, hw⟩ => ⟨u, hu, hw, .refl u⟩

/-- View `v` of a stack has got widget `w`, and those of its views that have been gone through are
mounted. The others are mounted as well, or they are as they were. -/
structure Hoisted (whole top : Nat → Prop) (path path' : Nat → List Nat) (v w : Nat) (x : View)
    (cs : List Nat) (s t : Session Ui) : Prop where
  settled : Settled path' t
  outgrows : Outgrows path path' s t
  standing : Standing whole top t
  lasting : Lasting s t
  alive : t.ui.kit.isAlive w = true
  view : t.ui.views[v]? = some { x with root := some w }
  mounted : ∀ c ∈ cs, ∃ y, t.ui.views[c]? = some y ∧ y.root.isSome = true
  waits : ∀ c ∈ x.components, ∀ y, t.ui.views[c]? = some y → y.root = none → s.ui.views[c]? = some y

/-- The widget of the stack stands, in no view but the stack. -/
theorem Settled.hoisted (h : Settled path s) (hs : Standing whole top s)
    (hx : s.ui.views[v]? = some x) (hrenderable : x.renderable = none) (hnone : x.root = none)
    (htop : top v) (hq : s.ui.kit.isAlive q = true) (hqpath : path q = [])
    (hu : Builds s.ui.kit.widgets.length q s u) (hw : Fresh s.ui.kit.widgets.length u w)
    (hstill : Still u t) :
    Hoisted whole top path (raised s.ui.kit.widgets.length [v] path) v w x [] s
      (t.withView v (View.rooted w)) := by
  have hhoused : Housed (raised s.ui.kit.widgets.length [v] path) t := by
    refine (h.toHoused.builds hu hq (.inr ⟨v, ?_⟩)).still hstill
    rw [hqpath]
  have hviews : t.ui.views = s.ui.views := by
    rw [hstill.views, hu.eq]
    rfl
  have ht := h.repath hhoused hviews fun c hc => raised_of_lt hc
  have hxt : t.ui.views[v]? = some x := hviews ▸ hx
  have halive : t.ui.kit.isAlive w = true := (hstill.isAlive w).trans (hw.isAlive hu.site)
  have hbuilt : Lasting s t :=
    .of_views (hstill.destroyed.trans hu.kit.destroyed) fun e y hy =>
      ⟨y, hviews ▸ hy, rfl, rfl, fun _ => rfl⟩
  refine ⟨ht.rooted hxt hnone halive (raised_of_le hw.1), ⟨?_, fun c hc => raised_of_lt hc⟩,
    (hs.congr hviews).rooted hxt hnone hrenderable htop,
    hbuilt.trans (.withView hxt rfl rfl fun hsome => ?_), halive, withView_self hxt _,
    fun c hc => absurd hc List.not_mem_nil, fun c hc y hy _ => ?_⟩
  · exact Nat.le_trans hu.kit.length (Nat.le_of_eq hstill.length.symm)
  · rw [hnone] at hsome
    cases hsome
  · rw [withView_ne _ (Nat.ne_of_gt (h.later v x hx c hc).1), hviews] at hy
    exact hy

/-- A view that is mounted already stays as it is. -/
theorem Hoisted.passed {cs : List Nat} (h : Hoisted whole top path path' v w x cs s t)
    (hy : t.ui.views[c]? = some y) (hsome : y.root.isSome = true) :
    Hoisted whole top path path' v w x (cs ++ [c]) s t := by
  refine { h with mounted := fun d hd => ?_ }
  rcases List.mem_append.1 hd with hd | hd
  · exact h.mounted d hd
  · obtain rfl := List.mem_singleton.1 hd
    exact ⟨y, hy, hsome⟩

/-- A view of the stack that was not mounted has been mounted. -/
theorem Hoisted.mounts {path'' : Nat → List Nat} {cs : List Nat}
    (h : Hoisted whole top path path' v w x cs s t) (hx : s.ui.views[v]? = some x)
    (hforest : Forest s.ui.views) (hc : c ∈ x.components) (hy : t.ui.views[c]? = some y)
    (hu : Settled path'' u) (hmounts : Mounts path' path'' c t u)
    (hmade : whole c → y.index = 0 ∧ y.components = []) :
    Hoisted whole top path path'' v w x (cs ++ [c]) s u := by
  obtain ⟨z, w', hz, -, hw', -⟩ := hmounts.view hy
  refine ⟨hu, h.outgrows.trans hmounts.outgrows, ?_, h.lasting.trans (hmounts.lasting hy),
    hmounts.isAlive h.alive, hmounts.toSpares.view h.view rfl, fun d hd => ?_,
    fun d hd y' hy' hnone' => ?_⟩
  · exact h.standing.mounts hmounts hy hmade (.inr ⟨v, _, h.view, rfl, hc⟩)
  · rcases List.mem_append.1 hd with hd | hd
    · obtain ⟨y', hy', hsome⟩ := h.mounted d hd
      exact ⟨y', hmounts.toSpares.view hy' hsome, hsome⟩
    · obtain rfl := List.mem_singleton.1 hd
      exact ⟨z, hz, by rw [hw']; rfl⟩
  · by_cases hdc : d = c
    · subst hdc
      obtain rfl := Option.some.inj (hz.symm.trans hy')
      rw [hw'] at hnone'
      cases hnone'
    · obtain ⟨z₀, r', hz₀, -⟩ := hforest.shown v x hx d hd
      obtain ⟨z', hz', -⟩ := h.lasting.views d z₀ hz₀
      have hold := hmounts.others d (List.getElem?_eq_some_iff.1 hz').1 hdc
      exact h.waits d hd y' (hold.symm.trans hy') hnone'

/-- A view that only holds others is mounted, and with it all that it owns. -/
theorem mountGroup_leads (h : Settled path s) (hs : Standing whole top s)
    (hx : s.ui.views[v]? = some x) (hgroup : x.kind.isGroup = true)
    (hrenderable : x.renderable = none) (hnone : x.root = none) (htop : top v)
    (hq : s.ui.kit.isAlive q = true) (hqpath : path q = [])
    (hmade : ∀ c ∈ x.components, whole c → ∀ y, s.ui.views[c]? = some y → y.root = none →
      y.index = 0 ∧ y.components = []) :
    Leads (mount v q) s fun _ t => ∃ path', Settled path' t ∧ Outgrows path path' s t ∧
      Standing whole top t ∧ Lasting s t ∧ ∃ w, (∃ u, exec (buildGroup x.kind q) s = (.ok w, u)) ∧
        t.ui.views[v]? = some { x with root := some w } ∧
        ∀ c ∈ x.components, ∃ y, t.ui.views[c]? = some y ∧ y.root.isSome = true := by
  have hv : v < s.ui.views.length := (List.getElem?_eq_some_iff.1 hx).1
  obtain ⟨fuel, hfuel⟩ : ∃ n, s.ui.views.length = n + 1 := ⟨s.ui.views.length - 1, by omega⟩
  have hdepth : exec depth s = (.ok (s.ui.views.length + 1), s) := rfl
  refine leads_bind_eq hdepth ?_
  rw [hfuel]
  refine leads_bind_eq (exec_view? v s) ?_
  rw [hx]
  dsimp only
  rw [if_pos hgroup]
  obtain ⟨w, s₁, hbuild, u, hu, hw, hstill⟩ := buildGroup_leads h.toHoused hq x.kind
  refine leads_bind_eq hbuild (leads_bind_eq (exec_updateView v _ s₁) ?_)
  have hstart := h.hoisted hs hx hrenderable hnone htop hq hqpath hu hw hstill
  refine leads_bind (P := fun _ t =>
    ∃ path', Hoisted whole top path path' v w x x.components s t) ?_ ?_
  · refine leads_forIn (fun before t => ∃ path', Hoisted whole top path path' v w x before s t)
      ⟨_, hstart⟩ ?_
    rintro before c after t hcs ⟨path₁, ht⟩
    have hc : c ∈ x.components := by simp [hcs]
    obtain ⟨y₀, r, hy₀, hr₀⟩ := h.shown v x hx c hc
    obtain ⟨y, hy, -, hr⟩ := ht.lasting.views c y₀ hy₀
    refine leads_bind_eq (exec_view? c t) ?_
    rw [hy, Option.map_some]
    cases hroot : y.root with
    | some w' =>
      have hsome : y.root.isSome = true := by rw [hroot]; rfl
      have hmounted : y.isMounted = true := hsome
      rw [hmounted, if_neg (by decide)]
      exact leads_pure ⟨rfl, path₁, ht.passed hy hsome⟩
    | none =>
      have hmounted : y.isMounted = false := by simp [View.isMounted, hroot]
      rw [hmounted, if_pos (by decide)]
      have hplace : Place path₁ t c w := .inr ⟨v, _, w, ht.view, rfl, hc, rfl⟩
      refine leads_bind (mountDeep_leads ht.settled hy hroot (hr.trans hr₀) ht.alive hplace fuel) ?_
      rintro _ u ⟨path₂, hu, hmounts⟩
      have hold := ht.waits c hc y hy hroot
      exact leads_pure ⟨rfl, path₂, ht.mounts hx h.toForest hc hy hu hmounts
        fun he => hmade c hc he y hold hroot⟩
  · rintro _ t ⟨path', ht⟩
    exact leads_pure ⟨path', ht.settled, ht.outgrows, ht.standing, ht.lasting, w, ⟨s₁, hbuild⟩,
      ht.view, ht.mounted⟩

end Session
end RemoteScreen
