import RemoteScreen.Proofs.View.Display

/-! Who listens to the regions of a tree. Where each card of the tree has a region of its own, a region
is heard by the one mounted view that shows its card, and by nobody when no mounted view does. -/
namespace RemoteScreen

open Renderable (cardRegions)

/-! Regions of trees -/

theorem Renderable.cardRegions_cons (r : Renderable) (rs : List Renderable) :
    cardRegions (r :: rs) = cardRegions [r] ++ cardRegions rs := by
  simp [cardRegions]

theorem Renderable.cardRegions_visible (r : Renderable) :
    cardRegions [r.visible] = cardRegions [r] := by
  cases r <;> rfl

theorem Renderable.cardRegions_sublist {rs rs' : List Renderable} (h : rs.Sublist rs') :
    (cardRegions rs).Sublist (cardRegions rs') := by
  induction h with
  | slnil => exact List.Sublist.refl _
  | cons r _ ih =>
    rw [cardRegions_cons]
    exact ih.trans (List.sublist_append_right _ _)
  | @cons_cons as bs r _ ih =>
    rw [cardRegions_cons r as, cardRegions_cons r bs]
    exact ih.append_left _

/-- Where no two cards have the same region, a region is that of a card in one tree only. -/
theorem Renderable.index_eq_of_mem_cardRegions {rs : List Renderable} (h : (cardRegions rs).Nodup)
    {i j n : Nat} {a b : Renderable} (ha : rs[i]? = some a) (hb : rs[j]? = some b)
    (hna : n ∈ cardRegions [a]) (hnb : n ∈ cardRegions [b]) : i = j := by
  induction rs generalizing i j with
  | nil => cases ha
  | cons r rs ih =>
    rw [cardRegions_cons] at h
    have hrest {k : Nat} {c : Renderable} (hc : rs[k]? = some c) (hn : n ∈ cardRegions [c]) :
        n ∈ cardRegions rs :=
      (cardRegions_sublist (List.singleton_sublist.2 (List.mem_of_getElem? hc))).subset hn
    have hapart (hhead : n ∈ cardRegions [r]) (htail : n ∈ cardRegions rs) : False :=
      (List.nodup_append.1 h).2.2 n hhead n htail rfl
    cases i with
    | zero =>
      obtain rfl : r = a := Option.some.inj ha
      cases j with
      | zero => rfl
      | succ j => exact (hapart hna (hrest hb hnb)).elim
    | succ i =>
      cases j with
      | zero =>
        obtain rfl : r = b := Option.some.inj hb
        exact (hapart hnb (hrest ha hna)).elim
      | succ j => rw [ih (List.nodup_append.1 h).2.1 ha hb]

/-- What can be seen of a renderable is part of it. -/
theorem Renderable.shownAt_sublist (r : Renderable) (page : Nat) :
    (r.shownAt page).Sublist r.children := by
  cases r with
  | carousel id title pages height =>
    rw [shownAt, children]
    cases h : pages[page]? with
    | none => exact List.nil_sublist _
    | some p => exact List.singleton_sublist.2 (List.mem_of_getElem? h)
  | hscroll id title slots spacing => exact List.Sublist.refl _
  | _ => exact List.nil_sublist _

theorem Renderable.shownAt_card {r : Renderable} {n : Nat} (h : r.region? = some n) (page : Nat) :
    r.shownAt page = [] := by
  cases r <;> simp_all [region?, shownAt]

/-- What can be seen of a renderable has cards of the renderable. -/
theorem Renderable.cardRegions_shownAt (r : Renderable) (page : Nat) :
    (cardRegions (r.shownAt page)).Sublist (cardRegions [r]) := by
  cases h : r.region? with
  | some n =>
    rw [shownAt_card h]
    exact List.nil_sublist _
  | none =>
    rw [Render.cardRegions_node h]
    exact cardRegions_sublist (r.shownAt_sublist page)

namespace Session

variable {s t : Session Ui} {x y : View} {base c e u v n : Nat} {top : Nat → Prop}
  {r r' : Renderable} {g : Region Nat}

/-! Mounted views -/

/-- View `e` is mounted and shows renderable `r`. -/
def Displays (s : Session Ui) (e : Nat) (r : Renderable) : Prop :=
  ∃ y, s.ui.views[e]? = some y ∧ y.root.isSome = true ∧ y.renderable = some r

/-- The views that a mounted view owns are mounted, each for one of the things to be seen of it. -/
theorem Displays.child (h : OnDisplay base (fun _ => True) top s) (he : Displays s e r)
    (hx : s.ui.views[e]? = some x) {i : Nat} (hc : x.components[i]? = some c) :
    ∃ r' : Renderable, (r.shownAt x.index)[i]? = some r' ∧ Displays s c r'.visible := by
  obtain ⟨y, hy, hsome, hr⟩ := he
  obtain rfl := Option.some.inj (hx.symm.trans hy)
  have hcomplete := h.standing.complete e x hx hsome trivial (by rw [hr]; rfl)
  have hcontent : x.content = r.shownAt x.index := by rw [View.content, hr]
  unfold Complete at hcomplete
  rw [hcontent] at hcomplete
  exact forall₂_getElem? hcomplete hc

/-- What is mounted within a view that is mounted has cards of that view. -/
theorem Displays.below (h : OnDisplay base (fun _ => True) top s) (he : Displays s e r)
    (hunder : Under s e u) :
    ∃ r', Displays s u r' ∧ (cardRegions [r']).Sublist (cardRegions [r]) := by
  induction hunder with
  | self => exact ⟨r, he, List.Sublist.refl _⟩
  | step _ hy hc ih =>
    obtain ⟨r', hdisplays, hsub⟩ := ih
    obtain ⟨i, hi⟩ := List.mem_iff_getElem?.1 hc
    obtain ⟨r'', hr'', hchild⟩ := hdisplays.child h hy hi
    refine ⟨r''.visible, hchild, List.Sublist.trans ?_ hsub⟩
    rw [r''.cardRegions_visible]
    have hpart : [r''].Sublist (r'.shownAt _) :=
      List.singleton_sublist.2 (List.mem_of_getElem? hr'')
    exact (Renderable.cardRegions_sublist hpart).trans (r'.cardRegions_shownAt _)

theorem Displays.unique (h : Displays s e r) (k : Displays s e r') : r = r' := by
  obtain ⟨x, hx, -, hr⟩ := h
  obtain ⟨y, hy, -, hr'⟩ := k
  obtain rfl := Option.some.inj (hx.symm.trans hy)
  exact Option.some.inj (hr.symm.trans hr')

/-- Where each card has a region of its own, the card with a region is within every mounted view that
has the region, next to which there is no other. -/
theorem Displays.under_of_card (h : OnDisplay base (fun _ => True) top s) (he : Displays s e r)
    (hnodup : (cardRegions [r]).Nodup) (hu : Under s e u) (hv : Under s e v)
    {ru rv : Renderable} (hru : Displays s u ru) (hn : n ∈ cardRegions [ru])
    (hrv : Displays s v rv) (hcard : rv.region? = some n) : Under s u v := by
  obtain ⟨path, hpath, -⟩ := h.settled
  -- Views below view `e` have greater numbers than it.
  obtain ⟨k, hk⟩ : ∃ k, s.ui.views.length - e = k := ⟨_, rfl⟩
  induction k using Nat.strongRecOn generalizing e r with
  | ind k ih =>
    obtain ⟨x, hx, hsome, hr⟩ := he
    have hmem {c : Nat} {r' : Renderable} {i : Nat}
        (hi : (r.shownAt x.index)[i]? = some r') (hc : Displays s c r'.visible) {d : Nat}
        {rd : Renderable} (hd : Under s c d) (hrd : Displays s d rd) (hnd : n ∈ cardRegions [rd]) :
        n ∈ cardRegions [r'] := by
      obtain ⟨r'', hr'', hsub⟩ := hc.below h hd
      rw [← Renderable.cardRegions_visible]
      exact hsub.subset (hr''.unique hrd ▸ hnd)
    have hnv : n ∈ cardRegions [rv] := by
      rw [cardRegions_card hcard]
      exact List.mem_singleton_self n
    rcases (under_iff hx).1 hu with rfl | ⟨c, hc, huc⟩
    · exact hv
    · obtain ⟨i, hi⟩ := List.mem_iff_getElem?.1 hc
      obtain ⟨r₁, hr₁, hc₁⟩ := Displays.child h ⟨x, hx, hsome, hr⟩ hx hi
      rcases (under_iff hx).1 hv with rfl | ⟨d, hd, hvd⟩
      · -- A card owns nothing.
        obtain rfl := Displays.unique ⟨x, hx, hsome, hr⟩ hrv
        rw [Renderable.shownAt_card hcard] at hr₁
        cases hr₁
      · obtain ⟨j, hj⟩ := List.mem_iff_getElem?.1 hd
        obtain ⟨r₂, hr₂, hd₂⟩ := Displays.child h ⟨x, hx, hsome, hr⟩ hx hj
        have hshown : (cardRegions (r.shownAt x.index)).Nodup :=
          hnodup.sublist (r.cardRegions_shownAt x.index)
        obtain rfl := Renderable.index_eq_of_mem_cardRegions hshown hr₁ hr₂
          (hmem hr₁ hc₁ huc hru hn) (hmem hr₂ hd₂ hvd hrv hnv)
        obtain rfl := Option.some.inj (hi.symm.trans hj)
        have hlater := hpath.later e x hx c hc
        refine ih _ ?_ hc₁ ?_ huc hvd rfl
        · omega
        · rw [r₁.cardRegions_visible]
          have hpart : [r₁].Sublist (r.shownAt x.index) :=
            List.singleton_sublist.2 (List.mem_of_getElem? hr₁)
          exact hshown.sublist (Renderable.cardRegions_sublist hpart)

/-! Listeners -/

/-- A region is heard by the mounted views that show its card, and by no others. -/
theorem OnDisplay.mem_listeners_iff {whole : Nat → Prop} (h : OnDisplay base whole top s)
    (hg : s.regions[n]? = some g) : v ∈ g.listeners ↔
      ∃ r, Displays s v r ∧ r.region? = some n := by
  obtain ⟨path, hpath, -⟩ := h.settled
  rw [(hpath.heard n g hg).2 v]
  constructor
  · rintro ⟨label, hfollow⟩
    obtain ⟨x, hx, hparts, hn⟩ := follows_iff.1 hfollow
    obtain ⟨r, hr, hregion⟩ := Option.bind_eq_some_iff.1 hn
    refine ⟨r, ⟨x, hx, ?_, hr⟩, hregion⟩
    by_contra hnot
    rw [hpath.bare v x hx (Option.not_isSome_iff_eq_none.1 hnot)] at hparts
    cases hparts
  · rintro ⟨r, ⟨x, hx, hsome, hr⟩, hregion⟩
    have hn : x.region? = some n := by rw [View.region?, hr, Option.bind_some, hregion]
    obtain ⟨label, hparts⟩ := h.standing.furnished v x hx hsome n hn
    exact ⟨label, follows_iff.2 ⟨x, hx, hparts, hn⟩⟩

/-- What is on display of a tree in which each card has a region of its own, mounted as view `c`. -/
structure Planted (base c : Nat) (r : Renderable) (s : Session Ui) : Prop where
  display : OnDisplay base (fun _ => True) (· = c) s
  tree : ∃ x, s.ui.views[c]? = some x ∧ x.renderable = some r.visible
  apart : (cardRegions [r]).Nodup

theorem Planted.displays (h : Planted base c r s) (hx : s.ui.views[e]? = some x)
    (hsome : x.root.isSome = true) : Under s c e ∧ Displays s c r.visible := by
  obtain ⟨hunder, y, hy, hysome⟩ := h.display.under hx hsome
  obtain ⟨z, hz, hr⟩ := h.tree
  obtain rfl := Option.some.inj (hy.symm.trans hz)
  exact ⟨hunder, y, hy, hysome, hr⟩

/-- The card with a region is within every mounted view that has the region. -/
theorem Planted.under_of_card (h : Planted base c r s) {ru rv : Renderable}
    (hru : Displays s u ru) (hn : n ∈ cardRegions [ru]) (hrv : Displays s v rv)
    (hcard : rv.region? = some n) : Under s u v := by
  obtain ⟨x, hx, hxsome, hxr⟩ := hru
  obtain ⟨y, hy, hysome, hyr⟩ := hrv
  obtain ⟨hu, htop⟩ := h.displays hx hxsome
  obtain ⟨hv, -⟩ := h.displays hy hysome
  have hnodup : (cardRegions [r.visible]).Nodup := by
    rw [r.cardRegions_visible]
    exact h.apart
  exact htop.under_of_card h.display hnodup hu hv ⟨x, hx, hxsome, hxr⟩ hn ⟨y, hy, hysome, hyr⟩ hcard

/-- A mounted card is the only listener of its region. -/
theorem Planted.listeners_eq (h : Planted base c r s) (hg : s.regions[n]? = some g)
    {rv : Renderable} (hrv : Displays s v rv) (hcard : rv.region? = some n) :
    g.listeners = [v] := by
  obtain ⟨path, hpath, -⟩ := h.display.settled
  have hn : n ∈ cardRegions [rv] := by
    rw [cardRegions_card hcard]
    exact List.mem_singleton_self n
  have hv : v ∈ g.listeners := (h.display.mem_listeners_iff hg).2 ⟨rv, hrv, hcard⟩
  have honly (u : Nat) (hu : u ∈ g.listeners) : u = v := by
    obtain ⟨ru, hru, hregion⟩ := (h.display.mem_listeners_iff hg).1 hu
    have hunder : Under s v u := h.under_of_card hrv hn hru hregion
    obtain ⟨x, hx, hsome, hr⟩ := hrv
    rcases (under_iff hx).1 hunder with rfl | ⟨d, hd, -⟩
    · rfl
    · -- A card owns nothing.
      obtain ⟨i, hi⟩ := List.mem_iff_getElem?.1 hd
      obtain ⟨r', hr', -⟩ := Displays.child h.display ⟨x, hx, hsome, hr⟩ hx hi
      rw [Renderable.shownAt_card hcard] at hr'
      cases hr'
  have hperm : g.listeners.Perm [v] := by
    refine (List.perm_ext_iff_of_nodup (hpath.heard n g hg).1 (List.nodup_singleton v)).2 fun u => ?_
    rw [List.mem_singleton]
    exact ⟨honly u, fun hu => hu ▸ hv⟩
  exact List.perm_singleton.1 hperm

/-- Nobody listens to the regions of a page that is hidden. -/
theorem Planted.listeners_hidden (h : Planted base c r s) (hg : s.regions[n]? = some g)
    (hx : s.ui.views[v]? = some x) (hsome : x.root.isSome = true) {i : Nat} {page : Renderable}
    (hpage : x.pages[i]? = some page) (hi : i ≠ x.index) (hn : n ∈ cardRegions [page]) :
    g.listeners = [] := by
  unfold View.pages at hpage
  split at hpage
  next id title pages height hshown =>
    let shown : Renderable := .carousel id title pages height
    have hv : Displays s v shown := ⟨x, hx, hsome, hshown⟩
    obtain ⟨hunder, htop⟩ := h.displays hx hsome
    have hpages : (cardRegions pages).Nodup := by
      obtain ⟨shown', hv', hsub⟩ := htop.below h.display hunder
      obtain rfl := hv.unique hv'
      have hall : (cardRegions [shown]).Nodup := (r.cardRegions_visible ▸ h.apart).sublist hsub
      rwa [Render.cardRegions_node (r := shown) rfl] at hall
    have hpart : n ∈ cardRegions [shown] := by
      rw [Render.cardRegions_node (r := shown) rfl]
      exact Render.mem_cardRegions.2 ⟨page, List.mem_of_getElem? hpage, hn⟩
    refine List.eq_nil_iff_forall_not_mem.2 fun w hw => ?_
    obtain ⟨rw, hrw, hcard⟩ := (h.display.mem_listeners_iff hg).1 hw
    rcases (under_iff hx).1 (h.under_of_card hv hpart hrw hcard) with rfl | ⟨d, hd, hdw⟩
    · obtain rfl := hv.unique hrw
      cases hcard
    · -- The card would be that of the page that is shown.
      obtain ⟨k, hk⟩ := List.mem_iff_getElem?.1 hd
      obtain ⟨r', hr', hd'⟩ := hv.child h.display hx hk
      have hcurrent : pages[x.index]? = some r' := Option.mem_toList.1 (List.mem_of_getElem? hr')
      obtain ⟨rw', hrw', hsub⟩ := hd'.below h.display hdw
      obtain rfl := hrw.unique hrw'
      have hn' : n ∈ cardRegions [r'] := by
        rw [← r'.cardRegions_visible]
        refine hsub.subset ?_
        rw [cardRegions_card hcard]
        exact List.mem_singleton_self n
      exact hi (Renderable.index_eq_of_mem_cardRegions hpages hpage hcurrent hn hn')
  · cases hpage

/-! Runs -/

/-- What may be done to a tree that has been mounted as view `c`: carousels are turned to other pages,
regions come to their end, and the whole tree is destroyed. -/
def DisplayStep.Browses (c : Nat) : DisplayStep → Prop
  | .page _ _ => True
  | .turn _ _ => True
  | .resolve _ _ => True
  | .fail _ => True
  | .destroy v => v = c
  | _ => False

theorem DisplayStep.Browses.permitted {step : DisplayStep} (h : step.Browses c) (base : Nat)
    (s : Session Ui) : step.Permitted base s := by
  cases step <;> trivial

/-- Nobody owns a view within which all mounted views are. -/
theorem DisplayStep.Browses.sound {step : DisplayStep} (hstep : step.Browses c)
    (h : OnDisplay base (fun _ => True) top s) (htop : ∀ e, top e → e = c) :
    step.Sound (fun _ => True) top s := by
  cases step with
  | destroy v =>
    obtain rfl : v = c := hstep
    intro e y hy _ hsome _ hmem
    obtain ⟨path, hpath, -⟩ := h.settled
    have hbefore : v ≤ e := by
      have hdisplay : OnDisplay base (fun _ => True) (· = v) s :=
        ⟨h.settled, h.below, h.standing.mono (fun _ => id) htop, h.screen⟩
      exact Under.le hpath.toForest (hdisplay.under hy hsome).1
    exact Nat.not_le.2 (hpath.later e y hy v hmem).1 hbefore
  | mount v q => exact hstep.elim
  | response response => exact hstep.elim
  | _ => trivial

theorem Planted.step (h : Planted base c r s) {step : DisplayStep} (hstep : step.Browses c) :
    Planted base c r (next step.act s) := by
  have hsound := hstep.sound h.display fun _ he => he
  obtain ⟨hdisplay, hlasting⟩ := h.display.step (hstep.permitted base s) hsound
  obtain ⟨x, hx, hr⟩ := h.tree
  obtain ⟨y, hy, -, hrenderable⟩ := hlasting.views c x hx
  exact ⟨hdisplay, ⟨y, hy, hrenderable.trans hr⟩, h.apart⟩

theorem Planted.run (h : Planted base c r s) {steps : List DisplayStep}
    (hsteps : ∀ step ∈ steps, step.Browses c) : Planted base c r (runDisplay s steps) := by
  induction steps generalizing s with
  | nil => exact h
  | cons step steps ih =>
    have hstep := h.step (hsteps step List.mem_cons_self)
    exact ih hstep fun other hmem => hsteps other (List.mem_cons_of_mem _ hmem)

/-- Once no view is mounted, none is mounted by turning pages or by the end of regions. -/
theorem OnDisplay.run_unmounted (h : OnDisplay base (fun _ => True) (fun _ => False) s)
    {steps : List DisplayStep} (hsteps : ∀ step ∈ steps, step.Browses c) :
    OnDisplay base (fun _ => True) (fun _ => False) (runDisplay s steps) := by
  induction steps generalizing s with
  | nil => exact h
  | cons step steps ih =>
    have hstep := hsteps step List.mem_cons_self
    have hsound := hstep.sound h fun _ he => he.elim
    have hnext := (h.step (hstep.permitted base s) hsound).1
    exact ih hnext fun other hmem => hsteps other (List.mem_cons_of_mem _ hmem)

/-- When the tree is destroyed, no view is mounted any more. -/
theorem Planted.destroyed (h : Planted base c r s) :
    OnDisplay base (fun _ => True) (fun _ => False) (next (destroy c) s) := by
  have hsound : (DisplayStep.destroy c).Sound (fun _ => True) (· = c) s :=
    DisplayStep.Browses.sound (c := c) rfl h.display fun _ he => he
  obtain ⟨_, -, ht, -, htorn⟩ := (h.display.destroy hsound).next
  obtain ⟨x, hx, -⟩ := h.tree
  refine ⟨ht.settled, ht.below, ⟨ht.standing.furnished, ht.standing.complete, ?_⟩, ht.screen⟩
  intro e y hy hsome
  refine .inr ((ht.standing.held e y hy hsome).resolve_left ?_)
  rintro rfl
  obtain rfl := Option.some.inj ((htorn.ended e x hx .self).symm.trans hy)
  cases hsome

/-- A tree is made and mounted. -/
theorem Idle.planted (h : Idle s) (hr : ∀ n ∈ cardRegions [r], n < s.regions.length)
    (hapart : (cardRegions [r]).Nodup) (packing : Attributes) {q : Nat}
    (hq : s.ui.kit.isAlive q = true) :
    Planted s.ui.kit.widgets.length s.ui.views.length r
      (runDisplay s [.make r packing, .mount s.ui.views.length q]) := by
  let c := s.ui.views.length
  have hdisplay := h.display (fun _ => True) (· = c)
  obtain ⟨_, -, -, ⟨y, named, hy, hmade⟩, hdisplay₁, -⟩ := (hdisplay.make hr packing).next
  have hfirst : next (DisplayStep.make r packing).act s = s.withNew y named := by
    rw [DisplayStep.act, next_discard, hmade]
  rw [hmade] at hdisplay₁
  have hyc : (s.withNew y named).ui.views[c]? = some y := withNew_self s y named
  have hmount := hdisplay₁.mountShown hyc hy.root hy.renderable hq (Toolkit.lt_of_isAlive hq) rfl
    fun _ => ⟨hy.index, hy.components⟩
  obtain ⟨_, -, hdisplay₂, hlasting⟩ := hmount.next
  have hrun : runDisplay s [.make r packing, .mount c q] =
      next (mount c q) (s.withNew y named) := by
    rw [← hfirst]
    rfl
  obtain ⟨z, hz, -, hrenderable⟩ := hlasting.views c y hyc
  rw [hrun]
  exact ⟨hdisplay₂, ⟨z, hz, hrenderable.trans hy.renderable⟩, hapart⟩

/-- A tree is made, mounted in widget `q`, and browsed. -/
def browseTree (s : Session Ui) (r : Renderable) (packing : Attributes) (q : Nat)
    (steps : List DisplayStep) : Session Ui :=
  runDisplay s (.make r packing :: .mount s.ui.views.length q :: steps)

/-- No view stays subscribed. When a tree in which each card has a region of its own has been mounted,
then however pages are turned, regions come to their end and the tree is destroyed, a region is heard
once by the mounted view that shows its card and else by nobody: not for a page that is hidden, and
not for anything once the tree has been destroyed. -/
theorem listeners_match_cards {s₀ : Session Ui} (h₀ : Idle s₀) {r : Renderable}
    (hr : ∀ n ∈ cardRegions [r], n < s₀.regions.length) (hapart : (cardRegions [r]).Nodup)
    (packing : Attributes) {q : Nat} (hq : s₀.ui.kit.isAlive q = true) {steps : List DisplayStep}
    (hsteps : ∀ step ∈ steps, step.Browses s₀.ui.views.length) {n : Nat} {g : Region Nat}
    (hg : (browseTree s₀ r packing q steps).regions[n]? = some g) :
    (∀ (v : Nat) (x : View), (browseTree s₀ r packing q steps).ui.views[v]? = some x →
      x.isMounted = true → x.region? = some n → g.listeners = [v]) ∧
    ((∀ (v : Nat) (x : View), (browseTree s₀ r packing q steps).ui.views[v]? = some x →
      x.isMounted = true → x.region? ≠ some n) → g.listeners = []) ∧
    (∀ (v : Nat) (x : View) (i : Nat) (page : Renderable),
      (browseTree s₀ r packing q steps).ui.views[v]? = some x → x.isMounted = true →
      x.pages[i]? = some page → i ≠ x.index → n ∈ cardRegions [page] → g.listeners = []) ∧
    (.destroy s₀.ui.views.length ∈ steps → g.listeners = []) := by
  have hstart := h₀.planted hr hapart packing hq
  let first := runDisplay s₀ [.make r packing, .mount s₀.ui.views.length q]
  have hrun : browseTree s₀ r packing q steps = runDisplay first steps := rfl
  have hplanted : Planted s₀.ui.kit.widgets.length s₀.ui.views.length r
      (browseTree s₀ r packing q steps) := by
    rw [hrun]
    exact hstart.run hsteps
  refine ⟨fun v x hx hsome hn => ?_, fun hnone => ?_, fun v x i page hx hsome hpage hi hn => ?_,
    fun hdestroy => ?_⟩
  · obtain ⟨shown, hshown, hregion⟩ := Option.bind_eq_some_iff.1 hn
    exact hplanted.listeners_eq hg ⟨x, hx, hsome, hshown⟩ hregion
  · refine List.eq_nil_iff_forall_not_mem.2 fun v hv => ?_
    obtain ⟨shown, ⟨x, hx, hsome, hshown⟩, hregion⟩ := (hplanted.display.mem_listeners_iff hg).1 hv
    refine hnone v x hx hsome ?_
    rw [View.region?, hshown, Option.bind_some, hregion]
  · exact hplanted.listeners_hidden hg hx hsome hpage hi hn
  · obtain ⟨before, after, rfl⟩ := List.append_of_mem hdestroy
    rw [runDisplay_append] at hrun
    have hbefore := hstart.run fun step hmem => hsteps step (List.mem_append_left _ hmem)
    have hafter : OnDisplay s₀.ui.kit.widgets.length (fun _ => True) (fun _ => False)
        (browseTree s₀ r packing q (before ++ .destroy s₀.ui.views.length :: after)) := by
      rw [hrun]
      refine hbefore.destroyed.run_unmounted (c := s₀.ui.views.length) fun step hmem => ?_
      exact hsteps step (List.mem_append_right _ (List.mem_cons_of_mem _ hmem))
    refine List.eq_nil_iff_forall_not_mem.2 fun v hv => ?_
    obtain ⟨shown, ⟨x, hx, hsome, -⟩, -⟩ := (hafter.mem_listeners_iff hg).1 hv
    rw [hafter.not_mounted hx] at hsome
    cases hsome

/-- Two images are waited for. -/
def awaiting : Session Ui := { vacant with regions := [{ url := "mars" }, { url := "venus" }] }

/-- A carousel in a row. -/
def orbits : Renderable :=
  .hscroll "row" "" [⟨260, .carousel "planets" "" [.card "mars" "Mars" "" 0, .card "venus" "Venus" "" 1]
    300⟩] 15

/-- The image of the first page comes when the second one is shown. -/
def leaving : List DisplayStep := [.turn 2 true, .resolve 0 (.text "picture")]

theorem idle_awaiting : Idle awaiting where
  grown := idle_vacant.grown
  stands := idle_vacant.stands
  screen := idle_vacant.screen
  views := idle_vacant.views
  sort := idle_vacant.sort
  within := by
    intro x hx r hr
    obtain rfl := List.mem_singleton.1 hx
    cases hr
  silent := by decide +kernel

theorem listeners_match_cards_leaving :
    Idle awaiting ∧ (∀ n ∈ cardRegions [orbits], n < awaiting.regions.length) ∧
      (cardRegions [orbits]).Nodup ∧ awaiting.ui.kit.isAlive window = true ∧
      (∀ step ∈ leaving, step.Browses awaiting.ui.views.length) ∧
      ∃ mars venus,
        (browseTree awaiting orbits [] window leaving).regions = [mars, venus] ∧
        mars.listeners = [] ∧ venus.listeners = [4] := by
  have hr : ∀ n ∈ cardRegions [orbits], n < awaiting.regions.length := by decide +kernel
  have hapart : (cardRegions [orbits]).Nodup := by decide +kernel
  have hq : awaiting.ui.kit.isAlive window = true := by decide +kernel
  have hsteps : ∀ step ∈ leaving, step.Browses awaiting.ui.views.length := by
    simp [leaving, DisplayStep.Browses]
  have hview : ((browseTree awaiting orbits [] window leaving).ui.views[4]?).any
      fun x => x.isMounted && decide (x.region? = some 1) := by decide +kernel
  have hgone : ∀ x ∈ (browseTree awaiting orbits [] window leaving).ui.views,
      x.isMounted = true → x.region? ≠ some 0 := by decide +kernel
  have hlength : (browseTree awaiting orbits [] window leaving).regions.length = 2 := by
    decide +kernel
  obtain ⟨mars, venus, hregions⟩ := List.length_eq_two.1 hlength
  have hmars : (browseTree awaiting orbits [] window leaving).regions[0]? = some mars := by
    rw [hregions]
    rfl
  have hvenus : (browseTree awaiting orbits [] window leaving).regions[1]? = some venus := by
    rw [hregions]
    rfl
  obtain ⟨hheard, -⟩ := listeners_match_cards idle_awaiting hr hapart [] hq hsteps hvenus
  obtain ⟨-, hnone, -⟩ := listeners_match_cards idle_awaiting hr hapart [] hq hsteps hmars
  obtain ⟨x, hx, hshows⟩ := (Option.any_eq_true _ _).1 hview
  simp only [Bool.and_eq_true, decide_eq_true_eq] at hshows
  refine ⟨idle_awaiting, hr, hapart, hq, hsteps, mars, venus, hregions, ?_, ?_⟩
  · exact hnone fun v x hx => hgone x (List.mem_of_getElem? hx)
  · exact hheard 4 x hx hshows.1 hshows.2

end Session
end RemoteScreen
