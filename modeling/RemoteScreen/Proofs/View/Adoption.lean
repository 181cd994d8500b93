import RemoteScreen.Proofs.View.Teardown

/-! Taking views in. A view that takes in a new one goes on owning what it owned. If it is mounted, the
new view is mounted in it at once and laid out; otherwise it waits. -/
namespace RemoteScreen

theorem Renderable.visible_visible (r : Renderable) : r.visible.visible = r.visible := by
  cases r <;> rfl

theorem ViewKind.isGroup_ofRenderable (r : Renderable) : (ofRenderable r).isGroup = false := by
  cases r <;> rfl

namespace Session

open Renderable (cardRegions)

variable {s t u : Session Ui} {path path' : Nat → List Nat} {q v w c e : Nat} {x y : View}
  {r : Renderable}

theorem Forest.not_group (h : Forest s.ui.views) (hx : s.ui.views[v]? = some x)
    (hr : x.renderable = some r) : x.kind.isGroup = false := by
  rcases h.sort x (List.mem_of_getElem? hx) with ⟨-, hnone⟩ | ⟨r', -, hkind⟩
  · rw [hnone] at hr
    cases hr
  · rw [hkind]
    exact ViewKind.isGroup_ofRenderable r'

/-- Widgets may have been added, and those that were there have the paths that they had. -/
structure Outgrows (path path' : Nat → List Nat) (s t : Session Ui) : Prop where
  widgets : s.ui.kit.widgets.length ≤ t.ui.kit.widgets.length
  paths : ∀ c < s.ui.kit.widgets.length, path' c = path c

theorem Outgrows.of_length (path : Nat → List Nat)
    (h : t.ui.kit.widgets.length = s.ui.kit.widgets.length) : Outgrows path path s t :=
  ⟨Nat.le_of_eq h.symm, fun _ _ => rfl⟩

theorem Outgrows.trans {path'' : Nat → List Nat} (h : Outgrows path path' s t)
    (k : Outgrows path' path'' t u) : Outgrows path path'' s u where
  widgets := Nat.le_trans h.widgets k.widgets
  paths := fun c hc => (k.paths c (Nat.lt_of_lt_of_le hc h.widgets)).trans (h.paths c hc)

theorem Mounts.outgrows (h : Mounts path path' v s t) : Outgrows path path' s t :=
  ⟨h.widgets, h.paths⟩

theorem complete_congr (hviews : t.ui.views = s.ui.views) : Complete t x ↔ Complete s x := by
  have hpresents : Presents t = Presents s := by
    unfold Presents
    rw [hviews]
  unfold Complete
  rw [hpresents]

theorem Fitted.congr {Held : Nat → Nat → Prop} (h : Fitted Held s e y)
    (hviews : t.ui.views = s.ui.views) : Fitted Held t e y :=
  ⟨h.furnished, (complete_congr hviews).2 h.complete, h.index, h.root⟩

/-! Mounting between two steps -/

/-- Widget `q` is a place for view `v`: it is in no view, or in a mounted view that owns `v`. -/
def Place (path : Nat → List Nat) (s : Session Ui) (v q : Nat) : Prop :=
  path q = [] ∨ ∃ (u : Nat) (y : View) (r : Nat), s.ui.views[u]? = some y ∧ y.root = some r ∧
    v ∈ y.components ∧ path r = path q

/-- A mounted view is a place for what it owns. -/
theorem Housed.place (h : Housed path s) (hx : s.ui.views[v]? = some x) (hroot : x.root = some w)
    (hq : x.Owns q) (hc : c ∈ x.components) : Place path s c q := by
  obtain ⟨vs, hown⟩ := h.own v x hx
  exact .inr ⟨v, x, w, hx, hroot, hc, by rw [(hown w (.inl hroot)).2, (hown q hq).2]⟩

/-- A view that has been mounted in its place is held there. -/
theorem Settled.mounts (h : Settled path s) (k : Mounts path path' v s t) (hplace : Place path s v q)
    (hpath : ∀ y w, t.ui.views[v]? = some y → y.root = some w → path' w = v :: path q) :
    Settled path' t where
  toHoused := k.housed
  linked := by
    intro e z w hz hw
    by_cases hnew : s.ui.views.length ≤ e
    · obtain ⟨w', hw', hangs⟩ := (k.new e z hnew hz).root
      obtain rfl := Option.some.inj (hw.symm.trans hw')
      exact .inr hangs
    · by_cases he : e = v
      · subst he
        have heq := hpath z w hz hw
        rcases hplace with htop | ⟨u, y, r, hy, hr, hmem, hsame⟩
        · exact .inl (by rw [heq, htop])
        · refine .inr ⟨u, y, r, k.toSpares.view hy (by rw [hr]; rfl), hr, hmem, ?_⟩
          rw [heq, k.paths r (h.toNested.lt_of_owns hy (.inl hr)), hsame]
      · have hold : s.ui.views[e]? = some z := (k.others e (Nat.not_le.1 hnew) he).symm.trans hz
        rcases h.linked e z w hold hw with htop | hangs
        · exact .inl ((k.paths w (h.toNested.lt_of_owns hold (.inl hw))).trans htop)
        · exact .inr (k.hangs h.toNested hold hw hangs)
  bare := by
    intro e z hz hnone
    by_cases hnew : s.ui.views.length ≤ e
    · obtain ⟨w, hw, -⟩ := (k.new e z hnew hz).root
      rw [hnone] at hw
      cases hw
    · by_cases he : e = v
      · subst he
        obtain ⟨x, y, w, -, hy, -, hw, -⟩ := k.self
        obtain rfl := Option.some.inj (hy.symm.trans hz)
        rw [hnone] at hw
        cases hw
      · exact h.bare e z ((k.others e (Nat.not_le.1 hnew) he).symm.trans hz) hnone

/-- A view that shows a renderable is mounted as the renderable wants it. -/
theorem exec_mountDeep (h : Forest s.ui.views) (hx : s.ui.views[v]? = some x)
    (hr : x.renderable = some r) (fuel q : Nat) :
    exec (mountDeep (fuel + 1) v q) s = exec (mountShown r v q) s := by
  have hgroup := h.not_group hx hr
  simp [mountDeep, hx, hgroup, shownBy, hr]

theorem mountDeep_leads (h : Settled path s) (hx : s.ui.views[v]? = some x) (hroot : x.root = none)
    (hr : x.renderable = some r.visible) (hq : s.ui.kit.isAlive q = true)
    (hplace : Place path s v q) (fuel : Nat) :
    Leads (mountDeep (fuel + 1) v q) s fun _ t =>
      ∃ path', Settled path' t ∧ Mounts path path' v s t := by
  have hmountable : Mountable path s r.visible v q x :=
    ⟨h.toHoused, hx, hroot, h.bare v x hx hroot, hr.trans (by rw [r.visible_visible]), hq⟩
  refine Leads.of_exec ?_ (exec_mountDeep h.toForest hx hr fuel q)
  refine (mountsWell r.visible path s v q x hmountable).mono fun _ t ⟨path', hmounts, hpath⟩ => ?_
  exact ⟨path', h.mounts hmounts hplace hpath, hmounts⟩

/-! Layout -/

theorem exec_whenIdle (hw : s.ui.kit.isAlive w = true) (command : Command) :
    exec (whenIdle w command) s = (.ok ⟨⟩,
      s.withKit { s.ui.kit with errands := s.ui.kit.errands ++ [⟨w, command⟩] }) := by
  simp [whenIdle, onKit, Toolkit.whenIdle?, hw, withKit]

theorem whenIdle_still (hw : s.ui.kit.isAlive w = true) (command : Command) :
    Leads (whenIdle w command) s fun _ t => Still s t :=
  ⟨⟨⟩, _, exec_whenIdle hw command, .of_widgets rfl rfl rfl rfl⟩

/-- Views are laid out as long as the widgets of those that are mounted stand. -/
theorem layoutDeep_still (fuel : Nat) : ∀ (v : Nat) (s : Session Ui),
    (∀ (e : Nat) (x : View) (w : Nat), Under s v e → s.ui.views[e]? = some x → x.root = some w →
      s.ui.kit.isAlive w = true) → Leads (layoutDeep fuel v) s fun _ t => Still s t := by
  induction fuel with
  | zero => exact fun v s _ => leads_pure (.refl s)
  | succ fuel ih =>
    intro v s h
    refine leads_bind_eq (exec_view? v s) ?_
    split
    next x hx =>
      split
      next w hw =>
        have halive := h v x w .self hx hw
        refine leads_bind (pack_still halive x.packing) fun _ s₁ h₁ => ?_
        refine leads_bind (leads_forM (fun _ t => Still s t) h₁ fun before c after t hcs ht => ?_)
          fun _ s₂ h₂ => ?_
        · refine (ih c t fun e y w' hunder hy hw' => ?_).mono fun _ u hu => ht.trans hu
          have hmem : c ∈ x.components := by simp [hcs]
          have hunder' : Under s c e := (under_congr fun e => by rw [ht.views]).1 hunder
          rw [ht.views] at hy
          exact (ht.isAlive w').trans (h e y w' ((under_iff hx).2 (.inr ⟨c, hmem, hunder'⟩)) hy hw')
        · split
          · exact (whenIdle_still ((h₂.isAlive w).trans halive) _).mono fun _ t ht => h₂.trans ht
          · exact leads_pure h₂
      · exact leads_pure (.refl s)
    · exact leads_pure (.refl s)

theorem layout_still (h : Housed path s) (v : Nat) : Leads (layout v) s fun _ t => Still s t := by
  have hdepth : exec depth s = (.ok (s.ui.views.length + 1), s) := rfl
  refine leads_bind_eq hdepth (layoutDeep_still _ v s fun e x w _ hx hw => ?_)
  obtain ⟨vs, hown⟩ := h.own e x hx
  exact (hown w (.inl hw)).1

theorem Settled.still (h : Settled path s) (k : Still s t) : Settled path t where
  toHoused := h.toHoused.still k
  linked := by
    intro e x w hx hw
    rw [k.views] at hx
    refine (h.linked e x w hx hw).imp_right fun ⟨u, y, r, hy, hrest⟩ => ⟨u, y, r, ?_, hrest⟩
    rw [k.views]
    exact hy
  bare := by
    rw [k.views]
    exact h.bare

/-! A new view -/

theorem Settled.withNew (h : Settled path s) (hy : Made r y)
    (hr : ∀ n ∈ cardRegions [r], n < s.regions.length) (named : Nat) :
    Settled path (s.withNew y named) where
  toHoused := h.toHoused.withNew hy hr named
  linked := by
    intro e x w hx hw
    rcases withNew_cases hx with hold | ⟨-, rfl⟩
    · refine (h.linked e x w hold hw).imp_right fun ⟨u, z, r, hz, hrest⟩ => ⟨u, z, r, ?_, hrest⟩
      exact (withNew_old (List.getElem?_eq_some_iff.1 hz).1).trans hz
    · rw [hy.root] at hw
      cases hw
  bare := by
    intro e x hx hnone
    rcases withNew_cases hx with hold | ⟨-, rfl⟩
    · exact h.bare e x hold hnone
    · exact hy.parts

/-- View `e` is owned by a mounted view. -/
def Held (s : Session Ui) (e : Nat) : Prop :=
  ∃ (u : Nat) (y : View), s.ui.views[u]? = some y ∧ y.root.isSome = true ∧ e ∈ y.components

theorem Hangs.held (h : Hangs path s e w) : Held s e := by
  obtain ⟨u, y, r, hy, hr, hmem, -⟩ := h
  exact ⟨u, y, hy, by rw [hr]; rfl, hmem⟩

/-- View `v` has taken in a new view of a renderable. If view `v` is mounted, so is the new view, with
all that can be seen of it; otherwise the new view is as it was made. -/
structure Takes (v : Nat) (r : Renderable) (s t : Session Ui) : Prop where
  destroyed : t.ui.kit.destroyed = s.ui.kit.destroyed
  owner : ∀ x, s.ui.views[v]? = some x →
    t.ui.views[v]? = some { x with components := x.components ++ [s.ui.views.length] }
  others : ∀ e < s.ui.views.length, e ≠ v → t.ui.views[e]? = s.ui.views[e]?
  taken : ∃ y, t.ui.views[s.ui.views.length]? = some y ∧ y.renderable = some r.visible
  waits : ∀ x, s.ui.views[v]? = some x → x.root = none →
    t.ui.views.length = s.ui.views.length + 1 ∧
      ∀ y, t.ui.views[s.ui.views.length]? = some y → Made r y
  mounted : ∀ x, s.ui.views[v]? = some x → x.root.isSome = true →
    ∀ (e : Nat) (y : View), s.ui.views.length ≤ e → t.ui.views[e]? = some y →
      Fitted (fun e _ => Held t e) t e y

/-- A mounted view has a widget of its own for what it owns. -/
theorem exists_childParent? (hroot : x.root = some w) :
    ∃ q, x.Owns q ∧ x.childParent? = some q := by
  unfold View.childParent?
  split
  next host previous label next hparts =>
    exact ⟨host, .inr (by simp [hparts, Parts.widgets]), rfl⟩
  · exact ⟨w, .inl hroot, hroot⟩

theorem exec_addComponent (hx : s.ui.views[v]? = some x) (c : Nat) : exec (addComponent v c) s =
    exec (if x.isMounted then (do
      mount c (← childParent v)
      layout c) else pure ⟨⟩) (s.withView v (adopting c)) := by
  have hadopt : exec (updateView v fun x => { x with components := x.components ++ [c] }) s =
      (.ok ⟨⟩, s.withView v (adopting c)) := rfl
  have hx₁ : (s.withView v (adopting c)).ui.views[v]? = some (adopting c x) := withView_self hx _
  have hmounted : (adopting c x).isMounted = x.isMounted := rfl
  rw [addComponent, exec_bind, hadopt]
  dsimp only
  rw [exec_bind, exec_view?, hx₁]
  dsimp only
  rw [Option.map_some, hmounted]
  cases x.isMounted <;> rfl

/-- In a view that is not mounted a new view waits. -/
theorem exec_addComponent_of_none (hx : s.ui.views[v]? = some x) (hroot : x.root = none) (c : Nat) :
    exec (addComponent v c) s = (.ok ⟨⟩, s.withView v (adopting c)) := by
  rw [exec_addComponent hx, View.isMounted, hroot]
  rfl

/-- In a mounted view a new view is mounted at once. -/
theorem exec_addComponent_of_some (hx : s.ui.views[v]? = some x) (hroot : x.root = some w)
    (hq : x.childParent? = some q) (c : Nat) : exec (addComponent v c) s =
      exec (do mount c q; layout c) (s.withView v (adopting c)) := by
  have hx₁ : (s.withView v (adopting c)).ui.views[v]? = some (adopting c x) := withView_self hx _
  have hq₁ : (adopting c x).childParent? = some q := hq
  have hparent : exec (childParent v) (s.withView v (adopting c)) =
      (.ok q, s.withView v (adopting c)) := by
    simp [childParent, hx₁, hq₁]
  rw [exec_addComponent hx, View.isMounted, hroot, Option.isSome_some, if_pos rfl, exec_bind, hparent]

/-- View `v` comes to own the view that was made last. -/
theorem Settled.adopts (h : Settled path s) (hx : s.ui.views[v]? = some x) (hy : Made r y)
    (hr : ∀ n ∈ cardRegions [r], n < s.regions.length) (named : Nat) :
    Settled path ((s.withNew y named).withView v (adopting s.ui.views.length)) := by
  have hv : v < s.ui.views.length := (List.getElem?_eq_some_iff.1 hx).1
  have h₁ := h.withNew hy hr named
  have hx₁ : (s.withNew y named).ui.views[v]? = some x := (withNew_old hv).trans hx
  have hhoused : Housed path ((s.withNew y named).withView v (adopting s.ui.views.length)) :=
    h.toHoused.adopts hx hy hr named (List.Subset.refl _) rfl
  exact h₁.changed hhoused hx₁ (f := adopting s.ui.views.length) rfl rfl id fun c hc =>
    .inl (List.mem_append_left _ hc)

theorem addComponent_leads (h : Settled path s) (hx : s.ui.views[v]? = some x) (hy : Made r y)
    (hr : ∀ n ∈ cardRegions [r], n < s.regions.length) (named : Nat) :
    Leads (addComponent v s.ui.views.length) (s.withNew y named) fun _ t =>
      ∃ path', Settled path' t ∧ Outgrows path path' s t ∧ Takes v r s t := by
  let c := s.ui.views.length
  let s₁ : Session Ui := (s.withNew y named).withView v (adopting c)
  have h₁ : Settled path s₁ := h.adopts hx hy hr named
  have hv : v < c := (List.getElem?_eq_some_iff.1 hx).1
  have hx₀ : (s.withNew y named).ui.views[v]? = some x := (withNew_old hv).trans hx
  have hx₁ : s₁.ui.views[v]? = some (adopting c x) := withView_self hx₀ _
  have hc₁ : s₁.ui.views[c]? = some y :=
    (withView_ne _ (Nat.ne_of_gt hv)).trans (withNew_self s y named)
  have hothers₁ (e : Nat) (he : e < c) (hne : e ≠ v) : s₁.ui.views[e]? = s.ui.views[e]? :=
    (withView_ne _ hne).trans (withNew_old he)
  have hlength₁ : s₁.ui.views.length = c + 1 := by
    rw [length_withView, length_withNew]
  cases hroot : x.root with
  | none =>
    refine ⟨⟨⟩, s₁, exec_addComponent_of_none hx₀ hroot c, path, h₁, .of_length path rfl, rfl,
      fun x' hx' => ?_, hothers₁, ⟨y, hc₁, hy.renderable⟩,
      fun _ _ _ => ⟨hlength₁, fun y' hy' => ?_⟩, fun x' hx' hsome => ?_⟩
    · obtain rfl := Option.some.inj (hx.symm.trans hx')
      exact hx₁
    · obtain rfl := Option.some.inj (hc₁.symm.trans hy')
      exact hy
    · obtain rfl := Option.some.inj (hx.symm.trans hx')
      rw [hroot] at hsome
      cases hsome
  | some w =>
    obtain ⟨q, hq, hchild⟩ := exists_childParent? hroot
    obtain ⟨vs, hown⟩ := h₁.own v _ hx₁
    have hmem : c ∈ (adopting c x).components := List.mem_append_right _ (List.mem_singleton_self c)
    have hplace : Place path s₁ c q := h₁.toHoused.place hx₁ hroot hq hmem
    refine Leads.of_exec ?_ (exec_addComponent_of_some hx₀ hroot hchild c)
    have hdepth : exec depth s₁ = (.ok (s₁.ui.views.length + 1), s₁) := rfl
    refine leads_bind (leads_bind_eq hdepth (mountDeep_leads h₁ hc₁ hy.root hy.renderable
      (hown q hq).1 hplace _)) fun _ s₂ ⟨path', h₂, hmounts⟩ => ?_
    refine (layout_still h₂.toHoused c).mono fun _ t hstill => ⟨path', h₂.still hstill, ?_, ?_⟩
    · have hgrown : Outgrows path path' s s₂ := ⟨hmounts.widgets, hmounts.paths⟩
      exact hgrown.trans (.of_length path' hstill.length)
    obtain ⟨z, w', hz, hw', hshown, hfitted⟩ := hmounts.made hc₁ hy
    have hxt : t.ui.views[v]? = some (adopting c x) := by
      rw [hstill.views]
      exact hmounts.toSpares.view hx₁ (by rw [show (adopting c x).root = some w from hroot]; rfl)
    have hzt : t.ui.views[c]? = some z := hstill.views ▸ hz
    refine ⟨hstill.destroyed.trans hmounts.destroyed, fun x' hx' => ?_, fun e he hne => ?_,
      ⟨z, hzt, hshown⟩, fun x' hx' hnone => ?_, fun _ _ _ e y' he hy' => ?_⟩
    · obtain rfl := Option.some.inj (hx.symm.trans hx')
      exact hxt
    · rw [hstill.views, hmounts.others e (by omega) (Nat.ne_of_lt he), hothers₁ e he hne]
    · obtain rfl := Option.some.inj (hx.symm.trans hx')
      rw [hroot] at hnone
      cases hnone
    · rcases Nat.eq_or_lt_of_le he with rfl | he
      · obtain rfl := Option.some.inj (hzt.symm.trans hy')
        have hsome : (adopting c x).root.isSome = true := by
          rw [show (adopting c x).root = some w from hroot]
          rfl
        exact (hfitted _ ⟨v, _, hxt, hsome, hmem⟩).congr hstill.views
      · rw [hstill.views] at hy'
        refine ((hmounts.new e y' (by omega) hy').mono fun _ hangs => ?_).congr hstill.views
        obtain ⟨o, z', hz', hsome, hmem⟩ := hangs.held
        exact ⟨o, z', hstill.views ▸ hz', hsome, hmem⟩

end Session
end RemoteScreen
