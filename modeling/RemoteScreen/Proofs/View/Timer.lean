import RemoteScreen.Proofs.Image.Retrieval
import RemoteScreen.Proofs.View.Display

/-! The timer of a screen. Only mounting and destroying the screen and the timer itself set or put
off alarms that look for images: whatever else is done to views, such an alarm waits as long as the
widget stands that it was set through. -/
namespace RemoteScreen
namespace Session

variable {s t u : Session Ui} {v w c q n fuel : Nat} {x y : View}

/-- A command that looks for images. -/
def polls : Command → Bool
  | .poll => true
  | _ => false

/-- The alarms that look for images. -/
def polling (k : Toolkit Command) : List (Alarm Command) := k.alarms.filter fun a => polls a.command

theorem polling_cancel (k : Toolkit Command) (n : Nat) :
    polling (k.cancel n) = (polling k).filter (·.number != n) := by
  simp only [polling, Toolkit.alarms_cancel, List.filter_filter, Bool.and_comm]

theorem polling_destroy (k : Toolkit Command) (w : Nat) :
    polling (k.destroy w) = (polling k).filter fun a => !(k.subtree w).contains a.owner := by
  simp only [polling, Toolkit.destroy, List.filter_filter, Bool.and_comm]

/-! What the timer does not mind -/

/-- The timer goes on: no alarm that looks for images has been set, and none has gone but with the
widget it was set through. -/
structure TimerKept (s t : Session Ui) : Prop where
  loader : t.loader.isSome = s.loader.isSome
  view : t.ui.screen.view = s.ui.screen.view
  pollMs : t.ui.screen.pollMs = s.ui.screen.pollMs
  pollAlarm : t.ui.screen.pollAlarm = s.ui.screen.pollAlarm
  now : t.ui.kit.now = s.ui.kit.now
  destroyed : s.ui.kit.destroyed ⊆ t.ui.kit.destroyed
  thinned : (polling t.ui.kit).Sublist (polling s.ui.kit)
  spared : ∀ a ∈ polling s.ui.kit, a.owner ∉ t.ui.kit.destroyed → a ∈ polling t.ui.kit
  kinds : ∀ (e : Nat) (x : View), s.ui.views[e]? = some x →
    ∃ y, t.ui.views[e]? = some y ∧ y.kind = x.kind

instance : IsPreorder (Session Ui) TimerKept where
  refl _ := ⟨rfl, rfl, rfl, rfl, rfl, List.Subset.refl _, .refl _, fun _ ha _ => ha,
    fun _ x hx => ⟨x, hx, rfl⟩⟩
  trans _ _ _ h k := by
    refine ⟨k.loader.trans h.loader, k.view.trans h.view, k.pollMs.trans h.pollMs,
      k.pollAlarm.trans h.pollAlarm, k.now.trans h.now, List.Subset.trans h.destroyed k.destroyed,
      k.thinned.trans h.thinned, fun a ha howner => ?_, fun e x hx => ?_⟩
    · exact k.spared a (h.spared a ha fun hgone => howner (k.destroyed hgone)) howner
    · obtain ⟨y, hy, hkind⟩ := h.kinds e x hx
      obtain ⟨z, hz, hkind'⟩ := k.kinds e y hy
      exact ⟨z, hz, hkind'.trans hkind⟩

theorem TimerKept.trans (h : TimerKept s t) (k : TimerKept t u) : TimerKept s u :=
  IsTrans.trans _ _ _ h k

/-- The screen keeps its timer, and the toolkit what has been set and what has been destroyed. -/
theorem TimerKept.of_alarms (hloader : t.loader.isSome = s.loader.isSome)
    (hview : t.ui.screen.view = s.ui.screen.view) (hpollMs : t.ui.screen.pollMs = s.ui.screen.pollMs)
    (hpollAlarm : t.ui.screen.pollAlarm = s.ui.screen.pollAlarm)
    (hnow : t.ui.kit.now = s.ui.kit.now) (hdestroyed : t.ui.kit.destroyed = s.ui.kit.destroyed)
    (halarms : t.ui.kit.alarms = s.ui.kit.alarms)
    (hkinds : ∀ (e : Nat) (x : View), s.ui.views[e]? = some x →
      ∃ y, t.ui.views[e]? = some y ∧ y.kind = x.kind) : TimerKept s t := by
  have hpolling : polling t.ui.kit = polling s.ui.kit := congrArg (List.filter _) halarms
  exact ⟨hloader, hview, hpollMs, hpollAlarm, hnow, fun w hw => hdestroyed ▸ hw,
    hpolling ▸ .refl _, fun a ha _ => hpolling ▸ ha, hkinds⟩

/-- A change of widgets. -/
theorem TimerKept.of_kit (s : Session Ui) {k : Toolkit Command} (hnow : k.now = s.ui.kit.now)
    (hdestroyed : k.destroyed = s.ui.kit.destroyed) (halarms : k.alarms = s.ui.kit.alarms) :
    TimerKept s (s.withKit k) :=
  .of_alarms rfl rfl rfl rfl hnow hdestroyed halarms fun _ x hx => ⟨x, hx, rfl⟩

/-- A change of what is not on screen. -/
theorem TimerKept.of_ui (hui : t.ui = s.ui) (hloader : t.loader.isSome = s.loader.isSome) :
    TimerKept s t :=
  .of_alarms hloader (by rw [hui]) (by rw [hui]) (by rw [hui]) (by rw [hui]) (by rw [hui])
    (by rw [hui]) fun _ x hx => ⟨x, hui ▸ hx, rfl⟩

instance : WidgetChanges TimerKept where
  Own _ := True
  log _ _ _ _ := .of_ui rfl rfl
  addRegion _ _ := .of_ui rfl rfl
  subscribe _ _ _ := .of_ui rfl rfl
  unsubscribe _ _ _ := .of_ui rfl rfl
  addWidget s _ := .of_kit s rfl rfl rfl
  own_create := gives_created
  updateWidget _ _ s := .of_kit s rfl rfl rfl
  destroyWidget w _ s := by
    refine ⟨rfl, rfl, rfl, rfl, rfl, List.subset_append_left _ _, ?_, fun a ha howner => ?_,
      fun _ x hx => ⟨x, hx, rfl⟩⟩
    · exact polling_destroy s.ui.kit w ▸ List.filter_sublist
    · refine polling_destroy s.ui.kit w ▸ List.mem_filter.2 ⟨ha, ?_⟩
      have hout : a.owner ∉ s.ui.kit.subtree w := fun hmem =>
        howner (List.mem_append_right _ hmem)
      simpa using hout
  addErrand s _ _ := .of_kit s rfl rfl rfl
  addView _ _ _ s := .of_alarms rfl rfl rfl rfl rfl rfl rfl fun _ x hx =>
    ⟨x, (List.getElem?_append_left (List.getElem?_eq_some_iff.1 hx).1).trans hx, rfl⟩
  updateView v f _ hf s := by
    refine .of_alarms rfl rfl rfl rfl rfl rfl rfl fun e x hx => ?_
    by_cases hev : e = v
    · subst hev
      exact ⟨f x, withView_self hx f, (hf x).2.2⟩
    · exact ⟨x, (withView_ne f hev).trans hx, rfl⟩
  own_root _ _ _ _ _ h := h fun _ _ => trivial
  named _ _ := .of_alarms rfl rfl rfl rfl rfl rfl rfl fun _ x hx => ⟨x, hx, rfl⟩

/-- A single alarm waits as long as its widget stands. -/
theorem TimerKept.single (h : TimerKept s t) {a : Alarm Command} (ha : polling s.ui.kit = [a])
    (howner : t.ui.kit.isAlive a.owner = true) : polling t.ui.kit = [a] := by
  have hstands : a.owner ∉ t.ui.kit.destroyed := by
    simp only [Toolkit.isAlive, Bool.and_eq_true, Bool.not_eq_true', List.contains_eq_mem,
      decide_eq_false_iff_not] at howner
    exact howner.2
  have hmem : a ∈ polling t.ui.kit := h.spared a (ha ▸ List.mem_singleton_self a) hstands
  have hthin := ha ▸ h.thinned
  rcases List.sublist_singleton.1 hthin with hnone | hone
  · rw [hnone] at hmem
    exact absurd hmem List.not_mem_nil
  · exact hone

/-- Where nothing has been set, nothing is. -/
theorem TimerKept.nothing (h : TimerKept s t) (hs : polling s.ui.kit = []) :
    polling t.ui.kit = [] := List.sublist_nil.1 (hs ▸ h.thinned)

/-! Views that are on a screen -/

/-- View `c` is there, and is not one that only holds others. -/
def NoGroup (s : Session Ui) (c : Nat) : Prop :=
  ∃ x, s.ui.views[c]? = some x ∧ x.kind.isGroup = false

theorem NoGroup.kept (h : NoGroup s c) (k : TimerKept s t) : NoGroup t c := by
  obtain ⟨x, hx, hgroup⟩ := h
  obtain ⟨y, hy, hkind⟩ := k.kinds c x hx
  exact ⟨y, hy, hkind ▸ hgroup⟩

/-- No view owns one that only holds others. -/
def Flat (s : Session Ui) : Prop :=
  ∀ (v : Nat) (x : View), s.ui.views[v]? = some x → ∀ c ∈ x.components, NoGroup s c

theorem Forest.flat (h : Forest s.ui.views) : Flat s := by
  intro v x hx c hc
  obtain ⟨y, r, hy, hr⟩ := h.shown v x hx c hc
  exact ⟨y, hy, h.not_group hy hr⟩

/-- Views may have been destroyed, and none has come to own another one. -/
structure Pruned (s t : Session Ui) : Prop extends TimerKept s t where
  owned : ∀ (e : Nat) (y : View), t.ui.views[e]? = some y →
    ∃ x, s.ui.views[e]? = some x ∧ y.components ⊆ x.components

instance : IsPreorder (Session Ui) Pruned where
  refl s := ⟨Std.Refl.refl s, fun _ y hy => ⟨y, hy, List.Subset.refl _⟩⟩
  trans s t u h k := by
    refine ⟨h.toTimerKept.trans k.toTimerKept, fun e z hz => ?_⟩
    obtain ⟨y, hy, hzy⟩ := k.owned e z hz
    obtain ⟨x, hx, hyx⟩ := h.owned e y hy
    exact ⟨x, hx, List.Subset.trans hzy hyx⟩

theorem TimerKept.pruned (h : TimerKept s t) (hviews : t.ui.views = s.ui.views) : Pruned s t :=
  ⟨h, fun _ y hy => ⟨y, hviews ▸ hy, List.Subset.refl _⟩⟩

theorem Flat.pruned (h : Flat s) (k : Pruned s t) : Flat t := by
  intro v y hy c hc
  obtain ⟨x, hx, hsub⟩ := k.owned v y hy
  exact (h v x hx c (hsub hc)).kept k.toTimerKept

theorem pruned_updateView {f : View → View} (hf : ∀ x, (f x).components ⊆ x.components)
    (h : Keeps TimerKept (updateView v f)) : Keeps Pruned (updateView v f) := by
  refine fun s => ⟨h s, fun e y hy => ?_⟩
  change (s.withView v f).ui.views[e]? = some y at hy
  rw [getElem?_withView] at hy
  split at hy
  · obtain ⟨x, hx, rfl⟩ := Option.map_eq_some_iff.1 hy
    exact ⟨x, hx, hf x⟩
  · exact ⟨y, hy, List.Subset.refl _⟩

/-- A view lets go of what it owns. -/
theorem pruned_release (v : Nat) : Keeps Pruned (updateView v fun x => { x with components := [] }) :=
  pruned_updateView (fun _ => List.nil_subset _) (keeps_updateView _ _ fun _ => ⟨rfl, rfl, rfl, rfl⟩)

theorem pruned_dropParts (v : Nat) : Keeps Pruned (updateView v fun x => { x with parts := .none }) :=
  pruned_updateView (fun _ => List.Subset.refl _) (keeps_updateView _ _ fun _ => ⟨rfl, rfl, rfl, rfl⟩)

/-! Destroying views -/

/-- A view that is not a screen is retired. -/
theorem retire_pruned (hx : x.kind.isGroup = false) (v : Nat) (s : Session Ui) :
    Leads (retire v x) s fun _ t => Pruned s t := by
  have hparts (s : Session Ui) :
      Leads (updateView v fun x => { x with parts := .none }) s fun _ t => Pruned s t :=
    ⟨⟨⟩, _, exec_updateView v _ s, pruned_dropParts v s⟩
  unfold retire
  split
  · split
    next n _ =>
      have hleft : Pruned s (next (unsubscribe n v) s) :=
        (WidgetChanges.unsubscribe n v s : TimerKept s _).pruned rfl
      exact leads_bind_eq (exec_modify _ s) ((hparts _).mono fun _ _ ht => IsTrans.trans _ _ _ hleft ht)
    · exact hparts s
  next hkind =>
    rw [hkind] at hx
    cases hx
  · exact hparts s

/-- Views that hold no others are done away with one after the other. -/
theorem forM_pruned {cs : List Nat} {f : Nat → Act Ui PUnit}
    (hf : ∀ c s, Flat s → NoGroup s c → Pruned s (next (f c) s)) (hs : Flat s)
    (hcs : ∀ c ∈ cs, NoGroup s c) : Pruned s (next (cs.forM f) s) := by
  refine kept_forM (P := fun t => Flat t ∧ ∀ c ∈ cs, NoGroup t c) (fun t u ht k => ?_)
    (fun c hc t ht => hf c t ht.1 (ht.2 c hc)) ⟨hs, hcs⟩
  exact ⟨ht.1.pruned k, fun c hc => (ht.2 c hc).kept k.toTimerKept⟩

/-- After a view has been retired, what it owns is destroyed, and its widget. -/
theorem destroyDeep_retired
    (hfuel : ∀ c s, Flat s → NoGroup s c → Pruned s (next (destroyDeep fuel c) s))
    (hx : s.ui.views[v]? = some x) (hretire : exec (retire v x) s = (.ok ⟨⟩, t)) (ht : Flat t)
    (hcomponents : ∀ c ∈ x.components, NoGroup t c) :
    Pruned t (next (destroyDeep (fuel + 1) v) s) := by
  rw [destroyDeep, next_bind_eq (exec_view? v s), hx]
  dsimp only
  rw [next_bind_eq hretire]
  refine kept_bind (forM_pruned hfuel ht hcomponents) fun _ u _ _ => ?_
  refine keeps_bind (pruned_release v) (fun _ => ?_) u
  split
  next w _ =>
    refine keeps_bind (fun s => ?_) fun _ =>
      pruned_updateView (fun _ => List.Subset.refl _) (keeps_dropRoot v)
    exact (WidgetChanges.destroyWidget w trivial s : TimerKept s _).pruned rfl
  · exact keeps_pure _

theorem destroyDeep_pruned (fuel : Nat) :
    ∀ c s, Flat s → NoGroup s c → Pruned s (next (destroyDeep fuel c) s) := by
  induction fuel with
  | zero => exact fun _ s _ _ => Std.Refl.refl s
  | succ fuel ih =>
    intro c s hs ⟨x, hx, hgroup⟩
    obtain ⟨_, t, hretire, hst⟩ := retire_pruned hgroup c s
    refine IsTrans.trans _ _ _ hst (destroyDeep_retired ih hx hretire (hs.pruned hst) fun d hd => ?_)
    exact (hs c x hx d hd).kept hst.toTimerKept

theorem exec_depth (s : Session Ui) : exec depth s = (.ok (s.ui.views.length + 1), s) := rfl

theorem destroy_pruned (c : Nat) (s : Session Ui) (hs : Flat s) (hc : NoGroup s c) :
    Pruned s (next (destroy c) s) := by
  rw [destroy, next_bind_eq (exec_depth s)]
  exact destroyDeep_pruned _ c s hs hc

theorem clearComponents_pruned (hs : Flat s) (v : Nat) : Pruned s (next (clearComponents v) s) := by
  rw [clearComponents, next_bind_eq (exec_view? v s)]
  split
  next x hx =>
    exact kept_bind (forM_pruned destroy_pruned hs (hs v x hx)) fun _ u _ _ => pruned_release v u
  · exact Std.Refl.refl s

/-! Mounting views -/

theorem mountDeep_kept (hs : NoGroup s c) (fuel q : Nat) :
    TimerKept s (next (mountDeep fuel c q) s) := by
  obtain ⟨x, hx, hgroup⟩ := hs
  cases fuel with
  | zero => exact Std.Refl.refl s
  | succ fuel =>
    rw [mountDeep, next_bind_eq (exec_view? c s), hx]
    dsimp only
    rw [if_neg (Bool.not_eq_true _ ▸ hgroup)]
    exact keeps_bind (keeps_shownBy x) (fun r => keeps_mountShown r c q) s

theorem mount_kept (hs : NoGroup s c) (q : Nat) : TimerKept s (next (mount c q) s) := by
  rw [mount, next_bind_eq (exec_depth s)]
  exact mountDeep_kept hs _ q

theorem addComponent_kept (hs : NoGroup s c) (v : Nat) :
    TimerKept s (next (addComponent v c) s) := by
  have hadopt : Keeps TimerKept (updateView v fun x => { x with components := x.components ++ [c] }) :=
    keeps_updateView v _ fun _ => ⟨rfl, rfl, rfl, rfl⟩
  refine kept_bind (hadopt s) fun _ t _ hst => ?_
  refine kept_bind (keeps_view? v t) fun y t' hview _ => ?_
  obtain ⟨-, rfl⟩ := Prod.mk.inj ((exec_view? v t).symm.trans hview)
  split
  · refine kept_bind (keeps_childParent v t) fun w u _ htu => ?_
    refine kept_bind ?_ fun _ u _ _ => keeps_layout c u
    exact mount_kept ((hs.kept hst).kept htu) w
  · exact Std.Refl.refl t

/-- A view is made for a renderable and taken in. -/
theorem kept_adopt {α : Type} (r : Renderable) (packing : Attributes) (v : Nat) {m : Act Ui α}
    (hm : Keeps TimerKept m) (s : Session Ui) : TimerKept s (next (do
      let child ← viewOf r packing
      addComponent v child
      m) s) := by
  obtain ⟨x, named, hmade, hview⟩ := exec_viewOf r packing s
  refine kept_bind (keeps_viewOf r packing s) fun child t hok _ => ?_
  obtain ⟨hchild, rfl⟩ := Prod.mk.inj (hview.symm.trans hok)
  obtain rfl := Except.ok.inj hchild
  refine kept_bind (addComponent_kept ?_ v) fun _ u _ _ => hm u
  exact ⟨x, withNew_self s x named, hmade.kind ▸ ViewKind.isGroup_ofRenderable r⟩

/-! Replacing views -/

theorem replaceViews_kept (hs : Flat s) (rs : List Renderable) :
    TimerKept s (next (replaceViews rs) s) := by
  rw [replaceViews, next_bind_eq (exec_theUi s)]
  refine kept_bind (clearComponents_pruned hs _).toTimerKept fun _ t _ _ => ?_
  refine keeps_bind (keeps_forIn fun r _ => ?_) (fun _ => keeps_pure _) t
  exact kept_adopt r _ _ (keeps_pure _)

theorem showPage_kept (hs : Flat s) (v : Nat) (index : Int) :
    TimerKept s (next (showPage v index) s) := by
  rw [showPage, next_bind_eq (exec_view? v s)]
  split
  · exact Std.Refl.refl s
  next x _ =>
    dsimp only
    generalize (Renderable.clampPage x.pages.length index).toNat = i
    split
    · exact Std.Refl.refl s
    next r _ =>
      have hindex : Keeps Pruned (updateView v fun x => { x with index := i }) :=
        pruned_updateView (fun _ => List.Subset.refl _)
          (keeps_updateView v _ fun _ => ⟨rfl, rfl, rfl, rfl⟩)
      have hleafed := hindex s
      rw [next_bind_eq (exec_updateView v _ s)]
      refine hleafed.toTimerKept.trans ?_
      refine kept_bind (clearComponents_pruned (hs.pruned hleafed) v).toTimerKept fun _ u _ _ => ?_
      exact kept_adopt r _ v (keeps_syncNavigation v) u

theorem turnPage_kept (hs : Flat s) (v : Nat) (forward : Bool) :
    TimerKept s (next (turnPage v forward) s) := by
  rw [turnPage, next_bind_eq (exec_view? v s)]
  split
  · exact showPage_kept hs v _
  · exact Std.Refl.refl s

/-! Showing a response -/

/-- Nothing can be seen of it, and the timer goes on. -/
structure Unseen (s t : Session Ui) : Prop extends TimerKept s t where
  views : t.ui.views = s.ui.views

instance : IsPreorder (Session Ui) Unseen where
  refl s := ⟨Std.Refl.refl s, rfl⟩
  trans _ _ _ h k := ⟨h.toTimerKept.trans k.toTimerKept, k.views.trans h.views⟩

theorem Unseen.of_ui (hui : t.ui = s.ui) (hloader : t.loader.isSome = s.loader.isSome) :
    Unseen s t := ⟨.of_ui hui hloader, by rw [hui]⟩

/-- A change of what the screen shows. -/
theorem unseen_updateUi {f : Ui → Ui} (h : ∀ u, (f u).kit = u.kit ∧ (f u).views = u.views ∧
    (f u).screen.view = u.screen.view ∧ (f u).screen.pollMs = u.screen.pollMs ∧
    (f u).screen.pollAlarm = u.screen.pollAlarm) : Keeps Unseen (updateUi f) := by
  intro s
  obtain ⟨hkit, hviews, hview, hpollMs, hpollAlarm⟩ := h s.ui
  exact ⟨.of_alarms rfl hview hpollMs hpollAlarm (congrArg Toolkit.now hkit)
    (congrArg Toolkit.destroyed hkit) (congrArg Toolkit.alarms hkit)
    fun e x hx => ⟨x, by rwa [next, exec_updateUi, hviews], rfl⟩, hviews⟩

theorem dropQueuedImages_unseen : Keeps Unseen dropQueuedImages := by
  intro s
  cases hl : s.loader with
  | none =>
    rw [next, exec_dropQueuedImages_of_none hl]
    exact Std.Refl.refl s
  | some l =>
    obtain ⟨j, hj⟩ := exec_dropQueuedImages hl
    rw [next, hj]
    exact .of_ui rfl (by rw [hl]; rfl)

theorem renderResponse_unseen (r : Renderer) (response : Response) (pass : Option Pass) :
    Keeps Unseen (r.renderResponse response pass) := by
  refine r.render_keeps (fun s t h => ?_) (fun c url s => ?_) _ _
  · obtain ⟨⟨j, τ, rfl⟩, -⟩ := h
    exact .of_ui rfl rfl
  · have hclosed := congrArg Option.isSome (Render.cardRegion_grown c url s).closed
    simp only [Option.isSome_map] at hclosed
    exact .of_ui (Render.cardRegion_rendering c url s).ui hclosed

/-- Something that is done after a step of which nothing can be seen. -/
theorem Flat.after {α β : Type} {m : Act Ui α} {f : α → Act Ui β} (hs : Flat s)
    (hm : Keeps Unseen m) (hf : ∀ a t, Flat t → TimerKept t (next (f a) t)) :
    TimerKept s (next (m >>= f) s) := by
  have hst := hm s
  refine kept_bind hst.toTimerKept fun a t hok _ => hf a t ?_
  rw [next, hok] at hst
  exact hs.pruned (hst.toTimerKept.pruned hst.views)

/-- The timer goes on while a response is shown, whether its rendering fails or not. -/
theorem showResponse_kept (hs : Flat s) (response : Response) :
    TimerKept s (next (showResponse response) s) := by
  refine hs.after dropQueuedImages_unseen fun _ s hs => ?_
  refine hs.after (fun s => .of_ui rfl rfl) fun pass s hs => ?_
  refine hs.after (unseen_updateUi fun _ => ⟨rfl, rfl, rfl, rfl, rfl⟩) fun _ s hs => ?_
  refine hs.after keeps_theUi fun u s hs => ?_
  refine hs.after (renderResponse_unseen _ _ _) fun rendered s hs => ?_
  refine hs.after (unseen_updateUi fun _ => ⟨rfl, rfl, rfl, rfl, rfl⟩) fun _ s hs => ?_
  refine kept_bind (replaceViews_kept hs rendered) fun _ t _ _ => ?_
  exact keeps_bind (WidgetChanges.log _ _ _) (fun _ => keeps_pure _) t

/-! Applying images -/

section

variable {base : Nat} {whole top : Nat → Prop}

/-- A completion is taken. Views do not mind, nor does the timer. -/
theorem OnDisplay.drainOne (h : OnDisplay base whole top s) :
    Leads (drainOne tellView) s fun _ t => OnDisplay base whole top t ∧ Unseen s t := by
  cases hl : s.loader with
  | none => exact ⟨none, s, by simp [Session.drainOne, hl], h, Std.Refl.refl s⟩
  | some l =>
    have hloader {l' : Loader} {j : Journal} :
        Unseen s { s with loader := some l', journal := j } :=
      .of_ui rfl (by rw [hl]; rfl)
    cases hc : l.completed with
    | nil => exact ⟨none, s, exec_drainOne_nil tellView hl hc, h, Std.Refl.refl s⟩
    | cons c cs =>
      cases hcurrent : l.accepts s.tracker c.pass with
      | false =>
        obtain ⟨j, hj⟩ := exec_drainOne_stale tellView hl hc hcurrent
        exact ⟨_, _, hj, h.aside rfl rfl rfl rfl rfl, hloader⟩
      | true =>
        obtain ⟨j, hj⟩ := exec_drainOne_current tellView hl hc hcurrent
        have hchange (r r' : Region Nat) (hr : c.settle? r = some r') :
            r'.listeners = r.listeners := by
          unfold Completion.settle? at hr
          split at hr
          · exact listeners_resolve? _ hr
          · exact listeners_fail? hr
        have hkeeps : Keeps TimerKept (Session.settle tellView c.region c.settle?) :=
          keeps_settle keeps_showImage (fun _ _ _ => .of_ui rfl rfl) _ _
        let s₁ : Session Ui := { s with loader := some { l with completed := cs }, journal := j }
        have h₁ : OnDisplay base whole top s₁ := h.aside rfl rfl rfl rfl rfl
        obtain ⟨b, t, hsettle, ⟨ht, -, -, hviews, -⟩, hkept⟩ :=
          (h₁.settle c.region hchange).and_keeps hkeeps
        refine ⟨some true, t, ?_, ht, IsTrans.trans _ _ _ hloader ⟨hkept, hviews⟩⟩
        rw [hj, hsettle]

/-- Applying images comes to its end. -/
theorem OnDisplay.drain (h : OnDisplay base whole top s) :
    Leads drainImages s fun _ t => OnDisplay base whole top t ∧ Unseen s t := by
  have hmany (fuel : Nat) {s : Session Ui} (h : OnDisplay base whole top s) :
      Leads (drainMany tellView fuel) s fun _ t => OnDisplay base whole top t ∧ Unseen s t := by
    induction fuel generalizing s with
    | zero => exact leads_pure ⟨h, Std.Refl.refl s⟩
    | succ fuel ih =>
      refine leads_bind h.drainOne fun taken t ⟨ht, hst⟩ => ?_
      cases taken with
      | none => exact leads_pure ⟨ht, hst⟩
      | some applied =>
        refine leads_bind (ih ht) fun k u ⟨hu, htu⟩ => ?_
        exact leads_pure ⟨hu, IsTrans.trans _ _ _ hst htu⟩
  exact leads_bind_eq (exec_get s) (hmany _ h)

end

end Session
end RemoteScreen
