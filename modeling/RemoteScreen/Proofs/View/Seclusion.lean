import RemoteScreen.Proofs.View.Housing

/-! What mounting keeps to. The view of a renderable is mounted with widgets that are made for it, so
widgets and views that were there before stay as they are; and the first of the new widgets is its
own, made in the widget that it is mounted in. -/
namespace RemoteScreen
namespace Session

variable {s t : Session Ui} {a b c v q w canvas : Nat} {α β : Type} {P : α → Prop} {Q : β → Prop}

/-- There are `a` widgets and `b` views, and none of the other views goes on using one of those
widgets. -/
structure Aloof (a b : Nat) (s : Session Ui) : Prop where
  widgets : a ≤ s.ui.kit.widgets.length
  views : b ≤ s.ui.views.length
  parts : ∀ (v : Nat) (x : View), b ≤ v → s.ui.views[v]? = some x → ∀ w ∈ x.parts.widgets, a ≤ w

/-- The first `a` widgets and the first `b` views are as they were, and views show what they showed. -/
structure Unmoved (a b : Nat) (s t : Session Ui) : Prop where
  widgets : ∀ w < a, t.ui.kit.widgets[w]? = s.ui.kit.widgets[w]?
  views : ∀ v < b, t.ui.views[v]? = s.ui.views[v]?
  shown : ∀ (v : Nat) (x : View), s.ui.views[v]? = some x →
    ∃ y, t.ui.views[v]? = some y ∧ y.kind = x.kind ∧ y.renderable = x.renderable

/-- Widgets have changed from number `a` on, and no view. -/
theorem Unmoved.of_views (hwidgets : ∀ w < a, t.ui.kit.widgets[w]? = s.ui.kit.widgets[w]?)
    (hviews : t.ui.views = s.ui.views) : Unmoved a b s t :=
  ⟨hwidgets, fun v _ => by rw [hviews], fun _ x hx => ⟨x, hviews ▸ hx, rfl, rfl⟩⟩

theorem Unmoved.trans {u : Session Ui} (h : Unmoved a b s t) (k : Unmoved a b t u) :
    Unmoved a b s u where
  widgets := fun w hw => (k.widgets w hw).trans (h.widgets w hw)
  views := fun v hv => (k.views v hv).trans (h.views v hv)
  shown := by
    intro v x hx
    obtain ⟨y, hy, hkind, hrenderable⟩ := h.shown v x hx
    obtain ⟨z, hz, hkind', hrenderable'⟩ := k.shown v y hy
    exact ⟨z, hz, hkind'.trans hkind, hrenderable'.trans hrenderable⟩

theorem Unmoved.lt (h : Unmoved a b s t) (hv : v < s.ui.views.length) : v < t.ui.views.length := by
  obtain ⟨y, hy, -⟩ := h.shown v _ (List.getElem?_eq_getElem hv)
  exact (List.getElem?_eq_some_iff.1 hy).1

/-- A step that leaves the first `a` widgets and the first `b` views alone, and what it gives. -/
def Secluded (a b : Nat) (m : Act Ui α) (P : α → Prop) : Prop :=
  ∀ s x t, Aloof a b s → exec m s = (.ok x, t) → Aloof a b t ∧ Unmoved a b s t ∧ P x

theorem secluded_pure {x : α} (h : P x) : Secluded a b (pure x : Act Ui α) P := by
  intro s y t hs hexec
  obtain ⟨hy, rfl⟩ := Prod.mk.inj hexec
  obtain rfl := Except.ok.inj hy
  exact ⟨hs, .of_views (fun _ _ => rfl) rfl, h⟩

theorem secluded_bind {m : Act Ui α} {f : α → Act Ui β} (hm : Secluded a b m P)
    (hf : ∀ x, P x → Secluded a b (f x) Q) : Secluded a b (m >>= f) Q := by
  intro s y u hs hexec
  obtain ⟨x, t, hfirst, hrest⟩ := exec_bind_eq_ok hexec
  obtain ⟨ht, hst, hx⟩ := hm s x t hs hfirst
  obtain ⟨hu, htu, hy⟩ := hf x hx t y u ht hrest
  exact ⟨hu, hst.trans htu, hy⟩

theorem Secluded.mono {m : Act Ui α} {P' : α → Prop} (hm : Secluded a b m P)
    (h : ∀ x, P x → P' x) : Secluded a b m P' := by
  intro s x t hs hexec
  obtain ⟨ht, hst, hx⟩ := hm s x t hs hexec
  exact ⟨ht, hst, h x hx⟩

/-! Widgets -/

/-- A step that changes widgets from number `a` on only. -/
theorem secluded_onKit {f : Toolkit Command → Option (Toolkit Command × α)}
    (hf : ∀ k k' x, a ≤ k.widgets.length → f k = some (k', x) →
      k.widgets.length ≤ k'.widgets.length ∧ (∀ w < a, k'.widgets[w]? = k.widgets[w]?) ∧ P x) :
    Secluded a b (onKit f) P := by
  intro s x t hs hexec
  rw [onKit, exec_bind, exec_theKit] at hexec
  dsimp only at hexec
  cases hk : f s.ui.kit with
  | none =>
    rw [hk] at hexec
    cases hexec
  | some next =>
    rw [hk] at hexec
    obtain ⟨hx, rfl⟩ := Prod.mk.inj hexec
    obtain rfl := Except.ok.inj hx
    obtain ⟨hlength, hkept, hP⟩ := hf _ _ _ hs.widgets hk
    exact ⟨⟨Nat.le_trans hs.widgets hlength, hs.views, hs.parts⟩, .of_views hkept rfl, hP⟩

theorem getElem?_update_lt {k : Toolkit Command} {f : Widget Command → Widget Command} (hw : a ≤ w)
    (hc : c < a) : (k.update w f).widgets[c]? = k.widgets[c]? := by
  rw [Toolkit.update, List.getElem?_modify_ne _ _ (Nat.ne_of_gt (Nat.lt_of_lt_of_le hc hw))]

theorem length_update (k : Toolkit Command) (w : Nat) (f : Widget Command → Widget Command) :
    (k.update w f).widgets.length = k.widgets.length := List.length_modify _ _ _

theorem secluded_create (p : Nat) (kind : WidgetKind) (aspects : Aspects Command) :
    Secluded a b (create p kind aspects) (a ≤ ·) := by
  refine secluded_onKit fun k k' w ha hk => ?_
  unfold Toolkit.create? at hk
  split at hk
  · obtain ⟨rfl, rfl⟩ := Prod.mk.inj (Option.some.inj hk)
    refine ⟨by simp, fun c hc => ?_, ha⟩
    exact List.getElem?_append_left (Nat.lt_of_lt_of_le hc ha)
  · cases hk

theorem secluded_change {change : Toolkit Command → Option (Toolkit Command)}
    (h : ∀ k k', change k = some k' → ∃ w f, a ≤ w ∧ k' = k.update w f) :
    Secluded a b (onKit fun k => (change k).map (·, ())) fun _ => True := by
  refine secluded_onKit fun k k' _ _ hk => ?_
  obtain ⟨k'', hchange, heq⟩ := Option.map_eq_some_iff.1 hk
  obtain ⟨rfl, -⟩ := Prod.mk.inj heq
  obtain ⟨w, f, hw, rfl⟩ := h k k'' hchange
  exact ⟨Nat.le_of_eq (length_update k w f).symm, fun c hc => getElem?_update_lt hw hc, trivial⟩

theorem secluded_configure (hw : a ≤ w) (aspects : Aspects Command) :
    Secluded a b (configure w aspects) fun _ => True := by
  refine secluded_change fun k k' hk => ?_
  unfold Toolkit.configure? at hk
  split at hk
  · exact ⟨w, _, hw, (Option.some.inj hk).symm⟩
  · cases hk

theorem secluded_pack (hw : a ≤ w) (packing : Attributes) :
    Secluded a b (pack w packing) fun _ => True := by
  refine secluded_change fun k k' hk => ?_
  unfold Toolkit.pack? at hk
  split at hk
  · exact ⟨w, _, hw, (Option.some.inj hk).symm⟩
  · cases hk

theorem secluded_addItem (hw : a ≤ canvas) (item : CanvasItem Command) :
    Secluded a b (addItem canvas item) fun _ => True := by
  refine secluded_onKit fun k k' n _ hk => ?_
  obtain ⟨rfl, -⟩ := Prod.mk.inj (Option.some.inj hk)
  exact ⟨Nat.le_of_eq (length_update k canvas _).symm, fun c hc => getElem?_update_lt hw hc, trivial⟩

theorem secluded_updateWidget (hw : a ≤ w) (f : Widget Command → Widget Command) :
    Secluded a b (updateKit fun k => k.update w f) fun _ => True := by
  intro s _ t hs hexec
  obtain ⟨-, rfl⟩ := Prod.mk.inj hexec
  refine ⟨⟨?_, hs.views, hs.parts⟩, .of_views (fun c hc => getElem?_update_lt hw hc) rfl, trivial⟩
  rw [length_update]
  exact hs.widgets

theorem secluded_place (p : Nat) (kind : WidgetKind) (aspects : Aspects Command)
    (packing : Attributes) : Secluded a b (place p kind aspects packing) (a ≤ ·) := by
  refine secluded_bind (secluded_create p kind aspects) fun w hw => ?_
  exact secluded_bind (secluded_pack hw packing) fun _ _ => secluded_pure hw

theorem secluded_heading (p : Nat) (title : String) :
    Secluded a b (heading p title) fun _ => True := by
  unfold heading
  split
  · exact secluded_bind (secluded_place p _ _ _) fun _ _ => secluded_pure trivial
  · exact secluded_pure trivial

/-! Views -/

/-- A view from number `b` on changes that goes on showing what it shows, and goes on using widgets
from number `a` on only. -/
theorem secluded_updateView (hv : b ≤ v) {f : View → View}
    (hsame : ∀ x, (f x).kind = x.kind ∧ (f x).renderable = x.renderable)
    (hf : ∀ x, (∀ w ∈ x.parts.widgets, a ≤ w) → ∀ w ∈ (f x).parts.widgets, a ≤ w) :
    Secluded a b (updateView v f) fun _ => True := by
  intro s _ t hs hexec
  obtain ⟨-, rfl⟩ := Prod.mk.inj ((exec_updateView v f s).symm.trans hexec)
  refine ⟨⟨hs.widgets, ?_, fun u y hu hy => ?_⟩, ⟨fun _ _ => rfl, fun u hu => ?_, fun u x hx => ?_⟩,
    trivial⟩
  · rw [length_withView]
    exact hs.views
  · rw [getElem?_withView] at hy
    split at hy
    · obtain ⟨x, hx, rfl⟩ := Option.map_eq_some_iff.1 hy
      exact hf x (hs.parts u x hu hx)
    · exact hs.parts u y hu hy
  · exact withView_ne f (Nat.ne_of_lt (Nat.lt_of_lt_of_le hu hv))
  · by_cases huv : u = v
    · subst huv
      exact ⟨f x, withView_self hx f, hsame x⟩
    · exact ⟨x, (withView_ne f huv).trans hx, rfl, rfl⟩

theorem secluded_setRoot (hv : b ≤ v) (w : Nat) : Secluded a b (setRoot v w) fun _ => True :=
  secluded_updateView hv (fun _ => ⟨rfl, rfl⟩) fun _ hx => hx

theorem secluded_viewOf (r : Renderable) (packing : Attributes) :
    Secluded a b (viewOf r packing) (b ≤ ·) := by
  intro s c t hs hexec
  obtain ⟨x, named, hx, hview⟩ := exec_viewOf r packing s
  obtain ⟨hc, rfl⟩ := Prod.mk.inj (hexec.symm.trans hview)
  obtain rfl := Except.ok.inj hc
  refine ⟨⟨hs.widgets, ?_, fun u y hu hy => ?_⟩, ⟨fun _ _ => rfl, fun u hu => ?_, fun u y hy => ?_⟩,
    hs.views⟩
  · rw [length_withNew]
    exact Nat.le_succ_of_le hs.views
  · rcases withNew_cases hy with hold | ⟨-, rfl⟩
    · exact hs.parts u y hu hold
    · rw [hx.parts]
      exact fun w hw => absurd hw List.not_mem_nil
  · exact withNew_old (Nat.lt_of_lt_of_le hu hs.views)
  · exact ⟨y, (withNew_old (List.getElem?_eq_some_iff.1 hy).1).trans hy, rfl, rfl⟩

theorem secluded_subscribe (n l : Nat) : Secluded a b (subscribe n l : Act Ui Unit) fun _ => True := by
  intro s _ t hs hexec
  obtain ⟨-, rfl⟩ := Prod.mk.inj hexec
  exact ⟨⟨hs.widgets, hs.views, hs.parts⟩, .of_views (fun _ _ => rfl) rfl, trivial⟩

/-- A step on a view from number `b` on, which knows the view. -/
theorem secluded_view {f : Option View → Act Ui α} (hv : b ≤ v) (hnone : Secluded a b (f none) P)
    (hsome : ∀ x : View, (∀ w ∈ x.parts.widgets, a ≤ w) → Secluded a b (f (some x)) P) :
    Secluded a b (view? v >>= f) P := by
  intro s y t hs hexec
  rw [exec_bind, exec_view?] at hexec
  cases hx : s.ui.views[v]? with
  | none =>
    rw [hx] at hexec
    exact hnone s y t hs hexec
  | some x =>
    rw [hx] at hexec
    exact hsome x (hs.parts v x hv hx) s y t hs hexec

theorem secluded_showImage (n : Nat) (hv : b ≤ v) :
    Secluded a b (showImage n v) fun _ => True := by
  have hregion {f : Option (Region Nat) → Act Ui Unit} (hf : ∀ r, Secluded a b (f r) fun _ => True) :
      Secluded a b (region? n >>= f) fun _ => True := fun s y t hs hexec => hf _ s y t hs hexec
  refine secluded_view hv (hregion fun r => secluded_pure trivial) fun x hx => hregion fun r => ?_
  split
  next label r hparts =>
    refine secluded_configure (hx label ?_) _
    rw [Option.some.inj hparts]
    exact List.mem_singleton_self label
  · exact secluded_pure trivial

theorem secluded_syncNavigation (hv : b ≤ v) :
    Secluded a b (syncNavigation v) fun _ => True := by
  refine secluded_view hv (secluded_pure trivial) fun x hx => ?_
  dsimp only
  split
  next host previous label next hparts =>
    rw [hparts] at hx
    have hall (w : Nat) (hw : w ∈ [host, previous, label, next]) : a ≤ w := hx w hw
    refine secluded_bind (secluded_configure (hall label (by simp)) _) fun _ _ => ?_
    refine secluded_bind (secluded_updateWidget (hall previous (by simp)) _) fun _ _ => ?_
    exact secluded_updateWidget (hall next (by simp)) _
  · exact secluded_pure trivial

/-! Frames -/

/-- A step that makes a widget in widget `q` first and then, for a view `v`, goes on with others; it
gives what `P` says for new widgets from number `a` on and the first one. -/
def Frames (v q : Nat) (m : Act Ui α) (P : Nat → Nat → α → Prop) : Prop :=
  ∃ kind aspects rest, m = create q kind aspects >>= rest ∧
    ∀ a b w, b ≤ v → Secluded a b (rest w) (P a w)

theorem Frames.bind {P : Nat → Nat → α → Prop} {Q : Nat → Nat → β → Prop} {m : Act Ui α}
    {f : α → Act Ui β} (h : Frames v q m P)
    (hf : ∀ a b w x, b ≤ v → P a w x → Secluded a b (f x) (Q a w)) : Frames v q (m >>= f) Q := by
  obtain ⟨kind, aspects, rest, rfl, hrest⟩ := h
  refine ⟨kind, aspects, fun w => rest w >>= f, bind_assoc _ _ _, fun a b w hb => ?_⟩
  exact secluded_bind (hrest a b w hb) fun x hx => hf a b w x hb hx

theorem Frames.secluded {P : Nat → Nat → α → Prop} {m : Act Ui α} (h : Frames v q m P)
    (hb : b ≤ v) : Secluded a b m fun x => ∃ w, a ≤ w ∧ P a w x := by
  obtain ⟨kind, aspects, rest, rfl, hrest⟩ := h
  refine secluded_bind (secluded_create q kind aspects) fun w hw => ?_
  exact (hrest a b w hb).mono fun x hx => ⟨w, hw, hx⟩

/-- The first widget is the next one there is, and the rest is done from there. -/
theorem Frames.exec {P : Nat → Nat → α → Prop} {m : Act Ui α} {x : α} (h : Frames v q m P)
    (hb : b ≤ v) (ha : a ≤ s.ui.kit.widgets.length + 1) (hviews : b ≤ s.ui.views.length)
    (hparts : ∀ (u : Nat) (y : View), b ≤ u → s.ui.views[u]? = some y →
      ∀ w ∈ y.parts.widgets, a ≤ w) (hexec : exec m s = (.ok x, t)) :
    P a s.ui.kit.widgets.length x ∧ ∃ frame : Widget Command, frame.parent = some q ∧
      Unmoved a b (s.withKit { s.ui.kit with widgets := s.ui.kit.widgets ++ [frame] }) t := by
  obtain ⟨kind, aspects, rest, rfl, hrest⟩ := h
  obtain ⟨w, s₁, hcreate, hexec⟩ := exec_bind_eq_ok hexec
  obtain ⟨rfl, rfl⟩ := exec_create_eq_ok hcreate
  let frame : Widget Command := { kind, parent := some q, aspects }
  have haloof : Aloof a b
      (s.withKit { s.ui.kit with widgets := s.ui.kit.widgets ++ [frame] }) := by
    refine ⟨?_, hviews, hparts⟩
    rw [withKit, List.length_append]
    exact ha
  obtain ⟨-, hunmoved, hx⟩ := hrest a b _ hb _ x t haloof hexec
  exact ⟨hx, frame, rfl, hunmoved⟩

theorem buildCard_frames (v : Nat) (title body : String) (region q : Nat) :
    Frames v q (buildCard v title body region q) fun _ w frame => frame = w := by
  refine ⟨_, _, _, rfl, fun a b w hb => ?_⟩
  refine secluded_bind (secluded_place w _ _ _) fun label hlabel => ?_
  refine secluded_bind (secluded_updateView hb (fun _ => ⟨rfl, rfl⟩) fun _ _ l hl => ?_) fun _ _ => ?_
  · obtain rfl := List.mem_singleton.1 hl
    exact hlabel
  refine secluded_bind (secluded_place w _ _ _) fun _ _ => ?_
  refine secluded_bind (secluded_place w _ _ _) fun _ _ => ?_
  refine secluded_bind (secluded_showImage region hb) fun _ _ => ?_
  exact secluded_bind (secluded_subscribe region v) fun _ _ => secluded_pure rfl

theorem buildStat_frames (v : Nat) (label value : String) (q : Nat) :
    Frames v q (buildStat label value q) fun _ w frame => frame = w := by
  refine ⟨_, _, _, rfl, fun a b w _ => ?_⟩
  refine secluded_bind (secluded_place w _ _ _) fun _ _ => ?_
  exact secluded_bind (secluded_place w _ _ _) fun _ _ => secluded_pure rfl

theorem create_frames (v q : Nat) (kind : WidgetKind) (aspects : Aspects Command) :
    Frames v q (create q kind aspects) fun _ w frame => frame = w :=
  ⟨kind, aspects, pure, (bind_pure _).symm, fun _ _ _ _ => secluded_pure rfl⟩

theorem buildCarousel_frames (v : Nat) (title : String) (height : Int) (q : Nat) :
    Frames v q (buildCarousel v title height q) fun a w r => r.1 = w ∧ a ≤ r.2 := by
  refine ⟨_, _, _, rfl, fun a b w hb => ?_⟩
  refine secluded_bind (secluded_heading w title) fun _ _ => ?_
  refine secluded_bind (secluded_place w _ _ _) fun host hhost => ?_
  refine secluded_bind (secluded_updateWidget hhost _) fun _ _ => ?_
  refine secluded_bind (secluded_place w _ _ _) fun nav _ => ?_
  refine secluded_bind (secluded_place nav _ _ _) fun previous hprevious => ?_
  refine secluded_bind (secluded_place nav _ _ _) fun label hlabel => ?_
  refine secluded_bind (secluded_place nav _ _ _) fun next hnext => ?_
  refine secluded_bind (secluded_updateView hb (fun _ => ⟨rfl, rfl⟩) fun _ _ c hc => ?_) fun _ _ => ?_
  · simp only [Parts.widgets, List.mem_cons, List.not_mem_nil, or_false] at hc
    rcases hc with rfl | rfl | rfl | rfl
    · exact hhost
    · exact hprevious
    · exact hlabel
    · exact hnext
  · exact secluded_pure ⟨rfl, hhost⟩

theorem buildRow_frames (v : Nat) (title : String) (q : Nat) :
    Frames v q (buildRow v title q) fun a w r => r.1 = w ∧ a ≤ r.2 := by
  refine ⟨_, _, _, rfl, fun a b w hb => ?_⟩
  refine secluded_bind (secluded_heading w title) fun _ _ => ?_
  refine secluded_bind (secluded_create w _ _) fun canvas hcanvas => ?_
  refine secluded_bind (secluded_create w _ _) fun bar hbar => ?_
  refine secluded_bind (secluded_configure hcanvas _) fun _ _ => ?_
  refine secluded_bind (secluded_pack hcanvas _) fun _ _ => ?_
  refine secluded_bind (secluded_pack hbar _) fun _ _ => ?_
  refine secluded_bind (secluded_updateView hb (fun _ => ⟨rfl, rfl⟩) fun _ _ c hc => ?_) fun _ _ => ?_
  · obtain rfl := List.mem_singleton.1 hc
    exact hcanvas
  · exact secluded_pure ⟨rfl, hcanvas⟩

/-! Trees -/

theorem secluded_addSlot (hv : b ≤ v) (hcanvas : a ≤ canvas) (holder child : Nat) (x width : Int) :
    Secluded a b (addSlot v canvas holder child x width) fun _ => True := by
  refine secluded_bind (secluded_updateView hv (fun _ => ⟨rfl, rfl⟩) fun _ hx => hx) fun _ _ => ?_
  refine secluded_bind (secluded_addItem hcanvas _) fun item _ => ?_
  refine secluded_updateView hv (fun _ => ⟨rfl, rfl⟩) fun y hy w hw => hy w ?_
  dsimp only at hw
  split at hw
  next canvas windows holders hparts =>
    rw [hparts]
    exact hw
  · exact hw

mutual

theorem mountShown_frames : ∀ (r : Renderable) (v q : Nat),
    Frames v q (mountShown r v q) fun _ _ _ => True
  | .card _ title body region, v, q => by
    rw [mountShown]
    exact (buildCard_frames v title body region q).bind fun _ _ _ w hb _ => secluded_setRoot hb w
  | .stat _ label value _, v, q => by
    rw [mountShown]
    exact (buildStat_frames v label value q).bind fun _ _ _ w hb _ => secluded_setRoot hb w
  | .action id title sink, v, q => by
    rw [mountShown]
    exact (create_frames v q _ _).bind fun _ _ _ w hb _ => secluded_setRoot hb w
  | .unknown _ _ message, v, q => by
    rw [mountShown]
    exact (create_frames v q _ _).bind fun _ _ _ w hb _ => secluded_setRoot hb w
  | .plain _, v, q => by
    rw [mountShown]
    exact (create_frames v q _ _).bind fun _ _ _ w hb _ => secluded_setRoot hb w
  | .carousel _ title pages height, v, q => by
    rw [mountShown]
    exact (buildCarousel_frames v title height q).bind fun _ _ _ r hb _ =>
      secluded_mountFirst pages v r.1 r.2 hb
  | .hscroll _ title slots spacing, v, q => by
    rw [mountShown]
    refine (buildRow_frames v title q).bind fun a b _ r hb hr => ?_
    refine secluded_bind (secluded_mountSlots slots v r.2 spacing 0 hb hr.2) fun _ _ => ?_
    exact secluded_setRoot hb r.1

theorem secluded_mountFirst {a b : Nat} : ∀ (pages : List Renderable) (v frame host : Nat), b ≤ v →
    Secluded a b (mountFirst pages v frame host) fun _ => True
  | [], v, frame, host, hb => by
    rw [mountFirst]
    exact secluded_bind (secluded_syncNavigation hb) fun _ _ => secluded_setRoot hb frame
  | r :: _, v, frame, host, hb => by
    rw [mountFirst]
    refine secluded_bind (secluded_viewOf r _) fun child hchild => ?_
    refine secluded_bind (secluded_updateView hb (fun _ => ⟨rfl, rfl⟩) fun _ hx => hx) fun _ _ => ?_
    refine secluded_bind (secluded_syncNavigation hb) fun _ _ => ?_
    refine secluded_bind (secluded_setRoot hb frame) fun _ _ => ?_
    exact ((mountShown_frames r child host).secluded hchild).mono fun _ _ => trivial

theorem secluded_mountSlots {a b : Nat} : ∀ (slots : List (Slot Renderable)) (v canvas : Nat)
    (spacing x : Int), b ≤ v → a ≤ canvas →
    Secluded a b (mountSlots slots v canvas spacing x) fun _ => True
  | [], v, canvas, spacing, x, _, _ => by
    rw [mountSlots]
    exact secluded_pure trivial
  | ⟨width, r⟩ :: slots, v, canvas, spacing, x, hb, hcanvas => by
    rw [mountSlots]
    refine secluded_bind (P := fun r => b ≤ r.2) ?_ fun e he => ?_
    · refine secluded_bind (secluded_create canvas _ _) fun holder _ => ?_
      exact secluded_bind (secluded_viewOf r _) fun child hchild => secluded_pure hchild
    refine secluded_bind ((mountShown_frames r e.2 e.1).secluded he) fun _ _ => ?_
    refine secluded_bind (secluded_addSlot hb hcanvas e.1 e.2 x width) fun _ _ => ?_
    exact secluded_mountSlots slots v canvas spacing _ hb hcanvas

end

/-! The widget of a view -/

theorem root_setRoot {u : Unit} (hv : v < s.ui.views.length)
    (hexec : exec (setRoot v w) s = (.ok u, t)) : (t.ui.views[v]?).bind View.root = some w := by
  obtain ⟨-, rfl⟩ := Prod.mk.inj ((exec_updateView _ _ s).symm.trans hexec)
  rw [withView_self (List.getElem?_eq_getElem hv)]
  rfl

/-- Views that are there are there after a step that is secluded in any way. -/
theorem Secluded.lt {m : Act Ui α} {x : α} (h : Secluded 0 0 m P) (hexec : exec m s = (.ok x, t))
    (hv : v < s.ui.views.length) : v < t.ui.views.length :=
  (h s x t ⟨Nat.zero_le _, Nat.zero_le _, fun _ _ _ _ _ _ => Nat.zero_le _⟩ hexec).2.1.lt hv

/-- A view that is given the first widget that has been made for it. -/
theorem Frames.root {P : Nat → Nat → α → Prop} {m : Act Ui α} {f : α → Act Ui Unit} {u : Unit}
    (h : Frames v q m P) (hv : v < s.ui.views.length)
    (hexec : Session.exec (m >>= f) s = (.ok u, t))
    (hf : ∀ x s', P 0 s.ui.kit.widgets.length x → v < s'.ui.views.length →
      Session.exec (f x) s' = (.ok u, t) →
      (t.ui.views[v]?).bind View.root = some s.ui.kit.widgets.length) :
    (t.ui.views[v]?).bind View.root = some s.ui.kit.widgets.length := by
  obtain ⟨x, s', hfirst, hrest⟩ := exec_bind_eq_ok hexec
  obtain ⟨hx, frame, -, hunmoved⟩ := h.exec (Nat.zero_le v) (Nat.zero_le _) (Nat.zero_le _)
    (fun _ _ _ _ _ _ => Nat.zero_le _) hfirst
  exact hf x s' hx (hunmoved.lt hv) hrest

/-- Mounting the first page of a carousel: the page gets a view, which the carousel owns, and the
carousel stands before its page does. -/
theorem exec_mountFirst_cons {r : Renderable} {rest : List Renderable} {frame host : Nat} {u : Unit}
    (hexec : exec (mountFirst (r :: rest) v frame host) s = (.ok u, t)) : ∃ z named s',
      Made r z ∧
      exec (syncNavigation v) ((s.withNew z named).withView v (View.owning s.ui.views.length)) =
        (.ok ⟨⟩, s') ∧
      exec (mountShown r s.ui.views.length host) (s'.withView v (View.rooted frame)) =
        (.ok u, t) := by
  rw [mountFirst] at hexec
  obtain ⟨child, s₁, hview, hexec⟩ := exec_bind_eq_ok hexec
  obtain ⟨z, named, hz, hview'⟩ := exec_viewOf r View.pagePacking s
  obtain ⟨hchild, rfl⟩ := Prod.mk.inj (hview.symm.trans hview')
  obtain rfl := Except.ok.inj hchild
  obtain ⟨_, s₂, hown, hexec⟩ := exec_bind_eq_ok hexec
  obtain ⟨-, rfl⟩ := Prod.mk.inj ((exec_updateView v _ _).symm.trans hown)
  obtain ⟨_, s₃, hsync, hexec⟩ := exec_bind_eq_ok hexec
  obtain ⟨_, s₄, hset, hmount⟩ := exec_bind_eq_ok hexec
  obtain ⟨-, rfl⟩ := Prod.mk.inj ((exec_updateView v _ _).symm.trans hset)
  exact ⟨z, named, s₃, hz, hsync, hmount⟩

theorem root_mountFirst {pages : List Renderable} {frame host : Nat} {u : Unit}
    (hv : v < s.ui.views.length) (hexec : exec (mountFirst pages v frame host) s = (.ok u, t)) :
    (t.ui.views[v]?).bind View.root = some frame := by
  cases pages with
  | nil =>
    rw [mountFirst] at hexec
    obtain ⟨_, s₁, hsync, hroot⟩ := exec_bind_eq_ok hexec
    exact root_setRoot ((secluded_syncNavigation (Nat.zero_le v)).lt hsync hv) hroot
  | cons r rest =>
    obtain ⟨z, named, s', -, hsync, hmount⟩ := exec_mountFirst_cons hexec
    have hlt : v < s'.ui.views.length := by
      refine (secluded_syncNavigation (Nat.zero_le v)).lt hsync ?_
      rw [length_withView, length_withNew]
      exact Nat.lt_succ_of_lt hv
    -- The page is mounted in a view that has been made after the carousel.
    have hmounted := (mountShown_frames r s.ui.views.length host).secluded (a := 0) (b := v + 1) hv
    have haloof : Aloof 0 (v + 1) (s'.withView v (View.rooted frame)) := by
      refine ⟨Nat.zero_le _, ?_, fun _ _ _ _ _ _ => Nat.zero_le _⟩
      rw [length_withView]
      exact hlt
    rw [(hmounted _ u t haloof hmount).2.1.views v (Nat.lt_succ_self v)]
    exact root_setRoot hlt (exec_updateView v _ s')

/-- A view is mounted with the first widget that is made. -/
theorem root_mountShown {r : Renderable} {u : Unit} (hv : v < s.ui.views.length)
    (hexec : exec (mountShown r v q) s = (.ok u, t)) :
    (t.ui.views[v]?).bind View.root = some s.ui.kit.widgets.length := by
  have hleaf {build : Act Ui Nat} (hframes : Frames v q build fun _ w frame => frame = w)
      (hexec : exec (build >>= setRoot v) s = (.ok u, t)) :
      (t.ui.views[v]?).bind View.root = some s.ui.kit.widgets.length := by
    refine hframes.root hv hexec fun w s' hw hv' hset => ?_
    exact hw ▸ root_setRoot hv' hset
  cases r with
  | card id title body region =>
    rw [mountShown] at hexec
    exact hleaf (buildCard_frames v title body region q) hexec
  | stat id label value maxLines =>
    rw [mountShown] at hexec
    exact hleaf (buildStat_frames v label value q) hexec
  | action id title sink =>
    rw [mountShown] at hexec
    exact hleaf (create_frames v q _ _) hexec
  | unknown id tag message =>
    rw [mountShown] at hexec
    exact hleaf (create_frames v q _ _) hexec
  | plain id =>
    rw [mountShown] at hexec
    exact hleaf (create_frames v q _ _) hexec
  | carousel id title pages height =>
    rw [mountShown] at hexec
    refine (buildCarousel_frames v title height q).root hv hexec fun r s' hr hv' hrest => ?_
    exact hr.1 ▸ root_mountFirst hv' hrest
  | hscroll id title slots spacing =>
    rw [mountShown] at hexec
    refine (buildRow_frames v title q).root hv hexec fun r s' hr hv' hrest => ?_
    obtain ⟨_, s₁, hslots, hset⟩ := exec_bind_eq_ok hrest
    have hlt := (secluded_mountSlots slots v r.2 spacing 0 (Nat.zero_le v) (Nat.zero_le _)).lt
      hslots hv'
    exact hr.1 ▸ root_setRoot hlt hset

/-- Mounting the view that was made last keeps to that view: all that was there stays as it is, and
the view is mounted with a widget that has been made for it in widget `q`. -/
theorem mountShown_newest {r : Renderable} {x : View} {u : Unit} (hv : v + 1 = s.ui.views.length)
    (hx : s.ui.views[v]? = some x) (hparts : x.parts = .none)
    (hexec : exec (mountShown r v q) s = (.ok u, t)) :
    Unmoved s.ui.kit.widgets.length v s t ∧ ∃ y, t.ui.views[v]? = some y ∧ y.kind = x.kind ∧
      y.renderable = x.renderable ∧ y.root = some s.ui.kit.widgets.length ∧
      t.ui.kit.parent? s.ui.kit.widgets.length = some q := by
  have hlt : v < s.ui.views.length := by omega
  obtain ⟨-, frame, hframe, hunmoved⟩ := (mountShown_frames r v q).exec
    (a := s.ui.kit.widgets.length + 1) (Nat.le_refl v) (Nat.le_refl _) (Nat.le_of_lt hlt) (by
      intro e y he hy w hw
      have hlast := (List.getElem?_eq_some_iff.1 hy).1
      obtain rfl : e = v := by omega
      obtain rfl := Option.some.inj (hx.symm.trans hy)
      rw [hparts] at hw
      exact absurd hw List.not_mem_nil) hexec
  refine ⟨⟨fun w hw => ?_, hunmoved.views, hunmoved.shown⟩, ?_⟩
  · rw [hunmoved.widgets w (Nat.lt_succ_of_lt hw)]
    exact List.getElem?_append_left hw
  · obtain ⟨y, hy, hkind, hrenderable⟩ := hunmoved.shown v x hx
    have hroot := root_mountShown hlt hexec
    rw [hy, Option.bind_some] at hroot
    refine ⟨y, hy, hkind, hrenderable, hroot, ?_⟩
    rw [Toolkit.parent?, hunmoved.widgets _ (Nat.lt_succ_self _)]
    exact (congrArg (Option.bind · Widget.parent) List.getElem?_concat_length).trans hframe

end Session
end RemoteScreen
