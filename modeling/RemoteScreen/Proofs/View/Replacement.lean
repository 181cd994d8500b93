import RemoteScreen.Proofs.Render.Sprouting
import RemoteScreen.Proofs.View.Screen
import RemoteScreen.Proofs.View.Turning

/-! A response in place of another. Rendering it leaves alone what is on screen; then the views of the
response before go, and views for what has been rendered come. -/
namespace RemoteScreen
namespace Session

open Render
open Renderable (cardRegions)

variable {s t u : Session Ui} {path path' : Nat → List Nat} {x : View} {base : Nat}
  {whole top : Nat → Prop}

/-! What views leave alone -/

/-- The screen stays the screen of its response. -/
structure ResponseKept (s t : Session Ui) : Prop where
  view : t.ui.screen.view = s.ui.screen.view
  response : t.ui.screen.response = s.ui.screen.response
  pass : t.ui.screen.pass = s.ui.screen.pass
  rendered : t.ui.screen.rendered = s.ui.screen.rendered

instance : IsPreorder (Session Ui) ResponseKept where
  refl _ := ⟨rfl, rfl, rfl, rfl⟩
  trans _ _ _ h k := ⟨k.view.trans h.view, k.response.trans h.response, k.pass.trans h.pass,
    k.rendered.trans h.rendered⟩

instance : ViewChanges ResponseKept where
  Own _ := True
  log _ _ _ _ := ⟨rfl, rfl, rfl, rfl⟩
  addRegion _ _ := ⟨rfl, rfl, rfl, rfl⟩
  subscribe _ _ _ := ⟨rfl, rfl, rfl, rfl⟩
  unsubscribe _ _ _ := ⟨rfl, rfl, rfl, rfl⟩
  addWidget _ _ := ⟨rfl, rfl, rfl, rfl⟩
  own_create := gives_created
  updateWidget _ _ _ := ⟨rfl, rfl, rfl, rfl⟩
  destroyWidget _ _ _ := ⟨rfl, rfl, rfl, rfl⟩
  addErrand _ _ _ := ⟨rfl, rfl, rfl, rfl⟩
  addView _ _ _ _ := ⟨rfl, rfl, rfl, rfl⟩
  updateView _ _ _ _ _ := ⟨rfl, rfl, rfl, rfl⟩
  own_root _ _ _ _ _ h := h fun _ _ => trivial
  named _ _ := ⟨rfl, rfl, rfl, rfl⟩
  startPolling _ _ _ := ⟨rfl, rfl, rfl, rfl⟩
  stopPolling _ _ _ := ⟨rfl, rfl, rfl, rfl⟩
  forgetPolling _ := ⟨rfl, rfl, rfl, rfl⟩

/-! New regions -/

/-- Views do not mind regions that are new. -/
theorem Settled.sprouted (h : Settled path s) (hviews : t.ui.views = s.ui.views)
    (hkit : t.ui.kit = s.ui.kit)
    (hregions : ∃ new, t.regions = s.regions ++ new ∧ ∀ r ∈ new, r.listeners = []) :
    Settled path t := by
  obtain ⟨new, hregions, hnew⟩ := hregions
  have hfollows (v label n : Nat) : Follows t.ui v label n ↔ Follows s.ui v label n := by
    unfold Follows
    rw [hviews]
  have hold {n : Nat} (hn : n < s.regions.length) : t.regions[n]? = s.regions[n]? := by
    rw [hregions, List.getElem?_append_left hn]
  have hlt {v label n : Nat} (hfollow : Follows s.ui v label n) : n < s.regions.length := by
    obtain ⟨x, hx, -, hn⟩ := follows_iff.1 hfollow
    exact h.toFollowed.lt_of_region? hx hn
  have hnested : Nested path t.ui :=
    h.toNested.congr (by rw [hkit]) (by rw [hkit]) (fun _ => by rw [hkit]) hviews
  have hfollowed : Followed t := by
    refine ⟨?_, fun n r hr => ?_, fun v label n r hfollow hr => ?_⟩
    · rw [hviews, hregions, List.length_append]
      exact fun x hx r hr n hn => Nat.lt_add_right _ (h.within x hx r hr n hn)
    · by_cases hn : n < s.regions.length
      · obtain ⟨hnodup, hheard⟩ := h.heard n r ((hold hn).symm.trans hr)
        exact ⟨hnodup, fun v => (hheard v).trans (exists_congr fun l => (hfollows v l n).symm)⟩
      · rw [hregions, List.getElem?_append_right (Nat.not_lt.1 hn)] at hr
        rw [hnew r (List.mem_of_getElem? hr)]
        refine ⟨List.nodup_nil, fun v => iff_of_false List.not_mem_nil fun ⟨label, hfollow⟩ => ?_⟩
        exact hn (hlt ((hfollows v label n).1 hfollow))
    · have hbefore := (hfollows v label n).1 hfollow
      rw [hkit]
      exact h.looks v label n r hbefore ((hold (hlt hbefore)).symm.trans hr)
  exact h.repath ⟨hnested, hviews ▸ h.toForest, hfollowed⟩ hviews fun _ _ => rfl

/-! Between two steps -/

/-- What is on display between two steps. Widgets with a number below `base` are in no view. -/
structure OnDisplay (base : Nat) (whole top : Nat → Prop) (s : Session Ui) : Prop where
  settled : ∃ path, Settled path s ∧ ∀ q < base, path q = []
  below : base ≤ s.ui.kit.widgets.length
  standing : Standing whole top s
  screen : s.ui.screen.view < s.ui.views.length

/-- The widgets below the base are as before. -/
theorem OnDisplay.of_grown (h : OnDisplay base whole top s) (hpath : ∀ q < base, path q = [])
    (ht : Settled path' t) (hgrown : Outgrows path path' s t) (hs : Standing whole top t)
    (hscreen : t.ui.screen.view < t.ui.views.length) : OnDisplay base whole top t where
  settled := by
    refine ⟨path', ht, fun q hq => ?_⟩
    exact (hgrown.paths q (Nat.lt_of_lt_of_le hq h.below)).trans (hpath q hq)
  below := Nat.le_trans h.below hgrown.widgets
  standing := hs
  screen := hscreen

theorem OnDisplay.sprouted (h : OnDisplay base whole top s) (hviews : t.ui.views = s.ui.views)
    (hkit : t.ui.kit = s.ui.kit) (hview : t.ui.screen.view = s.ui.screen.view)
    (hregions : ∃ new, t.regions = s.regions ++ new ∧ ∀ r ∈ new, r.listeners = []) :
    OnDisplay base whole top t ∧ Lasting s t := by
  obtain ⟨path, hpath, hbase⟩ := h.settled
  have hgrown : Outgrows path path s t := .of_length path (by rw [hkit])
  refine ⟨h.of_grown hbase (hpath.sprouted hviews hkit hregions) hgrown
    (h.standing.congr hviews) ?_, ?_⟩
  · rw [hview, hviews]
    exact h.screen
  · exact .of_views (by rw [hkit]) fun e x hx => ⟨x, hviews ▸ hx, rfl, rfl, fun _ => rfl⟩

/-- What does not touch widgets, views or regions leaves everything in its place. -/
theorem OnDisplay.aside (h : OnDisplay base whole top s)
    (hwidgets : t.ui.kit.widgets = s.ui.kit.widgets)
    (hdestroyed : t.ui.kit.destroyed = s.ui.kit.destroyed) (hviews : t.ui.views = s.ui.views)
    (hregions : t.regions = s.regions) (hview : t.ui.screen.view = s.ui.screen.view) :
    OnDisplay base whole top t := by
  obtain ⟨path, hpath, hbase⟩ := h.settled
  have hstill : Still s t := .of_widgets hwidgets hdestroyed hviews hregions
  refine h.of_grown hbase (hpath.still hstill) (.of_length path hstill.length)
    (h.standing.congr hviews) ?_
  rw [hview, hviews]
  exact h.screen

/-- The screen may be found where it was. -/
theorem Lasting.screen (h : Lasting s t) (hview : t.ui.screen.view = s.ui.screen.view)
    (hs : s.ui.screen.view < s.ui.views.length) : t.ui.screen.view < t.ui.views.length := by
  obtain ⟨y, hy, -⟩ := h.views _ _ (List.getElem?_eq_getElem hs)
  rw [hview]
  exact (List.getElem?_eq_some_iff.1 hy).1

/-! Showing a response -/

theorem dropQueuedImages_leads (s : Session Ui) :
    Leads dropQueuedImages s fun _ t => ∃ l j, t = { s with loader := l, journal := j } := by
  cases hl : s.loader with
  | none =>
    exact ⟨⟨⟩, s, exec_dropQueuedImages_of_none hl, s.loader, s.journal, rfl⟩
  | some l =>
    obtain ⟨j, hj⟩ := exec_dropQueuedImages hl
    exact ⟨⟨⟩, _, hj, _, j, rfl⟩

/-- A response has been shown: it is the response of the screen, and what it was rendered to is what the
screen owns views for. -/
structure Replaced (response : Response) (out : List Renderable) (s t : Session Ui) : Prop where
  view : t.ui.screen.view = s.ui.screen.view
  response : t.ui.screen.response = some response
  pass : t.ui.screen.pass = some s.tracker.next
  tracker : t.tracker = s.tracker.advance
  rendered : t.ui.screen.rendered = out
  regions : RegionsKept s t
  stack : ∀ x, s.ui.views[s.ui.screen.view]? = some x → Stacked s.ui.screen.view x out s t

/-- A rendering leaves what is on display as it was, whether it fails or not. -/
theorem OnDisplay.sprouts (h : OnDisplay base whole top s) {l : Option Loader} {j : Journal}
    (hsprouts : Sprouts (begun { s with loader := l, journal := j }) t) :
    OnDisplay base whole top t ∧ Lasting s t := by
  obtain ⟨new, hregions, hnew⟩ := hsprouts.regions
  refine h.sprouted ?_ ?_ ?_ ⟨new, hregions, fun r hr => (hnew r hr).1⟩
  all_goals
    rw [hsprouts.ui]
    rfl

/-- The views of the screen are replaced by views for what has been rendered. -/
theorem OnDisplay.restacked (h : OnDisplay base whole top s)
    (hx : s.ui.views[s.ui.screen.view]? = some x)
    (hwhole : whole s.ui.screen.view → x.renderable = none) {rs : List Renderable}
    (hrs : ∀ n ∈ cardRegions rs, n < s.regions.length) :
    Leads (replaceViews rs) s fun _ t => OnDisplay base whole top t ∧ Lasting s t ∧ ViewsOnly s t ∧
      ResponseKept s t ∧ Stacked s.ui.screen.view x rs s t := by
  obtain ⟨path, hs, hbase⟩ := h.settled
  have hkeeps : Keeps (fun s t => ViewsOnly s t ∧ ResponseKept s t) (replaceViews rs) :=
    fun s => ⟨keeps_replaceViews rs s, keeps_replaceViews rs s⟩
  refine ((replaceViews_leads hs h.standing hx hwhole hrs).and_keeps hkeeps).mono ?_
  rintro _ t ⟨⟨path', ht, hgrown, hstanding, hlasting, hstacked⟩, hviews, hkept⟩
  exact ⟨h.of_grown hbase ht hgrown hstanding (hlasting.screen hkept.view h.screen), hlasting, hviews,
    hkept, hstacked⟩

/-- A rendering that fails leaves everything on display as it was; otherwise the response is shown. -/
theorem OnDisplay.response (h : OnDisplay base whole top s)
    (hwhole : ∀ x, s.ui.views[s.ui.screen.view]? = some x → whole s.ui.screen.view →
      x.renderable = none) (response : Response) :
    ∃ r t, exec (showResponse response) s = (r, t) ∧ OnDisplay base whole top t ∧ Lasting s t ∧
      (∃ v w : Session Ui, v.telemetry = s.telemetry ∧
        exec (s.ui.screen.renderer.render response.components (some s.tracker.next)) v = (r, w)) ∧
      t.ui.screen.renderer = s.ui.screen.renderer ∧
      t.telemetry.readings ⊆ s.telemetry.readings ∧
      (∀ e, r = .error e → t.ui.views = s.ui.views ∧ t.ui.screen.view = s.ui.screen.view ∧
        t.tracker = s.tracker.advance ∧ t.ui.screen.pass = some s.tracker.next) ∧
      (∀ out, r = .ok out → Replaced response out s t) := by
  obtain ⟨⟨⟩, u, hdrop, l, j, rfl⟩ := dropQueuedImages_leads s
  let b : Session Ui := begun { s with loader := l, journal := j }
  have hbears := Renderer.render_bears (υ := Ui) s.ui.screen.renderer response.components
    (some s.tracker.next)
  have hsprouts := hbears.keeps b
  rcases hrender : exec (s.ui.screen.renderer.render response.components (some s.tracker.next)) b
    with ⟨e | out, t⟩
  · rw [next, hrender] at hsprouts
    obtain ⟨hdisplay, hlasting⟩ := h.sprouts hsprouts
    have hui : t.ui = b.ui := hsprouts.ui
    refine ⟨.error e, t, exec_showResponse_error hdrop hrender, hdisplay, hlasting,
      ⟨b, t, rfl, hrender⟩, ?_, hsprouts.readings, fun _ _ => ⟨?_, ?_, hsprouts.tracker, ?_⟩,
      fun _ hok => by cases hok⟩
    all_goals
      rw [hui]
      rfl
  · have hmade := hbears.made b out t hrender
    rw [next, hrender] at hsprouts
    obtain ⟨hdisplay, hlasting⟩ := h.sprouts hsprouts
    let s₁ : Session Ui := t.rendered response out
    have ht : t.ui = b.ui := hsprouts.ui
    have hui : s₁.ui = { s.ui with screen := { s.ui.screen with
        pass := some s.tracker.next, rendered := out, response := some response } } := by
      simp only [s₁, Session.rendered, ht]
      rfl
    obtain ⟨x, hx⟩ : ∃ x, s.ui.views[s.ui.screen.view]? = some x :=
      ⟨_, List.getElem?_eq_getElem h.screen⟩
    have hdisplay₁ : OnDisplay base whole top s₁ := hdisplay.aside rfl rfl rfl rfl rfl
    have hstill₁ : Still t s₁ := .of_widgets rfl rfl rfl rfl
    obtain ⟨⟨⟩, v, hreplace, hdisplay₂, hlasting₂, hviews, hkept, hstacked⟩ :=
      hdisplay₁.restacked (x := x) (by rw [hui]; exact hx) (by rw [hui]; exact hwhole _ hx) hmade
    let w : Session Ui :=
      { v with journal := v.journal.write (showingLine response out s.tracker.next) }
    have hdisplay₃ : OnDisplay base whole top w := hdisplay₂.aside rfl rfl rfl rfl rfl
    have hstill₃ : Still v w := .of_widgets rfl rfl rfl rfl
    have hexec := exec_showResponse_ok hdrop hrender hreplace
    have hscreen : v.ui.screen.view = s.ui.screen.view ∧
        v.ui.screen.response = some response ∧ v.ui.screen.pass = some s.tracker.next ∧
        v.ui.screen.rendered = out := by
      rw [hkept.view, hkept.response, hkept.pass, hkept.rendered, hui]
      exact ⟨rfl, rfl, rfl, rfl⟩
    refine ⟨.ok out, w, hexec, hdisplay₃,
      ((hlasting.trans hstill₁.lasting).trans hlasting₂).trans hstill₃.lasting, ⟨b, t, rfl, hrender⟩, ?_, ?_,
      fun _ he => (by cases he), fun out' hok => ?_⟩
    · rw [show w.ui = v.ui from rfl, hviews.renderer, hui]
    · rw [show w.telemetry = v.telemetry from rfl, hviews.telemetry]
      exact hsprouts.readings
    · obtain rfl := Except.ok.inj hok
      obtain ⟨hview, hresponse, hpass, hrendered⟩ := hscreen
      obtain ⟨new, hregions, -⟩ := hsprouts.regions
      refine ⟨hview, hresponse, hpass, hviews.tracker.trans hsprouts.tracker, hrendered,
        (RegionsKept.of_append hregions).trans hviews.regions, fun x' hx' => ?_⟩
      obtain rfl := Option.some.inj (hx.symm.trans hx')
      obtain ⟨cs, hcs, hnodup, hlater, hall⟩ := hstacked.view
      rw [hui] at hcs hlater
      exact ⟨cs, hcs, hnodup, hlater, forall₂_of_mem hall fun c _ r hr => hr.congr rfl⟩

end Session
end RemoteScreen
