import RemoteScreen.Proofs.Image.Retrieval
import RemoteScreen.Proofs.Render.Requests
import RemoteScreen.Proofs.View.Kept
import RemoteScreen.Proofs.View.Lifecycle

/-! Showing a response: queued retrievals are dropped, a new pass begins, and then every card of the
new tree has a job of its own under that pass. -/
namespace RemoteScreen
namespace Session

open Render
open Renderable (cardRegions)

variable {s t : Session Ui} {l : Loader}

/-- A renderer that asks the loader for images and whose fallback never gives up. -/
structure Sound (r : Renderer) : Prop where
  images : r.images = .loader
  fallback : r.registry.fallback.Reliable

/-! The parts of showing a response -/

@[simp] theorem exec_beginPass {υ : Type} (s : Session υ) :
    exec beginPass s = (.ok s.tracker.next, { s with tracker := s.tracker.advance }) := rfl

theorem exec_dropQueuedImages (h : s.loader = some l) :
    ∃ j, exec dropQueuedImages s =
      (.ok ⟨⟩, { s with loader := some l.cancelPending.1, journal := j }) := by
  unfold dropQueuedImages cancelPending
  rw [exec_bind, exec_withLoader h]
  by_cases hnone : l.cancelPending.2 = 0
  · exact ⟨s.journal, by simp [hnone]⟩
  · dsimp only
    rw [if_pos hnone, exec_log]
    exact ⟨_, rfl⟩

theorem exec_dropQueuedImages_of_none (h : s.loader = none) :
    exec dropQueuedImages s = (.ok ⟨⟩, s) := by
  simp [dropQueuedImages, cancelPending, withLoader, h]

/-- The screen when a rendering begins. -/
def begun (s : Session Ui) : Session Ui :=
  { s with
    tracker := s.tracker.advance
    ui := { s.ui with screen := { s.ui.screen with pass := some s.tracker.next } } }

/-- The screen when a rendering is over. -/
def rendered (s : Session Ui) (response : Response) (out : List Renderable) : Session Ui :=
  { s with
    ui := { s.ui with
      screen := { s.ui.screen with rendered := out, response := some response } } }

/-- The line about a response that is shown. -/
def showingLine (response : Response) (out : List Renderable) (pass : Pass) : Record :=
  ⟨.info, partLogger "screen",
    s!"Showing {out.length} components (source={response.source}, pass={pass.version})"⟩

/-- Nothing is done after a rendering that fails. -/
theorem exec_showResponse_error {u : Session Ui} {response : Response} {e : Failure}
    (hdrop : exec dropQueuedImages s = (.ok ⟨⟩, u))
    (hrender : exec (u.ui.screen.renderer.render response.components (some u.tracker.next))
      u.begun = (.error e, t)) : exec (showResponse response) s = (.error e, t) := by
  simp only [begun] at hrender
  simp only [showResponse, exec_bind, hdrop, exec_beginPass, exec_updateUi, exec_theUi,
    Renderer.renderResponse, hrender]

/-- After a rendering the views of the screen are replaced. -/
theorem exec_showResponse_ok {u v : Session Ui} {response : Response} {out : List Renderable}
    (hdrop : exec dropQueuedImages s = (.ok ⟨⟩, u))
    (hrender : exec (u.ui.screen.renderer.render response.components (some u.tracker.next))
      u.begun = (.ok out, t))
    (hreplace : exec (replaceViews out) (t.rendered response out) = (.ok ⟨⟩, v)) :
    exec (showResponse response) s = (.ok out, { v with
      journal := v.journal.write (showingLine response out u.tracker.next) }) := by
  simp only [begun] at hrender
  simp only [rendered] at hreplace
  simp only [showResponse, exec_bind, hdrop, exec_beginPass, exec_updateUi, exec_theUi,
    Renderer.renderResponse, hrender, hreplace]
  rfl

/-- What is left when the rendering is over concerns views. -/
theorem next_showResponse {R : Session Ui → Session Ui → Prop} [ViewChanges R] {u : Session Ui}
    {response : Response} {out : List Renderable}
    (hdrop : exec dropQueuedImages s = (.ok ⟨⟩, u))
    (hrender : exec (u.ui.screen.renderer.render response.components (some u.tracker.next))
      u.begun = (.ok out, t)) : R (t.rendered response out) (next (showResponse response) s) := by
  have hrest : Keeps R (do
      replaceViews out
      log .info "screen"
        s!"Showing {out.length} components (source={response.source}, pass={u.tracker.next.version})"
      pure out : Act Ui (List Renderable)) :=
    keeps_bind (keeps_replaceViews _) fun _ => keeps_bind (WidgetChanges.log _ _ _) fun _ =>
      keeps_pure _
  have hkept := hrest (t.rendered response out)
  simp only [begun] at hrender
  simp only [next, showResponse, exec_bind, hdrop, exec_beginPass, exec_updateUi, exec_theUi,
    Renderer.renderResponse, hrender] at hkept ⊢
  exact hkept

/-- Showing a response changes what concerns images and the screen, renders, and changes views. -/
theorem keeps_showResponse {R : Session Ui → Session Ui → Prop} [ViewChanges R]
    (hdrop : Keeps R dropQueuedImages) (hbegin : Keeps R (beginPass : Act Ui Pass))
    (hscreen : ∀ f : Screen → Screen, Keeps R (updateUi fun u => { u with screen := f u.screen }))
    (hrender : ∀ (r : Renderer) (ds : List Descriptor) (pass : Option Pass),
      Keeps R (r.render ds pass : Act Ui (List Renderable))) (response : Response) :
    Keeps R (showResponse response) := by
  refine keeps_bind hdrop fun _ => ?_
  refine keeps_bind hbegin fun pass => ?_
  refine keeps_bind (hscreen fun x => { x with pass := some pass }) fun _ => ?_
  refine keeps_bind keeps_theUi fun u => ?_
  refine keeps_bind (hrender _ _ _) fun rendered => ?_
  refine keeps_bind (hscreen fun x => { x with rendered, response := some response }) fun _ => ?_
  refine keeps_bind (keeps_replaceViews _) fun _ => ?_
  exact keeps_bind (WidgetChanges.log _ _ _) fun _ => keeps_pure _

/-- With any loader, or none, a response is rendered in a pass of its own and becomes the response
of the screen, and what is left concerns views. -/
theorem showResponse_renders {R : Session Ui → Session Ui → Prop} [ViewChanges R]
    (hsound : Sound s.ui.screen.renderer) (hpaced : s.telemetry.Paced) {response : Response}
    (hsize : Descriptor.nodesList response.components < 2 ^ 1023) :
    ∃ out u, u.ui = { s.ui with screen := { s.ui.screen with
        pass := some s.tracker.next, rendered := out, response := some response } } ∧
      u.tracker = s.tracker.advance ∧ u.telemetry.readings ⊆ s.telemetry.readings ∧
      R u (next (showResponse response) s) := by
  have hdrop : ∃ L j, exec dropQueuedImages s = (.ok ⟨⟩, { s with loader := L, journal := j }) := by
    cases hl : s.loader with
    | none => exact ⟨none, s.journal, by rw [exec_dropQueuedImages_of_none hl, ← hl]⟩
    | some l =>
      obtain ⟨j, hj⟩ := exec_dropQueuedImages hl
      exact ⟨_, j, hj⟩
  obtain ⟨L, j, hdrop⟩ := hdrop
  have himages : s.ui.screen.renderer.images.Willing := by
    rw [hsound.images]
    trivial
  let b : Session Ui := begun { s with loader := L, journal := j }
  obtain ⟨u, out, v, t, hbu, hout, hvt, hrender⟩ := Renderer.exec_render (s := b)
    hsound.fallback himages hpaced hsize (some s.tracker.next)
  have hrendering := dispatchList_rendering (υ := Ui) s.ui.screen.renderer.registry
    response.components (s.ui.screen.renderer.context (some s.tracker.next)) u
  rw [next, hout] at hrendering
  obtain ⟨⟨j₁, τ₁, rfl⟩, hread₁⟩ := hbu
  obtain ⟨⟨j₂, τ₂, rfl⟩, hread₂⟩ := hvt
  refine ⟨out, ({ v with journal := j₂, telemetry := τ₂ } : Session Ui).rendered response out, ?_,
    hrendering.tracker, ?_, next_showResponse hdrop hrender⟩
  · have hui : v.ui = b.ui := hrendering.ui
    simp only [rendered, hui]
    rfl
  · refine List.Subset.trans hread₂ ?_
    rw [hrendering.telemetry]
    exact hread₁

/-- What a screen is like when a response has been shown in place of another one: its cards have
regions that were not there before, and those that have a URL have a queued job. -/
structure Shown (s t : Session Ui) : Prop where
  order : ∃ m, Orderly t m ∧ m.closed = false
  length : s.regions.length ≤ t.regions.length
  readings : t.telemetry.readings ⊆ s.telemetry.readings
  renderer : t.ui.screen.renderer = s.ui.screen.renderer
  cards : ∀ n ∈ cardRegions t.ui.screen.rendered, New s.regions.length t.tracker.current n t

theorem showResponse_shown (h : Orderly s l) (hopen : l.closed = false)
    (hsound : Sound s.ui.screen.renderer) (hpaced : s.telemetry.Paced) {response : Response}
    (hsize : Descriptor.nodesList response.components < 2 ^ 1023) :
    Shown s (next (showResponse response) s) := by
  obtain ⟨j, hdrop⟩ := exec_dropQueuedImages h.loader
  have himages : s.ui.screen.renderer.images.Willing := by
    rw [hsound.images]
    trivial
  let b : Session Ui := begun { s with loader := some l.cancelPending.1, journal := j }
  obtain ⟨u, out, v, t, hu, hout, hv, hrender⟩ := Renderer.exec_render (s := b)
    hsound.fallback himages hpaced hsize (some s.tracker.next)
  have hviews : ViewsOnly _ _ := next_showResponse hdrop hrender
  have hcancel : Orderly { s with loader := some l.cancelPending.1 } l.cancelPending.1 :=
    h.cancelEach l.pending
  have hbegun : Orderly b l.cancelPending.1 := hcancel.congr rfl rfl (.of_regions rfl)
  have hopen' : l.cancelPending.1.closed = false := by
    obtain ⟨js, p, hm⟩ := l.cancelEach_eq l.pending
    rw [Loader.cancelPending, hm]
    exact hopen
  obtain ⟨⟨j₁, τ₁, rfl⟩, hread₁⟩ := hu
  obtain ⟨⟨j₂, τ₂, rfl⟩, hread₂⟩ := hv
  have hserves := dispatchList_serves (υ := Ui) s.ui.screen.renderer.registry response.components
    (c := s.ui.screen.renderer.context (some s.tracker.next)) hsound.images
  have hbegan : Orderly { b with journal := j₁, telemetry := τ₁ } l.cancelPending.1 :=
    hbegun.congr rfl rfl (.of_regions rfl)
  have hrequesting := hserves.keeps { b with journal := j₁, telemetry := τ₁ }
  rw [next, hout] at hrequesting
  obtain ⟨m, hm, hmopen, -, hregions⟩ := hrequesting.order _ hbegan hopen'
  have hdone : Orderly
      (({ v with journal := j₂, telemetry := τ₂ } : Session Ui).rendered response out) m :=
    hm.congr rfl rfl (.of_regions rfl)
  refine ⟨⟨m, hdone.imagesKept hviews.toImagesKept, hmopen⟩, ?_, ?_, ?_, ?_⟩
  · exact Nat.le_trans hregions.length_le hviews.regions.length_le
  · rw [hviews.telemetry]
    refine List.Subset.trans hread₂ ?_
    rw [hrequesting.telemetry]
    exact hread₁
  · rw [hviews.renderer]
    have hui := congrArg (fun u : Ui => u.screen.renderer) hrequesting.ui
    exact hui
  · intro n hn
    rw [hviews.rendered] at hn
    obtain ⟨hfresh, hserved⟩ := hserves.serves _ _ hbegan hopen' out v hout n hn
    refine ⟨hfresh, ?_⟩
    have htracker : (next (showResponse response) s).tracker.current = some s.tracker.next := by
      rw [hviews.tracker]
      exact congrArg PassTracker.current hrequesting.tracker
    rw [htracker]
    exact hserved.kept hviews.loader hviews.regions

end Session
end RemoteScreen
