import RemoteScreen.Proofs.Render.Dispatch
import RemoteScreen.Proofs.Session.Reports

/-! A whole rendering: what it leaves alone, and that it gives what dispatch gives. -/
namespace RemoteScreen
namespace Render

open Session

variable {υ : Type} {reg : Registry Strategy}

/-- Rendering makes regions and asks for images; it neither shows nor reports anything, and begins no
pass. -/
structure Rendering (s t : Session υ) : Prop where
  ui : t.ui = s.ui
  telemetry : t.telemetry = s.telemetry
  tracker : t.tracker = s.tracker

instance : IsPreorder (Session υ) Rendering where
  refl _ := ⟨rfl, rfl, rfl⟩
  trans _ _ _ h k := ⟨k.ui.trans h.ui, k.telemetry.trans h.telemetry, k.tracker.trans h.tracker⟩

theorem log_rendering (severity : Severity) (part message : String) :
    Keeps Rendering (log severity part message : Act υ Unit) := fun _ => ⟨rfl, rfl, rfl⟩

/-- Making a region for a card and asking for its image change regions, requests and the loader, and
nothing else. -/
theorem keeps_cardRegion {R : Session υ → Session υ → Prop} [IsPreorder (Session υ) R]
    (h : ∀ (s : Session υ) (gs : List (Region Nat)) (qs : List ImageRequest) (l : Option Loader),
      R s { s with regions := gs, requests := qs, loader := l }) (c : Context) (url : String) :
    Keeps R (cardRegion c url : Act υ Nat) := by
  have hregion (f : Session υ → List (Region Nat)) :
      Keeps R (modify fun s => { s with regions := f s } : Act υ PUnit) :=
    keeps_modify fun s => h s (f s) s.requests s.loader
  have hfail (n : Nat) : Keeps R (failRegion tellNobody n : Act υ Bool) := by
    refine keeps_bind (keeps_bind keeps_get fun _ => keeps_pure _) fun r => ?_
    split
    · exact keeps_pure _
    · refine keeps_bind (hregion _) fun _ => ?_
      exact keeps_bind (keeps_forM fun _ => keeps_pure _) fun _ => keeps_pure _
  have hnote (q : ImageRequest) : Keeps R (noteRequest q : Act υ Unit) :=
    keeps_modify fun s => h s s.regions (s.requests ++ [q]) s.loader
  have hrequest (n : Nat) : Keeps R (requestImage tellNobody n c.pass : Act υ Unit) := by
    refine keeps_bind keeps_get fun s => ?_
    split
    · exact keeps_pure _
    · refine keeps_bind (hnote _) fun _ => ?_
      split
      · exact keeps_bind (hfail n) fun _ => keeps_pure _
      · exact keeps_modify fun s => h s s.regions s.requests _
  have hask (n : Nat) : Keeps R (askForImage c.images n url c.pass : Act υ Unit) := by
    unfold askForImage
    split
    · exact keeps_pure _
    · split
      · exact keeps_fail _
      · exact hnote _
    · exact hrequest n
  have hadd : Keeps R (addRegion url : Act υ Nat) :=
    keeps_bind keeps_get fun _ => keeps_bind (hregion _) fun _ => keeps_pure _
  refine keeps_bind hadd fun n => ?_
  split
  · exact keeps_bind (hfail n) fun _ => keeps_pure _
  · exact keeps_bind (hask n) fun _ => keeps_pure _

theorem cardRegion_rendering (c : Context) (url : String) :
    Keeps Rendering (cardRegion c url : Act υ Nat) :=
  keeps_cardRegion (fun _ _ _ _ => ⟨rfl, rfl, rfl⟩) c url

/-- Whatever making a region for a card and rendering children keep, a strategy keeps. -/
theorem keeps_render {R : Session υ → Session υ → Prop} [IsPreorder (Session υ) R] {s : Strategy}
    {d : Descriptor} {c : Context} {children : Context → Act υ (List Renderable)}
    (hcard : ∀ url, Keeps R (cardRegion c url : Act υ Nat))
    (hchildren : ∀ types message, Keeps R (children (c.within types message))) :
    Keeps R (s.render d c children) := by
  unfold Strategy.render
  split
  · exact keeps_fail _
  · split
    · exact keeps_pure _
    · exact keeps_bind (hcard _) fun _ => keeps_pure _
    · exact keeps_pure _
    · exact keeps_pure _
    · exact keeps_bind (hchildren _ _) fun _ => keeps_pure _
    · exact keeps_bind (hchildren _ _) fun _ => keeps_pure _
    · exact keeps_fail _

theorem keeps_dispatchWith {R : Session υ → Session υ → Prop} [IsPreorder (Session υ) R]
    {d : Descriptor} {c : Context} {children : Context → Act υ (List Renderable)}
    (hlog : ∀ severity part message, Keeps R (log severity part message : Act υ Unit))
    (hcard : ∀ url, Keeps R (cardRegion c url : Act υ Nat))
    (hchildren : ∀ types message, Keeps R (children (c.within types message))) :
    Keeps R (dispatchWith reg d c children) := by
  unfold dispatchWith serve guarded logFallback
  split
  · refine keeps_bind (keeps_attempt (keeps_render hcard hchildren)) fun r => ?_
    split
    · exact keeps_pure _
    · exact keeps_bind (hlog _ _ _) fun _ => keeps_pure _
  · exact keeps_bind (hlog _ _ _) fun _ => keeps_render hcard hchildren

/-- Whatever writing to the log and making a region for a card keep, dispatch keeps. -/
theorem keeps_compositional {R : Session υ → Session υ → Prop} [IsPreorder (Session υ) R]
    (hlog : ∀ severity part message, Keeps R (log severity part message : Act υ Unit))
    (hcard : ∀ c url, Keeps R (cardRegion c url : Act υ Nat)) :
    Compositional (υ := υ) reg (fun _ _ m => Keeps R m) (fun _ _ m => Keeps R m) where
  node _ c _ h := keeps_dispatchWith hlog (hcard c) fun _ _ => h _
  nil _ := keeps_pure _
  cons _ _ _ _ _ hm hms := keeps_bind hm fun _ => keeps_bind hms fun _ => keeps_pure _

theorem dispatchList_rendering (reg : Registry Strategy) (ds : List Descriptor) (c : Context) :
    Keeps Rendering (dispatchList reg ds c : Act υ (List Renderable)) :=
  (keeps_compositional log_rendering cardRegion_rendering).dispatchList ds c

end Render

namespace Renderer

open Session Render

variable {υ : Type} {s : Session υ}

/-- Whatever reporting and making a region for a card keep, a rendering keeps. -/
theorem render_keeps {R : Session υ → Session υ → Prop} [IsPreorder (Session υ) R]
    (hreporting : ∀ s t, Reporting s t → R s t)
    (hcard : ∀ c url, Keeps R (cardRegion c url : Act υ Nat)) (r : Renderer)
    (ds : List Descriptor) (pass : Option Pass) : Keeps R (r.render ds pass : Act υ _) := by
  have hlog (severity : Severity) (part message : String) :
      Keeps R (log severity part message : Act υ Unit) :=
    (log_reporting severity part message).mono hreporting
  have hdispatch : Keeps R (dispatchList r.registry ds (r.context pass) : Act υ _) :=
    (keeps_compositional hlog hcard).dispatchList ds (r.context pass)
  refine keeps_bind ((channelOr_reporting _).mono hreporting) fun channel => ?_
  refine keeps_bind (keeps_timed hreporting hdispatch) fun out => ?_
  dsimp only
  split
  · refine keeps_bind ((count_reporting _ _ _ _).mono hreporting) fun _ => ?_
    exact keeps_bind (hlog _ _ _) fun _ => keeps_pure _
  · exact keeps_bind (hlog _ _ _) fun _ => keeps_pure _

/-- What dispatch gives is what a rendering gives, if it gives anything. -/
theorem render_gives (r : Renderer) {ds : List Descriptor} {pass : Option Pass}
    {P : List Renderable → Prop}
    (h : Gives (dispatchList r.registry ds (r.context pass) : Act υ (List Renderable)) P) :
    Gives (r.render ds pass : Act υ (List Renderable)) P := by
  refine gives_after fun channel => gives_bind (gives_timed h _ _ _) fun out hout => ?_
  dsimp only
  split
  · exact gives_after fun _ => gives_after fun _ => gives_pure hout
  · exact gives_after fun _ => gives_pure hout

/-- What is reported when a rendering is over and its time has been taken. -/
def closing (pass : Option Pass) (out : List Renderable) : List Notice :=
  (if unknownCount out = 0 then []
    else [.metric ⟨"render.unknown_components", Number.ofInt (unknownCount out), []⟩]) ++
  [.line ⟨.debug, partLogger "render",
    s!"Render pass={passName pass} roots={out.length} unknown={unknownCount out}"⟩]

/-- A rendering gives what dispatch gives, and what is done besides is to report it. -/
theorem exec_render_reports {r : Renderer} (hfallback : r.registry.fallback.Reliable)
    (himages : r.registry.fallback.manner = .card → r.images.Willing)
    (hpaced : s.telemetry.Paced) {ds : List Descriptor}
    (hds : Descriptor.nodesList ds < 2 ^ 1023) (pass : Option Pass) :
    ∃ n w u out v x t, exec (channelOr r.channel) s = (.ok n, w) ∧ Reporting s u ∧
      u.reported = w.reported ∧
      exec (dispatchList r.registry ds (r.context pass)) u = (.ok out, v) ∧ Reporting v t ∧
      Reports n (.metric ⟨"render.pass_ms", x, []⟩ :: closing pass out) v t ∧
      exec (r.render ds pass) s = (.ok out, t) := by
  obtain ⟨n, w, hw, -⟩ := channelOr_yields r.channel s
  have hsw : Reporting s w := by
    have h := channelOr_reporting r.channel s
    rwa [next, hw] at h
  have hyields :=
    (dispatch_compositional hfallback).dispatchList (υ := υ) ds (r.context pass) himages
  have hkept (u : Session υ) :=
    (dispatchList_rendering r.registry ds (r.context pass) u).telemetry
  obtain ⟨u, x, t, hwu, hquiet, hvt, htimed, ht⟩ :=
    exec_timed n "render.pass_ms" [] hkept (hpaced.mono hsw.readings)
  obtain ⟨out, v, hv, -, hlength⟩ := hyields u
  rw [next, hv] at hvt htimed
  rw [hv] at ht
  have hunknown : (unknownCount out : Int).natAbs < 2 ^ 1023 := by
    have hcount : unknownCount out ≤ (Renderable.walkList out).length := List.countP_le_length
    omega
  let line : Record := ⟨.debug, partLogger "render",
    s!"Render pass={passName pass} roots={out.length} unknown={unknownCount out}"⟩
  have hlog (t : Session υ) : Reporting t (next (log .debug "render" line.message) t) :=
    log_reporting _ _ _ t
  by_cases hzero : unknownCount out = 0
  · refine ⟨n, w, u, out, v, x, next (log .debug "render" line.message) t, hw,
      IsTrans.trans _ _ _ hsw hwu, hquiet, hv, IsTrans.trans _ _ _ hvt (hlog t), ?_, ?_⟩
    · rw [closing, if_pos hzero]
      exact htimed.append (Reports.line n line t)
    · simp only [render, exec_bind, hw, ht, if_neg (not_not_intro hzero), exec_pure]
      rfl
  · obtain ⟨t', ht', hcount, hreports⟩ :=
      exec_count n "render.unknown_components" hunknown [] t
    refine ⟨n, w, u, out, v, x, next (log .debug "render" line.message) t', hw,
      IsTrans.trans _ _ _ hsw hwu, hquiet, hv,
      IsTrans.trans _ _ _ hvt (IsTrans.trans _ _ _ hcount (hlog t')), ?_, ?_⟩
    · rw [closing, if_neg hzero]
      exact htimed.append (hreports.append (Reports.line n line t'))
    · simp only [render, exec_bind, hw, ht, if_pos hzero, ht', exec_pure]
      rfl

theorem exec_render_of_fallback {r : Renderer} (hfallback : r.registry.fallback.Reliable)
    (himages : r.registry.fallback.manner = .card → r.images.Willing)
    (hpaced : s.telemetry.Paced) {ds : List Descriptor}
    (hds : Descriptor.nodesList ds < 2 ^ 1023) (pass : Option Pass) :
    ∃ u out v t, Reporting s u ∧
      exec (dispatchList r.registry ds (r.context pass)) u = (.ok out, v) ∧
      Reporting v t ∧ exec (r.render ds pass) s = (.ok out, t) := by
  obtain ⟨-, -, u, out, v, -, t, -, hsu, -, hv, hvt, -, ht⟩ :=
    exec_render_reports hfallback himages hpaced hds pass
  exact ⟨u, out, v, t, hsu, hv, hvt, ht⟩

theorem exec_render {r : Renderer} (hfallback : r.registry.fallback.Reliable)
    (himages : r.images.Willing) (hpaced : s.telemetry.Paced) {ds : List Descriptor}
    (hds : Descriptor.nodesList ds < 2 ^ 1023) (pass : Option Pass) :
    ∃ u out v t, Reporting s u ∧
      exec (dispatchList r.registry ds (r.context pass)) u = (.ok out, v) ∧
      Reporting v t ∧ exec (r.render ds pass) s = (.ok out, t) :=
  exec_render_of_fallback hfallback (fun _ => himages) hpaced hds pass

end Renderer
end RemoteScreen
