import RemoteScreen.Proofs.Image.Staleness
import RemoteScreen.Proofs.Image.Tended
import RemoteScreen.Proofs.View.Screen

/-! Delivery: while responses are shown one after the other and workers and drains go on in any
order, the image of each card on screen is on its way, or has come. -/
namespace RemoteScreen
namespace Session

open Render
open Renderable (cardRegions)

variable {s t : Session Ui} {n : Nat} {fs : List Fetched}

/-! Runs of a screen -/

inductive ScreenStep where
  | response (response : Response)
  | pool (w : PoolStep)
  /-- One round of a drain; workers may go on before the next round. -/
  | take
  | drain
  /-- Anything done to views: mounting the screen, turning pages, looking again later. -/
  | views (m : Act Ui Unit) (h : Keeps ViewsOnly m)

def ScreenStep.act : ScreenStep → Act Ui Unit
  | .response r => do
    let _ ← showResponse r
    pure ()
  | .pool w => w.act
  | .take => do
    let _ ← drainOne tellView
    pure ()
  | .drain => do
    let _ ← drainImages
    pure ()
  | .views m _ => m

/-- The screen after some steps. A step that fails keeps what it did before. -/
def runScreen (s : Session Ui) (steps : List ScreenStep) : Session Ui :=
  steps.foldl (fun s step => next step.act s) s

def ScreenStep.fetched (s : Session Ui) : ScreenStep → List Fetched
  | .pool w => (w.fetched? s).toList
  | _ => []

/-- The retrievals that come to an end in a run, in order. -/
def fetches (s : Session Ui) : List ScreenStep → List Fetched
  | [] => []
  | step :: steps => step.fetched s ++ fetches (next step.act s) steps

/-! The whole screen -/

/-- Every card on screen that has a URL is tended to, and the next response can be shown. -/
structure Tending (fs : List Fetched) (s : Session Ui) : Prop where
  order : ∃ l, Orderly s l ∧ l.closed = false
  sound : Sound s.ui.screen.renderer
  paced : s.telemetry.Paced
  known : ∀ f ∈ fs, f.region < s.regions.length
  cards : ∀ n ∈ cardRegions s.ui.screen.rendered,
    ∃ r, s.regions[n]? = some r ∧ (r.url ≠ "" → Tended fs n s)

theorem known_of_url_eq (h : ∀ (n : Nat) (r : Region Nat), s.regions[n]? = some r →
    ∃ r', t.regions[n]? = some r' ∧ r'.url = r.url) (hn : n < s.regions.length) :
    n < t.regions.length := by
  obtain ⟨r', hr', -⟩ := h n _ (List.getElem?_eq_getElem hn)
  exact (List.getElem?_eq_some_iff.1 hr').1

/-- A step that leaves the tree on screen as it is. -/
theorem Tending.carry {gs : List Fetched} (h : Tending fs s) (k : ScreenKept s t)
    (order : ∃ l, Orderly t l ∧ l.closed = false)
    (regions : ∀ (n : Nat) (r : Region Nat), s.regions[n]? = some r →
      ∃ r', t.regions[n]? = some r' ∧ r'.url = r.url)
    (known : ∀ g ∈ gs, g.region < s.regions.length)
    (tended : ∀ n, Tended fs n s → Tended (fs ++ gs) n t) : Tending (fs ++ gs) t where
  order := order
  sound := by
    rw [k.renderer]
    exact h.sound
  paced := by
    rw [k.telemetry]
    exact h.paced
  known := by
    intro f hf
    refine known_of_url_eq regions ?_
    rcases List.mem_append.1 hf with hf | hf
    · exact h.known f hf
    · exact known f hf
  cards := by
    intro n hn
    rw [k.rendered] at hn
    obtain ⟨r, hr, htended⟩ := h.cards n hn
    obtain ⟨r', hr', hurl⟩ := regions n r hr
    exact ⟨r', hr', fun hne => tended n (htended (hurl ▸ hne))⟩

theorem Tending.viewsOnly (h : Tending fs s) (k : ViewsOnly s t) : Tending (fs ++ []) t := by
  obtain ⟨l, horder, hopen⟩ := h.order
  refine h.carry k.toScreenKept ⟨l, horder.imagesKept k.toImagesKept, hopen⟩ ?_ (by simp) ?_
  · intro n r hr
    obtain ⟨ls, ht⟩ := k.regions n r hr
    exact ⟨_, ht, rfl⟩
  · intro n htended
    rw [List.append_nil]
    exact htended.imagesKept k.toImagesKept

theorem Tending.pool (h : Tending fs s) (w : PoolStep) :
    Tending (fs ++ (w.fetched? s).toList) (next w.act s) := by
  obtain ⟨l, horder, hopen⟩ := h.order
  obtain ⟨m, hm⟩ := horder.pool w
  obtain ⟨m', hnext, hclosed, -⟩ := w.next_eq horder.loader
  have hloader := hm.loader
  rw [hnext] at hloader
  obtain rfl := Option.some.inj hloader
  have hkept : ScreenKept s (next w.act s) := by
    rw [hnext]
    exact ⟨rfl, rfl, rfl⟩
  refine h.carry hkept ⟨_, hm, hclosed.trans hopen⟩ ?_ ?_ fun n htended => htended.pool w
  · intro n r hr
    rw [hnext]
    exact ⟨r, hr, rfl⟩
  · exact fun f hf => w.fetched?_known (Option.mem_toList.1 hf)

/-! Draining the whole screen -/

/-- What a drain keeps: the tree on screen, the order of retrieval, and what is due. -/
structure DrainKept (s t : Session Ui) : Prop where
  screen : ScreenKept s t
  drained : DrainedInOrder s t
  due : ∀ c, Stays (Due c) s t

instance : IsPreorder (Session Ui) DrainKept where
  refl s := ⟨Std.Refl.refl s, Std.Refl.refl s, fun _ => id⟩
  trans s t u h k := ⟨IsTrans.trans s t u h.screen k.screen,
    IsTrans.trans s t u h.drained k.drained, fun c => k.due c ∘ h.due c⟩

theorem tellView_imagesKept (n l : Nat) : Keeps ImagesKept (tellView n l) :=
  Keeps.mono (R := ViewsOnly) (keeps_showImage n l) fun _ _ h => h.toImagesKept

theorem tellView_screenKept (n l : Nat) : Keeps ScreenKept (tellView n l) :=
  Keeps.mono (R := ViewsOnly) (keeps_showImage n l) fun _ _ h => h.toScreenKept

theorem drainOne_screenKept : Keeps ScreenKept (drainOne tellView) :=
  keeps_drainOne tellView_screenKept (fun _ _ _ => ⟨rfl, rfl, rfl⟩) (fun _ _ => ⟨rfl, rfl, rfl⟩)
    fun _ _ _ _ => ⟨rfl, rfl, rfl⟩

theorem drainOne_drainKept : Keeps DrainKept (drainOne tellView) := fun s =>
  ⟨drainOne_screenKept s, drainOne_drained tellView_imagesKept s,
    fun _ => drainOne_due tellView_imagesKept s⟩

theorem Tending.drainKept (h : Tending fs s) (k : DrainKept s t) : Tending (fs ++ []) t := by
  obtain ⟨l, horder, hopen⟩ := h.order
  obtain ⟨⟨m, hm⟩, hdrained⟩ := k.drained l horder
  refine h.carry k.screen ?_ ?_ (by simp) ?_
  · obtain ⟨cs, ht, -⟩ := hdrained.loader l horder.loader
    obtain rfl := Option.some.inj (ht.symm.trans hm.loader)
    exact ⟨_, hm, hopen⟩
  · intro n r hr
    obtain ⟨r', hr', hurl, -⟩ := hdrained.regions n r hr
    exact ⟨r', hr', hurl⟩
  · intro n htended
    rw [List.append_nil]
    exact htended.drained ⟨m, hm⟩ hdrained k.due

/-! Another response -/

theorem fetchesOf_known {k : Nat} (h : ∀ f ∈ fs, f.region < k) (hn : k ≤ n) :
    fetchesOf n fs = [] := by
  refine List.filter_eq_nil_iff.2 fun f hf => ?_
  have hlt := Nat.lt_of_lt_of_le (h f hf) hn
  simpa using Nat.ne_of_lt hlt

/-- The cards of a response that has just been shown. -/
theorem Shown.tended (h : Shown s t) (hknown : ∀ f ∈ fs, f.region < s.regions.length)
    (hn : n ∈ cardRegions t.ui.screen.rendered) :
    ∃ r, t.regions[n]? = some r ∧ (r.url ≠ "" → Tended fs n t) := by
  obtain ⟨hfresh, l, r, hl, hr, hserved⟩ := h.cards n hn
  obtain ⟨m, hm, -⟩ := h.order
  obtain rfl := Option.some.inj (hl.symm.trans hm.loader)
  refine ⟨r, hr, fun hne => ?_⟩
  rcases hserved with hurl | ⟨j, hj, hregion, hpass, hqueued⟩
  · exact absurd hurl hne
  · have hcurrent : t.tracker.isCurrent j.pass = true := by
      rw [hpass]
      exact PassTracker.isCurrent_iff.2 fun _ h => h
    exact .awaited ⟨hm, hj, hregion, hcurrent, hr⟩ (.inl hqueued) (fetchesOf_known hknown hfresh)

theorem Tending.response (h : Tending fs s) {response : Response}
    (hsize : Descriptor.nodesList response.components < 2 ^ 1023) :
    Tending (fs ++ []) (next (showResponse response) s) := by
  obtain ⟨l, horder, hopen⟩ := h.order
  have hshown := showResponse_shown horder hopen h.sound h.paced hsize
  rw [List.append_nil]
  refine ⟨hshown.order, hshown.renderer ▸ h.sound, h.paced.mono hshown.readings, ?_, ?_⟩
  · exact fun f hf => Nat.lt_of_lt_of_le (h.known f hf) hshown.length
  · exact fun n hn => hshown.tended h.known hn

/-! Runs -/

/-- The nodes of a response that is shown are so few that their number counts as a float. -/
def ScreenStep.Fits : ScreenStep → Prop
  | .response r => Descriptor.nodesList r.components < 2 ^ 1023
  | _ => True

theorem Tending.step (h : Tending fs s) {step : ScreenStep} (hfits : step.Fits) :
    Tending (fs ++ step.fetched s) (next step.act s) := by
  cases step with
  | response r =>
    rw [ScreenStep.act, next_discard]
    exact h.response hfits
  | pool w => exact h.pool w
  | take =>
    rw [ScreenStep.act, next_discard]
    exact h.drainKept (drainOne_drainKept s)
  | drain =>
    rw [ScreenStep.act, next_discard]
    exact h.drainKept (keeps_drain drainOne_drainKept s)
  | views m hm => exact h.viewsOnly (hm s)

theorem Tending.run {steps : List ScreenStep} (h : Tending fs s)
    (hfits : ∀ step ∈ steps, step.Fits) :
    Tending (fs ++ fetches s steps) (runScreen s steps) := by
  induction steps generalizing s fs with
  | nil => simpa [fetches, runScreen] using h
  | cons step steps ih =>
    have hstep := h.step (hfits step List.mem_cons_self)
    have hrun := ih hstep fun other hmem => hfits other (List.mem_cons_of_mem _ hmem)
    rw [List.append_assoc] at hrun
    exact hrun

/-- A screen that has shown nothing yet, on an open and idle loader of its own. -/
structure Onset (s : Session Ui) : Prop extends Outset s where
  rendered : s.ui.screen.rendered = []
  sound : Sound s.ui.screen.renderer
  paced : s.telemetry.Paced

theorem Onset.tending (h : Onset s) : Tending [] s where
  order := by
    obtain ⟨l, hl, -, hopen, -⟩ := h.loader
    obtain ⟨m, hm⟩ := h.underway.order
    obtain rfl := Option.some.inj (hl.symm.trans hm.loader)
    exact ⟨l, hm, hopen⟩
  sound := h.sound
  paced := h.paced
  known := fun f hf => absurd hf List.not_mem_nil
  cards := by
    intro n hn
    rw [h.rendered] at hn
    exact absurd hn List.not_mem_nil

/-- No image of the tree on screen is lost. Whatever responses have been shown, and however workers
and drains have gone on in between, the retrieval for a card on screen that has a URL is at exactly
one stage, it is never cancelled, and where everything is quiet it has come about exactly once, for
the URL of the card, and the card shows what came. -/
theorem no_image_lost {s₀ : Session Ui} (h₀ : Onset s₀) (steps : List ScreenStep)
    (hfits : ∀ step ∈ steps, step.Fits) {n : Nat}
    (hn : n ∈ cardRegions (runScreen s₀ steps).ui.screen.rendered) :
    ∃ r, (runScreen s₀ steps).regions[n]? = some r ∧ (r.url ≠ "" →
      (∃! stage, At n (runScreen s₀ steps) stage) ∧
      (∀ l j, (runScreen s₀ steps).loader = some l → j ∈ l.jobs → j.region = n →
        j.state ≠ .cancelled) ∧
      (Quiet (runScreen s₀ steps) →
        ∃ o, fetchesOf n (fetches s₀ steps) = [⟨n, r.url, o⟩] ∧ r.Shows o)) := by
  have hrun := h₀.tending.run hfits
  rw [List.nil_append] at hrun
  obtain ⟨r, hr, htended⟩ := hrun.cards n hn
  refine ⟨r, hr, fun hurl => ?_⟩
  have h := htended hurl
  refine ⟨h.stage, ?_, ?_⟩
  · exact fun l j hl hj hregion => h.not_cancelled hl hj hregion
  · exact fun hquiet => h.shows_of_quiet hquiet hr

/-- A screen that has shown nothing yet, with one worker. -/
def blank : Session Ui :=
  { loader := some { retrieve := fun _ => .ok .null, workers := 1, currency := .tracked }
    ui := { screen := { renderer := { images := .loader } } } }

def cardResponse (name : String) : Response :=
  { components := [⟨name, "planetCard", [("imageUrl", name)], none⟩] }

/-- The second response comes while the image of the first is on its way. -/
def overtaking : List ScreenStep :=
  [.response (cardResponse "mars"), .pool .start, .response (cardResponse "venus"),
    .pool (.finish 0 fun _ => .ok .null), .pool .start, .drain,
    .pool (.finish 0 fun _ => .error "gone"), .drain]

theorem no_image_lost_overtaking :
    Onset blank ∧ (∀ step ∈ overtaking, step.Fits) ∧
      1 ∈ cardRegions (runScreen blank overtaking).ui.screen.rendered ∧
      ∃ r o, (runScreen blank overtaking).regions[1]? = some r ∧ r.url = "venus" ∧
        fetchesOf 1 (fetches blank overtaking) = [⟨1, "venus", o⟩] ∧ r.Shows o := by
  have honset : Onset blank :=
    ⟨⟨rfl, rfl, _, rfl, rfl, rfl, rfl, rfl⟩, rfl, ⟨rfl, Strategy.placeholder_reliable⟩,
      Telemetry.paced_of_clock_nil rfl⟩
  have hfits : ∀ step ∈ overtaking, step.Fits := by
    have hone : 1 < 2 ^ 1023 := Nat.one_lt_two_pow (n := 1023) (Nat.succ_ne_zero 1022)
    simp [overtaking, ScreenStep.Fits, cardResponse, Descriptor.nodesList, Descriptor.nodes,
      Descriptor.nodesChildren, hone]
  have hcard : 1 ∈ cardRegions (runScreen blank overtaking).ui.screen.rendered := by
    decide +kernel
  obtain ⟨r, hr, h⟩ := no_image_lost honset overtaking hfits hcard
  have hurl : (runScreen blank overtaking).regions[1]?.map Region.url = some "venus" := by
    decide +kernel
  rw [hr] at hurl
  have hvenus : r.url = "venus" := Option.some.inj hurl
  have hquiet : Quiet (runScreen blank overtaking) := by decide +kernel
  obtain ⟨o, hfetched, hshows⟩ := (h (by simp [hvenus])).2.2 hquiet
  rw [hvenus] at hfetched
  exact ⟨honset, hfits, hcard, r, o, hr, hvenus, hfetched, hshows⟩

end Session
end RemoteScreen
