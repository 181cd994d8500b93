import RemoteScreen.Proofs.Window.Fetching

/-! Reloading: fetches of a window go one at a time. A reload, the worker of a fetch and the alarm
that looks for its result may come in any order, with anything beside them, and no result is lost. -/
namespace RemoteScreen
namespace Session

variable {s t : Session Ui} {es : List FetchEvent} {issued : Nat} {g : Flight}

/-! Runs of a window -/

/-- What may come next in an open window. -/
inductive WindowStep where
  | reload
  | worker
  | alarm (n : Nat)
  /-- Anything that goes on beside the fetches. -/
  | aside (m : Act Ui Unit) (h : Keeps Aside m)

namespace WindowStep

def act : WindowStep → Act Ui Unit
  | reload => Session.reload
  | worker => do
    let _ ← runWorker
    pure ()
  | alarm n => goOff n
  | aside m _ => m

def events (s : Session Ui) (step : WindowStep) : List FetchEvent :=
  fetchEvents s.ui.application (next step.act s).ui.application

/-- A fetch gives a result, with so few nodes that their number counts as a float. -/
def Returns (s : Session Ui) : WindowStep → Prop
  | worker => ∃ ran t, exec runWorker s = (.ok ran, t) ∧
      ∀ r ∈ t.ui.application.results, Descriptor.nodesList r.response.components < 2 ^ 1023
  | _ => True

end WindowStep

/-- The window after some steps. A step that fails keeps what it did before. -/
def runWindow (s : Session Ui) (steps : List WindowStep) : Session Ui :=
  steps.foldl (fun s step => next step.act s) s

/-- What happens to fetches in a run. -/
def windowEvents (s : Session Ui) : List WindowStep → List FetchEvent
  | [] => []
  | step :: steps => step.events s ++ windowEvents (next step.act s) steps

/-- Every fetch of a run gives a result. -/
def Returning (s : Session Ui) : List WindowStep → Prop
  | [] => True
  | step :: steps => step.Returns s ∧ Returning (next step.act s) steps

theorem Fetching.step (h : Fetching issued es g s) {step : WindowStep} (hreturns : step.Returns s) :
    ∃ g', Fetching issued (es ++ step.events s) g' (next step.act s) := by
  cases step with
  | reload => exact h.reload
  | worker =>
    obtain ⟨ran, t, hran, hfits⟩ := hreturns
    have hnext : next WindowStep.worker.act s = t := by
      rw [WindowStep.act, next_discard, next, hran]
    rw [WindowStep.events, hnext]
    exact h.worker hran hfits
  | alarm n => exact h.alarm n
  | aside m hm => exact h.stay (h.aside (hm s))

theorem Fetching.run {steps : List WindowStep} (h : Fetching issued es g s)
    (hreturning : Returning s steps) :
    ∃ g', Fetching issued (es ++ windowEvents s steps) g' (runWindow s steps) := by
  induction steps generalizing s es g with
  | nil => exact ⟨g, by simpa [windowEvents, runWindow] using h⟩
  | cons step steps ih =>
    obtain ⟨g', hstep⟩ := h.step hreturning.1
    obtain ⟨g'', hrun⟩ := ih hstep hreturning.2
    rw [List.append_assoc] at hrun
    exact ⟨g'', hrun⟩

/-- At most one fetch is under way, and no result of those that `es` tells of is lost. -/
structure SingleFlight (issued : Nat) (es : List FetchEvent) (s : Session Ui) : Prop where
  /-- While the window is loading, one worker is running or one result is in the queue, and
  otherwise there is neither. -/
  outstanding : s.ui.application.workers + s.ui.application.results.length =
    s.ui.application.loading.toNat
  /-- While the window is loading, one alarm looks for the result. -/
  timers : (collecting s.ui.kit).length = s.ui.application.loading.toNat
  busy : s.ui.application.loading = true → exec reload s = (.ok ⟨⟩, s)
  free : s.ui.application.loading = false → ∃ t, exec reload s = (.ok ⟨⟩, t) ∧
    t.ui.application = { s.ui.application with
      loading := true, workers := s.ui.application.workers + 1 } ∧
    Reported none [.event ⟨"app.reload", []⟩] s t
  /-- The alarm for a result applies what is in the queue. -/
  firing : ∀ n a, s.ui.kit.alarms[n]? = some a → a.command = .collect →
    fetchEvents s.ui.application (next (goOff n) s).ui.application =
      s.ui.application.results.map .applied
  course : ∃ g, Course es g
  /-- What has been put has been applied in the same order, but for what is in the queue. -/
  kept : putResults es = appliedResults es ++ s.ui.application.results
  shows : Shows issued (appliedResults es) s

theorem Fetching.singleFlight (h : Fetching issued es g s) : SingleFlight issued es s where
  outstanding := by
    rw [h.workers, h.results, h.loading]
    cases g <;> rfl
  timers := h.collecting.trans (congrArg Bool.toNat h.loading.symm)
  busy := exec_reload_of_loading
  free hloading := by
    obtain ⟨j, τ, hreload, -, hreported⟩ := exec_reload_of_not_loading hloading h.tidy.stands
    exact ⟨s.launched j τ, hreload, rfl, hreported⟩
  firing n a ha hcollect := by
    rw [h.results]
    cases g with
    | idle => exact absurd hcollect (h.not_collect (List.mem_of_getElem? ha))
    | away => exact h.events_eq (h.waiting ha hcollect)
    | back r => exact h.events_eq (h.landed ha hcollect)
  course := ⟨g, h.course⟩
  kept := h.results ▸ h.course.putResults_eq
  shows := h.shows

/-- Reloading is single-flight and loses no result, from the opening of a window on and in whatever
order reloads, workers, alarms and everything beside them come. -/
theorem runWindow_singleFlight (hblank : Blank s.ui) (hpaced : s.telemetry.Paced) {o : Opening}
    (hopened : exec (openApplication o) s = (.ok ⟨⟩, t)) {steps : List WindowStep}
    (hreturning : Returning t steps) :
    SingleFlight t.tracker.issued (windowEvents t steps) (runWindow t steps) := by
  obtain ⟨hunfetched, hsound⟩ := openApplication_unfetched hblank hpaced hopened
  obtain ⟨g, hrun⟩ := (hunfetched.fetching hsound).run hreturning
  exact hrun.singleFlight

/-- A window whose endpoint is no URL, so that each fetch gives the fallback. -/
def astray : Opening :=
  { fetcher := some { endpoint := "http://[" }
    loader := some { retrieve := fun _ => .ok .null, workers := 1, currency := .tracked } }

/-- Reloads while the worker is running and while its result waits, and an alarm that goes off too
early. -/
def hasty : List WindowStep := [.reload, .alarm 1, .reload, .worker, .reload]

theorem runWindow_singleFlight_hasty : ∃ t r,
    exec (openApplication astray) { ui := {} } = (.ok ⟨⟩, t) ∧ Returning t hasty ∧
    (runWindow t hasty).ui.application.results = [r] ∧
    exec reload (runWindow t hasty) = (.ok ⟨⟩, runWindow t hasty) ∧
    (collecting (runWindow t hasty).ui.kit).length = 1 ∧
    fetchEvents (runWindow t hasty).ui.application
      (next (goOff 1) (runWindow t hasty)).ui.application = [.applied r] := by
  obtain ⟨⟨⟩, hopened⟩ := exists_exec_eq_ok (m := openApplication astray) (s := { ui := {} })
    (by decide +kernel)
  generalize ht : next (openApplication astray) { ui := {} } = t at hopened
  have hblank : Blank {} := ⟨by decide, rfl, rfl, rfl, rfl, rfl⟩
  have hreturning : Returning t hasty := by
    obtain ⟨ran, hran⟩ := exists_exec_eq_ok (m := runWorker)
      (s := runWindow t [.reload, .alarm 1, .reload]) (by subst ht; decide +kernel)
    exact ⟨trivial, trivial, trivial, ⟨ran, _, hran, by subst ht; decide +kernel⟩, trivial, trivial⟩
  have hflight :=
    runWindow_singleFlight hblank (Telemetry.paced_of_clock_nil rfl) hopened hreturning
  have hwaiting : (runWindow t hasty).ui.application.results.length = 1 := by
    subst ht
    decide +kernel
  have hloading : (runWindow t hasty).ui.application.loading = true := by
    subst ht
    decide +kernel
  have halarm : (runWindow t hasty).ui.kit.alarms[1]?.map (fun a => collects a.command) =
      some true := by
    subst ht
    decide +kernel
  obtain ⟨r, hr⟩ := List.length_eq_one_iff.1 hwaiting
  obtain ⟨a, ha, hcollects⟩ := Option.map_eq_some_iff.1 halarm
  refine ⟨t, r, hopened, hreturning, hr, hflight.busy hloading, ?_, ?_⟩
  · rw [hflight.timers, hloading]
    rfl
  · rw [hflight.firing 1 a ha (eq_collect_of_collects hcollects), hr]
    rfl

/-! Time -/

theorem runWindow_append (s : Session Ui) (xs ys : List WindowStep) :
    runWindow s (xs ++ ys) = runWindow (runWindow s xs) ys := List.foldl_append

theorem Returning.append {xs ys : List WindowStep} (hx : Returning s xs)
    (hy : Returning (runWindow s xs) ys) : Returning s (xs ++ ys) := by
  induction xs generalizing s with
  | nil => exact hy
  | cons step xs ih => exact ⟨hx.1, ih hx.2 hy⟩

/-- What the step does, a run of the window does. -/
def IsRun {α : Type} (m : Act Ui α) : Prop :=
  ∀ s, ∃ steps, Returning s steps ∧ next m s = runWindow s steps

theorem isRun_aside {α : Type} {m : Act Ui α} (h : Keeps Aside m) : IsRun m := by
  have hdiscard : Keeps Aside (do
      let _ ← m
      pure () : Act Ui Unit) := keeps_bind h fun _ => keeps_pure _
  refine fun s => ⟨[.aside _ hdiscard], ⟨trivial, trivial⟩, ?_⟩
  exact (next_discard m s).symm

theorem isRun_goOff (n : Nat) : IsRun (goOff n) :=
  fun _ => ⟨[.alarm n], ⟨trivial, trivial⟩, rfl⟩

theorem isRun_bind {α β : Type} {m : Act Ui α} {f : α → Act Ui β} (hm : IsRun m)
    (hf : ∀ a, IsRun (f a)) : IsRun (m >>= f) := by
  intro s
  obtain ⟨xs, hx, hnext⟩ := hm s
  unfold next at hnext ⊢
  rw [exec_bind]
  rcases hs : exec m s with ⟨e | a, t⟩ <;> rw [hs] at hnext <;> subst hnext
  · exact ⟨xs, hx, rfl⟩
  · obtain ⟨ys, hy, hrest⟩ := hf a (runWindow s xs)
    exact ⟨xs ++ ys, hx.append hy, hrest.trans (runWindow_append s xs ys).symm⟩

/-- The alarm that is taken is one of those that are set. -/
theorem exec_goOff_of_takeAlarm? {limit : Int} {k : Toolkit Command} {c : Command}
    (h : s.ui.kit.takeAlarm? limit = some (k, c)) : ∃ n : Nat,
      exec (goOff n) s = exec (perform {} c) { s with ui := { s.ui with kit := k } } := by
  unfold Toolkit.takeAlarm? at h
  split at h
  case h_2 => simp at h
  case h_1 a rest hagenda =>
    obtain ⟨-, hpair⟩ := Option.ite_none_right_eq_some.1 h
    obtain ⟨rfl, rfl⟩ := Prod.mk.inj (Option.some.inj hpair)
    have hmem : a ∈ s.ui.kit.agenda := hagenda ▸ List.mem_cons_self
    obtain ⟨n, hn⟩ := List.mem_iff_getElem?.1 (List.mem_mergeSort.1 hmem)
    refine ⟨n, ?_⟩
    simp only [goOff, exec_bind, exec_theKit, hn, exec_updateKit]

theorem isRun_runAlarms (limit : Int) (fuel : Nat) : IsRun (runAlarms limit fuel) := by
  induction fuel with
  | zero => exact isRun_aside (keeps_pure _)
  | succ fuel ih =>
    intro s
    rcases htake : s.ui.kit.takeAlarm? limit with - | ⟨k, c⟩
    · refine ⟨[], trivial, ?_⟩
      simp only [next, runAlarms, exec_bind, exec_theKit, htake, exec_pure]
      rfl
    · obtain ⟨n, hn⟩ := exec_goOff_of_takeAlarm? htake
      have hround : IsRun (do goOff n; runErrands; runAlarms limit fuel) :=
        isRun_bind (isRun_goOff n) fun _ => isRun_bind (isRun_aside runErrands_aside) fun _ => ih
      obtain ⟨steps, hreturning, hnext⟩ := hround s
      refine ⟨steps, hreturning, ?_⟩
      rw [← hnext]
      simp only [next, runAlarms, exec_bind, exec_theKit, htake, exec_updateKit, hn]

/-- Time that passes is a run of the window: alarms go off and nothing else happens to fetches. -/
theorem isRun_tick (ms : Nat) : IsRun (tick ms) := by
  have hnow (limit : Int) : Keeps Aside (updateKit fun k => { k with now := limit }) :=
    fun s => .of_ui (fun h => { h with }) fun _ => rfl
  refine isRun_bind (isRun_aside runErrands_aside) fun _ => ?_
  refine isRun_bind (isRun_aside keeps_theKit) fun k => ?_
  exact isRun_bind (isRun_runAlarms _ _) fun _ => isRun_aside (hnow _)

end Session
end RemoteScreen
