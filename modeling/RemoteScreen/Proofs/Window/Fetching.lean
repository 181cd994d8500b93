import RemoteScreen.Proofs.Window.Course
import RemoteScreen.Proofs.Window.Opening

/-! What reloads, workers and alarms do to the fetches of a window. There is one invariant, in which
the flag, the queue, the workers and the alarms agree on where the last fetch is; each of the three
moves the fetch on or leaves it where it is. -/
namespace RemoteScreen
namespace Session

variable {s t : Session Ui} {es : List FetchEvent} {issued : Nat} {g : Flight}

/-! The invariant of the fetches -/

/-- The last of the results that have been applied is the last result of the window, its response is
the one on screen, and each of them has had a pass of its own. -/
structure Shows (issued : Nat) (rs : List FetchResult) (s : Session Ui) : Prop where
  last : s.ui.application.last = rs.getLast?
  response : s.ui.screen.response = rs.getLast?.map FetchResult.response
  passes : s.tracker.issued = issued + rs.length

/-- The window after what `es` tells of its fetches, with the last fetch where `g` says. -/
structure Fetching (issued : Nat) (es : List FetchEvent) (g : Flight) (s : Session Ui) : Prop where
  course : Course es g
  tidy : Tidy s.ui
  sound : Sound s.ui.screen.renderer
  paced : s.telemetry.Paced
  loading : s.ui.application.loading = g.isBusy
  workers : s.ui.application.workers = g.workers
  results : s.ui.application.results = g.results
  collecting : (collecting s.ui.kit).length = g.isBusy.toNat
  fits : ∀ r ∈ g.results, Descriptor.nodesList r.response.components < 2 ^ 1023
  shows : Shows issued (appliedResults es) s

theorem Fetching.aside (h : Fetching issued es g s) (k : Aside s t) : Fetching issued es g t :=
  have k := k h.tidy
  { course := h.course
    tidy := k.tidy
    sound := k.renderer ▸ h.sound
    paced := h.paced.mono k.readings
    loading := k.loading.trans h.loading
    workers := k.workers.trans h.workers
    results := k.results.trans h.results
    collecting := k.collecting ▸ h.collecting
    fits := h.fits
    shows := ⟨k.last.trans h.shows.last, k.response.trans h.shows.response,
      k.tracker ▸ h.shows.passes⟩ }

/-- Where the last fetch is before and after something tells what has happened to it. -/
theorem Fetching.events_eq {es' : List FetchEvent} {g' : Flight} (h : Fetching issued es g s)
    (k : Fetching issued es' g' t) : fetchEvents s.ui.application t.ui.application =
      List.replicate (g'.workers - g.workers) .started ++
      (g'.results.drop g.results.length).map .put ++
      (g.results.take (g.results.length - g'.results.length)).map .applied := by
  rw [fetchEvents, h.workers, h.results, k.workers, k.results]

/-- Nothing happens to a fetch that stays where it is. -/
theorem Fetching.stay (h : Fetching issued es g s) (k : Fetching issued es g t) :
    ∃ g', Fetching issued (es ++ fetchEvents s.ui.application t.ui.application) g' t := by
  have hevents : fetchEvents s.ui.application t.ui.application = [] := by
    simp [fetchEvents, h.workers, h.results, k.workers, k.results]
  refine ⟨g, ?_⟩
  rw [hevents, List.append_nil]
  exact k

theorem Unfetched.fetching (h : Unfetched s) (hsound : Sound s.ui.screen.renderer) :
    Fetching s.tracker.issued [] .idle s where
  course := .nil
  tidy := h.tidy
  sound := hsound
  paced := h.paced
  loading := h.loading
  workers := h.workers
  results := h.results
  collecting := by simp [h.collecting, Flight.isBusy]
  fits r hr := absurd hr List.not_mem_nil
  shows := ⟨h.last, h.response, rfl⟩

/-! A reload -/

@[simp] theorem exec_application (s : Session Ui) :
    exec application s = (.ok s.ui.application, s) := rfl

@[simp] theorem exec_updateApplication (f : Application → Application) (s : Session Ui) :
    exec (updateApplication f) s =
      (.ok ⟨⟩, { s with ui := { s.ui with application := f s.ui.application } }) := rfl

/-- While a fetch is under way a reload does nothing. -/
theorem exec_reload_of_loading (h : s.ui.application.loading = true) :
    exec reload s = (.ok ⟨⟩, s) := by
  simp [reload, application, h]

/-- The window in which a fetch has just been started. -/
def launched (s : Session Ui) (j : Journal) (τ : Telemetry) : Session Ui :=
  { s with
    journal := j
    telemetry := τ
    ui := { s.ui with
      kit := { s.ui.kit with
        alarms := s.ui.kit.alarms ++
          [⟨s.ui.kit.nextAlarm, window, s.ui.kit.now + collectMs, .collect⟩]
        nextAlarm := s.ui.kit.nextAlarm + 1 }
      application := { s.ui.application with
        loading := true
        workers := s.ui.application.workers + 1 } } }

/-- While none is under way a reload starts one fetch, sets one alarm for its result and reports one
event. -/
theorem exec_reload_of_not_loading (h : s.ui.application.loading = false)
    (hstands : s.ui.kit.isAlive window = true) :
    ∃ j τ, exec reload s = (.ok ⟨⟩, s.launched j τ) ∧ τ.readings ⊆ s.telemetry.readings ∧
      Reported none [.event ⟨"app.reload", []⟩] s (s.launched j τ) := by
  let s₁ : Session Ui := { s with ui := { s.ui with
    application := { s.ui.application with loading := true } } }
  obtain ⟨n, u, t, hu, ht, ⟨⟨j, τ, rfl⟩, hreadings⟩, hreported⟩ :=
    exec_emitEvent ⟨"app.reload", []⟩ s₁
  refine ⟨j, τ, ?_, hreadings, ?_⟩
  · rw [reload, exec_bind, exec_application]
    dsimp only
    rw [if_neg (by simp [h]), exec_bind, exec_updateApplication]
    dsimp only
    rw [exec_bind, hu]
    dsimp only
    rw [exec_bind, ht]
    dsimp only
    rw [exec_bind, exec_updateApplication]
    dsimp only
    rw [exec_bind, exec_after]
    · rfl
    · exact hstands
  · obtain ⟨m, v, hv, hreports⟩ := hreported.of_ui
    exact ⟨m, v, hv, hreports⟩

theorem Fetching.launched (h : Fetching issued es .idle s) {j : Journal} {τ : Telemetry}
    (hreadings : τ.readings ⊆ s.telemetry.readings) :
    Fetching issued (es ++ [.started]) .away (s.launched j τ) where
  course := h.course.started
  tidy := (h.tidy.after (.inr ⟨rfl, rfl⟩) (.inl rfl)).congr rfl rfl rfl
  sound := h.sound
  paced := h.paced.mono hreadings
  loading := rfl
  workers := congrArg (· + 1) h.workers
  results := h.results
  collecting := by
    rw [Session.launched, collecting_append, List.length_append, h.collecting]
    rfl
  fits r hr := absurd hr List.not_mem_nil
  shows := by simpa using ⟨h.shows.last, h.shows.response, h.shows.passes⟩

theorem Fetching.reload (h : Fetching issued es g s) :
    ∃ g', Fetching issued (es ++ fetchEvents s.ui.application (next reload s).ui.application) g'
      (next reload s) := by
  cases hloading : s.ui.application.loading with
  | true =>
    rw [next, exec_reload_of_loading hloading]
    exact h.stay h
  | false =>
    obtain rfl : g = .idle := by
      rw [h.loading] at hloading
      cases g with
      | idle => rfl
      | _ => cases hloading
    obtain ⟨j, τ, hreload, hreadings, -⟩ := exec_reload_of_not_loading hloading h.tidy.stands
    have hlaunched := h.launched (j := j) hreadings
    refine ⟨.away, ?_⟩
    rw [next, hreload, h.events_eq hlaunched]
    exact hlaunched

/-! The worker of a fetch -/

/-- A worker runs one fetch and puts its result at the end of the queue. -/
theorem exec_runWorker_ok {ran : Bool} (h : exec runWorker s = (.ok ran, t)) :
    (s.ui.application.workers = 0 ∧ t = s) ∨ ∃ result u, s.ui.application.workers ≠ 0 ∧
      Aside { s with ui := { s.ui with application := { s.ui.application with
        workers := s.ui.application.workers - 1 } } } u ∧
      t = { u with ui := { u.ui with application := { u.ui.application with
        results := u.ui.application.results ++ [result] } } } := by
  rw [runWorker, exec_bind, exec_application] at h
  dsimp only at h
  split at h
  case isTrue hzero => exact .inl ⟨hzero, (Prod.mk.inj h).2.symm⟩
  case isFalse hsome =>
    rw [exec_bind, exec_updateApplication] at h
    obtain ⟨result, u, hu, h⟩ := (fetch_aside _).bind_eq_ok h
    rw [exec_bind, exec_updateApplication] at h
    exact .inr ⟨result, u, hsome, hu, (Prod.mk.inj h).2.symm⟩

theorem Fetching.worker (h : Fetching issued es g s) {ran : Bool}
    (hran : exec runWorker s = (.ok ran, t)) (hfits : ∀ r ∈ t.ui.application.results,
      Descriptor.nodesList r.response.components < 2 ^ 1023) :
    ∃ g', Fetching issued (es ++ fetchEvents s.ui.application t.ui.application) g' t := by
  rcases exec_runWorker_ok hran with ⟨-, rfl⟩ | ⟨result, u, hworkers, hu, rfl⟩
  · exact h.stay h
  · obtain rfl : g = .away := by
      rw [h.workers] at hworkers
      cases g with
      | away => rfl
      | _ => exact absurd rfl hworkers
    have hkept := hu { h.tidy with }
    have hresults : u.ui.application.results = [] := hkept.results.trans h.results
    have hput : Fetching issued (es ++ [.put result]) (.back result)
        { u with ui := { u.ui with application := { u.ui.application with
          results := u.ui.application.results ++ [result] } } } := {
      course := h.course.put result
      tidy := { hkept.tidy with }
      sound := hkept.renderer ▸ h.sound
      paced := h.paced.mono hkept.readings
      loading := hkept.loading.trans h.loading
      workers := by
        have hone : s.ui.application.workers = 1 := h.workers
        exact hkept.workers.trans (by simp [hone, Flight.workers])
      results := by simp [hresults, Flight.results]
      collecting := hkept.collecting ▸ h.collecting
      fits r hr := hfits r (List.mem_append_right _ hr)
      shows := by simpa using ⟨hkept.last.trans h.shows.last,
        hkept.response.trans h.shows.response, hkept.tracker ▸ h.shows.passes⟩ }
    refine ⟨.back result, ?_⟩
    rw [h.events_eq hput]
    exact hput

/-! Alarms -/

/-- The alarm at a place in the list of alarms goes off. -/
def goOff (n : Nat) : Act Ui Unit := do
  match (← theKit).alarms[n]? with
  | some a =>
    updateKit fun k => { k.cancel a.number with now := a.due }
    perform {} a.command
  | none => pure ()

/-- The window in which an alarm goes off, before what it is for. -/
def ringing (s : Session Ui) (a : Alarm Command) : Session Ui :=
  { s with ui := { s.ui with kit := { s.ui.kit.cancel a.number with now := a.due } } }

theorem next_goOff {n : Nat} {a : Alarm Command} (h : s.ui.kit.alarms[n]? = some a) :
    next (goOff n) s = next (perform {} a.command) (s.ringing a) := by
  simp only [next, goOff, exec_bind, exec_theKit, h, exec_updateKit]
  rfl

theorem tidy_ringing (h : Tidy s.ui) (a : Alarm Command) : Tidy (s.ringing a).ui :=
  h.thin h.stands h.roots List.filter_sublist rfl (fun _ => id) (List.Subset.refl _)

/-- The alarm of the screen goes off beside the fetches. -/
theorem goOff_poll_aside {n : Nat} {a : Alarm Command} (h : s.ui.kit.alarms[n]? = some a)
    (hpoll : a.command = .poll) : Aside s (next (goOff n) s) := by
  have hringing : Aside s (s.ringing a) := by
    refine .of_ui (k := { s.ui.kit.cancel a.number with now := a.due })
      (fun h => tidy_ringing h a) fun htidy => ?_
    refine collecting_cancel fun b hb hnumber => ?_
    obtain rfl := List.inj_on_of_nodup_map htidy.distinct hb (List.mem_of_getElem? h) hnumber
    exact hpoll
  rw [next_goOff h, hpoll]
  exact IsTrans.trans _ _ _ hringing (poll_aside _)

/-- When the only alarm for the result of a fetch goes off, there is none left. -/
theorem collecting_ringing {a : Alarm Command} (hone : (collecting s.ui.kit).length = 1)
    (ha : a ∈ s.ui.kit.alarms) (hcollect : a.command = .collect) :
    collecting (s.ringing a).ui.kit = [] := by
  obtain ⟨b, hb⟩ := List.length_eq_one_iff.1 hone
  have hmem := mem_collecting ha hcollect
  obtain rfl : a = b := by simpa [hb] using hmem
  have hfilter : collecting (s.ringing a).ui.kit =
      (collecting s.ui.kit).filter fun b => b.number != a.number := by
    simp only [collecting, ringing, Toolkit.alarms_cancel, List.filter_filter, Bool.and_comm]
  rw [hfilter, hb]
  simp

/-- The window in which the result of a fetch has been taken from the queue. -/
def landed (s : Session Ui) (r : FetchResult) (rs : List FetchResult) (j : Journal) : Session Ui :=
  { s with
    journal := j
    ui := { s.ui with application := { s.ui.application with
      results := rs, loading := false, last := some r } } }

/-- A result that is there is taken from the queue and its response is shown. -/
theorem next_collect_cons {r : FetchResult} {rs : List FetchResult}
    (h : s.ui.application.results = r :: rs) :
    ∃ j, next collect s = next (showResponse r.response) (s.landed r rs j) := by
  have hcollect : next collect s = next (applyResult r) { s with ui := { s.ui with
      application := { s.ui.application with results := rs, loading := false } } } := by
    rw [next, collect, exec_bind, exec_application]
    dsimp only
    rw [h]
    rfl
  rw [hcollect, applyResult]
  cases r.error with
  | none =>
    refine ⟨s.journal, ?_⟩
    rw [next, exec_bind, exec_updateApplication]
    exact next_discard _ _
  | some why =>
    refine ⟨s.journal.write ⟨.info, appLogger, s!"Showing fallback components: {why}"⟩, ?_⟩
    rw [next, exec_bind, exec_updateApplication]
    exact next_discard _ _

/-- Without a result the window looks again later. -/
theorem next_collect_nil (h : s.ui.application.results = [])
    (hstands : s.ui.kit.isAlive window = true) :
    next collect s = { s with ui := { s.ui with kit := { s.ui.kit with
      alarms := s.ui.kit.alarms ++
        [⟨s.ui.kit.nextAlarm, window, s.ui.kit.now + collectMs, .collect⟩]
      nextAlarm := s.ui.kit.nextAlarm + 1 } } } := by
  rw [next, collect, exec_bind, exec_application]
  dsimp only
  rw [h]
  dsimp only
  rw [exec_bind, exec_after hstands]
  rfl

/-- Where nothing is fetched no alarm looks for a result. -/
theorem Fetching.not_collect (h : Fetching issued es .idle s) {a : Alarm Command}
    (ha : a ∈ s.ui.kit.alarms) : a.command ≠ .collect := by
  intro hcollect
  have hmem := mem_collecting ha hcollect
  rw [List.eq_nil_of_length_eq_zero h.collecting] at hmem
  exact absurd hmem List.not_mem_nil

theorem Fetching.landed {r : FetchResult} (h : Fetching issued es (.back r) s)
    {a : Alarm Command} {n : Nat} (ha : s.ui.kit.alarms[n]? = some a)
    (hcollect : a.command = .collect) :
    Fetching issued (es ++ [.applied r]) .idle (next (goOff n) s) := by
  obtain ⟨j, hj⟩ := next_collect_cons (s := s.ringing a) h.results
  obtain ⟨out, u, hui, htracker, hreadings, hviews⟩ := showResponse_renders (R := Aside)
    (s := (s.ringing a).landed r [] j) h.sound h.paced (h.fits r List.mem_cons_self)
  have hnext : next (goOff n) s = next (showResponse r.response) ((s.ringing a).landed r [] j) := by
    rw [next_goOff ha, hcollect]
    exact hj
  have hlanded : Fetching issued (es ++ [.applied r]) .idle u := {
    course := h.course.applied
    tidy := (tidy_ringing h.tidy a).congr (by rw [hui]; rfl) (by rw [hui]; rfl) (by rw [hui]; rfl)
    sound := by
      rw [hui]
      exact h.sound
    paced := h.paced.mono hreadings
    loading := by
      rw [hui]
      rfl
    workers := by
      rw [hui]
      exact h.workers
    results := by
      rw [hui]
      rfl
    collecting := by
      rw [hui]
      exact congrArg List.length
        (collecting_ringing h.collecting (List.mem_of_getElem? ha) hcollect)
    fits r hr := absurd hr List.not_mem_nil
    shows := by
      refine ⟨?_, ?_, ?_⟩
      · rw [hui]
        simp [Session.landed]
      · rw [hui]
        simp
      · rw [htracker, appliedResults_append, List.length_append, ← Nat.add_assoc,
          ← h.shows.passes]
        rfl }
  rw [hnext]
  exact hlanded.aside hviews

/-- Looking again later is all that comes of looking too early. -/
theorem Fetching.waiting (h : Fetching issued es .away s) {a : Alarm Command} {n : Nat}
    (ha : s.ui.kit.alarms[n]? = some a) (hcollect : a.command = .collect) :
    Fetching issued es .away (next (goOff n) s) := by
  have htidy := tidy_ringing h.tidy a
  have hnext := next_collect_nil (s := s.ringing a) h.results htidy.stands
  rw [next_goOff ha, hcollect, perform, hnext]
  exact {
    course := h.course
    tidy := (htidy.after (.inr ⟨rfl, rfl⟩) (.inl rfl)).congr rfl rfl rfl
    sound := h.sound
    paced := h.paced
    loading := h.loading
    workers := h.workers
    results := h.results
    collecting := by
      rw [collecting_append, collecting_ringing h.collecting (List.mem_of_getElem? ha) hcollect]
      rfl
    fits := h.fits
    shows := ⟨h.shows.last, h.shows.response, h.shows.passes⟩ }

theorem Fetching.alarm (h : Fetching issued es g s) (n : Nat) :
    ∃ g', Fetching issued (es ++ fetchEvents s.ui.application (next (goOff n) s).ui.application) g'
      (next (goOff n) s) := by
  rcases ha : s.ui.kit.alarms[n]? with - | a
  · have hnext : next (goOff n) s = s := by
      simp only [next, goOff, exec_bind, exec_theKit, ha, exec_pure]
    rw [hnext]
    exact h.stay h
  · rcases h.tidy.alarms a (List.mem_of_getElem? ha) with hpoll | ⟨hcollect, -⟩
    · exact h.stay (h.aside (goOff_poll_aside ha hpoll))
    · cases g with
      | idle => exact absurd hcollect (h.not_collect (List.mem_of_getElem? ha))
      | away => exact h.stay (h.waiting ha hcollect)
      | back r =>
        have hlanded := h.landed ha hcollect
        refine ⟨.idle, ?_⟩
        rw [h.events_eq hlanded]
        exact hlanded

end Session
end RemoteScreen
