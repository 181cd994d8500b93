import Mathlib.Data.List.Nodup
import RemoteScreen.Image.Loader
import RemoteScreen.Session.Basic

/-! The jobs of a loader: what each is for never changes, and a step of the pool moves one job from
one state to the next. -/
namespace RemoteScreen

/-- The region a job serves and the pass that asked for it. -/
def Job.ask (j : Job) : Nat × Option Pass := (j.region, j.pass)

def Completion.ask (c : Completion) : Nat × Option Pass := (c.region, c.pass)

def ImageRequest.ask (q : ImageRequest) : Nat × Option Pass := (q.region, q.pass)

namespace Loader

/-- What the jobs are for, in the order they were handed in. -/
def asks (l : Loader) : List (Nat × Option Pass) := l.jobs.map Job.ask

theorem jobIn_iff {l : Loader} {s : JobState} {n : Nat} :
    l.jobIn s n = true ↔ ∃ j, l.jobs[n]? = some j ∧ j.state = s := by
  simp [jobIn, Option.map_eq_some_iff]

theorem mem_inState {l : Loader} {s : JobState} {n : Nat} :
    n ∈ l.inState s ↔ ∃ j, l.jobs[n]? = some j ∧ j.state = s := by
  rw [inState, List.mem_filter, jobIn_iff, List.mem_range, and_iff_right_iff_imp]
  rintro ⟨j, h, _⟩
  exact (List.getElem?_eq_some_iff.1 h).1

/-! Changing the state of one job -/

@[simp] theorem asks_setState (l : Loader) (n : Nat) (s : JobState) :
    (l.setState n s).asks = l.asks := by
  refine List.ext_getElem? fun k => ?_
  simp only [asks, setState, List.getElem?_map, List.getElem?_modify, Option.map_eq_map,
    Option.map_map]
  congr 1
  funext j
  by_cases h : n = k <;> simp [h, Job.ask]

/-- A job after the change was there before, unless it is the one that was changed. -/
theorem mem_jobs_setState {l : Loader} {n : Nat} {s : JobState} {j : Job}
    (h : j ∈ (l.setState n s).jobs) :
    j ∈ l.jobs ∨ ∃ i, l.jobs[n]? = some i ∧ j = { i with state := s } := by
  obtain ⟨k, hk⟩ := List.mem_iff_getElem?.1 h
  rw [setState, List.getElem?_modify] at hk
  by_cases hn : n = k
  · subst hn
    simp only [if_true, Option.map_eq_map, Option.map_eq_some_iff] at hk
    obtain ⟨i, hi, rfl⟩ := hk
    exact .inr ⟨i, hi, rfl⟩
  · simp only [hn, if_false, Option.map_eq_map, Option.map_id_fun', id] at hk
    exact .inl (List.mem_of_getElem? hk)

theorem mem_jobs_setState_self {l : Loader} {n : Nat} {i : Job} (s : JobState)
    (h : l.jobs[n]? = some i) : { i with state := s } ∈ (l.setState n s).jobs := by
  refine List.mem_of_getElem? (i := n) ?_
  simp [setState, h]

/-- A job that is not the changed one stays as it is. -/
theorem mem_jobs_setState_of_mem {l : Loader} {n : Nat} {i j : Job} (s : JobState)
    (hi : l.jobs[n]? = some i) (hj : j ∈ l.jobs) (hij : j ≠ i) : j ∈ (l.setState n s).jobs := by
  obtain ⟨k, hk⟩ := List.mem_iff_getElem?.1 hj
  have hn : n ≠ k := by
    rintro rfl
    exact hij (Option.some.inj (hk.symm.trans hi))
  refine List.mem_of_getElem? (i := k) ?_
  simp [setState, hn, hk]

/-! Jobs that are over -/

theorem settleJob_eq (l : Loader) (n : Nat) (s : JobState) :
    ∃ p, l.settleJob n s = { l.setState n s with pending := p } := by
  simp only [settleJob]
  split
  · exact ⟨_, rfl⟩
  · exact ⟨l.pending, rfl⟩

theorem finish_eq {l : Loader} {n : Nat} {j : Job} (url : String) (h : l.jobs[n]? = some j) :
    ∃ p, l.finish n url = { l.setState n .finished with
      pending := p
      completed := l.completed ++ [⟨j.region, j.pass, l.retrieve url⟩]
      fetched := l.fetched ++ [url] } := by
  rw [finish, h]
  obtain ⟨p, hp⟩ := settleJob_eq
    { l with
      completed := l.completed ++ [⟨j.region, j.pass, l.retrieve url⟩]
      fetched := l.fetched ++ [url] } n .finished
  exact ⟨p, hp⟩

/-- What holds of a loader and outlasts the end of a job that nobody has started outlasts the end
of many. -/
theorem cancelEach_induction {P : Loader → Prop}
    (step : ∀ l n, P l → l.jobIn .queued n = true → P (l.settleJob n .cancelled))
    (ns : List Nat) (l : Loader) (h : P l) : P (l.cancelEach ns).1 := by
  unfold cancelEach
  generalize 0 = count
  induction ns generalizing l count with
  | nil => exact h
  | cons n ns ih =>
    rw [List.foldl_cons]
    by_cases hn : l.jobIn .queued n = true
    · rw [if_pos hn]
      exact ih _ (step l n h hn) _
    · rw [if_neg hn]
      exact ih l h count

/-- Cancelling changes jobs alone. -/
theorem cancelEach_eq (l : Loader) (ns : List Nat) :
    ∃ js p, (l.cancelEach ns).1 = { l with jobs := js, pending := p } := by
  refine cancelEach_induction
    (P := fun m => ∃ js p, m = { l with jobs := js, pending := p }) ?_ ns l
    ⟨l.jobs, l.pending, rfl⟩
  rintro m n ⟨js, p, rfl⟩ _
  obtain ⟨p', hp⟩ := settleJob_eq { l with jobs := js, pending := p } n .cancelled
  exact ⟨_, p', hp⟩

/-! Handing in a job -/

/-- A request hands in one job, which is pending and watched from then on. -/
theorem enqueue_eq (l : Loader) (region : Nat) (pass : Option Pass) :
    l.enqueue region pass = { l with
      jobs := l.jobs ++ [{ region, pass, watched := true }]
      pending := l.pending ++ [l.jobs.length] } := by
  have hlast : ((l.submit region pass).1.track l.jobs.length).jobs[l.jobs.length]? =
      some { region, pass } := by simp [submit, track]
  have hstate (s : JobState) (hs : JobState.queued ≠ s) :
      ((l.submit region pass).1.track l.jobs.length).jobIn s l.jobs.length = false := by
    simp [jobIn, hlast, hs]
  change ((l.submit region pass).1.track l.jobs.length).watch l.jobs.length = _
  rw [watch, hstate _ (by simp), hstate _ (by simp)]
  have hmark (f : Job → Job) (j : Job) :
      (l.jobs ++ [j]).modify l.jobs.length f = l.jobs ++ [f j] := by
    rw [List.modify_eq_take_cons_drop (by simp)]
    simp
  simp [submit, track, hmark]

/-! Starting a job -/

theorem start?_eq_some {l m : Loader} {n : Nat} (h : l.start? = some (m, n)) :
    n ∈ l.queued ∧ m = l.setState n .running := by
  unfold start? at h
  split at h
  · obtain ⟨k, hk, he⟩ := Option.map_eq_some_iff.1 h
    obtain ⟨rfl, rfl⟩ := Prod.mk.inj he
    exact ⟨List.mem_of_mem_head? hk, rfl⟩
  · cases h

end Loader
end RemoteScreen
