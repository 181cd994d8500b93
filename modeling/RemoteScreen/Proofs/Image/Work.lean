import RemoteScreen.Proofs.Image.Waiting

/-! What a step of the pool does to one job: it leaves it, starts it, or finishes it with what came
for the URL of the job's region. -/
namespace RemoteScreen

/-- One retrieval: for which region, for which URL, and what came. -/
structure Fetched where
  region : Nat
  url : String
  outcome : Except String Value

namespace Session

variable {υ : Type} {s : Session υ} {l : Loader} {j : Job}

/-- The retrieval that a step of the pool finishes, if it finishes one. -/
def PoolStep.fetched? (s : Session υ) : PoolStep → Option Fetched
  | .finish k answer => do
    let l ← s.loader
    let n ← l.running[k]?
    let j ← l.jobs[n]?
    let r ← s.regions[j.region]?
    some ⟨j.region, r.url, answer r.url⟩
  | _ => none

theorem PoolStep.fetched?_known {w : PoolStep} {f : Fetched} (h : w.fetched? s = some f) :
    f.region < s.regions.length := by
  cases w with
  | finish k answer =>
    obtain ⟨l, -, h⟩ := Option.bind_eq_some_iff.1 h
    obtain ⟨n, -, h⟩ := Option.bind_eq_some_iff.1 h
    obtain ⟨j, -, h⟩ := Option.bind_eq_some_iff.1 h
    obtain ⟨r, hr, h⟩ := Option.bind_eq_some_iff.1 h
    obtain rfl := Option.some.inj h
    exact (List.getElem?_eq_some_iff.1 hr).1
  | _ => simp [fetched?] at h

/-- Where a job is after a step of the pool: as before, or running. -/
def Job.Going (j : Job) (m : Loader) : Prop :=
  j ∈ m.jobs ∨ (j.unfinished ∧ { j with state := .running } ∈ m.jobs)

theorem going_setState {n : Nat} (hn : n ∈ l.queued) (hj : j ∈ l.jobs) :
    Job.Going j (l.setState n .running) := by
  obtain ⟨i, hi, hqueued⟩ := Loader.mem_inState.1 hn
  by_cases hij : j = i
  · exact .inr ⟨.inl (hij ▸ hqueued), hij ▸ Loader.mem_jobs_setState_self .running hi⟩
  · exact .inl (Loader.mem_jobs_setState_of_mem .running hi hj hij)

theorem PoolStep.start_job (h : s.loader = some l) (hj : j ∈ l.jobs) :
    ∃ m, next PoolStep.start.act s = { s with loader := some m } ∧ l.completed = m.completed ∧
      Job.Going j m := by
  refine ⟨_, by rw [PoolStep.act, next_discard, next_startJob h], ?_⟩
  rcases hstart : l.start? with - | ⟨m, n⟩
  · exact ⟨rfl, .inl hj⟩
  · obtain ⟨hn, rfl⟩ := Loader.start?_eq_some hstart
    exact ⟨rfl, going_setState hn hj⟩

theorem PoolStep.startAny_job (h : s.loader = some l) (k : Nat) (hj : j ∈ l.jobs) :
    ∃ m, next (PoolStep.startAny k).act s = { s with loader := some m } ∧
      l.completed = m.completed ∧ Job.Going j m := by
  refine ⟨_, next_startAny h k, ?_⟩
  rcases hk : l.queued[k]? with - | n
  · exact ⟨rfl, .inl hj⟩
  · exact ⟨rfl, going_setState (List.mem_of_getElem? hk) hj⟩

/-- A finished job is either this one, and then its completion is there, or that of another
region. -/
theorem PoolStep.finish_job (h : Orderly s l) (k : Nat) (answer : String → Except String Value)
    (hj : j ∈ l.jobs) {r : Region Nat} (hr : s.regions[j.region]? = some r) :
    ∃ m, next (PoolStep.finish k answer).act s = { s with loader := some m } ∧
      l.completed ⊆ m.completed ∧
      ((j ∈ m.jobs ∧ ∀ f ∈ (PoolStep.finish k answer).fetched? s, f.region ≠ j.region) ∨
        (j.unfinished ∧ (PoolStep.finish k answer).fetched? s =
            some ⟨j.region, r.url, answer r.url⟩ ∧
          { j with state := .finished } ∈ m.jobs ∧
          ⟨j.region, j.pass, answer r.url⟩ ∈ m.completed)) := by
  refine ⟨_, next_finish h.loader k answer, ?_⟩
  simp only [PoolStep.fetched?, h.loader, Option.bind_eq_bind, Option.bind_some]
  rcases hk : l.running[k]? with - | n
  · exact ⟨List.Subset.refl _, .inl ⟨hj, fun f hf => by simp at hf⟩⟩
  · obtain ⟨i, hi, hrunning⟩ := Loader.mem_inState.1 (List.mem_of_getElem? hk)
    have hi' : ({ l with retrieve := answer } : Loader).jobs[n]? = some i := hi
    obtain ⟨p, hp⟩ := Loader.finish_eq (s.jobUrl l n) hi'
    simp only [hp, hi, Option.bind_some]
    refine ⟨List.subset_append_left _ _, ?_⟩
    by_cases hij : j = i
    · subst hij
      have hurl : s.jobUrl l n = r.url := by simp [jobUrl, hi, hr]
      refine .inr ⟨.inr hrunning, by simp [hr], Loader.mem_jobs_setState_self .finished hi', ?_⟩
      simp [hurl]
    · refine .inl ⟨Loader.mem_jobs_setState_of_mem .finished hi' hj hij, fun f hf he => hij ?_⟩
      obtain ⟨r', -, hf⟩ := Option.bind_eq_some_iff.1 hf
      obtain rfl := Option.some.inj hf
      exact (h.job_unique (List.mem_of_getElem? hi) hj he).symm

/-- What any step of the pool does to a job. -/
theorem PoolStep.job (h : Orderly s l) (w : PoolStep) (hj : j ∈ l.jobs) {r : Region Nat}
    (hr : s.regions[j.region]? = some r) :
    ∃ m, next w.act s = { s with loader := some m } ∧ l.completed ⊆ m.completed ∧
      ((Job.Going j m ∧ ∀ f ∈ w.fetched? s, f.region ≠ j.region) ∨
        (j.unfinished ∧ { j with state := .finished } ∈ m.jobs ∧
          ∃ o, w.fetched? s = some ⟨j.region, r.url, o⟩ ∧
            ⟨j.region, j.pass, o⟩ ∈ m.completed)) := by
  cases w with
  | start =>
    obtain ⟨m, hm, hcompleted, hgoing⟩ := PoolStep.start_job h.loader hj
    exact ⟨m, hm, hcompleted ▸ List.Subset.refl _, .inl ⟨hgoing, by simp [fetched?]⟩⟩
  | startAny k =>
    obtain ⟨m, hm, hcompleted, hgoing⟩ := PoolStep.startAny_job h.loader k hj
    exact ⟨m, hm, hcompleted ▸ List.Subset.refl _, .inl ⟨hgoing, by simp [fetched?]⟩⟩
  | finish k answer =>
    obtain ⟨m, hm, hcompleted, ⟨hmem, hother⟩ | ⟨hunfinished, hfetched, hmem, hwaits⟩⟩ :=
      PoolStep.finish_job h k answer hj hr
    · exact ⟨m, hm, hcompleted, .inl ⟨.inl hmem, hother⟩⟩
    · exact ⟨m, hm, hcompleted, .inr ⟨hunfinished, hmem, _, hfetched, hwaits⟩⟩

/-- A job that has finished stays as it is, and nothing more is fetched for its region. -/
theorem PoolStep.finished_job (h : Orderly s l) (w : PoolStep) (hj : j ∈ l.jobs)
    (hfinished : j.state = .finished) {r : Region Nat} (hr : s.regions[j.region]? = some r) :
    ∃ m, next w.act s = { s with loader := some m } ∧ l.completed ⊆ m.completed ∧ j ∈ m.jobs ∧
      ∀ f ∈ w.fetched? s, f.region ≠ j.region := by
  obtain ⟨m, hm, hcompleted, hcases⟩ := w.job h hj hr
  refine ⟨m, hm, hcompleted, ?_⟩
  rcases hcases with ⟨hmem | ⟨hunfinished, -⟩, hother⟩ | ⟨hunfinished, -⟩
  · exact ⟨hmem, hother⟩
  · exact absurd hfinished hunfinished.not_finished
  · exact absurd hfinished hunfinished.not_finished

end Session
end RemoteScreen
