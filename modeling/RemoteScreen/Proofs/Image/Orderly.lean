import RemoteScreen.Proofs.Image.Pool
import RemoteScreen.Proofs.Session.Images

/-! Orderly retrieval: no region is asked for twice, every job and every completion serves a request
with the region and the pass of that request, and a region waits as long as its job or its completion
does. All steps of retrieval keep it. -/
namespace RemoteScreen

def Job.unfinished (j : Job) : Prop := j.state = .queued ∨ j.state = .running

theorem Job.unfinished.not_finished {j : Job} (h : j.unfinished) : j.state ≠ .finished := by
  rcases h with h | h <;> simp [h]

namespace Session

variable {υ : Type} {s t : Session υ} {l m : Loader}

/-- Region `n` has not come to its end. -/
def Loading (n : Nat) (s : Session υ) : Prop := ∃ r, s.regions[n]? = some r ∧ r.state = .loading

theorem Loading.kept {n : Nat} (h : Loading n s) (k : RegionsKept s t) : Loading n t := by
  obtain ⟨r, hr, hloading⟩ := h
  obtain ⟨ls, ht⟩ := k n r hr
  exact ⟨_, ht, hloading⟩

theorem Loading.settled {n k : Nat} (h : Loading n s) (hne : n ≠ k)
    (change : Region Nat → Option (Region Nat)) : Loading n (s.settled k change) := by
  obtain ⟨r, hr, hloading⟩ := h
  have hset := settled_regions k change hr
  rw [if_neg hne] at hset
  exact ⟨r, hset, hloading⟩

structure Orderly (s : Session υ) (l : Loader) : Prop where
  loader : s.loader = some l
  tracked : l.currency = .tracked
  once : (s.requests.map ImageRequest.region).Nodup
  known : ∀ q ∈ s.requests, q.region < s.regions.length
  asked : l.asks.Sublist (s.requests.map ImageRequest.ask)
  brought : ∀ c ∈ l.completed, ∃ j ∈ l.jobs, j.ask = c.ask ∧ j.state = .finished
  broughtOnce : (l.completed.map Completion.region).Nodup
  awaited : ∀ j ∈ l.jobs, j.unfinished → Loading j.region s
  waiting : ∀ c ∈ l.completed, Loading c.region s

namespace Orderly

/-! What it gives -/

theorem request_unique (h : Orderly s l) {p q : ImageRequest} (hp : p ∈ s.requests)
    (hq : q ∈ s.requests) (he : p.region = q.region) : p = q :=
  List.inj_on_of_nodup_map h.once hp hq he

theorem exists_request (h : Orderly s l) {c : Completion} (hc : c ∈ l.completed) :
    ∃ q ∈ s.requests, q.region = c.region ∧ q.pass = c.pass := by
  obtain ⟨j, hj, he, _⟩ := h.brought c hc
  have hm : c.ask ∈ l.asks := he ▸ List.mem_map_of_mem hj
  obtain ⟨q, hq, hqc⟩ := List.mem_map.1 (h.asked.subset hm)
  obtain ⟨hregion, hpass⟩ := Prod.mk.inj hqc
  exact ⟨q, hq, hregion, hpass⟩

/-- The pass of a completion is the one its region was asked for with. -/
theorem completion_pass (h : Orderly s l) {q : ImageRequest} {c : Completion} (hq : q ∈ s.requests)
    (hc : c ∈ l.completed) (he : c.region = q.region) : c.pass = q.pass := by
  obtain ⟨p, hp, hregion, hpass⟩ := h.exists_request hc
  have := h.request_unique hp hq (hregion.trans he)
  rw [← hpass, this]

theorem jobs_once (h : Orderly s l) : (l.jobs.map Job.region).Nodup := by
  have hsub := h.asked.map Prod.fst
  simp only [Loader.asks, List.map_map] at hsub
  exact List.Nodup.sublist hsub h.once

theorem job_unique (h : Orderly s l) {i j : Job} (hi : i ∈ l.jobs) (hj : j ∈ l.jobs)
    (he : i.region = j.region) : i = j :=
  List.inj_on_of_nodup_map h.jobs_once hi hj he

/-- A job whose completion waits has finished. -/
theorem finished_of_waiting (h : Orderly s l) {c : Completion} {j : Job} (hc : c ∈ l.completed)
    (hj : j ∈ l.jobs) (he : j.region = c.region) : j.state = .finished := by
  obtain ⟨i, hi, hask, hfinished⟩ := h.brought c hc
  have hij := h.job_unique hi hj ((Prod.mk.inj hask).1.trans he.symm)
  exact hij ▸ hfinished

/-! What keeps it -/

theorem congr (h : Orderly s l) (hl : t.loader = s.loader) (hq : t.requests = s.requests)
    (hr : RegionsKept s t) : Orderly t l where
  loader := hl.trans h.loader
  tracked := h.tracked
  once := by rw [hq]; exact h.once
  known := by
    rw [hq]
    exact fun q hm => Nat.lt_of_lt_of_le (h.known q hm) hr.length_le
  asked := by rw [hq]; exact h.asked
  brought := h.brought
  broughtOnce := h.broughtOnce
  awaited := fun j hj hs => (h.awaited j hj hs).kept hr
  waiting := fun c hc => (h.waiting c hc).kept hr

theorem imagesKept (h : Orderly s l) (k : ImagesKept s t) : Orderly t l :=
  h.congr k.loader k.requests k.regions

/-- A job that is queued or running changes its state, perhaps by being forgotten. -/
theorem setState (h : Orderly s l) {n : Nat} {i : Job} (hi : l.jobs[n]? = some i)
    (hs : i.unfinished) (after : JobState) (p : List Nat) :
    Orderly { s with loader := some { l.setState n after with pending := p } }
      { l.setState n after with pending := p } where
  loader := rfl
  tracked := h.tracked
  once := h.once
  known := h.known
  asked := (Loader.asks_setState l n after).symm ▸ h.asked
  brought := by
    intro c hc
    obtain ⟨j, hj, he, hfinished⟩ := h.brought c hc
    have hij : j ≠ i := by
      rintro rfl
      exact hs.not_finished hfinished
    exact ⟨j, Loader.mem_jobs_setState_of_mem after hi hj hij, he, hfinished⟩
  broughtOnce := h.broughtOnce
  awaited := by
    intro j hj hunfinished
    rcases Loader.mem_jobs_setState hj with hj | ⟨k, hk, rfl⟩
    · exact h.awaited j hj hunfinished
    · obtain rfl := Option.some.inj (hi.symm.trans hk)
      exact h.awaited i (List.mem_of_getElem? hi) hs
  waiting := h.waiting

/-- The fields of a loader that the order does not depend on. -/
theorem with_loader (h : Orderly s l) (hcurrency : m.currency = l.currency)
    (hjobs : m.jobs = l.jobs) (hcompleted : m.completed = l.completed) :
    Orderly { s with loader := some m } m where
  loader := rfl
  tracked := hcurrency.trans h.tracked
  once := h.once
  known := h.known
  asked := by
    rw [Loader.asks, hjobs]
    exact h.asked
  brought := by
    rw [hcompleted, hjobs]
    exact h.brought
  broughtOnce := by
    rw [hcompleted]
    exact h.broughtOnce
  awaited := by
    rw [hjobs]
    exact h.awaited
  waiting := by
    rw [hcompleted]
    exact h.waiting

/-- A running job brings its completion. -/
theorem finish (h : Orderly s l) {n : Nat} {j : Job} (hj : l.jobs[n]? = some j)
    (hs : j.unfinished) (url : String) :
    Orderly { s with loader := some (l.finish n url) } (l.finish n url) := by
  obtain ⟨p, hp⟩ := Loader.finish_eq url hj
  have hset := h.setState hj hs .finished p
  have hmem := List.mem_of_getElem? hj
  rw [hp]
  refine ⟨rfl, h.tracked, h.once, h.known, hset.asked, ?_, ?_, hset.awaited, ?_⟩
  · intro c hc
    rcases List.mem_append.1 hc with hc | hc
    · exact hset.brought c hc
    · obtain rfl := List.mem_singleton.1 hc
      exact ⟨_, Loader.mem_jobs_setState_self .finished hj, rfl, rfl⟩
  · simp only [List.map_append, List.map_cons, List.map_nil]
    refine List.nodup_append.2 ⟨h.broughtOnce, List.nodup_singleton _, ?_⟩
    -- an earlier completion of the same region would come from a job that has finished
    intro a ha b hb hab
    obtain rfl := List.mem_singleton.1 hb
    obtain ⟨c, hc, rfl⟩ := List.mem_map.1 ha
    exact absurd (h.finished_of_waiting hc hmem hab.symm) hs.not_finished
  · intro c hc
    rcases List.mem_append.1 hc with hc | hc
    · exact h.waiting c hc
    · obtain rfl := List.mem_singleton.1 hc
      exact h.awaited j hmem hs

/-- No job and no completion serves a region that was not asked for. -/
theorem unasked_job (h : Orderly s l) {n : Nat} (hnew : n ∉ s.requests.map ImageRequest.region)
    {j : Job} (hj : j ∈ l.jobs) : j.region ≠ n := by
  obtain ⟨q, hq, he⟩ := List.mem_map.1 (h.asked.subset (List.mem_map_of_mem hj))
  have hregion : q.region = j.region := (Prod.mk.inj he).1
  rintro rfl
  exact hnew (hregion ▸ List.mem_map_of_mem hq)

theorem unasked_completion (h : Orderly s l) {n : Nat}
    (hnew : n ∉ s.requests.map ImageRequest.region) {c : Completion} (hc : c ∈ l.completed) :
    c.region ≠ n := by
  obtain ⟨j, hj, he, _⟩ := h.brought c hc
  have hregion : j.region = c.region := (Prod.mk.inj he).1
  exact hregion ▸ h.unasked_job hnew hj

/-- A new request to an open loader. -/
theorem enqueue (h : Orderly s l) {n : Nat} (hn : Loading n s)
    (hnew : n ∉ s.requests.map ImageRequest.region) (url : String) (pass : Option Pass) :
    Orderly { s with requests := s.requests ++ [⟨n, url, pass⟩], loader := some (l.enqueue n pass) }
      (l.enqueue n pass) := by
  rw [Loader.enqueue_eq]
  refine ⟨rfl, h.tracked, ?_, ?_, ?_, ?_, h.broughtOnce, ?_, h.waiting⟩
  · simp only [List.map_append, List.map_cons, List.map_nil]
    refine List.nodup_append.2 ⟨h.once, List.nodup_singleton _, ?_⟩
    intro a ha b hb hab
    obtain rfl := List.mem_singleton.1 hb
    exact hnew (hab ▸ ha)
  · intro q hq
    rcases List.mem_append.1 hq with hq | hq
    · exact h.known q hq
    · obtain rfl := List.mem_singleton.1 hq
      obtain ⟨r, hr, _⟩ := hn
      exact (List.getElem?_eq_some_iff.1 hr).1
  · simp only [Loader.asks, List.map_append, List.map_cons, List.map_nil]
    exact h.asked.append (List.Sublist.refl _)
  · intro c hc
    obtain ⟨j, hj, he⟩ := h.brought c hc
    exact ⟨j, List.mem_append_left _ hj, he⟩
  · intro j hj hunfinished
    rcases List.mem_append.1 hj with hj | hj
    · exact h.awaited j hj hunfinished
    · obtain rfl := List.mem_singleton.1 hj
      exact hn

/-- A new request that gets no job. -/
theorem refuse (h : Orderly s l) {n : Nat} (hn : Loading n s)
    (hnew : n ∉ s.requests.map ImageRequest.region) (url : String) (pass : Option Pass) :
    Orderly { s with requests := s.requests ++ [⟨n, url, pass⟩] } l := by
  have hopen := h.enqueue hn hnew url pass
  refine ⟨h.loader, h.tracked, hopen.once, hopen.known, ?_, h.brought, h.broughtOnce, h.awaited,
    h.waiting⟩
  simp only [List.map_append]
  exact h.asked.trans (List.sublist_append_left _ _)

/-- The first completion leaves the queue. -/
theorem take (h : Orderly s l) {c : Completion} {cs : List Completion}
    (hc : l.completed = c :: cs) :
    Orderly { s with loader := some { l with completed := cs } } { l with completed := cs } where
  loader := rfl
  tracked := h.tracked
  once := h.once
  known := h.known
  asked := h.asked
  brought := fun d hd => h.brought d (hc ▸ List.mem_cons_of_mem c hd)
  broughtOnce := by
    have := h.broughtOnce
    rw [hc, List.map_cons, List.nodup_cons] at this
    exact this.2
  awaited := h.awaited
  waiting := fun d hd => h.waiting d (hc ▸ List.mem_cons_of_mem c hd)

/-- A region for which nothing is under way may come to its end. -/
theorem settled (h : Orderly s l) {n : Nat} (hjobs : ∀ j ∈ l.jobs, j.unfinished → j.region ≠ n)
    (hcompleted : ∀ c ∈ l.completed, c.region ≠ n) (change : Region Nat → Option (Region Nat)) :
    Orderly (s.settled n change) l where
  loader := (s.loader_settled n change).trans h.loader
  tracked := h.tracked
  once := by rw [s.requests_settled]; exact h.once
  known := by
    rw [s.requests_settled, s.length_regions_settled]
    exact h.known
  asked := by rw [s.requests_settled]; exact h.asked
  brought := h.brought
  broughtOnce := h.broughtOnce
  awaited := fun j hj hs => (h.awaited j hj hs).settled (hjobs j hj hs) change
  waiting := fun c hc => (h.waiting c hc).settled (hcompleted c hc) change

theorem cancelEach (h : Orderly s l) (ns : List Nat) :
    Orderly { s with loader := some (l.cancelEach ns).1 } (l.cancelEach ns).1 := by
  refine Loader.cancelEach_induction (P := fun m => Orderly { s with loader := some m } m) ?_ ns l
    (h.with_loader rfl rfl rfl)
  intro m n hm hn
  obtain ⟨j, hj, hs⟩ := Loader.jobIn_iff.1 hn
  obtain ⟨p, hp⟩ := Loader.settleJob_eq m n .cancelled
  rw [hp]
  exact hm.setState hj (.inl hs) .cancelled p

end Orderly
end Session
end RemoteScreen
