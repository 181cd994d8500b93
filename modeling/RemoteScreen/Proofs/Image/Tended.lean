import RemoteScreen.Proofs.Image.Work

/-! One region of the current pass: its image is on its way, or has come. It is at one stage at a
time, and only a later pass can make it miss the image. -/
namespace RemoteScreen
namespace Session

variable {υ : Type} {s t : Session υ} {l m : Loader} {j : Job} {n : Nat} {r : Region Nat}
  {fs : List Fetched}

def fetchesOf (n : Nat) (fs : List Fetched) : List Fetched := fs.filter fun f => f.region == n

/-! One region -/

/-- Job `j` of the current pass serves region `n`. -/
structure Serving (n : Nat) (s : Session υ) (l : Loader) (j : Job) (r : Region Nat) : Prop where
  order : Orderly s l
  job : j ∈ l.jobs
  region : j.region = n
  current : s.tracker.isCurrent j.pass = true
  here : s.regions[n]? = some r

/-- The image of region `n` is on its way, or has come: nothing has been fetched for the region and
its job is not over, or one thing has been fetched for it, which waits or is shown. -/
inductive Tended (fs : List Fetched) (n : Nat) (s : Session υ) : Prop
  | awaited {l : Loader} {j : Job} {r : Region Nat} (h : Serving n s l j r)
      (unfinished : j.unfinished) (none : fetchesOf n fs = [])
  | arrived {l : Loader} {j : Job} {r : Region Nat} {o : Except String Value}
      (h : Serving n s l j r) (finished : j.state = .finished)
      (one : fetchesOf n fs = [⟨n, r.url, o⟩]) (waits : Waits ⟨n, j.pass, o⟩ s)
  | shown {l : Loader} {j : Job} {r : Region Nat} {o : Except String Value}
      (h : Serving n s l j r) (finished : j.state = .finished)
      (one : fetchesOf n fs = [⟨n, r.url, o⟩]) (shows : r.Shows o)

theorem Serving.imagesKept (h : Serving n s l j r) (k : ImagesKept s t) :
    ∃ ls, Serving n t l j { r with listeners := ls } := by
  obtain ⟨ls, ht⟩ := k.regions n r h.here
  exact ⟨ls, h.order.imagesKept k, h.job, h.region, k.tracker ▸ h.current, ht⟩

theorem Tended.imagesKept (h : Tended fs n s) (k : ImagesKept s t) : Tended fs n t := by
  cases h with
  | awaited h unfinished none =>
    obtain ⟨ls, h⟩ := h.imagesKept k
    exact .awaited h unfinished none
  | arrived h finished one waits =>
    obtain ⟨ls, h⟩ := h.imagesKept k
    exact .arrived h finished one (waits.imagesKept k)
  | shown h finished one shows =>
    obtain ⟨ls, h⟩ := h.imagesKept k
    exact .shown h finished one (shows.congr rfl rfl)

/-! Draining -/

/-- What a drain does to a job and to a region that waits for a job or is at its end. -/
theorem Tended.drained (h : Tended fs n s) (horder : ∃ m, Orderly t m) (hdrained : Drained s t)
    (hdue : ∀ c, Stays (Due c) s t) : Tended fs n t := by
  have hserving {l : Loader} {j : Job} {r : Region Nat} (h : Serving n s l j r) :
      ∃ m r', Serving n t m j r' ∧ r'.url = r.url ∧
        (r.state ≠ .loading → r'.state = r.state ∧ r'.image = r.image) := by
    obtain ⟨cs, ht, -⟩ := hdrained.loader l h.order.loader
    obtain ⟨m, hm⟩ := horder
    obtain rfl := Option.some.inj (ht.symm.trans hm.loader)
    obtain ⟨r', hr', hurl, hstate⟩ := hdrained.regions n r h.here
    refine ⟨_, r', ⟨hm, h.job, h.region, hdrained.tracker ▸ h.current, hr'⟩, hurl, fun hne => ?_⟩
    rcases hstate with hsame | ⟨hloading, -⟩
    · exact hsame
    · exact absurd hloading hne
  cases h with
  | awaited h unfinished none =>
    obtain ⟨m, r', h', -⟩ := hserving h
    exact .awaited h' unfinished none
  | @arrived l j r o h finished one waits =>
    obtain ⟨m, r', h', hurl, -⟩ := hserving h
    have hc := hdue ⟨n, j.pass, o⟩ ⟨⟨l, h.order⟩, h.current, .inl waits⟩
    rcases hc.place with hwaits | ⟨r'', hr'', hshows⟩
    · exact .arrived h' finished (hurl ▸ one) hwaits
    · obtain rfl := Option.some.inj (h'.here.symm.trans hr'')
      exact .shown h' finished (hurl ▸ one) hshows
  | shown h finished one shows =>
    obtain ⟨m, r', h', hurl, hsame⟩ := hserving h
    obtain ⟨hstate, himage⟩ := hsame shows.not_loading
    exact .shown h' finished (hurl ▸ one) (shows.congr hstate himage)

/-! The pool -/

theorem fetchesOf_append (n : Nat) (fs gs : List Fetched) :
    fetchesOf n (fs ++ gs) = fetchesOf n fs ++ fetchesOf n gs := List.filter_append fs gs

theorem fetchesOf_other {f : Option Fetched} (h : ∀ g ∈ f, g.region ≠ n) :
    fetchesOf n f.toList = [] := by
  cases f with
  | none => rfl
  | some f => simpa [fetchesOf] using h f rfl

theorem Tended.pool (h : Tended fs n s) (w : PoolStep) :
    Tended (fs ++ (w.fetched? s).toList) n (next w.act s) := by
  -- only the loader changes, so a job that is still there serves the region as before
  have hserving {l m : Loader} {j i : Job} {r : Region Nat} (h : Serving n s l j r)
      (hm : next w.act s = { s with loader := some m }) (hi : i ∈ m.jobs) (hask : i.ask = j.ask) :
      Serving n (next w.act s) m i r := by
    obtain ⟨m', hm'⟩ := h.order.pool w
    have hloader := hm'.loader
    rw [hm] at hloader
    obtain rfl := Option.some.inj hloader
    obtain ⟨hregion, hpass⟩ := Prod.mk.inj hask
    have hcurrent := h.current
    rw [← hpass] at hcurrent
    refine ⟨hm', hi, hregion.trans h.region, ?_, ?_⟩
    · rw [hm]
      exact hcurrent
    · rw [hm]
      exact h.here
  cases h with
  | @awaited l j r h unfinished none =>
    obtain rfl := h.region
    obtain ⟨m, hm, -, ⟨hgoing, hother⟩ | ⟨-, hmem, o, hfetched, hwaits⟩⟩ :=
      PoolStep.job h.order w h.job h.here
    · have hnone : fetchesOf j.region (fs ++ (w.fetched? s).toList) = [] := by
        rw [fetchesOf_append, none, fetchesOf_other hother, List.nil_append]
      rcases hgoing with hmem | ⟨-, hmem⟩
      · exact .awaited (hserving h hm hmem rfl) unfinished hnone
      · exact .awaited (hserving h hm hmem rfl) (.inr rfl) hnone
    · refine .arrived (hserving h hm hmem rfl) rfl ?_ ⟨m, by rw [hm], hwaits⟩
      rw [fetchesOf_append, none, hfetched]
      simp [fetchesOf]
  | @arrived l j r o h finished one waits =>
    obtain rfl := h.region
    obtain ⟨m, hm, hcompleted, hmem, hother⟩ := w.finished_job h.order h.job finished h.here
    obtain ⟨l', hl', hc⟩ := waits
    obtain rfl := Option.some.inj (h.order.loader.symm.trans hl')
    refine .arrived (hserving h hm hmem rfl) finished ?_ ⟨m, by rw [hm], hcompleted hc⟩
    rw [fetchesOf_append, one, fetchesOf_other hother, List.append_nil]
  | @shown l j r o h finished one shows =>
    obtain rfl := h.region
    obtain ⟨m, hm, -, hmem, hother⟩ := w.finished_job h.order h.job finished h.here
    refine .shown (hserving h hm hmem rfl) finished ?_ shows
    rw [fetchesOf_append, one, fetchesOf_other hother, List.append_nil]

/-! Where an image is -/

inductive Stage where
  | queued | running | waiting | ended
  deriving DecidableEq, Repr

/-- The retrieval for region `n` is queued, or running, or its completion waits, or the region has
come to its end. -/
def At (n : Nat) (s : Session υ) : Stage → Prop
  | .queued => ∃ l j, s.loader = some l ∧ j ∈ l.jobs ∧ j.region = n ∧ j.state = .queued
  | .running => ∃ l j, s.loader = some l ∧ j ∈ l.jobs ∧ j.region = n ∧ j.state = .running
  | .waiting => ∃ l c, s.loader = some l ∧ c ∈ l.completed ∧ c.region = n
  | .ended => ∃ r, s.regions[n]? = some r ∧ r.isTerminal = true

theorem Serving.unique (h : Serving n s l j r) {i : Job} (hl : s.loader = some m) (hi : i ∈ m.jobs)
    (hregion : i.region = n) : i = j := by
  obtain rfl := Option.some.inj (h.order.loader.symm.trans hl)
  exact h.order.job_unique hi h.job (hregion.trans h.region.symm)

theorem Serving.of_waiting (h : Serving n s l j r) (k : At n s .waiting) :
    j.state = .finished ∧ r.state = .loading := by
  obtain ⟨m, c, hm, hc, hregion⟩ := k
  obtain rfl := Option.some.inj (h.order.loader.symm.trans hm)
  obtain ⟨r', hr', hloading⟩ := h.order.waiting c hc
  rw [hregion] at hr'
  obtain rfl := Option.some.inj (h.here.symm.trans hr')
  exact ⟨h.order.finished_of_waiting hc h.job (h.region.trans hregion.symm), hloading⟩

theorem Serving.loading (h : Serving n s l j r) (k : j.unfinished) : r.state = .loading := by
  obtain ⟨r', hr', hloading⟩ := h.order.awaited j h.job k
  rw [h.region] at hr'
  obtain rfl := Option.some.inj (h.here.symm.trans hr')
  exact hloading

/-- What is known of the job and of the region at each stage. -/
theorem Serving.of_at (h : Serving n s l j r) {stage : Stage} (k : At n s stage) :
    match stage with
    | .queued => j.state = .queued
    | .running => j.state = .running
    | .waiting => j.state = .finished ∧ r.state = .loading
    | .ended => r.state ≠ .loading := by
  cases stage with
  | queued =>
    obtain ⟨m, i, hm, hi, hregion, hstate⟩ := k
    exact h.unique hm hi hregion ▸ hstate
  | running =>
    obtain ⟨m, i, hm, hi, hregion, hstate⟩ := k
    exact h.unique hm hi hregion ▸ hstate
  | waiting => exact h.of_waiting k
  | ended =>
    obtain ⟨r', hr', hterminal⟩ := k
    obtain rfl := Option.some.inj (h.here.symm.trans hr')
    simpa [Region.isTerminal] using hterminal

theorem Tended.stage (h : Tended fs n s) : ∃! stage, At n s stage := by
  cases h with
  | @awaited l j r h unfinished none =>
    have hloading := h.loading unfinished
    rcases unfinished with hstate | hstate
    · refine ⟨.queued, ⟨l, j, h.order.loader, h.job, h.region, hstate⟩, fun stage k => ?_⟩
      have hat := h.of_at k
      cases stage <;> simp [hstate, hloading] at hat ⊢
    · refine ⟨.running, ⟨l, j, h.order.loader, h.job, h.region, hstate⟩, fun stage k => ?_⟩
      have hat := h.of_at k
      cases stage <;> simp [hstate, hloading] at hat ⊢
  | arrived h finished one waits =>
    obtain ⟨m, hm, hc⟩ := waits
    have hwaiting : At n s .waiting := ⟨m, _, hm, hc, rfl⟩
    have hloading := (h.of_waiting hwaiting).2
    refine ⟨.waiting, hwaiting, fun stage k => ?_⟩
    have hat := h.of_at k
    cases stage <;> simp [finished, hloading] at hat ⊢
  | @shown l j r o h finished one shows =>
    have hended := shows.not_loading
    refine ⟨.ended, ⟨r, h.here, by simpa [Region.isTerminal] using hended⟩, fun stage k => ?_⟩
    have hat := h.of_at k
    cases stage <;> simp [finished, hended] at hat ⊢

theorem Tended.not_cancelled (h : Tended fs n s) {i : Job} (hl : s.loader = some m)
    (hi : i ∈ m.jobs) (hregion : i.region = n) : i.state ≠ .cancelled := by
  cases h with
  | awaited h unfinished none =>
    rw [h.unique hl hi hregion]
    rcases unfinished with hstate | hstate <;> simp [hstate]
  | arrived h finished one waits => simp [h.unique hl hi hregion, finished]
  | shown h finished one shows => simp [h.unique hl hi hregion, finished]

/-- No retrieval is queued or running, and the queue is empty. -/
def Quiet (s : Session υ) : Prop :=
  ∃ l, s.loader = some l ∧ l.queued = [] ∧ l.running = [] ∧ l.completed = []

instance : Decidable (Quiet s) :=
  decidable_of_iff
    (s.loader.any fun l => l.queued.isEmpty && l.running.isEmpty && l.completed.isEmpty) (by
      simp [Quiet, Option.any_eq_true, and_assoc])

theorem Tended.shows_of_quiet (h : Tended fs n s) (k : Quiet s) (hr : s.regions[n]? = some r) :
    ∃ o, fetchesOf n fs = [⟨n, r.url, o⟩] ∧ r.Shows o := by
  obtain ⟨m, hm, hqueued, hrunning, hcompleted⟩ := k
  cases h with
  | @awaited l j r' h unfinished none =>
    obtain rfl := Option.some.inj (h.order.loader.symm.trans hm)
    obtain ⟨i, hi⟩ := List.mem_iff_getElem?.1 h.job
    rcases unfinished with hstate | hstate
    · have hmem : i ∈ l.queued := Loader.mem_inState.2 ⟨j, hi, hstate⟩
      rw [hqueued] at hmem
      exact absurd hmem List.not_mem_nil
    · have hmem : i ∈ l.running := Loader.mem_inState.2 ⟨j, hi, hstate⟩
      rw [hrunning] at hmem
      exact absurd hmem List.not_mem_nil
  | arrived h finished one waits =>
    obtain ⟨m', hm', hc⟩ := waits
    obtain rfl := Option.some.inj (hm.symm.trans hm')
    rw [hcompleted] at hc
    exact absurd hc List.not_mem_nil
  | shown h finished one shows =>
    obtain rfl := Option.some.inj (hr.symm.trans h.here)
    exact ⟨_, one, shows⟩

end Session
end RemoteScreen
