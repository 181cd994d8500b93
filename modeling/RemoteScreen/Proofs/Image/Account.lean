import Mathlib.Data.List.Perm.Subperm
import RemoteScreen.Proofs.Image.Traffic

/-! What is pending is in account with the jobs, however requests, workers and cancellations
interleave. -/
namespace RemoteScreen
namespace Loader

/-- The numbers of the jobs that are neither finished nor cancelled. -/
def unsettled (l : Loader) : List Nat :=
  (List.range l.jobs.length).filter fun n => !(l.jobIn .finished n || l.jobIn .cancelled n)

theorem mem_unsettled {l : Loader} {n : Nat} :
    n ∈ l.unsettled ↔ ∃ j, l.jobs[n]? = some j ∧ j.unfinished := by
  simp only [unsettled, List.mem_filter, List.mem_range, jobIn]
  rcases hj : l.jobs[n]? with - | j
  · simpa using List.getElem?_eq_none_iff.1 hj
  · have hlt := (List.getElem?_eq_some_iff.1 hj).1
    rcases hstate : j.state <;> simp [hlt, hstate, Job.unfinished]

theorem countP_unsettled (l : Loader) :
    l.unsettled.countP (l.jobIn .queued) = l.queued.length := by
  rw [List.countP_eq_length_filter, queued, inState, unsettled, List.filter_filter]
  congr 1
  refine List.filter_congr fun n _ => ?_
  rcases hj : l.jobs[n]? with - | j
  · simp [jobIn, hj]
  · rcases hstate : j.state <;> simp [jobIn, hj, hstate]

/-! Cancelling one job after the other -/

theorem queued_settleJob {l : Loader} {n : Nat} (h : l.jobIn .queued n = true) (k : Nat) :
    (l.settleJob n .cancelled).jobIn .queued k = (l.jobIn .queued k && k != n) := by
  obtain ⟨j, hj, -⟩ := jobIn_iff.1 h
  obtain ⟨p, hp⟩ := settleJob_eq l n .cancelled
  rw [hp]
  by_cases hk : k = n
  · simp [jobIn, Loader.setState, hk, hj]
  · simp [jobIn, Loader.setState, hk, Ne.symm hk]

theorem cancelEach_cons (l : Loader) (n : Nat) (ns : List Nat) :
    l.cancelEach (n :: ns) = if l.jobIn .queued n then
      (((l.settleJob n .cancelled).cancelEach ns).1,
        ((l.settleJob n .cancelled).cancelEach ns).2 + 1)
    else l.cancelEach ns := by
  have hcount (ns : List Nat) (l : Loader) (count : Nat) :
      ns.foldl (fun acc n => if acc.1.jobIn .queued n then
          (acc.1.settleJob n .cancelled, acc.2 + 1) else acc) (l, count) =
        ((l.cancelEach ns).1, (l.cancelEach ns).2 + count) := by
    unfold cancelEach
    induction ns generalizing l count with
    | nil => simp
    | cons n ns ih =>
      simp only [List.foldl_cons]
      split
      · rw [ih, ih _ (0 + 1)]
        simp only [Prod.mk.injEq, true_and]
        omega
      · rw [ih]
  rw [cancelEach, List.foldl_cons]
  split
  · rw [hcount]
  · rfl

/-- Cancelling leaves the queued jobs that it was not told of. -/
theorem queued_cancelEach (l : Loader) (ns : List Nat) (k : Nat) :
    (l.cancelEach ns).1.jobIn .queued k = (l.jobIn .queued k && !ns.contains k) := by
  induction ns generalizing l with
  | nil => simp [cancelEach]
  | cons n ns ih =>
    rw [cancelEach_cons]
    split
    case isTrue h =>
      rw [ih, queued_settleJob h]
      by_cases hk : k = n
      · simp [hk]
      · simp [hk, bne_iff_ne.2 hk]
    case isFalse h =>
      rw [ih]
      by_cases hk : k = n
      · simp [hk, h]
      · simp [hk]

theorem cancelEach_count {ns : List Nat} (hns : ns.Nodup) (l : Loader) :
    (l.cancelEach ns).2 = ns.countP (l.jobIn .queued) := by
  induction ns generalizing l with
  | nil => rfl
  | cons n ns ih =>
    obtain ⟨hn, hrest⟩ := List.nodup_cons.1 hns
    rw [cancelEach_cons]
    split
    case isTrue h =>
      have hsame : ns.countP ((l.settleJob n .cancelled).jobIn .queued) =
          ns.countP (l.jobIn .queued) := by
        refine List.countP_congr fun k hk => ?_
        have hkn : k ≠ n := fun he => hn (he ▸ hk)
        simp [queued_settleJob h, hkn]
      rw [List.countP_cons_of_pos h]
      simp only [ih hrest, hsame]
    case isFalse h => rw [List.countP_cons_of_neg h, ih hrest]

theorem cancelEach_closed (l : Loader) (ns : List Nat) :
    (({ l with closed := true } : Loader).cancelEach ns).1 =
      { (l.cancelEach ns).1 with closed := true } := by
  induction ns generalizing l with
  | nil => rfl
  | cons n ns ih =>
    have hsettle : ({ l with closed := true } : Loader).settleJob n .cancelled =
        { l.settleJob n .cancelled with closed := true } := by
      rcases hj : l.jobs[n]? with - | j
      · simp [settleJob, Loader.setState, hj]
      · rcases hw : j.watched <;> simp [settleJob, Loader.setState, Loader.forget, hj, hw]
    have hjob : ({ l with closed := true } : Loader).jobIn .queued n = l.jobIn .queued n := rfl
    rw [cancelEach_cons, cancelEach_cons, hsettle, hjob]
    split
    · exact ih _
    · exact ih l

namespace Traffic

variable {s : Traffic} {n : Nat}

/-! What a move does to a job -/

/-- A job goes from queued to running to finished, or from queued to cancelled. -/
inductive Onward : JobState → JobState → Prop where
  | stay (state : JobState) : Onward state state
  | start : Onward .queued .running
  | finish : Onward .running .finished
  | cancel : Onward .queued .cancelled

theorem Onward.of_cancelled {state : JobState} (h : Onward .cancelled state) :
    state = .cancelled := by
  cases h
  rfl

theorem Onward.to_queued {state : JobState} (h : Onward state .queued) : state = .queued := by
  cases h
  rfl

theorem onward_setState {j : Job} (hj : s.loader.jobs[n]? = some j) {k : Nat} {i : Job}
    {state : JobState} (hi : s.loader.jobs[k]? = some i) (h : Onward i.state state) :
    ∃ j', (s.loader.setState k state).jobs[n]? = some j' ∧ Onward j.state j'.state := by
  by_cases hk : k = n
  · subst hk
    obtain rfl := Option.some.inj (hi.symm.trans hj)
    exact ⟨{ i with state }, by simp [Loader.setState, hi], h⟩
  · exact ⟨j, by simp [Loader.setState, hk, hj], .stay _⟩

theorem move_onward {j : Job} (hj : s.loader.jobs[n]? = some j) (m : Move) :
    ∃ j', (s.move m).loader.jobs[n]? = some j' ∧ Onward j.state j'.state := by
  have hstay : ∃ j', s.loader.jobs[n]? = some j' ∧ Onward j.state j'.state := ⟨j, hj, .stay _⟩
  cases m <;> simp only [move]
  case submit region pass =>
    split
    · exact hstay
    · have hlt := (List.getElem?_eq_some_iff.1 hj).1
      exact ⟨j, by simp [Loader.submit, List.getElem?_append_left hlt, hj], .stay _⟩
  case track k => split <;> exact hstay
  case watch k =>
    split
    · simp only [Loader.watch]
      split
      · exact hstay
      · by_cases hk : k = n
        · exact ⟨{ j with watched := true }, by simp [hk, hj], .stay _⟩
        · exact ⟨j, by simp [hk, hj], .stay _⟩
    · exact hstay
  case start k =>
    split
    case isTrue h =>
      obtain ⟨i, hi, hstate⟩ := jobIn_iff.1 h
      exact onward_setState hj hi (hstate ▸ .start)
    case isFalse => exact hstay
  case fetch k url outcome => split <;> exact hstay
  case put k => split <;> exact hstay
  case finish k =>
    split
    case h_1 h _ =>
      obtain ⟨i, hi, hstate⟩ := jobIn_iff.1 h
      exact onward_setState hj hi (hstate ▸ .finish)
    case h_2 => exact hstay
  case cancel k =>
    split
    case isTrue h =>
      obtain ⟨i, hi, hstate⟩ := jobIn_iff.1 h
      exact onward_setState hj hi (hstate ▸ .cancel)
    case isFalse => exact hstay
  case callback k => split <;> exact hstay
  case take =>
    simp only [takeCompletion?]
    rcases s.loader.completed with - | ⟨c, cs⟩ <;> exact hstay
  case close => exact hstay

/-- A request hands in a job; no other move does. -/
theorem length_jobs_move {m : Move} (hm : m.isSubmit = false) :
    (s.move m).loader.jobs.length = s.loader.jobs.length := by
  cases m <;> simp only [move]
  case submit => cases hm
  case take =>
    simp only [takeCompletion?]
    rcases s.loader.completed with - | ⟨c, cs⟩ <;> rfl
  case watch k =>
    split
    · simp only [Loader.watch]
      split <;> simp [Loader.forget]
    · rfl
  all_goals split <;> simp [Loader.setState, Loader.track, Loader.forget, settle]

theorem cancelled_run (h : s.loader.jobIn .cancelled n = true) (moves : List Move) :
    (s.run moves).loader.jobIn .cancelled n = true := by
  induction moves generalizing s with
  | nil => exact h
  | cons m moves ih =>
    obtain ⟨j, hj, hstate⟩ := jobIn_iff.1 h
    obtain ⟨j', hj', honward⟩ := move_onward hj m
    refine ih (jobIn_iff.2 ⟨j', hj', ?_⟩)
    exact (hstate ▸ honward).of_cancelled

/-- Only a request makes a job queued. -/
theorem queued_run {moves : List Move} (hmoves : ∀ m ∈ moves, m.isSubmit = false)
    (h : s.loader.jobIn .queued n = false) : (s.run moves).loader.jobIn .queued n = false := by
  induction moves generalizing s with
  | nil => exact h
  | cons m moves ih =>
    refine ih (fun m hm => hmoves m (List.mem_cons_of_mem _ hm)) ?_
    rw [Bool.eq_false_iff, ne_eq, jobIn_iff]
    rintro ⟨j', hj', hstate⟩
    have hlt := (List.getElem?_eq_some_iff.1 hj').1
    rw [length_jobs_move (hmoves m List.mem_cons_self)] at hlt
    obtain ⟨j, hj⟩ : ∃ j, s.loader.jobs[n]? = some j := ⟨_, List.getElem?_eq_getElem hlt⟩
    obtain ⟨i, hi, honward⟩ := move_onward hj m
    obtain rfl := Option.some.inj (hi.symm.trans hj')
    have := jobIn_iff.2 ⟨j, hj, (hstate ▸ honward).to_queued⟩
    simp [h] at this

theorem asked_withCourse {k : Nat} {c : Course}
    (hc : c.asked = .submitted → (s.course k).asked = .submitted)
    (h : (s.course n).asked ≠ .submitted) : ((s.withCourse k c).course n).asked ≠ .submitted := by
  by_cases hk : n = k
  · subst hk
    simpa [withCourse] using fun hs => h (hc hs)
  · simpa [withCourse, hk] using h

/-- A request is not taken back. -/
theorem asked_run (h : (s.course n).asked ≠ .submitted) (moves : List Move) :
    ((s.run moves).course n).asked ≠ .submitted := by
  induction moves generalizing s with
  | nil => exact h
  | cons m moves ih =>
    refine ih ?_
    cases m <;> simp only [move]
    case take =>
      simp only [takeCompletion?]
      rcases s.loader.completed with - | ⟨c, cs⟩ <;> exact h
    case close => exact h
    case track k =>
      split
      · exact asked_withCourse (by simp) h
      · exact h
    case watch k =>
      split
      · exact asked_withCourse (by simp) h
      · exact h
    -- the others leave how far requests have come
    all_goals
      split <;> first
        | exact h
        | exact asked_withCourse id h

/-! What is in account -/

/-- A job that is not pending any more, and was not cancelled, has put one completion. -/
theorem InAccount.put_of_left (h : s.InAccount) (hasked : (s.course n).asked ≠ .submitted)
    (hleft : n ∉ s.loader.pending) (hkept : s.loader.jobIn .cancelled n = false) :
    s.putCount n = 1 := by
  rcases hj : s.loader.jobs[n]? with - | j
  · simp [(h.of_none hj).1] at hasked
  obtain ⟨hbooked, hserved⟩ := h.of_job hj
  have hcancelled : j.state ≠ .cancelled := fun he => by simp [jobIn_iff.2 ⟨j, hj, he⟩] at hkept
  rcases hstage : (s.course n).asked <;> rcases hstate : j.state <;>
    rcases hworked : (s.course n).worked <;> simp_all [Entry.Booked, Entry.Served, entry]

theorem InAccount.asked_of_pending (h : s.InAccount) (hn : n ∈ s.loader.pending) :
    (s.course n).asked ≠ .submitted := by
  intro hasked
  rcases hj : s.loader.jobs[n]? with - | j
  · exact (h.of_none hj).2.1 hn
  · have := (h.of_job hj).1
    simp [Entry.Booked, entry, hasked, hn] at this

/-- A cancelled job has not asked for its URL. -/
theorem InAccount.cancelled (h : s.InAccount) (hn : s.loader.jobIn .cancelled n = true) :
    s.fetchCount n = 0 ∧ s.putCount n = 0 := by
  obtain ⟨j, hj, hstate⟩ := jobIn_iff.1 hn
  obtain ⟨-, hserved⟩ := h.of_job hj
  rcases hworked : (s.course n).worked <;> simp_all [Entry.Served, entry]

/-- When no request is midway and every callback has run, what is pending is what is not over. -/
theorem InAccount.mem_pending (h : s.InAccount) (hquiet : s.Quiet) :
    n ∈ s.loader.pending ↔ ∃ j, s.loader.jobs[n]? = some j ∧ j.unfinished := by
  rcases hj : s.loader.jobs[n]? with - | j
  · simpa using (h.of_none hj).2.1
  · obtain ⟨hasked, howed⟩ := hquiet n (List.getElem?_eq_some_iff.1 hj).1
    have hbooked := (h.of_job hj).1
    rcases hstate : j.state <;> simp_all [Entry.Booked, entry, Job.unfinished]

theorem InAccount.known (h : s.InAccount) (hquiet : s.Quiet) :
    ∀ n ∈ s.loader.pending, n < s.loader.jobs.length := by
  intro n hn
  obtain ⟨j, hj, -⟩ := (h.mem_pending hquiet).1 hn
  exact (List.getElem?_eq_some_iff.1 hj).1

theorem InAccount.pending_perm (h : s.InAccount) (hquiet : s.Quiet) :
    s.loader.pending.Perm s.loader.unsettled := by
  have hnodup : s.loader.unsettled.Nodup := List.nodup_range.filter _
  exact (List.perm_ext_iff_of_nodup h.once hnodup).2 fun n => by
    rw [h.mem_pending hquiet, mem_unsettled]

/-! Cancelling what is pending -/

/-- What a call to cancel what is pending does, move by move. -/
def cancelling (ns : List Nat) : List Move := ns.flatMap fun n => [.cancel n, .callback n]

/-- A job is cancelled and its callback runs at once. -/
theorem run_cancel (h : s.InAccount) (hquiet : s.Quiet) (hn : n < s.loader.jobs.length) :
    (s.run [.cancel n, .callback n]).loader =
        (if s.loader.jobIn .queued n then s.loader.settleJob n .cancelled else s.loader) ∧
      (s.run [.cancel n, .callback n]).Quiet := by
  obtain ⟨hasked, howed⟩ := hquiet n hn
  by_cases hqueued : s.loader.jobIn .queued n = true
  · obtain ⟨j, hj, hstate⟩ := jobIn_iff.1 hqueued
    have hwatched : j.watched = true := by
      have := (h.of_job hj).1
      simp only [Entry.Booked, entry, hasked, hstate] at this
      exact this.2.1
    have hmoves : s.run [.cancel n, .callback n] =
        { s.withCourse n { s.course n with owed := false } with
          loader := s.loader.settleJob n .cancelled } := by
      simp [move, hqueued, settle, isWatched, hj, hwatched, withCourse, settleJob,
        Loader.setState]
    rw [hmoves, if_pos hqueued]
    refine ⟨rfl, fun k hk => ?_⟩
    by_cases hkn : k = n
    · simp [withCourse, hkn, hasked]
    · have hlt : k < s.loader.jobs.length := by
        obtain ⟨p, hp⟩ := settleJob_eq s.loader n .cancelled
        simpa [hp, Loader.setState] using hk
      simpa [withCourse, hkn] using hquiet k hlt
  · have hmoves : s.run [.cancel n, .callback n] = s := by simp [move, hqueued, howed]
    rw [hmoves, if_neg hqueued]
    exact ⟨rfl, hquiet⟩

theorem run_cancelling {ns : List Nat} (h : s.InAccount) (hquiet : s.Quiet)
    (hns : ∀ n ∈ ns, n < s.loader.jobs.length) :
    (s.run (cancelling ns)).loader = (s.loader.cancelEach ns).1 ∧
      (s.run (cancelling ns)).Quiet := by
  induction ns generalizing s with
  | nil => exact ⟨rfl, hquiet⟩
  | cons n ns ih =>
    have hrun : s.run (cancelling (n :: ns)) =
        (s.run [.cancel n, .callback n]).run (cancelling ns) := rfl
    obtain ⟨hloader, hquiet'⟩ := run_cancel h hquiet (hns n List.mem_cons_self)
    have hlength : (s.run [.cancel n, .callback n]).loader.jobs.length = s.loader.jobs.length := by
      rw [run_cons, run_cons, run_nil, length_jobs_move rfl, length_jobs_move rfl]
    obtain ⟨hrest, hend⟩ := ih (h.run _) hquiet' fun k hk =>
      hlength ▸ hns k (List.mem_cons_of_mem n hk)
    rw [hrun, cancelEach_cons]
    refine ⟨?_, hend⟩
    rw [hrest, hloader]
    split <;> rfl

/-- No queued job is left. -/
theorem InAccount.queued_cancelled (h : s.InAccount) (hquiet : s.Quiet) (n : Nat) :
    (s.run (cancelling s.loader.pending)).loader.jobIn .queued n = false := by
  rw [(run_cancelling h hquiet (h.known hquiet)).1, queued_cancelEach]
  rcases hn : s.loader.jobIn .queued n with - | -
  · rfl
  · obtain ⟨j, hj, hstate⟩ := jobIn_iff.1 hn
    simp [(h.mem_pending hquiet).2 ⟨j, hj, .inl hstate⟩]

/-! The steps of the loader itself are runs of moves -/

/-- A request whose moves are not interrupted. -/
theorem run_request (h : s.InAccount) (hopen : s.loader.closed = false) (region : Nat)
    (pass : Option Pass) :
    (s.run [.submit region pass, .track s.loader.jobs.length, .watch s.loader.jobs.length]).loader =
      s.loader.enqueue region pass := by
  obtain ⟨hcourse, -⟩ := h.of_none (n := s.loader.jobs.length) (by simp)
  simp [move, hopen, hcourse, withCourse, Loader.submit, enqueue, Loader.track]

theorem run_start {m : Loader} (hstart : s.loader.start? = some (m, n)) :
    (s.run [.start n]).loader = m := by
  obtain ⟨hn, rfl⟩ := start?_eq_some hstart
  have hqueued : s.loader.jobIn .queued n = true := (List.mem_filter.1 hn).2
  simp [move, hqueued]

/-- A worker that is not interrupted. -/
theorem run_finish (h : s.InAccount) (hquiet : s.Quiet)
    (hrunning : s.loader.jobIn .running n = true) (hbegun : (s.course n).worked = .begun)
    (url : String) :
    (s.run [.fetch n url (s.loader.retrieve url), .put n, .finish n, .callback n]).loader =
      s.loader.finish n url := by
  obtain ⟨j, hj, hstate⟩ := jobIn_iff.1 hrunning
  have hlt := (List.getElem?_eq_some_iff.1 hj).1
  obtain ⟨hasked, howed⟩ := hquiet n hlt
  have hwatched : j.watched = true := by
    have := (h.of_job hj).1
    simp only [Entry.Booked, entry, hasked, hstate] at this
    exact this.2.1
  simp [move, hbegun, withCourse, hj, settle, Loader.finish, settleJob, isWatched, jobIn, hstate,
    hwatched, Loader.setState]

theorem run_shutdown (h : s.InAccount) (hquiet : s.Quiet) :
    (s.run (.close :: cancelling s.loader.queued)).loader = s.loader.shutdown := by
  have hclosed : (s.move .close).InAccount := h.move .close
  have hns : ∀ n ∈ s.loader.queued, n < s.loader.jobs.length := fun n hn =>
    List.mem_range.1 (List.mem_filter.1 hn).1
  rw [run_cons, (run_cancelling hclosed hquiet hns).1]
  exact cancelEach_closed s.loader s.loader.queued

/-! A whole run -/

/-- However requests, workers, cancellations, drains and a shutdown interleave: what was fetched and
put is what the loader has of it; a job that has left the pending ones was cancelled or has put one
completion; a cancelled job never asks for its URL and never puts a completion. When no request is
midway and every callback has run, the pending ones are those that are neither finished nor
cancelled; cancelling them counts the queued ones and leaves the running ones, and until there is a
new request there is nothing more to cancel. -/
theorem pending_accounted {retrieve : String → Except String Value} {workers : Nat}
    {currency : Currency} {moves : List Move} (hs : (new retrieve workers currency).run moves = s) :
    s.loader.fetched = s.fetches.map Prod.snd ∧
    s.puts.map Prod.snd = s.taken ++ s.loader.completed ∧
    (∀ before after, moves = before ++ after → ∀ n,
      n ∈ ((new retrieve workers currency).run before).loader.pending → n ∉ s.loader.pending →
      s.loader.jobIn .cancelled n = false → s.putCount n = 1) ∧
    (∀ n, s.loader.jobIn .cancelled n = true → ∀ later,
      (s.run later).fetchCount n = 0 ∧ (s.run later).putCount n = 0) ∧
    (s.Quiet →
      s.loader.pendingCount = s.loader.unsettled.length ∧
      s.loader.cancelPending.2 = s.loader.queued.length ∧
      let t := s.run (cancelling s.loader.pending)
      t.loader = s.loader.cancelPending.1 ∧
      (∀ n ∈ t.loader.pending, t.loader.jobIn .running n = true) ∧
      ∀ later, (∀ m ∈ later, m.isSubmit = false) →
        (t.run later).loader.cancelPending.2 = 0) := by
  have h : s.InAccount := hs ▸ (inAccount_new retrieve workers currency).run moves
  refine ⟨h.urls, h.completions, ?_, ?_, fun hquiet => ?_⟩
  · intro before after hmoves n hn hleft hkept
    have hbefore := (inAccount_new retrieve workers currency).run before
    refine h.put_of_left ?_ hleft hkept
    have hasked := asked_run (hbefore.asked_of_pending hn) after
    rwa [← run_append, ← hmoves, hs] at hasked
  · intro n hn later
    exact (h.run later).cancelled (cancelled_run hn later)
  · obtain ⟨hloader, hquiet'⟩ := run_cancelling h hquiet (h.known hquiet)
    have hcount : s.loader.cancelPending.2 = s.loader.queued.length := by
      rw [cancelPending, cancelEach_count h.once, (h.pending_perm hquiet).countP_eq,
        s.loader.countP_unsettled]
    refine ⟨(h.pending_perm hquiet).length_eq, hcount, hloader, ?_, ?_⟩
    · intro n hn
      obtain ⟨j, hj, hqueued | hrunning⟩ := ((h.run _).mem_pending hquiet').1 hn
      · have := jobIn_iff.2 ⟨j, hj, hqueued⟩
        rw [h.queued_cancelled hquiet] at this
        cases this
      · exact jobIn_iff.2 ⟨j, hj, hrunning⟩
    · intro later hlater
      rw [cancelPending, cancelEach_count ((h.run _).run later).once, List.countP_eq_zero]
      intro n _
      rw [queued_run hlater (h.queued_cancelled hquiet n)]
      exact Bool.false_ne_true

/-- Job 0 finishes before its request makes it pending. -/
def hurried : List Move :=
  [.submit 0 none, .start 0, .fetch 0 "a" (.error "gone"), .put 0, .finish 0, .track 0]

/-- Job 1 is cancelled before it is pending, job 2 runs, and job 3 waits. -/
def belated : List Move :=
  [.watch 0, .submit 1 none, .cancel 1, .track 1, .watch 1,
    .submit 2 none, .track 2, .watch 2, .start 2, .submit 3 none, .track 3, .watch 3]

/-- What is left of them with one worker. -/
def crossed : Traffic := (new (fun _ => .error "") 1 .always).run (hurried ++ belated)

theorem pending_accounted_crossed :
    0 ∈ ((new (fun _ => .error "") 1 .always).run hurried).loader.pending ∧
      0 ∉ crossed.loader.pending ∧ crossed.loader.jobIn .cancelled 0 = false ∧
      crossed.putCount 0 = 1 ∧ crossed.loader.jobIn .cancelled 1 = true ∧
      crossed.fetchCount 1 = 0 ∧ crossed.Quiet ∧ crossed.loader.pendingCount = 2 ∧
      crossed.loader.cancelPending.2 = 1 ∧
      crossed.loader.cancelPending.1.cancelPending.2 = 0 := by
  have hpending : 0 ∈ ((new (fun _ => .error "") 1 .always).run hurried).loader.pending := by
    decide +kernel
  have hleft : 0 ∉ crossed.loader.pending := by decide +kernel
  have hkept : crossed.loader.jobIn .cancelled 0 = false := by decide +kernel
  have hcancelled : crossed.loader.jobIn .cancelled 1 = true := by decide +kernel
  have hquiet : crossed.Quiet := by
    unfold Quiet
    decide +kernel
  have hrun : (new (fun _ => .error "") 1 .always).run (hurried ++ belated) = crossed := rfl
  obtain ⟨-, -, hput, hnothing, hcounts⟩ := pending_accounted hrun
  obtain ⟨hcount, hcancel, hloader, -, hagain⟩ := hcounts hquiet
  have hagain := hagain [] fun m hm => absurd hm List.not_mem_nil
  rw [run_nil, hloader] at hagain
  refine ⟨hpending, hleft, hkept, hput hurried belated rfl 0 hpending hleft hkept, hcancelled,
    (hnothing 1 hcancelled []).1, hquiet, hcount.trans ?_, hcancel.trans ?_, hagain⟩
  · decide +kernel
  · decide +kernel

end Traffic
end Loader
end RemoteScreen
