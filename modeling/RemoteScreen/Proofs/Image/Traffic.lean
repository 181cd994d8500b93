import Mathlib.Data.List.Count
import Mathlib.Logic.Function.Basic
import RemoteScreen.Proofs.Image.Orderly

/-! Traffic at a loader. A request hands in its job, makes it pending and registers a callback, and
the workers run the job meanwhile; a worker fetches, puts what it got in the queue and is done; a
callback runs some time after its job is over. All of these interleave in any order. -/
namespace RemoteScreen

def Job.isOver (j : Job) : Bool := j.state == .finished || j.state == .cancelled

namespace Loader

/-- How far the request for a job has come. -/
inductive Asked where
  | submitted | tracked | made
  deriving DecidableEq, Repr

/-- How far the worker that runs a job has come. -/
inductive Worked where
  | begun
  | fetched (outcome : Except String Value)
  | brought

structure Course where
  asked : Asked := .submitted
  worked : Worked := .begun
  /-- The job is over, and its callback has not run. -/
  owed : Bool := false

/-- A loader in the middle of it all, with a record of what was fetched, put and taken so far. -/
structure Traffic where
  loader : Loader
  course : Nat → Course := fun _ => {}
  fetches : List (Nat × String) := []
  puts : List (Nat × Completion) := []
  taken : List Completion := []

inductive Move where
  | submit (region : Nat) (pass : Option Pass)
  | track (n : Nat)
  | watch (n : Nat)
  /-- A worker takes a queued job, not always the oldest. -/
  | start (n : Nat)
  /-- The worker asks for the URL of job `n`, and this is what the network says. -/
  | fetch (n : Nat) (url : String) (outcome : Except String Value)
  | put (n : Nat)
  | finish (n : Nat)
  | cancel (n : Nat)
  | callback (n : Nat)
  /-- One round of a drain. -/
  | take
  | close

def Move.isSubmit : Move → Bool
  | .submit _ _ => true
  | _ => false

namespace Traffic

def new (retrieve : String → Except String Value) (workers : Nat) (currency : Currency) : Traffic :=
  { loader := { retrieve, workers, currency } }

def withCourse (s : Traffic) (n : Nat) (c : Course) : Traffic :=
  { s with course := Function.update s.course n c }

def isWatched (s : Traffic) (n : Nat) : Bool := (s.loader.jobs[n]?.map Job.watched) == some true

/-- Job `n` is over. If it is watched, its callback is to run. -/
def settle (s : Traffic) (n : Nat) (state : JobState) : Traffic :=
  { s.withCourse n { s.course n with owed := s.isWatched n } with
    loader := s.loader.setState n state }

/-- A move that is not possible changes nothing. -/
def move (s : Traffic) : Move → Traffic
  | .submit region pass =>
    if s.loader.closed then s else { s with loader := (s.loader.submit region pass).1 }
  | .track n =>
    if n < s.loader.jobs.length ∧ (s.course n).asked = .submitted then
      { s.withCourse n { s.course n with asked := .tracked } with loader := s.loader.track n }
    else s
  | .watch n =>
    if (s.course n).asked = .tracked then
      { s.withCourse n { s.course n with asked := .made } with loader := s.loader.watch n }
    else s
  | .start n =>
    if s.loader.jobIn .queued n then { s with loader := s.loader.setState n .running } else s
  | .fetch n url outcome =>
    match s.loader.jobIn .running n, (s.course n).worked with
    | true, .begun =>
      { s.withCourse n { s.course n with worked := .fetched outcome } with
        loader := { s.loader with fetched := s.loader.fetched ++ [url] }
        fetches := s.fetches ++ [(n, url)] }
    | _, _ => s
  | .put n =>
    match s.loader.jobs[n]?, (s.course n).worked with
    | some j, .fetched outcome =>
      { s.withCourse n { s.course n with worked := .brought } with
        loader := { s.loader with
          completed := s.loader.completed ++ [⟨j.region, j.pass, outcome⟩] }
        puts := s.puts ++ [(n, ⟨j.region, j.pass, outcome⟩)] }
    | _, _ => s
  | .finish n =>
    match s.loader.jobIn .running n, (s.course n).worked with
    | true, .brought => s.settle n .finished
    | _, _ => s
  | .cancel n => if s.loader.jobIn .queued n then s.settle n .cancelled else s
  | .callback n =>
    if (s.course n).owed then
      { s.withCourse n { s.course n with owed := false } with loader := s.loader.forget n }
    else s
  | .take =>
    match s.loader.takeCompletion? with
    | none => s
    | some (c, l) => { s with loader := l, taken := s.taken ++ [c] }
  | .close => { s with loader := { s.loader with closed := true } }

def run (s : Traffic) (moves : List Move) : Traffic := moves.foldl move s

/-- How many times job `n` has asked for its URL. -/
def fetchCount (s : Traffic) (n : Nat) : Nat := (s.fetches.map Prod.fst).count n

/-- How many completions job `n` has put in the queue. -/
def putCount (s : Traffic) (n : Nat) : Nat := (s.puts.map Prod.fst).count n

/-- No request is midway, and no callback is still to run. -/
def Quiet (s : Traffic) : Prop :=
  ∀ n < s.loader.jobs.length, (s.course n).asked = .made ∧ (s.course n).owed = false

@[simp] theorem run_nil (s : Traffic) : s.run [] = s := rfl

@[simp] theorem run_cons (s : Traffic) (m : Move) (moves : List Move) :
    s.run (m :: moves) = (s.move m).run moves := rfl

theorem run_append (s : Traffic) (before after : List Move) :
    s.run (before ++ after) = (s.run before).run after := List.foldl_append

/-! What every move keeps -/

/-- All that is known of one job. -/
structure Entry where
  job : Option Job
  course : Course
  pending : Bool
  fetches : Nat
  puts : Nat

def entry (s : Traffic) (n : Nat) : Entry :=
  ⟨s.loader.jobs[n]?, s.course n, s.loader.pending.contains n, s.fetchCount n, s.putCount n⟩

/-- A job is pending from its second move on, and until its callback has run. -/
def Entry.Booked (e : Entry) (j : Job) : Prop :=
  match e.course.asked with
  | .submitted => e.pending = false ∧ j.watched = false ∧ e.course.owed = false
  | .tracked => e.pending = true ∧ j.watched = false ∧ e.course.owed = false
  | .made =>
    match j.state with
    | .queued | .running => e.pending = true ∧ j.watched = true ∧ e.course.owed = false
    | .finished | .cancelled => e.pending = e.course.owed

/-- A job fetches once and puts once, while it is running. -/
def Entry.Served (e : Entry) (j : Job) : Prop :=
  match j.state, e.course.worked with
  | .queued, .begun | .cancelled, .begun | .running, .begun => e.fetches = 0 ∧ e.puts = 0
  | .running, .fetched _ => e.fetches = 1 ∧ e.puts = 0
  | .running, .brought | .finished, .brought => e.fetches = 1 ∧ e.puts = 1
  | _, _ => False

def Entry.Fits (e : Entry) : Prop :=
  match e.job with
  | none => e = ⟨none, {}, false, 0, 0⟩
  | some j => e.Booked j ∧ e.Served j

structure InAccount (s : Traffic) : Prop where
  once : s.loader.pending.Nodup
  fits : ∀ n, (s.entry n).Fits
  urls : s.loader.fetched = s.fetches.map Prod.snd
  completions : s.puts.map Prod.snd = s.taken ++ s.loader.completed

theorem inAccount_new (retrieve : String → Except String Value) (workers : Nat)
    (currency : Currency) : (new retrieve workers currency).InAccount where
  once := List.nodup_nil
  fits := fun n => by simp [new, entry, Entry.Fits, fetchCount, putCount]
  urls := rfl
  completions := rfl

variable {s t : Traffic} {n : Nat}

/-- A move concerns one job. -/
theorem InAccount.exchange (h : s.InAccount) (honce : t.loader.pending.Nodup)
    (hother : ∀ k ≠ n, t.entry k = s.entry k) (hself : (t.entry n).Fits)
    (hurls : t.loader.fetched = t.fetches.map Prod.snd)
    (hcompletions : t.puts.map Prod.snd = t.taken ++ t.loader.completed) : t.InAccount where
  once := honce
  fits := by
    intro k
    by_cases hk : k = n
    · exact hk ▸ hself
    · exact hother k hk ▸ h.fits k
  urls := hurls
  completions := hcompletions

theorem entry_of_ne {k : Nat} (hk : k ≠ n) (hjob : t.loader.jobs[k]? = s.loader.jobs[k]?)
    (hcourse : t.course k = s.course k)
    (hpending : k ∈ t.loader.pending ↔ k ∈ s.loader.pending)
    (hfetches : t.fetches = s.fetches ∨ ∃ url, t.fetches = s.fetches ++ [(n, url)])
    (hputs : t.puts = s.puts ∨ ∃ c, t.puts = s.puts ++ [(n, c)]) : t.entry k = s.entry k := by
  have hf : t.fetchCount k = s.fetchCount k := by
    rcases hfetches with he | ⟨url, he⟩ <;> simp [fetchCount, he, hk.symm]
  have hp : t.putCount k = s.putCount k := by
    rcases hputs with he | ⟨c, he⟩ <;> simp [putCount, he, hk.symm]
  simp [entry, hjob, hcourse, hf, hp, hpending]

/-- A job that has been handed in. -/
theorem InAccount.of_job (h : s.InAccount) {j : Job} (hj : s.loader.jobs[n]? = some j) :
    (s.entry n).Booked j ∧ (s.entry n).Served j := by
  have := h.fits n
  rwa [Entry.Fits, show (s.entry n).job = some j from hj] at this

theorem InAccount.of_none (h : s.InAccount) (hn : s.loader.jobs[n]? = none) :
    s.course n = {} ∧ n ∉ s.loader.pending ∧ s.fetchCount n = 0 ∧ s.putCount n = 0 := by
  have := h.fits n
  rw [Entry.Fits, show (s.entry n).job = none from hn] at this
  simpa [entry, hn] using this

theorem InAccount.submit (h : s.InAccount) (region : Nat) (pass : Option Pass) :
    (s.move (.submit region pass)).InAccount := by
  simp only [move]
  split
  · exact h
  obtain ⟨hcourse, hpending, hfetches, hputs⟩ := h.of_none (n := s.loader.jobs.length) (by simp)
  refine h.exchange (n := s.loader.jobs.length) h.once (fun k hk => ?_) ?_ h.urls h.completions
  · refine entry_of_ne hk ?_ rfl Iff.rfl (.inl rfl) (.inl rfl)
    simp only [Loader.submit]
    rcases Nat.lt_or_gt_of_ne hk with hlt | hlt
    · rw [List.getElem?_append_left hlt]
    · rw [List.getElem?_eq_none (by simp; omega), List.getElem?_eq_none (by omega)]
  · change Entry.Fits ⟨_, s.course s.loader.jobs.length, s.loader.pending.contains _,
      s.fetchCount s.loader.jobs.length, s.putCount s.loader.jobs.length⟩
    simp [Entry.Fits, Entry.Booked, Entry.Served, Loader.submit, hcourse, hfetches, hputs,
      hpending]

theorem InAccount.track (h : s.InAccount) (n : Nat) : (s.move (.track n)).InAccount := by
  simp only [move]
  split
  case isFalse => exact h
  case isTrue hn =>
    obtain ⟨hlt, hasked⟩ := hn
    obtain ⟨hbooked, hserved⟩ := h.of_job (List.getElem?_eq_getElem hlt)
    simp only [Entry.Booked, entry, hasked] at hbooked
    have hnew : n ∉ s.loader.pending := by simpa using hbooked.1
    refine h.exchange (n := n) ?_ (fun k hk => ?_) ?_ h.urls h.completions
    · exact List.nodup_append.2 ⟨h.once, List.nodup_singleton n, by
        rintro a ha b hb rfl
        exact hnew (List.mem_singleton.1 hb ▸ ha)⟩
    · exact entry_of_ne hk rfl (Function.update_of_ne hk _ _) (by simp [Loader.track, hk])
        (.inl rfl) (.inl rfl)
    · have he : ({ s.withCourse n { s.course n with asked := .tracked } with
          loader := s.loader.track n } : Traffic).entry n =
          { s.entry n with course := { s.course n with asked := .tracked }, pending := true } := by
        simp [entry, Loader.track, withCourse, fetchCount, putCount]
      rw [he]
      have hjob : (s.entry n).job = some s.loader.jobs[n] := List.getElem?_eq_getElem hlt
      simp only [Entry.Fits, hjob]
      exact ⟨⟨rfl, hbooked.2⟩, hserved⟩

theorem InAccount.watch (h : s.InAccount) (n : Nat) : (s.move (.watch n)).InAccount := by
  simp only [move]
  split
  case isFalse => exact h
  case isTrue hasked =>
    rcases hj : s.loader.jobs[n]? with - | j
    · simp [(h.of_none hj).1] at hasked
    obtain ⟨hbooked, hserved⟩ := h.of_job hj
    simp only [Entry.Booked, entry, hasked] at hbooked
    obtain ⟨hpending, hwatched, howed⟩ := hbooked
    have hover : (s.loader.jobIn .finished n || s.loader.jobIn .cancelled n) = j.isOver := by
      simp [jobIn, hj, Job.isOver]
    rw [Loader.watch, hover]
    split
    case isTrue hover =>
      refine h.exchange (n := n) (h.once.filter _) (fun k hk => ?_) ?_ h.urls h.completions
      · exact entry_of_ne hk rfl (Function.update_of_ne hk _ _) (by simp [Loader.forget, hk])
          (.inl rfl) (.inl rfl)
      · have he : ({ s.withCourse n { s.course n with asked := .made } with
            loader := s.loader.forget n } : Traffic).entry n =
            { s.entry n with course := { s.course n with asked := .made }, pending := false } := by
          simp [entry, Loader.forget, withCourse, fetchCount, putCount]
        rw [he]
        simp only [Entry.Fits, show (s.entry n).job = some j from hj]
        refine ⟨?_, hserved⟩
        rcases hstate : j.state <;> simp_all [Entry.Booked, Job.isOver]
    case isFalse hover =>
      refine h.exchange (n := n) h.once (fun k hk => ?_) ?_ h.urls h.completions
      · exact entry_of_ne hk (by simp [hk.symm]) (Function.update_of_ne hk _ _) Iff.rfl
          (.inl rfl) (.inl rfl)
      · have he : ({ s.withCourse n { s.course n with asked := .made } with
            loader := { s.loader with
              jobs := s.loader.jobs.modify n fun j => { j with watched := true } } } :
              Traffic).entry n =
            { s.entry n with
              job := some { j with watched := true }
              course := { s.course n with asked := .made } } := by
          simp [entry, withCourse, fetchCount, putCount, hj]
        rw [he]
        refine ⟨?_, hserved⟩
        rcases hstate : j.state <;> simp_all [Entry.Booked, Job.isOver, entry]

theorem InAccount.start (h : s.InAccount) (n : Nat) : (s.move (.start n)).InAccount := by
  simp only [move]
  split
  case isFalse => exact h
  case isTrue hqueued =>
    obtain ⟨j, hj, hstate⟩ := jobIn_iff.1 hqueued
    obtain ⟨hbooked, hserved⟩ := h.of_job hj
    refine h.exchange (n := n) h.once (fun k hk => ?_) ?_ h.urls h.completions
    · exact entry_of_ne hk (by simp [Loader.setState, hk.symm]) rfl Iff.rfl (.inl rfl) (.inl rfl)
    · have he : ({ s with loader := s.loader.setState n .running } : Traffic).entry n =
          { s.entry n with job := some { j with state := .running } } := by
        simp [entry, hj, Loader.setState, fetchCount, putCount]
      rw [he]
      refine ⟨?_, ?_⟩
      · simpa [Entry.Booked, hstate] using hbooked
      · rcases hworked : (s.course n).worked <;>
          simp_all [Entry.Served, entry]

theorem InAccount.fetch (h : s.InAccount) (n : Nat) (url : String)
    (outcome : Except String Value) : (s.move (.fetch n url outcome)).InAccount := by
  simp only [move]
  split
  case h_2 => exact h
  case h_1 hrunning hworked =>
    obtain ⟨j, hj, hstate⟩ := jobIn_iff.1 hrunning
    obtain ⟨hbooked, hserved⟩ := h.of_job hj
    refine h.exchange (n := n) h.once (fun k hk => ?_) ?_ ?_ h.completions
    · exact entry_of_ne hk rfl (Function.update_of_ne hk _ _) Iff.rfl (.inr ⟨url, rfl⟩) (.inl rfl)
    · have he : ({ s.withCourse n { s.course n with worked := .fetched outcome } with
          loader := { s.loader with fetched := s.loader.fetched ++ [url] }
          fetches := s.fetches ++ [(n, url)] } : Traffic).entry n =
          { s.entry n with
            course := { s.course n with worked := .fetched outcome }
            fetches := s.fetchCount n + 1 } := by
        simp [entry, withCourse, fetchCount, putCount]
      rw [he]
      simp only [Entry.Fits, show (s.entry n).job = some j from hj]
      refine ⟨hbooked, ?_⟩
      simp_all [Entry.Served, entry]
    · simp [h.urls]

theorem InAccount.put (h : s.InAccount) (n : Nat) : (s.move (.put n)).InAccount := by
  simp only [move]
  split
  case h_2 => exact h
  case h_1 j outcome hj hworked =>
    obtain ⟨hbooked, hserved⟩ := h.of_job hj
    have hrunning : j.state = .running := by
      rcases hstate : j.state <;> simp_all [Entry.Served, entry]
    refine h.exchange (n := n) h.once (fun k hk => ?_) ?_ h.urls ?_
    · exact entry_of_ne hk rfl (Function.update_of_ne hk _ _) Iff.rfl (.inl rfl) (.inr ⟨_, rfl⟩)
    · have he : ({ s.withCourse n { s.course n with worked := .brought } with
          loader := { s.loader with
            completed := s.loader.completed ++ [⟨j.region, j.pass, outcome⟩] }
          puts := s.puts ++ [(n, ⟨j.region, j.pass, outcome⟩)] } : Traffic).entry n =
          { s.entry n with
            course := { s.course n with worked := .brought }
            puts := s.putCount n + 1 } := by
        simp [entry, withCourse, fetchCount, putCount]
      rw [he]
      simp only [Entry.Fits, show (s.entry n).job = some j from hj]
      refine ⟨hbooked, ?_⟩
      simp_all [Entry.Served, entry]
    · simp [withCourse, h.completions]

/-- A queued job may be cancelled, and a job that has brought its completion may finish. -/
theorem InAccount.settle (h : s.InAccount) {j : Job} (hj : s.loader.jobs[n]? = some j)
    {state : JobState} (hunfinished : j.unfinished)
    (hover : ({ j with state } : Job).isOver = true)
    (hserved : (s.entry n).Served { j with state }) : (s.settle n state).InAccount := by
  obtain ⟨hbooked, -⟩ := h.of_job hj
  refine h.exchange (n := n) h.once (fun k hk => ?_) ?_ h.urls h.completions
  · exact entry_of_ne hk (by simp [Traffic.settle, Loader.setState, hk.symm])
      (Function.update_of_ne hk _ _) Iff.rfl (.inl rfl) (.inl rfl)
  · have hwatched : s.isWatched n = j.watched := by simp [isWatched, hj]
    have he : (s.settle n state).entry n = { s.entry n with
        job := some { j with state }
        course := { s.course n with owed := j.watched } } := by
      simp [entry, hj, Traffic.settle, withCourse, Loader.setState, fetchCount, putCount,
        hwatched]
    rw [he]
    refine ⟨?_, hserved⟩
    rcases hasked : (s.course n).asked <;> rcases hunfinished with hs | hs <;>
      rcases state <;> simp_all [Entry.Booked, entry, Job.isOver]

theorem InAccount.finish (h : s.InAccount) (n : Nat) : (s.move (.finish n)).InAccount := by
  simp only [move]
  split
  case h_2 => exact h
  case h_1 hrunning hworked =>
    obtain ⟨j, hj, hstate⟩ := jobIn_iff.1 hrunning
    obtain ⟨-, hserved⟩ := h.of_job hj
    refine h.settle hj (.inr hstate) rfl ?_
    simpa [Entry.Served, entry, hworked, hstate] using hserved

theorem InAccount.cancel (h : s.InAccount) (n : Nat) : (s.move (.cancel n)).InAccount := by
  simp only [move]
  split
  case isFalse => exact h
  case isTrue hqueued =>
    obtain ⟨j, hj, hstate⟩ := jobIn_iff.1 hqueued
    obtain ⟨-, hserved⟩ := h.of_job hj
    refine h.settle hj (.inl hstate) rfl ?_
    rcases hworked : (s.course n).worked <;> simp_all [Entry.Served, entry]

theorem InAccount.callback (h : s.InAccount) (n : Nat) : (s.move (.callback n)).InAccount := by
  simp only [move]
  split
  case isFalse => exact h
  case isTrue howed =>
    rcases hj : s.loader.jobs[n]? with - | j
    · simp [(h.of_none hj).1] at howed
    obtain ⟨hbooked, hserved⟩ := h.of_job hj
    refine h.exchange (n := n) (h.once.filter _) (fun k hk => ?_) ?_ h.urls h.completions
    · exact entry_of_ne hk rfl (Function.update_of_ne hk _ _) (by simp [Loader.forget, hk])
        (.inl rfl) (.inl rfl)
    · have he : ({ s.withCourse n { s.course n with owed := false } with
          loader := s.loader.forget n } : Traffic).entry n =
          { s.entry n with course := { s.course n with owed := false }, pending := false } := by
        simp [entry, Loader.forget, withCourse, fetchCount, putCount]
      rw [he]
      simp only [Entry.Fits, show (s.entry n).job = some j from hj]
      refine ⟨?_, hserved⟩
      rcases hasked : (s.course n).asked <;> rcases hstate : j.state <;>
        simp_all [Entry.Booked, entry]

theorem InAccount.move (h : s.InAccount) (m : Move) : (s.move m).InAccount := by
  cases m with
  | submit region pass => exact h.submit region pass
  | track n => exact h.track n
  | watch n => exact h.watch n
  | start n => exact h.start n
  | fetch n url outcome => exact h.fetch n url outcome
  | put n => exact h.put n
  | finish n => exact h.finish n
  | cancel n => exact h.cancel n
  | callback n => exact h.callback n
  | take =>
    simp only [Traffic.move, takeCompletion?]
    rcases hc : s.loader.completed with - | ⟨c, cs⟩
    · exact h
    · exact ⟨h.once, h.fits, h.urls, by simp [h.completions, hc]⟩
  | close => exact ⟨h.once, h.fits, h.urls, h.completions⟩

theorem InAccount.run (h : s.InAccount) (moves : List Move) : (s.run moves).InAccount := by
  induction moves generalizing s with
  | nil => exact h
  | cons m moves ih => exact ih (h.move m)

end Traffic
end Loader
end RemoteScreen
