import RemoteScreen.Proofs.Image.Orderly

/-! Runs of image retrieval: passes begin, regions are asked for, workers start and finish in any
order, completions are taken, and the loader is cancelled or shut down at any moment. -/
namespace RemoteScreen
namespace Session

/-- What the pool of workers does by itself. -/
inductive PoolStep where
  /-- The oldest queued job starts, if a worker is free. -/
  | start
  /-- Any of the queued jobs starts. -/
  | startAny (k : Nat)
  /-- One of the running jobs finishes, with what the network says at that moment. -/
  | finish (k : Nat) (answer : String → Except String Value)

inductive ImageStep where
  | begin
  | create (url : String)
  | subscribe (n l : Nat)
  | unsubscribe (n l : Nat)
  | request (n : Nat) (pass : Option Pass)
  | pool (w : PoolStep)
  | cancel
  /-- One round of a drain; workers may go on before the next round. -/
  | take
  | drain
  | shutdown

variable {υ : Type}

/-- From now on the network says something else. -/
def answerWith (answer : String → Except String Value) : Act υ Unit :=
  withLoader () fun l => ({ l with retrieve := answer }, ())

def PoolStep.act : PoolStep → Act υ Unit
  | .start => do
    let _ ← startJob
    pure ()
  | .startAny k =>
    withLoader () fun l => ((l.queued[k]?.map fun n => l.setState n .running).getD l, ())
  | .finish k answer => do
    answerWith answer
    let _ ← finishJob k
    pure ()

def ImageStep.act (tell : Tell υ) : ImageStep → Act υ Unit
  | .begin => do
    let _ ← beginPass
    pure ()
  | .create url => do
    let _ ← addRegion url
    pure ()
  | .subscribe n l => Session.subscribe n l
  | .unsubscribe n l => Session.unsubscribe n l
  | .request n pass => requestImage tell n pass
  | .pool w => w.act
  | .cancel => do
    let _ ← cancelPending
    pure ()
  | .take => do
    let _ ← drainOne tell
    pure ()
  | .drain => do
    let _ ← Session.drain tell
    pure ()
  | .shutdown => shutdownLoader

/-- A region is asked for once, when it has been made and waits. -/
def ImageStep.Allowed (s : Session υ) : ImageStep → Prop
  | .request n _ => Loading n s ∧ n ∉ s.requests.map ImageRequest.region
  | _ => True

inductive ImageRun (tell : Tell υ) : Session υ → List ImageStep → Session υ → Prop where
  | nil (s : Session υ) : ImageRun tell s [] s
  | cons {s t : Session υ} {step : ImageStep} {steps : List ImageStep} (h : step.Allowed s)
      (rest : ImageRun tell (next (step.act tell) s) steps t) : ImageRun tell s (step :: steps) t

variable {tell : Tell υ} {s t : Session υ} {l : Loader}

/-- The result of a step does not matter for the session it leaves. -/
@[simp] theorem next_discard {α : Type} (m : Act υ α) (s : Session υ) :
    next (m >>= fun _ => pure ⟨⟩ : Act υ PUnit) s = next m s := by
  simp only [next, exec_bind]
  rcases exec m s with ⟨e | a, t⟩ <;> rfl

/-! The pool -/

theorem next_startAny (h : s.loader = some l) (k : Nat) :
    next (PoolStep.startAny k).act s =
      { s with loader := some ((l.queued[k]?.map fun n => l.setState n .running).getD l) } := by
  rw [PoolStep.act, next, exec_withLoader h]

theorem next_finish (h : s.loader = some l) (k : Nat) (answer : String → Except String Value) :
    next (PoolStep.finish k answer).act s = { s with loader := some (match l.running[k]? with
      | none => { l with retrieve := answer }
      | some n => { l with retrieve := answer }.finish n (s.jobUrl l n)) } := by
  have hfinish := next_finishJob (s := { s with loader := some { l with retrieve := answer } })
    rfl k
  simp only [PoolStep.act, answerWith, next, exec_bind, exec_withLoader h] at hfinish ⊢
  rcases hx : exec (finishJob k) { s with loader := some { l with retrieve := answer } }
    with ⟨e | a, t⟩ <;> rw [hx] at hfinish <;> exact hfinish

/-- A step of the pool changes the loader alone. It does not close or open it, and what waits in
the queue stays there. -/
theorem PoolStep.next_eq (h : s.loader = some l) (w : PoolStep) :
    ∃ m, next w.act s = { s with loader := some m } ∧ m.closed = l.closed ∧
      l.completed ⊆ m.completed := by
  cases w with
  | start =>
    refine ⟨_, by rw [PoolStep.act, next_discard, next_startJob h], ?_⟩
    rcases hstart : l.start? with - | ⟨m, n⟩
    · exact ⟨rfl, List.Subset.refl _⟩
    · obtain ⟨-, rfl⟩ := Loader.start?_eq_some hstart
      exact ⟨rfl, List.Subset.refl _⟩
  | startAny k =>
    refine ⟨_, next_startAny h k, ?_⟩
    rcases l.queued[k]? with - | n <;> exact ⟨rfl, List.Subset.refl _⟩
  | finish k answer =>
    refine ⟨_, next_finish h k answer, ?_⟩
    rcases hk : l.running[k]? with - | n
    · exact ⟨rfl, List.Subset.refl _⟩
    · obtain ⟨j, hj, _⟩ := Loader.mem_inState.1 (List.mem_of_getElem? hk)
      obtain ⟨p, hp⟩ := Loader.finish_eq (l := { l with retrieve := answer }) (s.jobUrl l n) hj
      simp only [hp]
      exact ⟨rfl, List.subset_append_left _ _⟩

theorem Orderly.startQueued (h : Orderly s l) {n : Nat} (hn : n ∈ l.queued) :
    Orderly { s with loader := some (l.setState n .running) } (l.setState n .running) := by
  obtain ⟨j, hj, hs⟩ := Loader.mem_inState.1 hn
  exact h.setState hj (.inl hs) .running l.pending

theorem Orderly.pool (h : Orderly s l) (w : PoolStep) : ∃ m, Orderly (next w.act s) m := by
  have hself : Orderly { s with loader := some l } l := h.with_loader rfl rfl rfl
  cases w with
  | start =>
    rw [PoolStep.act, next_discard, next_startJob h.loader]
    rcases hstart : l.start? with - | ⟨m, n⟩
    · exact ⟨l, hself⟩
    · obtain ⟨hn, rfl⟩ := Loader.start?_eq_some hstart
      exact ⟨_, h.startQueued hn⟩
  | startAny k =>
    rw [next_startAny h.loader]
    rcases hk : l.queued[k]? with - | n
    · exact ⟨l, hself⟩
    · exact ⟨_, h.startQueued (List.mem_of_getElem? hk)⟩
  | finish k answer =>
    rw [next_finish h.loader]
    rcases hk : l.running[k]? with - | n
    · exact ⟨_, h.with_loader rfl rfl rfl⟩
    · obtain ⟨j, hj, hs⟩ := Loader.mem_inState.1 (List.mem_of_getElem? hk)
      have hanswer := h.with_loader (m := { l with retrieve := answer }) rfl rfl rfl
      exact ⟨_, hanswer.finish hj (.inr hs) _⟩

/-! Draining -/

/-- A drain leaves passes and requests alone, takes from the front of the queue, and ends only
regions that were asked for by the current pass or by none. -/
structure Drained (s t : Session υ) : Prop where
  loader : ∀ l, s.loader = some l → ∃ cs, t.loader = some { l with completed := cs } ∧
    cs <:+ l.completed
  tracker : t.tracker = s.tracker
  requests : t.requests = s.requests
  regions : ∀ (n : Nat) (r : Region Nat), s.regions[n]? = some r → ∃ r', t.regions[n]? = some r' ∧
    r'.url = r.url ∧ ((r'.state = r.state ∧ r'.image = r.image) ∨
      (r.state = .loading ∧ r'.isTerminal = true ∧
        ∃ q ∈ s.requests, q.region = n ∧ s.tracker.isCurrent q.pass = true))

theorem ImagesKept.drained (h : ImagesKept s t) : Drained s t where
  loader := fun l hl => ⟨l.completed, h.loader.trans hl, List.suffix_rfl⟩
  tracker := h.tracker
  requests := h.requests
  regions := by
    intro n r hr
    obtain ⟨ls, ht⟩ := h.regions n r hr
    exact ⟨_, ht, rfl, .inl ⟨rfl, rfl⟩⟩

instance : IsPreorder (Session υ) Drained where
  refl s := ImagesKept.drained (Std.Refl.refl s)
  trans s t u h k := by
    refine ⟨fun l hl => ?_, k.tracker.trans h.tracker, k.requests.trans h.requests,
      fun n r hr => ?_⟩
    · obtain ⟨cs, ht, hcs⟩ := h.loader l hl
      obtain ⟨ds, hu, hds⟩ := k.loader _ ht
      exact ⟨ds, hu, hds.trans hcs⟩
    obtain ⟨r', ht, hurl, hsame | ⟨hloading, hterminal, hasked⟩⟩ := h.regions n r hr <;>
      obtain ⟨r'', hu, hurl', hsame' | ⟨hloading', hterminal', q, hq, hn, hpass⟩⟩ :=
        k.regions n r' ht <;>
      refine ⟨r'', hu, hurl'.trans hurl, ?_⟩
    · exact .inl ⟨hsame'.1.trans hsame.1, hsame'.2.trans hsame.2⟩
    · rw [h.requests] at hq
      rw [h.tracker] at hpass
      exact .inr ⟨hsame.1.symm.trans hloading', hterminal', q, hq, hn, hpass⟩
    · refine .inr ⟨hloading, ?_, hasked⟩
      simpa only [Region.isTerminal, hsame'.1] using hterminal
    · simp [Region.isTerminal, hloading'] at hterminal

/-- The relation of a drain that starts in order: it ends in order, and drains. -/
def DrainedInOrder (s t : Session υ) : Prop :=
  ∀ l, Orderly s l → (∃ m, Orderly t m) ∧ Drained s t

instance : IsPreorder (Session υ) DrainedInOrder where
  refl s l h := ⟨⟨l, h⟩, Std.Refl.refl s⟩
  trans s t u h k l hl := by
    obtain ⟨⟨m, hm⟩, hst⟩ := h l hl
    obtain ⟨hu, htu⟩ := k m hm
    exact ⟨hu, IsTrans.trans s t u hst htu⟩

/-- Where a completion is applied, its own region may come to its end and no other changes. -/
theorem settled_drained {c : Completion} (hc : ∃ q ∈ s.requests, q.region = c.region ∧
    s.tracker.isCurrent q.pass = true) : Drained s (s.settled c.region c.settle?) where
  loader := fun l hl => ⟨l.completed, (s.loader_settled _ _).trans hl, List.suffix_rfl⟩
  tracker := s.tracker_settled _ _
  requests := s.requests_settled _ _
  regions := by
    intro n r hr
    refine ⟨_, settled_regions c.region c.settle? hr, ?_⟩
    by_cases hn : n = c.region
    · rcases hs : c.settle? r with - | r'
      · simp
      · obtain ⟨hloading, hurl, hterminal⟩ := Completion.settle?_eq_some hs
        subst hn
        simpa using ⟨hurl, .inr ⟨hloading, hterminal, hc⟩⟩
    · simp [hn]

/-- The session of a round that has taken a completion and written a line about it, perhaps. -/
def taken (s : Session υ) (l : Loader) (cs : List Completion) (j : Journal) : Session υ :=
  { s with loader := some { l with completed := cs }, journal := j }

/-- A round drops a stale completion, and otherwise ends the wait of the completion's region; what
is left then is for listeners to do. -/
theorem drainOne_cons (htell : ∀ n l, Keeps ImagesKept (tell n l)) (h : Orderly s l)
    {c : Completion} {cs : List Completion} (hq : l.completed = c :: cs) :
    (exec (drainOne tell) s).1 ≠ .ok none ∧ ∃ j,
      if s.tracker.isCurrent c.pass then
        ImagesKept ((s.taken l cs j).settled c.region c.settle?) (next (drainOne tell) s)
      else next (drainOne tell) s = s.taken l cs j := by
  have haccepts : l.accepts s.tracker c.pass = s.tracker.isCurrent c.pass := by
    rw [Loader.accepts, h.tracked]
  rcases hcurrent : s.tracker.isCurrent c.pass with - | -
  · obtain ⟨j, hj⟩ := exec_drainOne_stale tell h.loader hq (haccepts.trans hcurrent)
    exact ⟨by simp [hj], j, by simp [next, hj, taken]⟩
  · obtain ⟨j, hj⟩ := exec_drainOne_current tell h.loader hq (haccepts.trans hcurrent)
    have hsettle := settled_told htell c.region c.settle? (s.taken l cs j)
    simp only [taken, next] at hsettle
    rw [next, hj]
    generalize exec (settle tell c.region c.settle?) _ = x at hsettle
    rcases x with ⟨e | b, t⟩
    · exact ⟨by simp, j, by simpa [taken] using hsettle⟩
    · exact ⟨by simp, j, by simpa [taken] using hsettle⟩

theorem Orderly.taken (h : Orderly s l) {c : Completion} {cs : List Completion}
    (hq : l.completed = c :: cs) (j : Journal) :
    Orderly (s.taken l cs j) { l with completed := cs } :=
  (h.take hq).congr rfl rfl (.of_regions rfl)

/-- The region of the completion that was taken may come to its end. -/
theorem Orderly.taken_settled (h : Orderly s l) {c : Completion} {cs : List Completion}
    (hq : l.completed = c :: cs) (j : Journal) :
    Orderly ((s.taken l cs j).settled c.region c.settle?) { l with completed := cs } := by
  refine (h.taken hq j).settled ?_ ?_ c.settle?
  · intro i hi hunfinished he
    exact hunfinished.not_finished (h.finished_of_waiting (hq ▸ List.mem_cons_self) hi he)
  · intro d hd he
    have hnodup := h.broughtOnce
    rw [hq, List.map_cons, List.nodup_cons] at hnodup
    exact hnodup.1 (he ▸ List.mem_map_of_mem hd)

theorem drained_taken (h : s.loader = some l) {c : Completion} {cs : List Completion}
    (hq : l.completed = c :: cs) (j : Journal) : Drained s (s.taken l cs j) where
  loader := by
    intro m hm
    obtain rfl := Option.some.inj (h.symm.trans hm)
    exact ⟨cs, rfl, hq ▸ List.suffix_cons c cs⟩
  tracker := rfl
  requests := rfl
  regions := fun _ r hr => ⟨r, hr, rfl, .inl ⟨rfl, rfl⟩⟩

theorem drainOne_drained (htell : ∀ n l, Keeps ImagesKept (tell n l)) :
    Keeps DrainedInOrder (drainOne tell) := by
  intro s l h
  rcases hq : l.completed with - | ⟨c, cs⟩
  · rw [next, exec_drainOne_nil tell h.loader hq]
    exact ⟨⟨l, h⟩, Std.Refl.refl s⟩
  · obtain ⟨-, j, hj⟩ := drainOne_cons htell h hq
    have htaken := h.taken hq j
    have hdrained := drained_taken h.loader hq j
    split at hj
    case isFalse => exact hj ▸ ⟨⟨_, htaken⟩, hdrained⟩
    case isTrue hcurrent =>
      obtain ⟨q, hqs, hregion, hpass⟩ := h.exists_request (hq ▸ List.mem_cons_self)
      have hsettled : Drained (s.taken l cs j) ((s.taken l cs j).settled c.region c.settle?) :=
        settled_drained ⟨q, hqs, hregion, hpass ▸ hcurrent⟩
      exact ⟨⟨_, (h.taken_settled hq j).imagesKept hj⟩,
        IsTrans.trans _ _ _ hdrained (IsTrans.trans _ _ _ hsettled hj.drained)⟩

section

variable {R : Session υ → Session υ → Prop} [IsPreorder (Session υ) R]

/-- The end of a region is a change of that region, and then its listeners are told. -/
theorem keeps_settle (htell : ∀ n l, Keeps R (tell n l))
    (hregion : ∀ n r, Keeps R (setRegion n r : Act υ Unit)) (n : Nat)
    (change : Region Nat → Option (Region Nat)) : Keeps R (settle tell n change) := by
  refine keeps_bind (keeps_bind keeps_get fun _ => keeps_pure _) fun r => ?_
  split
  · exact keeps_pure _
  · refine keeps_bind (hregion _ _) fun _ => ?_
    exact keeps_bind (keeps_forM (htell n)) fun _ => keeps_pure _

/-- A round of a drain is a change of the loader, a line in the log, and the end of a region. -/
theorem keeps_drainOne (htell : ∀ n l, Keeps R (tell n l))
    (hregion : ∀ n r, Keeps R (setRegion n r : Act υ Unit))
    (hloader : ∀ (s : Session υ) (l : Loader), R s { s with loader := some l })
    (hlog : ∀ severity part message, Keeps R (log severity part message : Act υ Unit)) :
    Keeps R (drainOne tell) := by
  refine keeps_bind keeps_get fun s => ?_
  split
  · exact keeps_pure _
  · refine keeps_bind (keeps_modify fun s => hloader s _) fun _ => ?_
    dsimp only
    split
    · exact keeps_bind (hlog _ _ _) fun _ => keeps_pure _
    · split
      · exact keeps_bind (keeps_settle htell hregion _ _) fun _ => keeps_pure _
      · refine keeps_bind (hlog _ _ _) fun _ => ?_
        exact keeps_bind (keeps_settle htell hregion _ _) fun _ => keeps_pure _

/-- What every round of a drain keeps, the whole drain keeps. -/
theorem keeps_drain (h : Keeps R (drainOne tell)) : Keeps R (drain tell) := by
  have hmany (fuel : Nat) : Keeps R (drainMany tell fuel) := by
    induction fuel with
    | zero => exact keeps_pure _
    | succ fuel ih =>
      refine keeps_bind h fun taken => ?_
      cases taken with
      | none => exact keeps_pure _
      | some applied => exact keeps_bind ih fun _ => keeps_pure _
  exact keeps_bind keeps_get fun _ => hmany _

end

end Session
end RemoteScreen
