import RemoteScreen.Proofs.Image.Staleness
import RemoteScreen.Proofs.Session.Outcome

/-! A drain goes through the queue once, from its head to its end. It ends the wait of the regions
whose completions are accepted and leaves the others alone, and what it gives is their number. -/
namespace RemoteScreen
namespace Session

variable {υ : Type} {tell : Tell υ} {s t u : Session υ} {l : Loader} {c : Completion}
  {cs : List Completion} {fuel : Nat}

/-- What a drain depends on is as it was: what waits and which passes are current. So are the
regions, but for their listeners. -/
structure Undisturbed (s t : Session υ) : Prop where
  tracker : t.tracker = s.tracker
  queue : t.loader.map (fun l => (l.currency, l.completed)) =
    s.loader.map fun l => (l.currency, l.completed)
  regions : RegionsKept s t

instance : IsPreorder (Session υ) Undisturbed where
  refl s := ⟨rfl, rfl, .refl s⟩
  trans _ _ _ h k := ⟨k.tracker.trans h.tracker, k.queue.trans h.queue, h.regions.trans k.regions⟩

/-- Listeners that never fail and leave alone what a drain depends on. -/
def Harmless (tell : Tell υ) : Prop :=
  ∀ n m s, Leads (tell n m) s fun _ t => Undisturbed s t

/-- These completions wait with a loader that accepts what `l` accepts. They are for as many
regions, and no region has come to its end. -/
structure Backlog (s : Session υ) (l : Loader) (cs : List Completion) : Prop where
  queue : ∃ m, s.loader = some m ∧ m.currency = l.currency ∧ m.completed = cs
  once : (cs.map Completion.region).Nodup
  waiting : ∀ c ∈ cs, Loading c.region s

/-- The completion is accepted when it is taken. -/
def accepted (s : Session υ) (l : Loader) (c : Completion) : Bool := l.accepts s.tracker c.pass

theorem accepts_congr {l m : Loader} (h : m.currency = l.currency) : m.accepts = l.accepts := by
  funext t p
  rw [Loader.accepts, Loader.accepts, h]

theorem accepted_congr (h : t.tracker = s.tracker) (l : Loader) : accepted t l = accepted s l := by
  funext c
  rw [accepted, accepted, h]

theorem settle_undisturbed (htell : Harmless tell) (n : Nat)
    (change : Region Nat → Option (Region Nat)) (s : Session υ) :
    Leads (settle tell n change) s fun _ t => Undisturbed (s.settled n change) t := by
  unfold settle settled
  refine leads_bind_eq rfl ?_
  rcases s.regions[n]?.bind change with - | r
  · exact leads_pure (Std.Refl.refl _)
  · refine leads_bind_eq (exec_modify _ s) ?_
    let u : Session υ := { s with regions := s.regions.set n r }
    have hloop : Leads (r.listeners.forM (tell n)) u fun _ t => Undisturbed u t :=
      leads_forM (fun _ t => Undisturbed u t) (Std.Refl.refl u)
        fun _ m _ v _ hv => (htell n m v).mono fun _ w hw => Trans.trans hv hw
    exact leads_bind hloop fun _ t ht => leads_pure ht

theorem Backlog.undisturbed (h : Backlog s l cs) (k : Undisturbed s t) : Backlog t l cs where
  queue := by
    obtain ⟨m, hm, hcurrency, hqueue⟩ := h.queue
    have hsame := k.queue
    rw [hm] at hsame
    obtain ⟨m', hm', hpair⟩ := Option.map_eq_some_iff.1 hsame
    obtain ⟨hc, hq⟩ := Prod.mk.inj hpair
    exact ⟨m', hm', hc.trans hcurrency, hq.trans hqueue⟩
  once := h.once
  waiting := fun c hc => (h.waiting c hc).kept k.regions

theorem Applied.undisturbed (h : Applied c s) (k : Undisturbed s t) : Applied c t := by
  obtain ⟨r, hr, hshows⟩ := h
  obtain ⟨ls, ht⟩ := k.regions c.region r hr
  exact ⟨_, ht, hshows⟩

/-- Region `n` is as it was, but for its listeners. -/
def Unchanged (n : Nat) (s t : Session υ) : Prop :=
  ∀ r, s.regions[n]? = some r → ∃ ls, t.regions[n]? = some { r with listeners := ls }

/-- The head of the queue is taken, and ends the wait of its region if it is accepted. -/
structure Dequeued (l : Loader) (c : Completion) (cs : List Completion) (s t : Session υ) : Prop where
  backlog : Backlog t l cs
  tracker : t.tracker = s.tracker
  applied : accepted s l c = true → Applied c t
  unchanged : ∀ n, (accepted s l c = true → n ≠ c.region) → Unchanged n s t

/-- The session once the head of the queue has been taken and noted. -/
def popped (s : Session υ) (m : Loader) (cs : List Completion) (j : Journal) : Session υ :=
  { s with loader := some { m with completed := cs }, journal := j }

theorem Backlog.popped (h : Backlog s l (c :: cs)) {m : Loader} (hcurrency : m.currency = l.currency)
    (j : Journal) : Backlog (s.popped m cs j) l cs where
  queue := ⟨_, rfl, hcurrency, rfl⟩
  once := (List.nodup_cons.1 h.once).2
  waiting := fun d hd => h.waiting d (List.mem_cons_of_mem c hd)

theorem Backlog.taken_stale (h : Backlog s l (c :: cs)) {m : Loader}
    (hcurrency : m.currency = l.currency) (hstale : accepted s l c = false) (j : Journal) :
    Dequeued l c cs s (s.popped m cs j) where
  backlog := h.popped hcurrency j
  tracker := rfl
  applied := fun htrue => absurd (hstale.symm.trans htrue) nofun
  unchanged := fun _ _ r hr => ⟨r.listeners, hr⟩

theorem Backlog.taken_settled (h : Backlog s l (c :: cs)) {m : Loader}
    (hcurrency : m.currency = l.currency) (haccepted : accepted s l c = true) (j : Journal)
    (k : Undisturbed ((s.popped m cs j).settled c.region c.settle?) t) : Dequeued l c cs s t where
  backlog := by
    have hpopped := h.popped hcurrency j
    refine Backlog.undisturbed ⟨by simpa using hpopped.queue, hpopped.once, fun d hd => ?_⟩ k
    refine (hpopped.waiting d hd).settled (fun hsame => ?_) _
    exact (List.nodup_cons.1 h.once).1 (hsame ▸ List.mem_map_of_mem hd)
  tracker := k.tracker.trans (tracker_settled _ _ _)
  applied := by
    intro _
    obtain ⟨r, hr, hloading⟩ := h.waiting c List.mem_cons_self
    have hset := settled_regions (s := s.popped m cs j) c.region c.settle? hr
    rw [if_pos rfl] at hset
    exact Applied.undisturbed ⟨_, hset, c.shows_getD_settle? hloading⟩ k
  unchanged := by
    intro n hn r hr
    have hset := settled_regions (s := s.popped m cs j) c.region c.settle? hr
    rw [if_neg (hn haccepted)] at hset
    exact k.regions n r hset

/-- One round of a drain. -/
theorem drainOne_takes (htell : Harmless tell) (h : Backlog s l (c :: cs)) :
    Leads (drainOne tell) s fun taken t =>
      taken = some (accepted s l c) ∧ Dequeued l c cs s t := by
  obtain ⟨m, hm, hcurrency, hqueue⟩ := h.queue
  rcases haccepted : accepted s l c with - | -
  · have hstale : m.accepts s.tracker c.pass = false := accepts_congr hcurrency ▸ haccepted
    obtain ⟨j, hj⟩ := exec_drainOne_stale tell hm hqueue hstale
    exact ⟨_, _, hj, rfl, h.taken_stale hcurrency haccepted j⟩
  · have hcurrent : m.accepts s.tracker c.pass = true := accepts_congr hcurrency ▸ haccepted
    obtain ⟨j, hj⟩ := exec_drainOne_current tell hm hqueue hcurrent
    obtain ⟨b, t, hsettle, ht⟩ := settle_undisturbed htell c.region c.settle?
      { s with loader := some { m with completed := cs }, journal := j }
    rw [hsettle] at hj
    exact ⟨_, t, hj, rfl, h.taken_settled hcurrency haccepted j ht⟩

/-! A whole drain -/

/-- Rounds that take one completion after the other, each with whether it was accepted, until the
queue is empty. -/
inductive Rounds (tell : Tell υ) : Session υ → List (Completion × Bool) → Session υ → Prop where
  | done {s : Session υ} (empty : exec (drainOne tell) s = (.ok none, s)) : Rounds tell s [] s
  | take {s t u : Session υ} {c : Completion} {cs : List Completion} {accepted : Bool}
      {rest : List (Completion × Bool)}
      (head : ∃ l, s.loader = some l ∧ l.completed = c :: cs)
      (round : exec (drainOne tell) s = (.ok (some accepted), t))
      (left : ∃ l, t.loader = some l ∧ l.completed = cs)
      (more : Rounds tell t rest u) : Rounds tell s ((c, accepted) :: rest) u

/-- The queue is empty, and just the regions of accepted completions have changed. -/
structure Emptied (l : Loader) (cs : List Completion) (s t : Session υ) : Prop where
  backlog : Backlog t l []
  tracker : t.tracker = s.tracker
  applied : ∀ c ∈ cs, accepted s l c = true → Applied c t
  unchanged : ∀ n, (∀ c ∈ cs, accepted s l c = true → n ≠ c.region) → Unchanged n s t

theorem Unchanged.trans {n : Nat} (h : Unchanged n s t) (k : Unchanged n t u) :
    Unchanged n s u := by
  intro r hr
  obtain ⟨ls, ht⟩ := h r hr
  exact k { r with listeners := ls } ht

theorem Applied.unchanged (h : Applied c s) (k : Unchanged c.region s t) : Applied c t := by
  obtain ⟨r, hr, hshows⟩ := h
  obtain ⟨ls, ht⟩ := k r hr
  exact ⟨_, ht, hshows⟩

theorem Dequeued.emptied (h : Dequeued l c cs s t) (hc : c.region ∉ cs.map Completion.region)
    (k : Emptied l cs t u) : Emptied l (c :: cs) s u where
  backlog := k.backlog
  tracker := k.tracker.trans h.tracker
  applied := by
    have hsame := accepted_congr h.tracker l
    intro d hd haccepted
    rcases List.mem_cons.1 hd with rfl | hd
    · refine (h.applied haccepted).unchanged (k.unchanged _ fun e he _ hregion => hc ?_)
      exact hregion ▸ List.mem_map_of_mem he
    · exact k.applied d hd (hsame ▸ haccepted)
  unchanged := by
    have hsame := accepted_congr h.tracker l
    intro n hn
    refine (h.unchanged n (hn c List.mem_cons_self)).trans (k.unchanged n fun d hd haccepted => ?_)
    exact hn d (List.mem_cons_of_mem c hd) (hsame ▸ haccepted)

theorem drainMany_drains (htell : Harmless tell) (h : Backlog s l cs) (hfuel : cs.length ≤ fuel) :
    Leads (drainMany tell fuel) s fun k t => k = cs.countP (accepted s l) ∧
      Rounds tell s (cs.map fun c => (c, accepted s l c)) t ∧ Emptied l cs s t := by
  induction cs generalizing s fuel with
  | nil =>
    obtain ⟨m, hm, -, hqueue⟩ := h.queue
    have hempty := exec_drainOne_nil tell hm hqueue
    have hemptied : Emptied l [] s s := ⟨h, rfl, nofun, fun n _ r hr => ⟨r.listeners, hr⟩⟩
    cases fuel with
    | zero => exact leads_pure ⟨rfl, .done hempty, hemptied⟩
    | succ fuel => exact leads_bind_eq hempty (leads_pure ⟨rfl, .done hempty, hemptied⟩)
  | cons c cs ih =>
    obtain ⟨fuel, rfl⟩ : ∃ n, fuel = n + 1 := ⟨fuel - 1, by simp at hfuel; omega⟩
    obtain ⟨_, t, hround, rfl, htaken⟩ := drainOne_takes htell h
    have hsame := accepted_congr htaken.tracker l
    refine leads_bind_eq hround (leads_bind (ih htaken.backlog (Nat.le_of_succ_le_succ hfuel)) ?_)
    rintro k u ⟨rfl, hrounds, hemptied⟩
    rw [hsame] at hrounds
    refine leads_pure ⟨?_, ?_, htaken.emptied (List.nodup_cons.1 h.once).1 hemptied⟩
    · rw [hsame, List.countP_cons]
      rcases accepted s l c <;> simp
    · obtain ⟨m, hm, -, hqueue⟩ := h.queue
      obtain ⟨m', hm', -, hqueue'⟩ := htaken.backlog.queue
      exact .take ⟨m, hm, hqueue⟩ hround ⟨m', hm', hqueue'⟩ hrounds

/-! Counting -/

/-- The regions whose state is not what it was. -/
def changed (s t : Session υ) : List Nat :=
  (List.range s.regions.length).filter fun n =>
    t.regions[n]?.map Region.state != s.regions[n]?.map Region.state

theorem mem_changed {n : Nat} : n ∈ changed s t ↔ ∃ r, s.regions[n]? = some r ∧
    t.regions[n]?.map Region.state ≠ some r.state := by
  simp only [changed, List.mem_filter, List.mem_range, bne_iff_ne]
  constructor
  · rintro ⟨hn, hne⟩
    refine ⟨s.regions[n], List.getElem?_eq_getElem hn, ?_⟩
    rwa [List.getElem?_eq_getElem hn] at hne
  · rintro ⟨r, hr, hne⟩
    refine ⟨(List.getElem?_eq_some_iff.1 hr).1, ?_⟩
    rwa [hr]

theorem Emptied.mem_changed (h : Emptied l cs s t) (hwaiting : ∀ c ∈ cs, Loading c.region s)
    {n : Nat} : n ∈ changed s t ↔ ∃ c ∈ cs, c.region = n ∧ accepted s l c = true := by
  rw [Session.mem_changed]
  constructor
  · rintro ⟨r, hr, hne⟩
    by_contra hnone
    have hsame : Unchanged n s t := h.unchanged n fun c hc haccepted hregion =>
      hnone ⟨c, hc, hregion.symm, haccepted⟩
    obtain ⟨ls, ht⟩ := hsame r hr
    exact hne (by rw [ht]; rfl)
  · rintro ⟨c, hc, rfl, haccepted⟩
    obtain ⟨r, hr, hloading⟩ := hwaiting c hc
    obtain ⟨r', ht, hshows⟩ := h.applied c hc haccepted
    refine ⟨r, hr, fun hsame => hshows.not_loading ?_⟩
    rw [ht] at hsame
    exact (Option.some.inj hsame).trans hloading

theorem Emptied.length_changed (h : Emptied l cs s t) (hwaiting : ∀ c ∈ cs, Loading c.region s)
    (honce : (cs.map Completion.region).Nodup) :
    (changed s t).length = cs.countP (accepted s l) := by
  have hnodup : (changed s t).Nodup := List.nodup_range.filter _
  have honce' : ((cs.filter (accepted s l)).map Completion.region).Nodup :=
    honce.sublist (List.filter_sublist.map _)
  have hperm : (changed s t).Perm ((cs.filter (accepted s l)).map Completion.region) := by
    refine (List.perm_ext_iff_of_nodup hnodup honce').2 fun n => ?_
    rw [h.mem_changed hwaiting, List.mem_map]
    simp only [List.mem_filter, and_assoc, and_comm (a := _ = n)]
  rw [hperm.length_eq, List.length_map, List.countP_eq_length_filter]

/-- A drain takes every completion that waits, each once and in the order of the queue, and returns.
The regions it changes are those of the completions it accepts, which a loader that asks the tracker
does for the current pass and for no pass: each shows what its completion brought. All others are as
they were. It gives the number of regions it has changed, and a drain that follows changes
nothing. -/
theorem drain_applies_each_once (htell : Harmless tell) (hloader : s.loader = some l)
    (honce : (l.completed.map Completion.region).Nodup)
    (hwaiting : ∀ c ∈ l.completed, Loading c.region s) :
    ∃ k t, exec (drain tell) s = (.ok k, t) ∧
      Rounds tell s (l.completed.map fun c => (c, l.accepts s.tracker c.pass)) t ∧
      (∃ m, t.loader = some m ∧ m.completed = []) ∧
      (∀ n, n ∈ changed s t ↔
        ∃ c ∈ l.completed, c.region = n ∧ l.accepts s.tracker c.pass = true) ∧
      (l.currency = .tracked → ∀ p, l.accepts s.tracker p = true ↔
        p = none ∨ p = s.tracker.current) ∧
      (∀ c ∈ l.completed, l.accepts s.tracker c.pass = true →
        ∃ r, t.regions[c.region]? = some r ∧ r.Shows c.outcome) ∧
      (∀ n, n ∉ changed s t → Unchanged n s t) ∧
      k = (changed s t).length ∧ exec (drain tell) t = (.ok 0, t) := by
  have hbacklog : Backlog s l l.completed := ⟨⟨l, hloader, rfl, rfl⟩, honce, hwaiting⟩
  obtain ⟨k, t, hexec, hk, hrounds, hemptied⟩ := drainMany_drains htell hbacklog (Nat.le_refl _)
  obtain ⟨m, hm, -, hqueue⟩ := hemptied.backlog.queue
  have hdrain (u : Session υ) (m : Loader) (hm : u.loader = some m) :
      exec (drain tell) u = exec (drainMany tell m.completed.length) u := by
    rw [drain, exec_bind, exec_get]
    dsimp only
    rw [hm]
    rfl
  refine ⟨k, t, (hdrain s l hloader).trans hexec, hrounds, ⟨m, hm, hqueue⟩, fun n => ?_, ?_,
    hemptied.applied, fun n hn => ?_, ?_, ?_⟩
  · exact hemptied.mem_changed hwaiting
  · rintro htracked (- | p)
    · simp [Loader.accepts, htracked]
    · simp only [Loader.accepts, htracked, PassTracker.isCurrent, beq_iff_eq, reduceCtorEq,
        false_or]
      exact eq_comm
  · refine hemptied.unchanged n fun c hc haccepted hregion => hn ?_
    exact (hemptied.mem_changed hwaiting).2 ⟨c, hc, hregion.symm, haccepted⟩
  · rw [hk, hemptied.length_changed hwaiting honce]
  · rw [hdrain t m hm, hqueue]
    rfl

/-- The first completion is of an old pass, the second of the current one, the third of none. -/
def mixed : Session Unit where
  regions := [{ url := "a", listeners := [4] }, { url := "b", listeners := [5] },
    { url := "c", listeners := [6, 7] }]
  tracker := ⟨2, some ⟨2⟩⟩
  loader := some {
    retrieve := fun _ => .error "gone", workers := 1, currency := .tracked
    completed := [⟨0, some ⟨1⟩, .ok (.text "x")⟩, ⟨2, some ⟨2⟩, .ok (.text "y")⟩,
      ⟨1, none, .error "gone"⟩] }
  ui := ()

/-- Every listener leaves when it is told. -/
theorem drain_applies_each_once_mixed :
    ∃ t, exec (drain unsubscribe) mixed = (.ok 2, t) ∧ changed mixed t = [1, 2] ∧
      (∃ r, t.regions[2]? = some r ∧ r.Shows (.ok (.text "y"))) ∧
      exec (drain unsubscribe) t = (.ok 0, t) := by
  have htell : Harmless (unsubscribe : Tell Unit) := fun n m s =>
    ⟨⟨⟩, _, exec_modify _ s, rfl, rfl, .of_modify (fun _ => ⟨_, rfl⟩) rfl⟩
  have hwaiting : ∀ c ∈ ([⟨0, some ⟨1⟩, .ok (.text "x")⟩, ⟨2, some ⟨2⟩, .ok (.text "y")⟩,
      ⟨1, none, .error "gone"⟩] : List Completion), Loading c.region mixed := by
    simp [Loading, mixed]
  obtain ⟨k, t, hexec, -, -, -, -, happlied, -, hk, hagain⟩ :=
    drain_applies_each_once htell (s := mixed) rfl (by decide) hwaiting
  have hrun : exec (drain unsubscribe) mixed = (.ok 2, next (drain unsubscribe) mixed) := rfl
  obtain ⟨hk2, rfl⟩ := Prod.mk.inj (hrun.symm.trans hexec)
  cases hk2
  refine ⟨_, hexec, rfl, ?_, hagain⟩
  exact happlied ⟨2, some ⟨2⟩, .ok (.text "y")⟩ (by simp) rfl

end Session
end RemoteScreen
