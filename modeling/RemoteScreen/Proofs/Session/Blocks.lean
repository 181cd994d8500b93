import Mathlib.Data.List.Perm.Basic
import RemoteScreen.Proofs.Session.Reports

/-! Programs of events, counters and timed blocks, nested to any depth, whose bodies may fail at any
point and be rescued at any level. A channel that keeps what it takes has exactly what such a
program has done, and a disabled one has no part in where the program leads. -/
namespace RemoteScreen

/-- A program that reports. What rescues it is told what went wrong. -/
inductive Program where
  | idle
  | event (e : Event)
  | counter (name : String) (value : Value) (attributes : Attributes)
  | raise (e : Failure)
  | seq (p q : Program)
  | timer (name : String) (attributes : Attributes) (body : Program)
  | rescue (body : Program) (handler : Failure → Program)

/-- What a program does that concerns telemetry. -/
inductive Moment where
  | event (e : Event)
  | counter (m : Metric)
  /-- A counter whose value is no float. -/
  | uncounted (name : String) (why : ValueError)
  | enter (name : String) (attributes : Attributes)
  | leave (m : Metric)

namespace Moment

def event? : Moment → Option Event
  | event e => some e
  | _ => none

def metric? : Moment → Option Metric
  | counter m | leave m => some m
  | _ => none

/-- The name and the attributes of the metric that a moment makes due, at once or later. -/
def due? : Moment → Option (String × Attributes)
  | counter m => some (m.name, m.attributes)
  | enter name attributes => some (name, attributes)
  | _ => none

def Counts : Moment → Prop
  | uncounted .. => False
  | _ => True

/-- A moment but for the time that a block has taken. -/
def untimed : Moment → Moment
  | leave m => leave { m with value := 0.0 }
  | x => x

/-- Whether every counter counts does not depend on times. -/
theorem counts_of_untimed {xs ys : List Moment} (h : xs.map untimed = ys.map untimed)
    (hys : ∀ y ∈ ys, y.Counts) : ∀ x ∈ xs, x.Counts := by
  have huntimed (x : Moment) : x.untimed.Counts ↔ x.Counts := by cases x <;> exact Iff.rfl
  intro x hx
  obtain ⟨y, hy, hxy⟩ := List.mem_map.1 (h ▸ List.mem_map_of_mem hx)
  rw [← huntimed, ← hxy, huntimed]
  exact hys y hy

end Moment

/-- Every block that is entered is left, an inner one before an outer one, and leaving it gives the
metric with its own name and attributes. -/
inductive Bracketed : List Moment → Prop
  | nil : Bracketed []
  | event (e : Event) : Bracketed [.event e]
  | counter (m : Metric) : Bracketed [.counter m]
  | uncounted (name : String) (why : ValueError) : Bracketed [.uncounted name why]
  | append {xs ys : List Moment} (hx : Bracketed xs) (hy : Bracketed ys) : Bracketed (xs ++ ys)
  | block {xs : List Moment} (m : Metric) (hx : Bracketed xs) :
      Bracketed (.enter m.name m.attributes :: (xs ++ [.leave m]))

/-- There is one metric for each counter and one for each block that was entered. -/
theorem Bracketed.metrics_perm {xs : List Moment} (h : Bracketed xs) :
    ((xs.filterMap Moment.metric?).map fun m => (m.name, m.attributes)).Perm
      (xs.filterMap Moment.due?) := by
  induction h with
  | nil | event | counter | uncounted => exact List.Perm.refl _
  | append _ _ hx hy =>
    simp only [List.filterMap_append, List.map_append]
    exact hx.append hy
  | block m _ hx =>
    simp only [List.filterMap_cons, List.filterMap_append, Moment.metric?, Moment.due?,
      List.filterMap_nil, List.append_nil, List.map_append, List.map_cons, List.map_nil]
    exact List.perm_append_singleton _ _ |>.trans (hx.cons _)

namespace Program

/-- A run of a program: what it does, in order, and its outcome. A block is left whatever the
outcome of its body is, and the outcome remains; the time in between is that between two readings. -/
inductive Runs (readings : List Float) : Program → List Moment → Except Failure Unit → Prop
  | idle : Runs readings .idle [] (.ok ())
  | event (e : Event) : Runs readings (.event e) [.event e] (.ok ())
  | counter {name : String} {value : Value} {attributes : Attributes} {x : Float}
      (h : value.toFloat = .ok x) :
      Runs readings (.counter name value attributes) [.counter ⟨name, x, attributes⟩] (.ok ())
  | uncounted {name : String} {value : Value} {attributes : Attributes} {why : ValueError}
      (h : value.toFloat = .error why) :
      Runs readings (.counter name value attributes) [.uncounted name why] (.error (.value why))
  | raise (e : Failure) : Runs readings (.raise e) [] (.error e)
  | seq {p q : Program} {xs ys : List Moment} {r : Except Failure Unit}
      (hp : Runs readings p xs (.ok ())) (hq : Runs readings q ys r) :
      Runs readings (.seq p q) (xs ++ ys) r
  | seq_error {p q : Program} {xs : List Moment} {e : Failure}
      (hp : Runs readings p xs (.error e)) : Runs readings (.seq p q) xs (.error e)
  | timer {name : String} {attributes : Attributes} {body : Program} {xs : List Moment}
      {r : Except Failure Unit} {start stop : Float} {ms : Int} (hstart : start ∈ readings)
      (hbody : Runs readings body xs r) (hstop : stop ∈ readings)
      (hms : (Value.float ((stop - start) * 1000.0)).toInt = .ok ms) :
      Runs readings (.timer name attributes body)
        (.enter name attributes :: (xs ++ [.leave ⟨name, Number.ofInt ms, attributes⟩])) r
  | rescue_ok {body : Program} {handler : Failure → Program} {xs : List Moment}
      (hbody : Runs readings body xs (.ok ())) :
      Runs readings (.rescue body handler) xs (.ok ())
  | rescue_error {body : Program} {handler : Failure → Program} {xs ys : List Moment} {e : Failure}
      {r : Except Failure Unit} (hbody : Runs readings body xs (.error e))
      (hhandler : Runs readings (handler e) ys r) :
      Runs readings (.rescue body handler) (xs ++ ys) r

theorem Runs.bracketed {readings : List Float} {p : Program} {xs : List Moment}
    {r : Except Failure Unit} (h : Runs readings p xs r) : Bracketed xs := by
  induction h with
  | idle | raise => exact .nil
  | event e => exact .event e
  | counter => exact .counter _
  | uncounted => exact .uncounted _ _
  | seq _ _ hp hq => exact hp.append hq
  | seq_error _ hp => exact hp
  | @timer name attributes _ _ _ _ _ ms _ _ _ _ hbody =>
    exact .block ⟨name, Number.ofInt ms, attributes⟩ hbody
  | rescue_ok _ hbody => exact hbody
  | rescue_error _ _ hbody hhandler => exact hbody.append hhandler

/-- The program alone decides what is done and what comes of it; the clock has no part but in the
times. -/
theorem Runs.unique {readings readings' : List Float} {p : Program} {xs ys : List Moment}
    {r q : Except Failure Unit} (h : Runs readings p xs r) (k : Runs readings' p ys q) :
    r = q ∧ xs.map Moment.untimed = ys.map Moment.untimed := by
  induction h generalizing ys q with
  | idle | event | raise =>
    cases k
    exact ⟨rfl, rfl⟩
  | counter hvalue =>
    cases k with
    | counter hvalue' =>
      obtain rfl := Except.ok.inj (hvalue.symm.trans hvalue')
      exact ⟨rfl, rfl⟩
    | uncounted hvalue' => cases hvalue.symm.trans hvalue'
  | uncounted hvalue =>
    cases k with
    | counter hvalue' => cases hvalue.symm.trans hvalue'
    | uncounted hvalue' =>
      obtain rfl := Except.error.inj (hvalue.symm.trans hvalue')
      exact ⟨rfl, rfl⟩
  | seq _ _ hp hq =>
    cases k with
    | seq hp' hq' =>
      obtain ⟨hr, hys⟩ := hq hq'
      exact ⟨hr, by rw [List.map_append, List.map_append, (hp hp').2, hys]⟩
    | seq_error hp' => cases (hp hp').1
  | seq_error _ hp =>
    cases k with
    | seq hp' _ => cases (hp hp').1
    | seq_error hp' => exact hp hp'
  | timer _ _ _ _ hbody =>
    cases k with
    | timer _ hbody' =>
      obtain ⟨hr, hxs⟩ := hbody hbody'
      refine ⟨hr, ?_⟩
      simp only [List.map_cons, List.map_append, List.map_nil, hxs, Moment.untimed]
  | rescue_ok _ hbody =>
    cases k with
    | rescue_ok hbody' => exact hbody hbody'
    | rescue_error hbody' _ => cases (hbody hbody').1
  | rescue_error _ _ hbody hhandler =>
    cases k with
    | rescue_ok hbody' => cases (hbody hbody').1
    | rescue_error hbody' hhandler' =>
      obtain ⟨he, hxs⟩ := hbody hbody'
      obtain rfl := Except.error.inj he
      obtain ⟨hr, hys⟩ := hhandler hhandler'
      exact ⟨hr, by rw [List.map_append, List.map_append, hxs, hys]⟩

end Program

/-- What a channel that keeps everything has after some moments. -/
def Channel.after (c : Channel) (xs : List Moment) : Channel := { c with
  events := c.events ++ xs.filterMap Moment.event?
  metrics := c.metrics ++ xs.filterMap Moment.metric? }

theorem Channel.after_append (c : Channel) (xs ys : List Moment) :
    c.after (xs ++ ys) = (c.after xs).after ys := by
  simp [after]

namespace Session

variable {υ α β : Type} {n : Nat} {s : Session υ}

/-- The session whose clock has got so far. -/
def atClock (clock : List Float) (s : Session υ) : Session υ :=
  { s with telemetry := { s.telemetry with clock } }

/-- The session in which a channel has taken some moments. -/
def taking (n : Nat) (xs : List Moment) (s : Session υ) : Session υ := { s with
  telemetry := { s.telemetry with
    channels := s.telemetry.channels.modify n fun c => c.after xs } }

@[simp] theorem atClock_atClock (clock clock' : List Float) (s : Session υ) :
    (s.atClock clock).atClock clock' = s.atClock clock' := rfl

@[simp] theorem atClock_self (s : Session υ) : s.atClock s.telemetry.clock = s := rfl

theorem taking_atClock (n : Nat) (xs : List Moment) (clock : List Float) (s : Session υ) :
    (s.atClock clock).taking n xs = (s.taking n xs).atClock clock := rfl

theorem taking_nothing {xs : List Moment} (hevent : xs.filterMap Moment.event? = [])
    (hmetric : xs.filterMap Moment.metric? = []) (s : Session υ) : s.taking n xs = s := by
  have hsame : (fun c : Channel => c.after xs) = id := by
    funext c
    simp [Channel.after, hevent, hmetric]
  simp only [taking, hsame, List.modify_id]

theorem taking_append (xs ys : List Moment) (s : Session υ) :
    s.taking n (xs ++ ys) = (s.taking n xs).taking n ys := by
  have hboth : (fun c : Channel => c.after (xs ++ ys)) =
      (fun c => c.after ys) ∘ fun c => c.after xs := by
    funext c
    exact c.after_append xs ys
  simp only [taking, hboth, List.modify_modify_eq]

/-- Telemetry is disabled as far as the channel is concerned. -/
def Off (n : Nat) (s : Session υ) : Prop :=
  ∀ c, s.telemetry.channels[n]? = some c → c.enabled = false

theorem Off.isEnabled (h : Off n s) :
    (s.telemetry.channels[n]?.map Channel.enabled).getD false = false := by
  cases hc : s.telemetry.channels[n]? with
  | none => rfl
  | some c => exact h c hc

theorem Off.exec_count (h : Off n s) (name : String) (value : Value) (attributes : Attributes) :
    exec (count n name value attributes) s = (.ok (), s) := by
  simp [count, Session.isEnabled, h.isEnabled]

theorem Off.exec_emitEvent (h : Off n s) (e : Event) :
    exec (emitEvent n e) s = (.ok (), s) := by
  rcases hc : s.telemetry.channels[n]? with - | ⟨enabled, destination, events, metrics⟩
  · simp [emitEvent, hc]
  · obtain rfl : enabled = false := h _ hc
    simp [emitEvent, hc]

/-! What a disabled channel leaves -/

/-- Where the channel is disabled, nothing but the clock goes on. -/
def Muted (n : Nat) (s t : Session υ) : Prop := Off n s → ∃ clock, t = s.atClock clock

instance (n : Nat) : IsPreorder (Session υ) (Muted n) where
  refl s := fun _ => ⟨s.telemetry.clock, rfl⟩
  trans := by
    intro s t u hst htu hoff
    obtain ⟨clock, rfl⟩ := hst hoff
    exact htu hoff

/-- What the clock has yet to say decides its reading. -/
theorem exec_readClock_of_clock (readings : List Float) : ∃ x clock, ∀ s : Session υ,
    s.telemetry.clock = readings → exec readClock s = (.ok x, s.atClock clock) := by
  rcases readings with - | ⟨x, - | ⟨y, ys⟩⟩
  · refine ⟨0.0, [], fun s hs => ?_⟩
    simp only [readClock, exec_bind, exec_get, hs, exec_pure]
    rw [← hs, atClock_self]
  · refine ⟨x, [x], fun s hs => ?_⟩
    simp only [readClock, exec_bind, exec_get, hs, exec_pure]
    rw [← hs, atClock_self]
  · refine ⟨x, y :: ys, fun s hs => ?_⟩
    simp only [readClock, exec_bind, exec_get, hs, exec_modify, exec_pure]
    rfl

theorem readClock_muted (n : Nat) : Keeps (Muted n) (readClock : Act υ Float) := by
  intro s _
  obtain ⟨x, clock, hread⟩ := exec_readClock_of_clock (υ := υ) s.telemetry.clock
  exact ⟨clock, by rw [next, hread s rfl]⟩

theorem count_muted (n : Nat) (name : String) (value : Value) (attributes : Attributes) :
    Keeps (Muted n) (count n name value attributes : Act υ Unit) := by
  intro s hoff
  rw [next, hoff.exec_count]
  exact ⟨s.telemetry.clock, rfl⟩

theorem emitEvent_muted (n : Nat) (e : Event) :
    Keeps (Muted n) (emitEvent n e : Act υ Unit) := by
  intro s hoff
  rw [next, hoff.exec_emitEvent]
  exact ⟨s.telemetry.clock, rfl⟩

theorem timed_muted (n : Nat) (name : String) (attributes : Attributes) {body : Act υ α}
    (hbody : Keeps (Muted n) body) : Keeps (Muted n) (timed n name attributes body) := by
  refine keeps_bind_gives (P := fun t => t.channel = n) ?_ ?_ fun t ht => ?_
  · exact keeps_bind (readClock_muted n) fun _ => keeps_pure _
  · exact gives_after fun _ => gives_pure rfl
  -- The timer reports to the channel that it was started for, so that this one is disabled, too.
  subst ht
  refine keeps_bind (keeps_attempt hbody) fun r => keeps_bind ?_ fun _ => keeps_ofExcept r
  refine keeps_bind (readClock_muted _) fun stop => ?_
  split
  · exact count_muted _ _ _ _
  · exact keeps_fail _

/-! What an enabled channel takes -/

/-- The channel keeps what it takes, and the clock says nothing that is not in `readings`. -/
structure Ready (n : Nat) (readings : List Float) (s : Session υ) : Prop where
  keeps : ∃ c, s.telemetry.channels[n]? = some c ∧ c.keepsEvents = true
  clock : s.telemetry.readings ⊆ readings

theorem Ready.recording {readings : List Float} (h : Ready n readings s) :
    ∃ events metrics, s.telemetry.channels[n]? = some ⟨true, .memory, events, metrics⟩ := by
  obtain ⟨⟨enabled, destination, events, metrics⟩, hc, hkeeps⟩ := h.keeps
  obtain ⟨rfl, rfl⟩ : enabled = true ∧ destination = .memory := by
    simpa [Channel.keepsEvents] using hkeeps
  exact ⟨events, metrics, hc⟩

theorem Ready.taking {readings : List Float} (h : Ready n readings s) (xs : List Moment) :
    Ready n readings (s.taking n xs) where
  keeps := by
    obtain ⟨c, hc, hkeeps⟩ := h.keeps
    exact ⟨c.after xs, by simp [Session.taking, hc], hkeeps⟩
  clock := h.clock

/-- From a session with a channel that keeps what it takes, a step goes through some moments to an
outcome. If every counter among them counts, the outcome is the same with a disabled channel. -/
structure Tells (n : Nat) (readings : List Float) (m : Act υ α) (s : Session υ) (xs : List Moment)
    (r : Except Failure α) (clock : List Float) : Prop where
  on : exec m s = (r, (s.taking n xs).atClock clock)
  ready : Ready n readings ((s.taking n xs).atClock clock)
  off : ∀ u : Session υ, u.telemetry.clock = s.telemetry.clock → Off n u →
    (∀ x ∈ xs, x.Counts) → exec m u = (r, u.atClock clock)

namespace Tells

variable {readings : List Float} {m : Act υ α} {f : α → Act υ β} {xs ys : List Moment}
  {clock clock' : List Float}

/-- A known outcome. -/
theorem ofExcept (h : Ready n readings s) (r : Except Failure α) :
    Tells n readings (MonadExcept.ofExcept r : Act υ α) s [] r s.telemetry.clock where
  on := by rw [taking_nothing rfl rfl, atClock_self, exec_ofExcept]
  ready := by rw [taking_nothing rfl rfl]; exact h
  off := by
    intro u hu _ _
    rw [exec_ofExcept, ← hu, atClock_self]

theorem pure (h : Ready n readings s) (a : α) :
    Tells n readings (Pure.pure a : Act υ α) s [] (.ok a) s.telemetry.clock :=
  ofExcept h (.ok a)

theorem fail (h : Ready n readings s) (e : Failure) :
    Tells n readings (Session.fail e : Act υ α) s [] (.error e) s.telemetry.clock :=
  ofExcept h (.error e)

theorem bind {a : α} {r : Except Failure β} (h : Tells n readings m s xs (.ok a) clock)
    (k : Tells n readings (f a) ((s.taking n xs).atClock clock) ys r clock') :
    Tells n readings (m >>= f) s (xs ++ ys) r clock' where
  on := by
    simp only [exec_bind, h.on, k.on, taking_atClock, atClock_atClock, taking_append]
  ready := by
    rw [taking_append, ← atClock_atClock clock, ← taking_atClock]
    exact k.ready
  off := by
    intro u hu hoff hcounts
    simp only [exec_bind, h.off u hu hoff fun x hx => hcounts x (List.mem_append_left ys hx)]
    exact k.off _ rfl hoff fun x hx => hcounts x (List.mem_append_right xs hx)

theorem bind_error {e : Failure} (h : Tells n readings m s xs (.error e) clock) :
    Tells n readings (m >>= f) s xs (.error e) clock where
  on := by rw [exec_bind, h.on]
  ready := h.ready
  off := by
    intro u hu hoff hcounts
    rw [exec_bind, h.off u hu hoff hcounts]

theorem attempt {r : Except Failure α} (h : Tells n readings m s xs r clock) :
    Tells n readings (Session.attempt m) s xs (.ok r) clock where
  on := by rw [exec_attempt, h.on]
  ready := h.ready
  off := by
    intro u hu hoff hcounts
    rw [exec_attempt, h.off u hu hoff hcounts]

theorem readClock (h : Ready n readings s) : ∃ x clock, x ∈ readings ∧
    Tells n readings (Session.readClock : Act υ Float) s [] (.ok x) clock := by
  obtain ⟨x, clock, hread⟩ := exec_readClock_of_clock (υ := υ) s.telemetry.clock
  obtain ⟨y, t, hs, hy, hreporting, -⟩ := exec_readClock s
  rw [hread s rfl] at hs
  obtain ⟨hx, rfl⟩ := Prod.mk.inj hs
  obtain rfl := Except.ok.inj hx
  have hnothing : s.taking n [] = s := taking_nothing rfl rfl s
  refine ⟨x, clock, h.clock hy, ?_, ?_, ?_⟩
  · rw [hread s rfl, hnothing]
  · rw [hnothing]
    exact ⟨h.keeps, List.Subset.trans hreporting.readings h.clock⟩
  · exact fun u hu _ _ => hread u hu

theorem emitEvent (h : Ready n readings s) (e : Event) :
    Tells n readings (Session.emitEvent n e) s [.event e] (.ok ()) s.telemetry.clock where
  on := by
    obtain ⟨events, metrics, hc⟩ := h.recording
    have hevent : [Moment.event e].filterMap Moment.event? = [e] := rfl
    have hmetric : [Moment.event e].filterMap Moment.metric? = [] := rfl
    simp [Session.emitEvent, hc, updateChannel, Session.taking, atClock, Channel.after, hevent,
      hmetric]
  ready := h.taking _
  off := by
    intro u hu hoff _
    rw [hoff.exec_emitEvent, ← hu, atClock_self]

/-- A counter that counts; it is one of the program, or else it says how long a block has taken. -/
theorem count (h : Ready n readings s) {name : String} {value : Value} {attributes : Attributes}
    {v : Float} (hvalue : value.toFloat = .ok v) {x : Moment} (hevent : x.event? = none)
    (hmetric : x.metric? = some ⟨name, v, attributes⟩) :
    Tells n readings (Session.count n name value attributes) s [x] (.ok ()) s.telemetry.clock where
  on := by
    obtain ⟨events, metrics, hc⟩ := h.recording
    simp [Session.count, isEnabled, emitMetric, hc, hvalue, updateChannel, Session.taking, atClock,
      Channel.after, hevent, hmetric]
  ready := h.taking _
  off := by
    intro u hu hoff _
    rw [hoff.exec_count, ← hu, atClock_self]

theorem count_error (h : Ready n readings s) (name : String) {value : Value}
    (attributes : Attributes) {why : ValueError} (hvalue : value.toFloat = .error why) :
    Tells n readings (Session.count n name value attributes) s [.uncounted name why]
      (.error (.value why)) s.telemetry.clock where
  on := by
    obtain ⟨events, metrics, hc⟩ := h.recording
    rw [taking_nothing rfl rfl, atClock_self]
    simp [Session.count, isEnabled, hc, hvalue]
  ready := h.taking _
  off := by
    intro u _ _ hcounts
    exact (hcounts _ (List.mem_singleton_self _)).elim

/-- Entering a block leaves nothing in a channel. -/
theorem enter {r : Except Failure α} (h : Tells n readings m s xs r clock) (name : String)
    (attributes : Attributes) :
    Tells n readings m s (.enter name attributes :: xs) r clock where
  on := h.on
  ready := h.ready
  off := fun u hu hoff hcounts =>
    h.off u hu hoff fun x hx => hcounts x (List.mem_cons_of_mem _ hx)

theorem startTimer (h : Ready n readings s) (name : String) (attributes : Attributes) :
    ∃ start clock, start ∈ readings ∧ Tells n readings (Session.startTimer n name attributes) s []
      (.ok ⟨n, name, attributes, start⟩) clock := by
  obtain ⟨start, clock, hstart, hread⟩ := readClock h
  exact ⟨start, clock, hstart, hread.bind (pure hread.ready _)⟩

variable {τ : Telemetry}

theorem stopTimer (h : Ready n τ.readings s) (hpaced : τ.Paced) (name : String)
    (attributes : Attributes) {start : Float} (hstart : start ∈ τ.readings) :
    ∃ stop ms clock, stop ∈ τ.readings ∧
      (Value.float ((stop - start) * 1000.0)).toInt = .ok ms ∧
      Tells n τ.readings (Session.stopTimer ⟨n, name, attributes, start⟩) s
        [.leave ⟨name, Number.ofInt ms, attributes⟩] (.ok ()) clock := by
  obtain ⟨stop, clock, hstop, hread⟩ := readClock h
  obtain ⟨ms, hms, hbound⟩ := hpaced start hstart stop hstop
  refine ⟨stop, ms, clock, hstop, hms, hread.bind ?_⟩
  simp only [hms]
  exact count hread.ready (Value.toFloat_int hbound) rfl rfl

/-- A timed block is entered, and it is left with the time it has taken, whatever its body comes
to. -/
theorem timed (h : Ready n τ.readings s) (hpaced : τ.Paced) (name : String)
    (attributes : Attributes) {body : Act υ α} {P : List Moment → Except Failure α → Prop}
    (hbody : ∀ t, Ready n τ.readings t →
      ∃ xs r clock, P xs r ∧ Tells n τ.readings body t xs r clock) :
    ∃ xs r clock start stop ms, P xs r ∧ start ∈ τ.readings ∧ stop ∈ τ.readings ∧
      (Value.float ((stop - start) * 1000.0)).toInt = .ok ms ∧
      Tells n τ.readings (Session.timed n name attributes body) s
        (.enter name attributes :: (xs ++ [.leave ⟨name, Number.ofInt ms, attributes⟩])) r
        clock := by
  obtain ⟨start, _, hstart, hentered⟩ := startTimer h name attributes
  obtain ⟨xs, r, _, hxs, hran⟩ := hbody _ hentered.ready
  obtain ⟨stop, ms, clock, hstop, hms, hleft⟩ := stopTimer hran.ready hpaced name attributes hstart
  refine ⟨xs, r, clock, start, stop, ms, hxs, hstart, hstop, hms, enter ?_ name attributes⟩
  rw [← List.nil_append (xs ++ _), ← List.append_nil [Moment.leave _]]
  exact hentered.bind (hran.attempt.bind (hleft.bind (ofExcept hleft.ready r)))

end Tells

end Session

namespace Program

open Session

variable {υ : Type} {n : Nat}

/-- Runs a program that reports to channel `n`. -/
def run (n : Nat) : Program → Act υ Unit
  | idle => pure ()
  | event e => emitEvent n e
  | counter name value attributes => count n name value attributes
  | raise e => fail e
  | seq p q => do
    p.run n
    q.run n
  | timer name attributes body => timed n name attributes (body.run n)
  | rescue body handler => do
    match ← attempt (body.run n) with
    | .ok _ => pure ()
    | .error e => (handler e).run n

theorem run_muted (n : Nat) (p : Program) : Keeps (Muted n) (p.run n : Act υ Unit) := by
  induction p with
  | idle => exact keeps_pure _
  | event e => exact emitEvent_muted n e
  | counter name value attributes => exact count_muted n name value attributes
  | raise e => exact keeps_fail e
  | seq p q hp hq => exact keeps_bind hp fun _ => hq
  | timer name attributes body hbody => exact timed_muted n name attributes hbody
  | rescue body handler hbody hhandler =>
    unfold run
    refine keeps_bind (keeps_attempt hbody) fun r => ?_
    rcases r with e | ⟨⟩
    · exact hhandler e
    · exact keeps_pure _

/-- One case for each form of program: it runs, and the channel is told what is done. -/
theorem run_tells {τ : Telemetry} (hpaced : τ.Paced) (p : Program) (s : Session υ)
    (h : Ready n τ.readings s) :
    ∃ xs r clock, Runs τ.readings p xs r ∧ Tells n τ.readings (p.run n) s xs r clock := by
  induction p generalizing s with
  | idle => exact ⟨_, _, _, .idle, .pure h ()⟩
  | event e => exact ⟨_, _, _, .event e, .emitEvent h e⟩
  | counter name value attributes =>
    cases hvalue : value.toFloat with
    | ok v => exact ⟨_, _, _, .counter hvalue, .count h hvalue rfl rfl⟩
    | error why => exact ⟨_, _, _, .uncounted hvalue, .count_error h name attributes hvalue⟩
  | raise e => exact ⟨_, _, _, .raise e, .fail h e⟩
  | seq p q hp hq =>
    obtain ⟨xs, r, clock, hruns, htells⟩ := hp s h
    rcases r with e | ⟨⟩
    · exact ⟨xs, _, clock, .seq_error hruns, htells.bind_error⟩
    · obtain ⟨ys, r, clock', hruns', htells'⟩ := hq _ htells.ready
      exact ⟨xs ++ ys, r, clock', .seq hruns hruns', htells.bind htells'⟩
  | timer name attributes body hbody =>
    obtain ⟨xs, r, clock, start, stop, ms, hruns, hstart, hstop, hms, htells⟩ :=
      Tells.timed h hpaced name attributes hbody
    exact ⟨_, r, clock, .timer hstart hruns hstop hms, htells⟩
  | rescue body handler hbody hhandler =>
    unfold run
    obtain ⟨xs, r, clock, hruns, htells⟩ := hbody s h
    rcases r with e | ⟨⟩
    -- What the body has done before it failed stays, and the handler goes on from there.
    · obtain ⟨ys, r, clock', hruns', htells'⟩ := hhandler e _ htells.ready
      exact ⟨xs ++ ys, r, clock', .rescue_error hruns hruns', htells.attempt.bind htells'⟩
    · refine ⟨xs, .ok (), clock, .rescue_ok hruns, ?_⟩
      rw [← List.append_nil xs]
      exact htells.attempt.bind (.pure htells.ready ())

/-- With a channel that keeps what it takes, a program does what its run says, of which there is one
but for the times, in blocks that are left whatever happens in them. The channel has the events and
the metrics of that, in order: one metric for each counter that counts and one for each block that is
entered. A disabled channel takes nothing, and the program comes to the same outcome if every counter
in it counts. -/
theorem records_what_ran (p : Program) (s : Session υ) {c : Channel}
    (hc : s.telemetry.channels[n]? = some c) (hkeeps : c.keepsEvents = true)
    (hpaced : s.telemetry.Paced) :
    ∃ xs r clock, Runs s.telemetry.readings p xs r ∧
      (∀ ys q, Runs s.telemetry.readings p ys q →
        r = q ∧ xs.map Moment.untimed = ys.map Moment.untimed) ∧
      Bracketed xs ∧
      ((xs.filterMap Moment.metric?).map fun m => (m.name, m.attributes)).Perm
        (xs.filterMap Moment.due?) ∧
      exec (p.run n) s = (r, (s.taking n xs).atClock clock) ∧
      (next (p.run n) s).telemetry.channels[n]? = some (c.after xs) ∧
      ∀ u : Session υ, u.telemetry.clock = s.telemetry.clock → Off n u →
        (∃ clock', next (p.run n) u = u.atClock clock') ∧
        ((∀ x ∈ xs, x.Counts) → exec (p.run n) u = (r, u.atClock clock)) := by
  obtain ⟨xs, r, clock, hruns, htells⟩ :=
    run_tells hpaced p s ⟨⟨c, hc, hkeeps⟩, List.Subset.refl _⟩
  have hbracketed := hruns.bracketed
  refine ⟨xs, r, clock, hruns, fun _ _ => hruns.unique, hbracketed, hbracketed.metrics_perm,
    htells.on, ?_, ?_⟩
  · rw [next, htells.on]
    simp [taking, atClock, hc]
  · exact fun u hclock hoff => ⟨run_muted n p u hoff, htells.off u hclock hoff⟩

/-- A session that has one channel. -/
def reportingTo (c : Channel) : Session Unit := { telemetry := { channels := [c] }, ui := () }

theorem off_reportingTo {c : Channel} (h : c.enabled = false) : Off 0 (reportingTo c) := by
  intro d hd
  obtain rfl := Option.some.inj hd
  exact h

/-- It fails after a counter. -/
def inner : Program :=
  .timer "inner" [("depth", .int 2)] (.seq (.counter "seen" (.int 3) []) (.raise .noRendering))

/-- The inner block is rescued, and then the outer one fails. -/
def nested : Program :=
  .timer "outer" [] <| .seq (.event ⟨"begun", []⟩) <|
    .seq (.rescue inner fun e => .event ⟨e.message, []⟩)
      (.seq (.raise (.outside "RuntimeError" "boom")) (.counter "unseen" (.int 1) []))

theorem nested_runs : ∃ xs, Runs [0.0] nested xs (.error (.outside "RuntimeError" "boom")) ∧
    ∀ x ∈ xs, x.Counts := by
  have hreading : (0.0 : Float) ∈ [0.0] := List.mem_singleton_self _
  obtain ⟨ms, hms, -⟩ := Telemetry.paced_of_clock_nil (t := {}) rfl 0.0 hreading 0.0 hreading
  have hthree : (3 : Int).natAbs < 2 ^ 1023 :=
    Nat.lt_trans (by decide : 3 < 1023) Nat.lt_two_pow_self
  have hinner : Runs [0.0] inner _ (.error .noRendering) :=
    .timer hreading (.seq (.counter (Value.toFloat_int hthree)) (.raise _)) hreading hms
  have hrescued : Runs [0.0] (.rescue inner fun e => .event ⟨e.message, []⟩) _ (.ok ()) :=
    .rescue_error hinner (.event _)
  refine ⟨_, .timer hreading (.seq (.event _) (.seq hrescued (.seq_error (.raise _)))) hreading hms,
    ?_⟩
  simp [Moment.Counts]

theorem records_what_ran_nested :
    ∃ xs, Runs [0.0] nested xs (.error (.outside "RuntimeError" "boom")) ∧ Bracketed xs ∧
      (xs.filterMap Moment.event?).map Event.name = ["begun", Failure.noRendering.message] ∧
      (xs.filterMap Moment.metric?).map Metric.name = ["seen", "inner", "outer"] ∧
      (exec (nested.run 0) (reportingTo {})).1 = .error (.outside "RuntimeError" "boom") := by
  let s := reportingTo .recording
  obtain ⟨ys, hruns', hcounts⟩ := nested_runs
  obtain ⟨xs, r, clock, hruns, hunique, hbracketed, -, hexec, -, hoff⟩ :=
    records_what_ran (n := 0) nested s rfl rfl (Telemetry.paced_of_clock_nil rfl)
  obtain ⟨rfl, hsame⟩ := hunique ys _ hruns'
  have htaken : (next (nested.run 0) s).telemetry.channels.map
      (fun c => (c.events.map Event.name, c.metrics.map Metric.name)) =
      [(["begun", Failure.noRendering.message], ["seen", "inner", "outer"])] := by decide +kernel
  rw [next, hexec] at htaken
  obtain ⟨hevents, hmetrics⟩ := Prod.mk.inj (List.cons.inj htaken).1
  refine ⟨xs, hruns, hbracketed, hevents, hmetrics, ?_⟩
  rw [(hoff (reportingTo {}) rfl (off_reportingTo rfl)).2 (Moment.counts_of_untimed hsame hcounts)]

/-- Whether it matters that a value is no float is up to the channel. -/
theorem counter_depends_on_channel {readings : List Float} {s u : Session υ}
    (h : Ready n readings s) (hoff : Off n u) (name : String) {value : Value}
    (attributes : Attributes) {why : ValueError} (hvalue : value.toFloat = .error why) :
    (exec ((counter name value attributes).run n) s).1 = .error (.value why) ∧
      (exec ((counter name value attributes).run n) u).1 = .ok () := by
  constructor
  · rw [run, (Tells.count_error h name attributes hvalue).on]
  · rw [run, hoff.exec_count]

theorem enormous_counter_depends_on_channel :
    (exec ((counter "bytes" (.int (10 ^ 400)) []).run 0) (reportingTo .recording)).1 =
      .error (.value .tooLarge) ∧
    (exec ((counter "bytes" (.int (10 ^ 400)) []).run 0)
        (reportingTo { destination := .memory })).1 = .ok () := by
  have hready : Ready 0 [0.0] (reportingTo .recording) := ⟨⟨_, rfl, rfl⟩, List.Subset.refl _⟩
  refine counter_depends_on_channel hready ?_ _ _ ?_
  · exact off_reportingTo rfl
  · exact Value.toFloat_int_of_isInfinite (by decide +kernel)

end Program
end RemoteScreen
