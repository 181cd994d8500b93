import Mathlib.Control.Monad.Basic
import RemoteScreen.Proofs.Number.Finite
import RemoteScreen.Proofs.Session.Effect

/-! Reporting never gets in the way: with a clock whose readings lie within reach of each other, a
timed step fails only if the step itself does. What is reported is a list of notices, and they leave
in the log and in a channel what they leave when they are passed on one after the other. -/
namespace RemoteScreen

/-- Something that is reported: a line for the log, or an event or a metric for a channel. -/
inductive Notice where
  | line (r : Record)
  | event (e : Event)
  | metric (m : Metric)

namespace Notice

def record? : Notice → Option Record
  | line r => some r
  | _ => none

def event? : Notice → Option Event
  | event e => some e
  | _ => none

def metric? : Notice → Option Metric
  | metric m => some m
  | _ => none

/-- What a channel that keeps everything has after one more notice. -/
def onto (c : Channel) : Notice → Channel
  | .line _ => c
  | .event e => { c with events := c.events ++ [e] }
  | .metric m => { c with metrics := c.metrics ++ [m] }

end Notice

namespace Telemetry

/-- What the clock can still say; without readings it says zero. -/
def readings (t : Telemetry) : List Float := if t.clock.isEmpty then [0.0] else t.clock

/-- Between any two readings lies a number of milliseconds that counts as a float. -/
def Paced (t : Telemetry) : Prop :=
  ∀ x ∈ t.readings, ∀ y ∈ t.readings, ∃ ms : Int,
    (Value.float ((y - x) * 1000.0)).toInt = .ok ms ∧ ms.natAbs < 2 ^ 1023

theorem Paced.mono {t u : Telemetry} (h : t.Paced) (hsub : u.readings ⊆ t.readings) : u.Paced :=
  fun x hx y hy => h x (hsub hx) y (hsub hy)

/-- Without readings no time passes. -/
theorem paced_of_clock_nil {t : Telemetry} (h : t.clock = []) : t.Paced := by
  intro x hx y hy
  simp only [readings, h, List.isEmpty_nil, if_true, List.mem_singleton] at hx hy
  subst hx hy
  exact ⟨0, by decide +kernel, Nat.two_pow_pos 1023⟩

end Telemetry

namespace Session

variable {υ α : Type} {s : Session υ}

/-- A step that changes at most the log and what channels have taken, and reads the clock. -/
structure Reporting (s t : Session υ) : Prop where
  rest : ∃ j τ, t = { s with journal := j, telemetry := τ }
  readings : t.telemetry.readings ⊆ s.telemetry.readings

instance : IsPreorder (Session υ) Reporting where
  refl s := ⟨⟨s.journal, s.telemetry, rfl⟩, List.Subset.refl _⟩
  trans := by
    rintro s t u ⟨⟨j, τ, rfl⟩, h⟩ ⟨⟨j', τ', rfl⟩, k⟩
    exact ⟨⟨j', τ', rfl⟩, List.Subset.trans k h⟩

theorem Reporting.of_clock {t : Session υ} {j : Journal} {τ : Telemetry}
    (ht : t = { s with journal := j, telemetry := τ }) (hclock : τ.clock = s.telemetry.clock) :
    Reporting s t := by
  subst ht
  refine ⟨⟨j, τ, rfl⟩, ?_⟩
  simp only [Telemetry.readings, hclock]
  exact List.Subset.refl _

theorem log_reporting (severity : Severity) (part message : String) :
    Keeps Reporting (log severity part message : Act υ Unit) := fun _ => .of_clock rfl rfl

theorem updateChannel_reporting (n : Nat) (f : Channel → Channel) :
    Keeps Reporting (updateChannel n f : Act υ Unit) := fun _ => .of_clock rfl rfl

theorem emitMetric_reporting (n : Nat) (m : Metric) :
    Keeps Reporting (emitMetric n m : Act υ Unit) := by
  refine keeps_bind keeps_get fun s => ?_
  split
  · exact updateChannel_reporting _ _
  · exact log_reporting _ _ _
  · exact keeps_pure _

theorem emitEvent_reporting (n : Nat) (e : Event) :
    Keeps Reporting (emitEvent n e : Act υ Unit) := by
  refine keeps_bind keeps_get fun s => ?_
  split
  · exact updateChannel_reporting _ _
  · exact log_reporting _ _ _
  · exact keeps_pure _

theorem emitMetric_yields (n : Nat) (m : Metric) :
    Yields (emitMetric n m : Act υ Unit) fun _ => True := by
  refine yields_after (yields_get fun _ => trivial) fun s => ?_
  split
  · exact yields_modify trivial
  · exact yields_modify trivial
  · exact yields_pure trivial

theorem count_reporting (n : Nat) (name : String) (value : Value) (attributes : Attributes) :
    Keeps Reporting (count n name value attributes : Act υ Unit) := by
  refine keeps_bind (keeps_bind keeps_get fun _ => keeps_pure _) fun enabled => ?_
  split
  · split
    · exact emitMetric_reporting _ _
    · exact keeps_fail _
  · exact keeps_pure _

theorem readClock_reporting : Keeps Reporting (readClock : Act υ Float) := by
  intro s
  rcases hc : s.telemetry.clock with - | ⟨x, - | ⟨y, ys⟩⟩
  · simp only [next, readClock, exec_bind, exec_get, hc, exec_pure]
    exact Std.Refl.refl s
  · simp only [next, readClock, exec_bind, exec_get, hc, exec_pure]
    exact Std.Refl.refl s
  · simp only [next, readClock, exec_bind, exec_get, hc, exec_modify, exec_pure]
    refine ⟨⟨_, _, rfl⟩, ?_⟩
    simp [Telemetry.readings, hc]

theorem stopTimer_reporting (t : Timer) : Keeps Reporting (stopTimer t : Act υ Unit) := by
  refine keeps_bind readClock_reporting fun stop => ?_
  split
  · exact count_reporting _ _ _ _
  · exact keeps_fail _

/-- What reporting and a step keep, the timed step keeps. -/
theorem keeps_timed {R : Session υ → Session υ → Prop} [IsPreorder (Session υ) R]
    (hreporting : ∀ s t, Reporting s t → R s t) {channel : Nat} {name : String}
    {attributes : Attributes} {body : Act υ α} (hbody : Keeps R body) :
    Keeps R (timed channel name attributes body) := by
  refine keeps_bind ?_ fun t => ?_
  · exact keeps_bind (readClock_reporting.mono hreporting) fun _ => keeps_pure _
  · refine keeps_bind (keeps_attempt hbody) fun r => ?_
    exact keeps_bind ((stopTimer_reporting t).mono hreporting) fun _ => keeps_ofExcept r

theorem gives_timed {body : Act υ α} {P : α → Prop} (h : Gives body P) (channel : Nat)
    (name : String) (attributes : Attributes) :
    Gives (timed channel name attributes body) P := by
  have hattempt : Gives (attempt body) fun r => ∀ a, r = .ok a → P a := by
    intro s r t hok a ha
    rw [exec_attempt] at hok
    obtain ⟨hr, rfl⟩ := Prod.mk.inj hok
    obtain rfl := Except.ok.inj hr
    exact h s a _ (Prod.ext ha rfl)
  refine gives_after fun timer => gives_bind hattempt fun r hr => gives_after fun _ => ?_
  cases r with
  | error e => exact gives_fail e _
  | ok a => exact gives_pure (hr a rfl)

theorem addChannel_reporting (c : Channel) : Keeps Reporting (addChannel c : Act υ Nat) :=
  fun _ => .of_clock rfl rfl

theorem channelOr_reporting (channel : Option Nat) :
    Keeps Reporting (channelOr channel : Act υ Nat) := by
  unfold channelOr processChannel
  split
  · exact keeps_pure _
  · refine keeps_bind keeps_get fun s => ?_
    split
    · exact keeps_pure _
    · refine keeps_bind (addChannel_reporting _) fun n => ?_
      exact keeps_bind (fun _ => .of_clock rfl rfl) fun _ => keeps_pure _

/-- There is always a channel: if no other, a disabled one for the whole process. -/
theorem channelOr_yields (channel : Option Nat) :
    Yields (channelOr channel : Act υ Nat) fun _ => True := by
  unfold channelOr processChannel
  split
  · exact yields_pure trivial
  · refine yields_after (yields_get fun _ => trivial) fun s => ?_
    split
    · exact yields_pure trivial
    · have hadd : Yields (addChannel {} : Act υ Nat) fun _ => True := fun _ => ⟨_, _, rfl, trivial⟩
      refine yields_after hadd fun n => ?_
      exact yields_after (yields_modify trivial) fun _ => yields_pure trivial

/-! Notices -/

/-- Passes a notice on. -/
def notify (n : Nat) : Notice → Act υ Unit
  | .line r => modify fun s => { s with journal := s.journal.write r }
  | .event e => emitEvent n e
  | .metric m => emitMetric n m

/-- The log, and what all channels have taken. -/
def reported (s : Session υ) : Journal × List Channel := (s.journal, s.telemetry.channels)

/-- From one session to the other the notices are passed on to channel `n`, and no others. -/
def Reports (n : Nat) (ns : List Notice) (s t : Session υ) : Prop :=
  t.reported = (next (ns.forM (notify n)) s).reported

/-- The notices are passed on to the channel that is given, or else to the one of the process. -/
def Reported (channel : Option Nat) (ns : List Notice) (s t : Session υ) : Prop :=
  ∃ n u, exec (channelOr channel) s = (.ok n, u) ∧ Reports n ns u t

theorem notify_yields (n : Nat) (x : Notice) :
    Yields (notify n x : Act υ Unit) fun _ => True := by
  cases x with
  | line r => exact yields_modify trivial
  | event e =>
    refine yields_after (yields_get fun _ => trivial) fun s => ?_
    split
    · exact yields_modify trivial
    · exact yields_modify trivial
    · exact yields_pure trivial
  | metric m => exact emitMetric_yields n m

/-- The log and the channels decide what notices leave there. -/
theorem notify_congr {t : Session υ} (h : t.reported = s.reported) (n : Nat) (x : Notice) :
    (next (notify n x) t).reported = (next (notify n x) s).reported := by
  obtain ⟨hjournal, hchannels⟩ := Prod.mk.inj h
  cases x with
  | line r => simp [reported, next, notify, hjournal, hchannels]
  | event e =>
    simp only [next, notify, emitEvent, exec_bind, exec_get, hchannels]
    split <;> simp [reported, updateChannel, log, hjournal, hchannels]
  | metric m =>
    simp only [next, notify, emitMetric, exec_bind, exec_get, hchannels]
    split <;> simp [reported, updateChannel, log, hjournal, hchannels]

theorem next_notices_cons (n : Nat) (x : Notice) (xs : List Notice) (s : Session υ) :
    next ((x :: xs).forM (notify n)) s = next (xs.forM (notify n)) (next (notify n x) s) := by
  obtain ⟨a, t, hs, -⟩ := notify_yields n x s
  simp only [List.forM_eq_forM, List.forM_cons, next, exec_bind, hs]

theorem notices_congr {t : Session υ} (h : t.reported = s.reported) (n : Nat)
    (ns : List Notice) :
    (next (ns.forM (notify n)) t).reported = (next (ns.forM (notify n)) s).reported := by
  induction ns generalizing s t with
  | nil => exact h
  | cons x xs ih =>
    rw [next_notices_cons, next_notices_cons]
    exact ih (notify_congr h n x)

theorem next_notices_append (n : Nat) (xs ys : List Notice) (s : Session υ) :
    next ((xs ++ ys).forM (notify n)) s =
      next (ys.forM (notify n)) (next (xs.forM (notify n)) s) := by
  induction xs generalizing s with
  | nil => rfl
  | cons x xs ih => rw [List.cons_append, next_notices_cons, ih, next_notices_cons]

section

variable {t u : Session υ} {n : Nat} {xs ys : List Notice}

theorem Reports.nil (h : t.reported = s.reported) : Reports n [] s t := h

theorem Reports.append (h : Reports n xs s t) (k : Reports n ys t u) :
    Reports n (xs ++ ys) s u := by
  unfold Reports at h k ⊢
  rw [next_notices_append, k]
  exact notices_congr h n ys

theorem Reports.after (h : t.reported = s.reported) (k : Reports n ys t u) : Reports n ys s u :=
  (Reports.nil (n := n) h).append k

theorem Reports.line (n : Nat) (r : Record) (s : Session υ) :
    Reports n [.line r] s { s with journal := s.journal.write r } := rfl

theorem Reports.notice (n : Nat) (x : Notice) (s : Session υ) :
    Reports n [x] s (next (notify n x) s) := by
  rw [Reports, next_notices_cons]
  rfl

/-- Lines for the log alone. -/
theorem Reports.lines (n : Nat) (rs : List Record) (s : Session υ) :
    Reports n (rs.map .line) s { s with journal := rs.foldl Journal.write s.journal } := by
  induction rs generalizing s with
  | nil => rfl
  | cons r rs ih => exact (Reports.line n r s).append (ih _)

end

/-! What is kept of notices -/

theorem exec_channelOr_of_some {channel : Option Nat} {n : Nat}
    (h : channel.or s.telemetry.processWide = some n) :
    exec (channelOr channel) s = (.ok n, s) := by
  cases channel with
  | some m =>
    obtain rfl : m = n := Option.some.inj h
    rfl
  | none =>
    have hwide : s.telemetry.processWide = some n := h
    simp [channelOr, processChannel, hwide]

theorem notify_kept {n : Nat} {c : Channel} (hc : s.telemetry.channels[n]? = some c)
    (hkeeps : c.keepsEvents = true) (x : Notice) :
    (next (notify n x) s).journal = x.record?.toList.foldl Journal.write s.journal ∧
      (next (notify n x) s).telemetry.channels[n]? = some (x.onto c) := by
  obtain ⟨enabled, destination, events, metrics⟩ := c
  obtain ⟨rfl, rfl⟩ : enabled = true ∧ destination = .memory := by
    simpa [Channel.keepsEvents] using hkeeps
  cases x with
  | line r => exact ⟨rfl, hc⟩
  | event e =>
    simp [next, notify, emitEvent, updateChannel, hc, Notice.record?, Notice.onto]
  | metric m =>
    simp [next, notify, emitMetric, updateChannel, hc, Notice.record?, Notice.onto]

/-- A channel that keeps what it takes has the events and the metrics, in order, and the log has the
lines. -/
theorem Reports.kept {t : Session υ} {n : Nat} {ns : List Notice} {c : Channel}
    (h : Reports n ns s t) (hc : s.telemetry.channels[n]? = some c)
    (hkeeps : c.keepsEvents = true) :
    t.journal = (ns.filterMap Notice.record?).foldl Journal.write s.journal ∧
      t.telemetry.channels[n]? = some { c with
        events := c.events ++ ns.filterMap Notice.event?
        metrics := c.metrics ++ ns.filterMap Notice.metric? } := by
  obtain ⟨hjournal, hchannels⟩ := Prod.mk.inj h
  rw [hjournal, hchannels]
  clear h hjournal hchannels t
  induction ns generalizing s c with
  | nil => exact ⟨rfl, by simp [next, hc]⟩
  | cons x xs ih =>
    obtain ⟨hjournal, hchannel⟩ := notify_kept hc hkeeps x
    have hkeeps' : (x.onto c).keepsEvents = true := by cases x <;> exact hkeeps
    obtain ⟨hlines, hkept⟩ := ih hchannel hkeeps'
    rw [next_notices_cons, hlines, hkept, hjournal]
    cases x <;>
      simp [List.filterMap_cons, Notice.record?, Notice.event?, Notice.metric?, Notice.onto]

theorem exec_channelOr_ui (channel : Option Nat) (s : Session υ) (v : υ) :
    exec (channelOr channel) { s with ui := v } =
      ((exec (channelOr channel) s).1, { (exec (channelOr channel) s).2 with ui := v }) := by
  cases channel with
  | some n => rfl
  | none =>
    cases hwide : s.telemetry.processWide <;>
      simp [channelOr, processChannel, addChannel, hwide]

/-- What is on screen has no part in what is reported. -/
theorem Reported.of_ui {t : Session υ} {channel : Option Nat} {ns : List Notice} {v : υ}
    (h : Reported channel ns { s with ui := v } t) : Reported channel ns s t := by
  obtain ⟨n, u, hn, hreports⟩ := h
  rw [exec_channelOr_ui] at hn
  obtain ⟨hchannel, rfl⟩ := Prod.mk.inj hn
  refine ⟨n, (exec (channelOr channel) s).2, Prod.ext hchannel rfl, ?_⟩
  have hsame : ({ (exec (channelOr channel) s).2 with ui := v } : Session υ).reported =
      (exec (channelOr channel) s).2.reported := rfl
  exact hreports.trans (notices_congr hsame n ns)

/-- An event for the whole process is reported, and nothing besides. -/
theorem exec_emitEvent (e : Event) (s : Session υ) :
    ∃ n u t, exec processChannel s = (.ok n, u) ∧ exec (emitEvent n e) u = (.ok ⟨⟩, t) ∧
      Reporting s t ∧ Reported none [.event e] s t := by
  obtain ⟨n, u, hu, -⟩ := channelOr_yields none s
  obtain ⟨⟨⟩, t, ht, -⟩ := notify_yields n (.event e) u
  have hsu := channelOr_reporting none s
  have hut := emitEvent_reporting n e u
  have hreports := Reports.notice n (.event e) u
  rw [next, hu] at hsu
  rw [next] at hreports hut
  rw [ht] at hreports
  rw [notify] at ht
  rw [ht] at hut
  exact ⟨n, u, t, hu, ht, IsTrans.trans s u t hsu hut, n, u, hu, hreports⟩

/-- A number that counts as a float can be reported. -/
theorem exec_count (n : Nat) (name : String) {k : Int} (hk : k.natAbs < 2 ^ 1023)
    (attributes : Attributes) (s : Session υ) :
    ∃ t, exec (count n name (.int k) attributes) s = (.ok ⟨⟩, t) ∧ Reporting s t ∧
      Reports n [.metric ⟨name, Number.ofInt k, attributes⟩] s t := by
  obtain ⟨a, t, ht, -⟩ := emitMetric_yields n ⟨name, Number.ofInt k, attributes⟩ s
  have hreporting := emitMetric_reporting n ⟨name, Number.ofInt k, attributes⟩ s
  have hreports := Reports.notice n (.metric ⟨name, Number.ofInt k, attributes⟩) s
  rw [next, ht] at hreporting
  rw [notify, next, ht] at hreports
  rcases henabled : (s.telemetry.channels[n]?.map Channel.enabled).getD false with - | -
  · have hnothing : exec (emitMetric n ⟨name, Number.ofInt k, attributes⟩) s = (.ok ⟨⟩, s) := by
      simp only [emitMetric, exec_bind, exec_get]
      split <;> simp_all
    rw [hnothing] at ht
    obtain rfl := (Prod.mk.inj ht).2
    exact ⟨s, by simp [count, isEnabled, henabled], Std.Refl.refl s, hreports⟩
  · refine ⟨t, ?_, hreporting, hreports⟩
    simp [count, isEnabled, henabled, Value.toFloat_int hk, ht]

theorem exec_readClock (s : Session υ) :
    ∃ x t, exec readClock s = (.ok x, t) ∧ x ∈ s.telemetry.readings ∧ Reporting s t ∧
      t.reported = s.reported := by
  have hreporting := readClock_reporting s
  rcases hc : s.telemetry.clock with - | ⟨x, - | ⟨y, ys⟩⟩
  · exact ⟨0.0, s, by simp [readClock, hc], by simp [Telemetry.readings, hc], Std.Refl.refl s, rfl⟩
  · exact ⟨x, s, by simp [readClock, hc], by simp [Telemetry.readings, hc], Std.Refl.refl s, rfl⟩
  · have hread : exec readClock s =
        (.ok x, { s with telemetry := { s.telemetry with clock := y :: ys } }) := by
      simp [readClock, hc]
    rw [next, hread] at hreporting
    exact ⟨x, _, hread, by simp [Telemetry.readings, hc], hreporting, rfl⟩

/-- A step that leaves telemetry alone comes to the same end when it is timed, and the time is
reported when it is over, whatever its end. -/
theorem exec_timed (channel : Nat) (name : String) (attributes : Attributes) {body : Act υ α}
    (hbody : ∀ u, (next body u).telemetry = u.telemetry) (h : s.telemetry.Paced) :
    ∃ u x t, Reporting s u ∧ u.reported = s.reported ∧ Reporting (next body u) t ∧
      Reports channel [.metric ⟨name, x, attributes⟩] (next body u) t ∧
      exec (timed channel name attributes body) s = ((exec body u).1, t) := by
  obtain ⟨x, u, hu, hx, hsu, hquiet⟩ := exec_readClock s
  obtain ⟨y, w, hw, hy, hvw, hquiet'⟩ := exec_readClock (next body u)
  rw [hbody] at hy
  obtain ⟨ms, hms, hbound⟩ := h x hx y (hsu.readings hy)
  obtain ⟨t, ht, hwt, hreports⟩ := exec_count channel name hbound attributes w
  refine ⟨u, Number.ofInt ms, t, hsu, hquiet, IsTrans.trans _ w t hvw hwt,
    hreports.after hquiet', ?_⟩
  rw [next] at hw
  simp [timed, startTimer, stopTimer, hu, hw, hms, ht]

end Session
end RemoteScreen
