import RemoteScreen.Proofs.View.Succession
import RemoteScreen.Proofs.View.Timer

/-! Looking for images again and again. While a screen with a loader is mounted there is one alarm that
looks for images, and the screen knows which: mounting sets it, each time it goes off it is set again,
and destroying the screen puts it off. -/
namespace RemoteScreen

/-- The toolkit takes an alarm that has been set, and moves the clock to it. -/
theorem Toolkit.takeAlarm?_eq_some {κ : Type} {k k' : Toolkit κ} {limit : Int} {command : κ}
    (h : k.takeAlarm? limit = some (k', command)) :
    ∃ a ∈ k.alarms, a.command = command ∧ k' = { k.cancel a.number with now := a.due } := by
  unfold Toolkit.takeAlarm? at h
  split at h
  next a rest hagenda =>
    obtain ⟨-, hpair⟩ := Option.ite_none_right_eq_some.1 h
    obtain ⟨rfl, rfl⟩ := Prod.mk.inj (Option.some.inj hpair)
    refine ⟨a, ?_, rfl, rfl⟩
    have hmem : a ∈ k.agenda := hagenda ▸ List.mem_cons_self
    exact List.mem_mergeSort.1 hmem
  · cases h

namespace Session

variable {s t u : Session Ui} {base v w q n : Nat} {x y : View} {root : Option Nat}
  {a : Alarm Command} {live on on' : Bool}

/-! Setting the timer -/

/-- The alarm that is set to look for images through widget `w`. -/
def nextPoll (s : Session Ui) (w : Nat) : Alarm Command :=
  ⟨s.ui.kit.nextAlarm, w, s.ui.kit.now + s.ui.screen.pollMs, .poll⟩

/-- A session whose screen has set its timer through widget `w`. -/
def armed (s : Session Ui) (w : Nat) : Session Ui := { s with ui := { s.ui with
  kit := { s.ui.kit with
    alarms := s.ui.kit.alarms ++ [s.nextPoll w]
    nextAlarm := s.ui.kit.nextAlarm + 1 }
  screen := { s.ui.screen with pollAlarm := some s.ui.kit.nextAlarm } } }

@[simp] theorem polling_armed (s : Session Ui) (w : Nat) :
    polling (s.armed w).ui.kit = polling s.ui.kit ++ [s.nextPoll w] := by
  simp [polling, armed, nextPoll, polls]

theorem exec_schedulePoll (hloader : s.loader.isSome = true) (hw : s.ui.kit.isAlive w = true) :
    exec (schedulePoll w) s = (.ok ⟨⟩, s.armed w) := by
  simp only [schedulePoll, exec_bind, exec_get, exec_theUi, hloader, if_true, exec_after hw,
    exec_updateUi]
  rfl

/-- Without a loader no timer is set. -/
theorem exec_schedulePoll_of_none (hloader : s.loader = none) (w : Nat) :
    exec (schedulePoll w) s = (.ok ⟨⟩, s) := by
  simp [schedulePoll, hloader]

/-- A screen that has been built has set its timer, if there is a loader. -/
theorem buildScreen_armed (h : exec (buildGroup .screen q) s = (.ok w, u)) :
    ∃ t, TimerKept s t ∧ (s.loader.isSome = true ∧ u = t.armed w ∨ s.loader = none ∧ u = t) := by
  rw [buildGroup, if_pos rfl] at h
  obtain ⟨frame, t, hst, hrest⟩ := (keeps_create (R := TimerKept) q _ _).bind_eq_ok h
  obtain ⟨⟨⟩, u', hschedule, hpure⟩ := exec_bind_eq_ok hrest
  obtain ⟨hframe, rfl⟩ := Prod.mk.inj hpure
  obtain rfl := Except.ok.inj hframe
  refine ⟨t, hst, ?_⟩
  cases hloader : s.loader with
  | none =>
    have hnone : t.loader = none := by simpa [hloader] using hst.loader
    obtain ⟨-, rfl⟩ := Prod.mk.inj ((exec_schedulePoll_of_none hnone frame).symm.trans hschedule)
    exact .inr ⟨rfl, rfl⟩
  | some l =>
    have hsome : t.loader.isSome = true := by rw [hst.loader, hloader]; rfl
    cases halive : t.ui.kit.isAlive frame with
    | false =>
      simp [schedulePoll, hsome, exec_after_destroyed halive] at hschedule
    | true =>
      obtain ⟨-, rfl⟩ := Prod.mk.inj ((exec_schedulePoll hsome halive).symm.trans hschedule)
      exact .inl ⟨rfl, rfl⟩

/-! Putting the timer off -/

/-- A session whose screen knows of no timer. -/
def unarmed (s : Session Ui) : Session Ui :=
  { s with ui := { s.ui with screen := { s.ui.screen with pollAlarm := none } } }

/-- A session in which a screen with widget `root` has put off its timer. -/
def disarmed (s : Session Ui) (root : Option Nat) : Session Ui :=
  match s.ui.screen.pollAlarm, root with
  | some n, some _ => (s.withKit (s.ui.kit.cancel n)).unarmed
  | _, _ => s.unarmed

theorem exec_retire_screen (hx : x.kind = .screen) (v : Nat) (s : Session Ui) :
    exec (retire v x) s =
      (.ok ⟨⟩, (s.disarmed x.root).withView v fun x => { x with parts := .none }) := by
  unfold retire disarmed
  rw [hx]
  simp only [exec_bind, exec_theUi]
  cases s.ui.screen.pollAlarm with
  | none => rfl
  | some n => cases x.root <;> rfl

/-- Once the timer has been put off, destroying the screen sets none. -/
theorem destroyScreen_kept (hs : Flat s) (hx : s.ui.views[v]? = some x) (hkind : x.kind = .screen) :
    TimerKept (s.disarmed x.root) (next (destroy v) s) := by
  have hviews : (s.disarmed x.root).ui.views = s.ui.views := by
    unfold disarmed
    split <;> rfl
  have hflat : Flat (s.disarmed x.root) := by
    unfold Flat NoGroup
    rw [hviews]
    exact hs
  have hparts := pruned_dropParts v (s.disarmed x.root)
  rw [next, exec_updateView] at hparts
  rw [destroy, next_bind_eq (exec_depth s)]
  refine hparts.toTimerKept.trans (destroyDeep_retired (destroyDeep_pruned _) hx
    (exec_retire_screen hkind v s) (hflat.pruned hparts) fun c hc => ?_).toTimerKept
  refine NoGroup.kept ?_ hparts.toTimerKept
  exact hflat v x (hviews ▸ hx) c hc

/-! A timer that goes with the screen -/

/-- With a loader, a screen that has a widget has set one timer, through that widget, and knows it;
otherwise no timer is set. -/
structure Timed (live : Bool) (root : Option Nat) (s : Session Ui) : Prop where
  ticks : ∀ w, root = some w → live = true → ∃ a, polling s.ui.kit = [a] ∧
    s.ui.screen.pollAlarm = some a.number ∧ a.owner = w
  rests : root = none ∨ live = false → polling s.ui.kit = [] ∧ s.ui.screen.pollAlarm = none

theorem Timed.kept (h : Timed live root s) (k : TimerKept s t)
    (hroot : ∀ w, root = some w → t.ui.kit.isAlive w = true) : Timed live root t where
  ticks := by
    intro w hw hlive
    obtain ⟨a, ha, hnumber, howner⟩ := h.ticks w hw hlive
    exact ⟨a, k.single ha (howner ▸ hroot w hw), k.pollAlarm.trans hnumber, howner⟩
  rests := by
    intro hoff
    obtain ⟨hnothing, hnone⟩ := h.rests hoff
    exact ⟨k.nothing hnothing, k.pollAlarm.trans hnone⟩

/-- A timer that has just been set is the only one. -/
theorem Timed.armed (hs : polling s.ui.kit = []) (w : Nat) : Timed true (some w) (s.armed w) where
  ticks := by
    rintro w' hw' -
    refine ⟨s.nextPoll w, ?_, rfl, Option.some.inj hw'⟩
    rw [polling_armed, hs]
    rfl
  rests := by simp

/-- A screen that is destroyed puts off its timer. -/
theorem Timed.disarmed (h : Timed live (some w) s) : Timed live none (s.disarmed (some w)) where
  ticks := by simp
  rests := by
    rintro -
    cases live with
    | false =>
      obtain ⟨hnothing, hnone⟩ := h.rests (.inr rfl)
      simp only [Session.disarmed, hnone]
      exact ⟨hnothing, rfl⟩
    | true =>
      obtain ⟨a, ha, hnumber, -⟩ := h.ticks w rfl rfl
      simp only [Session.disarmed, hnumber]
      refine ⟨?_, rfl⟩
      change polling (s.ui.kit.cancel a.number) = []
      rw [polling_cancel, ha]
      simp

/-- Between two steps everything is in its place, and the timer goes with the screen. -/
structure Steady (base : Nat) (live : Bool) (root : Option Nat) (s : Session Ui) : Prop where
  display : OnDisplay base (fun _ => False) (fun _ => True) s
  loader : s.loader.isSome = live
  screen : ∃ x, s.ui.views[s.ui.screen.view]? = some x ∧ x.kind = .screen ∧ x.root = root
  timed : Timed live root s

theorem OnDisplay.isAlive {whole top : Nat → Prop} (h : OnDisplay base whole top s)
    (hx : s.ui.views[v]? = some x) (hw : x.root = some w) : s.ui.kit.isAlive w = true := by
  obtain ⟨path, hpath, -⟩ := h.settled
  obtain ⟨vs, hown⟩ := hpath.own v x hx
  exact (hown w (.inl hw)).1

theorem OnDisplay.flat {whole top : Nat → Prop} (h : OnDisplay base whole top s) : Flat s := by
  obtain ⟨path, hpath, -⟩ := h.settled
  exact hpath.toForest.flat

/-- A step after which the screen has the widget that it had. -/
theorem Steady.kept (h : Steady base live root s) (k : TimerKept s t)
    (ht : OnDisplay base (fun _ => False) (fun _ => True) t)
    (hroot : ∀ x, s.ui.views[s.ui.screen.view]? = some x →
      ∃ y, t.ui.views[s.ui.screen.view]? = some y ∧ y.root = x.root) : Steady base live root t := by
  obtain ⟨x, hx, hkind, hxroot⟩ := h.screen
  obtain ⟨y, hy, hyroot⟩ := hroot x hx
  obtain ⟨z, hz, hsame⟩ := k.kinds _ x hx
  obtain rfl := Option.some.inj (hy.symm.trans hz)
  refine ⟨ht, k.loader.trans h.loader,
    ⟨y, k.view.symm ▸ hy, hsame.trans hkind, hyroot.trans hxroot⟩, ?_⟩
  exact h.timed.kept k fun w hw => ht.isAlive hy (hyroot.trans (hxroot.trans hw))

/-! Single steps -/

theorem Steady.response (h : Steady base live root s) (response : Response) :
    Steady base live root (next (showResponse response) s) := by
  obtain ⟨r, t, hexec, ht, -, -, -, -, herror, hok⟩ :=
    h.display.response (fun _ _ hwhole => hwhole.elim) response
  have hnext : next (showResponse response) s = t := by rw [next, hexec]
  have hkept := hnext ▸ showResponse_kept h.display.flat response
  refine hnext.symm ▸ h.kept hkept ht fun x hx => ?_
  cases r with
  | error e => exact ⟨x, (herror e rfl).1.symm ▸ hx, rfl⟩
  | ok out =>
    obtain ⟨cs, hcs, -⟩ := ((hok out rfl).stack x hx).view
    exact ⟨_, hcs, rfl⟩

theorem Steady.drain (h : Steady base live root s) :
    Steady base live root (next drainImages s) := by
  obtain ⟨_, -, ht, hunseen⟩ := h.display.drain.next
  exact h.kept hunseen.toTimerKept ht fun x hx => ⟨x, hunseen.views.symm ▸ hx, rfl⟩

/-- A carousel is turned. Only views that show something are owned, so the screen is below none. -/
theorem Steady.turn (h : Steady base live root s) (v : Nat) (forward : Bool) :
    Steady base live root (next (turnPage v forward) s) := by
  obtain ⟨_, -, ht, -, -, hturned⟩ := (h.display.turn v forward).next
  refine h.kept (turnPage_kept h.display.flat v forward) ht fun x hx => ?_
  by_cases hv : s.ui.screen.view = v
  · rw [hv] at hx ⊢
    exact hturned.root x hx
  · refine ⟨x, hturned.others _ x hx fun hunder => ?_, rfl⟩
    cases hunder with
    | self => exact hv rfl
    | step _ hy hc =>
      obtain ⟨z, hz, hgroup⟩ := h.display.flat _ _ hy _ hc
      obtain ⟨x', hx', hkind, -⟩ := h.screen
      obtain rfl := Option.some.inj (hz.symm.trans hx')
      rw [hkind] at hgroup
      cases hgroup

/-- Once a view that holds others has been built, mounting those others leaves the timer alone. -/
theorem mountGroup_kept (hs : s.ui.views[v]? = some x) (hgroup : x.kind.isGroup = true)
    (hbuild : exec (buildGroup x.kind q) s = (.ok w, u))
    (hu : ∀ c ∈ x.components, NoGroup u c) : TimerKept u (next (mount v q) s) := by
  rw [mount, next_bind_eq (exec_depth s), mountDeep, next_bind_eq (exec_view? v s), hs]
  dsimp only
  rw [if_pos hgroup, next_bind_eq hbuild]
  refine kept_bind (keeps_setRoot v (R := TimerKept) trivial u) fun _ t _ hut => ?_
  refine kept_bind ?_ fun _ t _ _ => Std.Refl.refl t
  refine kept_forIn (P := fun t => ∀ c ∈ x.components, NoGroup t c)
    (fun s t hs hst c hc => (hs c hc).kept hst) (fun c hc _ t ht => ?_)
    (fun c hc => (hu c hc).kept hut)
  rw [next_bind_eq (exec_view? c t)]
  split
  · exact kept_bind (mountDeep_kept (ht c hc) _ w) fun _ t _ _ => Std.Refl.refl t
  · exact Std.Refl.refl t

/-- A screen that is mounted sets its timer through its widget. -/
theorem Steady.mount (h : Steady base live none s) (hq : q < base)
    (halive : s.ui.kit.isAlive q = true) :
    ∃ w, Steady base live (some w) (next (mount s.ui.screen.view q) s) := by
  obtain ⟨x, hx, hkind, hroot⟩ := h.screen
  have hgroup : x.kind.isGroup = true := by rw [hkind]; rfl
  obtain ⟨_, -, ht, -, hkept, w, ⟨u, hbuild⟩, hxt, -⟩ :=
    (h.display.mountGroup hx hgroup hroot halive hq trivial fun _ _ hwhole => hwhole.elim).next
  obtain ⟨s', hss', hscheduled⟩ := buildScreen_armed (hkind ▸ hbuild)
  obtain ⟨hnothing, hnone⟩ := h.timed.rests (.inl rfl)
  have hloader' : s'.loader.isSome = live := hss'.loader.trans h.loader
  obtain ⟨hset, hloader, hviews⟩ : Timed live (some w) u ∧ u.loader.isSome = live ∧
      u.ui.views = s'.ui.views := by
    rcases hscheduled with ⟨hsome, rfl⟩ | ⟨hnoLoader, rfl⟩
    · obtain rfl : live = true := h.loader.symm.trans hsome
      exact ⟨.armed (hss'.nothing hnothing) w, hloader', rfl⟩
    · obtain rfl : live = false := by rw [← h.loader, hnoLoader]; rfl
      exact ⟨⟨by simp, fun _ => ⟨hss'.nothing hnothing, hss'.pollAlarm.trans hnone⟩⟩, hloader', rfl⟩
  have hdisplays (c : Nat) (hc : c ∈ x.components) : NoGroup u c := by
    unfold NoGroup
    rw [hviews]
    exact (h.display.flat _ x hx c hc).kept hss'
  have hut := mountGroup_kept hx hgroup hbuild hdisplays
  refine ⟨w, ht, hut.loader.trans hloader,
    ⟨{ x with root := some w }, hkept.view.symm ▸ hxt, hkind, rfl⟩, hset.kept hut fun w' hw' => ?_⟩
  exact Option.some.inj hw' ▸ ht.isAlive hxt rfl

/-- A screen that is destroyed leaves no timer. -/
theorem Steady.destroy (h : Steady base live (some w) s) :
    Steady base live none (next (destroy s.ui.screen.view) s) := by
  obtain ⟨x, hx, hkind, hroot⟩ := h.screen
  obtain ⟨_, -, ht, -, htorn⟩ :=
    (h.display.destroy fun _ _ _ hwhole => hwhole.elim).next
  have hkept := destroyScreen_kept h.display.flat hx hkind
  rw [hroot] at hkept
  obtain ⟨hview, hloader⟩ : (s.disarmed (some w)).ui.screen.view = s.ui.screen.view ∧
      (s.disarmed (some w)).loader = s.loader := by
    unfold Session.disarmed
    split <;> exact ⟨rfl, rfl⟩
  refine ⟨ht, ?_, ⟨x.ended, ?_, hkind, rfl⟩, h.timed.disarmed.kept hkept (by simp)⟩
  · rw [hkept.loader, hloader, h.loader]
  · rw [hkept.view, hview]
    exact htorn.ended _ x hx .self

/-- What goes on elsewhere: time passes, and images are retrieved. -/
theorem Steady.elsewhere (h : Steady base live root s) {now : Int}
    (hui : t.ui = { s.ui with kit := { s.ui.kit with now } }) (hregions : t.regions = s.regions)
    (hloader : t.loader.isSome = s.loader.isSome) : Steady base live root t := by
  have hpolling : polling t.ui.kit = polling s.ui.kit := by rw [hui]; rfl
  refine ⟨h.display.aside (by rw [hui]) (by rw [hui]) (by rw [hui]) hregions (by rw [hui]),
    hloader.trans h.loader, ?_, ?_, ?_⟩
  · rw [hui]
    exact h.screen
  · rw [hpolling, hui]
    exact h.timed.ticks
  · rw [hpolling, hui]
    exact h.timed.rests

/-! The timer goes off -/

/-- A session in which an alarm has been taken at a time. -/
def fired (s : Session Ui) (a : Alarm Command) (now : Int) : Session Ui :=
  s.withKit { s.ui.kit.cancel a.number with now }

theorem exec_poll (s : Session Ui) : exec poll s =
    match (s.ui.views[s.ui.screen.view]?).bind View.root with
    | some w => exec (do let _ ← drainImages; schedulePoll w) s.unarmed
    | none => (.ok ⟨⟩, s.unarmed) := by
  have hforget : exec (updateUi fun u => { u with screen := { u.screen with pollAlarm := none } }) s =
      (.ok ⟨⟩, s.unarmed) := rfl
  rw [poll, exec_bind, hforget]
  simp only [exec_bind, exec_theUi, exec_view?]
  change exec (match (s.ui.views[s.ui.screen.view]?).bind View.root with
    | some w => _
    | none => _) s.unarmed = _
  cases (s.ui.views[s.ui.screen.view]?).bind View.root with
  | none => rfl
  | some w => rw [exec_bind]

/-- A call of the timer that comes when the screen is gone does nothing. -/
theorem Steady.late (h : Steady base live none s) : exec poll s = (.ok ⟨⟩, s) := by
  obtain ⟨x, hx, -, hroot⟩ := h.screen
  have hnone : (s.ui.views[s.ui.screen.view]?).bind View.root = none := by
    rw [hx]
    exact hroot
  have hsame : s.unarmed = s := by
    rw [unarmed, ← (h.timed.rests (.inl rfl)).2]
  rw [exec_poll, hnone, hsame]

/-! Runs -/

/-- What can happen to a screen, and whether it is mounted before and after. It is mounted in a widget
with a number below `base`, and none of these is in a view. -/
inductive TimerStep (base : Nat) : Bool → Session Ui → Bool → Session Ui → Prop where
  | mount {s : Session Ui} {q : Nat} (hq : q < base) (halive : s.ui.kit.isAlive q = true) :
    TimerStep base false s true (next (mount s.ui.screen.view q) s)
  | destroy {s : Session Ui} : TimerStep base true s false (next (destroy s.ui.screen.view) s)
  | response {on : Bool} {s : Session Ui} (response : Response) :
    TimerStep base on s on (next (showResponse response) s)
  | drain {on : Bool} {s : Session Ui} : TimerStep base on s on (next drainImages s)
  | turn {on : Bool} {s : Session Ui} (v : Nat) (forward : Bool) :
    TimerStep base on s on (next (turnPage v forward) s)
  /-- An alarm that looks for images goes off, at any time. -/
  | fire {on : Bool} {s : Session Ui} {a : Alarm Command} (ha : a ∈ polling s.ui.kit) (now : Int) :
    TimerStep base on s on (next poll (s.fired a now))
  /-- The timer is called although the screen is gone. -/
  | late {s : Session Ui} : TimerStep base false s false (next poll s)
  /-- Time passes, and images are retrieved. -/
  | elsewhere {on : Bool} {s t : Session Ui} {now : Int}
    (hui : t.ui = { s.ui with kit := { s.ui.kit with now } }) (hregions : t.regions = s.regions)
    (hloader : t.loader.isSome = s.loader.isSome) : TimerStep base on s on t

/-- The toolkit sets the timer off when it is due. -/
theorem TimerStep.due {k : Toolkit Command} {limit : Int}
    (h : s.ui.kit.takeAlarm? limit = some (k, .poll)) :
    TimerStep base on s on (next poll (s.withKit k)) := by
  obtain ⟨a, ha, hpoll, rfl⟩ := Toolkit.takeAlarm?_eq_some h
  exact .fire (List.mem_filter.2 ⟨ha, by rw [hpoll]; rfl⟩) a.due

def mounted (s : Session Ui) : Session Ui := next (mount s.ui.screen.view window) s

end Session
end RemoteScreen
