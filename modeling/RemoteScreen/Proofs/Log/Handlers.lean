import RemoteScreen.Proofs.Log.Force
import Mathlib.Data.List.Nodup

/-! The handlers on the logger, over every run. Those of the surrounding program stay, in their
order; of the program's own, those stand that are installed, and all others that ever were have been
taken off and closed once. -/
namespace RemoteScreen
namespace Log

def Output.isFile : Output → Bool
  | .file _ _ => true
  | _ => false

theorem Demand.outputs_counts (d : Demand) :
    d.outputs.countP (· == .console) ≤ 1 ∧ d.outputs.countP Output.isFile ≤ 1 := by
  unfold outputs consoleOutputs
  cases d.console <;> cases d.file <;> exact ⟨by simp, by simp [Output.isFile]⟩

namespace Setup

variable {s t u : Setup} {d : Demand} {foreign : List Handler}

/-- What of a log has to do with handlers. -/
def roster (s : Setup) : List Handler × List Handler × List Nat × Nat :=
  (s.handlers, s.installed, s.closed, s.nextSerial)

theorem roster_eq_iff : t.roster = s.roster ↔ t.handlers = s.handlers ∧
    t.installed = s.installed ∧ t.closed = s.closed ∧ t.nextSerial = s.nextSerial := by
  simp [roster]

/-- Serial numbers tell handlers apart. The handlers of the surrounding program are the given ones,
those beside them are installed, none is closed, and none was closed twice. -/
structure Tidy (s : Setup) (foreign : List Handler) : Prop where
  standing : s.Standing
  foreign : s.handlers.filter (fun h => h.output == .foreign) = foreign
  distinct : (s.handlers.map Handler.serial).Nodup
  fresh : ∀ h ∈ s.handlers, h.serial < s.nextSerial
  unclosed : ∀ h ∈ s.handlers, h.serial ∉ s.closed
  closedOnce : s.closed.Nodup
  closedBefore : ∀ n ∈ s.closed, n < s.nextSerial

/-- From one log to a later one: what was installed is installed still or closed. -/
structure Onward (s t : Setup) : Prop where
  installed : ∀ h ∈ s.installed, h ∈ t.installed ∨ h.serial ∈ t.closed
  closed : ∀ n ∈ s.closed, n ∈ t.closed

theorem tidy_empty : Tidy {} [] :=
  ⟨rfl, rfl, List.nodup_nil, by simp, by simp, List.nodup_nil, by simp⟩

theorem Tidy.congr (h : s.Tidy foreign) (hroster : t.roster = s.roster) : t.Tidy foreign := by
  obtain ⟨hhandlers, hinstalled, hclosed, hserial⟩ := roster_eq_iff.1 hroster
  obtain ⟨hstanding, hforeign, hdistinct, hfresh, hunclosed, hclosedOnce, hbefore⟩ := h
  unfold Standing at hstanding
  rw [← hhandlers, ← hinstalled] at hstanding
  rw [← hhandlers] at hforeign hdistinct hfresh hunclosed
  rw [← hclosed] at hunclosed hclosedOnce hbefore
  rw [← hserial] at hfresh hbefore
  exact ⟨hstanding, hforeign, hdistinct, hfresh, hunclosed, hclosedOnce, hbefore⟩

theorem Onward.of_roster (hroster : t.roster = s.roster) : Onward s t := by
  obtain ⟨-, hinstalled, hclosed, -⟩ := roster_eq_iff.1 hroster
  exact ⟨fun h hh => .inl (hinstalled ▸ hh), fun n hn => hclosed ▸ hn⟩

theorem Onward.trans (hst : Onward s t) (htu : Onward t u) : Onward s u where
  installed h hh := (hst.installed h hh).elim (htu.installed h) fun hn => .inr (htu.closed _ hn)
  closed n hn := htu.closed n (hst.closed n hn)

/-! The parts of a setup -/

theorem Tidy.mem_installed (hs : s.Tidy foreign) {h : Handler} :
    h ∈ s.installed ↔ h ∈ s.handlers ∧ h.output ≠ .foreign := by
  have hstanding : s.handlers.filter (fun h => h.output != .foreign) = s.installed := hs.standing
  rw [← hstanding, List.mem_filter, bne_iff_ne]

/-- A new handler at the end of the logger's, whoever puts it there. -/
theorem Tidy.added (hs : s.Tidy foreign) {h : Handler} (hserial : h.serial = s.nextSerial)
    (hhandlers : t.handlers = s.handlers ++ [h]) (hclosed : t.closed = s.closed)
    (hnext : t.nextSerial = s.nextSerial + 1) (hstanding : t.Standing) :
    t.Tidy (foreign ++ [h].filter fun h => h.output == .foreign) where
  standing := hstanding
  foreign := by rw [hhandlers, List.filter_append, hs.foreign]
  distinct := by
    have hnew : s.nextSerial ∉ s.handlers.map Handler.serial := by
      simp only [List.mem_map, not_exists, not_and]
      exact fun x hx => Nat.ne_of_lt (hs.fresh x hx)
    rw [hhandlers, List.map_append, List.map_singleton, hserial]
    exact List.nodup_append.2 ⟨hs.distinct, List.nodup_cons.2 ⟨List.not_mem_nil, List.nodup_nil⟩, by grind⟩
  fresh x hx := by
    rw [hnext]
    rcases List.mem_append.1 (hhandlers ▸ hx) with hx | hx
    · exact Nat.lt_succ_of_lt (hs.fresh x hx)
    · obtain rfl := List.mem_singleton.1 hx
      exact hserial ▸ Nat.lt_succ_self _
  unclosed x hx := by
    rw [hclosed]
    rcases List.mem_append.1 (hhandlers ▸ hx) with hx | hx
    · exact hs.unclosed x hx
    · obtain rfl := List.mem_singleton.1 hx
      exact fun hn => Nat.ne_of_lt (hs.closedBefore _ hn) hserial
  closedOnce := hclosed ▸ hs.closedOnce
  closedBefore n hn := hnext ▸ Nat.lt_succ_of_lt (hs.closedBefore n (hclosed ▸ hn))

theorem Tidy.install (hs : s.Tidy foreign) {output : Output} (hown : output ≠ .foreign)
    (level : Level) (style : Style) : (s.install output level style).Tidy foreign := by
  have h := hs.added (t := s.install output level style) rfl rfl rfl rfl
    (hs.standing.install hown level style)
  have hnone : [(⟨s.nextSerial, output, level, style⟩ : Handler)].filter
      (fun h => h.output == .foreign) = [] := by simp [hown]
  rwa [hnone, List.append_nil] at h

theorem Tidy.addForeign (hs : s.Tidy foreign) (level : Level) (style : Style) :
    (s.addForeign level style).Tidy (foreign ++ [⟨s.nextSerial, .foreign, level, style⟩]) :=
  hs.added (h := ⟨s.nextSerial, .foreign, level, style⟩) rfl rfl rfl rfl
    (hs.standing.after (.foreign level style))

theorem Tidy.removeInstalled (hs : s.Tidy foreign) : s.removeInstalled.Tidy foreign where
  standing := hs.standing.removeInstalled
  foreign := by
    change (s.handlers.filter fun h => !s.installed.contains h).filter _ = foreign
    rw [List.filter_filter, ← hs.foreign]
    refine List.filter_congr fun h hh => ?_
    by_cases hforeign : h.output = .foreign
    · have hout : h ∉ s.installed := fun hin => (hs.mem_installed.1 hin).2 hforeign
      simp [hforeign, hout]
    · simp [hforeign]
  distinct := hs.distinct.sublist (List.filter_sublist.map _)
  fresh h hh := hs.fresh h ((List.mem_filter.1 hh).1)
  unclosed h hh := by
    obtain ⟨hh, hout⟩ := List.mem_filter.1 hh
    change h.serial ∉ s.closed ++ s.installed.map Handler.serial
    rw [List.mem_append, not_or]
    refine ⟨hs.unclosed h hh, fun hn => ?_⟩
    obtain ⟨x, hx, hserial⟩ := List.mem_map.1 hn
    obtain rfl := List.inj_on_of_nodup_map hs.distinct (hs.mem_installed.1 hx).1 hh hserial
    simp [hx] at hout
  closedOnce := by
    refine List.nodup_append.2 ⟨hs.closedOnce, ?_, ?_⟩
    · have hstanding : s.handlers.filter (fun h => h.output != .foreign) = s.installed := hs.standing
      rw [← hstanding]
      exact hs.distinct.sublist (List.filter_sublist.map _)
    · rintro n hn m hm rfl
      obtain ⟨x, hx, rfl⟩ := List.mem_map.1 hm
      exact hs.unclosed x (hs.mem_installed.1 hx).1 hn
  closedBefore n hn := by
    rcases List.mem_append.1 hn with hn | hn
    · exact hs.closedBefore n hn
    · obtain ⟨x, hx, rfl⟩ := List.mem_map.1 hn
      exact hs.fresh x (hs.mem_installed.1 hx).1

theorem onward_removeInstalled (s : Setup) : Onward s s.removeInstalled where
  installed _ hh := .inr (List.mem_append_right _ (List.mem_map_of_mem hh))
  closed _ hn := List.mem_append_left _ hn

theorem onward_install (s : Setup) (output : Output) (level : Level) (style : Style) :
    Onward s (s.install output level style) :=
  ⟨fun _ hh => .inl (List.mem_append_left _ hh), fun _ hn => hn⟩

theorem roster_openFile {path : String} {mode : FileMode} (h : s.openFile path mode = .ok t) :
    t.roster = s.roster := by
  unfold openFile at h
  dsimp only at h
  split at h
  · cases h
  · split at h
    · cases h
    · obtain rfl := Except.ok.inj h
      rfl

/-! A whole setup -/

/-- The state in which a demand's file is opened: the old handlers are gone, and the console handler
stands if one is asked for. -/
def cleared (s : Setup) (d : Demand) : Setup :=
  ({ s with level := d.level }.removeInstalled).installConsole d

theorem installAll_course (s : Setup) (d : Demand) :
    (d.file = none ∧ s.installAll d = (s.cleared d, .ok ())) ∨
    (∃ path e, d.file = some path ∧ (s.cleared d).openFile path d.mode = .error e ∧
      s.installAll d = (s.cleared d, .error (.fileRefused e))) ∨
    ∃ path t, d.file = some path ∧ (s.cleared d).openFile path d.mode = .ok t ∧
      s.installAll d = (t.install (.file (normalPath path) d.mode) d.level d.style, .ok ()) := by
  unfold installAll
  cases hfile : d.file with
  | none => exact .inl ⟨rfl, rfl⟩
  | some path =>
    cases hopen : (s.cleared d).openFile path d.mode with
    | error e =>
      refine .inr (.inl ⟨path, e, rfl, hopen, ?_⟩)
      unfold cleared at hopen ⊢
      simp only [hopen]
    | ok t =>
      refine .inr (.inr ⟨path, t, rfl, hopen, ?_⟩)
      unfold cleared at hopen
      simp only [hopen]

/-- A setup leaves the handlers alone, or it goes through the installation as far as it comes. -/
theorem roster_apply (s : Setup) (d : Demand) :
    (s.apply d).1 = s ∨ (s.apply d).1.roster = (s.installAll d).1.roster := by
  unfold apply
  split
  · exact .inl rfl
  split
  · exact .inl rfl
  · rcases s.installAll d with ⟨t, e | ⟨⟩⟩ <;> exact .inr rfl

theorem Tidy.cleared (hs : s.Tidy foreign) (d : Demand) : (s.cleared d).Tidy foreign := by
  have hlevel : Tidy { s with level := d.level } foreign := hs.congr rfl
  unfold Setup.cleared installConsole
  split
  · exact hlevel.removeInstalled.install Output.noConfusion d.level d.style
  · exact hlevel.removeInstalled

theorem onward_cleared (s : Setup) (d : Demand) : Onward s (s.cleared d) := by
  have hlevel : Onward s { s with level := d.level } := .of_roster rfl
  have hremoved := hlevel.trans (onward_removeInstalled _)
  unfold cleared installConsole
  split
  · exact hremoved.trans (onward_install _ _ _ _)
  · exact hremoved

theorem Tidy.installAll (hs : s.Tidy foreign) (d : Demand) :
    (s.installAll d).1.Tidy foreign ∧ Onward s (s.installAll d).1 := by
  have hcleared := hs.cleared d
  have honward := onward_cleared s d
  rcases s.installAll_course d with ⟨-, h⟩ | ⟨path, e, -, -, h⟩ | ⟨path, t, -, hopen, h⟩
  · rw [h]
    exact ⟨hcleared, honward⟩
  · rw [h]
    exact ⟨hcleared, honward⟩
  · rw [h]
    have hroster := roster_openFile hopen
    exact ⟨(hcleared.congr hroster).install Output.noConfusion d.level d.style,
      (honward.trans (.of_roster hroster)).trans (onward_install _ _ _ _)⟩

theorem Tidy.apply (hs : s.Tidy foreign) (d : Demand) :
    (s.apply d).1.Tidy foreign ∧ Onward s (s.apply d).1 := by
  rcases s.roster_apply d with h | h
  · rw [h]
    exact ⟨hs, .of_roster rfl⟩
  · obtain ⟨htidy, honward⟩ := hs.installAll d
    exact ⟨htidy.congr h, honward.trans (.of_roster h)⟩

/-! Runs -/

theorem roster_write (s : Setup) (logger : String) (level : Int) (text : String) :
    (s.write logger level text).roster = s.roster := by
  have hemit (t : Setup) (h : Handler) (line : String) : (t.emit h line).roster = t.roster := by
    unfold emit
    split
    · rfl
    · unfold emitFile
      dsimp only
      split <;> rfl
    · rfl
  unfold write
  split
  · refine List.foldlRecOn (motive := fun t : Setup => t.roster = s.roster) _ _ rfl fun t h x _ => ?_
    split
    · rw [hemit, h]
    · exact h
  · rfl

/-- The handlers that a step adds on behalf of the surrounding program. -/
def added (s : Setup) : Step → List Handler
  | .foreign level style => [⟨s.nextSerial, .foreign, level, style⟩]
  | _ => []

/-- The handlers that the surrounding program adds along a run, in order. -/
def addedAlong (s : Setup) : List Step → List Handler
  | [] => []
  | step :: steps => s.added step ++ (s.after step).addedAlong steps

theorem Tidy.after (hs : s.Tidy foreign) (step : Step) :
    (s.after step).Tidy (foreign ++ s.added step) ∧ Onward s (s.after step) := by
  cases step with
  | init settings =>
    change (s.init settings).1.Tidy (foreign ++ []) ∧ Onward s (s.init settings).1
    rw [List.append_nil]
    cases hd : Demand.ofSettings settings with
    | error e =>
      rw [init, hd]
      exact ⟨hs, .of_roster rfl⟩
    | ok d =>
      rw [init_of_demand hd]
      exact hs.apply d
  | line logger level text =>
    have hroster := roster_write s logger level text
    exact ⟨(List.append_nil foreign).symm ▸ hs.congr hroster, .of_roster hroster⟩
  | file path text => exact ⟨(List.append_nil foreign).symm ▸ hs.congr rfl, .of_roster rfl⟩
  | foreign level style =>
    exact ⟨hs.addForeign level style, fun h hh => .inl hh, fun n hn => hn⟩

theorem Tidy.run (hs : s.Tidy foreign) (steps : List Step) :
    (s.run steps).Tidy (foreign ++ s.addedAlong steps) ∧ Onward s (s.run steps) := by
  induction steps generalizing s foreign with
  | nil => exact ⟨(List.append_nil foreign).symm ▸ hs, .of_roster rfl⟩
  | cons step steps ih =>
    obtain ⟨htidy, honward⟩ := hs.after step
    obtain ⟨htidy', honward'⟩ := ih htidy
    rw [List.append_assoc] at htidy'
    exact ⟨htidy', honward.trans honward'⟩

/-- No more than one handler of each kind is installed. -/
structure Single (s : Setup) : Prop where
  console : s.installed.countP (fun h => h.output == .console) ≤ 1
  file : s.installed.countP (fun h => h.output.isFile) ≤ 1

theorem Holds.single {outputs : List Output} (h : s.Holds d outputs)
    (hsub : outputs.Sublist d.outputs) : s.Single := by
  obtain ⟨hconsole, hfile⟩ := d.outputs_counts
  have hcount (p : Output → Bool) :
      s.installed.countP (fun h => p h.output) ≤ d.outputs.countP p := by
    have hmap : s.installed.countP (fun h => p h.output) = outputs.countP p := by
      rw [← h.installed, List.countP_map]
      rfl
    exact hmap ▸ hsub.countP_le
  exact ⟨Nat.le_trans (hcount (· == .console)) hconsole,
    Nat.le_trans (hcount Output.isFile) hfile⟩

theorem Single.congr (h : s.Single) (hroster : t.roster = s.roster) : t.Single := by
  obtain ⟨-, hinstalled, -, -⟩ := roster_eq_iff.1 hroster
  exact ⟨hinstalled ▸ h.console, hinstalled ▸ h.file⟩

theorem Single.after (h : s.Single) (hs : s.Standing) (step : Step) : (s.after step).Single := by
  cases step with
  | init settings =>
    change (s.init settings).1.Single
    cases hd : Demand.ofSettings settings with
    | error e => rwa [init, hd]
    | ok d =>
      rw [init_of_demand hd]
      rcases apply_cases hs d with ⟨a, -, -, happly⟩ | happly | ⟨-, hforce, -⟩ | ⟨-, hholds, -⟩
      · rwa [happly]
      · rwa [happly]
      · exact Holds.single hforce (List.Sublist.refl _)
      · exact hholds.single (List.sublist_append_left _ _)
  | line logger level text => exact h.congr (roster_write s logger level text)
  | file path text => exact h.congr rfl
  | foreign level style => exact ⟨h.console, h.file⟩

theorem Single.run (h : s.Single) (hs : s.Standing) (steps : List Step) :
    (s.run steps).Single := by
  induction steps generalizing s with
  | nil => exact h
  | cons step steps ih => exact ih (h.after hs step) (hs.after step)

/-- How the handlers stand after a run that started with none. -/
structure Accounted (steps : List Step) : Prop where
  /-- Those of the surrounding program are all there, in their order. -/
  foreign : ((run {} steps).handlers.filter fun h => h.output == .foreign) = addedAlong {} steps
  /-- The others are the installed ones. -/
  own : ((run {} steps).handlers.filter fun h => h.output != .foreign) = (run {} steps).installed
  once : ((run {} steps).handlers.map Handler.serial).Nodup
  unclosed : ∀ h ∈ (run {} steps).handlers, h.serial ∉ (run {} steps).closed
  single : (run {} steps).Single
  /-- What was installed at any time and is no more has left the logger, and was closed once. -/
  replaced : ∀ early late, steps = early ++ late → ∀ h ∈ (run {} early).installed,
    h ∉ (run {} steps).installed →
      h ∉ (run {} steps).handlers ∧ (run {} steps).closed.count h.serial = 1
  /-- A setup that asks for what is remembered changes nothing. -/
  idle : ∀ settings d a, Demand.ofSettings settings = .ok d → (run {} steps).accepted = some a →
    a.agrees d = true → (run {} steps).init settings = (run {} steps, .ok ())

theorem handlers_accounted (steps : List Step) : Accounted steps := by
  obtain ⟨htidy, -⟩ := tidy_empty.run steps
  have hsingle : Single {} := ⟨Nat.zero_le _, Nat.zero_le _⟩
  refine ⟨htidy.foreign, htidy.standing, htidy.distinct, htidy.unclosed,
    hsingle.run standing_empty steps, ?_, ?_⟩
  · rintro early late rfl h hearly hgone
    obtain ⟨hbefore, -⟩ := tidy_empty.run early
    have honward := (hbefore.run late).2
    rw [run, run, ← List.foldl_append] at honward
    have hclosed : h.serial ∈ (run {} (early ++ late)).closed :=
      (honward.installed h hearly).resolve_left hgone
    exact ⟨fun hh => htidy.unclosed h hh hclosed,
      List.count_eq_one_of_mem htidy.closedOnce hclosed⟩
  · intro settings d a hd ha hagrees
    rw [init_of_demand hd, apply, if_pos (by rw [ha]; exact hagrees)]

end Setup
end Log
end RemoteScreen
