import RemoteScreen.Log.Setup
import Mathlib.Data.List.Induction

/-! What setups leave in force. A setup that goes through to its end puts up what its demand asks
for; one that is refused its file has by then taken down what stood before, and the demand that was
accepted last is still remembered. -/
namespace RemoteScreen
namespace Log

/-- What a demand asks for besides its file. -/
def Demand.consoleOutputs (d : Demand) : List Output := if d.console then [.console] else []

/-- Where the handlers write that a demand asks for. -/
def Demand.outputs (d : Demand) : List Output :=
  d.consoleOutputs ++ (d.file.map fun path => .file (normalPath path) d.mode).toList

namespace Setup

/-- The installed handlers stand on the logger, beside foreign ones only. -/
def Standing (s : Setup) : Prop := s.handlers.filter (fun h => h.output != .foreign) = s.installed

/-- The logger has the level of a demand, and the installed handlers are those for some outputs,
each with the level and the style of the demand; no others of the program stand on the logger. -/
structure Holds (s : Setup) (d : Demand) (outputs : List Output) : Prop where
  level : s.level.value = d.level.value
  installed : s.installed.map Handler.output = outputs
  each : ∀ h ∈ s.installed, h.level.value = d.level.value ∧ h.style = d.style
  standing : s.Standing

def InForce (s : Setup) (d : Demand) : Prop := s.Holds d d.outputs

variable {s t : Setup} {d : Demand} {outputs : List Output}

/-- Files and lines have no part in it, and foreign handlers may come to stand on the logger. -/
theorem Holds.congr (h : s.Holds d outputs) (hlevel : t.level = s.level)
    (hinstalled : t.installed = s.installed) (hstanding : t.Standing) : t.Holds d outputs where
  level := hlevel ▸ h.level
  installed := hinstalled ▸ h.installed
  each := hinstalled ▸ h.each
  standing := hstanding

theorem Standing.install (h : s.Standing) {output : Output} (hown : output ≠ .foreign)
    (level : Level) (style : Style) : (s.install output level style).Standing := by
  unfold Standing at h ⊢
  simp [Setup.install, h, hown]

/-- What was installed leaves the logger, and nothing of the program's is left there. -/
theorem Standing.removeInstalled (h : s.Standing) : s.removeInstalled.Standing := by
  unfold Standing at h ⊢
  change (s.handlers.filter fun x => !s.installed.contains x).filter _ = []
  have hown (x : Handler) (hx : x ∈ s.handlers) (hx' : x.output ≠ .foreign) : x ∈ s.installed := by
    rw [← h]
    exact List.mem_filter.2 ⟨hx, bne_iff_ne.2 hx'⟩
  simp only [List.filter_eq_nil_iff, List.mem_filter]
  rintro x ⟨hx, hgone⟩ hx'
  have hmem := hown x hx (bne_iff_ne.1 hx')
  simp [hmem] at hgone

theorem Holds.install (h : s.Holds d outputs) {output : Output} (hown : output ≠ .foreign) :
    (s.install output d.level d.style).Holds d (outputs ++ [output]) where
  level := h.level
  installed := by simp [Setup.install, h.installed]
  each := by
    intro x hx
    rcases List.mem_append.1 hx with hx | hx
    · exact h.each x hx
    · obtain rfl := List.mem_singleton.1 hx
      exact ⟨rfl, rfl⟩
  standing := h.standing.install hown d.level d.style

/-- Once the old handlers are gone the level of the demand counts and nothing is installed. -/
theorem Standing.holds_removeInstalled (h : s.Standing) (d : Demand) :
    ({ s with level := d.level }.removeInstalled).Holds d [] :=
  have hlevel : Standing { s with level := d.level } := h
  ⟨rfl, rfl, fun _ hx => absurd hx List.not_mem_nil, hlevel.removeInstalled⟩

theorem Holds.installConsole (h : s.Holds d []) :
    (s.installConsole d).Holds d d.consoleOutputs := by
  unfold Setup.installConsole Demand.consoleOutputs
  split
  · exact h.install Output.noConfusion
  · exact h

/-- Opening a file changes nothing but files. -/
theorem Holds.openFile (h : s.Holds d outputs) {path : String} {mode : FileMode}
    (hopen : s.openFile path mode = .ok t) : t.Holds d outputs := by
  unfold Setup.openFile at hopen
  dsimp only at hopen
  split at hopen
  · cases hopen
  · split at hopen
    · cases hopen
    · obtain rfl := Except.ok.inj hopen
      exact h.congr rfl rfl h.standing

@[simp] theorem accepted_installConsole (s : Setup) (d : Demand) :
    (s.installConsole d).accepted = s.accepted := by
  unfold Setup.installConsole
  split <;> rfl

theorem installAll_ok (hs : s.Standing) (h : (s.installAll d).2 = .ok ()) :
    (s.installAll d).1.InForce d := by
  have hconsole := (hs.holds_removeInstalled d).installConsole
  unfold installAll at h ⊢
  unfold InForce Demand.outputs
  cases hfile : d.file with
  | none =>
    dsimp only [Option.map_none, Option.toList_none]
    rw [List.append_nil]
    exact hconsole
  | some path =>
    simp only [hfile] at h
    dsimp only [Option.map_some, Option.toList_some]
    split at h
    · cases h
    · next u hopen =>
      exact (hconsole.openFile hopen).install Output.noConfusion

/-- Only a file that cannot be had keeps a setup from its end, and then what the demand asks for
besides its file stands. -/
theorem installAll_error (hs : s.Standing) {e : Failure} (h : (s.installAll d).2 = .error e) :
    (∃ f, e = .fileRefused f) ∧ (s.installAll d).1.Holds d d.consoleOutputs ∧
      (s.installAll d).1.accepted = s.accepted := by
  have hconsole := (hs.holds_removeInstalled d).installConsole
  unfold installAll at h ⊢
  cases hfile : d.file with
  | none =>
    simp only [hfile] at h
    cases h
  | some path =>
    simp only [hfile] at h ⊢
    split at h
    · next f hopen =>
      exact ⟨⟨f, (Except.error.inj h).symm⟩, hconsole, accepted_installConsole _ d⟩
    · cases h

/-! A whole setup -/

/-- All that a setup can do: trust what it remembers, refuse the style, come to its end, or be
refused its file on the way. -/
theorem apply_cases (hs : s.Standing) (d : Demand) :
    (∃ a, s.accepted = some a ∧ a.agrees d = true ∧ s.apply d = (s, .ok ())) ∨
    s.apply d = (s, .error (.wrongFormat d.style.format)) ∨
    ((s.apply d).2 = .ok () ∧ (s.apply d).1.InForce d ∧ (s.apply d).1.accepted = some d) ∨
    (∃ f, (s.apply d).2 = .error (.fileRefused f)) ∧
      (s.apply d).1.Holds d d.consoleOutputs ∧ (s.apply d).1.accepted = s.accepted := by
  by_cases hagrees : (s.accepted.any fun a => a.agrees d) = true
  · obtain ⟨a, ha, had⟩ := (Option.any_eq_true _ _).1 hagrees
    exact .inl ⟨a, ha, had, by rw [apply, if_pos hagrees]⟩
  by_cases hvalid : (!d.style.isValid) = true
  · exact .inr (.inl (by rw [apply, if_neg hagrees, if_pos hvalid]))
  rcases hinstall : s.installAll d with ⟨t, e | ⟨⟩⟩
  · obtain ⟨⟨f, rfl⟩, hholds, haccepted⟩ := installAll_error hs (congrArg Prod.snd hinstall)
    rw [hinstall] at hholds haccepted
    refine .inr (.inr (.inr ?_))
    rw [apply, if_neg hagrees, if_neg hvalid, hinstall]
    exact ⟨⟨f, rfl⟩, hholds, haccepted⟩
  · have hforce := installAll_ok hs (congrArg Prod.snd hinstall)
    rw [hinstall] at hforce
    refine .inr (.inr (.inl ?_))
    rw [apply, if_neg hagrees, if_neg hvalid, hinstall]
    exact ⟨rfl, hforce.congr rfl rfl hforce.standing, rfl⟩

/-! Runs -/

/-- What can happen to the log: a setup, a line, and what the surrounding program does to files and
to the logger. -/
inductive Step where
  | init (settings : Option Settings)
  | line (logger : String) (level : Int) (text : String)
  | file (path text : String)
  | foreign (level : Level) (style : Style)

def after (s : Setup) : Step → Setup
  | .init settings => (s.init settings).1
  | .line logger level text => s.write logger level text
  | .file path text => s.writeFile path text
  | .foreign level style => s.addForeign level style

def run (s : Setup) (steps : List Step) : Setup := steps.foldl after s

@[simp] theorem run_concat (s : Setup) (steps : List Step) (step : Step) :
    s.run (steps ++ [step]) = (s.run steps).after step := by
  simp [run]

/-- A setup that is refused its file. -/
def Refuses (s : Setup) (settings : Option Settings) (e : Demand) : Prop :=
  Demand.ofSettings settings = .ok e ∧ ∃ f, (s.init settings).2 = .error (.fileRefused f)

theorem init_of_demand {settings : Option Settings} (h : Demand.ofSettings settings = .ok d)
    (s : Setup) : s.init settings = s.apply d := by
  rw [init, h]

/-- What a line does to the log leaves the handlers and what is remembered alone. -/
structure Written (s t : Setup) : Prop where
  level : t.level = s.level
  installed : t.installed = s.installed
  handlers : t.handlers = s.handlers
  accepted : t.accepted = s.accepted

theorem emit_written (s : Setup) (h : Handler) (line : String) : Written s (s.emit h line) := by
  unfold emit
  split
  · exact ⟨rfl, rfl, rfl, rfl⟩
  · unfold emitFile
    dsimp only
    split <;> exact ⟨rfl, rfl, rfl, rfl⟩
  · exact ⟨rfl, rfl, rfl, rfl⟩

theorem write_written (s : Setup) (logger : String) (level : Int) (text : String) :
    Written s (s.write logger level text) := by
  unfold write
  split
  · refine List.foldlRecOn _ _ ⟨rfl, rfl, rfl, rfl⟩ fun t h x _ => ?_
    split
    · have hx := emit_written t x (x.style.line (fieldOf logger level x.style.date text) ++ "\n")
      exact ⟨hx.level.trans h.level, hx.installed.trans h.installed,
        hx.handlers.trans h.handlers, hx.accepted.trans h.accepted⟩
    · exact h
  · exact ⟨rfl, rfl, rfl, rfl⟩

theorem Standing.after (h : s.Standing) (step : Step) : (s.after step).Standing := by
  cases step with
  | init settings =>
    change (s.init settings).1.Standing
    cases hd : Demand.ofSettings settings with
    | error e => simpa only [init, hd] using h
    | ok d =>
      rw [init_of_demand hd]
      rcases apply_cases h d with ⟨a, -, -, happly⟩ | happly | ⟨-, hforce, -⟩ | ⟨-, hholds, -⟩
      · rwa [happly]
      · rwa [happly]
      · exact hforce.standing
      · exact hholds.standing
  | line logger level text =>
    have hw := write_written s logger level text
    change (s.write logger level text).handlers.filter _ = (s.write logger level text).installed
    rw [hw.handlers, hw.installed]
    exact h
  | file path text => exact h
  | foreign level style =>
    unfold Standing at h ⊢
    simp [Setup.after, addForeign, h]

theorem Standing.run (h : s.Standing) (steps : List Step) : (s.run steps).Standing := by
  induction steps generalizing s with
  | nil => exact h
  | cons step steps ih => exact ih (h.after step)

/-- A setup that was refused its file, after `a` had been accepted and before anything else was:
what it left is what stands. -/
structure Spoilt (s₀ : Setup) (steps : List Step) (a e : Demand) (early late : List Step)
    (settings : Option Settings) : Prop where
  course : steps = early ++ .init settings :: late
  refused : Refuses (s₀.run early) settings e
  remembered : (s₀.run early).accepted = some a
  left : (s₀.run steps).Holds e e.consoleOutputs

theorem Spoilt.concat {s₀ : Setup} {steps early late : List Step} {a e : Demand}
    {settings : Option Settings} (h : Spoilt s₀ steps a e early late settings) {step : Step}
    (hleft : (s₀.run (steps ++ [step])).Holds e e.consoleOutputs) :
    Spoilt s₀ (steps ++ [step]) a e early (late ++ [step]) settings where
  course := by rw [h.course]; simp
  refused := h.refused
  remembered := h.remembered
  left := hleft

/-- The demand remembered is in force, unless a setup was refused its file since. -/
def Trusted (s₀ : Setup) (steps : List Step) (a : Demand) : Prop :=
  (s₀.run steps).InForce a ∨ ∃ e early late settings, Spoilt s₀ steps a e early late settings

/-- A step that keeps the handlers and what is remembered keeps the trust. -/
theorem Trusted.concat {s₀ : Setup} {steps : List Step} {a : Demand} (h : Trusted s₀ steps a)
    {step : Step} (hstep : ∀ {d outputs}, (s₀.run steps).Holds d outputs →
      ((s₀.run steps).after step).Holds d outputs) : Trusted s₀ (steps ++ [step]) a := by
  rcases h with h | ⟨e, early, late, settings, h⟩
  · left
    unfold InForce
    rw [run_concat]
    exact hstep h
  · refine .inr ⟨e, early, late ++ [step], settings, h.concat ?_⟩
    rw [run_concat]
    exact hstep h.left

theorem standing_empty : Standing {} := rfl

end Setup
end Log
end RemoteScreen
