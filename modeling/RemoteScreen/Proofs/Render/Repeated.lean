import RemoteScreen.Proofs.Image.Staleness
import RemoteScreen.Proofs.Render.Pictures
import RemoteScreen.Proofs.Render.Sprouting
import RemoteScreen.Proofs.View.Kept

/-! One response that is rendered again and again. Each rendering gives the same tree, with regions of
its own; so two of them are told apart by nothing but the images that have come or failed since. -/
namespace RemoteScreen

open Renderable (cardRegions)

namespace ReadPart

section

variable {β : Type} {look : Nat → β} {n m a b : Nat}

/-- From `n` on and from `m` on, the same is seen of so many regions. -/
def Agree (look : Nat → β) (n m count : Nat) : Prop := ∀ i < count, look (n + i) = look (m + i)

@[simp] theorem agree_zero : Agree look n m 0 := fun i hi => absurd hi (Nat.not_lt_zero i)

@[simp] theorem agree_one : Agree look n m 1 ↔ look n = look m := by
  constructor
  · exact fun h => h 0 Nat.one_pos
  · intro h i hi
    obtain rfl := Nat.lt_one_iff.1 hi
    exact h

theorem agree_add : Agree look n m (a + b) ↔ Agree look n m a ∧ Agree look (n + a) (m + a) b := by
  constructor
  · intro h
    refine ⟨fun i hi => h i (Nat.lt_add_right b hi), fun i hi => ?_⟩
    rw [Nat.add_assoc, Nat.add_assoc]
    exact h (a + i) (Nat.add_lt_add_left hi a)
  · rintro ⟨hfirst, hothers⟩ i hi
    rcases Nat.lt_or_ge i a with hlt | hle
    · exact hfirst i hlt
    · obtain ⟨j, rfl⟩ := Nat.exists_eq_add_of_le hle
      rw [← Nat.add_assoc, ← Nat.add_assoc]
      exact hothers j (Nat.lt_of_add_lt_add_left hi)

theorem agree_iff_forall₂ {count : Nat} : Agree look n m count ↔
    List.Forall₂ (fun i j => look i = look j) (List.range' n count) (List.range' m count) := by
  induction count generalizing n m with
  | zero => simp
  | succ count ih =>
    rw [List.range'_succ, List.range'_succ, List.forall₂_cons, ← ih, ← agree_one, ← agree_add,
      Nat.add_comm]

end

section

variable {β : Type} [BEq β] {look : Nat → β} {sink sink' : Sink}

mutual

/-- Two drawings of one node compare equal exactly if the same is seen of their regions, one after the
other. Who is told of the buttons does not matter. -/
theorem same_redrawn [LawfulBEq β] {k : Container} : ∀ (p : ReadPart) {n m : Nat},
    Renderable.same look (drawn sink k n p) (drawn sink' k m p) = true ↔
      Agree look n m (urls p).length
  | .card .., _, _ => by simp [drawn, Renderable.same, urls]
  | .stat .., _, _ => by simp [drawn, Renderable.same, urls]
  | .button .., _, _ => by simp [drawn, Renderable.same, urls]
  | .carousel _ _ ps, n, m => by
    have hbelow := sameList_redrawn (k := .carousel) ps (n := n) (m := m)
    simp [drawn, Renderable.same, urls, hbelow]
  | .hscroll _ _ ps, n, m => by
    have hbelow := sameSlots_redrawn ps (n := n) (m := m)
    simp [drawn, Renderable.same, urls, hbelow]
  | .refused .., _, _ => by simp [drawn, Renderable.same, urls]

theorem sameList_redrawn [LawfulBEq β] {k : Container} : ∀ (ps : List ReadPart) {n m : Nat},
    Renderable.sameList look (drawnList sink k n ps) (drawnList sink' k m ps) = true ↔
      Agree look n m (urlsList ps).length
  | [], _, _ => by simp [drawnList, Renderable.sameList, urlsList]
  | p :: ps, n, m => by
    rw [drawnList, drawnList, Renderable.sameList, Bool.and_eq_true, same_redrawn p,
      sameList_redrawn ps, urlsList, List.length_append, agree_add]

theorem sameSlots_redrawn [LawfulBEq β] : ∀ (ps : List ReadPart) {n m : Nat},
    Renderable.sameSlots look (drawnSlots sink n ps) (drawnSlots sink' m ps) = true ↔
      Agree look n m (urlsList ps).length
  | [], _, _ => by simp [drawnSlots, Renderable.sameSlots, urlsList]
  | p :: ps, n, m => by
    rw [drawnSlots, drawnSlots, Renderable.sameSlots, beq_self_eq_true, Bool.true_and,
      Bool.and_eq_true, same_redrawn p, sameSlots_redrawn ps, urlsList, List.length_append,
      agree_add]

end

end

end ReadPart

namespace Session

variable {υ α : Type} {s t : Session υ}

/-- A timed step that gives something has given it in between. -/
theorem exec_timed_eq_ok {channel : Nat} {name : String} {attributes : Attributes}
    {body : Act υ α} {a : α} (h : exec (timed channel name attributes body) s = (.ok a, t)) :
    ∃ u v, Reporting s u ∧ exec body u = (.ok a, v) ∧ Reporting v t := by
  have hstart : Keeps Reporting (startTimer channel name attributes : Act υ Timer) :=
    keeps_bind readClock_reporting fun _ => keeps_pure _
  obtain ⟨timer, u, hsu, hrest⟩ := hstart.bind_eq_ok h
  obtain ⟨r, v, hbody, hrest⟩ := exec_bind_eq_ok hrest
  obtain ⟨_, w, hvw, hrest⟩ := (stopTimer_reporting timer).bind_eq_ok hrest
  rw [exec_attempt] at hbody
  rw [exec_ofExcept] at hrest
  obtain ⟨rfl, rfl⟩ := Prod.mk.inj hrest
  obtain ⟨hvalue, rfl⟩ := Prod.mk.inj hbody
  exact ⟨u, _, hsu, Prod.ext (Except.ok.inj hvalue) rfl, hvw⟩

end Session

namespace Renderer

open Session Render ReadPart
open Descriptor (readParts)

variable {υ : Type} {s t : Session υ}

/-- Whatever a rendering gives, at whatever pace, is what has been read of the descriptors, and its
regions are new ones. -/
theorem exec_render_eq_ok {r : Renderer} (hregistry : r.registry = .default)
    (hpatient : r.images.Patient (s.loader.map Loader.closed)) {ds : List Descriptor}
    {pass : Option Pass} {out : List Renderable} (h : exec (r.render ds pass) s = (.ok out, t)) :
    out = drawnList r.actions .root s.regions.length (readParts .root ds) ∧
      t.regions = s.regions ++ (urlsList (readParts .root ds)).map regionFor := by
  obtain ⟨n, w, hsw, hrest⟩ := (channelOr_reporting r.channel).bind_eq_ok h
  obtain ⟨shown, v, hv, hclosing⟩ := exec_bind_eq_ok hrest
  obtain ⟨u, v', hwu, hbody, hvv⟩ := exec_timed_eq_ok hv
  obtain ⟨⟨j, τ, rfl⟩, -⟩ : Reporting s u := IsTrans.trans _ _ _ hsw hwu
  have hstands : Stands .root (r.context pass) := ⟨rfl, rfl, hpatient.willing⟩
  have hdraws := draws_compositional.dispatchList (υ := υ) ds (r.context pass) .root hstands
  obtain ⟨v'', hv'', hdrew, -⟩ := hdraws { s with journal := j, telemetry := τ } hpatient
  rw [← hregistry, hbody] at hv''
  obtain ⟨hshown, rfl⟩ := Prod.mk.inj hv''
  -- After dispatch, what has been shown is counted and told, and it is what is given.
  have hline (message : String) (w : Session υ)
      (hw : exec (do log .debug "render" message; pure shown) w = (.ok out, t)) :
      out = shown ∧ Reporting w t := by
    obtain ⟨_, x, hwx, hpure⟩ := (log_reporting .debug "render" message).bind_eq_ok hw
    obtain ⟨hvalue, rfl⟩ := Prod.mk.inj hpure
    exact ⟨(Except.ok.inj hvalue).symm, hwx⟩
  have htold : out = shown ∧ Reporting v t := by
    dsimp only at hclosing
    split at hclosing
    · obtain ⟨_, w', hvw, hw'⟩ := (count_reporting _ _ _ _).bind_eq_ok hclosing
      obtain ⟨hout, hwt⟩ := hline _ w' hw'
      exact ⟨hout, IsTrans.trans _ _ _ hvw hwt⟩
    · exact hline _ v hclosing
  obtain ⟨⟨j', τ', rfl⟩, -⟩ : Reporting v' t := IsTrans.trans _ _ _ hvv htold.2
  exact ⟨htold.1.trans (Except.ok.inj hshown), hdrew.regions⟩

end Renderer

namespace Session

open Render ReadPart
open Descriptor (readParts)

variable {υ : Type} {s t s₀ : Session υ} {hold : υ → Response} {tell : Tell υ} {n m : Nat}
  {g : Region Nat} {steps after : List PassStep}

/-! What is done to a response -/

/-- Renders the response that is held at the moment. -/
def renderHeld (hold : υ → Response) (r : Renderer) (pass : Option Pass) :
    Act υ (List Renderable) := do
  r.renderResponse (hold (← get).ui) pass

/-- The response is rendered, or a region comes to an end. -/
inductive PassStep where
  | render (r : Renderer) (pass : Option Pass)
  | resolve (n : Nat) (image : Value)
  | fail (n : Nat)

namespace PassStep

def act (hold : υ → Response) (tell : Tell υ) : PassStep → Act υ Unit
  | render r pass => do
    let _ ← renderHeld hold r pass
    pure ()
  | resolve n image => do
    let _ ← Session.resolve tell n image
    pure ()
  | fail n => do
    let _ ← failRegion tell n
    pure ()

/-- The region that comes to an end, unless it has come to one before. -/
def region? : PassStep → Option Nat
  | render .. => none
  | resolve n _ => some n
  | fail n => some n

end PassStep

/-- The session after some steps. A step that fails keeps what it did before. -/
def runPasses (hold : υ → Response) (tell : Tell υ) (s : Session υ) (steps : List PassStep) :
    Session υ :=
  steps.foldl (fun s step => next (step.act hold tell) s) s

/-- In the course of a run, a rendering has given `out` and has led to session `t`, and these steps
have come after it. -/
def Rendered (hold : υ → Response) (tell : Tell υ) (s₀ : Session υ) (steps : List PassStep)
    (out : List Renderable) (t : Session υ) (after : List PassStep) : Prop :=
  ∃ before r pass, steps = before ++ .render r pass :: after ∧
    exec (renderHeld hold r pass) (runPasses hold tell s₀ before) = (.ok out, t)

/-- All renderings of a run are with the built-in registry, and let their regions wait. -/
def Patiently (hold : υ → Response) (tell : Tell υ) (s₀ : Session υ) (steps : List PassStep) :
    Prop :=
  ∀ before r pass after, steps = before ++ .render r pass :: after → r.registry = .default ∧
    r.images.Patient ((runPasses hold tell s₀ before).loader.map Loader.closed)

/-! What a step does -/

/-- A listener minds its own business: images, the response and the clock are as they were. -/
structure Bystanding (hold : υ → Response) (s t : Session υ) : Prop extends ImagesKept s t where
  held : hold t.ui = hold s.ui
  readings : t.telemetry.readings ⊆ s.telemetry.readings

instance : IsPreorder (Session υ) (Bystanding hold) where
  refl s := ⟨Std.Refl.refl s, rfl, List.Subset.refl _⟩
  trans s t u h k := ⟨IsTrans.trans s t u h.toImagesKept k.toImagesKept, k.held.trans h.held,
    List.Subset.trans k.readings h.readings⟩

/-- The response that is held is the same, and regions are still for their URLs. -/
structure Passing (hold : υ → Response) (s t : Session υ) : Prop where
  held : hold t.ui = hold s.ui
  readings : t.telemetry.readings ⊆ s.telemetry.readings
  urls : ∀ (n : Nat) (g : Region Nat), s.regions[n]? = some g →
    ∃ g', t.regions[n]? = some g' ∧ g'.url = g.url

instance : IsPreorder (Session υ) (Passing hold) where
  refl s := ⟨rfl, List.Subset.refl _, fun _ g hg => ⟨g, hg, rfl⟩⟩
  trans s t u h k := by
    refine ⟨k.held.trans h.held, List.Subset.trans k.readings h.readings, fun n g hg => ?_⟩
    obtain ⟨g', ht, hurl⟩ := h.urls n g hg
    obtain ⟨g'', hu, hurl'⟩ := k.urls n g' ht
    exact ⟨g'', hu, hurl'.trans hurl⟩

theorem Passing.length_le (h : Passing hold s t) : s.regions.length ≤ t.regions.length := by
  refine Nat.le_of_not_lt fun hlt => ?_
  obtain ⟨g, hg, -⟩ := h.urls t.regions.length _ (List.getElem?_eq_getElem hlt)
  simp at hg

theorem RegionsKept.untouched (h : RegionsKept s t) (hg : s.regions[n]? = some g) :
    Untouched n s t := by
  obtain ⟨ls, ht⟩ := h n g hg
  exact ⟨g, _, hg, ht, rfl, rfl, rfl⟩

/-- A change that brings regions that wait to an end, and leaves their URLs. -/
structure Ending (change : Region Nat → Option (Region Nat)) : Prop where
  waiting : ∀ g g', change g = some g' → g.state = .loading
  url : ∀ g g', change g = some g' → g'.url = g.url

theorem ending_resolve (image : Value) : Ending fun g => g.resolve? image where
  waiting := by
    intro g g' h
    simpa [Region.resolve?, Region.isTerminal] using (Option.ite_none_left_eq_some.1 h).1
  url := by
    intro g g' h
    rw [← (Option.some.inj (Option.ite_none_left_eq_some.1 h).2)]

theorem ending_fail : Ending Region.fail? where
  waiting := by
    intro g g' h
    simpa [Region.fail?, Region.isTerminal] using (Option.ite_none_left_eq_some.1 h).1
  url := by
    intro g g' h
    rw [← (Option.some.inj (Option.ite_none_left_eq_some.1 h).2)]

section

variable {change : Region Nat → Option (Region Nat)}

theorem Ending.passing (h : Ending change) (htell : ∀ n l, Keeps (Bystanding hold) (tell n l))
    (n : Nat) : Keeps (Passing hold) (settle tell n change) := by
  intro s
  have htold := settled_told htell n change s
  refine ⟨htold.held.trans (by rw [ui_settled]), ?_, fun k g hg => ?_⟩
  · rw [← telemetry_settled s n change]
    exact htold.readings
  · obtain ⟨ls, hnext⟩ := htold.regions k _ (settled_regions n change hg)
    refine ⟨_, hnext, ?_⟩
    dsimp only
    split
    · rcases hc : change g with - | g'
      · rfl
      · exact h.url g g' hc
    · rfl

/-- Other regions do not change, nor does one that has come to an end before. -/
theorem Ending.untouched (h : Ending change) (htell : ∀ n l, Keeps (Bystanding hold) (tell n l))
    (hg : s.regions[m]? = some g) (hnot : g.state = .loading → n ≠ m) :
    Untouched m s (next (settle tell n change) s) := by
  have htold := settled_told htell n change s
  have hsame : (s.settled n change).regions[m]? = some g := by
    rw [settled_regions n change hg]
    split
    case isTrue heq =>
      rcases hc : change g with - | g'
      · rfl
      · exact absurd heq.symm (hnot (h.waiting g g' hc))
    case isFalse => rfl
  obtain ⟨ls, hnext⟩ := htold.regions m g hsame
  exact ⟨g, _, hg, hnext, rfl, rfl, rfl⟩

end

theorem exec_renderHeld (hold : υ → Response) (r : Renderer) (pass : Option Pass) (s : Session υ) :
    exec (renderHeld hold r pass) s = exec (r.render (hold s.ui).components pass) s := by
  rw [renderHeld, exec_bind, exec_get]
  rfl

theorem renderHeld_sprouts (hold : υ → Response) (r : Renderer) (pass : Option Pass) :
    Keeps Sprouts (renderHeld hold r pass) :=
  keeps_bind keeps_get fun s => (r.render_bears (hold s.ui).components pass).keeps

theorem PassStep.passing (htell : ∀ n l, Keeps (Bystanding hold) (tell n l)) (step : PassStep) :
    Keeps (Passing hold) (step.act hold tell) := by
  intro s
  cases step with
  | render r pass =>
    rw [act, next_discard]
    have hsprouts := renderHeld_sprouts hold r pass s
    obtain ⟨new, hregions, -⟩ := hsprouts.regions
    refine ⟨by rw [hsprouts.ui], hsprouts.readings, fun n g hg => ⟨g, ?_, rfl⟩⟩
    rw [hregions, List.getElem?_append_left (List.getElem?_eq_some_iff.1 hg).1]
    exact hg
  | resolve n image =>
    rw [act, next_discard]
    exact (ending_resolve image).passing htell n s
  | fail n =>
    rw [act, next_discard]
    exact ending_fail.passing htell n s

/-- A step changes no region but the one that it brings to an end. -/
theorem PassStep.untouched (htell : ∀ n l, Keeps (Bystanding hold) (tell n l)) {step : PassStep}
    (hg : s.regions[m]? = some g) (hnot : g.state = .loading → step.region? ≠ some m) :
    Untouched m s (next (step.act hold tell) s) := by
  cases step with
  | render r pass =>
    rw [act, next_discard]
    obtain ⟨new, hregions, -⟩ := (renderHeld_sprouts hold r pass s).regions
    exact (RegionsKept.of_append hregions).untouched hg
  | resolve n image =>
    rw [act, next_discard]
    exact (ending_resolve image).untouched htell hg fun hwaits heq => hnot hwaits (heq ▸ rfl)
  | fail n =>
    rw [act, next_discard]
    exact ending_fail.untouched htell hg fun hwaits heq => hnot hwaits (heq ▸ rfl)

/-! What a run does -/

theorem passing_run (htell : ∀ n l, Keeps (Bystanding hold) (tell n l)) (steps : List PassStep)
    (s : Session υ) : Passing hold s (runPasses hold tell s steps) := by
  induction steps generalizing s with
  | nil => exact Std.Refl.refl s
  | cons step steps ih => exact IsTrans.trans _ _ _ (step.passing htell s) (ih _)

theorem untouched_run (htell : ∀ n l, Keeps (Bystanding hold) (tell n l))
    (hg : s.regions[n]? = some g) (hnot : g.state = .loading → ∀ step ∈ steps, step.region? ≠ some n) :
    Untouched n s (runPasses hold tell s steps) := by
  induction steps generalizing s g with
  | nil => exact ⟨g, g, hg, hg, rfl, rfl, rfl⟩
  | cons step steps ih =>
    have hstep := PassStep.untouched htell hg fun hwaits =>
      hnot hwaits step List.mem_cons_self
    refine hstep.trans ?_
    obtain ⟨g₁, g', hg₁, hg', -, hstate, -⟩ := hstep
    obtain rfl := Option.some.inj (hg.symm.trans hg₁)
    refine ih hg' fun hwaits other hmem => ?_
    exact hnot (hstate ▸ hwaits) other (List.mem_cons_of_mem _ hmem)

/-! Renderings -/

/-- A rendering in the course of a run gives the drawing of the response that was held at first, from a
number on from which the regions were new. -/
structure Draft (parts : List ReadPart) (out : List Renderable) (n : Nat) (t : Session υ) : Prop where
  drawn : ∃ sink, out = drawnList sink .root n parts
  placed : Placed t.regions n (urlsList parts)
  length : t.regions.length = n + (urlsList parts).length

section

variable {parts : List ReadPart} {out : List Renderable}

theorem Draft.regions (h : Draft parts out n t) :
    cardRegions out = List.range' n (urlsList parts).length := by
  obtain ⟨sink, rfl⟩ := h.drawn
  exact regions_drawnList parts n

/-- The regions of a drawing keep their URLs. -/
theorem Draft.url (h : Draft parts out n t) {u : Session υ} (hpassing : Passing hold t u) {i : Nat}
    {url : String} (hi : (urlsList parts)[i]? = some url) :
    ∃ g, u.regions[n + i]? = some g ∧ g.url = url := by
  obtain ⟨g, hg, hlook⟩ := Option.map_eq_some_iff.1 (h.placed i url hi)
  obtain ⟨g', hg', hurl⟩ := hpassing.urls _ g hg
  exact ⟨g', hg', hurl.trans (congrArg Prod.fst hlook)⟩

end

/-- From a rendering on, a run goes on from what the rendering has led to. -/
theorem runPasses_rendered {before : List PassStep} {r : Renderer} {pass : Option Pass}
    {out : List Renderable}
    (hexec : exec (renderHeld hold r pass) (runPasses hold tell s₀ before) = (.ok out, t))
    (after : List PassStep) :
    runPasses hold tell s₀ (before ++ .render r pass :: after) = runPasses hold tell t after := by
  have hnext : next ((PassStep.render r pass).act hold tell) (runPasses hold tell s₀ before) =
      t := by
    rw [PassStep.act, next_discard, next, hexec]
  rw [← hnext]
  exact List.foldl_append

theorem draft_of_exec (htell : ∀ n l, Keeps (Bystanding hold) (tell n l))
    (hsteps : Patiently hold tell s₀ steps) {before : List PassStep} {r : Renderer}
    {pass : Option Pass} {out : List Renderable} (hsplit : steps = before ++ .render r pass :: after)
    (hexec : exec (renderHeld hold r pass) (runPasses hold tell s₀ before) = (.ok out, t)) :
    Draft (readParts .root (hold s₀.ui).components) out
      (runPasses hold tell s₀ before).regions.length t ∧
      runPasses hold tell s₀ steps = runPasses hold tell t after := by
  obtain ⟨hregistry, hpatient⟩ := hsteps before r pass after hsplit
  have hheld := (passing_run htell before s₀).held
  have hrun := runPasses_rendered hexec after
  rw [exec_renderHeld] at hexec
  obtain ⟨hout, hregions⟩ := Renderer.exec_render_eq_ok hregistry hpatient hexec
  rw [hheld] at hout hregions
  refine ⟨⟨⟨r.actions, hout⟩, ?_, ?_⟩, hsplit ▸ hrun⟩
  · rw [hregions]
    exact Placed.of_append _ _
  · rw [hregions, List.length_append, List.length_map]

theorem Rendered.draft (htell : ∀ n l, Keeps (Bystanding hold) (tell n l))
    (hsteps : Patiently hold tell s₀ steps) {out : List Renderable}
    (h : Rendered hold tell s₀ steps out t after) :
    ∃ n, Draft (readParts .root (hold s₀.ui).components) out n t ∧
      runPasses hold tell s₀ steps = runPasses hold tell t after := by
  obtain ⟨before, r, pass, hsplit, hexec⟩ := h
  exact ⟨_, draft_of_exec htell hsteps hsplit hexec⟩

section

variable {a b : List Renderable} {u e : Session υ} {parts : List ReadPart} {before : List PassStep}

/-- The regions of an earlier rendering come before those of a later one. -/
theorem Rendered.lt (htell : ∀ n l, Keeps (Bystanding hold) (tell n l))
    (hsteps : Patiently hold tell s₀ steps) (ha : Rendered hold tell s₀ steps a t before)
    (hb : Rendered hold tell s₀ steps b u after) (hlength : after.length < before.length) :
    ∀ n ∈ cardRegions a, ∀ m ∈ cardRegions b, n < m := by
  obtain ⟨xs, r, pass, hxs, hexec⟩ := ha
  obtain ⟨ys, r', pass', hys, hexec'⟩ := hb
  obtain ⟨hdraft, -⟩ := draft_of_exec htell hsteps hxs hexec
  obtain ⟨hdraft', -⟩ := draft_of_exec htell hsteps hys hexec'
  rcases List.append_eq_append_iff.1 (hxs.symm.trans hys) with ⟨zs, rfl, hzs⟩ | ⟨zs, rfl, hzs⟩
  · cases zs with
    | nil =>
      rw [List.nil_append, List.cons.injEq] at hzs
      rw [hzs.2] at hlength
      exact absurd hlength (Nat.lt_irrefl _)
    | cons z zs =>
      obtain rfl : PassStep.render r pass = z := (List.cons.inj hzs).1
      have hgrown := (passing_run htell zs t).length_le
      rw [hdraft.regions, hdraft'.regions, runPasses_rendered hexec zs]
      intro n hn m hm
      rw [List.mem_range'_1] at hn hm
      have hlength := hdraft.length
      omega
  · have hlengths := congrArg List.length hzs
    simp at hlengths
    omega

/-- Regions for the same URLs look the same if they are in the same state. -/
theorem Draft.agree_iff (ha : Draft parts a n t) (hb : Draft parts b m u)
    (hta : Passing hold t e) (hub : Passing hold u e) :
    Agree (looked e.regions) n m (urlsList parts).length ↔
      Agree (fun k => e.regions[k]?.map Region.state) n m (urlsList parts).length := by
  refine forall₂_congr fun i hi => ?_
  have hat := List.getElem?_eq_getElem hi
  obtain ⟨g, hg, hurl⟩ := ha.url hta hat
  obtain ⟨g', hg', hurl'⟩ := hb.url hub hat
  simp [looked, hg, hg', hurl, hurl']

/-- Nothing has happened to the regions of a rendering that were waiting when it was over. -/
def LeftWaiting (out : List Renderable) (t : Session υ) (after : List PassStep) : Prop :=
  ∀ n ∈ cardRegions out, t.regions[n]?.map Region.state = some .loading →
    ∀ step ∈ after, step.region? ≠ some n

/-- The regions of a rendering that has been left alone look as at first. -/
theorem Draft.looks (htell : ∀ n l, Keeps (Bystanding hold) (tell n l)) (h : Draft parts a n t)
    (hleft : LeftWaiting a t after) {i : Nat} {url : String}
    (hi : (urlsList parts)[i]? = some url) :
    looked (runPasses hold tell t after).regions (n + i) = some (url, (regionFor url).state) := by
  have hmem : n + i ∈ cardRegions a := by
    rw [h.regions, List.mem_range'_1]
    exact ⟨Nat.le_add_right n i,
      Nat.add_lt_add_left (List.getElem?_eq_some_iff.1 hi).1 n⟩
  obtain ⟨g, hg, hlook⟩ := Option.map_eq_some_iff.1 (h.placed i url hi)
  have huntouched := untouched_run htell hg fun hwaits =>
    hleft _ hmem (by rw [hg, Option.map_some, hwaits])
  obtain ⟨g₁, g', hg₁, hg', hurl, hstate, -⟩ := huntouched
  obtain rfl := Option.some.inj (hg.symm.trans hg₁)
  rw [looked, hg', Option.map_some, hurl, hstate]
  exact congrArg some hlook

/-- What holds at the end of a run of the renderings in it. -/
structure Repeats (hold : υ → Response) (tell : Tell υ) (s₀ : Session υ) (steps : List PassStep)
    (e : Session υ) : Prop where
  held : hold e.ui = hold s₀.ui
  given : s₀.telemetry.Paced → Descriptor.nodesList (hold s₀.ui).components < 2 ^ 1023 →
    ∀ before r pass after, steps = before ++ .render r pass :: after →
      ∃ out t, Rendered hold tell s₀ steps out t after
  /-- Without their regions two outputs are the same, and with them exactly if those of corresponding
  cards are in the same state. -/
  alike : ∀ a t before b u after, Rendered hold tell s₀ steps a t before →
    Rendered hold tell s₀ steps b u after →
      Renderable.sameList (fun _ => ()) a b = true ∧
      (Renderable.sameList (looked e.regions) a b = true ↔
        List.Forall₂ (fun n m => e.regions[n]?.map Region.state = e.regions[m]?.map Region.state)
          (cardRegions a) (cardRegions b))
  unmoved : ∀ a t before b u after, Rendered hold tell s₀ steps a t before →
    Rendered hold tell s₀ steps b u after → LeftWaiting a t before → LeftWaiting b u after →
      Renderable.sameList (looked e.regions) a b = true
  /-- Two renderings share no region, and the end of a region of one is no change of the other. -/
  apart : ∀ a t before b u after, Rendered hold tell s₀ steps a t before →
    Rendered hold tell s₀ steps b u after → before.length ≠ after.length →
      ∀ n ∈ cardRegions a, n ∉ cardRegions b ∧ ∀ step : PassStep, step.region? = some n →
        ∀ m ∈ cardRegions b, Untouched m e (next (step.act hold tell) e)

/-- Renderings of one response, whoever makes them, differ only by the images that have come or failed
since. -/
theorem repeats_run (htell : ∀ n l, Keeps (Bystanding hold) (tell n l))
    (hsteps : Patiently hold tell s₀ steps) :
    Repeats hold tell s₀ steps (runPasses hold tell s₀ steps) where
  held := (passing_run htell steps s₀).held
  given := by
    intro hpaced hsize before r pass after hsplit
    obtain ⟨hregistry, hpatient⟩ := hsteps before r pass after hsplit
    have hbefore := passing_run htell before s₀
    rw [← hbefore.held] at hsize
    obtain ⟨out, -, t, -, hexec, -⟩ := Renderer.exec_render_drawn hregistry hpatient
      (hpaced.mono hbefore.readings) hsize pass
    exact ⟨out, t, before, r, pass, hsplit, (exec_renderHeld _ _ _ _).trans hexec⟩
  alike := by
    intro a t before b u after ha hb
    obtain ⟨n, hdraft, ht⟩ := ha.draft htell hsteps
    obtain ⟨m, hdraft', hu⟩ := hb.draft htell hsteps
    have hta := ht ▸ passing_run htell before t
    have hub := hu ▸ passing_run htell after u
    have hagree := hdraft.agree_iff hdraft' hta hub
    rw [hdraft.regions, hdraft'.regions]
    obtain ⟨sink, rfl⟩ := hdraft.drawn
    obtain ⟨sink', rfl⟩ := hdraft'.drawn
    refine ⟨(sameList_redrawn _).2 fun _ _ => rfl, ?_⟩
    rw [sameList_redrawn, hagree, agree_iff_forall₂]
  unmoved := by
    intro a t before b u after ha hb hleft hleft'
    obtain ⟨n, hdraft, ht⟩ := ha.draft htell hsteps
    obtain ⟨m, hdraft', hu⟩ := hb.draft htell hsteps
    have hagree : Agree (looked (runPasses hold tell s₀ steps).regions) n m
        (urlsList (readParts .root (hold s₀.ui).components)).length := by
      intro i hi
      have hat := List.getElem?_eq_getElem hi
      exact (ht ▸ hdraft.looks htell hleft hat).trans (hu ▸ hdraft'.looks htell hleft' hat).symm
    obtain ⟨sink, rfl⟩ := hdraft.drawn
    obtain ⟨sink', rfl⟩ := hdraft'.drawn
    exact (sameList_redrawn _).2 hagree
  apart := by
    intro a t before b u after ha hb hne n hn
    have hnot : ∀ m ∈ cardRegions b, n ≠ m := by
      intro m hm
      rcases Nat.lt_or_gt_of_ne hne with hlt | hlt
      · exact (hb.lt htell hsteps ha hlt m hm n hn).ne'
      · exact (ha.lt htell hsteps hb hlt n hn m hm).ne
    refine ⟨fun hmem => hnot n hmem rfl, fun step hstep m hm => ?_⟩
    obtain ⟨k, hdraft, hu⟩ := hb.draft htell hsteps
    have hthere := hm
    rw [hdraft.regions, List.mem_range'_1] at hthere
    obtain ⟨i, rfl⟩ := Nat.exists_eq_add_of_le hthere.1
    obtain ⟨g, hg, -⟩ := hdraft.url (hu ▸ passing_run htell after u)
      (List.getElem?_eq_getElem (Nat.lt_of_add_lt_add_left hthere.2))
    refine PassStep.untouched htell hg fun _ heq => hnot _ hm ?_
    exact Option.some.inj (hstep.symm.trans heq)

end

/-- A region that waits is resolved when it is told to. -/
theorem resolve_loads (htell : ∀ n l, Keeps (Bystanding hold) (tell n l))
    (hg : s.regions[n]? = some g) (hwaits : g.state = .loading) (image : Value) :
    (next (Session.resolve tell n image) s).regions[n]?.map Region.state = some .loaded := by
  have htold := settled_told htell n (fun g => g.resolve? image) s
  have hsettled := settled_regions n (fun g => g.resolve? image) hg
  have hresolved : g.resolve? image = some { g with state := .loaded, image } := by
    simp [Region.resolve?, Region.isTerminal, hwaits]
  rw [if_pos rfl, hresolved] at hsettled
  obtain ⟨ls, hnext⟩ := htold.regions n _ hsettled
  rw [resolve, hnext]
  rfl

/-- The response that a screen shows, if any. -/
def shownResponse (u : Ui) : Response := u.screen.response.getD {}

theorem Bystanding.of_ui (s : Session Ui) {u : Ui}
    (h : u.screen.response = s.ui.screen.response) : Bystanding shownResponse s { s with ui := u } :=
  ⟨⟨rfl, rfl, rfl, .of_regions rfl⟩, congrArg (fun r : Option Response => r.getD {}) h,
    List.Subset.refl _⟩

/-- Views mind their own business. -/
instance : ViewChanges (Bystanding shownResponse) where
  Own _ := True
  log _ _ _ _ := ⟨⟨rfl, rfl, rfl, .of_regions rfl⟩, rfl, List.Subset.refl _⟩
  addRegion url s := ⟨addRegion_imagesKept url s, rfl, List.Subset.refl _⟩
  subscribe n l s := ⟨subscribe_imagesKept n l s, rfl, List.Subset.refl _⟩
  unsubscribe n l s := ⟨unsubscribe_imagesKept n l s, rfl, List.Subset.refl _⟩
  addWidget s _ := .of_ui s rfl
  own_create := gives_created
  updateWidget _ _ s := .of_ui s rfl
  destroyWidget _ _ s := .of_ui s rfl
  addErrand s _ _ := .of_ui s rfl
  addView _ _ _ s := .of_ui s rfl
  updateView _ _ _ _ s := .of_ui s rfl
  own_root _ _ _ _ _ h := h fun _ _ => trivial
  named _ s := .of_ui s rfl
  startPolling s _ _ := .of_ui s rfl
  stopPolling s _ _ := .of_ui s rfl
  forgetPolling s := .of_ui s rfl

/-- A screen that shows two moons. -/
def moons : Session Ui where
  ui := { screen := { response := some { components :=
    [⟨"phobos", "planetCard", [("imageUrl", some "/phobos.png")], none⟩,
      ⟨"deimos", "planetCard", [("imageUrl", some "/deimos.png")], none⟩] } } }

/-- They are rendered twice, and the first picture of the first rendering comes. -/
def viewings : List PassStep :=
  [.render {} none, .render { actions := .refusing, images := .recorder [] } (some ⟨1⟩),
    .resolve 0 .null]

theorem patiently_viewings : Patiently shownResponse tellView moons viewings := by
  intro before r pass after hsplit
  have hmem : PassStep.render r pass ∈ viewings := by simp [hsplit]
  simp only [viewings, List.mem_cons, PassStep.render.injEq, List.not_mem_nil, or_false,
    reduceCtorEq] at hmem
  rcases hmem with ⟨rfl, rfl⟩ | ⟨rfl, rfl⟩
  · exact ⟨rfl, trivial⟩
  · exact ⟨rfl, rfl⟩

/-- Region 0 is the first one of the first rendering. -/
theorem draft_viewings {a : List Renderable} {t : Session Ui}
    (ha : Rendered shownResponse tellView moons viewings a t (viewings.drop 1))
    (htell : ∀ n l, Keeps (Bystanding shownResponse) (tellView n l)) :
    Draft (readParts .root (shownResponse moons.ui).components) a 0 t := by
  obtain ⟨before, r, pass, hsplit, hexec⟩ := ha
  obtain rfl : before = [] := by
    have hlength := congrArg List.length hsplit
    simpa [viewings] using hlength
  exact (draft_of_exec htell patiently_viewings hsplit hexec).1

theorem repeats_run_viewings :
    (∀ n l, Keeps (Bystanding shownResponse) (tellView n l)) ∧
      Patiently shownResponse tellView moons viewings ∧
      ∃ a t b u, Rendered shownResponse tellView moons viewings a t (viewings.drop 1) ∧
        Rendered shownResponse tellView moons viewings b u (viewings.drop 2) ∧
        Renderable.sameList (fun _ => ()) a b = true ∧
        Renderable.sameList (looked (runPasses shownResponse tellView moons viewings).regions) a b
          ≠ true := by
  have htell (n l : Nat) : Keeps (Bystanding shownResponse) (tellView n l) := keeps_showImage n l
  have h := repeats_run htell patiently_viewings
  have hpaced : moons.telemetry.Paced := Telemetry.paced_of_clock_nil rfl
  have hsize : Descriptor.nodesList (shownResponse moons.ui).components < 1023 := by decide
  have hgiven := h.given hpaced (Nat.lt_trans hsize Nat.lt_two_pow_self)
  obtain ⟨a, t, ha⟩ := hgiven [] _ _ (viewings.drop 1) rfl
  obtain ⟨b, u, hb⟩ := hgiven [_] _ _ (viewings.drop 2) rfl
  obtain ⟨halike, hiff⟩ := h.alike a t _ b u _ ha hb
  refine ⟨htell, patiently_viewings, a, t, b, u, ha, hb, halike, fun hsame => ?_⟩
  have hurls : urlsList (readParts .root (shownResponse moons.ui).components) =
      ["/phobos.png", "/deimos.png"] := by decide +kernel
  have hurl : (urlsList (readParts .root (shownResponse moons.ui).components))[0]? =
      some "/phobos.png" := by rw [hurls]; rfl
  have hdraft := draft_viewings ha htell
  obtain ⟨-, -, hrun⟩ := ha.draft htell patiently_viewings
  obtain ⟨m, hdraft', hrun'⟩ := hb.draft htell patiently_viewings
  have hstates := hiff.1 hsame
  rw [hdraft.regions, hdraft'.regions, hurls] at hstates
  have hfirst := (List.forall₂_cons.1 hstates).1
  -- The first picture has come for the first rendering,
  have hleft : LeftWaiting a t [viewings[1]] := by
    intro n _ _ step hstep
    rw [List.mem_singleton.1 hstep]
    exact (Option.some_ne_none n).symm
  obtain ⟨g, hg, hlook⟩ := Option.map_eq_some_iff.1 (hdraft.looks htell hleft hurl)
  have hloaded : (runPasses shownResponse tellView moons viewings).regions[0]?.map Region.state =
      some .loaded := by
    have hlast : runPasses shownResponse tellView t (viewings.drop 1) =
        next (resolve tellView 0 .null) (runPasses shownResponse tellView t [viewings[1]]) :=
      next_discard _ _
    rw [hrun, hlast]
    exact resolve_loads htell hg (congrArg Prod.snd hlook) .null
  -- and for the second one it has not.
  have hmem : 0 ∈ cardRegions a := by
    rw [hdraft.regions, hurls]
    exact List.mem_cons_self
  have hapart := (h.apart a t _ b u _ ha hb (by decide) 0 hmem).1
  have hleft' : LeftWaiting b u (viewings.drop 2) := by
    intro n hn _ step hstep
    rw [List.mem_singleton.1 hstep]
    rintro ⟨⟩
    exact hapart hn
  obtain ⟨g', hg', hlook'⟩ := Option.map_eq_some_iff.1 (hdraft'.looks htell hleft' hurl)
  rw [Nat.add_zero] at hg'
  rw [hloaded, hrun', hg', Option.map_some, (Prod.mk.inj hlook').2] at hfirst
  exact absurd hfirst (by decide)

end Session
end RemoteScreen
