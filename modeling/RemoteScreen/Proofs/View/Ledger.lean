import RemoteScreen.Proofs.View.Grove

/-! Components leak no widget. A tree of components is mounted, laid out and destroyed by its top, and
anywhere in it components are taken in and taken out again. Whatever is done in whatever order, a widget
that is made for the tree is that of one of its mounted components, until it is destroyed with it, once
and after the widgets in it. -/
namespace RemoteScreen
namespace Session

variable {s t u s₀ : Session Ui} {k₀ : Toolkit Command} {top v w : Nat} {us : List Nat} {b b' : Bough}

/-! Steps -/

/-- What may be done to a tree of components. -/
inductive TreeStep where
  /-- The top is mounted in widget `q`. -/
  | mount (q : Nat)
  /-- Component `v` takes in component `c`, the top of a tree that has just been made. -/
  | add (v : Nat) (made : List View) (c : Nat)
  /-- Component `v` lets go of all that it holds. -/
  | clear (v : Nat)
  | layout
  | destroy

namespace TreeStep

def act (top : Nat) : TreeStep → Act Ui Unit
  | mount q => Session.mount top q
  | add v made c => do
    updateUi fun u => { u with views := u.views ++ made }
    addComponent v c
  | clear v => clearComponents v
  | layout => Session.layout top
  | destroy => Session.destroy top

/-- The top is mounted in a widget that stands, if it is not mounted; and trees that are not mounted are
taken in by components of the tree. -/
def Permitted (top : Nat) (s : Session Ui) : TreeStep → Prop
  | mount q => s.rootOf top = none ∧ s.ui.kit.isAlive q = true
  | add v made c => Under s top v ∧ ∃ b : Bough, b.label = c ∧ Hung (s.withMade made) b none ∧
      b.labels.Perm (List.range' s.ui.views.length made.length)
  | clear v => Under s top v
  | layout => True
  | destroy => True

/-- A step takes component `v` out of the tree, or down with all of it. -/
def Removes (top : Nat) (s : Session Ui) (v : Nat) : TreeStep → Prop
  | clear u => Under s u v ∧ v ≠ u
  | destroy => Under s top v
  | _ => False

/-- What a step does besides. -/
def Done (top : Nat) (s t : Session Ui) : TreeStep → Prop
  | mount q => ∃ w, t.rootOf top = some w ∧ t.ui.kit.parent? w = some q
  | add v _ c => ∀ x, s.ui.views[v]? = some x →
      t.ui.views[v]? = some { x with components := x.components ++ [c] }
  | clear v => ∀ x, s.ui.views[v]? = some x → t.ui.views[v]? = some { x with components := [] }
  | layout => t.ui.views = s.ui.views
  | destroy => True

end TreeStep

/-- Every step is taken, and does to the tree what a step may do. -/
theorem Grove.step {step : TreeStep} (h : Grove k₀ b s) (hb : b.label = top)
    (hstep : step.Permitted top s) :
    Leads (step.act top) s fun _ t => ∃ b' us, b'.label = top ∧ Tends k₀ b b' us s t ∧
      (∀ v, step.Removes top s v → v ∈ us) ∧ step.Done top s t := by
  subst hb
  have hkeeps (t : Session Ui) (ht : Tends k₀ b b [] s t) (hdone : step.Done b.label s t)
      (hnone : ∀ v, ¬step.Removes b.label s v) : ∃ b' us, b'.label = b.label ∧
        Tends k₀ b b' us s t ∧ (∀ v, step.Removes b.label s v → v ∈ us) ∧
        step.Done b.label s t :=
    ⟨b, [], rfl, ht, fun v hv => absurd hv (hnone v), hdone⟩
  cases step with
  | mount q =>
    exact (h.mount hstep.1 hstep.2).mono fun _ t ⟨ht, hdone⟩ => hkeeps t ht hdone fun _ => id
  | add v made c =>
    obtain ⟨hv, bn, rfl, hnew, hlabels⟩ := hstep
    refine leads_bind_eq (exec_updateUi _ s) ?_
    refine (h.add (h.mem_labels.1 hv) hlabels hnew).mono fun _ t ⟨b', ht, hdone⟩ => ?_
    exact ⟨b', [], ht.label, ht, fun _ => False.elim, hdone⟩
  | clear v =>
    refine (h.clear (h.mem_labels.1 hstep)).mono fun _ t ⟨b', us, ht, hus, hdone⟩ => ?_
    exact ⟨b', us, ht.label, ht, fun e he => hus e he.1 he.2, hdone⟩
  | layout => exact h.layout.mono fun _ t ⟨ht, hdone⟩ => hkeeps t ht hdone fun _ => id
  | destroy =>
    refine h.destroy.mono fun _ t ht => ?_
    exact ⟨.node b.label [], b.labels, rfl, ht, fun v hv => h.mem_labels.1 hv, trivial⟩

/-! Runs -/

/-- A session after some steps. -/
def runTree (top : Nat) (s : Session Ui) (steps : List TreeStep) : Session Ui :=
  steps.foldl (fun s step => next (step.act top) s) s

theorem runTree_append (top : Nat) (s : Session Ui) (before after : List TreeStep) :
    runTree top s (before ++ after) = runTree top (runTree top s before) after := List.foldl_append

/-- Each step may be taken when it is. -/
def Permits (top : Nat) (s : Session Ui) : List TreeStep → Prop
  | [] => True
  | step :: steps => step.Permitted top s ∧ Permits top (next (step.act top) s) steps

theorem permits_append {before after : List TreeStep} : Permits top s (before ++ after) ↔
    Permits top s before ∧ Permits top (runTree top s before) after := by
  induction before generalizing s with
  | nil => simp [Permits, runTree]
  | cons step before ih => simp [Permits, runTree, ih, and_assoc]

/-- What a run of steps leaves of a tree, and of what is not in it. -/
structure Ran (k₀ : Toolkit Command) (b : Bough) (s t : Session Ui) : Prop where
  grove : ∃ b', b'.label = b.label ∧ Grove k₀ b' t
  destroyed : s.ui.kit.destroyed <+: t.ui.kit.destroyed
  others : ∀ v < s.ui.views.length, v ∉ b.labels → t.ui.views[v]? = s.ui.views[v]?

theorem Grove.run {steps : List TreeStep} (h : Grove k₀ b s) (hb : b.label = top)
    (hsteps : Permits top s steps) : Ran k₀ b s (runTree top s steps) := by
  induction steps generalizing b s with
  | nil => exact ⟨⟨b, rfl, h⟩, List.prefix_rfl, fun _ _ _ => rfl⟩
  | cons step steps ih =>
    obtain ⟨hstep, hrest⟩ := hsteps
    obtain ⟨-, -, b', us, hb', ht, -⟩ := (h.step hb hstep).next
    have hran := ih ht.grove hb' hrest
    obtain ⟨b'', hlabel, hgrove⟩ := hran.grove
    have hdestroyed : s.ui.kit.destroyed <+: (next (step.act top) s).ui.kit.destroyed :=
      ⟨_, ht.gone.destroyed.symm⟩
    refine ⟨⟨b'', hlabel.trans ht.label, hgrove⟩, hdestroyed.trans hran.destroyed, fun v hv hnot => ?_⟩
    have hnot' : v ∉ b'.labels := fun hmem =>
      (ht.labels v hmem).elim hnot fun hle => absurd hv (Nat.not_lt.2 hle)
    exact (hran.others v (Nat.lt_of_lt_of_le hv ht.length) hnot').trans (ht.others v hv hnot)

/-- A step in the middle of a run. -/
structure Amid (k₀ : Toolkit Command) (top : Nat) (step : TreeStep) (b b' : Bough) (us : List Nat)
    (s t u : Session Ui) : Prop where
  grove : Grove k₀ b s
  label : b.label = top
  exec : exec (step.act top) s = (.ok ⟨⟩, t)
  tends : Tends k₀ b b' us s t
  removes : ∀ v, step.Removes top s v → v ∈ us
  done : step.Done top s t
  ran : Ran k₀ b' t u

theorem Grove.amid {before after : List TreeStep} {step : TreeStep} (h : Grove k₀ b s)
    (hb : b.label = top) (hsteps : Permits top s (before ++ step :: after)) :
    ∃ b₁ b₂ us, Amid k₀ top step b₁ b₂ us (runTree top s before) (runTree top s (before ++ [step]))
      (runTree top s (before ++ step :: after)) := by
  obtain ⟨hbefore, hstep, hafter⟩ := permits_append.1 hsteps
  obtain ⟨b₁, hlabel, hgrove⟩ := (h.run hb hbefore).grove
  have hb₁ := hlabel.trans hb
  obtain ⟨_, hexec, b₂, us, hb₂, ht, hus, hdone⟩ := (hgrove.step hb₁ hstep).next
  have hran := ht.grove.run hb₂ hafter
  have hnext : runTree top s (before ++ [step]) = next (step.act top) (runTree top s before) :=
    runTree_append _ _ _ _
  have hrest : runTree top s (before ++ step :: after) =
      runTree top (next (step.act top) (runTree top s before)) after := runTree_append _ _ _ _
  rw [hnext, hrest]
  exact ⟨b₁, b₂, us, hgrove, hb₁, hexec, ht, hus, hdone, hran⟩

/-! What is made and what is destroyed -/

/-- All of a tree is mounted, or nothing. The widgets that stand are those that stood at first, in `k₀`,
and one for each mounted component, in that of the component that holds it. -/
structure Accounted (k₀ : Toolkit Command) (top : Nat) (s : Session Ui) : Prop where
  uniform : ∀ v, Under s top v → (s.rootOf v).isSome = (s.rootOf top).isSome
  standing : ∀ w, s.ui.kit.isAlive w = true ↔
    k₀.isAlive w = true ∨ ∃ v, Under s top v ∧ s.rootOf v = some w
  apart : ∀ v w, Under s top v → s.rootOf v = some w → k₀.isAlive w = false
  single : ∀ v e w, Under s top v → Under s top e → s.rootOf v = some w → s.rootOf e = some w → v = e
  nested : ∀ v x c w, Under s top v → s.ui.views[v]? = some x → c ∈ x.components →
    s.rootOf c = some w → s.ui.kit.parent? w = x.root

theorem Grove.accounted (h : Grove k₀ b s) : Accounted k₀ b.label s := by
  obtain ⟨place, hhung⟩ := h.hung
  have hmounted {v : Nat} (hv : Under s b.label v) : (s.rootOf v).isSome = place.isSome := by
    obtain ⟨x, hx, hroot⟩ := Hung.mounted b hhung v (h.mem_labels.1 hv)
    rw [rootOf_eq hx, hroot]
  refine ⟨fun v hv => (hmounted hv).trans (hmounted .self).symm, fun w => ?_, fun v w hv hw => ?_,
    fun v e w hv he hvw hew => ?_, fun v x c w hv hx hc hw => ?_⟩
  · simp only [h.standing, mem_rootsOf, h.mem_labels]
  · have hle := h.fresh w (mem_rootsOf.2 ⟨v, h.mem_labels.1 hv, hw⟩)
    exact Bool.eq_false_iff.2 fun halive => absurd (Toolkit.lt_of_isAlive halive) (Nat.not_lt.2 hle)
  · exact eq_of_rootOf h.roots (h.mem_labels.1 hv) (h.mem_labels.1 he) hvw hew
  · exact Hung.nested b hhung v (h.mem_labels.1 hv) x hx c hc w hw

/-- A step is taken. A component of the tree that was mounted keeps its widget, or is not mounted any
more. Each widget that the step makes is for a component that was not mounted, and such a component gets
no other. -/
structure Performed (top : Nat) (step : TreeStep) (s t : Session Ui) : Prop where
  exec : exec (step.act top) s = (.ok ⟨⟩, t)
  done : step.Done top s t
  kept : ∀ v w, Under t top v → s.rootOf v = some w → t.rootOf v = some w ∨ t.rootOf v = none
  new : ∀ v w, Under t top v → s.rootOf v = none → t.rootOf v = some w → s.ui.kit.widgets.length ≤ w
  made : ∀ w, s.ui.kit.widgets.length ≤ w → w < t.ui.kit.widgets.length →
    ∃ v, Under t top v ∧ s.rootOf v = none ∧ t.rootOf v = some w

theorem Amid.performed {step : TreeStep} (h : Amid k₀ top step b b' us s t u) :
    Performed top step s t := by
  have ht := h.tends
  have hmem {v : Nat} : Under t top v ↔ v ∈ b'.labels := by
    rw [← h.label, ← ht.label]
    exact ht.grove.mem_labels
  refine ⟨h.exec, h.done, fun v w hv => ht.kept v (hmem.1 hv) w, fun v w hv => ht.new v (hmem.1 hv) w,
    fun w hle hlt => ?_⟩
  obtain ⟨v, hv, hw⟩ := mem_rootsOf.1 (ht.made w hle hlt)
  refine ⟨v, hmem.2 hv, ?_, hw⟩
  -- A component that had a widget would have kept an earlier one.
  by_contra hsome
  obtain ⟨w', hw'⟩ := Option.ne_none_iff_exists'.1 hsome
  rcases ht.kept v hv w' hw' with hkept | hnone
  · obtain rfl := Option.some.inj (hw.symm.trans hkept)
    rcases ht.labels v hv with hold | hnew
    · have halive := (h.grove.standing w).2 (.inr (mem_rootsOf.2 ⟨v, hold, hw'⟩))
      exact absurd (Toolkit.lt_of_isAlive halive) (Nat.not_lt.2 hle)
    · rw [rootOf, List.getElem?_eq_none hnew] at hw'
      cases hw'
  · rw [hw] at hnone
    cases hnone

/-- Component `v` was removed in session `s`, and later, in `t`, its widget has been destroyed once, and
after those of the components that it held. -/
structure Buried (v : Nat) (s t : Session Ui) : Prop where
  once : ∀ w, s.rootOf v = some w → t.ui.kit.destroyed.count w = 1
  after : ∀ x c w w', s.ui.views[v]? = some x → c ∈ x.components → s.rootOf v = some w →
    s.rootOf c = some w' → [w', w].Sublist t.ui.kit.destroyed

/-- Component `v` is not mounted and holds nothing, and to destroy it changes nothing. -/
structure Spent (v : Nat) (t : Session Ui) : Prop where
  view : ∃ x, t.ui.views[v]? = some x ∧ x.root = none ∧ x.components = []
  again : exec (destroy v) t = (.ok ⟨⟩, t)

theorem Gone.buried (h : Gone us s t) (hv : v ∈ us) (hgrown : u.ui.kit.Grown)
    (hdestroyed : t.ui.kit.destroyed <+: u.ui.kit.destroyed) : Buried v s u := by
  have hroots : (s.rootsOf us).Sublist u.ui.kit.destroyed := by
    refine .trans ?_ hdestroyed.sublist
    rw [h.destroyed]
    exact List.sublist_append_right _ _
  refine ⟨fun w hw => ?_, fun x c w w' hx hc hw hw' => ?_⟩
  · exact List.count_eq_one_of_mem hgrown.once (hroots.subset (mem_rootsOf.2 ⟨v, hv, hw⟩))
  · obtain ⟨q, kids, y, hknot, hbefore⟩ := h.knots v hv
    obtain rfl := Option.some.inj (hx.symm.trans hknot.view)
    have hpair := (hbefore c (hknot.components ▸ hc)).filterMap s.rootOf
    rw [List.filterMap_cons_some hw', List.filterMap_cons_some hw] at hpair
    exact hpair.trans hroots

theorem Gone.spent (h : Gone us s t) (hv : v ∈ us) (hviews : u.ui.views[v]? = t.ui.views[v]?) :
    Spent v u := by
  obtain ⟨q, kids, x, hknot, -⟩ := h.knots v hv
  have hx : u.ui.views[v]? = some x.ended := hviews.trans (h.ended v hv x hknot.view)
  exact ⟨⟨x.ended, hx, rfl, rfl⟩, exec_destroy_idle hx hknot.kind rfl rfl rfl⟩

/-- After every step of a run the widgets of the tree are accounted for. Every component that a step
removes is at its end for good, but for the top, which may be mounted again. -/
structure LeaksNothing (top : Nat) (s₀ : Session Ui) (steps : List TreeStep) : Prop where
  accounted : ∀ before after, steps = before ++ after →
    Accounted s₀.ui.kit top (runTree top s₀ before)
  performed : ∀ before step after, steps = before ++ step :: after →
    Performed top step (runTree top s₀ before) (runTree top s₀ (before ++ [step]))
  buried : ∀ before step after rest, steps = before ++ step :: after ++ rest → ∀ v,
    step.Removes top (runTree top s₀ before) v →
      Buried v (runTree top s₀ before) (runTree top s₀ (before ++ step :: after))
  spent : ∀ before step after rest, steps = before ++ step :: after ++ rest → ∀ v,
    step.Removes top (runTree top s₀ before) v → v ≠ top ∨ after = [] →
      Spent v (runTree top s₀ (before ++ step :: after))

/-- A tree that has not been mounted yet. -/
theorem Hung.grove (h : Hung s b none) (hlabels : b.labels.Nodup) (hgrown : s.ui.kit.Grown) :
    Grove s.ui.kit b s where
  hung := ⟨none, h⟩
  labels := hlabels
  grown := hgrown
  base := Nat.le_refl _
  standing := by
    intro w
    rw [h.rootsOf_none, or_iff_left List.not_mem_nil]
  roots := by
    rw [h.rootsOf_none]
    exact List.nodup_nil
  fresh := by
    intro w hw
    rw [h.rootsOf_none] at hw
    exact absurd hw List.not_mem_nil

/-- Whatever is done to a tree that has not been mounted yet, it leaks nothing. -/
theorem components_leak_nothing (h : Hung s₀ b none) (hlabels : b.labels.Nodup)
    (hgrown : s₀.ui.kit.Grown) {steps : List TreeStep} (hsteps : Permits b.label s₀ steps) :
    LeaksNothing b.label s₀ steps := by
  have hgrove := h.grove hlabels hgrown
  refine ⟨?_, ?_, ?_, ?_⟩
  · rintro before after rfl
    obtain ⟨b', hlabel, hgrove'⟩ := (hgrove.run rfl (permits_append.1 hsteps).1).grove
    exact hlabel ▸ hgrove'.accounted
  · rintro before step after rfl
    obtain ⟨b₁, b₂, us, hamid⟩ := hgrove.amid rfl hsteps
    exact hamid.performed
  · rintro before step after rest rfl v hv
    obtain ⟨b₁, b₂, us, hamid⟩ := hgrove.amid rfl (permits_append.1 hsteps).1
    obtain ⟨b₃, -, hgrove'⟩ := hamid.ran.grove
    exact hamid.tends.gone.buried (hamid.removes v hv) hgrove'.grown hamid.ran.destroyed
  · rintro before step after rest rfl v hv hend
    obtain ⟨b₁, b₂, us, hamid⟩ := hgrove.amid rfl (permits_append.1 hsteps).1
    have hv' := hamid.removes v hv
    obtain ⟨hmem, hback⟩ := hamid.tends.lost v hv'
    refine hamid.tends.gone.spent hv' ?_
    rcases hend with hne | rfl
    · have hlt := Nat.lt_of_lt_of_le (hamid.grove.lt_of_mem hmem) hamid.tends.length
      exact hamid.ran.others v hlt fun hback' => hne ((hback hback').trans hamid.label)
    · rfl

/-- A component as it is made, with those that it is to hold. -/
def composite (components : List Nat) : View :=
  { kind := .component, id := "", name := "", components }

theorem hung_composite {bs : List Bough}
    (hx : s.ui.views[v]? = some (composite (bs.map Bough.label))) (h : HungAll s bs none) :
    Hung s (.node v bs) none := by
  rw [Hung]
  exact ⟨_, .of_unmounted hx rfl rfl rfl rfl, h⟩

/-- One component in another. -/
def sapling : Session Ui := { ui := { views := [composite [1], composite []] } }

theorem hung_sapling : Hung sapling (.node 0 [.node 1 []]) none :=
  hung_composite rfl ⟨hung_composite rfl trivial, trivial⟩

/-- The tree is mounted in the window. The lower component takes in a third, before the upper one lets
go of it, and the rest is destroyed. -/
def gardening : List TreeStep := [.mount 0, .add 1 [composite []] 2, .layout, .clear 0, .destroy]

theorem permits_gardening : Permits 0 sapling gardening := by
  let s₁ : Session Ui := next (TreeStep.act 0 (.mount 0)) sapling
  have hlength : s₁.ui.views.length = 2 := by decide +kernel
  have hholds : (s₁.ui.views[0]?).any fun x => x.components == [1] := by decide +kernel
  have hnew : (s₁.withMade [composite []]).ui.views[2]? = some (composite []) := by
    rw [← hlength]
    exact List.getElem?_concat_length
  refine ⟨⟨rfl, by decide +kernel⟩, ⟨?_, .node 2 [], rfl, hung_composite hnew trivial, ?_⟩, trivial,
    .self, trivial, trivial⟩
  · obtain ⟨x, hx, hone⟩ := (Option.any_eq_true _ _).1 hholds
    refine .step .self hx ?_
    rw [eq_of_beq hone]
    exact List.mem_cons_self
  · change List.Perm [2] (List.range' s₁.ui.views.length 1)
    rw [hlength]
    exact .refl _

/-- All three widgets are destroyed, from below. -/
theorem leaks_nothing_gardening : Hung sapling (.node 0 [.node 1 []]) none ∧
    Permits 0 sapling gardening ∧ LeaksNothing 0 sapling gardening ∧
    (runTree 0 sapling gardening).ui.kit.destroyed = [3, 2, 1] :=
  ⟨hung_sapling, permits_gardening,
    components_leak_nothing hung_sapling (by decide) Toolkit.grown_withWindow permits_gardening,
    by decide +kernel⟩

end Session
end RemoteScreen
