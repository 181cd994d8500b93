import RemoteScreen.Proofs.View.Mounted

/-! Destroying views. Every mounted view was mounted in the window or in a view that owns it, so when
all that a view owns is gone nothing is mounted below its widget, and the widget can go. What is
destroyed is a view with all that it owns, and no more. -/
namespace RemoteScreen
namespace Session

open Toolkit (Extended)

variable {s t u : Session Ui} {path : Nat → List Nat} {d v w c e : Nat} {x y : View}
  {P Q : Nat → Prop}

/-- Views between two steps: one that is mounted is held by the window or by the view it is mounted
in, and one that is not has no parts. -/
structure Settled (path : Nat → List Nat) (s : Session Ui) : Prop extends Housed path s where
  linked : ∀ (e : Nat) (x : View) (w : Nat), s.ui.views[e]? = some x → x.root = some w →
    path w = [e] ∨ Hangs path s e w
  bare : ∀ (e : Nat) (x : View), s.ui.views[e]? = some x → x.root = none → x.parts = .none

/-- A view that is mounted within view `d` is that view, or view `d` owns a mounted view. -/
theorem Settled.mem_path (h : Settled path s) (hx : s.ui.views[e]? = some x)
    (hw : x.root = some w) (hd : d ∈ path w) : e = d ∨
      ∃ y c z, s.ui.views[d]? = some y ∧ c ∈ y.components ∧ s.ui.views[c]? = some z ∧
        z.root.isSome = true := by
  obtain ⟨n, hn⟩ : ∃ n, (path w).length = n := ⟨_, rfl⟩
  induction n using Nat.strongRecOn generalizing e x w with
  | ind n ih =>
    rcases h.linked e x w hx hw with hpath | ⟨u, y, r, hy, hr, hmem, hpath⟩
    · rw [hpath, List.mem_singleton] at hd
      exact .inl hd.symm
    · rw [hpath] at hd hn
      rcases List.mem_cons.1 hd with rfl | hd
      · exact .inl rfl
      · have hlt : (path r).length < n := by
          rw [← hn]
          exact Nat.lt_succ_self _
        rcases ih _ hlt hy hr hd rfl with rfl | howned
        · exact .inr ⟨y, e, x, hy, hmem, hx, by rw [hw]; rfl⟩
        · exact .inr howned

/-- View `d` and what it owns, directly or not. -/
inductive Under (s : Session Ui) (d : Nat) : Nat → Prop where
  | self : Under s d d
  | step {u c : Nat} {y : View} : Under s d u → s.ui.views[u]? = some y → c ∈ y.components →
    Under s d c

theorem Under.le (h : Forest s.ui.views) (hunder : Under s d e) : d ≤ e := by
  induction hunder with
  | self => exact Nat.le_refl d
  | step _ hy hc ih => exact Nat.le_trans ih (Nat.le_of_lt (h.later _ _ hy _ hc).1)

/-- Below a view are the view itself and what is below the views that it owns. -/
theorem under_iff (hx : s.ui.views[d]? = some x) :
    Under s d e ↔ e = d ∨ ∃ c ∈ x.components, Under s c e := by
  constructor
  · intro h
    induction h with
    | self => exact .inl rfl
    | step _ hy hc ih =>
      rcases ih with rfl | ⟨c, hmem, hunder⟩
      · obtain rfl := Option.some.inj (hx.symm.trans hy)
        exact .inr ⟨_, hc, .self⟩
      · exact .inr ⟨c, hmem, hunder.step hy hc⟩
  · rintro (rfl | ⟨c, hmem, hunder⟩)
    · exact .self
    · induction hunder with
      | self => exact .step .self hx hmem
      | step _ hy hc ih => exact ih.step hy hc

/-- What is owned once a view has lost its parts is what was owned before. -/
theorem under_congr (h : ∀ (e : Nat), (t.ui.views[e]?).map View.components =
    (s.ui.views[e]?).map View.components) : Under t d e ↔ Under s d e := by
  have hone {s t : Session Ui} (h : ∀ (e : Nat), (t.ui.views[e]?).map View.components =
      (s.ui.views[e]?).map View.components) (hunder : Under t d e) : Under s d e := by
    induction hunder with
    | self => exact .self
    | @step u c y _ hy hc ih =>
      have hu := h u
      rw [hy, Option.map_some] at hu
      obtain ⟨z, hz, hcomponents⟩ := Option.map_eq_some_iff.1 hu.symm
      exact ih.step hz (hcomponents ▸ hc)
  exact ⟨hone h, hone fun e => (h e).symm⟩

/-- The views of a set have been destroyed, with their widgets, and no others. -/
structure Torn (P : Nat → Prop) (s t : Session Ui) : Prop where
  length : t.ui.views.length = s.ui.views.length
  ended : ∀ (e : Nat) (x : View), s.ui.views[e]? = some x → P e → t.ui.views[e]? = some x.ended
  kept : ∀ (e : Nat) (x : View), s.ui.views[e]? = some x → ¬P e → t.ui.views[e]? = some x
  widgets : t.ui.kit.widgets = s.ui.kit.widgets
  destroyed : s.ui.kit.destroyed <+: t.ui.kit.destroyed
  gone : ∀ (e : Nat) (x : View) (w : Nat), s.ui.views[e]? = some x → x.root = some w → P e →
    w ∈ t.ui.kit.destroyed

theorem Torn.refl (s : Session Ui) : Torn (fun _ => False) s s :=
  ⟨rfl, fun _ _ _ h => h.elim, fun _ _ hx _ => hx, rfl, List.prefix_rfl, fun _ _ _ _ _ h => h.elim⟩

theorem Torn.congr (h : Torn P s t) (hPQ : ∀ e, s.ui.views[e]?.isSome = true → (P e ↔ Q e)) :
    Torn Q s t := by
  have hiff {e : Nat} {x : View} (hx : s.ui.views[e]? = some x) : P e ↔ Q e :=
    hPQ e (by rw [hx]; rfl)
  refine ⟨h.length, fun e x hx hQ => ?_, fun e x hx hQ => ?_, h.widgets, h.destroyed,
    fun e x w hx hw hQ => ?_⟩
  · exact h.ended e x hx ((hiff hx).2 hQ)
  · exact h.kept e x hx fun hP => hQ ((hiff hx).1 hP)
  · exact h.gone e x w hx hw ((hiff hx).2 hQ)

open Classical in
theorem Torn.trans (h : Torn P s t) (k : Torn Q t u) : Torn (fun e => P e ∨ Q e) s u where
  length := k.length.trans h.length
  ended := by
    intro e x hx hPQ
    by_cases hP : P e
    · have ht := h.ended e x hx hP
      by_cases hQ : Q e
      · exact k.ended e x.ended ht hQ
      · exact k.kept e x.ended ht hQ
    · exact k.ended e x (h.kept e x hx hP) (hPQ.resolve_left hP)
  kept := by
    intro e x hx hPQ
    exact k.kept e x (h.kept e x hx fun hP => hPQ (.inl hP)) fun hQ => hPQ (.inr hQ)
  widgets := k.widgets.trans h.widgets
  destroyed := h.destroyed.trans k.destroyed
  gone := by
    intro e x w hx hw hPQ
    by_cases hP : P e
    · exact k.destroyed.subset (h.gone e x w hx hw hP)
    · exact k.gone e x w (h.kept e x hx hP) hw (hPQ.resolve_left hP)

/-- A view of a session after destruction is as it was, or has been destroyed. -/
theorem Torn.cases (h : Torn P s t) (hy : t.ui.views[e]? = some y) :
    (¬P e ∧ s.ui.views[e]? = some y) ∨ ∃ x, P e ∧ s.ui.views[e]? = some x ∧ y = x.ended := by
  have hlt : e < s.ui.views.length := h.length ▸ (List.getElem?_eq_some_iff.1 hy).1
  have hx := List.getElem?_eq_getElem hlt
  by_cases hP : P e
  · have hended := h.ended e _ hx hP
    exact .inr ⟨_, hP, hx, Option.some.inj (hy.symm.trans hended)⟩
  · have hkept := h.kept e _ hx hP
    exact .inl ⟨hP, hx.trans (hkept.symm.trans hy)⟩

/-! One view after the other -/

/-- What was below a view before still is, or has been destroyed with all that it owned. -/
theorem Torn.under_iff (h : Torn P s t)
    (hclosed : ∀ (e : Nat) (y : View) (c : Nat), P e → s.ui.views[e]? = some y →
      c ∈ y.components → P c) : P e ∨ Under t d e ↔ P e ∨ Under s d e := by
  constructor
  · rintro (hP | hunder)
    · exact .inl hP
    · refine .inr ?_
      induction hunder with
      | self => exact .self
      | step _ hy hc ih =>
        rcases h.cases hy with ⟨-, hold⟩ | ⟨x, -, -, rfl⟩
        · exact ih.step hold hc
        · exact absurd hc List.not_mem_nil
  · rintro (hP | hunder)
    · exact .inl hP
    · induction hunder with
      | self => exact .inr .self
      | @step u c y _ hy hc ih =>
        by_cases hPu : P u
        · exact .inl (hclosed u y c hPu hy hc)
        · exact .inr ((ih.resolve_left hPu).step (h.kept u y hy hPu) hc)

/-- Destroying several views, whatever destroys one. -/
theorem destroyEach_leads {f : Nat → Act Ui Unit} {cs : List Nat} (h : Settled path s)
    (hf : ∀ c ∈ cs, ∀ t, Settled path t → t.ui.views.length = s.ui.views.length →
      Leads (f c) t fun _ u => Settled path u ∧ Torn (Under t c) t u) :
    Leads (cs.forM f) s fun _ t =>
      Settled path t ∧ Torn (fun e => ∃ c ∈ cs, Under s c e) s t := by
  refine leads_forM (fun before t => Settled path t ∧
    Torn (fun e => ∃ c ∈ before, Under s c e) s t) ⟨h, ?_⟩ ?_
  · exact (Torn.refl s).congr fun e _ => by simp
  · intro before c after t hcs ⟨ht, htorn⟩
    have hmem : c ∈ cs := by simp [hcs]
    refine (hf c hmem t ht htorn.length).mono fun _ u ⟨hu, hone⟩ => ⟨hu, ?_⟩
    refine (htorn.trans hone).congr fun e _ => ?_
    have hclosed (e : Nat) (y : View) (e' : Nat) (hP : ∃ c ∈ before, Under s c e)
        (hy : s.ui.views[e]? = some y) (he' : e' ∈ y.components) :
        ∃ c ∈ before, Under s c e' := by
      obtain ⟨c, hc, hunder⟩ := hP
      exact ⟨c, hc, hunder.step hy he'⟩
    rw [htorn.under_iff hclosed]
    simp only [List.mem_append, List.mem_singleton, or_and_right, exists_or, exists_eq_left]

/-! The widget of a view -/

/-- What is below the widget of a view is within the view. -/
theorem Settled.mem_path_of_subtree (h : Settled path s) (hx : s.ui.views[d]? = some x)
    (hw : x.root = some w) (hc : c ∈ s.ui.kit.subtree w) : d ∈ path c := by
  obtain ⟨ds, hown⟩ := h.own d x hx
  have hsuffix := h.toNested.suffix_of_mem_subtree hc
  rw [(hown w (.inl hw)).2] at hsuffix
  exact hsuffix.subset List.mem_cons_self

/-- What is below the widget of a view that owns no views is not in any other view. -/
theorem Settled.not_mem_subtree (h : Settled path s) (hx : s.ui.views[d]? = some x)
    (hcomponents : x.components = []) (hw : x.root = some w) (hy : s.ui.views[e]? = some y)
    (hne : e ≠ d) (hc : y.Owns c) : c ∉ s.ui.kit.subtree w := by
  intro hmem
  cases hr : y.root with
  | none =>
    rcases hc with hc | hc
    · rw [hr] at hc
      cases hc
    · rw [h.bare e y hy hr] at hc
      exact absurd hc List.not_mem_nil
  | some r =>
    obtain ⟨es, howns⟩ := h.own e y hy
    have hsame : path r = path c := (howns r (.inl hr)).2.trans (howns c hc).2.symm
    rcases h.mem_path hy hr (hsame ▸ h.mem_path_of_subtree hx hw hmem) with
      heq | ⟨x', c', -, hx', hc', -, -⟩
    · exact hne heq
    · obtain rfl := Option.some.inj (hx.symm.trans hx')
      rw [hcomponents] at hc'
      exact absurd hc' List.not_mem_nil

/-- A view that owns no views any more, and has no parts, goes with its widget. -/
theorem Settled.dropped (h : Settled path s) (hx : s.ui.views[d]? = some x)
    (hparts : x.parts = .none) (hcomponents : x.components = []) (hw : x.root = some w) :
    Settled path ((s.withKit (s.ui.kit.destroy w)).withView d View.uprooted) := by
  have hviews {e : Nat} {y : View}
      (hy : ((s.withKit (s.ui.kit.destroy w)).withView d View.uprooted).ui.views[e]? = some y) :
      e = d ∧ y = x.uprooted ∨ e ≠ d ∧ s.ui.views[e]? = some y :=
    withView_cases (s := s.withKit (s.ui.kit.destroy w)) hx hy
  refine { grown := h.grown.destroy w, stands := ?_, outer := h.outer, hangs := h.hangs, own := ?_,
           toForest := ?_, toFollowed := ?_, linked := ?_, bare := ?_ }
  · refine Toolkit.isAlive_destroy_iff.2 ⟨h.stands, fun hmem => ?_⟩
    have hd := h.mem_path_of_subtree hx hw hmem
    rw [h.outer] at hd
    exact absurd hd List.not_mem_nil
  · intro e y hy
    rcases hviews hy with ⟨rfl, rfl⟩ | ⟨hne, hy⟩
    · refine ⟨[], fun c hc => ?_⟩
      rcases hc with hc | hc
      · cases hc
      · rw [show (x.uprooted).parts = .none from hparts] at hc
        exact absurd hc List.not_mem_nil
    · obtain ⟨es, howns⟩ := h.own e y hy
      refine ⟨es, fun c hc => ⟨?_, (howns c hc).2⟩⟩
      exact Toolkit.isAlive_destroy_iff.2
        ⟨(howns c hc).1, h.not_mem_subtree hx hcomponents hw hy hne hc⟩
  · exact h.toForest.withView (s := s) hx (f := View.uprooted) (fun c hc => .inl hc) rfl rfl
  · have hfollowed := h.toFollowed.withView hx (f := View.uprooted) rfl rfl
    exact ⟨hfollowed.within, hfollowed.heard, hfollowed.looks⟩
  · intro e y r hy hr
    rcases hviews hy with ⟨rfl, rfl⟩ | ⟨hne, hy⟩
    · cases hr
    · rcases h.linked e y r hy hr with htop | ⟨u, z, r', hz, hr', hmem, heq⟩
      · exact .inl htop
      · have hud : u ≠ d := by
          rintro rfl
          obtain rfl := Option.some.inj (hx.symm.trans hz)
          rw [hcomponents] at hmem
          exact absurd hmem List.not_mem_nil
        exact .inr ⟨u, z, r', (withView_ne (s := s.withKit (s.ui.kit.destroy w)) _ hud).trans hz,
          hr', hmem, heq⟩
  · intro e y hy hr
    rcases hviews hy with ⟨rfl, rfl⟩ | ⟨-, hy⟩
    · exact hparts
    · exact h.bare e y hy hr

/-! A view with all that it owns -/

/-- A view has changed that keeps its widget, and all the mounted views that it owns. -/
theorem Settled.changed (h : Settled path s) (ht : Housed path t) (hx : s.ui.views[d]? = some x)
    {f : View → View} (hviews : t.ui.views = (s.withView d f).ui.views) (hroot : (f x).root = x.root)
    (hparts : x.parts = .none → (f x).parts = .none)
    (hcomponents : ∀ c ∈ x.components, c ∈ (f x).components ∨
      ∃ y, s.ui.views[c]? = some y ∧ y.root = none) : Settled path t where
  toHoused := ht
  linked := by
    intro e z w hz hw
    rw [hviews] at hz
    have hbefore : ∃ y, s.ui.views[e]? = some y ∧ y.root = some w := by
      rcases withView_cases hx hz with ⟨rfl, rfl⟩ | ⟨-, hold⟩
      · exact ⟨x, hx, hroot.symm.trans hw⟩
      · exact ⟨z, hold, hw⟩
    obtain ⟨y, hy, hyw⟩ := hbefore
    rcases h.linked e y w hy hyw with htop | ⟨u, o, r, ho, hr, hmem, hpath⟩
    · exact .inl htop
    · by_cases hu : u = d
      · subst hu
        obtain rfl := Option.some.inj (hx.symm.trans ho)
        refine .inr ⟨u, f x, r, ?_, hroot.trans hr, ?_, hpath⟩
        · rw [hviews]
          exact withView_self hx f
        · refine (hcomponents e hmem).resolve_right fun ⟨y', hy', hnone⟩ => ?_
          obtain rfl := Option.some.inj (hy.symm.trans hy')
          rw [hyw] at hnone
          cases hnone
      · refine .inr ⟨u, o, r, ?_, hr, hmem, hpath⟩
        rw [hviews, withView_ne f hu]
        exact ho
  bare := by
    intro e z hz hnone
    rw [hviews] at hz
    rcases withView_cases hx hz with ⟨rfl, rfl⟩ | ⟨-, hold⟩
    · exact hparts (h.bare e x hx (hroot.symm.trans hnone))
    · exact h.bare e z hold hnone

/-- A view that does not own any view any more. -/
def emptied (x : View) : View := { x with components := [] }

/-- A view lets go of what it owned, once none of that is mounted. -/
theorem Settled.emptied (h : Settled path s) (hx : s.ui.views[d]? = some x)
    (hcomponents : ∀ c ∈ x.components, ∃ y, s.ui.views[c]? = some y ∧ y.root = none) :
    Settled path (s.withView d emptied) := by
  obtain ⟨ds, hown⟩ := h.own d x hx
  have hhoused : Housed path (s.withView d Session.emptied) :=
    h.toHoused.withView hx (f := Session.emptied) hown (fun c hc => absurd hc List.not_mem_nil) rfl
      rfl rfl
  exact h.changed hhoused hx rfl rfl id fun c hc => .inr (hcomponents c hc)

/-- View `d` has let go of what it owned and of its widget, which has been destroyed with the widgets
`ws` below it; nothing else has changed. -/
structure LetGo (d : Nat) (x : View) (ws : List Nat) (s t : Session Ui) : Prop where
  self : t.ui.views[d]? = some x.ended
  others : ∀ e, e ≠ d → t.ui.views[e]? = s.ui.views[e]?
  length : t.ui.views.length = s.ui.views.length
  widgets : t.ui.kit.widgets = s.ui.kit.widgets
  destroyed : t.ui.kit.destroyed = s.ui.kit.destroyed ++ ws
  gone : ∀ w, x.root = some w → w ∈ ws

/-- The last steps of destroying a view, once what it owns has been destroyed. -/
def lettingGo (d : Nat) (root : Option Nat) (s : Session Ui) : Session Ui :=
  match root with
  | some w => ((s.withView d emptied).withKit (s.ui.kit.destroy w)).withView d View.uprooted
  | none => s.withView d emptied

theorem exec_lettingGo (d : Nat) (root : Option Nat) (s : Session Ui) :
    exec (do
      updateView d fun x => { x with components := [] }
      match root with
      | some root => do
        destroyWidget root
        updateView d fun x => { x with root := none }
      | none => pure ()) s = (.ok ⟨⟩, lettingGo d root s) := by
  cases root <;> rfl

theorem letGo_lettingGo (hx : s.ui.views[d]? = some (partless x)) (hgrown : s.ui.kit.Grown)
    (halive : ∀ w, x.root = some w → s.ui.kit.isAlive w = true) :
    LetGo d x (x.root.elim [] s.ui.kit.subtree) s (lettingGo d x.root s) := by
  have hx₁ : (s.withView d emptied).ui.views[d]? = some (emptied (partless x)) :=
    withView_self hx emptied
  cases hroot : x.root with
  | none =>
    refine ⟨?_, fun e he => withView_ne emptied he, length_withView _ _ _, rfl,
      (List.append_nil _).symm, fun w hw => ?_⟩
    · refine hx₁.trans (congrArg some ?_)
      simp [emptied, partless, View.ended, hroot]
    · rw [hroot] at hw
      cases hw
  | some w =>
    let s₁ : Session Ui := (s.withView d emptied).withKit (s.ui.kit.destroy w)
    have hviews : (s₁.withView d View.uprooted).ui.views =
        ((s.withView d emptied).withView d View.uprooted).ui.views := rfl
    refine ⟨withView_self (s := s₁) hx₁ View.uprooted, fun e he => ?_, ?_, rfl,
      Toolkit.destroyed_destroy _ w, fun w' hw' => ?_⟩
    · exact (withView_ne (s := s₁) View.uprooted he).trans (withView_ne emptied he)
    · exact (length_withView s₁ d View.uprooted).trans (length_withView s d emptied)
    · obtain rfl := Option.some.inj (hroot.symm.trans hw')
      exact Toolkit.self_mem_subtree hgrown (halive w hroot)

theorem Settled.lettingGo (h : Settled path s) (hx : s.ui.views[d]? = some (partless x))
    (hcomponents : ∀ c ∈ x.components, ∃ y, s.ui.views[c]? = some y ∧ y.root = none) :
    Settled path (lettingGo d x.root s) := by
  have h₁ : Settled path (s.withView d Session.emptied) := h.emptied hx hcomponents
  cases hroot : x.root with
  | none => exact h₁
  | some w => exact h₁.dropped (withView_self hx Session.emptied) rfl rfl hroot

/-- A view that is retired is destroyed once all that it owns is, and then its widget. -/
theorem Torn.owner {s₁ s₂ : Session Ui} (h : Torn P s₁ s₂) (hx : s.ui.views[d]? = some x)
    (hretired : s₁.ui.views = (s.withView d partless).ui.views)
    (hwidgets₁ : s₁.ui.kit.widgets = s.ui.kit.widgets)
    (hdestroyed₁ : s₁.ui.kit.destroyed = s.ui.kit.destroyed)
    {ws : List Nat} (hlast : LetGo d x ws s₂ t) : Torn (fun e => e = d ∨ P e) s t := by
  have hsame {e : Nat} (he : e ≠ d) : s₁.ui.views[e]? = s.ui.views[e]? := by
    rw [hretired, withView_ne _ he]
  have hprefix : s₂.ui.kit.destroyed <+: t.ui.kit.destroyed := ⟨ws, hlast.destroyed.symm⟩
  refine ⟨?_, fun e y hy hPe => ?_, fun e y hy hPe => ?_, ?_, ?_, fun e y w hy hw hPe => ?_⟩
  · rw [hlast.length, h.length, hretired, length_withView]
  · by_cases he : e = d
    · subst he
      obtain rfl := Option.some.inj (hx.symm.trans hy)
      exact hlast.self
    · rw [hlast.others e he]
      exact h.ended e y ((hsame he).trans hy) (hPe.resolve_left he)
  · have he : e ≠ d := fun he => hPe (.inl he)
    rw [hlast.others e he]
    exact h.kept e y ((hsame he).trans hy) fun hP => hPe (.inr hP)
  · rw [hlast.widgets, h.widgets, hwidgets₁]
  · have hsince := h.destroyed.trans hprefix
    rwa [hdestroyed₁] at hsince
  · by_cases he : e = d
    · subst he
      obtain rfl := Option.some.inj (hx.symm.trans hy)
      rw [hlast.destroyed]
      exact List.mem_append_right _ (hlast.gone w hw)
    · exact hprefix.subset (h.gone e y w ((hsame he).trans hy) hw (hPe.resolve_left he))

theorem destroyDeep_leads (fuel : Nat) : ∀ (d : Nat) (s : Session Ui), Settled path s →
    s.ui.views.length ≤ d + fuel →
    Leads (destroyDeep fuel d) s fun _ t => Settled path t ∧ Torn (Under s d) s t := by
  -- Where there is no view there is nothing to do.
  have hnothing {d : Nat} {s : Session Ui} (h : Settled path s) (hd : s.ui.views.length ≤ d) :
      Torn (Under s d) s s := by
    refine (Torn.refl s).congr fun e he => iff_of_false id fun hunder => ?_
    have hlt : e < s.ui.views.length := by simpa using he
    exact absurd (Under.le h.toForest hunder) (by omega)
  induction fuel with
  | zero => exact fun d s h hd => leads_pure ⟨h, hnothing h hd⟩
  | succ fuel ih =>
    intro d s h hd
    refine leads_bind_eq (exec_view? d s) ?_
    split
    next hnone => exact leads_pure ⟨h, hnothing h (List.getElem?_eq_none_iff.1 hnone)⟩
    next x hx =>
    refine leads_bind (retire_leads h.toHoused hx) fun _ s₁ ⟨hhoused₁, hviews₁, hwidgets₁, hgone₁⟩ => ?_
    have hlength₁ : s₁.ui.views.length = s.ui.views.length := by
      rw [hviews₁, length_withView]
    have h₁ : Settled path s₁ :=
      h.changed hhoused₁ hx hviews₁ rfl (fun _ => rfl) fun c hc => .inl hc
    have hlater (c : Nat) (hc : c ∈ x.components) : d < c ∧ c < s.ui.views.length :=
      h.later d x hx c hc
    refine leads_bind (destroyEach_leads h₁ (f := destroyDeep fuel) fun c hc t ht htlength => ?_)
      fun _ s₂ ⟨h₂, htorn⟩ => ?_
    · refine ih c t ht ?_
      have hdc := (hlater c hc).1
      omega
    -- All that view `d` owned has been destroyed, and the view itself has not changed.
    have hx₂ : s₂.ui.views[d]? = some (partless x) := by
      refine htorn.kept d (partless x) ?_ fun ⟨c, hc, hunder⟩ => ?_
      · rw [hviews₁]
        exact withView_self hx partless
      · have hcd := Under.le h₁.toForest hunder
        exact absurd (hlater c hc).1 (by omega)
    have hended (c : Nat) (hc : c ∈ x.components) : ∃ y, s₂.ui.views[c]? = some y ∧ y.root = none :=
      have hlt : c < s₁.ui.views.length := hlength₁ ▸ (hlater c hc).2
      ⟨_, htorn.ended c _ (List.getElem?_eq_getElem hlt) ⟨c, hc, .self⟩, rfl⟩
    obtain ⟨ds, hown⟩ := h₂.own d _ hx₂
    have hlast := letGo_lettingGo hx₂ h₂.grown fun w hw => (hown w (.inl hw)).1
    refine ⟨⟨⟩, _, exec_lettingGo d x.root s₂, h₂.lettingGo hx₂ hended, ?_⟩
    have hunder₁ (c e : Nat) : Under s₁ c e ↔ Under s c e := by
      refine under_congr fun e => ?_
      rw [hviews₁, getElem?_withView]
      split
      · rw [Option.map_map]
        rfl
      · rfl
    refine (htorn.owner hx hviews₁ hwidgets₁ hgone₁ hlast).congr fun e _ => ?_
    rw [under_iff hx]
    simp only [hunder₁]

/-- Destroying a view takes its widget and all the views that it owns, directly or not, and leaves
every other view as it was. -/
theorem destroy_leads (h : Settled path s) (d : Nat) :
    Leads (destroy d) s fun _ t => Settled path t ∧ Torn (Under s d) s t := by
  have hdepth : exec depth s = (.ok (s.ui.views.length + 1), s) := rfl
  exact leads_bind_eq hdepth (destroyDeep_leads _ d s h (by omega))

/-- The views that a view owns are destroyed, and it owns none any more. -/
theorem clearComponents_leads (h : Settled path s) (hx : s.ui.views[v]? = some x) :
    Leads (clearComponents v) s fun _ t => Settled path t ∧ ∃ u,
      Torn (fun e => ∃ c ∈ x.components, Under s c e) s u ∧
      t = u.withView v emptied := by
  refine leads_bind_eq (exec_view? v s) ?_
  rw [hx]
  refine leads_bind (destroyEach_leads h fun c _ t ht _ => destroy_leads ht c)
    fun _ u ⟨hu, htorn⟩ => ?_
  have hxu : u.ui.views[v]? = some x := by
    refine htorn.kept v x hx fun ⟨c, hc, hunder⟩ => ?_
    have hcv := Under.le h.toForest hunder
    exact absurd (h.later v x hx c hc).1 (by omega)
  have hsettled : Settled path (u.withView v emptied) := by
    refine hu.emptied hxu fun c hc => ?_
    have hlt : c < s.ui.views.length := (h.later v x hx c hc).2
    exact ⟨_, htorn.ended c _ (List.getElem?_eq_getElem hlt) ⟨c, hc, .self⟩, rfl⟩
  exact ⟨⟨⟩, _, rfl, hsettled, u, htorn, rfl⟩

end Session
end RemoteScreen
