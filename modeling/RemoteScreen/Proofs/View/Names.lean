import RemoteScreen.Payload.Decode
import RemoteScreen.Proofs.View.Succession

/-! What views are called. The id of a descriptor is the id of its renderable and of every view that
is made for that, wherever it stands in the tree; only where it is empty is an id made up instead.
-/
namespace RemoteScreen

open Session

variable {s t u : Session Ui} {x y : View} {r : Renderable} {d : Descriptor} {base c e v n : Nat}

/-! What a rendering keeps -/

namespace Render

/-- A descriptor and what has been rendered for it. They have the same id, and a carousel or a row
has one renderable for each child, in order, for which the same holds. -/
inductive Echoes : Descriptor → Renderable → Prop
  | leaf {d : Descriptor} {r : Renderable} (id : r.id = d.id) (visible : r.visible = r)
      (leaf : ViewKind.ofRenderable r ≠ .carousel ∧ ViewKind.ofRenderable r ≠ .hscroll) : Echoes d r
  | node {d : Descriptor} {r : Renderable} (id : r.id = d.id) (visible : r.visible = r)
      (below : List.Forall₂ Echoes d.childList r.children) : Echoes d r

theorem Echoes.id (h : Echoes d r) : r.id = d.id := by
  cases h with
  | leaf id => exact id
  | node id => exact id

theorem Echoes.visible (h : Echoes d r) : r.visible = r := by
  cases h with
  | leaf _ visible => exact visible
  | node _ visible => exact visible

variable {υ : Type}

theorem render_echoes (st : Strategy) (d : Descriptor) (c : Context)
    {children : Context → Act υ (List Renderable)}
    (hchildren : ∀ c, Gives (children c) (List.Forall₂ Echoes d.childList)) :
    Gives (st.render d c children) (Echoes d) := by
  unfold Strategy.render
  split
  · exact gives_fail _ _
  · split
    · exact gives_pure (.leaf rfl rfl (by simp [ViewKind.ofRenderable]))
    · exact gives_after fun n => gives_pure (.leaf rfl rfl (by simp [ViewKind.ofRenderable]))
    · exact gives_pure (.leaf rfl rfl (by simp [ViewKind.ofRenderable]))
    · exact gives_pure (.leaf rfl rfl (by simp [ViewKind.ofRenderable]))
    · exact gives_bind (hchildren _) fun pages hpages => gives_pure (.node rfl rfl hpages)
    · refine gives_bind (hchildren _) fun shown hshown => gives_pure (.node rfl rfl ?_)
      rw [Renderable.children, contents_slots hshown.length_eq.symm]
      exact hshown
    · exact gives_fail _ _

theorem echoes_compositional (reg : Registry Strategy) :
    Compositional (υ := υ) reg (fun d _ m => Gives m (Echoes d))
      (fun ds _ m => Gives m (List.Forall₂ Echoes ds)) where
  node d c children hchildren := gives_dispatchWith (fun st => render_echoes st d c hchildren)
    (.leaf rfl rfl (by simp [ViewKind.ofRenderable]))
  nil _ := gives_pure .nil
  cons _ _ _ _ _ hm hms :=
    gives_bind hm fun _ hr => gives_bind hms fun _ hrs => gives_pure (.cons hr hrs)

end Render

open Render (Echoes)

theorem Renderer.render_echoes {υ : Type} (r : Renderer) (ds : List Descriptor)
    (pass : Option Pass) : Gives (r.render ds pass : Act υ (List Renderable))
      (List.Forall₂ Echoes ds) :=
  r.render_gives ((Render.echoes_compositional r.registry).dispatchList ds (r.context pass))

namespace Session

/-! What views are called -/

/-- Every view that shows a renderable is called after it. -/
def Named (s : Session Ui) : Prop :=
  ∀ x ∈ s.ui.views, ∀ r, x.renderable = some r → Called r.id x.id

theorem Named.congr (h : Named s) (hviews : t.ui.views = s.ui.views) : Named t := by
  unfold Named
  rw [hviews]
  exact h

instance : ViewChanges (Stays Named) where
  Own _ := True
  log _ _ _ _ h := h.congr rfl
  addRegion _ _ h := h.congr rfl
  subscribe _ _ _ h := h.congr rfl
  unsubscribe _ _ _ h := h.congr rfl
  addWidget _ _ h := h.congr rfl
  own_create := gives_created
  updateWidget _ _ _ h := h.congr rfl
  destroyWidget _ _ _ h := h.congr rfl
  addErrand _ _ _ h := h.congr rfl
  addView x _ hx s h := by
    intro y hy r hr
    rcases List.mem_append.1 hy with hold | hnew
    · exact h y hold r hr
    · obtain rfl := List.mem_singleton.1 hnew
      exact hx r hr
  updateView v f _ hf s h := by
    intro y hy r hr
    obtain ⟨u, hu⟩ := List.mem_iff_getElem?.1 hy
    rw [next, exec_updateView, getElem?_withView] at hu
    split at hu
    · obtain ⟨x, hx, rfl⟩ := Option.map_eq_some_iff.1 hu
      rw [(hf x).1]
      exact h x (List.mem_of_getElem? hx) r ((hf x).2.1 ▸ hr)
    · exact h y (List.mem_of_getElem? hu) r hr
  own_root _ _ _ _ _ h := h fun _ _ => trivial
  named _ _ h := h.congr rfl
  startPolling _ _ _ h := h.congr rfl
  stopPolling _ _ _ h := h.congr rfl
  forgetPolling _ h := h.congr rfl

theorem showResponse_named (response : Response) :
    Keeps (Stays Named) (showResponse response) := by
  have hdrop : Keeps (Stays Named) dropQueuedImages := by
    intro s h
    obtain ⟨a, -, l, j, ht⟩ := (dropQueuedImages_leads s).next
    rw [ht]
    exact h.congr rfl
  refine keeps_showResponse hdrop (fun s h => h.congr rfl) (fun f s h => h.congr rfl) ?_ response
  exact fun r ds pass => (Renderer.render_bears r ds pass).keeps.mono fun _ _ k h =>
    h.congr (by rw [k.ui])

theorem Named.step (h : Named s) (hs : OnScreen base v s) {step : DisplayStep}
    (hstep : step.OfScreen base s) : Named (next step.act s) := by
  cases step with
  | response response =>
    rw [DisplayStep.act, next_discard]
    exact showResponse_named response s h
  | mount c q => exact keeps_mount (R := Stays Named) c q s h
  | page c i => exact keeps_showPage (R := Stays Named) c i s h
  | turn c forward => exact keeps_turnPage (R := Stays Named) c forward s h
  | resolve n image =>
    rw [DisplayStep.act, next_discard]
    obtain ⟨_, -, -, -, -, hviews, -⟩ :=
      (hs.display.settle n fun _ _ => listeners_resolve? image).next
    exact h.congr hviews
  | fail n =>
    rw [DisplayStep.act, next_discard]
    obtain ⟨_, -, -, -, -, hviews, -⟩ := (hs.display.settle n fun _ _ => listeners_fail?).next
    exact h.congr hviews
  | region url => exact hstep.elim
  | make r packing => exact hstep.elim
  | destroy c => exact hstep.elim

theorem Named.run (h : Named s) (hs : OnScreen base v s) {steps : List DisplayStep}
    (hsteps : Along (DisplayStep.OfScreen base) s steps) : Named (runDisplay s steps) := by
  have hstep (s : Session Ui) (step : DisplayStep) (h : OnScreen base v s ∧ Named s)
      (hstep : step.OfScreen base s) :
      OnScreen base v (next step.act s) ∧ Named (next step.act s) :=
    ⟨(h.1.step hstep).screen, h.2.step h.1 hstep⟩
  exact (hsteps.run hstep ⟨hs, h⟩).2

/-! Trees of views -/

/-- View `c` is called after a descriptor. If it is a row, it owns one view for each child of the
descriptor, in order, and if it is a carousel, one for the child at its page, for which the same
holds. -/
inductive Titled (t : Session Ui) : Descriptor → Nat → Prop
  | leaf {d : Descriptor} {c : Nat} {y : View} (view : t.ui.views[c]? = some y)
      (called : Called d.id y.id) (kind : y.kind ≠ .carousel ∧ y.kind ≠ .hscroll)
      (alone : y.components = []) : Titled t d c
  | row {d : Descriptor} {c : Nat} {y : View} (view : t.ui.views[c]? = some y)
      (called : Called d.id y.id) (kind : y.kind = .hscroll)
      (slots : List.Forall₂ (Titled t) d.childList y.components) : Titled t d c
  | page {d : Descriptor} {c : Nat} {y : View} (view : t.ui.views[c]? = some y)
      (called : Called d.id y.id) (kind : y.kind = .carousel)
      (page : List.Forall₂ (Titled t) d.childList[y.index]?.toList y.components) : Titled t d c

theorem forall₂_comp {α β γ : Type} {R : α → β → Prop} {S : β → γ → Prop} {as : List α}
    {bs : List β} {cs : List γ} (h : List.Forall₂ R as bs) (k : List.Forall₂ S bs cs) :
    List.Forall₂ (fun a c => ∃ b, R a b ∧ S b c) as cs := by
  induction h generalizing cs with
  | nil =>
    cases k
    exact .nil
  | cons hab _ ih =>
    cases k with
    | cons hbc hrest => exact .cons ⟨_, hab, hbc⟩ (ih hrest)

/-- What is owned is titled if all is that shows what has been rendered for a descriptor. -/
theorem titled_of_presents {ds : List Descriptor} {rs : List Renderable} {cs : List Nat}
    (hds : List.Forall₂ Echoes ds rs) (hrs : List.Forall₂ (Presents t) rs cs)
    (hcs : ∀ c ∈ cs, ∀ y r d, t.ui.views[c]? = some y → y.root.isSome = true →
      y.renderable = some r → Echoes d r → Titled t d c) : List.Forall₂ (Titled t) ds cs := by
  refine forall₂_of_mem (forall₂_comp hds hrs) fun c hc d ⟨r, hd, y, hy, hsome, hr⟩ => ?_
  rw [hd.visible] at hr
  exact hcs c hc y r d hy hsome hr hd

theorem forall₂_toList {α β : Type} {R : α → β → Prop} {as : List α} {bs : List β}
    (h : List.Forall₂ R as bs) (i : Nat) : List.Forall₂ R as[i]?.toList bs[i]?.toList := by
  induction h generalizing i with
  | nil => exact .nil
  | cons hab _ ih =>
    cases i with
    | zero => exact .cons hab .nil
    | succ i => exact ih i

/-- A mounted view is titled by the descriptor for which its renderable has been rendered. The
induction goes down the tree, where the numbers of views grow. -/
theorem OnScreen.titled (h : OnScreen base v s) (hnamed : Named s) (hy : s.ui.views[e]? = some y)
    (hsome : y.root.isSome = true) (hr : y.renderable = some r) (hd : Echoes d r) :
    Titled s d e := by
  obtain ⟨path, hpath, -⟩ := h.display.settled
  induction hn : s.ui.views.length - e using Nat.strongRecOn generalizing e y r d with
  | ind n ih =>
    have hlt : e < s.ui.views.length := (List.getElem?_eq_some_iff.1 hy).1
    have hne : e ≠ v := by
      rintro rfl
      rw [(h.nothing_shown hy).2] at hr
      cases hr
    have hcomplete := h.display.standing.complete e y hy hsome hne (by rw [hr]; rfl)
    rw [Complete, View.content, hr] at hcomplete
    have hbelow : ∀ c ∈ y.components, ∀ z r d, s.ui.views[c]? = some z → z.root.isSome = true →
        z.renderable = some r → Echoes d r → Titled s d c := by
      intro c hc z r d hz hzsome hzr hd
      have hlater := hpath.toForest.later e y hy c hc
      exact ih (s.ui.views.length - c) (by omega) hz hzsome hzr hd rfl
    have hkind : y.kind = .ofRenderable r := by
      rcases hpath.toForest.sort y (List.mem_of_getElem? hy) with ⟨-, hnone⟩ | ⟨r', hr', hkind⟩
      · rw [hnone] at hr
        cases hr
      · obtain rfl := Option.some.inj (hr.symm.trans hr')
        rw [hkind]
        cases r' <;> rfl
    have hcalled := hnamed y (List.mem_of_getElem? hy) r hr
    cases hd with
    | leaf hid _ hleaf =>
      rw [hid] at hcalled
      rw [← hkind] at hleaf
      refine .leaf hy hcalled hleaf ?_
      cases r with
      | carousel => exact absurd hkind hleaf.1
      | hscroll => exact absurd hkind hleaf.2
      | _ => exact List.forall₂_nil_left_iff.1 hcomplete
    | node hid _ hchildren =>
      rw [hid] at hcalled
      cases r with
      | carousel id title pages height =>
        exact .page hy hcalled hkind
          (titled_of_presents (forall₂_toList hchildren y.index) hcomplete hbelow)
      | hscroll id title slots spacing =>
        exact .row hy hcalled hkind (titled_of_presents hchildren hcomplete hbelow)
      | _ =>
        refine .leaf hy hcalled ?_ (List.forall₂_nil_left_iff.1 hcomplete)
        rw [hkind]
        simp [ViewKind.ofRenderable]

/-- A descriptor that is one of these or stands below one of them. -/
inductive Within (ds : List Descriptor) : Descriptor → Prop
  | root {d : Descriptor} (h : d ∈ ds) : Within ds d
  | child {d c : Descriptor} (h : Within ds d) (hc : c ∈ d.childList) : Within ds c

/-- What a titled view owns is titled by the children of its descriptor. -/
theorem Titled.owned {ds : List Descriptor} (h : Titled t d e) (hd : Within ds d)
    (hy : t.ui.views[e]? = some y) (hc : c ∈ y.components) :
    ∃ d', Within ds d' ∧ Titled t d' c := by
  have hmem {ds' : List Descriptor} (hsub : ∀ d' ∈ ds', d' ∈ d.childList)
      (hall : List.Forall₂ (Titled t) ds' y.components) : ∃ d', Within ds d' ∧ Titled t d' c := by
    obtain ⟨d', hd', htitled⟩ := forall₂_exists_of_mem hall hc
    exact ⟨d', hd.child (hsub d' hd'), htitled⟩
  cases h with
  | leaf view _ _ alone =>
    obtain rfl := Option.some.inj (hy.symm.trans view)
    rw [alone] at hc
    exact absurd hc List.not_mem_nil
  | row view _ _ slots =>
    obtain rfl := Option.some.inj (hy.symm.trans view)
    exact hmem (fun _ h => h) slots
  | page view _ _ page =>
    obtain rfl := Option.some.inj (hy.symm.trans view)
    exact hmem (fun d' h => List.mem_of_getElem? (Option.mem_toList.1 h)) page

/-- Where a view owns what is titled by some descriptors, all below it is titled by one of these or
by one below them. -/
theorem Under.titled {ds : List Descriptor} (h : Under t v e) (hx : t.ui.views[v]? = some x)
    (hds : List.Forall₂ (Titled t) ds x.components) (hne : e ≠ v) :
    ∃ d, Within ds d ∧ Titled t d e := by
  induction h with
  | self => exact absurd rfl hne
  | @step b c y _ hy hc ih =>
    by_cases hb : b = v
    · subst hb
      obtain rfl := Option.some.inj (hx.symm.trans hy)
      obtain ⟨d, hd, htitled⟩ := forall₂_exists_of_mem hds hc
      exact ⟨d, .root hd, htitled⟩
    · obtain ⟨d, hd, htitled⟩ := ih hb
      exact htitled.owned hd hy hc

/-! The screen -/

/-- The ids of the views on the screen. -/
def screenIds (t : Session Ui) : List (Option String) :=
  (((t.ui.views[t.ui.screen.view]?).map View.components).getD []).map fun c =>
    (t.ui.views[c]?).map View.id

/-- The screen owns one view for each root, called after it; and when it is mounted, all that is
mounted on it is titled by the response. -/
structure Headed (response : Response) (t : Session Ui) : Prop where
  roots : List.Forall₂ (fun d id => ∃ name, id = some name ∧ Called d.id name) response.components
    (screenIds t)
  trees : ∀ x, t.ui.views[t.ui.screen.view]? = some x → x.isMounted = true →
    List.Forall₂ (Titled t) response.components x.components
  mounted : ∀ e y, t.ui.views[e]? = some y → y.isMounted = true → e ≠ t.ui.screen.view →
    ∃ d, Within response.components d ∧ Titled t d e

/-- The screen owns one view for each of these descriptors, in order, which shows what has been
rendered for it. -/
def Carries (ds : List Descriptor) (s : Session Ui) : Prop :=
  ∃ x, s.ui.views[s.ui.screen.view]? = some x ∧ List.Forall₂ (fun d c =>
    ∃ y r, s.ui.views[c]? = some y ∧ y.renderable = some r ∧ Echoes d r) ds x.components

theorem Carries.headed {response : Response} (hcarries : Carries response.components s)
    (h : OnScreen base v s) (hnamed : Named s) : Headed response s := by
  obtain ⟨x, hx, hall⟩ := hcarries
  have htrees (hmounted : x.root.isSome = true) :
      List.Forall₂ (Titled s) response.components x.components := by
    refine forall₂_of_mem hall fun c hc d ⟨y, r, hy, hr, hd⟩ => ?_
    obtain ⟨z, hz, hsome⟩ := h.mounted x (h.view ▸ hx) hmounted c hc
    obtain rfl := Option.some.inj (hy.symm.trans hz)
    exact h.titled hnamed hy hsome hr hd
  refine ⟨?_, fun x' hx' hmounted => ?_, fun e y hy hsome hne => ?_⟩
  · rw [screenIds, hx]
    refine List.forall₂_map_right_iff.2 (hall.imp fun d c ⟨y, r, hy, hr, hd⟩ => ?_)
    have hcalled := hnamed y (List.mem_of_getElem? hy) r hr
    exact ⟨y.id, congrArg (Option.map View.id) hy, hd.id ▸ hcalled⟩
  · obtain rfl := Option.some.inj (hx.symm.trans hx')
    exact htrees hmounted
  · rw [h.view] at hne hx
    obtain ⟨hunder, x', hx', hsome'⟩ := h.display.under hy hsome
    obtain rfl := Option.some.inj (hx.symm.trans hx')
    exact hunder.titled hx' (htrees hsome') hne

/-- A response that has been rendered and shown. -/
theorem OnScreen.carries (h : OnScreen base v s) {response : Response} {out : List Renderable}
    (hexec : exec (showResponse response) s = (.ok out, t)) : Carries response.components t := by
  obtain ⟨r, t', hexec', ht, ⟨u, w, -, hrender⟩, hok⟩ := h.response response
  obtain ⟨rfl, rfl⟩ := Prod.mk.inj (hexec.symm.trans hexec')
  have hechoes := Renderer.render_echoes _ _ _ _ _ _ hrender
  obtain ⟨x, hx, -⟩ := h.screen
  rw [← h.view] at hx
  obtain ⟨cs, hcs, -, -, hall⟩ := ((hok out rfl).stack x hx).view
  rw [h.view, ← ht.screen.view] at hcs
  refine ⟨_, hcs, (forall₂_comp hechoes hall).imp fun d c ⟨r, hd, htaken⟩ => ?_⟩
  obtain ⟨y, hy, hshown⟩ := htaken.shown
  exact ⟨y, r, hy, hd.visible ▸ hshown, hd⟩

/-- A step that shows no response. -/
def DisplayStep.Quiet (step : DisplayStep) : Prop := ∀ response, step ≠ .response response

/-- Without another response the screen owns the same views. -/
theorem OnScreen.owns (h : OnScreen base v s) {step : DisplayStep}
    (hstep : step.OfScreen base s) (hquiet : step.Quiet) (hx : s.ui.views[v]? = some x) :
    ∃ y, (next step.act s).ui.views[v]? = some y ∧ y.components = x.components := by
  have hturned {m : Act Ui Unit} {c : Nat} (hc : c ≠ s.ui.screen.view)
      (hmounted : (s.ui.views[c]?).map View.isMounted = some true)
      (hm : Leads m s fun _ t => Turned c s t) :
      ∃ y, (next m s).ui.views[v]? = some y ∧ y.components = x.components := by
    obtain ⟨_, -, ht⟩ := hm.next
    exact ⟨x, ht.others v x hx (h.beside hc hmounted).1, rfl⟩
  cases step with
  | response response => exact absurd rfl (hquiet response)
  | mount c q =>
    obtain ⟨rfl, z, hz, hmount⟩ := h.mount_leads hstep
    obtain rfl := Option.some.inj (hx.symm.trans hz)
    obtain ⟨_, -, -, -, -, w, -, hxt, -⟩ := hmount.next
    exact ⟨_, hxt, rfl⟩
  | page c i => exact hturned hstep.1 hstep.2 ((h.display.page c i).mono fun _ _ ht => ht.2.2.2)
  | turn c forward =>
    exact hturned hstep.1 hstep.2 ((h.display.turn c forward).mono fun _ _ ht => ht.2.2.2)
  | resolve n image =>
    obtain ⟨_, -, -, -, -, hviews, -⟩ :=
      (h.display.settle n fun _ _ => listeners_resolve? image).next
    rw [DisplayStep.act, next_discard]
    exact ⟨x, hviews ▸ hx, rfl⟩
  | fail n =>
    obtain ⟨_, -, -, -, -, hviews, -⟩ := (h.display.settle n fun _ _ => listeners_fail?).next
    rw [DisplayStep.act, next_discard]
    exact ⟨x, hviews ▸ hx, rfl⟩
  | region url => exact hstep.elim
  | make r packing => exact hstep.elim
  | destroy c => exact hstep.elim

theorem Carries.step {ds : List Descriptor} (hcarries : Carries ds s) (h : OnScreen base v s)
    {step : DisplayStep} (hstep : step.OfScreen base s) (hquiet : step.Quiet) :
    Carries ds (next step.act s) := by
  obtain ⟨x, hx, hall⟩ := hcarries
  rw [h.view] at hx
  obtain ⟨y, hy, hcomponents⟩ := h.owns hstep hquiet hx
  have honward := h.step hstep
  refine ⟨y, honward.screen.view.symm ▸ hy, ?_⟩
  rw [hcomponents]
  refine hall.imp fun d c ⟨z, r, hz, hr, hd⟩ => ?_
  obtain ⟨z', hz', -, hsame⟩ := honward.lasting.views c z hz
  exact ⟨z', r, hz', hsame.trans hr, hd⟩

theorem Carries.run {ds : List Descriptor} (hcarries : Carries ds s) (h : OnScreen base v s)
    {steps : List DisplayStep} (hsteps : Along (DisplayStep.OfScreen base) s steps)
    (hquiet : ∀ step ∈ steps, step.Quiet) : Carries ds (runDisplay s steps) := by
  induction steps generalizing s with
  | nil => exact hcarries
  | cons step steps ih =>
    obtain ⟨hfirst, hrest⟩ := hsteps
    obtain ⟨hquiet₁, hquiets⟩ := List.forall_mem_cons.1 hquiet
    exact ih (hcarries.step h hfirst hquiet₁) (h.step hfirst).screen hrest hquiets

/-- Ids that are not empty are kept. -/
theorem Headed.ids {response : Response} (h : Headed response t)
    (hids : ∀ d ∈ response.components, d.id ≠ "") :
    screenIds t = response.components.map fun d => some d.id := by
  have hroots := h.roots
  generalize response.components = ds, screenIds t = ids at hids hroots ⊢
  induction hroots with
  | nil => rfl
  | cons hid _ ih =>
    obtain ⟨hd, hds⟩ := List.forall_mem_cons.1 hids
    obtain ⟨name, rfl, hcalled⟩ := hid
    rw [Called, if_neg hd] at hcalled
    rw [List.map_cons, ih hds, hcalled]

/-- Ids reach the views. Whatever has been shown before, a response whose rendering comes to an end
is shown. However the screen is mounted and its pages are turned from then on, until another
response is shown its views are called after the roots of this one, in order, and when it is mounted
every row and every carousel has its views called after the children of its descriptor. An id that
is not empty is kept, so that showing the response again gives the same ids; where it is empty, one
is made up. -/
theorem response_titles_views {s₀ : Session Ui} (h₀ : Idle s₀) (hnamed : Named s₀)
    (hscreen : (s₀.ui.views[s₀.ui.screen.view]?).map View.kind = some .screen)
    (hpass : s₀.ui.screen.pass = none) {steps : List DisplayStep}
    (hsteps : Along (DisplayStep.OfScreen s₀.ui.kit.widgets.length) s₀ steps)
    (response : Response) :
    (s₀.ui.screen.renderer.registry.fallback.Reliable → s₀.ui.screen.renderer.images.Willing →
      s₀.telemetry.Paced → Descriptor.nodesList response.components < 2 ^ 1023 →
      ∃ out t, exec (showResponse response) (runDisplay s₀ steps) = (.ok out, t)) ∧
    ∀ out t, exec (showResponse response) (runDisplay s₀ steps) = (.ok out, t) →
      ∀ later, Along (DisplayStep.OfScreen s₀.ui.kit.widgets.length) t later →
        ((∀ step ∈ later, step.Quiet) → Headed response (runDisplay t later)) ∧
        ∀ out' t', exec (showResponse response) (runDisplay t later) = (.ok out', t') →
          Headed response t' ∧ ((∀ d ∈ response.components, d.id ≠ "") →
            screenIds t = response.components.map (fun d => some d.id) ∧
            screenIds t' = screenIds t) := by
  have hstart := h₀.onScreen hscreen hpass
  have honward := hstart.run hsteps
  have hrun := honward.screen
  have hrunnamed := hnamed.run hstart hsteps
  refine ⟨honward.shows, fun out t hexec later hlater => ?_⟩
  obtain ⟨r, u, hexec'', ht, -⟩ := hrun.response response
  obtain ⟨rfl, rfl⟩ := Prod.mk.inj (hexec.symm.trans hexec'')
  have hnamedt := showResponse_named response _ hrunnamed
  rw [next, hexec] at hnamedt
  have hcarries := hrun.carries hexec
  have hafter := (ht.screen.run hlater).screen
  have hnamedafter := hnamedt.run ht.screen hlater
  refine ⟨fun hquiet => (hcarries.run ht.screen hlater hquiet).headed hafter hnamedafter,
    fun out' t' hexec' => ?_⟩
  obtain ⟨r', u', hexec'', ht', -⟩ := hafter.response response
  obtain ⟨rfl, rfl⟩ := Prod.mk.inj (hexec'.symm.trans hexec'')
  have hnamedt' := showResponse_named response _ hnamedafter
  rw [next, hexec'] at hnamedt'
  have hheaded := hcarries.headed ht.screen hnamedt
  have hagain := (hafter.carries hexec').headed ht'.screen hnamedt'
  exact ⟨hagain, fun hids => ⟨hheaded.ids hids, (hagain.ids hids).trans (hheaded.ids hids).symm⟩⟩

/-- A row with a carousel in it, and a stat. -/
def voyage : Response :=
  { components := [⟨"row", "hscroll", [], some [⟨"pages", "carousel", [],
      some [⟨"mars", "galaxyStats", [], none⟩, ⟨"venus", "galaxyStats", [], none⟩]⟩]⟩,
    ⟨"count", "galaxyStats", [], none⟩] }

theorem response_titles_views_voyage :
    Idle vacant ∧ Named vacant ∧
      (vacant.ui.views[vacant.ui.screen.view]?).map View.kind = some .screen ∧
      vacant.ui.screen.pass = none ∧
      Along (DisplayStep.OfScreen vacant.ui.kit.widgets.length) vacant orbiting ∧
      ∃ out t, exec (showResponse voyage) (runDisplay vacant orbiting) = (.ok out, t) ∧
        Along (DisplayStep.OfScreen vacant.ui.kit.widgets.length) t [.turn 5 true] ∧
        Headed voyage (runDisplay t [.turn 5 true]) ∧
        ∃ out' t', exec (showResponse voyage) (runDisplay t [.turn 5 true]) = (.ok out', t') ∧
          screenIds t = [some "row", some "count"] ∧ screenIds t' = [some "row", some "count"] := by
  have hnamed : Named vacant := by
    intro x hx r hr
    obtain rfl := List.mem_singleton.1 hx
    cases hr
  have hscreen : (vacant.ui.views[vacant.ui.screen.view]?).map View.kind = some .screen := by
    decide +kernel
  have hsteps : Along (DisplayStep.OfScreen vacant.ui.kit.widgets.length) vacant orbiting := by
    refine ⟨trivial, ⟨?_, ?_⟩, ⟨?_, ?_⟩, trivial⟩
    case refine_2 => unfold DisplayStep.Permitted; decide +kernel
    all_goals decide +kernel
  have hlater : Along (DisplayStep.OfScreen vacant.ui.kit.widgets.length)
      (next (showResponse voyage) (runDisplay vacant orbiting)) [.turn 5 true] := by
    refine ⟨⟨?_, ?_⟩, trivial⟩
    all_goals decide +kernel
  have hquiet : ∀ step ∈ [DisplayStep.turn 5 true], step.Quiet := by
    simp [DisplayStep.Quiet]
  obtain ⟨out, hexec⟩ := exists_exec_eq_ok (m := showResponse voyage)
    (s := runDisplay vacant orbiting) (by decide +kernel)
  obtain ⟨out', hexec'⟩ := exists_exec_eq_ok (m := showResponse voyage)
    (s := runDisplay (next (showResponse voyage) (runDisplay vacant orbiting)) [.turn 5 true])
    (by decide +kernel)
  obtain ⟨-, htitled⟩ := response_titles_views idle_vacant hnamed hscreen rfl hsteps voyage
  obtain ⟨hheaded, hagain⟩ := htitled out _ hexec _ hlater
  obtain ⟨-, hids⟩ := hagain out' _ hexec'
  obtain ⟨hfirst, hsecond⟩ := hids (by decide)
  exact ⟨idle_vacant, hnamed, hscreen, rfl, hsteps, out, _, hexec, hlater, hheaded hquiet, out', _,
    hexec', hfirst, hsecond.trans hfirst⟩

/-- A payload whose root has an empty id. -/
def anonymous : String :=
  "\x7b\"components\":[\x7b\"id\":\"\",\"type\":\"galaxyStats\",\"properties\":\x7b\x7d\x7d]\x7d"

/-- An empty id does not reach its view, and the view is called something else each time. -/
theorem response_renames_anonymous :
    ∃ response out t out' t', (Payload.decodeText anonymous).toOption = some response ∧
      response.components.map Descriptor.id = [""] ∧
      exec (showResponse response) (runDisplay vacant [.mount 0 window]) = (.ok out, t) ∧
      exec (showResponse response) t = (.ok out', t') ∧
      screenIds t = [some "uuid-1"] ∧ screenIds t' = [some "uuid-2"] := by
  have hshown : ∃ r ∈ (Payload.decodeText anonymous).toOption,
      r.components.map Descriptor.id = [""] ∧
      (exec (showResponse r) (next (mount 0 window) vacant)).1.toBool = true ∧
      (exec (showResponse r) (next (showResponse r) (next (mount 0 window) vacant))).1.toBool =
        true ∧
      screenIds (next (showResponse r) (next (mount 0 window) vacant)) = [some "uuid-1"] ∧
      screenIds (next (showResponse r) (next (showResponse r) (next (mount 0 window) vacant))) =
        [some "uuid-2"] := by decide +kernel
  obtain ⟨response, hresponse, hids, hok, hok', hfirst, hsecond⟩ := hshown
  obtain ⟨out, hexec⟩ := exists_exec_eq_ok hok
  obtain ⟨out', hexec'⟩ := exists_exec_eq_ok hok'
  exact ⟨response, out, _, out', _, hresponse, hids, hexec, hexec', hfirst, hsecond⟩

end Session
end RemoteScreen
