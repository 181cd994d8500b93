import RemoteScreen.Proofs.View.Display

/-! One response after the other. Whenever the screen is mounted, and whatever pages its carousels are
turned to in between, a response takes the place of all that was on screen. -/
namespace RemoteScreen

open Session

/-! What a rendering gives -/

namespace Render

variable {υ : Type}

/-- Strategies give nodes that have views of their own, and keep the ids of descriptors. -/
def Showable (d : Descriptor) (r : Renderable) : Prop := r.id = d.id ∧ r.visible = r

theorem render_showable (st : Strategy) (d : Descriptor) (c : Context)
    (children : Context → Act υ (List Renderable)) :
    Gives (st.render d c children) (Showable d) := by
  unfold Strategy.render
  split
  · exact gives_fail _ _
  · split
    · exact gives_pure ⟨rfl, rfl⟩
    · exact gives_after fun n => gives_pure ⟨rfl, rfl⟩
    · exact gives_pure ⟨rfl, rfl⟩
    · exact gives_pure ⟨rfl, rfl⟩
    · exact gives_after fun pages => gives_pure ⟨rfl, rfl⟩
    · exact gives_after fun shown => gives_pure ⟨rfl, rfl⟩
    · exact gives_fail _ _

theorem showable_compositional (reg : Registry Strategy) :
    Compositional (υ := υ) reg (fun d _ m => Gives m (Showable d))
      (fun ds _ m => Gives m (List.Forall₂ Showable ds)) where
  node d c children _ := gives_dispatchWith (fun st => render_showable st d c children) ⟨rfl, rfl⟩
  nil _ := gives_pure .nil
  cons _ _ _ _ _ hm hms :=
    gives_bind hm fun _ hr => gives_bind hms fun _ hrs => gives_pure (.cons hr hrs)

end Render

/-- A rendering gives one node for each root, in order, and each of them has a view of its own. -/
theorem Renderer.render_showable {υ : Type} (r : Renderer) (ds : List Descriptor)
    (pass : Option Pass) :
    Gives (r.render ds pass : Act υ (List Renderable)) (List.Forall₂ Render.Showable ds) :=
  r.render_gives ((Render.showable_compositional r.registry).dispatchList ds (r.context pass))

namespace Session

variable {s t : Session Ui} {x y : View} {base c e v n : Nat}

/-! The screen -/

/-- What may be done to a screen: responses are shown, the screen is mounted once, mounted carousels are
turned to other pages, and regions come to their end. -/
def DisplayStep.OfScreen (base : Nat) (s : Session Ui) : DisplayStep → Prop
  | .response _ => True
  | .mount v q => v = s.ui.screen.view ∧ (DisplayStep.mount v q).Permitted base s
  | .page v _ => v ≠ s.ui.screen.view ∧ (s.ui.views[v]?).map View.isMounted = some true
  | .turn v _ => v ≠ s.ui.screen.view ∧ (s.ui.views[v]?).map View.isMounted = some true
  | .resolve _ _ => True
  | .fail _ => True
  | _ => False

/-- View `v` is the screen. What it owns is mounted if the screen is, and otherwise as it was made. -/
structure OnScreen (base v : Nat) (s : Session Ui) : Prop where
  display : OnDisplay base (· ≠ v) (· = v) s
  view : s.ui.screen.view = v
  screen : ∃ x, s.ui.views[v]? = some x ∧ x.kind = .screen
  mounted : ∀ x, s.ui.views[v]? = some x → x.root.isSome = true →
    ∀ c ∈ x.components, ∃ y, s.ui.views[c]? = some y ∧ y.root.isSome = true
  waits : ∀ x, s.ui.views[v]? = some x → x.root = none →
    ∀ c ∈ x.components, ∀ y, s.ui.views[c]? = some y → y.index = 0 ∧ y.components = []
  passes : ∀ p, s.ui.screen.pass = some p → p.version ≤ s.tracker.issued

/-- What a step on a screen leads to. -/
structure Onward (base v : Nat) (s t : Session Ui) : Prop where
  screen : OnScreen base v t
  lasting : Lasting s t
  issued : s.tracker.issued ≤ t.tracker.issued
  renderer : t.ui.screen.renderer = s.ui.screen.renderer
  readings : t.telemetry.readings ⊆ s.telemetry.readings

theorem Onward.trans {u : Session Ui} (h : Onward base v s t) (k : Onward base v t u) :
    Onward base v s u where
  screen := k.screen
  lasting := h.lasting.trans k.lasting
  issued := Nat.le_trans h.issued k.issued
  renderer := k.renderer.trans h.renderer
  readings := List.Subset.trans k.readings h.readings

/-- A step that renders nothing. -/
theorem OnScreen.onward (h : OnScreen base v t) (hlasting : Lasting s t)
    (htracker : t.tracker = s.tracker) (hkept : ScreenKept s t) : Onward base v s t where
  screen := h
  lasting := hlasting
  issued := Nat.le_of_eq (by rw [htracker])
  renderer := hkept.renderer
  readings := by
    rw [hkept.telemetry]
    exact List.Subset.refl _

theorem OnScreen.nothing_shown (h : OnScreen base v s) (hx : s.ui.views[v]? = some x) :
    x.kind = .screen ∧ x.renderable = none := by
  obtain ⟨z, hz, hkind⟩ := h.screen
  obtain rfl := Option.some.inj (hx.symm.trans hz)
  refine ⟨hkind, ?_⟩
  obtain ⟨path, hpath, -⟩ := h.display.settled
  cases hr : x.renderable with
  | none => rfl
  | some r =>
    have hgroup := hpath.toForest.not_group hx hr
    rw [hkind] at hgroup
    cases hgroup

theorem OnScreen.kind (h : OnScreen base v s) (hlasting : Lasting s t) :
    ∃ x, t.ui.views[v]? = some x ∧ x.kind = .screen := by
  obtain ⟨x, hx, hkind⟩ := h.screen
  obtain ⟨y, hy, hsame, -⟩ := hlasting.views v x hx
  exact ⟨y, hy, hsame.trans hkind⟩

/-- A step that changes no view and does not touch the screen. -/
theorem OnScreen.of_views (h : OnScreen base v s) (hdisplay : OnDisplay base (· ≠ v) (· = v) t)
    (hlasting : Lasting s t) (hview : t.ui.screen.view = s.ui.screen.view)
    (hviews : t.ui.views = s.ui.views)
    (hpasses : ∀ p, t.ui.screen.pass = some p → p.version ≤ t.tracker.issued) : OnScreen base v t where
  display := hdisplay
  view := hview.trans h.view
  screen := h.kind hlasting
  mounted := hviews ▸ h.mounted
  waits := hviews ▸ h.waits
  passes := hpasses

/-- A mounted view that is not the screen is on a mounted screen, and the screen is not below it. -/
theorem OnScreen.beside (h : OnScreen base v s) (hc : c ≠ s.ui.screen.view)
    (hmounted : (s.ui.views[c]?).map View.isMounted = some true) :
    ¬Under s c v ∧ ∃ x, s.ui.views[v]? = some x ∧ x.root.isSome = true := by
  obtain ⟨path, hpath, -⟩ := h.display.settled
  obtain ⟨y, hy, hysome⟩ := Option.map_eq_some_iff.1 hmounted
  obtain ⟨hunder, hscreen⟩ := h.display.under hy hysome
  have hcv : c ≠ v := h.view ▸ hc
  exact ⟨fun hback => hcv (Nat.le_antisymm (Under.le hpath.toForest hback)
    (Under.le hpath.toForest hunder)), hscreen⟩

/-- A mounted carousel of a screen is turned to another page. -/
theorem OnScreen.turned (h : OnScreen base v s) (hc : c ≠ s.ui.screen.view)
    (hmounted : (s.ui.views[c]?).map View.isMounted = some true)
    (ht : OnDisplay base (· ≠ v) (· = v) t) (hlasting : Lasting s t) (hkept : ResponseKept s t)
    (hturned : Turned c s t) (hviews : ViewsOnly s t) : Onward base v s t := by
  obtain ⟨path, hpath, -⟩ := h.display.settled
  obtain ⟨hnot, x, hx, hsome⟩ := h.beside hc hmounted
  have hxt : t.ui.views[v]? = some x := hturned.others v x hx hnot
  refine OnScreen.onward ⟨ht, hkept.view.trans h.view, h.kind hlasting, fun z hz _ e he => ?_,
    fun z hz hnone => ?_, fun p hp => ?_⟩ hlasting hviews.tracker hviews.toScreenKept
  · obtain rfl := Option.some.inj (hxt.symm.trans hz)
    obtain ⟨z, hz, hzsome⟩ := h.mounted x hx hsome e he
    by_cases hbelow : Under s c e
    · rcases hbelow.owner hpath.toForest hx he with rfl | hback
      · obtain ⟨z', hz', hroot⟩ := hturned.root z hz
        exact ⟨z', hz', hroot ▸ hzsome⟩
      · exact absurd hback hnot
    · exact ⟨z, hturned.others e z hz hbelow, hzsome⟩
  · obtain rfl := Option.some.inj (hxt.symm.trans hz)
    rw [hnone] at hsome
    cases hsome
  · rw [hkept.pass] at hp
    rw [hviews.tracker]
    exact h.passes p hp

/-- What the screen owns is mounted with it. -/
theorem OnScreen.mount_leads (h : OnScreen base v s) {q : Nat}
    (hstep : (DisplayStep.mount c q).OfScreen base s) : c = v ∧ ∃ x, s.ui.views[v]? = some x ∧
      Leads (Session.mount c q) s fun _ t => OnDisplay base (· ≠ v) (· = v) t ∧ Lasting s t ∧
        ResponseKept s t ∧ ∃ w, (∃ u, exec (buildGroup x.kind q) s = (.ok w, u)) ∧
          t.ui.views[v]? = some { x with root := some w } ∧
          ∀ e ∈ x.components, ∃ y, t.ui.views[e]? = some y ∧ y.root.isSome = true := by
  obtain ⟨hc, hunmounted, hqbase, hq⟩ := hstep
  obtain rfl : c = v := hc.trans h.view
  obtain ⟨x, hx, hroot⟩ := Option.map_eq_some_iff.1 hunmounted
  have hnone : x.root = none :=
    Option.not_isSome_iff_eq_none.1 (by simpa [View.isMounted] using hroot)
  have hgroup : x.kind.isGroup = true := by
    rw [(h.nothing_shown hx).1]
    rfl
  exact ⟨rfl, x, hx, h.display.mountGroup hx hgroup hnone hq hqbase rfl
    fun d hd _ y hy _ => h.waits x hx hnone d hd y hy⟩

/-- A screen is mounted, and what it owns with it. -/
theorem OnScreen.mount (h : OnScreen base v s) {q : Nat}
    (hstep : (DisplayStep.mount c q).OfScreen base s) :
    Onward base v s (next (Session.mount c q) s) := by
  obtain ⟨rfl, x, hx, hmount⟩ := h.mount_leads hstep
  obtain ⟨_, -, ⟨ht, hlasting, hkept, w, -, hxt, hmounted⟩, hviews⟩ :=
    (hmount.and_keeps (keeps_mount (R := ViewsOnly) c q)).next
  refine OnScreen.onward ⟨ht, hkept.view.trans h.view, h.kind hlasting, fun z hz _ e he => ?_,
    fun z hz hz' => ?_, fun p hp => ?_⟩ hlasting hviews.tracker hviews.toScreenKept
  · obtain rfl := Option.some.inj (hxt.symm.trans hz)
    exact hmounted e he
  · obtain rfl := Option.some.inj (hxt.symm.trans hz)
    cases hz'
  · rw [hkept.pass] at hp
    rw [hviews.tracker]
    exact h.passes p hp

/-- A region comes to its end. -/
theorem OnScreen.settle (h : OnScreen base v s) (n : Nat)
    {change : Region Nat → Option (Region Nat)}
    (hchange : ∀ r r', change r = some r' → r'.listeners = r.listeners) :
    Onward base v s (next (Session.settle tellView n change) s) := by
  have htell (n l : Nat) : Keeps ViewsOnly (tellView n l) := keeps_showImage n l
  have htracker := (settled_told (fun n l => (htell n l).mono fun _ _ k => k.toImagesKept) n
    change s).tracker
  rw [tracker_settled] at htracker
  have hscreen : Keeps ScreenKept (Session.settle tellView n change) :=
    keeps_settle (fun n l => (htell n l).mono fun _ _ k => k.toScreenKept)
      (fun _ _ _ => ⟨rfl, rfl, rfl⟩) n change
  obtain ⟨_, -, ht, hlasting, hkept, hviews, -⟩ := (h.display.settle n hchange).next
  refine OnScreen.onward (h.of_views ht hlasting hkept.view hviews fun p hp => ?_) hlasting htracker
    (hscreen s)
  rw [hkept.pass] at hp
  rw [htracker]
  exact h.passes p hp

/-- A response is shown, or its rendering fails. -/
theorem OnScreen.response (h : OnScreen base v s) (response : Response) :
    ∃ r t, exec (showResponse response) s = (r, t) ∧ Onward base v s t ∧
      (∃ v w : Session Ui, v.telemetry = s.telemetry ∧
        exec (s.ui.screen.renderer.render response.components (some s.tracker.next)) v = (r, w)) ∧
      (∀ out, r = .ok out → Replaced response out s t) := by
  obtain ⟨r, t, hexec, ht, hlasting, hrender, hrenderer, hreadings, herror, hok⟩ :=
    h.display.response (fun _ _ hne => absurd h.view hne) response
  refine ⟨r, t, hexec, ?_, hrender, hok⟩
  have hissued : s.tracker.issued ≤ s.tracker.advance.issued := Nat.le_succ _
  have hpasses (hpass : t.ui.screen.pass = some s.tracker.next)
      (htracker : t.tracker = s.tracker.advance) (p : Pass) (hp : t.ui.screen.pass = some p) :
      p.version ≤ t.tracker.issued := by
    obtain rfl := Option.some.inj (hpass.symm.trans hp)
    rw [htracker]
    simp [PassTracker.next]
  cases r with
  | error e =>
    obtain ⟨hviews, hview, htracker, hpass⟩ := herror e rfl
    exact ⟨h.of_views ht hlasting hview hviews (hpasses hpass htracker), hlasting, htracker ▸ hissued,
      hrenderer, hreadings⟩
  | ok out =>
    have hreplaced := hok out rfl
    obtain ⟨x, hx, hkind⟩ := h.screen
    rw [← h.view] at hx
    obtain ⟨cs, hcs, -, -, hall⟩ := (hreplaced.stack x hx).view
    rw [h.view] at hcs
    have htaken {d : Nat} (hd : d ∈ cs) : ∃ r, Taken x.root t r d := by
      obtain ⟨r, -, hr⟩ := forall₂_exists_of_mem hall hd
      exact ⟨r, hr⟩
    refine ⟨⟨ht, hreplaced.view.trans h.view, h.kind hlasting, fun z hz hsome d hd => ?_,
      fun z hz hnone d hd y hy => ?_, hpasses hreplaced.pass hreplaced.tracker⟩, hlasting,
      hreplaced.tracker ▸ hissued, hrenderer, hreadings⟩
    · obtain rfl := Option.some.inj (hcs.symm.trans hz)
      obtain ⟨r, hr⟩ := htaken hd
      obtain ⟨y, hy, -⟩ := hr.shown
      exact ⟨y, hy, hr.mounted hsome y hy⟩
    · obtain rfl := Option.some.inj (hcs.symm.trans hz)
      obtain ⟨r, hr⟩ := htaken hd
      have hmade := hr.waits hnone y hy
      exact ⟨hmade.index, hmade.components⟩

theorem OnScreen.step (h : OnScreen base v s) {step : DisplayStep} (hstep : step.OfScreen base s) :
    Onward base v s (next step.act s) := by
  cases step with
  | response response =>
    obtain ⟨r, t, hexec, ht, -⟩ := h.response response
    rw [DisplayStep.act, next_discard, next, hexec]
    exact ht
  | mount c q => exact h.mount hstep
  | page c i =>
    obtain ⟨_, -, ⟨ht, hlasting, hkept, hturned⟩, hviews⟩ :=
      ((h.display.page c i).and_keeps (keeps_showPage (R := ViewsOnly) c i)).next
    exact h.turned hstep.1 hstep.2 ht hlasting hkept hturned hviews
  | turn c forward =>
    obtain ⟨_, -, ⟨ht, hlasting, hkept, hturned⟩, hviews⟩ :=
      ((h.display.turn c forward).and_keeps (keeps_turnPage (R := ViewsOnly) c forward)).next
    exact h.turned hstep.1 hstep.2 ht hlasting hkept hturned hviews
  | resolve n image =>
    rw [DisplayStep.act, next_discard]
    exact h.settle n fun _ _ => listeners_resolve? image
  | fail n =>
    rw [DisplayStep.act, next_discard]
    exact h.settle n fun _ _ => listeners_fail?
  | region url => exact hstep.elim
  | make r packing => exact hstep.elim
  | destroy c => exact hstep.elim

theorem OnScreen.run (h : OnScreen base v s) {steps : List DisplayStep}
    (hsteps : Along (DisplayStep.OfScreen base) s steps) : Onward base v s (runDisplay s steps) := by
  induction steps generalizing s with
  | nil => exact h.onward (Std.Refl.refl s) rfl (Std.Refl.refl s)
  | cons step steps ih =>
    obtain ⟨hfirst, hrest⟩ := hsteps
    have hstep := h.step hfirst
    exact hstep.trans (ih hstep.screen hrest)

theorem Along.append {P : Session Ui → DisplayStep → Prop} {before after : List DisplayStep}
    (h : Along P s (before ++ after)) : Along P s before ∧ Along P (runDisplay s before) after := by
  induction before generalizing s with
  | nil => exact ⟨trivial, h⟩
  | cons step before ih =>
    obtain ⟨hfirst, hrest⟩ := h
    obtain ⟨hbefore, hafter⟩ := ih hrest
    exact ⟨⟨hfirst, hbefore⟩, hafter⟩

/-! Replacement -/

/-- All that can be seen on a mounted screen is mounted: the views that the screen owns, directly or
not, each of which owns a mounted view for all that it shows. -/
def AllMounted (s : Session Ui) : Prop :=
  ∀ x, s.ui.views[s.ui.screen.view]? = some x → x.isMounted = true →
    ∀ e, Under s s.ui.screen.view e → ∃ y, s.ui.views[e]? = some y ∧ y.isMounted = true ∧
      ∀ r, y.renderable = some r → List.Forall₂ (Presents s) (r.shownAt y.index) y.components

theorem OnScreen.allMounted (h : OnScreen base v s) : AllMounted s := by
  intro x hx hsome e hunder
  rw [h.view] at hx hunder
  have hshow {e : Nat} {y : View} (hy : s.ui.views[e]? = some y) (hysome : y.root.isSome = true)
      (r : Renderable) (hr : y.renderable = some r) :
      List.Forall₂ (Presents s) (r.shownAt y.index) y.components := by
    have hne : e ≠ v := by
      rintro rfl
      rw [(h.nothing_shown hy).2] at hr
      cases hr
    have hcomplete := h.display.standing.complete e y hy hysome hne (by rw [hr]; rfl)
    rwa [Complete, View.content, hr] at hcomplete
  obtain ⟨path, hpath, -⟩ := h.display.settled
  have hmounted : ∃ y, s.ui.views[e]? = some y ∧ y.root.isSome = true := by
    induction hunder with
    | self => exact ⟨x, hx, hsome⟩
    | @step u c y hunder hy hc ih =>
      obtain ⟨y', hy', hysome⟩ := ih
      obtain rfl := Option.some.inj (hy.symm.trans hy')
      cases hunder with
      | self => exact h.mounted y hy hysome c hc
      | step _ hz hu =>
        -- A view that another one owns shows something.
        obtain ⟨y', r, hy', hr⟩ := hpath.shown _ _ hz u hu
        obtain rfl := Option.some.inj (hy.symm.trans hy')
        obtain ⟨_, -, z, hz, hzsome, -⟩ := forall₂_exists_of_mem (hshow hy hysome _ hr) hc
        exact ⟨z, hz, hzsome⟩
  obtain ⟨y, hy, hysome⟩ := hmounted
  exact ⟨y, hy, hysome, hshow hy hysome⟩

/-- A response has taken the place of all that was on screen. -/
structure Wholesale (response : Response) (out : List Renderable) (s t : Session Ui) : Prop where
  screen : t.ui.screen.view = s.ui.screen.view
  rendered : t.ui.screen.rendered = out
  roots : List.Forall₂ (fun d r => r.id = d.id) response.components out
  /-- The screen owns a view for each renderable, in order. -/
  views : ∃ x, t.ui.views[t.ui.screen.view]? = some x ∧ x.components.Nodup ∧
    List.Forall₂ (fun r c => ∃ y, t.ui.views[c]? = some y ∧ y.renderable = some r) out x.components
  response : t.ui.screen.response = some response
  pass : t.ui.screen.pass = some s.tracker.next
  /-- Views that were there before show what they showed, but none of them is mounted. -/
  gone : ∀ (e : Nat) (x : View), s.ui.views[e]? = some x → e ≠ s.ui.screen.view →
    ∃ y, t.ui.views[e]? = some y ∧ y.isMounted = false ∧ y.renderable = x.renderable
  regions : RegionsKept s t

/-- A mounted view is the screen or within one of the views that it owns. -/
theorem OnScreen.within (h : OnScreen base v s) (hx : s.ui.views[v]? = some x)
    (hy : s.ui.views[e]? = some y) (hsome : y.root.isSome = true) (hne : e ≠ v) :
    ∃ c ∈ x.components, c ≤ e := by
  obtain ⟨path, hpath, -⟩ := h.display.settled
  rcases (under_iff hx).1 (h.display.under hy hsome).1 with rfl | ⟨c, hc, hunder⟩
  · exact absurd rfl hne
  · exact ⟨c, hc, Under.le hpath.toForest hunder⟩

/-- A response that is shown takes the place of all that was on screen. -/
theorem OnScreen.replaced (h : OnScreen base v s) {response : Response} {out : List Renderable}
    (hexec : exec (showResponse response) s = (.ok out, t)) : Wholesale response out s t := by
  obtain ⟨r, t', hexec', ht, ⟨u, w, -, hrender⟩, hok⟩ := h.response response
  obtain ⟨rfl, rfl⟩ := Prod.mk.inj (hexec.symm.trans hexec')
  have hreplaced := hok out rfl
  have hshowable := Renderer.render_showable _ _ _ _ _ _ hrender
  obtain ⟨x, hx, -⟩ := h.screen
  rw [← h.view] at hx
  obtain ⟨cs, hcs, hnodup, hlater, hall⟩ := (hreplaced.stack x hx).view
  refine ⟨hreplaced.view, hreplaced.rendered, hshowable.imp fun _ _ hd => hd.1, ⟨{ x with components := cs }, ?_,
    hnodup, ?_⟩, hreplaced.response, hreplaced.pass, fun e z hz hne => ?_, hreplaced.regions⟩
  · rw [hreplaced.view]
    exact hcs
  · have hvisible (r : Renderable) (hr : r ∈ out) : r.visible = r := by
      obtain ⟨d, -, hd⟩ := forall₂_exists_of_mem hshowable hr
      exact hd.2
    refine ((List.forall₂_and_left _ _).2 ⟨hvisible, hall⟩).imp fun r c ⟨hr, htaken⟩ => ?_
    obtain ⟨y, hy, hshown⟩ := htaken.shown
    exact ⟨y, hy, by rw [hshown, hr]⟩
  · have he : e < s.ui.views.length := (List.getElem?_eq_some_iff.1 hz).1
    obtain ⟨y, hy, -, hsame⟩ := ht.lasting.views e z hz
    refine ⟨y, hy, ?_, hsame⟩
    by_contra hmounted
    have hsome : y.root.isSome = true := Bool.eq_true_of_not_eq_false hmounted
    rw [h.view] at hcs
    obtain ⟨c, hc, hle⟩ := ht.screen.within hcs hy hsome (h.view ▸ hne)
    exact Nat.lt_irrefl _ (Nat.lt_of_lt_of_le he (Nat.le_trans (hlater c hc) hle))

/-- A response is shown if its rendering can come to an end. -/
theorem Onward.shows (h : Onward base v s t) {response : Response}
    (hfallback : s.ui.screen.renderer.registry.fallback.Reliable)
    (himages : s.ui.screen.renderer.images.Willing) (hpaced : s.telemetry.Paced)
    (hsize : Descriptor.nodesList response.components < 2 ^ 1023) :
    ∃ out u, exec (showResponse response) t = (.ok out, u) := by
  obtain ⟨r, u, hexec, -, ⟨z, w, htelemetry, hrender⟩, -⟩ := h.screen.response response
  rw [← h.renderer] at hfallback himages
  have hpaced' : z.telemetry.Paced := htelemetry ▸ hpaced.mono h.readings
  obtain ⟨-, out, -, w', -, -, -, hok⟩ := Renderer.exec_render hfallback himages hpaced' hsize
    (some t.tracker.next)
  obtain ⟨rfl, -⟩ := Prod.mk.inj (hrender.symm.trans hok)
  exact ⟨out, u, hexec⟩

/-- Before anything has been shown. -/
theorem Idle.onScreen (h : Idle s)
    (hscreen : (s.ui.views[s.ui.screen.view]?).map View.kind = some .screen)
    (hpass : s.ui.screen.pass = none) :
    OnScreen s.ui.kit.widgets.length s.ui.screen.view s := by
  have halone {x : View} (hx : s.ui.views[s.ui.screen.view]? = some x) (c : Nat) :
      c ∉ x.components := by
    rw [← h.views x (List.mem_of_getElem? hx)]
    exact List.not_mem_nil
  refine ⟨h.display _ _, rfl, Option.map_eq_some_iff.1 hscreen, fun x hx _ c hc => ?_,
    fun x hx _ c hc => ?_, fun p hp => ?_⟩
  · exact absurd hc (halone hx c)
  · exact absurd hc (halone hx c)
  · rw [hpass] at hp
    cases hp

/-- A response replaces the screen wholesale. Whatever responses have been shown, whenever the screen is
mounted and whichever pages its carousels are turned to, all that can be seen on the mounted screen is
mounted; and when a response has been rendered and shown, the screen owns just the views for it, its pass
is later than all passes before, no view from before it is mounted, and the widgets that these have had
are destroyed exactly once. -/
theorem response_replaces_screen {s₀ : Session Ui} (h₀ : Idle s₀)
    (hscreen : (s₀.ui.views[s₀.ui.screen.view]?).map View.kind = some .screen)
    (hpass : s₀.ui.screen.pass = none) {steps : List DisplayStep}
    (hsteps : Along (DisplayStep.OfScreen s₀.ui.kit.widgets.length) s₀ steps) :
    AllMounted (runDisplay s₀ steps) ∧ ∀ response : Response,
      (s₀.ui.screen.renderer.registry.fallback.Reliable → s₀.ui.screen.renderer.images.Willing →
        s₀.telemetry.Paced → Descriptor.nodesList response.components < 2 ^ 1023 →
        ∃ out t, exec (showResponse response) (runDisplay s₀ steps) = (.ok out, t)) ∧
      ∀ out t, exec (showResponse response) (runDisplay s₀ steps) = (.ok out, t) →
        Wholesale response out (runDisplay s₀ steps) t ∧ AllMounted t ∧
        ∀ before after, steps = before ++ after →
          (∀ p, (runDisplay s₀ before).ui.screen.pass = some p →
            p.version < (runDisplay s₀ steps).tracker.next.version) ∧
          ∀ e x w, (runDisplay s₀ before).ui.views[e]? = some x → x.root = some w →
            e ≠ s₀.ui.screen.view → t.ui.kit.destroyed.count w = 1 := by
  have hstart := h₀.onScreen hscreen hpass
  have honward := hstart.run hsteps
  have hrun := honward.screen
  refine ⟨hrun.allMounted, fun response => ⟨fun hfallback himages hpaced hsize => ?_,
    fun out t hexec => ?_⟩⟩
  · exact honward.shows hfallback himages hpaced hsize
  · have hwholesale := hrun.replaced hexec
    obtain ⟨r, t', hexec', ht, -⟩ := hrun.response response
    obtain ⟨-, rfl⟩ := Prod.mk.inj (hexec.symm.trans hexec')
    refine ⟨hwholesale, ht.screen.allMounted, ?_⟩
    rintro before after rfl
    obtain ⟨hbefore, hafter⟩ := Along.append hsteps
    have hearlier := (hstart.run hbefore).screen
    have hlater := hearlier.run hafter
    rw [← runDisplay_append] at hlater
    refine ⟨fun p hp => ?_, fun e x w hx hw hne => ?_⟩
    · have hle := hearlier.passes p hp
      have hissued := hlater.issued
      simp only [PassTracker.next]
      omega
    · obtain ⟨z, hz, -⟩ := hlater.lasting.views e x hx
      obtain ⟨y, hy, hunmounted, -⟩ := hwholesale.gone e z hz (hrun.view ▸ hne)
      rcases (hlater.lasting.trans ht.lasting).roots e x w hx hw with ⟨y', hy', hroot⟩ | hgone
      · obtain rfl := Option.some.inj (hy.symm.trans hy')
        rw [View.isMounted, hroot] at hunmounted
        cases hunmounted
      · obtain ⟨path, hpath, -⟩ := ht.screen.display.settled
        exact List.count_eq_one_of_mem hpath.grown.once hgone

/-- A carousel of two pages. -/
def tour : Response :=
  { components := [⟨"planets", "carousel", [],
      some [⟨"mars", "planetCard", [], none⟩, ⟨"venus", "planetCard", [], none⟩]⟩] }

def flyby : Response := { components := [⟨"titan", "planetCard", [], none⟩] }

/-- The screen is mounted when it shows a carousel, which is then turned to its second page. -/
def orbiting : List DisplayStep := [.response tour, .mount 0 window, .turn 1 true]

theorem response_replaces_screen_orbiting :
    Idle vacant ∧ (vacant.ui.views[vacant.ui.screen.view]?).map View.kind = some .screen ∧
      vacant.ui.screen.pass = none ∧
      Along (DisplayStep.OfScreen vacant.ui.kit.widgets.length) vacant orbiting ∧
      ∃ out t x w,
        exec (showResponse flyby) (runDisplay vacant orbiting) =
          (.ok out, t) ∧
        Wholesale flyby out (runDisplay vacant orbiting) t ∧
        AllMounted t ∧ (runDisplay vacant orbiting).ui.views[3]? = some x ∧ x.root = some w ∧
        t.ui.kit.destroyed.count w = 1 := by
  have hscreen : (vacant.ui.views[vacant.ui.screen.view]?).map View.kind = some .screen := by
    decide +kernel
  have hsteps : Along (DisplayStep.OfScreen vacant.ui.kit.widgets.length) vacant orbiting := by
    refine ⟨trivial, ⟨?_, ?_⟩, ⟨?_, ?_⟩, trivial⟩
    case refine_2 => unfold DisplayStep.Permitted; decide +kernel
    all_goals decide +kernel
  have hview : ((runDisplay vacant orbiting).ui.views[3]?).any fun x => x.root.isSome := by
    decide +kernel
  have hsize : Descriptor.nodesList flyby.components < 2 ^ 1023 := by
    have hone : 1 < 2 ^ 1023 := Nat.one_lt_two_pow (n := 1023) (Nat.succ_ne_zero 1022)
    simp [flyby, Descriptor.nodesList, Descriptor.nodes, Descriptor.nodesChildren, hone]
  obtain ⟨-, hreplaces⟩ := response_replaces_screen idle_vacant hscreen rfl hsteps
  obtain ⟨hshown, hreplaced⟩ := hreplaces flyby
  obtain ⟨out, t, hexec⟩ := hshown Strategy.placeholder_reliable trivial
    (Telemetry.paced_of_clock_nil rfl) hsize
  obtain ⟨hwholesale, hmounted, hcount⟩ := hreplaced out t hexec
  obtain ⟨x, hx, hsome⟩ := (Option.any_eq_true _ _).1 hview
  obtain ⟨w, hw⟩ := Option.isSome_iff_exists.1 hsome
  have hpage : 3 ≠ vacant.ui.screen.view := by decide +kernel
  obtain ⟨-, hgone⟩ := hcount orbiting [] (List.append_nil _).symm
  exact ⟨idle_vacant, hscreen, rfl, hsteps, out, t, x, w, hexec, hwholesale, hmounted, hx, hw,
    hgone 3 x w hx hw hpage⟩

end Session
end RemoteScreen
