import RemoteScreen.Proofs.View.Replacement

/-! Runs of what can be done to views: they are mounted and destroyed, carousels are turned to other
pages, images come or fail to come, and responses are shown. Between two steps everything is in its
place. -/
namespace RemoteScreen
namespace Session

open Renderable (cardRegions)

variable {s t u : Session Ui} {path path' : Nat → List Nat} {x y : View} {base c e q v n : Nat}
  {whole top : Nat → Prop} {r : Renderable}

/-! Runs -/

inductive DisplayStep where
  /-- A region is made, and waits for the image at a URL. -/
  | region (url : String)
  /-- A view is made for a renderable. -/
  | make (r : Renderable) (packing : Attributes)
  | mount (v parent : Nat)
  | page (v : Nat) (index : Int)
  | turn (v : Nat) (forward : Bool)
  | resolve (n : Nat) (image : Value)
  | fail (n : Nat)
  | response (response : Response)
  | destroy (v : Nat)

def DisplayStep.act : DisplayStep → Act Ui Unit
  | .region url => do
    let _ ← addRegion url
    pure ()
  | .make r packing => do
    let _ ← viewOf r packing
    pure ()
  | .mount v parent => Session.mount v parent
  | .page v index => showPage v index
  | .turn v forward => turnPage v forward
  | .resolve n image => do
    let _ ← Session.resolve tellView n image
    pure ()
  | .fail n => do
    let _ ← failRegion tellView n
    pure ()
  | .response r => do
    let _ ← showResponse r
    pure ()
  | .destroy v => Session.destroy v

/-- The session after some steps. A step that fails keeps what it did before. -/
def runDisplay (s : Session Ui) (steps : List DisplayStep) : Session Ui :=
  steps.foldl (fun s step => next step.act s) s

theorem runDisplay_append (s : Session Ui) (before after : List DisplayStep) :
    runDisplay s (before ++ after) = runDisplay (runDisplay s before) after :=
  List.foldl_append

/-- Each step of a run is as wanted in the session in which it is made. -/
def Along (P : Session Ui → DisplayStep → Prop) (s : Session Ui) : List DisplayStep → Prop
  | [] => True
  | step :: steps => P s step ∧ Along P (next step.act s) steps

/-- What each wanted step keeps, a run of them keeps. -/
theorem Along.run {P : Session Ui → DisplayStep → Prop} {Inv : Session Ui → Prop}
    (hstep : ∀ s step, Inv s → P s step → Inv (next step.act s)) (h : Inv s)
    {steps : List DisplayStep} (hsteps : Along P s steps) : Inv (runDisplay s steps) := by
  induction steps generalizing s with
  | nil => exact h
  | cons step steps ih =>
    obtain ⟨hfirst, hrest⟩ := hsteps
    exact ih (hstep s step h hfirst) hrest

/-- What may be done to views where the widgets with a number below `base` are in no view: views are
made of renderables whose cards have regions, and those that are not mounted yet may be mounted in a
widget that is in no view. -/
def DisplayStep.Permitted (base : Nat) (s : Session Ui) : DisplayStep → Prop
  | .make r _ => ∀ n ∈ cardRegions [r], n < s.regions.length
  | .mount v q => (s.ui.views[v]?).map View.isMounted = some false ∧ q < base ∧
      s.ui.kit.isAlive q = true
  | _ => True

/-- What else is asked of a step for the views in `whole` to own a mounted view for all that they show,
and for those that are not in `top` to be owned by a mounted view. -/
def DisplayStep.Sound (whole top : Nat → Prop) (s : Session Ui) : DisplayStep → Prop
  | .mount v _ => top v ∧ ∀ x, s.ui.views[v]? = some x →
      (whole v → x.index = 0 ∧ x.components = []) ∧
      ∀ c ∈ x.components, whole c → ∀ y, s.ui.views[c]? = some y → y.root = none →
        y.index = 0 ∧ y.components = []
  | .response _ => ∀ x, s.ui.views[s.ui.screen.view]? = some x → whole s.ui.screen.view →
      x.renderable = none
  | .destroy v => ∀ (e : Nat) (y : View), s.ui.views[e]? = some y → whole e →
      y.root.isSome = true → y.renderable.isSome = true → v ∉ y.components
  | _ => True

/-- Where nothing is asked of what views own or are owned by, any step will do. -/
theorem DisplayStep.sound_anywhere (step : DisplayStep) (s : Session Ui) :
    step.Sound (fun _ => False) (fun _ => True) s := by
  cases step with
  | mount v q => exact ⟨trivial, fun x _ => ⟨False.elim, fun c _ hc => hc.elim⟩⟩
  | response response => exact fun x _ hwhole => hwhole.elim
  | destroy v => exact fun e y _ hwhole => hwhole.elim
  | _ => trivial

/-! Single steps -/

/-- Views take a place as long as they do not move the screen. -/
theorem OnDisplay.of_kept (h : OnDisplay base whole top s) (hpath : ∀ q < base, path q = [])
    (ht : Settled path' t) (hgrown : Outgrows path path' s t) (hs : Standing whole top t)
    (hlasting : Lasting s t) (hkept : ResponseKept s t) : OnDisplay base whole top t :=
  h.of_grown hpath ht hgrown hs (hlasting.screen hkept.view h.screen)

theorem OnDisplay.region (h : OnDisplay base whole top s) (url : String) :
    Leads (addRegion url) s fun n t => n = s.regions.length ∧ OnDisplay base whole top t ∧
      Lasting s t := by
  refine ⟨_, _, exec_addRegion url s, rfl, ?_⟩
  exact h.sprouted rfl rfl rfl ⟨[{ url }], rfl, fun r hr => by rw [List.mem_singleton.1 hr]⟩

theorem Standing.withNew (h : Standing whole top s) (hy : Made r y) (named : Nat) :
    Standing whole top (s.withNew y named) := by
  have hmounted {e : Nat} {z : View} (hz : (s.withNew y named).ui.views[e]? = some z)
      (hsome : z.root.isSome = true) : s.ui.views[e]? = some z := by
    rcases withNew_cases hz with hold | ⟨-, rfl⟩
    · exact hold
    · rw [hy.root] at hsome
      cases hsome
  have hkept {e : Nat} {z : View} (hz : s.ui.views[e]? = some z) :
      (s.withNew y named).ui.views[e]? = some z :=
    (withNew_old (List.getElem?_eq_some_iff.1 hz).1).trans hz
  refine ⟨fun e z hz hsome => ?_, fun e z hz hsome he hr => ?_, fun e z hz hsome => ?_⟩
  · exact h.furnished e z (hmounted hz hsome) hsome
  · refine (h.complete e z (hmounted hz hsome) hsome he hr).mono fun c _ r hpresents => ?_
    exact hpresents.kept fun y' hy' hsome' => ⟨y', hkept hy', hsome', rfl⟩
  · refine (h.held e z (hmounted hz hsome) hsome).imp_right fun ⟨o, z', hz', hrest⟩ => ?_
    exact ⟨o, z', hkept hz', hrest⟩

theorem OnDisplay.make (h : OnDisplay base whole top s)
    (hr : ∀ n ∈ cardRegions [r], n < s.regions.length) (packing : Attributes) :
    Leads (viewOf r packing) s fun v t => v = s.ui.views.length ∧
      (∃ y named, Made r y ∧ t = s.withNew y named) ∧ OnDisplay base whole top t ∧ Lasting s t := by
  obtain ⟨path, hpath, hbase⟩ := h.settled
  obtain ⟨y, named, hy, hview⟩ := exec_viewOf r packing s
  have hlasting : Lasting s (s.withNew y named) :=
    .of_views rfl fun e x hx =>
      ⟨x, (withNew_old (List.getElem?_eq_some_iff.1 hx).1).trans hx, rfl, rfl, fun _ => rfl⟩
  refine ⟨_, _, hview, rfl, ⟨y, named, hy, rfl⟩, ?_, hlasting⟩
  exact h.of_kept hbase (hpath.withNew hy hr named) (.of_length path rfl) (h.standing.withNew hy named)
    hlasting ⟨rfl, rfl, rfl, rfl⟩

/-- A view that shows a renderable is mounted in a widget that is in no view. -/
theorem OnDisplay.mountShown (h : OnDisplay base whole top s) (hx : s.ui.views[v]? = some x)
    (hroot : x.root = none) (hr : x.renderable = some r.visible) (hq : s.ui.kit.isAlive q = true)
    (hqbase : q < base) (htop : top v) (hwhole : whole v → x.index = 0 ∧ x.components = []) :
    Leads (Session.mount v q) s fun _ t => OnDisplay base whole top t ∧ Lasting s t := by
  obtain ⟨path, hpath, hbase⟩ := h.settled
  have hdepth : exec depth s = (.ok (s.ui.views.length + 1), s) := rfl
  have hplace : Place path s v q := .inl (hbase q hqbase)
  have hmount : Leads (Session.mount v q) s fun _ t =>
      ∃ path', Settled path' t ∧ Mounts path path' v s t :=
    leads_bind_eq hdepth (mountDeep_leads hpath hx hroot hr hq hplace _)
  refine (hmount.and_keeps (keeps_mount (R := ResponseKept) v q)).mono
    fun _ t ⟨⟨path', ht, hmounts⟩, hkept⟩ => ?_
  have hlasting := hmounts.lasting hx
  refine ⟨h.of_kept hbase ht hmounts.outgrows ?_ hlasting hkept, hlasting⟩
  exact h.standing.mounts hmounts hx hwhole (.inl htop)

/-- A view that holds others is mounted in a widget that is in no view, and with it those others. -/
theorem OnDisplay.mountGroup (h : OnDisplay base whole top s) (hx : s.ui.views[v]? = some x)
    (hgroup : x.kind.isGroup = true) (hroot : x.root = none) (hq : s.ui.kit.isAlive q = true)
    (hqbase : q < base) (htop : top v)
    (hmade : ∀ c ∈ x.components, whole c → ∀ y, s.ui.views[c]? = some y → y.root = none →
      y.index = 0 ∧ y.components = []) :
    Leads (Session.mount v q) s fun _ t => OnDisplay base whole top t ∧ Lasting s t ∧
      ResponseKept s t ∧ ∃ w, (∃ u, exec (buildGroup x.kind q) s = (.ok w, u)) ∧
        t.ui.views[v]? = some { x with root := some w } ∧
        ∀ c ∈ x.components, ∃ y, t.ui.views[c]? = some y ∧ y.root.isSome = true := by
  obtain ⟨path, hpath, hbase⟩ := h.settled
  have hrenderable : x.renderable = none := by
    cases hr : x.renderable with
    | none => rfl
    | some r =>
      rw [hpath.toForest.not_group hx hr] at hgroup
      cases hgroup
  have hmount := mountGroup_leads hpath h.standing hx hgroup hrenderable hroot htop hq
    (hbase q hqbase) hmade
  refine (hmount.and_keeps (keeps_mount (R := ResponseKept) v q)).mono
    fun _ t ⟨⟨path', ht, hgrown, hs, hlasting, hview⟩, hkept⟩ => ?_
  exact ⟨h.of_kept hbase ht hgrown hs hlasting hkept, hlasting, hkept, hview⟩

theorem OnDisplay.mount (h : OnDisplay base whole top s)
    (hperm : (DisplayStep.mount v q).Permitted base s)
    (hsound : (DisplayStep.mount v q).Sound whole top s) :
    Leads (Session.mount v q) s fun _ t => OnDisplay base whole top t ∧ Lasting s t := by
  obtain ⟨hunmounted, hqbase, hq⟩ := hperm
  obtain ⟨x, hx, hmounted⟩ := Option.map_eq_some_iff.1 hunmounted
  have hroot : x.root = none := Option.not_isSome_iff_eq_none.1 (by simpa [View.isMounted] using hmounted)
  obtain ⟨htop, hviews⟩ := hsound
  obtain ⟨hwhole, hmade⟩ := hviews x hx
  obtain ⟨path, hpath, -⟩ := h.settled
  rcases hpath.sort x (List.mem_of_getElem? hx) with ⟨hgroup, -⟩ | ⟨r, hr, -⟩
  · have hmount := h.mountGroup hx hgroup hroot hq hqbase htop hmade
    exact hmount.mono fun _ t ht => ⟨ht.1, ht.2.1⟩
  · exact h.mountShown hx hroot hr hq hqbase htop hwhole

/-- A carousel is turned to a page. -/
theorem OnDisplay.page (h : OnDisplay base whole top s) (v : Nat) (index : Int) :
    Leads (showPage v index) s fun _ t => OnDisplay base whole top t ∧ Lasting s t ∧
      ResponseKept s t ∧ Turned v s t := by
  obtain ⟨path, hpath, hbase⟩ := h.settled
  have hpage := showPage_leads hpath h.standing v index
  refine (hpage.and_keeps (keeps_showPage (R := ResponseKept) v index)).mono
    fun _ t ⟨⟨path', ht, hgrown, hs, hlasting, hturned⟩, hkept⟩ => ?_
  exact ⟨h.of_kept hbase ht hgrown hs hlasting hkept, hlasting, hkept, hturned⟩

theorem OnDisplay.turn (h : OnDisplay base whole top s) (v : Nat) (forward : Bool) :
    Leads (turnPage v forward) s fun _ t => OnDisplay base whole top t ∧ Lasting s t ∧
      ResponseKept s t ∧ Turned v s t := by
  refine leads_bind_eq (exec_view? v s) ?_
  split
  · exact h.page v _
  · exact leads_pure ⟨h, Std.Refl.refl s, Std.Refl.refl s, .refl v s⟩

/-- A region comes to its end. -/
theorem OnDisplay.settle (h : OnDisplay base whole top s) (n : Nat)
    {change : Region Nat → Option (Region Nat)}
    (hchange : ∀ r r', change r = some r' → r'.listeners = r.listeners) :
    Leads (settle tellView n change) s fun _ t => OnDisplay base whole top t ∧ Lasting s t ∧
      ResponseKept s t ∧ t.ui.views = s.ui.views ∧ t.regions = (s.settled n change).regions := by
  obtain ⟨path, hpath, hbase⟩ := h.settled
  refine (settle_leads hpath.toHoused n hchange).mono
    fun _ t ⟨ht, hviews, hlength, hdestroyed, hscreen, hregions⟩ => ?_
  have hlasting : Lasting s t :=
    .of_views hdestroyed fun e x hx => ⟨x, hviews ▸ hx, rfl, rfl, fun _ => rfl⟩
  have hkept : ResponseKept s t :=
    ⟨by rw [hscreen], by rw [hscreen], by rw [hscreen], by rw [hscreen]⟩
  refine ⟨h.of_kept hbase (hpath.repath ht hviews fun _ _ => rfl) (.of_length path hlength)
    (h.standing.congr hviews) hlasting hkept, hlasting, hkept, hviews, hregions⟩

theorem listeners_resolve? (image : Value) {r r' : Region Nat} (h : r.resolve? image = some r') :
    r'.listeners = r.listeners := by
  unfold Region.resolve? at h
  split at h
  · cases h
  · rw [← Option.some.inj h]

theorem listeners_fail? {r r' : Region Nat} (h : r.fail? = some r') :
    r'.listeners = r.listeners := by
  unfold Region.fail? at h
  split at h
  · cases h
  · rw [← Option.some.inj h]

theorem OnDisplay.destroy (h : OnDisplay base whole top s)
    (hsound : (DisplayStep.destroy v).Sound whole top s) :
    Leads (Session.destroy v) s fun _ t => OnDisplay base whole top t ∧ Lasting s t ∧
      Torn (Under s v) s t := by
  obtain ⟨path, hpath, hbase⟩ := h.settled
  refine ((destroy_leads hpath v).and_keeps (keeps_destroy (R := ResponseKept) v)).mono
    fun _ t ⟨⟨ht, htorn⟩, hkept⟩ => ?_
  have hs : Standing whole top t := by
    refine h.standing.torn htorn (fun e y c hunder hy hc => hunder.step hy hc) ?_
    intro e y c hy he hsome hr hc hunder
    refine (hunder.owner hpath.toForest hy hc).resolve_left ?_
    rintro rfl
    exact hsound e y hy he hsome hr hc
  have hgrown : Outgrows path path s t := .of_length path (by rw [htorn.widgets])
  exact ⟨h.of_kept hbase ht hgrown hs htorn.lasting hkept, htorn.lasting, htorn⟩

/-! Before and after any step -/

/-- Where view `c` alone may be mounted in no other view, all mounted views are within it. -/
theorem OnDisplay.under (h : OnDisplay base whole (· = c) s) (hx : s.ui.views[e]? = some x)
    (hsome : x.root.isSome = true) :
    Under s c e ∧ ∃ y, s.ui.views[c]? = some y ∧ y.root.isSome = true := by
  obtain ⟨path, hpath, -⟩ := h.settled
  induction e using Nat.strongRecOn generalizing x with
  | ind e ih =>
    rcases h.standing.held e x hx hsome with rfl | ⟨o, y, hy, hysome, hmem⟩
    · exact ⟨.self, x, hx, hsome⟩
    · obtain ⟨hunder, htop⟩ := ih o (hpath.later o y hy e hmem).1 hy hysome
      exact ⟨hunder.step hy hmem, htop⟩

/-- Where no view may be mounted in no other view, none is mounted. -/
theorem OnDisplay.not_mounted (h : OnDisplay base whole (fun _ => False) s)
    (hx : s.ui.views[e]? = some x) : x.root = none := by
  obtain ⟨path, hpath, -⟩ := h.settled
  by_contra hroot
  have hsome := Option.isSome_iff_ne_none.2 hroot
  induction e using Nat.strongRecOn generalizing x with
  | ind e ih =>
    rcases h.standing.held e x hx hsome with hfalse | ⟨o, y, hy, hysome, hmem⟩
    · exact hfalse
    · exact ih o (hpath.later o y hy e hmem).1 hy (Option.isSome_iff_ne_none.1 hysome) hysome

/-- Nothing is mounted yet, no view owns another one, and nobody listens to a region. -/
structure Idle (s : Session Ui) : Prop where
  grown : s.ui.kit.Grown
  stands : s.ui.kit.isAlive window = true
  screen : s.ui.screen.view < s.ui.views.length
  views : ∀ x ∈ s.ui.views, x.ended = x
  sort : ∀ x ∈ s.ui.views, x.kind.isGroup = true ∧ x.renderable = none ∨
    ∃ r : Renderable, x.renderable = some r.visible ∧ x.kind = .ofRenderable r
  within : ∀ x ∈ s.ui.views, ∀ r, x.renderable = some r →
    ∀ n ∈ cardRegions [r], n < s.regions.length
  silent : ∀ r ∈ s.regions, r.listeners = []

theorem Idle.display (h : Idle s) (whole top : Nat → Prop) :
    OnDisplay s.ui.kit.widgets.length whole top s := by
  have hended {v : Nat} {x : View} (hx : s.ui.views[v]? = some x) : x.ended = x :=
    h.views x (List.mem_of_getElem? hx)
  have hroot {v : Nat} {x : View} (hx : s.ui.views[v]? = some x) : x.root = none :=
    (congrArg View.root (hended hx)).symm
  have hparts {v : Nat} {x : View} (hx : s.ui.views[v]? = some x) : x.parts = .none :=
    (congrArg View.parts (hended hx)).symm
  have halone {v c : Nat} {x : View} (hx : s.ui.views[v]? = some x) : c ∉ x.components := by
    rw [← hended hx]
    exact List.not_mem_nil
  have hmounted {v : Nat} {x : View} (hx : s.ui.views[v]? = some x) : ¬x.root.isSome = true := by
    rw [hroot hx]
    exact Bool.false_ne_true
  have hfollows (v label n : Nat) : ¬Follows s.ui v label n := by
    intro hfollow
    obtain ⟨x, hx, hcard, -⟩ := follows_iff.1 hfollow
    rw [hparts hx] at hcard
    cases hcard
  have howns {v w : Nat} {x : View} (hx : s.ui.views[v]? = some x) : ¬x.Owns w := by
    rintro (hw | hw)
    · rw [hroot hx] at hw
      cases hw
    · rw [hparts hx] at hw
      exact absurd hw List.not_mem_nil
  have hhoused : Housed (fun _ => []) s :=
    ⟨⟨h.grown, h.stands, rfl, fun _ _ _ => .inl rfl,
        fun v x hx => ⟨[], fun w hw => absurd hw (howns hx)⟩⟩,
      ⟨fun v x hx c hc => absurd hc (halone hx), fun u v x y hx hy c hc => absurd hc (halone hx),
        h.sort, fun v x hx c hc => absurd hc (halone hx)⟩,
      ⟨h.within, fun n r hr => ?_, fun v label n r hfollow => absurd hfollow (hfollows v label n)⟩⟩
  · refine ⟨⟨_, ⟨hhoused, fun e x w hx hw => absurd (.inl hw) (howns hx),
      fun e x hx _ => hparts hx⟩, fun _ _ => rfl⟩, Nat.le_refl _, ⟨?_, ?_, ?_⟩, h.screen⟩
    · exact fun e x hx hsome => absurd hsome (hmounted hx)
    · exact fun e x hx hsome => absurd hsome (hmounted hx)
    · exact fun e x hx hsome => absurd hsome (hmounted hx)
  · rw [h.silent r (List.mem_of_getElem? hr)]
    exact ⟨List.nodup_nil, fun v => iff_of_false List.not_mem_nil fun ⟨l, hl⟩ => hfollows v l n hl⟩

/-- A screen that is not mounted, in a window that is empty. -/
def vacant : Session Ui := next (makeScreen "screen" 50 {}) { ui := {} }

theorem idle_vacant : Idle vacant where
  grown := Toolkit.grown_withWindow
  stands := rfl
  screen := by decide +kernel
  views := by
    intro x hx
    obtain rfl := List.mem_singleton.1 hx
    rfl
  sort := by
    intro x hx
    obtain rfl := List.mem_singleton.1 hx
    exact .inl ⟨rfl, rfl⟩
  within := by
    intro x hx r hr
    obtain rfl := List.mem_singleton.1 hx
    cases hr
  silent := fun r hr => absurd hr List.not_mem_nil

theorem OnDisplay.step (h : OnDisplay base whole top s) {step : DisplayStep}
    (hperm : step.Permitted base s) (hsound : step.Sound whole top s) :
    OnDisplay base whole top (next step.act s) ∧ Lasting s (next step.act s) := by
  have hnext {α : Type} {m : Act Ui α} {Q : α → Session Ui → Prop} (hm : Leads m s Q)
      (hQ : ∀ a t, Q a t → OnDisplay base whole top t ∧ Lasting s t) :
      OnDisplay base whole top (next m s) ∧ Lasting s (next m s) := by
    obtain ⟨a, -, ha⟩ := hm.next
    exact hQ a _ ha
  cases step with
  | region url =>
    rw [DisplayStep.act, next_discard]
    exact hnext (h.region url) fun _ _ ht => ht.2
  | make r packing =>
    rw [DisplayStep.act, next_discard]
    exact hnext (h.make hperm packing) fun _ _ ht => ht.2.2
  | mount v q => exact hnext (h.mount hperm hsound) fun _ _ => id
  | page v index => exact hnext (h.page v index) fun _ _ ht => ⟨ht.1, ht.2.1⟩
  | turn v forward => exact hnext (h.turn v forward) fun _ _ ht => ⟨ht.1, ht.2.1⟩
  | resolve n image =>
    rw [DisplayStep.act, next_discard]
    exact hnext (h.settle n fun _ _ => listeners_resolve? image) fun _ _ ht => ⟨ht.1, ht.2.1⟩
  | fail n =>
    rw [DisplayStep.act, next_discard]
    exact hnext (h.settle n fun _ _ => listeners_fail?) fun _ _ ht => ⟨ht.1, ht.2.1⟩
  | response response =>
    rw [DisplayStep.act, next_discard]
    obtain ⟨r, t, hexec, ht, hlasting, -⟩ := h.response hsound response
    rw [next, hexec]
    exact ⟨ht, hlasting⟩
  | destroy v => exact hnext (h.destroy hsound) fun _ _ ht => ⟨ht.1, ht.2.1⟩

/-- Whatever is done to views, everything is in its place, and views show what they have shown. -/
theorem OnDisplay.run (h : OnDisplay base (fun _ => False) (fun _ => True) s)
    {steps : List DisplayStep} (hsteps : Along (DisplayStep.Permitted base) s steps) :
    OnDisplay base (fun _ => False) (fun _ => True) (runDisplay s steps) ∧
      Lasting s (runDisplay s steps) := by
  have hstep : ∀ t step, OnDisplay base (fun _ => False) (fun _ => True) t ∧ Lasting s t →
      DisplayStep.Permitted base t step →
      OnDisplay base (fun _ => False) (fun _ => True) (next step.act t) ∧
        Lasting s (next step.act t) := by
    intro t step ht hperm
    obtain ⟨hnext, hlasting⟩ := ht.1.step hperm (step.sound_anywhere t)
    exact ⟨hnext, ht.2.trans hlasting⟩
  exact hsteps.run hstep ⟨h, Std.Refl.refl s⟩

end Session
end RemoteScreen
