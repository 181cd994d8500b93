import RemoteScreen.Proofs.View.Display
import RemoteScreen.Proofs.View.Seclusion

/-! Carousels. The index, the page, the label and the two buttons of a mounted carousel are changed one
after the other, by rules of their own; after each turn they agree again. Only mounting does not look
at the index that the carousel has kept: it shows the first page whatever the label says. -/
namespace RemoteScreen
namespace Session

open Renderable (cardRegions clampPage pageLabel)

variable {s t u : Session Ui} {k : Toolkit Command} {path path' : Nat → List Nat} {x y : View}
  {r : Renderable} {pages : List Renderable} {id title text : String} {height : Int}
  {v q c w host previous label next index shown : Nat}

/-! The label and the buttons -/

/-- The label of a carousel reads `text`, and its two buttons can be pressed as `back` and `forth`
say. -/
structure Announces (k : Toolkit Command) (previous label next : Nat) (text : String)
    (back forth : Prop) : Prop where
  standing : ∀ w ∈ [previous, label, next], k.isAlive w = true
  apart : previous ≠ next
  reads : (k.aspects? label).bind (List.lookup "text") = some (.text text)
  back : ∃ b, k.widgets[previous]? = some b ∧ (b.isDisabled = false ↔ back)
  forth : ∃ b, k.widgets[next]? = some b ∧ (b.isDisabled = false ↔ forth)

/-- Widgets whose label and buttons have been set for a page. -/
def announced (k : Toolkit Command) (previous label next count index : Nat) : Toolkit Command :=
  ((k.update label fun x => { x with
    aspects := Toolkit.overlay x.aspects [("text", .text (pageLabel count index))] }).update previous
      fun x => x.setDisabled (index == 0)).update next fun x => x.setDisabled (count ≤ index + 1)

theorem exec_syncNavigation (hx : s.ui.views[v]? = some x)
    (hparts : x.parts = .carousel host previous label next)
    (hlabel : s.ui.kit.isAlive label = true) : exec (syncNavigation v) s =
      (.ok ⟨⟩, s.withKit (announced s.ui.kit previous label next x.pages.length x.index)) := by
  rw [syncNavigation, exec_bind, exec_view?, hx]
  dsimp only
  rw [hparts]
  dsimp only
  rw [exec_bind, exec_configure hlabel]
  rfl

theorem isAlive_announced (k : Toolkit Command) (previous label next count index w : Nat) :
    (announced k previous label next count index).isAlive w = k.isAlive w := by
  have hlength : (announced k previous label next count index).widgets.length = k.widgets.length := by
    rw [announced, length_update, length_update, length_update]
  exact Toolkit.isAlive_congr hlength rfl w

theorem getElem?_update_self {f : Widget Command → Widget Command} {b : Widget Command}
    (hb : k.widgets[w]? = some b) : (k.update w f).widgets[w]? = some (f b) := by
  rw [Toolkit.update, List.getElem?_modify, hb]
  simp

theorem getElem?_update_ne {f : Widget Command → Widget Command} (h : w ≠ c) :
    (k.update w f).widgets[c]? = k.widgets[c]? := by
  rw [Toolkit.update, List.getElem?_modify_ne _ _ h]

theorem aspects_setDisabled (b : Widget Command) (on : Bool) :
    (b.setDisabled on).aspects = b.aspects := by
  unfold Widget.setDisabled
  split
  · split <;> rfl
  · rfl

/-- Once they have been set, the label and the buttons say what they have been set to. -/
theorem announces_announced (hstanding : ∀ w ∈ [previous, label, next], k.isAlive w = true)
    (hapart : previous ≠ next) (count index : Nat) :
    Announces (announced k previous label next count index) previous label next
      (pageLabel count index) (0 < index) (index + 1 < count) := by
  let named (x : Widget Command) : Widget Command := { x with
    aspects := Toolkit.overlay x.aspects [("text", .text (pageLabel count index))] }
  let k₁ := k.update label named
  let k₂ := k₁.update previous fun x => x.setDisabled (index == 0)
  have hlength : k₁.widgets.length = k.widgets.length := length_update k label named
  have hlt (w : Nat) (hw : w ∈ [previous, label, next]) : w < k.widgets.length :=
    Toolkit.lt_of_isAlive (hstanding w hw)
  have hprevious : previous < k₁.widgets.length := hlength.symm ▸ hlt previous (by simp)
  have hnext : next < k₂.widgets.length := by
    rw [length_update, hlength]
    exact hlt next (by simp)
  refine ⟨fun w hw => (isAlive_announced _ _ _ _ _ _ w).trans (hstanding w hw), hapart, ?_, ?_, ?_⟩
  · have haspects : (announced k previous label next count index).aspects? label =
        k₁.aspects? label := by
      refine (Toolkit.aspects?_update (fun b => aspects_setDisabled b _) label).trans ?_
      exact Toolkit.aspects?_update (fun b => aspects_setDisabled b _) label
    rw [haspects, Toolkit.aspects?_update_self (hlt label (by simp)), Option.bind_some]
    let text : Aspects Command := [("text", .text (pageLabel count index))]
    have hnodup : (text.map Prod.fst).Nodup := List.nodup_singleton "text"
    exact wears_overlay hnodup _ _ List.mem_cons_self
  · refine ⟨_, (getElem?_update_ne hapart.symm).trans
      (getElem?_update_self (List.getElem?_eq_getElem hprevious)), ?_⟩
    rw [Widget.isDisabled_setDisabled, beq_eq_false_iff_ne, Nat.pos_iff_ne_zero]
  · refine ⟨_, getElem?_update_self (List.getElem?_eq_getElem hnext), ?_⟩
    rw [Widget.isDisabled_setDisabled, decide_eq_false_iff_not, Nat.not_le]

/-- Label and buttons that have not changed say what they said. -/
theorem Announces.congr {back forth : Prop} (h : Announces k previous label next text back forth)
    {k' : Toolkit Command} (hstanding : ∀ w ∈ [previous, label, next], k'.isAlive w = true)
    (hwidgets : ∀ w < k.widgets.length, k'.widgets[w]? = k.widgets[w]?) :
    Announces k' previous label next text back forth := by
  have hsame (w : Nat) (hw : w ∈ [previous, label, next]) : k'.widgets[w]? = k.widgets[w]? :=
    hwidgets w (Toolkit.lt_of_isAlive (h.standing w hw))
  refine ⟨hstanding, h.apart, ?_, ?_, ?_⟩
  · rw [Toolkit.aspects?, hsame label (by simp)]
    exact h.reads
  · rw [hsame previous (by simp)]
    exact h.back
  · rw [hsame next (by simp)]
    exact h.forth

/-- Widgets look as they did, wherever they have been put. -/
structure Alike (s t : Session Ui) : Prop where
  aspects : ∀ w, t.ui.kit.aspects? w = s.ui.kit.aspects? w
  states : ∀ w : Nat,
    (t.ui.kit.widgets[w]?).map Widget.states = (s.ui.kit.widgets[w]?).map Widget.states

instance : IsPreorder (Session Ui) Alike where
  refl _ := ⟨fun _ => rfl, fun _ => rfl⟩
  trans _ _ _ h k :=
    ⟨fun w => (k.aspects w).trans (h.aspects w), fun w => (k.states w).trans (h.states w)⟩

theorem pack_alike (w : Nat) (packing : Attributes) : Keeps Alike (pack w packing) := by
  refine keeps_onKit fun s k _ hk => ?_
  obtain ⟨k', hpack, hpair⟩ := Option.map_eq_some_iff.1 hk
  obtain rfl : k' = k := (Prod.mk.inj hpair).1
  obtain rfl := Option.some.inj (Option.ite_none_right_eq_some.1 hpack).2
  refine ⟨fun c => ?_, fun c => ?_⟩ <;> dsimp only
  · rw [Toolkit.aspects?_update]
    exact fun _ => rfl
  · rw [Toolkit.update, List.getElem?_modify]
    cases s.ui.kit.widgets[c]? with
    | none => rfl
    | some b =>
      refine congrArg some ?_
      dsimp only
      split <;> rfl

theorem whenIdle_alike (w : Nat) (command : Command) : Keeps Alike (whenIdle w command) := by
  refine keeps_onKit fun s k _ hk => ?_
  obtain ⟨k', hidle, hpair⟩ := Option.map_eq_some_iff.1 hk
  obtain rfl : k' = k := (Prod.mk.inj hpair).1
  obtain rfl := Option.some.inj (Option.ite_none_right_eq_some.1 hidle).2
  exact ⟨fun _ => rfl, fun _ => rfl⟩

theorem layoutDeep_alike (fuel : Nat) : ∀ v, Keeps Alike (layoutDeep fuel v) := by
  induction fuel with
  | zero => exact fun _ => keeps_pure _
  | succ fuel ih =>
    intro v
    refine keeps_bind (keeps_view? v) fun x => ?_
    split
    · split
      · refine keeps_bind (pack_alike _ _) fun _ => keeps_bind (keeps_forM ih) fun _ => ?_
        split
        · exact whenIdle_alike _ _
        · exact keeps_pure _
      · exact keeps_pure _
    · exact keeps_pure _

/-- To lay a view out does not change what it says. -/
theorem layout_alike (v : Nat) : Keeps Alike (layout v) :=
  keeps_bind (keeps_bind keeps_theUi fun _ => keeps_pure _) fun _ => layoutDeep_alike _ _

theorem Announces.alike {back forth : Prop}
    (h : Announces s.ui.kit previous label next text back forth) (k : Alike s t)
    (hstanding : ∀ w ∈ [previous, label, next], t.ui.kit.isAlive w = true) :
    Announces t.ui.kit previous label next text back forth := by
  have hbutton {w : Nat} {on : Prop}
      (hw : ∃ b, s.ui.kit.widgets[w]? = some b ∧ (b.isDisabled = false ↔ on)) :
      ∃ b, t.ui.kit.widgets[w]? = some b ∧ (b.isDisabled = false ↔ on) := by
    obtain ⟨b, hb, hon⟩ := hw
    have hsame := k.states w
    rw [hb, Option.map_some] at hsame
    obtain ⟨b', hb', hstates⟩ := Option.map_eq_some_iff.1 hsame
    refine ⟨b', hb', ?_⟩
    rw [Widget.isDisabled, hstates]
    exact hon
  exact ⟨hstanding, h.apart, k.aspects label ▸ h.reads, hbutton h.back, hbutton h.forth⟩

/-! Pages in their place -/

/-- View `c` has been made for a renderable and is mounted in widget `host`. -/
def Holds (s : Session Ui) (host : Nat) (r : Renderable) (c : Nat) : Prop :=
  ∃ y w, s.ui.views[c]? = some y ∧ y.kind = .ofRenderable r ∧ y.renderable = some r.visible ∧
    y.root = some w ∧ s.ui.kit.isAlive w = true ∧ s.ui.kit.parent? w = some host

theorem Holds.still (h : Holds s host r c) (k : Still s t) : Holds t host r c := by
  obtain ⟨y, w, hy, hkind, hrenderable, hroot, halive, hparent⟩ := h
  exact ⟨y, w, k.views.symm ▸ hy, hkind, hrenderable, hroot, (k.isAlive w).trans halive,
    (k.parents w).trans hparent⟩

/-- A mounted carousel of `pages`: in its page host is one view, for page `shown` if there is one, and
the label and the buttons are as they are to be at `index`. -/
structure Paged (pages : List Renderable) (shown index : Nat) (text : String) (s : Session Ui)
    (x : View) : Prop where
  shows : x.pages = pages
  mounted : x.root.isSome = true
  turned : x.index = index
  parts : ∃ host previous label next, x.parts = .carousel host previous label next ∧
    List.Forall₂ (Holds s host) pages[shown]?.toList x.components ∧
    Announces s.ui.kit previous label next text (0 < index) (index + 1 < pages.length)

/-- A carousel that is laid out stays as it is. -/
theorem Paged.laidOut (h : Paged pages shown index text s x) (k : Still s t) (halike : Alike s t) :
    Paged pages shown index text t x where
  shows := h.shows
  mounted := h.mounted
  turned := h.turned
  parts := by
    obtain ⟨host, previous, label, next, hparts, hholds, hannounces⟩ := h.parts
    refine ⟨host, previous, label, next, hparts, hholds.imp fun _ _ hr => hr.still k, ?_⟩
    exact hannounces.alike halike fun w hw => (k.isAlive w).trans (hannounces.standing w hw)

/-! Mounting -/

/-- The view that was made last is mounted for a renderable. -/
theorem mountShown_holds (h : Settled path t) (hy : Made r y) (hc : c + 1 = s.ui.views.length)
    (hview : s.ui.views[c]? = some y) {built : Renderable} {a : Unit}
    (hexec : exec (mountShown built c host) s = (.ok a, t)) :
    Unmoved s.ui.kit.widgets.length c s t ∧ Holds t host r c := by
  obtain ⟨hunmoved, z, hz, hkind, hrenderable, hroot, hparent⟩ :=
    mountShown_newest hc hview hy.parts hexec
  obtain ⟨vs, hown⟩ := h.own c z hz
  exact ⟨hunmoved, z, _, hz, hkind.trans hy.kind, hrenderable.trans hy.renderable, hroot,
    (hown _ (.inl hroot)).1, hparent⟩

/-- A carousel that has been built shows its first page, and announces the page it is at. -/
theorem paged_mountFirst (hx : s.ui.views[v]? = some x) (hpages : x.pages = pages)
    (hparts : x.parts = .carousel host previous label next) (hcomponents : x.components = [])
    (hstanding : ∀ w ∈ [previous, label, next], s.ui.kit.isAlive w = true)
    (hapart : previous ≠ next) {frame : Nat} {a : Unit}
    (hexec : exec (mountFirst pages v frame host) s = (.ok a, t)) (ht : Settled path' t) :
    ∃ y, t.ui.views[v]? = some y ∧
      Paged pages 0 x.index (pageLabel pages.length x.index) t y := by
  have hannounces := announces_announced hstanding hapart pages.length x.index
  cases pages with
  | nil =>
    rw [mountFirst] at hexec
    obtain ⟨_, s₁, hsync, hset⟩ := exec_bind_eq_ok hexec
    rw [exec_syncNavigation hx hparts (hstanding label (by simp))] at hsync
    obtain ⟨-, rfl⟩ := Prod.mk.inj hsync
    obtain ⟨-, rfl⟩ := Prod.mk.inj ((exec_updateView v _ _).symm.trans hset)
    refine ⟨_, withView_self hx (View.rooted frame), hpages, rfl, rfl, host, previous, label, next, hparts, ?_, ?_⟩
    · rw [show (x.rooted frame).components = [] from hcomponents]
      exact .nil
    · rw [hpages]
      exact hannounces
  | cons r rest =>
    obtain ⟨z, named, s', hz, hsync, hmount⟩ := exec_mountFirst_cons hexec
    let c := s.ui.views.length
    have hv : v < c := (List.getElem?_eq_some_iff.1 hx).1
    have hcv : c ≠ v := Nat.ne_of_gt hv
    have hx₁ : ((s.withNew z named).withView v (View.owning c)).ui.views[v]? = some (x.owning c) :=
      withView_self ((withNew_old hv).trans hx) _
    rw [exec_syncNavigation hx₁ hparts (hstanding label (by simp))] at hsync
    obtain ⟨-, rfl⟩ := Prod.mk.inj hsync
    rw [show (x.owning c).pages = _ from hpages] at hmount
    let s₂ : Session Ui := ((s.withNew z named).withView v (View.owning c)).withKit
      (announced s.ui.kit previous label next (r :: rest).length x.index)
    have hx₂ : (s₂.withView v (View.rooted frame)).ui.views[v]? = some ((x.owning c).rooted frame) :=
      withView_self (s := s₂) hx₁ _
    have hz₂ : (s₂.withView v (View.rooted frame)).ui.views[c]? = some z :=
      (withView_ne (s := s₂) _ hcv).trans ((withView_ne _ hcv).trans (withNew_self s z named))
    have hlength : c + 1 = (s₂.withView v (View.rooted frame)).ui.views.length := by
      rw [length_withView]
      exact ((length_withView _ v _).trans (length_withNew s z named)).symm
    -- The page is mounted by making widgets, so the label and the buttons stay as they have been set.
    obtain ⟨hunmoved, hholds⟩ := mountShown_holds ht hz hlength hz₂ hmount
    have hxt : t.ui.views[v]? = some ((x.owning c).rooted frame) := (hunmoved.views v hv).trans hx₂
    obtain ⟨vs, hown⟩ := ht.own v _ hxt
    refine ⟨_, hxt, hpages, rfl, rfl, host, previous, label, next, hparts, .cons hholds .nil, ?_⟩
    refine hannounces.congr (fun w hw => (hown w (.inr ?_)).1) hunmoved.widgets
    rw [show ((x.owning c).rooted frame).parts = _ from hparts]
    exact List.mem_cons_of_mem _ hw

theorem paged_mountShown (h : Mountable path s (.carousel id title pages height) v q x) {a : Unit}
    (hexec : exec (mountShown (.carousel id title pages height) v q) s = (.ok a, t))
    (ht : Settled path' t) : ∃ y, t.ui.views[v]? = some y ∧
      Paged pages 0 x.index (pageLabel pages.length x.index) t y := by
  have hpages : x.pages = pages := by
    rw [View.pages, h.renderable]
    rfl
  rw [mountShown] at hexec
  obtain ⟨⟨frame, host⟩, s₁, hbuild, hfirst⟩ := exec_bind_eq_ok hexec
  obtain ⟨u, previous, label, next, hu, rfl, -, hfresh, hapart⟩ :=
    (buildCarousel_leads (h.housed.grown.site h.place) v title height).of_ok hbuild
  let furnish := View.furnished (.carousel host previous label next)
  have hviews : u.ui.views = s.ui.views := by
    rw [hu.eq]
    rfl
  have hx₁ : (u.withView v furnish).ui.views[v]? = some (furnish x) :=
    withView_self (hviews ▸ h.view) furnish
  have hstanding (w : Nat) (hw : w ∈ [previous, label, next]) : u.ui.kit.isAlive w = true :=
    (hfresh w (List.mem_cons_of_mem _ hw)).isAlive hu.site
  exact paged_mountFirst (s := u.withView v furnish) (x := furnish x) hx₁ hpages rfl rfl hstanding
    hapart hfirst ht

theorem mountCarousel_leads (h : Settled path s) (hx : s.ui.views[v]? = some x)
    (hroot : x.root = none) (hr : x.renderable = some (.carousel id title pages height))
    (hq : s.ui.kit.isAlive q = true) (hplace : Place path s v q) :
    Leads (mount v q) s fun _ t => (∃ path', Settled path' t) ∧ ∃ y, t.ui.views[v]? = some y ∧
      Paged pages 0 x.index (pageLabel pages.length x.index) t y := by
  have hmountable : Mountable path s (.carousel id title pages height) v q x :=
    ⟨h.toHoused, hx, hroot, h.bare v x hx hroot, hr, hq⟩
  have hdepth : exec depth s = (.ok (s.ui.views.length + 1), s) := rfl
  refine leads_bind_eq hdepth ?_
  have hmount := mountDeep_leads (r := .carousel id title pages height) h hx hroot hr hq hplace
  refine (hmount _).and_exec.mono ?_
  rintro _ t ⟨⟨path', ht, -⟩, hexec⟩
  rw [exec_mountDeep h.toForest hx hr] at hexec
  exact ⟨⟨path', ht⟩, paged_mountShown hmountable hexec ht⟩

/-! Turning -/

theorem Paged.announces {a : Unit} (hx : s.ui.views[v]? = some x)
    (hparts : x.parts = .carousel host previous label next)
    (hstanding : ∀ w ∈ [previous, label, next], s.ui.kit.isAlive w = true)
    (hapart : previous ≠ next) (hexec : exec (syncNavigation v) s = (.ok a, t)) :
    Announces t.ui.kit previous label next (pageLabel x.pages.length x.index) (0 < x.index)
      (x.index + 1 < x.pages.length) := by
  rw [exec_syncNavigation hx hparts (hstanding label (by simp))] at hexec
  obtain ⟨-, rfl⟩ := Prod.mk.inj hexec
  exact announces_announced hstanding hapart _ _

/-- A mounted view has taken in a new view: it has mounted it in its place, and laid it out. -/
theorem addComponent_eq_ok (h : Settled path s) (hx : s.ui.views[v]? = some x)
    (hroot : x.root = some w) (hq : x.childParent? = some q) (hy : Made r y)
    (hr : ∀ n ∈ cardRegions [r], n < s.regions.length) {named : Nat} {a : Unit}
    (hexec : exec (addComponent v s.ui.views.length) (s.withNew y named) = (.ok a, t)) :
    ∃ s₁ s₂, Settled path s₁ ∧ s₁.ui.views[s.ui.views.length]? = some y ∧
      s.ui.views.length + 1 = s₁.ui.views.length ∧ s₁.ui.kit.isAlive q = true ∧
      Place path s₁ s.ui.views.length q ∧ exec (mount s.ui.views.length q) s₁ = (.ok ⟨⟩, s₂) ∧
      exec (layout s.ui.views.length) s₂ = (.ok ⟨⟩, t) := by
  let c := s.ui.views.length
  let s₁ : Session Ui := (s.withNew y named).withView v (adopting c)
  have h₁ : Settled path s₁ := h.adopts hx hy hr named
  have hv : v < c := (List.getElem?_eq_some_iff.1 hx).1
  have hx₀ : (s.withNew y named).ui.views[v]? = some x := (withNew_old hv).trans hx
  have hx₁ : s₁.ui.views[v]? = some (adopting c x) := withView_self hx₀ _
  have hc₁ : s₁.ui.views[c]? = some y :=
    (withView_ne _ (Nat.ne_of_gt hv)).trans (withNew_self s y named)
  have hlength : c + 1 = s₁.ui.views.length := by
    rw [length_withView, length_withNew]
  obtain ⟨q', hq', hchild⟩ := exists_childParent? hroot
  obtain rfl := Option.some.inj (hq.symm.trans hchild)
  obtain ⟨vs, hown⟩ := h₁.own v _ hx₁
  have hplace : Place path s₁ c q :=
    h₁.toHoused.place hx₁ hroot hq' (List.mem_append_right _ (List.mem_singleton_self c))
  rw [exec_addComponent_of_some hx₀ hroot hq] at hexec
  obtain ⟨_, s₂, hmount, hlayout⟩ := exec_bind_eq_ok hexec
  exact ⟨s₁, s₂, h₁, hc₁, hlength, (hown q hq').1, hplace, hmount, hlayout⟩

/-- A mounted carousel that has taken in a new view has mounted it in its page host. -/
theorem addComponent_holds (h : Settled path s) (hx : s.ui.views[v]? = some x)
    (hroot : x.root = some w) (hparts : x.parts = .carousel host previous label next)
    (hy : Made r y) (hr : ∀ n ∈ cardRegions [r], n < s.regions.length) {named : Nat} {a : Unit}
    (hexec : exec (addComponent v s.ui.views.length) (s.withNew y named) = (.ok a, t)) :
    Holds t host r s.ui.views.length := by
  have hchild : x.childParent? = some host := by rw [View.childParent?, hparts]
  obtain ⟨s₁, s₂, h₁, hc₁, hlength, halive, hplace, hmount, hlayout⟩ :=
    addComponent_eq_ok h hx hroot hchild hy hr hexec
  have hdepth : exec depth s₁ = (.ok (s₁.ui.views.length + 1), s₁) := rfl
  rw [mount, exec_bind, hdepth] at hmount
  obtain ⟨path', h₂, -⟩ :=
    (mountDeep_leads h₁ hc₁ hy.root hy.renderable halive hplace _).of_ok hmount
  dsimp only at hmount
  rw [exec_mountDeep h₁.toForest hc₁ hy.renderable] at hmount
  exact (mountShown_holds h₂ hy hlength hc₁ hmount).2.still
    ((layout_still h₂.toHoused _).of_ok hlayout)

/-- A carousel that a mounted view has taken in shows its first page. -/
theorem addComponent_paged (h : Settled path s) (hx : s.ui.views[v]? = some x)
    (hroot : x.root = some w) (hy : Made (.carousel id title pages height) y)
    (hr : ∀ n ∈ cardRegions [.carousel id title pages height], n < s.regions.length) {named : Nat}
    {a : Unit} (hexec : exec (addComponent v s.ui.views.length) (s.withNew y named) = (.ok a, t)) :
    ∃ z, t.ui.views[s.ui.views.length]? = some z ∧
      Paged pages 0 0 (pageLabel pages.length 0) t z := by
  obtain ⟨q, -, hchild⟩ := exists_childParent? hroot
  obtain ⟨s₁, s₂, h₁, hc₁, -, halive, hplace, hmount, hlayout⟩ :=
    addComponent_eq_ok h hx hroot hchild hy hr hexec
  obtain ⟨⟨path₂, h₂⟩, z, hz, hpaged⟩ :=
    (mountCarousel_leads h₁ hc₁ hy.root hy.renderable halive hplace).of_ok hmount
  rw [hy.index] at hpaged
  have hstill := (layout_still h₂.toHoused _).of_ok hlayout
  have halike := layout_alike s.ui.views.length s₂
  rw [next, hlayout] at halike
  exact ⟨z, hstill.views ▸ hz, hpaged.laidOut hstill halike⟩

/-- View `v` has turned to another page: the views below it have been destroyed, and of the views that
there were only itself is left. -/
structure Turns (v : Nat) (s t : Session Ui) : Prop where
  ended : ∀ (e : Nat) (y : View), s.ui.views[e]? = some y → Under s v e → e ≠ v →
    t.ui.views[e]? = some y.ended ∧ ∀ w, y.root = some w → w ∈ t.ui.kit.destroyed
  below : ∀ e < s.ui.views.length, Under t v e → e = v

theorem Turns.still (h : Turns v s t) (k : Still t u) : Turns v s u where
  ended := by
    intro e y hy hunder hne
    rw [k.views, k.destroyed]
    exact h.ended e y hy hunder hne
  below := by
    intro e he hunder
    exact h.below e he ((under_congr fun _ => by rw [k.views]).1 hunder)

/-- The index of the carousel does not matter. -/
theorem Turns.of_leafed {i : Nat} (h : Turns v (s.withView v (View.leafed i)) t)
    (hx : s.ui.views[v]? = some x) : Turns v s t where
  ended := fun e y hy hunder hne =>
    h.ended e y ((withView_ne _ hne).trans hy) ((under_leafed hx i v).2 hunder) hne
  below := by
    intro e he
    rw [← length_withView s v (View.leafed i)] at he
    exact h.below e he

/-- What there was has been destroyed, and a new view has been taken in. -/
theorem Takes.turns (h : Takes v r (u.withView v emptied) t) (hs : Forest s.ui.views)
    (ht : Forest t.ui.views) (hx : s.ui.views[v]? = some x)
    (htorn : Torn (fun e => ∃ c ∈ x.components, Under s c e) s u) : Turns v s t := by
  have hself : ¬∃ c ∈ x.components, Under s c v := by
    rintro ⟨c, hc, hunder⟩
    exact absurd (Under.le hs hunder) (Nat.not_le.2 (hs.later v x hx c hc).1)
  have hlength : (u.withView v emptied).ui.views.length = s.ui.views.length := by
    rw [length_withView, htorn.length]
  have hxt := h.owner _ (withView_self (htorn.kept v x hx hself) emptied)
  constructor
  · intro e y hy hunder hne
    have hbelow := ((under_iff hx).1 hunder).resolve_left hne
    have he := hlength.symm ▸ (List.getElem?_eq_some_iff.1 hy).1
    rw [h.others e he hne, withView_ne emptied hne, h.destroyed]
    exact ⟨htorn.ended e y hy hbelow, fun w hw => htorn.gone e y w hy hw hbelow⟩
  · intro e he hunder
    refine ((under_iff hxt).1 hunder).resolve_right ?_
    rintro ⟨c, hc, hbelow⟩
    obtain rfl := List.mem_singleton.1 hc
    have hle := Under.le ht hbelow
    omega

/-- A mounted carousel has turned to the nearest page there is. -/
theorem paged_showPage (h : Settled path s) (hx : s.ui.views[v]? = some x)
    (hpaged : Paged pages shown index text s x) (hpages : 0 < pages.length) {j : Int} {a : Unit}
    (hexec : exec (showPage v j) s = (.ok a, t)) :
    Turns v s t ∧ ∃ i : Nat, (i : Int) = clampPage pages.length j ∧ i < pages.length ∧
      ∃ y, t.ui.views[v]? = some y ∧ Paged pages i i (pageLabel pages.length i) t y := by
  obtain ⟨i, hi, hlt⟩ : ∃ i : Nat, (i : Int) = clampPage pages.length j ∧ i < pages.length := by
    refine ⟨(clampPage pages.length j).toNat, ?_, ?_⟩ <;> unfold clampPage <;> omega
  obtain ⟨host, previous, label, next, hparts, -, hannounces⟩ := hpaged.parts
  obtain ⟨w, hroot⟩ := Option.isSome_iff_exists.1 hpaged.mounted
  have hindex : (clampPage x.pages.length j).toNat = i := by
    rw [hpaged.shows, ← hi, Int.toNat_natCast]
  have hr : x.pages[i]? = some pages[i] := by
    rw [hpaged.shows]
    exact List.getElem?_eq_getElem hlt
  rw [showPage, exec_bind, exec_view?, hx] at hexec
  dsimp only at hexec
  rw [hindex, hr] at hexec
  dsimp only at hexec
  obtain ⟨_, s₁, hleaf, hexec⟩ := exec_bind_eq_ok hexec
  obtain ⟨-, rfl⟩ := Prod.mk.inj ((exec_updateView v _ s).symm.trans hleaf)
  have h₁ : Settled path (s.withView v (View.leafed i)) := h.leafed hx i
  have hx₁ : (s.withView v (View.leafed i)).ui.views[v]? = some (x.leafed i) := withView_self hx _
  -- What there was of another page goes.
  obtain ⟨_, s₂, hclear, hexec⟩ := exec_bind_eq_ok hexec
  obtain ⟨h₂, u, htorn, rfl⟩ := (clearComponents_leads h₁ hx₁).of_ok hclear
  have hself : ¬∃ c ∈ (x.leafed i).components, Under (s.withView v (View.leafed i)) c v := by
    rintro ⟨c, hc, hunder⟩
    exact absurd (Under.le h₁.toForest hunder) (Nat.not_le.2 (h₁.later v _ hx₁ c hc).1)
  have hx₂ : (u.withView v emptied).ui.views[v]? = some (emptied (x.leafed i)) :=
    withView_self (htorn.kept v _ hx₁ hself) emptied
  -- The page gets a view, which is mounted in the page host.
  obtain ⟨c, s₃, hview, hexec⟩ := exec_bind_eq_ok hexec
  obtain ⟨z, named, hz, hview'⟩ := exec_viewOf pages[i] View.pagePacking (u.withView v emptied)
  obtain ⟨hc, rfl⟩ := Prod.mk.inj (hview.symm.trans hview')
  obtain rfl := Except.ok.inj hc
  obtain ⟨_, s₄, hadd, hsync⟩ := exec_bind_eq_ok hexec
  obtain ⟨shown', hshown, hchild, -⟩ := pages_subset_children (List.mem_of_getElem? hr)
  have hregions := h₂.toFollowed.within_child hx₂
    (show (emptied (x.leafed i)).renderable = _ from hshown) hchild
  obtain ⟨path₄, h₄, -, htakes⟩ := (addComponent_leads h₂ hx₂ hz hregions named).of_ok hadd
  have hholds := addComponent_holds h₂ hx₂ hroot hparts hz hregions hadd
  have hstill := (syncNavigation_still h₄.toHoused v).of_ok hsync
  have hx₄ := htakes.owner _ hx₂
  have hxt : t.ui.views[v]? = _ := hstill.views.symm ▸ hx₄
  obtain ⟨vs, hown⟩ := h₄.own v _ hx₄
  have hstanding (w : Nat) (hw : w ∈ [previous, label, next]) : s₄.ui.kit.isAlive w = true := by
    refine (hown w (.inr ?_)).1
    rw [show (emptied (x.leafed i)).parts = _ from hparts]
    exact List.mem_cons_of_mem _ hw
  have hannounced := Paged.announces hx₄ hparts hstanding hannounces.apart hsync
  rw [show View.pages { emptied (x.leafed i) with components := _ } = pages from hpaged.shows]
    at hannounced
  have hturns : Turns v (s.withView v (View.leafed i)) s₄ := htakes.turns h₁.toForest h₄.toForest hx₁ htorn
  refine ⟨(hturns.of_leafed hx).still hstill, i, hi, hlt, _, hxt, hpaged.shows, hpaged.mounted, rfl,
    host, previous, label, next, hparts, ?_, hannounced⟩
  rw [List.getElem?_eq_getElem hlt]
  exact .cons (hholds.still hstill) .nil

/-! Runs -/

/-- What can be called on a carousel. -/
inductive Turn where
  | next
  | previous
  | page (index : Int)

namespace Turn

def act (v : Nat) : Turn → Act Ui Unit
  | .next => turnPage v true
  | .previous => turnPage v false
  | .page index => showPage v index

/-- Where a call wants to go from a page. -/
def target : Turn → Int → Int
  | .next, index => index + 1
  | .previous, index => index - 1
  | .page index, _ => index

/-- Where a call gets to: the nearest of `count` pages. -/
def land (count : Nat) (index : Int) (turn : Turn) : Int :=
  max 0 (min (turn.target index) (count - 1))

end Turn

theorem exec_turn (hx : s.ui.views[v]? = some x) (turn : Turn) :
    exec (turn.act v) s = exec (showPage v (turn.target x.index)) s := by
  cases turn with
  | next => simp [Turn.act, turnPage, hx, Turn.target]
  | previous => simp [Turn.act, turnPage, hx, Turn.target]
  | page index => rfl

/-- Carousel `v` is at page `i`, and everything is in its place. -/
structure OnPage (base v : Nat) (pages : List Renderable) (i : Nat) (s : Session Ui) : Prop where
  display : OnDisplay base (fun _ => False) (fun _ => True) s
  lt : i < pages.length
  paged : ∃ x, s.ui.views[v]? = some x ∧ Paged pages i i (pageLabel pages.length i) s x

theorem OnPage.turn {base i : Nat} (h : OnPage base v pages i s) (turn : Turn) :
    Leads (turn.act v) s fun _ t => (∃ j : Nat, (j : Int) = turn.land pages.length i ∧
      OnPage base v pages j t) ∧ Turns v s t ∧ Turned v s t ∧ Lasting s t := by
  obtain ⟨x, hx, hpaged⟩ := h.paged
  obtain ⟨path, hpath, -⟩ := h.display.settled
  have hshow : Leads (showPage v (turn.target x.index)) s _ := (h.display.page v _).and_exec
  refine Leads.of_exec (hshow.mono ?_) (exec_turn hx turn)
  rintro _ t ⟨⟨ht, hlasting, -, hturned⟩, hexec⟩
  obtain ⟨hturns, j, hj, hlt, hview⟩ :=
    paged_showPage hpath hx hpaged (Nat.zero_lt_of_lt h.lt) hexec
  rw [hpaged.turned] at hj
  exact ⟨⟨j, hj, ht, hlt, hview⟩, hturns, hturned, hlasting⟩

/-- Views that are not below view `v` stay as they are and outside of it, and what is destroyed stays
destroyed. -/
structure Since (v : Nat) (s t : Session Ui) : Prop where
  kept : ∀ (e : Nat) (y : View), s.ui.views[e]? = some y → ¬Under s v e →
    t.ui.views[e]? = some y ∧ ¬Under t v e
  destroyed : s.ui.kit.destroyed ⊆ t.ui.kit.destroyed

theorem Since.refl (v : Nat) (s : Session Ui) : Since v s s :=
  ⟨fun _ _ hy hnot => ⟨hy, hnot⟩, List.Subset.refl _⟩

theorem Since.trans (h : Since v s t) (k : Since v t u) : Since v s u where
  kept := by
    intro e y hy hnot
    obtain ⟨ht, hnot'⟩ := h.kept e y hy hnot
    exact k.kept e y ht hnot'
  destroyed := List.Subset.trans h.destroyed k.destroyed

theorem Turns.since (h : Turns v s t) (k : Turned v s t) (hlasting : Lasting s t) :
    Since v s t where
  kept := by
    intro e y hy hnot
    refine ⟨k.others e y hy hnot, fun hunder => hnot ?_⟩
    rw [h.below e (List.getElem?_eq_some_iff.1 hy).1 hunder]
    exact .self
  destroyed := hlasting.destroyed

theorem OnPage.turns {base i : Nat} (h : OnPage base v pages i s) (turns : List Turn) :
    Leads (turns.forM (Turn.act v)) s fun _ t =>
      (∃ j : Nat, (j : Int) = turns.foldl (Turn.land pages.length) i ∧ OnPage base v pages j t) ∧
      Since v s t := by
  induction turns generalizing s i with
  | nil => exact leads_pure ⟨⟨i, rfl, h⟩, .refl v s⟩
  | cons turn turns ih =>
    refine leads_bind (h.turn turn) ?_
    rintro _ t ⟨⟨j, hj, ht⟩, hturns, hturned, hlasting⟩
    refine (ih ht).mono ?_
    rintro _ u ⟨⟨l, hl, hu⟩, hsince⟩
    rw [hj] at hl
    exact ⟨⟨l, hl, hu⟩, (hturns.since hturned hlasting).trans hsince⟩

/-- Turning a carousel that has no pages changes nothing. -/
theorem exec_turns_empty (hx : s.ui.views[v]? = some x) (hpages : x.pages = []) (turns : List Turn) :
    exec (turns.forM (Turn.act v)) s = (.ok ⟨⟩, s) := by
  have hturn (turn : Turn) : exec (turn.act v) s = (.ok ⟨⟩, s) := by
    rw [exec_turn hx, showPage, exec_bind, exec_view?, hx]
    simp [hpages]
  induction turns with
  | nil => rfl
  | cons turn turns ih =>
    rw [show (turn :: turns).forM (Turn.act v) = _ from List.forM_cons, exec_bind, hturn]
    exact ih

theorem pageLabel_of_lt {count i : Nat} (h : i < count) :
    pageLabel count i = s!"{i + 1} / {count}" := by
  have hclamp : clampPage count i + 1 = ((i + 1 : Nat) : Int) := by
    unfold clampPage
    omega
  rw [pageLabel, if_neg (Nat.ne_of_gt (Nat.zero_lt_of_lt h)), hclamp]
  rfl

/-- What there is of carousel `v` after some turns, since it was mounted in session `u`. -/
structure InSync (v : Nat) (pages : List Renderable) (turns : List Turn) (u t : Session Ui) :
    Prop where
  /-- Index, page, label and buttons are those of the page that the turns lead to. -/
  turned : pages ≠ [] → ∃ (i : Nat) (x : View), (i : Int) = turns.foldl (Turn.land pages.length) 0 ∧
    i < pages.length ∧ t.ui.views[v]? = some x ∧ Paged pages i i s!"{i + 1} / {pages.length}" t x
  /-- The views of the pages before are destroyed, with all below them. -/
  earlier : pages ≠ [] → ∀ before turn after, turns = before ++ turn :: after →
    ∀ p, exec (before.forM (Turn.act v)) u = (.ok ⟨⟩, p) →
    ∀ (e : Nat) (y : View), p.ui.views[e]? = some y → Under p v e → e ≠ v →
    t.ui.views[e]? = some y.ended ∧ ∀ w, y.root = some w → w ∈ t.ui.kit.destroyed
  /-- Without pages nothing happens. -/
  empty : pages = [] → t = u ∧ ∃ x, t.ui.views[v]? = some x ∧ Paged [] 0 0 "0 / 0" t x

theorem OnPage.inSync {base : Nat} (h : OnPage base v pages 0 u) (turns : List Turn) :
    Leads (turns.forM (Turn.act v)) u fun _ t => InSync v pages turns u t := by
  have hpages : pages ≠ [] := List.ne_nil_of_length_pos (Nat.zero_lt_of_lt h.lt)
  refine (h.turns turns).and_exec.mono ?_
  rintro _ t ⟨⟨⟨i, hi, ht⟩, -⟩, hexec⟩
  refine ⟨fun _ => ?_, fun _ before turn after hturns p hp e y hy hunder hne => ?_,
    fun hnil => absurd hnil hpages⟩
  · obtain ⟨x, hx, hpaged⟩ := ht.paged
    rw [pageLabel_of_lt ht.lt] at hpaged
    exact ⟨i, x, hi, ht.lt, hx, hpaged⟩
  · have hsplit : (before ++ turn :: after).forM (Turn.act v) =
        (do before.forM (Turn.act v); (turn :: after).forM (Turn.act v)) := List.forM_append
    rw [hturns, hsplit, exec_bind, hp] at hexec
    obtain ⟨_, p', hturn, hafter⟩ := exec_bind_eq_ok (m := turn.act v) hexec
    obtain ⟨⟨j, -, hj⟩, -⟩ := (h.turns before).of_ok hp
    obtain ⟨⟨l, -, hl⟩, hturned, -, -⟩ := (hj.turn turn).of_ok hturn
    obtain ⟨-, hsince⟩ := (hl.turns after).of_ok hafter
    obtain ⟨hended, hgone⟩ := hturned.ended e y hy hunder hne
    refine ⟨(hsince.kept e y.ended hended fun hbelow => hne ?_).1, fun w hw => ?_⟩
    · exact hturned.below e (List.getElem?_eq_some_iff.1 hy).1 hbelow
    · exact hsince.destroyed (hgone w hw)

/-- A carousel that is mounted. -/
theorem OnDisplay.mountCarousel {base : Nat} {whole top : Nat → Prop}
    (h : OnDisplay base whole top s) (hx : s.ui.views[v]? = some x) (hroot : x.root = none)
    (hr : x.renderable = some (.carousel id title pages height)) (hq : s.ui.kit.isAlive q = true)
    (hqbase : q < base) : Leads (Session.mount v q) s fun _ t => ∃ y, t.ui.views[v]? = some y ∧
      Paged pages 0 x.index (pageLabel pages.length x.index) t y := by
  obtain ⟨path, hpath, hbase⟩ := h.settled
  exact (mountCarousel_leads hpath hx hroot hr hq (.inl (hbase q hqbase))).mono fun _ _ ht => ht.2

/-- Where a view can be mounted that has just been made. -/
inductive Berth where
  | widget (q : Nat)
  /-- A view takes it in. -/
  | view (p : Nat)

namespace Berth

def take (v : Nat) : Berth → Act Ui Unit
  | widget q => mount v q
  | view p => addComponent p v

/-- A widget must stand and be in no view, and a view must be mounted. -/
def Permitted (base : Nat) (s : Session Ui) : Berth → Prop
  | widget q => q < base ∧ s.ui.kit.isAlive q = true
  | view p => (s.ui.views[p]?).map View.isMounted = some true

end Berth

theorem OnDisplay.takeCarousel {base : Nat} (h : OnDisplay base (fun _ => False) (fun _ => True) s)
    (hy : Made (.carousel id title pages height) y)
    (hr : ∀ n ∈ cardRegions [.carousel id title pages height], n < s.regions.length) {named : Nat}
    (hnew : OnDisplay base (fun _ => False) (fun _ => True) (s.withNew y named)) {berth : Berth}
    (hberth : berth.Permitted base s) :
    Leads (berth.take s.ui.views.length) (s.withNew y named) fun _ t =>
      OnDisplay base (fun _ => False) (fun _ => True) t ∧
      ∃ x, t.ui.views[s.ui.views.length]? = some x ∧
        Paged pages 0 0 (pageLabel pages.length 0) t x := by
  cases berth with
  | widget q =>
    obtain ⟨hqbase, hq⟩ := hberth
    have hview : (s.withNew y named).ui.views[s.ui.views.length]? = some y := withNew_self s y named
    have hpaged := hnew.mountCarousel hview hy.root hy.renderable hq hqbase
    rw [hy.index] at hpaged
    have hmount := hnew.mountShown hview hy.root hy.renderable hq hqbase trivial False.elim
    refine hmount.and_exec.mono ?_
    rintro _ t ⟨⟨ht, -⟩, hexec⟩
    exact ⟨ht, hpaged.of_ok hexec⟩
  | view p =>
    obtain ⟨x, hx, hmounted⟩ := Option.map_eq_some_iff.1 hberth
    obtain ⟨w, hroot⟩ := Option.isSome_iff_exists.1 hmounted
    obtain ⟨path, hpath, hbase⟩ := h.settled
    have htake := (addComponent_leads hpath hx hy hr named).and_keeps
      (keeps_addComponent (R := ResponseKept) p s.ui.views.length)
    refine htake.and_exec.mono ?_
    rintro _ t ⟨⟨⟨path', ht, hgrown, htakes⟩, hkept⟩, hexec⟩
    refine ⟨h.of_kept hbase ht hgrown (h.standing.takes htakes hx False.elim) (htakes.lasting hx)
      ⟨hkept.view, hkept.response, hkept.pass, hkept.rendered⟩, ?_⟩
    exact addComponent_paged hpath hx hroot hy hr hexec

/-- Carousels stay in sync. When a new carousel is mounted, in a widget that is in no view or in a view
that takes it in, in any session that can be reached, then whatever is called on it goes well, and in the
end index, page, label and buttons agree on the page that the calls lead to, one after the other from the
first page, each cut to the pages there are. -/
theorem carousel_in_sync {s₀ : Session Ui} (h₀ : Idle s₀) {steps : List DisplayStep}
    (hsteps : Along (DisplayStep.Permitted s₀.ui.kit.widgets.length) s₀ steps)
    (hr : ∀ n ∈ cardRegions [.carousel id title pages height],
      n < (runDisplay s₀ steps).regions.length) (packing : Attributes) {berth : Berth}
    (hberth : berth.Permitted s₀.ui.kit.widgets.length (runDisplay s₀ steps)) :
    Leads (do
      let v ← viewOf (.carousel id title pages height) packing
      berth.take v
      pure v) (runDisplay s₀ steps) fun v u =>
        ∀ turns, Leads (turns.forM (Turn.act v)) u fun _ t => InSync v pages turns u t := by
  have hdisplay := ((h₀.display (fun _ => False) (fun _ => True)).run hsteps).1
  refine leads_bind (hdisplay.make hr packing) ?_
  rintro v t ⟨rfl, ⟨y, named, hy, rfl⟩, hnew, -⟩
  refine leads_bind (hdisplay.takeCarousel hy hr hnew hberth) ?_
  rintro _ u ⟨hu, x, hx, hpage⟩
  refine leads_pure fun turns => ?_
  by_cases hpages : pages = []
  · rw [hpages] at hpage ⊢
    exact ⟨⟨⟩, u, exec_turns_empty hx hpage.shows turns, fun hne => absurd rfl hne,
      fun hne => absurd rfl hne, fun _ => ⟨rfl, x, hx, hpage⟩⟩
  · exact OnPage.inSync ⟨hu, List.length_pos_iff.2 hpages, x, hx, hpage⟩ turns

def almanac : Renderable :=
  .carousel "planets" "" [.stat "mars" "Mars" "4th" 1, .stat "venus" "Venus" "2nd" 1] 300

theorem carousel_in_sync_leafing :
    Idle vacant ∧ (∀ n ∈ cardRegions [almanac], n < (runDisplay vacant []).regions.length) ∧
      (Berth.widget window).Permitted vacant.ui.kit.widgets.length (runDisplay vacant []) ∧
      Leads (do
        let v ← viewOf almanac View.stackPacking
        (Berth.widget window).take v
        pure v) (runDisplay vacant []) fun v u =>
          Leads ([.next, .next, .previous, .page 7].forM (Turn.act v)) u fun _ t =>
            ∃ x, t.ui.views[v]? = some x ∧ Paged almanac.children 1 1 "2 / 2" t x := by
  have hregions : ∀ n ∈ cardRegions [almanac], n < (runDisplay vacant []).regions.length := by
    decide +kernel
  have hberth : (Berth.widget window).Permitted vacant.ui.kit.widgets.length (runDisplay vacant []) :=
    ⟨by decide +kernel, by decide +kernel⟩
  refine ⟨idle_vacant, hregions, hberth, ?_⟩
  have hsteps : Along (DisplayStep.Permitted vacant.ui.kit.widgets.length) vacant [] := trivial
  refine (carousel_in_sync idle_vacant hsteps hregions View.stackPacking hberth).mono
    fun v u hu => ?_
  refine (hu _).mono fun _ t ht => ?_
  obtain ⟨i, x, hi, -, hx, hpaged⟩ := ht.turned (List.cons_ne_nil _ _)
  obtain rfl : i = 1 := Int.ofNat.inj hi
  exact ⟨x, hx, hpaged⟩

/-- Mounting shows the first page. Whatever has been done to a carousel that is not mounted, once it is
mounted again its page host holds the view of its first page, while the label and the buttons are those
of the page it was at. -/
theorem mount_shows_first {s₀ : Session Ui} (h₀ : Idle s₀) {steps : List DisplayStep}
    (hsteps : Along (DisplayStep.Permitted s₀.ui.kit.widgets.length) s₀ steps)
    (hx : (runDisplay s₀ steps).ui.views[v]? = some x) (hroot : x.root = none)
    (hr : x.renderable = some (.carousel id title pages height)) (hpages : pages ≠ [])
    (hqbase : q < s₀.ui.kit.widgets.length)
    (hq : (runDisplay s₀ steps).ui.kit.isAlive q = true) :
    Leads (mount v q) (runDisplay s₀ steps) fun _ t => ∃ y c, t.ui.views[v]? = some y ∧
      y.components = [c] ∧ Paged pages 0 x.index (pageLabel pages.length x.index) t y := by
  have hdisplay := ((h₀.display _ _).run hsteps).1
  refine (hdisplay.mountCarousel hx hroot hr hq hqbase).mono fun _ t ht => ?_
  obtain ⟨y, hy, hpaged⟩ := ht
  obtain ⟨host, previous, label, next, -, hholds, -⟩ := hpaged.parts
  obtain ⟨r, rest, rfl⟩ := List.exists_cons_of_ne_nil hpages
  obtain ⟨c, hc⟩ := List.length_eq_one_iff.1 hholds.length_eq.symm
  exact ⟨y, c, hy, hc, hpaged⟩

/-- A carousel is turned to its second page and destroyed. -/
def interrupted : List DisplayStep :=
  [.make almanac View.stackPacking, .mount 1 window, .turn 1 true, .destroy 1]

theorem along_interrupted :
    Along (DisplayStep.Permitted vacant.ui.kit.widgets.length) vacant interrupted := by
  refine ⟨?_, ?_, trivial, trivial, trivial⟩
  all_goals
    unfold DisplayStep.Permitted
    decide +kernel

/-- The carousel is not mounted, and it is at its second page. -/
theorem view_interrupted : ∃ x, (runDisplay vacant interrupted).ui.views[1]? = some x ∧
    x.root = none ∧ x.index = 1 ∧ x.renderable = some almanac := by
  have hstate : ((runDisplay vacant interrupted).ui.views[1]?).any fun x =>
      x.root.isNone && x.index == 1 := by decide +kernel
  obtain ⟨x, hx, hstate⟩ := (Option.any_eq_true _ _).1 hstate
  rw [Bool.and_eq_true, Option.isNone_iff_eq_none, beq_iff_eq] at hstate
  -- What it shows is what it has been made for.
  obtain ⟨hmake, hrest⟩ := along_interrupted
  obtain ⟨_, -, -, ⟨y, named, hy, hmade⟩, hdisplay, -⟩ :=
    ((idle_vacant.display (fun _ => False) (fun _ => True)).make hmake View.stackPacking).next
  have hfirst : next (DisplayStep.make almanac View.stackPacking).act vacant =
      vacant.withNew y named := by
    rw [DisplayStep.act, next_discard, hmade]
  rw [hfirst] at hrest
  rw [hmade] at hdisplay
  obtain ⟨z, hz, -, hrenderable⟩ :=
    (hdisplay.run hrest).2.views 1 y (withNew_self vacant y named)
  rw [runDisplay, interrupted, List.foldl_cons, hfirst] at hx ⊢
  obtain rfl := Option.some.inj (hx.symm.trans hz)
  exact ⟨x, hx, hstate.1, hstate.2, hrenderable.trans hy.renderable⟩

theorem mount_shows_first_interrupted : ∃ x y c t,
    (runDisplay vacant interrupted).ui.views[1]? = some x ∧ x.root = none ∧ x.index = 1 ∧
      exec (mount 1 window) (runDisplay vacant interrupted) = (.ok ⟨⟩, t) ∧
      t.ui.views[1]? = some y ∧ y.components = [c] ∧
      Paged almanac.children 0 1 (pageLabel 2 1) t y := by
  obtain ⟨x, hx, hroot, hindex, hr⟩ := view_interrupted
  obtain ⟨_, t, hexec, y, c, hy, hc, hpaged⟩ := mount_shows_first idle_vacant along_interrupted hx
    hroot hr (List.cons_ne_nil _ _) (q := window) (by decide +kernel) (by decide +kernel)
  rw [hindex] at hpaged
  exact ⟨x, y, c, t, hx, hroot, hindex, hexec, hy, hc, hpaged⟩

/-- Mounting that carousel announces its second page, and the page host does not hold it. -/
theorem mount_hides_announced_page : ∃ x, (runDisplay vacant interrupted).ui.views[1]? = some x ∧
    x.root = none ∧ x.renderable = some almanac ∧
      Leads (mount 1 window) (runDisplay vacant interrupted) fun _ t =>
        ∃ y, t.ui.views[1]? = some y ∧ y.index = 1 ∧
          ¬Paged almanac.children y.index y.index (pageLabel 2 y.index) t y := by
  obtain ⟨x, hx, hroot, hindex, hr⟩ := view_interrupted
  have hdisplay := ((idle_vacant.display _ _).run along_interrupted).1
  refine ⟨x, hx, hroot, hr, ?_⟩
  refine (hdisplay.mountCarousel hx hroot hr (q := window) (by decide +kernel)
    (by decide +kernel)).mono ?_
  rintro _ t ⟨y, hy, hpaged⟩
  have hyindex : y.index = 1 := hpaged.turned.trans hindex
  refine ⟨y, hy, hyindex, fun hsaid => ?_⟩
  rw [hyindex] at hsaid
  obtain ⟨host, previous, label, next, hparts, hholds, -⟩ := hpaged.parts
  obtain ⟨host', previous', label', next', hparts', hholds', -⟩ := hsaid.parts
  -- The same view would be that of the first page and that of the second.
  obtain ⟨c, hc⟩ := List.length_eq_one_iff.1 hholds.length_eq.symm
  rw [hc] at hholds hholds'
  obtain ⟨a, w, ha, -, hmars, -⟩ := (List.forall₂_cons.1 hholds).1
  obtain ⟨b, w', hb, -, hvenus, -⟩ := (List.forall₂_cons.1 hholds').1
  obtain rfl := Option.some.inj (ha.symm.trans hb)
  have hid := congrArg (Option.map Renderable.id) (hmars.symm.trans hvenus)
  exact absurd hid (by decide +kernel)

end Session
end RemoteScreen
