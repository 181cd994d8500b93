import RemoteScreen.Proofs.View.Adoption
import RemoteScreen.Proofs.View.Making

/-! What mounting builds. The view of a renderable is mounted with one view for all that can be seen
of the renderable, in pre-order: each slot of a row is in a holder of its own, and the first page of
a carousel is in its host. Views and widgets are counted off on the way, so none is built twice and
nothing else is built. -/
namespace RemoteScreen
namespace Session

open Toolkit (Extended Site)
open Renderable (outfit)

/-- View `v` has been made for a renderable and is mounted with widget `w` in widget `q`. -/
structure Showing (t : Session Ui) (r : Renderable) (v w q : Nat) (x : View) : Prop where
  view : t.ui.views[v]? = some x
  kind : x.kind = .ofRenderable r
  renderable : x.renderable = some r.visible
  root : x.root = some w
  parent : t.ui.kit.parent? w = some q

mutual

/-- View `v` of a renderable is mounted in widget `q`, with a view for all that can be seen of the
renderable. These are the views from `v` to before `n`, and the widgets from `w` to before `m` are
theirs. -/
inductive Mounted (t : Session Ui) : Renderable → (v n w m q : Nat) → Prop
  | alone {r v w q x} (self : Showing t r v w q x) (childless : r.children = [])
      (owns : x.components = []) : Mounted t r v (v + 1) w (w + r.outfit) q
  | paged {id title first rest height v n w m q x host previous label next}
      (self : Showing t (.carousel id title (first :: rest) height) v w q x)
      (owns : x.components = [v + 1]) (parts : x.parts = .carousel host previous label next)
      (own : w ≤ host ∧ host < w + outfit (.carousel id title (first :: rest) height))
      (page : Mounted t first (v + 1) n (w + outfit (.carousel id title (first :: rest) height)) m
        host) : Mounted t (.carousel id title (first :: rest) height) v n w m q
  | filled {id title slot slots spacing v n w m q x canvas windows holders}
      (self : Showing t (.hscroll id title (slot :: slots) spacing) v w q x)
      (parts : x.parts = .hscroll canvas windows holders)
      (own : w ≤ canvas ∧ canvas < w + outfit (.hscroll id title (slot :: slots) spacing))
      (row : Lined t canvas (slot :: slots) x.components holders (v + 1) n
        (w + outfit (.hscroll id title (slot :: slots) spacing)) m) :
      Mounted t (.hscroll id title (slot :: slots) spacing) v n w m q

/-- The views of slots are mounted, each in a holder of its own in a canvas. -/
inductive Lined (t : Session Ui) : (canvas : Nat) → List (Slot Renderable) →
    (children holders : List Nat) → (v n w m : Nat) → Prop
  | nil {canvas v w} : Lined t canvas [] [] [] v v w w
  | cons {canvas width r slots children holders v n n' w m m'}
      (holder : t.ui.kit.parent? w = some canvas) (slot : Mounted t r v n (w + 1) m w)
      (rest : Lined t canvas slots children holders n n' m m') :
      Lined t canvas (⟨width, r⟩ :: slots) (v :: children) (w :: holders) v n' w m'

end

variable {s t u : Session Ui} {r : Renderable} {v w m q n c e canvas : Nat} {x y z : View}

/-! Ranges -/

mutual

theorem Mounted.lt : ∀ {r v n w m q}, Mounted t r v n w m q → v < n ∧ w < m
  | r, _, _, _, _, _, .alone .. => ⟨Nat.lt_succ_self _, by cases r <;> simp only [outfit] <;> omega⟩
  | _, _, _, _, _, _, .paged _ _ _ own page => by
    have hpage := page.lt
    omega
  | _, _, _, _, _, _, .filled _ _ own row => by
    have hrow := row.le
    omega

theorem Lined.le : ∀ {canvas slots children holders v n w m},
    Lined t canvas slots children holders v n w m → v ≤ n ∧ w ≤ m
  | _, _, _, _, _, _, _, _, .nil => ⟨Nat.le_refl _, Nat.le_refl _⟩
  | _, _, _, _, _, _, _, _, .cons _ slot rest => by
    have hslot := slot.lt
    have hrest := rest.le
    omega

end

/-- Where there are no slots, nothing is made for them. -/
theorem Lined.of_nil {children holders : List Nat}
    (h : Lined t canvas [] children holders v n w m) : children = [] ∧ n = v ∧ m = w := by
  cases h
  exact ⟨rfl, rfl, rfl⟩

/-- The views from `v` to before `n` are as they were, and the widgets from `w` to before `m` are
where they were. -/
structure Preserved (v n w m : Nat) (s t : Session Ui) : Prop where
  views : ∀ e, v ≤ e → e < n → t.ui.views[e]? = s.ui.views[e]?
  parents : ∀ c, w ≤ c → c < m → t.ui.kit.parent? c = s.ui.kit.parent? c

theorem Preserved.narrow {v' n' w' m' : Nat} (h : Preserved v n w m s t) (hv : v ≤ v') (hn : n' ≤ n)
    (hw : w ≤ w') (hm : m' ≤ m) : Preserved v' n' w' m' s t where
  views e he he' := h.views e (Nat.le_trans hv he) (Nat.lt_of_lt_of_le he' hn)
  parents c hc hc' := h.parents c (Nat.le_trans hw hc) (Nat.lt_of_lt_of_le hc' hm)

theorem Showing.kept (h : Showing s r v w q x) (hst : Preserved v n w m s t) (hv : v < n)
    (hw : w < m) : Showing t r v w q x where
  view := (hst.views v (Nat.le_refl v) hv).trans h.view
  kind := h.kind
  renderable := h.renderable
  root := h.root
  parent := (hst.parents w (Nat.le_refl w) hw).trans h.parent

mutual

/-- What is mounted is mounted as long as its views and widgets are left alone. -/
theorem Mounted.kept : ∀ {r v n w m q}, Mounted s r v n w m q → Preserved v n w m s t →
    Mounted t r v n w m q
  | _, _, _, _, _, _, h@(.alone self childless owns), hst =>
    .alone (self.kept hst h.lt.1 h.lt.2) childless owns
  | _, _, _, _, _, _, h@(.paged self owns parts own page), hst => by
    have hpage := page.kept (hst.narrow (Nat.le_succ _) (Nat.le_refl _) (Nat.le_add_right _ _)
      (Nat.le_refl _))
    exact .paged (self.kept hst h.lt.1 h.lt.2) owns parts own hpage
  | _, _, _, _, _, _, h@(.filled self parts own row), hst => by
    have hrow := row.kept (hst.narrow (Nat.le_succ _) (Nat.le_refl _) (Nat.le_add_right _ _)
      (Nat.le_refl _))
    exact .filled (self.kept hst h.lt.1 h.lt.2) parts own hrow

theorem Lined.kept : ∀ {canvas slots children holders v n w m},
    Lined s canvas slots children holders v n w m → Preserved v n w m s t →
      Lined t canvas slots children holders v n w m
  | _, _, _, _, _, _, _, _, .nil, _ => .nil
  | _, _, _, _, _, _, _, _, .cons holder slot rest, hst => by
    have hslot := slot.lt
    have hrest := rest.le
    refine .cons ((hst.parents _ (Nat.le_refl _) (by omega)).trans holder) (slot.kept ?_)
      (rest.kept ?_)
    · exact hst.narrow (Nat.le_refl _) hrest.1 (Nat.le_succ _) hrest.2
    · exact hst.narrow (Nat.le_of_lt hslot.1) (Nat.le_refl _) (by omega) (Nat.le_refl _)

end

/-! Mounting -/

/-- A new view of a renderable has been mounted in widget `q`, and nothing else has been done. -/
structure Erects (r : Renderable) (v q : Nat) (s t : Session Ui) : Prop where
  kit : Extended s.ui.kit.widgets.length q s.ui.kit t.ui.kit
  unmoved : Unmoved s.ui.kit.widgets.length v s t
  mounted : Mounted t r v t.ui.views.length s.ui.kit.widgets.length t.ui.kit.widgets.length q

/-- In any widget that stands, the view of a renderable that has just been made can be mounted. -/
def ErectsWell (r : Renderable) : Prop := ∀ s v q x, s.ui.kit.Grown → s.ui.kit.isAlive q = true →
  v + 1 = s.ui.views.length → s.ui.views[v]? = some x → Made r x →
    Leads (mountShown r v q) s fun _ t => Erects r v q s t

/-- The view is mounted with the first new widget; it remains to say what is below it. -/
theorem erects_of_below (hv : v + 1 = s.ui.views.length) (hx : s.ui.views[v]? = some x)
    (hmade : Made r x) (h : Leads (mountShown r v q) s fun _ t =>
      Extended s.ui.kit.widgets.length q s.ui.kit t.ui.kit ∧ ∃ y, t.ui.views[v]? = some y ∧
        (Showing t r v s.ui.kit.widgets.length q y →
          Mounted t r v t.ui.views.length s.ui.kit.widgets.length t.ui.kit.widgets.length q)) :
    Leads (mountShown r v q) s fun _ t => Erects r v q s t := by
  refine h.and_exec.mono fun _ t ⟨⟨hkit, y, hy, hbelow⟩, hexec⟩ => ?_
  obtain ⟨hunmoved, z, hz, hkind, hrenderable, hroot, hparent⟩ :=
    mountShown_newest hv hx hmade.parts hexec
  obtain rfl := Option.some.inj (hy.symm.trans hz)
  exact ⟨hkit, hunmoved, hbelow ⟨hy, hkind.trans hmade.kind,
    hrenderable.trans hmade.renderable, hroot, hparent⟩⟩

/-- A view without views of its own. -/
theorem leaf_erectsWell {build : Nat → Nat → Act Ui Nat} (hchildless : r.children = [])
    (heq : ∀ v q, mountShown r v q = build v q >>= setRoot v)
    (hmakes : ∀ v q, Makes r.outfit (build v q))
    (hbuild : ∀ (s : Session Ui) (a v q : Nat) (x : View), Site a q s.ui.kit →
      s.ui.views[v]? = some x → Leads (build v q) s fun _ t => Extended a q s.ui.kit t.ui.kit ∧
        ∃ y, t.ui.views[v]? = some y ∧ y.components = x.components) : ErectsWell r := by
  intro s v q x hgrown hq hv hx hmade
  refine erects_of_below hv hx hmade ?_
  rw [heq]
  refine leads_bind (hbuild s _ v q x (hgrown.site hq) hx).and_exec ?_
  rintro w t ⟨⟨hkit, y, hy, hcomponents⟩, hexec⟩
  obtain ⟨hwidgets, hviews⟩ := hmakes v q s w t hexec
  refine ⟨⟨⟩, _, exec_updateView _ _ _, hkit, _, withView_self hy _, fun hself => ?_⟩
  have halone := Mounted.alone hself hchildless (hcomponents.trans hmade.components)
  rwa [length_withView, hviews, ← hv, show (t.withView v _).ui.kit.widgets.length =
    s.ui.kit.widgets.length + r.outfit from hwidgets]

/-- Steps that change only widgets leave the view that is being mounted as it was made. -/
theorem Builds.kept {a : Nat} (h : Builds a q s t) (hx : s.ui.views[v]? = some x) :
    ∃ y, t.ui.views[v]? = some y ∧ y.components = x.components := by
  rw [h.eq]
  exact ⟨x, hx, rfl⟩

/-! Carousels -/

/-- A carousel has been built and has got its widget; its page has got a view, which is not mounted.
-/
structure Opened (first : Renderable) (v q host frame outfit : Nat) (s t : Session Ui) : Prop where
  kit : Extended s.ui.kit.widgets.length q s.ui.kit t.ui.kit
  grown : t.ui.kit.Grown
  count : t.ui.kit.widgets.length = s.ui.kit.widgets.length + outfit
  place : t.ui.kit.isAlive host = true
  own : s.ui.kit.widgets.length ≤ host ∧ host < s.ui.kit.widgets.length + outfit
  views : v + 1 + 1 = t.ui.views.length
  self : ∃ x previous label next, t.ui.views[v]? = some x ∧ x.root = some frame ∧
    x.components = [v + 1] ∧ x.parts = .carousel host previous label next
  page : ∃ y, t.ui.views[v + 1]? = some y ∧ Made first y

/-- A carousel with pages is built: what is done up to its page, and what there is then. -/
theorem exec_carousel (id title : String) (first : Renderable) (rest : List Renderable)
    (height : Int) (hgrown : s.ui.kit.Grown) (hq : s.ui.kit.isAlive q = true)
    (hv : v + 1 = s.ui.views.length) (hx : s.ui.views[v]? = some x) :
    ∃ frame host u z named t, exec (buildCarousel v title height q) s = (.ok (frame, host), u) ∧
      exec (viewOf first View.pagePacking) u = (.ok (v + 1), u.withNew z named) ∧
      exec (syncNavigation v) ((u.withNew z named).withView v (View.owning (v + 1))) =
        (.ok ⟨⟩, t) ∧
      Opened first v q host frame (outfit (.carousel id title (first :: rest) height)) s
        (t.withView v (View.rooted frame)) := by
  have hsite := hgrown.site hq
  obtain ⟨⟨frame, host⟩, u, hexec, previous, label, next, hu, hhost, hlabel, hx₁⟩ :=
    buildCarousel_stands hsite hx title height
  obtain ⟨hwidgets, hviews⟩ := makes_buildCarousel v title height q s _ _ hexec
  obtain ⟨z, named, hz, hview⟩ := exec_viewOf first View.pagePacking u
  have hc : u.ui.views.length = v + 1 := hviews.trans hv.symm
  have hne : v + 1 ≠ v := Nat.succ_ne_self v
  have hmade : (u.withNew z named).ui.views[v]? = u.ui.views[v]? := withNew_old (by omega)
  have hx₂ := withView_self (hmade.trans hx₁) (View.owning (v + 1))
  have hz₂ : ((u.withNew z named).withView v (View.owning (v + 1))).ui.views[v + 1]? = some z := by
    rw [withView_ne _ hne, ← hc]
    exact withNew_self u z named
  obtain ⟨_, t, hsync, ht⟩ := syncNavigation_leads (s := (u.withNew z named).withView v (View.owning (v + 1)))
    (hu.site hsite) hx₂ rfl hlabel
  obtain ⟨hwidgets', hviews'⟩ := makes_syncNavigation v _ _ _ hsync
  refine ⟨frame, host, u, z, named, t, hexec, hc ▸ hview, hsync, ?_⟩
  refine ⟨hu.trans ht.kit, ht.site.grown, hwidgets'.trans hwidgets,
    (ht.fresh hhost).isAlive ht.site,
    ⟨hhost.1, hwidgets ▸ hhost.2⟩, ?_, ?_, z, ?_, hz⟩
  · rw [length_withView, hviews', length_withView, length_withNew, hc]
  · have hxt : t.ui.views[v]? = some { x with
        parts := .carousel host previous label next, components := [v + 1] } := by
      rw [ht.eq]
      exact hx₂
    exact ⟨_, previous, label, next, withView_self hxt _, rfl, rfl, rfl⟩
  · rw [withView_ne _ hne, ht.eq]
    exact hz₂

/-- The page is what is mounted then. -/
theorem carousel_erectsWell (id title : String) {pages : List Renderable} (height : Int)
    (hpages : ∀ r ∈ pages, ErectsWell r) : ErectsWell (.carousel id title pages height) := by
  intro s v q x hgrown hq hv hx hmade
  refine erects_of_below hv hx hmade ?_
  cases pages with
  | nil =>
    have hsite := hgrown.site hq
    rw [mountShown]
    refine leads_bind (buildCarousel_stands hsite hx title height).and_exec ?_
    rintro ⟨frame, host⟩ u ⟨⟨previous, label, next, hu, -, hlabel, hx₁⟩, hexec⟩
    obtain ⟨hwidgets, hviews⟩ := makes_buildCarousel v title height q s _ _ hexec
    change Leads (mountFirst [] v frame host) _ _
    rw [mountFirst]
    refine leads_bind (syncNavigation_leads (hu.site hsite) hx₁ rfl hlabel).and_exec ?_
    rintro _ t ⟨ht, hsync⟩
    obtain ⟨hwidgets', hviews'⟩ := makes_syncNavigation v _ _ _ hsync
    obtain ⟨y, hy, howns⟩ := ht.kept hx₁
    refine ⟨⟨⟩, _, exec_updateView _ _ _, hu.trans ht.kit, _, withView_self hy _, fun hself => ?_⟩
    have halone := Mounted.alone hself rfl howns
    rwa [length_withView, hviews', hviews, ← hv, show (t.withView v _).ui.kit.widgets.length =
      s.ui.kit.widgets.length + outfit (.carousel id title [] height) from hwidgets'.trans hwidgets]
  | cons first rest =>
    obtain ⟨frame, host, u, z, named, t, hbuild, hview, hsync, ht⟩ :=
      exec_carousel id title first rest height hgrown hq hv hx
    obtain ⟨y, previous, label, next, hy, -, howns, hparts⟩ := ht.self
    obtain ⟨z, hz, hzmade⟩ := ht.page
    have hmount := hpages first List.mem_cons_self _ (v + 1) host z ht.grown ht.place ht.views hz
      hzmade
    refine (hmount.of_exec ?_).mono fun _ t' ht' => ?_
    · unfold View.owning at hsync
      simp [mountShown, mountFirst, hbuild, hview, hsync, setRoot]
      rfl
    · have hpage := ht'.mounted
      rw [ht.count] at hpage
      refine ⟨ht.kit.trans (ht'.kit.widen (.inr ht.own.1) ht.kit.length), y,
        (ht'.unmoved.views v (Nat.lt_succ_self v)).trans hy, fun hself => ?_⟩
      exact .paged hself howns hparts ht.own hpage

/-! Rows -/

/-- A slot has been mounted in a holder of its own, which is the first new widget, and the row `x`
has taken it in. -/
structure Seats (r : Renderable) (a q v canvas : Nat) (x : View) (windows holders : List Nat)
    (s t : Session Ui) : Prop where
  kit : Extended a q s.ui.kit t.ui.kit
  others : ∀ e < s.ui.views.length, e ≠ v → t.ui.views[e]? = s.ui.views[e]?
  row : ∃ item, t.ui.views[v]? = some { x with
    components := x.components ++ [s.ui.views.length]
    parts := .hscroll canvas (windows ++ [item]) (holders ++ [s.ui.kit.widgets.length]) }
  holder : t.ui.kit.parent? s.ui.kit.widgets.length = some canvas
  slot : Mounted t r s.ui.views.length t.ui.views.length (s.ui.kit.widgets.length + 1)
    t.ui.kit.widgets.length s.ui.kit.widgets.length

theorem mountSlot_leads {a : Nat} (hr : ErectsWell r) (h : Site a q s.ui.kit)
    (hcanvas : Fresh a s canvas) (hx : s.ui.views[v]? = some x) {windows holders : List Nat}
    (hparts : x.parts = .hscroll canvas windows holders) (place width : Int) :
    Leads (mountSlot r v canvas place width) s fun _ t =>
      Seats r a q v canvas x windows holders s t := by
  refine leads_bind (addHolder_leads h (.inr hcanvas) r) ?_
  rintro ⟨holder, c⟩ s₂ ⟨hpair, u, z, named, hu, hcount, hparent, hz, rfl⟩
  obtain ⟨rfl, rfl⟩ := Prod.mk.inj hpair
  let holder := s.ui.kit.widgets.length
  let c := s.ui.views.length
  have hv : v < c := (List.getElem?_eq_some_iff.1 hx).1
  have hviews : u.ui.views = s.ui.views := by
    rw [hu.eq]
    rfl
  have hz₂ : (u.withNew z named).ui.views[c]? = some z := by
    have hself := withNew_self u z named
    rwa [hviews] at hself
  have hlength : c + 1 = (u.withNew z named).ui.views.length := by
    rw [length_withNew, hviews]
  have hold (e : Nat) (he : e < c) : (u.withNew z named).ui.views[e]? = s.ui.views[e]? := by
    rw [withNew_old (hviews.symm ▸ he), hviews]
  have hplace : u.ui.kit.isAlive holder = true :=
    hu.site.fresh holder h.base (hcount ▸ Nat.lt_succ_self _)
  refine leads_bind (hr (u.withNew z named) c holder z hu.site.grown hplace hlength hz₂ hz)
    fun _ t ht => ?_
  have hslot := ht.mounted
  rw [show (u.withNew z named).ui.kit.widgets.length = holder + 1 from hcount] at hslot
  have hx₂ : t.ui.views[v]? = some x := ((ht.unmoved.views v hv).trans (hold v hv)).trans hx
  -- The slot is mounted; its row takes it in.
  obtain ⟨item, entry, hadd⟩ := exec_addSlot v canvas holder c place width t
  let taken := (t.withView v (adopting c)).withKit (t.ui.kit.addItem canvas entry).1
  have hkit : Extended a q t.ui.kit (taken.withView v (slotted item holder)).ui.kit :=
    .update (fun _ => rfl) (.inr fun _ => rfl)
  have hothers (e : Nat) (he : e ≠ v) :
      (taken.withView v (slotted item holder)).ui.views[e]? = t.ui.views[e]? :=
    (withView_ne (s := taken) _ he).trans (withView_ne _ he)
  have hx₃ : (taken.withView v (slotted item holder)).ui.views[v]? =
      some (slotted item holder (adopting c x)) :=
    withView_self (s := taken) (withView_self hx₂ _) _
  have hviews' : (taken.withView v (slotted item holder)).ui.views.length = t.ui.views.length :=
    (length_withView taken v _).trans (length_withView t v _)
  have hwidgets' : (taken.withView v (slotted item holder)).ui.kit.widgets.length =
      t.ui.kit.widgets.length := length_update t.ui.kit canvas _
  have hkept : Preserved c t.ui.views.length (holder + 1) t.ui.kit.widgets.length t
      (taken.withView v (slotted item holder)) :=
    ⟨fun e he _ => hothers e (by omega), fun e _ he => hkit.parents e he⟩
  refine ⟨⟨⟩, _, hadd, (hu.kit.trans (ht.kit.widen (.inr h.base) hu.site.base)).trans hkit,
    fun e he hev => ?_, ⟨item, ?_⟩, ?_, ?_⟩
  · exact (hothers e hev).trans ((ht.unmoved.views e he).trans (hold e he))
  · rw [hx₃]
    simp only [slotted, adopting, hparts]
    rfl
  · rw [hkit.parents holder (Nat.lt_of_succ_lt hslot.lt.2),
      ht.kit.parents holder (hcount ▸ Nat.lt_succ_self _)]
    exact hparent
  · rw [hviews', hwidgets']
    exact hslot.kept hkept

/-- The slots of a row, which it has been given its canvas for. The induction is on the slots that
are left; what has been mounted before is left alone. -/
theorem mountSlots_lined {slots : List (Slot Renderable)}
    (hslots : ∀ slot ∈ slots, ErectsWell slot.content) {a : Nat} (h : Site a q s.ui.kit)
    (hcanvas : Fresh a s canvas) (hx : s.ui.views[v]? = some x) {windows holders : List Nat}
    (hparts : x.parts = .hscroll canvas windows holders) (spacing place : Int) :
    Leads (mountSlots slots v canvas spacing place) s fun _ t => Extended a q s.ui.kit t.ui.kit ∧
      (∀ e < s.ui.views.length, e ≠ v → t.ui.views[e]? = s.ui.views[e]?) ∧
      ∃ children windows' holders', t.ui.views[v]? = some { x with
          components := x.components ++ children
          parts := .hscroll canvas (windows ++ windows') (holders ++ holders') } ∧
        Lined t canvas slots children holders' s.ui.views.length t.ui.views.length
          s.ui.kit.widgets.length t.ui.kit.widgets.length := by
  induction slots generalizing s x windows holders place with
  | nil =>
    rw [mountSlots]
    refine leads_pure ⟨.refl a q _, fun _ _ _ => rfl, [], [], [], ?_, .nil⟩
    rw [List.append_nil, List.append_nil, List.append_nil, ← hparts]
    exact hx
  | cons slot slots ih =>
    obtain ⟨width, r⟩ := slot
    obtain ⟨hr, hrest⟩ := List.forall_mem_cons.1 hslots
    rw [mountSlots_cons]
    refine leads_bind (mountSlot_leads hr h hcanvas hx hparts place width) fun _ u hu => ?_
    obtain ⟨item, hxu⟩ := hu.row
    have hcanvas' : Fresh a u canvas := ⟨hcanvas.1, Nat.lt_of_lt_of_le hcanvas.2 hu.kit.length⟩
    refine (ih hrest (hu.kit.site h) hcanvas' hxu rfl _).mono ?_
    rintro _ t ⟨hkit, hothers, children, windows', holders', hxt, hlined⟩
    have hv : v < s.ui.views.length := (List.getElem?_eq_some_iff.1 hx).1
    obtain ⟨hviews, hwidgets⟩ := hu.slot.lt
    have hkept : Preserved s.ui.views.length u.ui.views.length (s.ui.kit.widgets.length + 1)
        u.ui.kit.widgets.length u t :=
      ⟨fun e he he' => hothers e he' (by omega), fun e _ he => hkit.parents e he⟩
    refine ⟨hu.kit.trans hkit, fun e he hev => ?_, s.ui.views.length :: children, item :: windows',
      s.ui.kit.widgets.length :: holders', ?_, .cons ?_ (hu.slot.kept hkept) hlined⟩
    · exact (hothers e (by omega) hev).trans (hu.others e he hev)
    · rw [hxt]
      simp
    · exact (hkit.parents _ (by omega)).trans hu.holder

theorem hscroll_erectsWell (id title : String) {slots : List (Slot Renderable)} (spacing : Int)
    (hslots : ∀ slot ∈ slots, ErectsWell slot.content) :
    ErectsWell (.hscroll id title slots spacing) := by
  intro s v q x hgrown hq hv hx hmade
  refine erects_of_below hv hx hmade ?_
  rw [mountShown]
  have hsite := hgrown.site hq
  refine leads_bind (buildRow_stands hsite hx title).and_exec ?_
  rintro ⟨frame, canvas⟩ u ⟨⟨hu, hcanvas, hx₁⟩, hexec⟩
  obtain ⟨hwidgets, hviews⟩ := makes_buildRow v title q s _ _ hexec
  refine leads_bind (mountSlots_lined hslots (hu.site hsite) hcanvas hx₁ rfl spacing 0) ?_
  rintro _ t ⟨hkit, -, children, windows, holders, hxt, hrow⟩
  rw [hviews, ← hv, hwidgets] at hrow
  refine ⟨⟨⟩, _, exec_updateView _ _ _, hu.trans hkit, _, withView_self hxt _, fun hself => ?_⟩
  -- Only the row itself changes when it gets its widget.
  have hrow' := hrow.kept (t := t.withView v (View.rooted frame))
    ⟨fun e he _ => withView_ne _ (by omega), fun _ _ _ => rfl⟩
  rw [length_withView]
  cases slots with
  | nil =>
    obtain ⟨rfl, hviews', hwidgets'⟩ := hrow.of_nil
    have halone := Mounted.alone hself rfl rfl
    rwa [hviews', show (t.withView v _).ui.kit.widgets.length =
      s.ui.kit.widgets.length + outfit (.hscroll id title [] spacing) from hwidgets']
  | cons slot slots => exact .filled hself rfl ⟨hcanvas.1, hwidgets ▸ hcanvas.2⟩ hrow'

/-! Trees -/

mutual

theorem erectsWell : ∀ r : Renderable, ErectsWell r
  | .card id title body region => leaf_erectsWell rfl (fun v q => by rw [mountShown])
      (fun v q => makes_buildCard v title body region q)
      fun _ _ _ _ _ h hx => buildCard_stands h hx title body region
  | .stat _ label value _ => leaf_erectsWell rfl (fun v q => by rw [mountShown])
      (fun _ q => makes_buildStat label value q)
      fun _ _ _ _ _ h hx => (buildStat_leads h label value).mono
        fun _ _ ht => ⟨ht.1.kit, ht.1.kept hx⟩
  | .action id title sink => leaf_erectsWell rfl (fun v q => by rw [mountShown])
      (fun _ q => makes_buildAction (.action id title sink) title q)
      fun _ _ _ _ _ h hx => (buildAction_leads h (.action id title sink) title).mono
        fun _ _ ht => ⟨ht.1.kit, ht.1.kept hx⟩
  | .unknown _ _ message => leaf_erectsWell rfl (fun v q => by rw [mountShown])
      (fun _ q => makes_buildUnknown message q)
      fun _ _ _ _ _ h hx => (buildUnknown_leads h message).mono
        fun _ _ ht => ⟨ht.1.kit, ht.1.kept hx⟩
  | .plain _ => leaf_erectsWell rfl (fun v q => by rw [mountShown])
      (fun _ q => makes_buildUnknown Renderable.unknownMessage q)
      fun _ _ _ _ _ h hx => (buildUnknown_leads h Renderable.unknownMessage).mono
        fun _ _ ht => ⟨ht.1.kit, ht.1.kept hx⟩
  | .carousel id title pages height => carousel_erectsWell id title height (erectsWell_pages pages)
  | .hscroll id title slots gap => hscroll_erectsWell id title gap (erectsWell_slots slots)

theorem erectsWell_pages : ∀ pages : List Renderable, ∀ r ∈ pages, ErectsWell r
  | [] => fun _ h => absurd h List.not_mem_nil
  | r :: pages => List.forall_mem_cons.2 ⟨erectsWell r, erectsWell_pages pages⟩

theorem erectsWell_slots : ∀ slots : List (Slot Renderable), ∀ slot ∈ slots,
    ErectsWell slot.content
  | [] => fun _ h => absurd h List.not_mem_nil
  | ⟨_, r⟩ :: slots => List.forall_mem_cons.2 ⟨erectsWell r, erectsWell_slots slots⟩

end

/-! The loop that mounting ends with -/

/-- Mounts what view `v` owns, as far as it is not mounted yet. -/
def mountRest (v : Nat) : Act Ui Unit := do
  match ← view? v with
  | none => pure ()
  | some x => x.components.forM fun c => do
    if ((← view? c).map View.isMounted) == some false then mount c (← childParent v)

/-- What is seen for a renderable is mounted as the renderable is. -/
theorem mountShown_visible (r : Renderable) (v q : Nat) :
    mountShown r.visible v q = mountShown r v q := by
  cases r with
  | plain id => rw [Renderable.visible, mountShown, mountShown]
  | _ => rfl

/-- A view that has just been made is mounted as its renderable wants it. -/
theorem exec_mount_made (hx : s.ui.views[v]? = some x) (hmade : Made r x) (q : Nat) :
    exec (mount v q) s = exec (mountShown r v q) s := by
  simp [mount, depth, mountDeep, hx, hmade.kind, ViewKind.isGroup_ofRenderable, shownBy,
    hmade.renderable, mountShown_visible]

/-- For a carousel whose page is not mounted yet, this mounts the page in its host. -/
theorem exec_mountRest_page {host previous label next : Nat} (hx : s.ui.views[v]? = some x)
    (howns : x.components = [c]) (hparts : x.parts = .carousel host previous label next)
    (hy : s.ui.views[c]? = some y) (hmade : Made r y) :
    exec (mountRest v) s = exec (mountShown r c host) s := by
  have hunmounted : y.isMounted = false := by simp [View.isMounted, hmade.root]
  have hplace : exec (childParent v) s = (.ok host, s) := by
    simp [childParent, hx, View.childParent?, hparts]
  rw [← exec_mount_made hy hmade host]
  simp only [mountRest, exec_bind, exec_view?, hx, howns, List.forM, hy, Option.map_some,
    hunmounted, BEq.rfl, if_true, hplace]
  rcases exec (mount c host) s with ⟨e | a, t⟩ <;> rfl

/-- Where all that a view owns is mounted, nothing is left to do. -/
theorem exec_mountRest_of_mounted (hx : s.ui.views[v]? = some x)
    (h : ∀ c ∈ x.components, (s.ui.views[c]?).map View.isMounted = some true) :
    exec (mountRest v) s = (.ok ⟨⟩, s) := by
  simp only [mountRest, exec_bind, exec_view?, hx]
  generalize x.components = cs at h
  induction cs with
  | nil => rfl
  | cons c cs ih =>
    obtain ⟨hc, hcs⟩ := List.forall_mem_cons.1 h
    simp only [List.forM, exec_bind, exec_view?, hc]
    exact ih hcs

/-- View `e` is mounted, and so is all that it owns. -/
def Done (t : Session Ui) (e : Nat) : Prop := ∃ x, t.ui.views[e]? = some x ∧ x.isMounted = true ∧
  ∀ c ∈ x.components, (t.ui.views[c]?).map View.isMounted = some true

theorem Showing.isMounted (h : Showing t r v w q x) :
    (t.ui.views[v]?).map View.isMounted = some true := by
  simp [h.view, View.isMounted, h.root]

theorem Mounted.isMounted (h : Mounted t r v n w m q) :
    (t.ui.views[v]?).map View.isMounted = some true := by
  cases h with
  | alone self => exact self.isMounted
  | paged self => exact self.isMounted
  | filled self => exact self.isMounted

theorem Showing.done (h : Showing t r v w q x)
    (hall : ∀ c ∈ x.components, (t.ui.views[c]?).map View.isMounted = some true) : Done t v :=
  ⟨x, h.view, by rw [View.isMounted, h.root]; rfl, hall⟩

mutual

theorem Mounted.done : ∀ {r v n w m q}, Mounted t r v n w m q → ∀ e, v ≤ e → e < n → Done t e
  | _, v, _, _, _, _, .alone self _ owns, e, he, he' => by
    obtain rfl : e = v := by omega
    exact self.done fun c hc => by simp [owns] at hc
  | _, v, _, _, _, _, .paged self owns _ _ page, e, he, he' => by
    rcases Nat.eq_or_lt_of_le he with rfl | he
    · refine self.done fun c hc => ?_
      rw [owns, List.mem_singleton] at hc
      exact hc ▸ page.isMounted
    · exact page.done e he he'
  | _, v, _, _, _, _, .filled self _ _ row, e, he, he' => by
    rcases Nat.eq_or_lt_of_le he with rfl | he
    · exact self.done row.done.1
    · exact row.done.2 e he he'

theorem Lined.done : ∀ {canvas slots children holders v n w m},
    Lined t canvas slots children holders v n w m →
      (∀ c ∈ children, (t.ui.views[c]?).map View.isMounted = some true) ∧
      ∀ e, v ≤ e → e < n → Done t e
  | _, _, _, _, _, _, _, _, .nil =>
    ⟨fun c hc => absurd hc List.not_mem_nil, fun e he he' => absurd he' (Nat.not_lt.2 he)⟩
  | _, _, _, _, _, _, _, _, .cons (n := n) _ slot rest => by
    refine ⟨List.forall_mem_cons.2 ⟨slot.isMounted, rest.done.1⟩, fun e he he' => ?_⟩
    by_cases hen : e < n
    · exact slot.done e he hen
    · exact rest.done.2 e (Nat.not_lt.1 hen) he'

end

theorem Erects.rest (h : Erects r v q s t) (e : Nat) (he : v ≤ e)
    (he' : e < t.ui.views.length) : exec (mountRest e) t = (.ok ⟨⟩, t) := by
  obtain ⟨y, hy, -, hall⟩ := h.mounted.done e he he'
  exact exec_mountRest_of_mounted hy hall

/-- Builds the widget of a view. What the view owns then is mounted if it is in slots, and not yet
if it is a page. -/
def buildShown : Renderable → (v parent : Nat) → Act Ui Nat
  | .card _ title body region, v, parent => buildCard v title body region parent
  | .stat _ label value _, _, parent => buildStat label value parent
  | .action id title sink, _, parent => buildAction (.action id title sink) title parent
  | .unknown _ _ message, _, parent => buildUnknown message parent
  | .plain _, _, parent => buildUnknown Renderable.unknownMessage parent
  | .carousel _ title pages height, v, parent => do
    let (frame, _) ← buildCarousel v title height parent
    match pages with
    | [] => pure ()
    | page :: _ => do
      let child ← viewOf page View.pagePacking
      updateView v fun x => { x with components := [child] }
    syncNavigation v
    pure frame
  | .hscroll _ title slots spacing, v, parent => do
    let (frame, canvas) ← buildRow v title parent
    mountSlots slots v canvas spacing 0
    pure frame

/-- Mounting is building, and then the loop: it mounts the page of a carousel, and finds the slots
of a row mounted. -/
theorem exec_mount_eq_build (hgrown : s.ui.kit.Grown) (hq : s.ui.kit.isAlive q = true)
    (hv : v + 1 = s.ui.views.length) (hx : s.ui.views[v]? = some x) (hmade : Made r x) :
    exec (mount v q) s = exec (do
      setRoot v (← buildShown r v q)
      mountRest v) s := by
  rw [exec_mount_made hx hmade q]
  obtain ⟨_, t, hexec, ht⟩ := erectsWell r s v q x hgrown hq hv hx hmade
  have hlast (heq : mountShown r v q = buildShown r v q >>= setRoot v) :
      exec (mountShown r v q) s = exec (do
        setRoot v (← buildShown r v q)
        mountRest v) s := by
    rw [← bind_assoc, ← heq, exec_bind, hexec]
    exact (ht.rest v (Nat.le_refl v) ht.mounted.lt.1).symm
  cases r with
  | card id title body region => exact hlast (by rw [mountShown, buildShown])
  | stat id label value maxLines => exact hlast (by rw [mountShown, buildShown])
  | action id title sink => exact hlast (by rw [mountShown, buildShown])
  | unknown id tag message => exact hlast (by rw [mountShown, buildShown])
  | plain id => exact hlast (by rw [mountShown, buildShown])
  | hscroll id title slots spacing => exact hlast (by simp [mountShown, buildShown])
  | carousel id title pages height =>
    cases pages with
    | nil => exact hlast (by simp [mountShown, mountFirst, buildShown])
    | cons first rest =>
      obtain ⟨frame, host, u, z, named, t, hbuild, hview, hsync, hopen⟩ :=
        exec_carousel id title first rest height hgrown hq hv hx
      obtain ⟨y, previous, label, next, hy, -, howns, hparts⟩ := hopen.self
      obtain ⟨z, hz, hzmade⟩ := hopen.page
      have hpage := exec_mountRest_page hy howns hparts hz hzmade
      unfold View.owning at hsync
      unfold View.rooted at hpage
      simp [mountShown, mountFirst, buildShown, hbuild, hview, hsync, setRoot, hpage]

/-- Mounting builds the views of what can be seen, each once. Whatever the tree and wherever the
view of it is mounted, the view and those below it mirror the tree, they and their widgets are all
that is new, and the loop that mounting ends with finds nothing to do for any of them. -/
theorem mount_builds_visible (hgrown : s.ui.kit.Grown) (hq : s.ui.kit.isAlive q = true)
    (r : Renderable) (packing : Attributes) :
    Leads (do
      let v ← viewOf r packing
      mount v q
      pure v) s fun v t => v = s.ui.views.length ∧
        Mounted t r v t.ui.views.length s.ui.kit.widgets.length t.ui.kit.widgets.length q ∧
        Unmoved s.ui.kit.widgets.length s.ui.views.length s t ∧
        t.ui.kit.destroyed = s.ui.kit.destroyed ∧
        ∀ e, v ≤ e → e < t.ui.views.length → exec (mountRest e) t = (.ok ⟨⟩, t) := by
  obtain ⟨x, named, hx, hview⟩ := exec_viewOf r packing s
  let v := s.ui.views.length
  have hxv : (s.withNew x named).ui.views[v]? = some x := withNew_self s x named
  have hlength : v + 1 = (s.withNew x named).ui.views.length := (length_withNew s x named).symm
  have hmount := (erectsWell r (s.withNew x named) v q x hgrown hq hlength hxv hx).of_exec
    (exec_mount_made hxv hx q)
  refine leads_bind_eq hview (leads_bind hmount fun _ t ht => leads_pure ?_)
  have hnew : Unmoved s.ui.kit.widgets.length v s (s.withNew x named) :=
    ⟨fun _ _ => rfl, fun e he => withNew_old he,
      fun e y hy => ⟨y, (withNew_old (List.getElem?_eq_some_iff.1 hy).1).trans hy, rfl, rfl⟩⟩
  exact ⟨rfl, ht.mounted, hnew.trans ht.unmoved, ht.kit.destroyed, ht.rest⟩

/-- A row with a carousel of two pages, a stat and a button. -/
def showcase : Renderable := .hscroll "row" "Worlds" [
    ⟨250, .carousel "pages" "" [.unknown "mars" "planet" "Mars", .stat "far" "Far" "1" 1] 300⟩,
    ⟨200, .stat "count" "Count" "8" 1⟩, ⟨200, .action "go" "Go" none⟩] 15

theorem mount_builds_visible_showcase : ∃ t,
    ({ ui := {} } : Session Ui).ui.kit.Grown ∧
      ({ ui := {} } : Session Ui).ui.kit.isAlive window = true ∧
      Mounted t showcase 0 5 1 19 window ∧ exec (mountRest 0) t = (.ok ⟨⟩, t) := by
  have hgrown : ({ ui := {} } : Session Ui).ui.kit.Grown := Toolkit.grown_withWindow
  obtain ⟨v, t, hexec, rfl, hmounted, -, -, hrest⟩ := mount_builds_visible
    (s := { ui := {} }) (q := window) hgrown rfl showcase View.pagePacking
  have hcount : (exec (do
      let v ← viewOf showcase View.pagePacking
      mount v window
      pure v) ({ ui := {} } : Session Ui)).2.ui.views.length = 5 ∧ (exec (do
      let v ← viewOf showcase View.pagePacking
      mount v window
      pure v) ({ ui := {} } : Session Ui)).2.ui.kit.widgets.length = 19 := by decide +kernel
  rw [hexec] at hcount
  obtain ⟨hviews, hwidgets⟩ := hcount
  rw [hviews, hwidgets] at hmounted
  exact ⟨t, hgrown, rfl, hmounted, hrest 0 (Nat.le_refl _) (hviews ▸ Nat.succ_pos 4)⟩

end Session
end RemoteScreen
