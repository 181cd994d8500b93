import RemoteScreen.Proofs.View.Composite

/-! What stands while a tree of components is looked after: what stood before, and one widget for each
component of the tree while it is mounted. That is so after every single thing that is done to it: it is
mounted and destroyed as a whole, and components are taken in anywhere, and taken out. -/
namespace RemoteScreen
namespace Session

open Bough (labelsAll Trunk)

variable {s t u : Session Ui} {k₀ : Toolkit Command} {v w c e q : Nat} {place : Option Nat}
  {us : List Nat} {x : View} {b b' : Bough} {made : List View}

/-! Trees and what stands -/

/-- What stands is what stood at first, in `k₀`, and the widgets of the components of a tree. -/
structure Grove (k₀ : Toolkit Command) (b : Bough) (s : Session Ui) : Prop where
  hung : ∃ place, Hung s b place
  labels : b.labels.Nodup
  grown : s.ui.kit.Grown
  base : k₀.widgets.length ≤ s.ui.kit.widgets.length
  standing : ∀ w, s.ui.kit.isAlive w = true ↔ k₀.isAlive w = true ∨ w ∈ s.rootsOf b.labels
  roots : (s.rootsOf b.labels).Nodup
  fresh : ∀ w ∈ s.rootsOf b.labels, k₀.widgets.length ≤ w

/-- These components have come to their end, each after those that it held, and their widgets have been
destroyed. -/
structure Gone (us : List Nat) (s t : Session Ui) : Prop where
  ended : ∀ e ∈ us, ∀ x, s.ui.views[e]? = some x → t.ui.views[e]? = some x.ended
  destroyed : t.ui.kit.destroyed = s.ui.kit.destroyed ++ s.rootsOf us
  knots : ∀ e ∈ us, ∃ (q : Option Nat) (kids : List Nat) (x : View), Knot s q e kids x ∧
    ∀ c ∈ kids, [c, e].Sublist us

/-- What one step does to a tree: it may lose some components, and gain some that have just been made;
and its components keep their widgets, lose them, or get new ones, for which widgets are made. -/
structure Tends (k₀ : Toolkit Command) (b b' : Bough) (us : List Nat) (s t : Session Ui) : Prop where
  grove : Grove k₀ b' t
  label : b'.label = b.label
  labels : ∀ v ∈ b'.labels, v ∈ b.labels ∨ s.ui.views.length ≤ v
  others : ∀ v < s.ui.views.length, v ∉ b.labels → t.ui.views[v]? = s.ui.views[v]?
  length : s.ui.views.length ≤ t.ui.views.length
  gone : Gone us s t
  lost : ∀ v ∈ us, v ∈ b.labels ∧ (v ∈ b'.labels → v = b.label)
  kept : ∀ v ∈ b'.labels, ∀ w, s.rootOf v = some w → t.rootOf v = some w ∨ t.rootOf v = none
  new : ∀ v ∈ b'.labels, ∀ w, s.rootOf v = none → t.rootOf v = some w →
    s.ui.kit.widgets.length ≤ w
  made : ∀ w, s.ui.kit.widgets.length ≤ w → w < t.ui.kit.widgets.length → w ∈ t.rootsOf b'.labels

theorem gone_nil (h : t.ui.kit.destroyed = s.ui.kit.destroyed) : Gone [] s t where
  ended := fun e he => absurd he List.not_mem_nil
  destroyed := by rw [h, rootsOf, List.filterMap_nil, List.append_nil]
  knots := fun e he => absurd he List.not_mem_nil

theorem Grove.mem_labels (h : Grove k₀ b s) : Under s b.label v ↔ v ∈ b.labels := by
  obtain ⟨place, hhung⟩ := h.hung
  exact Hung.under_iff b hhung v

theorem Grove.lt_of_mem (h : Grove k₀ b s) (hv : v ∈ b.labels) : v < s.ui.views.length := by
  obtain ⟨place, hhung⟩ := h.hung
  obtain ⟨x, hx, -⟩ := Hung.mounted b hhung v hv
  exact (List.getElem?_eq_some_iff.1 hx).1

theorem Grove.refl (h : Grove k₀ b s) : Tends k₀ b b [] s s where
  grove := h
  label := rfl
  labels := fun _ hv => .inl hv
  others := fun _ _ _ => rfl
  length := Nat.le_refl _
  gone := gone_nil rfl
  lost := fun _ hv => absurd hv List.not_mem_nil
  kept := fun _ _ _ hw => .inl hw
  new := by
    intro v _ w hnone hw
    rw [hnone] at hw
    cases hw
  made := fun _ hle hlt => absurd hlt (Nat.not_lt.2 hle)

/-- A step may be followed by one that changes no view and no widget's place. -/
theorem Tends.still (h : Tends k₀ b b' us s t) (k : Still t u) : Tends k₀ b b' us s u := by
  obtain ⟨place, hhung⟩ := h.grove.hung
  have hroot (v : Nat) : u.rootOf v = t.rootOf v := (k.framed v).rootOf
  have hroots : u.rootsOf b'.labels = t.rootsOf b'.labels := rootsOf_congr fun v _ => hroot v
  have hgrown : u.ui.kit.Grown := by
    refine ⟨fun c p hp => ?_, fun c p hc hp => ?_, fun w hw => ?_, ?_⟩
    · exact h.grove.grown.earlier c p ((k.parents c).symm.trans hp)
    · refine (k.isAlive p).trans (h.grove.grown.upright c p ((k.isAlive c).symm.trans hc) ?_)
      exact (k.parents c).symm.trans hp
    · rw [k.length]
      exact h.grove.grown.made w (k.destroyed ▸ hw)
    · rw [k.destroyed]
      exact h.grove.grown.once
  have hstanding (w : Nat) : u.ui.kit.isAlive w = true ↔
      k₀.isAlive w = true ∨ w ∈ u.rootsOf b'.labels := by
    rw [k.isAlive, hroots]
    exact h.grove.standing w
  have hgone : Gone us s u :=
    ⟨fun e he x hx => k.views ▸ h.gone.ended e he x hx, k.destroyed.trans h.gone.destroyed,
      h.gone.knots⟩
  refine { h with
    grove := ⟨⟨place, Hung.framed b' hhung fun v _ => k.framed v⟩, h.grove.labels, hgrown,
      k.length ▸ h.grove.base, hstanding, hroots ▸ h.grove.roots, hroots ▸ h.grove.fresh⟩
    others := k.views ▸ h.others, length := k.views ▸ h.length, gone := hgone, kept := ?_, new := ?_,
    made := ?_ }
  · intro v hv w hw
    rw [hroot]
    exact h.kept v hv w hw
  · intro v hv w hnone hw
    rw [hroot] at hw
    exact h.new v hv w hnone hw
  · intro w hle hlt
    rw [k.length] at hlt
    rw [hroots]
    exact h.made w hle hlt

theorem Grove.layout (h : Grove k₀ b s) :
    Leads (layout b.label) s fun _ t => Tends k₀ b b [] s t ∧ t.ui.views = s.ui.views := by
  obtain ⟨place, hhung⟩ := h.hung
  exact (layout_hung hhung).mono fun _ t ht => ⟨h.refl.still ht, ht.views⟩

/-! Mounting -/

/-- A tree that is not mounted has no widgets. -/
theorem Hung.rootsOf_none (h : Hung s b none) : s.rootsOf b.labels = [] := by
  refine List.filterMap_eq_nil_iff.2 fun v hv => ?_
  obtain ⟨x, hx, hroot⟩ := Hung.mounted b h v hv
  rw [rootOf_eq hx]
  simpa using hroot

theorem Grove.unmounted (h : Grove k₀ b s) (hroot : s.rootOf b.label = none) : Hung s b none := by
  obtain ⟨place, hhung⟩ := h.hung
  obtain ⟨x, hx, hmounted⟩ := hhung.root
  rw [rootOf_eq hx] at hroot
  rw [hroot] at hmounted
  cases place with
  | none => exact hhung
  | some q => cases hmounted

/-- A tree that is mounted stands in its place. -/
theorem Hung.hangs (h : Hung s b (some q)) :
    ∃ w, s.rootOf b.label = some w ∧ s.ui.kit.parent? w = some q := by
  obtain ⟨v, kids⟩ := b
  rw [Hung] at h
  obtain ⟨x, hknot, -⟩ := h
  obtain ⟨w, hw⟩ := Option.isSome_iff_exists.1 hknot.mounted
  exact ⟨w, (rootOf_eq hknot.view).trans hw, hknot.parent w hw⟩

theorem labelsAll_singleton (b : Bough) : labelsAll [b] = b.labels := List.append_nil _

theorem Grove.mount (h : Grove k₀ b s) (hroot : s.rootOf b.label = none)
    (hq : s.ui.kit.isAlive q = true) :
    Leads (mount b.label q) s fun _ t => Tends k₀ b b [] s t ∧
      ∃ w, t.rootOf b.label = some w ∧ t.ui.kit.parent? w = some q := by
  have hhung := h.unmounted hroot
  have hnone := hhung.rootsOf_none
  refine (mount_raises hhung h.labels h.grown hq).mono fun _ t ht => ?_
  have hone := labelsAll_singleton b
  have hfresh {v w : Nat} (hv : v ∈ b.labels) (hw : t.rootOf v = some w) :=
    ht.fresh (hone ▸ hv) hw
  have hroots := ht.roots
  have hcount := ht.count
  rw [hone] at hroots hcount
  have hstanding (w : Nat) := ht.isAlive_iff (w := w) h.grown
  refine ⟨{ grove := ⟨⟨some q, ht.hung.1⟩, h.labels, ht.grown h.grown hq,
              Nat.le_trans h.base ht.kit.length, fun w => ?_, hroots.nodup_iff.2 List.nodup_range',
              fun w hw => ?_⟩,
            label := rfl, labels := fun v hv => .inl hv,
            others := fun v _ hv => ht.others v (hone ▸ hv), length := Nat.le_of_eq ht.length.symm,
            gone := gone_nil ht.kit.destroyed, lost := fun v hv => absurd hv List.not_mem_nil,
            kept := fun v hv w hw => ?_,
            new := fun v hv w _ hw => (hfresh hv hw).1, made := fun w hle hlt => ?_ },
    ht.hung.1.hangs⟩
  · rw [hstanding w, h.standing w, hnone, hone, or_iff_left List.not_mem_nil]
  · obtain ⟨v, hv, hvw⟩ := mem_rootsOf.1 hw
    exact Nat.le_trans h.base (hfresh hv hvw).1
  · refine absurd (mem_rootsOf.2 ⟨v, hv, hw⟩) ?_
    rw [hnone]
    exact List.not_mem_nil
  · rw [hroots.mem_iff, List.mem_range'_1, ← hcount]
    exact ⟨hle, hlt⟩

/-! Taking out -/

/-- Some components come to their end. What is left of the tree has the widgets that it had, but for
those of these components. -/
theorem Grove.lose (h : Grove k₀ b s) (hhung : Hung t b' place) (hlabel : b'.label = b.label)
    (hlabels : b'.labels.Nodup) (hsub : b'.labels ⊆ b.labels) (hgrown : t.ui.kit.Grown)
    (hwidgets : t.ui.kit.widgets = s.ui.kit.widgets)
    (hlength : t.ui.views.length = s.ui.views.length)
    (hothers : ∀ v, v ∉ b.labels → t.ui.views[v]? = s.ui.views[v]?)
    (hgone : Gone us s t) (hlost : ∀ v ∈ us, v ∈ b.labels ∧ (v ∈ b'.labels → v = b.label))
    (hkept : ∀ v ∈ b'.labels, t.rootOf v = s.rootOf v ∨ t.rootOf v = none)
    (hroots : List.Perm (s.rootsOf b.labels) (t.rootsOf b'.labels ++ s.rootsOf us)) :
    Tends k₀ b b' us s t := by
  have hnodup := hroots.nodup_iff.1 h.roots
  rw [List.nodup_append] at hnodup
  have hmem (w : Nat) : w ∈ s.rootsOf b.labels ↔ w ∈ t.rootsOf b'.labels ∨ w ∈ s.rootsOf us := by
    rw [hroots.mem_iff, List.mem_append]
  have halive (w : Nat) : t.ui.kit.isAlive w = true ↔
      s.ui.kit.isAlive w = true ∧ w ∉ s.rootsOf us := by
    simp only [Toolkit.isAlive_iff, hwidgets, hgone.destroyed, List.mem_append, not_or, and_assoc]
  refine { grove := ⟨⟨place, hhung⟩, hlabels, hgrown, hwidgets ▸ h.base, fun w => ?_, hnodup.1,
             fun w hw => h.fresh w ((hmem w).2 (.inl hw))⟩,
           label := hlabel, labels := fun v hv => .inl (hsub hv), others := fun v _ => hothers v,
           length := Nat.le_of_eq hlength.symm, gone := hgone, lost := hlost,
           kept := fun v hv w hw => (hkept v hv).imp_left (·.trans hw),
           new := fun v hv w hnone hw => ?_, made := fun w hle hlt => ?_ }
  · rw [halive, h.standing, hmem]
    constructor
    · rintro ⟨hbase | hleft | hlost, hnot⟩
      · exact .inl hbase
      · exact .inr hleft
      · exact absurd hlost hnot
    · rintro (hbase | hleft)
      · refine ⟨.inl hbase, fun hlost => ?_⟩
        have hle := h.fresh w ((hmem w).2 (.inr hlost))
        exact absurd (Toolkit.lt_of_isAlive hbase) (Nat.not_lt.2 hle)
      · exact ⟨.inr (.inl hleft), fun hlost => hnodup.2.2 w hleft w hlost rfl⟩
  · rcases hkept v hv with hsame | hgone
    · rw [hsame, hnone] at hw
      cases hw
    · rw [hgone] at hw
      cases hw
  · rw [hwidgets] at hlt
    exact absurd hlt (Nat.not_lt.2 hle)

/-- A tree that is destroyed comes down to its top. -/
theorem Grove.destroy (h : Grove k₀ b s) :
    Leads (destroy b.label) s fun _ t => Tends k₀ b (.node b.label []) b.labels s t := by
  obtain ⟨place, hhung⟩ := h.hung
  refine (destroy_fells hhung h.labels h.roots h.grown).mono ?_
  rintro _ t ⟨hfelled, hgrown⟩
  obtain ⟨q, kids, x, hknot, -⟩ := Hung.knot b hhung b.label b.label_mem_labels
  have htop : t.ui.views[b.label]? = some x.ended :=
    hfelled.ended _ x hknot.view b.label_mem_labels
  have hroot : t.rootOf b.label = none := rootOf_eq htop
  have hroots : t.rootsOf (Bough.node b.label []).labels = [] := by
    simp [Bough.labels, labelsAll, rootsOf, hroot]
  have hhung' : Hung t (.node b.label []) none := by
    rw [Hung]
    exact ⟨x.ended, .of_unmounted htop hknot.kind rfl rfl rfl, trivial⟩
  have hgone : Gone b.labels s t :=
    ⟨fun e he x hx => hfelled.ended e x hx he, hfelled.roots, Hung.knot b hhung⟩
  refine h.lose hhung' rfl (List.nodup_singleton _) (fun v hv => ?_) hgrown hfelled.widgets
    hfelled.length (fun v hv => hfelled.toTorn.view_of_not hv) hgone
    (fun v hv => ⟨hv, List.mem_singleton.1⟩) (fun v hv => .inr ?_) ?_
  · rw [List.mem_singleton.1 hv]
    exact b.label_mem_labels
  · rw [List.mem_singleton.1 hv]
    exact hroot
  · rw [hroots, List.nil_append]

/-- A component may be emptied anywhere in a tree. -/
theorem Grove.clear (h : Grove k₀ b s) (hv : v ∈ b.labels) :
    Leads (clearComponents v) s fun _ t => ∃ b' us, Tends k₀ b b' us s t ∧
      (∀ e, Under s v e → e ≠ v → e ∈ us) ∧
      ∀ x, s.ui.views[v]? = some x → t.ui.views[v]? = some (emptied x) := by
  obtain ⟨place, hhung⟩ := h.hung
  obtain ⟨trunk, kids, rfl⟩ := Bough.exists_fill b hv
  obtain ⟨q, hbranch, hexchange⟩ := hhung.exchange trunk
  have hunder := Hung.under_iff _ hbranch
  rw [Hung] at hbranch
  obtain ⟨x, hknot, hkids⟩ := hbranch
  -- The tree is what stays and what goes.
  obtain ⟨hne, hgo, -⟩ := Trunk.apart h.labels
  have hperm : List.Perm (trunk.fill (.node v kids)).labels
      ((trunk.fill (.node v [])).labels ++ labelsAll kids) := trunk.labels_graft v [] kids
  have hroots := hperm.filterMap s.rootOf
  rw [List.filterMap_append] at hroots
  obtain ⟨hstay, -, hapart⟩ := List.nodup_append.1 (hperm.nodup_iff.1 h.labels)
  obtain ⟨-, hrootsGo, hrootsApart⟩ := List.nodup_append.1 (hroots.nodup_iff.1 h.roots)
  have hself : v ∈ (trunk.fill (.node v [])).labels := trunk.mem_stub.2 (.inr rfl)
  have hlabel : (trunk.fill (.node v [])).label = (trunk.fill (.node v kids)).label :=
    trunk.label_fill (by rfl)
  refine (clearComponents_fells hknot hkids hgo hrootsGo h.grown).mono ?_
  rintro _ _ ⟨t, hfelled, hgrown, rfl⟩
  have hframed {e : Nat} (he : e ∈ (trunk.fill (.node v [])).labels) : Framed s t e := by
    refine hfelled.framed (fun hmem => hapart e he e hmem rfl) fun w hw hmem => ?_
    exact hrootsApart w (mem_rootsOf.2 ⟨e, he, hw⟩) w hmem rfl
  have hx : (t.withView v emptied).ui.views[v]? = some (emptied x) :=
    withView_self ((hframed hself).view.trans hknot.view) emptied
  have hframed' (e : Nat) (he : e ∈ trunk.labels) : Framed s (t.withView v emptied) e :=
    (hframed (trunk.mem_stub.2 (.inl he))).withView emptied (hne e he)
  have hroot : (t.withView v emptied).rootOf v = s.rootOf v := by
    rw [rootOf_eq hx, rootOf_eq hknot.view]
    rfl
  have hsame (e : Nat) (he : e ∈ (trunk.fill (.node v [])).labels) :
      (t.withView v emptied).rootOf e = s.rootOf e := by
    rcases trunk.mem_stub.1 he with he | rfl
    · exact (hframed' e he).rootOf
    · exact hroot
  have hgone : Gone (labelsAll kids) s (t.withView v emptied) := by
    refine ⟨fun e he y hy => ?_, hfelled.roots, HungAll.knot kids hkids⟩
    exact (withView_ne emptied (hapart v hself e he).symm).trans (hfelled.ended e y hy he)
  have hwhole : Hung (t.withView v emptied) (trunk.fill (.node v [])) place :=
    hexchange _ _ (by rfl) (hfelled.stub hknot (hframed hself)) hframed' hroot
  refine ⟨trunk.fill (.node v []), labelsAll kids,
    h.lose hwhole hlabel hstay (fun e he => hperm.mem_iff.2 (List.mem_append_left _ he)) hgrown
      hfelled.widgets ((length_withView _ _ _).trans hfelled.length) (fun e he => ?_) hgone
      (fun e he => ⟨hperm.mem_iff.2 (List.mem_append_right _ he), fun hmem => ?_⟩)
      (fun e he => .inl (hsame e he)) ?_, fun e he hev => ?_, fun y hy => ?_⟩
  · rw [hperm.mem_iff, List.mem_append, not_or] at he
    have hev : e ≠ v := fun heq => he.1 (by rw [heq]; exact hself)
    exact (withView_ne emptied hev).trans (hfelled.toTorn.view_of_not he.2)
  · exact absurd rfl (hapart e hmem e he)
  · rw [rootsOf_congr hsame]
    exact hroots
  · have hmem := (hunder e).1 he
    rw [Bough.labels, List.mem_append, List.mem_singleton] at hmem
    exact hmem.resolve_right hev
  · obtain rfl := Option.some.inj (hknot.view.symm.trans hy)
    exact hx

/-! Taking in -/

/-- Some views have been made. -/
def withMade (s : Session Ui) (made : List View) : Session Ui :=
  { s with ui := { s.ui with views := s.ui.views ++ made } }

theorem withMade_old (made : List View) (he : e < s.ui.views.length) :
    (s.withMade made).ui.views[e]? = s.ui.views[e]? := List.getElem?_append_left he

/-- A component has taken in a new tree, which stands in its widget if it is mounted. -/
structure Budded (v : Nat) (x : View) (b : Bough) (s t : Session Ui) : Prop where
  hung : Hung t b x.root
  view : t.ui.views[v]? = some { x with components := x.components ++ [b.label] }
  others : ∀ e < s.ui.views.length, e ≠ v → t.ui.views[e]? = s.ui.views[e]?
  length : s.ui.views.length ≤ t.ui.views.length
  grown : t.ui.kit.Grown
  widgets : s.ui.kit.widgets.length ≤ t.ui.kit.widgets.length
  destroyed : t.ui.kit.destroyed = s.ui.kit.destroyed
  parents : ∀ c < s.ui.kit.widgets.length, t.ui.kit.parent? c = s.ui.kit.parent? c
  roots : List.Perm (t.rootsOf b.labels) (List.range' s.ui.kit.widgets.length
    (t.ui.kit.widgets.length - s.ui.kit.widgets.length))
  direct : ∀ c p, s.ui.kit.widgets.length ≤ c → p < s.ui.kit.widgets.length →
    t.ui.kit.parent? c = some p → x.root = some p ∧ t.rootOf b.label = some c

theorem addComponent_buds (hx : s.ui.views[v]? = some x) (hparts : x.parts = .none)
    (hstands : ∀ w, x.root = some w → s.ui.kit.isAlive w = true) (hgrown : s.ui.kit.Grown)
    (hnew : Hung (s.withMade made) b none) (hlabels : b.labels.Nodup)
    (hlater : ∀ e ∈ b.labels, s.ui.views.length ≤ e) :
    Leads (addComponent v b.label) (s.withMade made) fun _ t =>
      ∃ t₀, Budded v x b s t₀ ∧ Still t₀ t := by
  let s₁ : Session Ui := (s.withMade made).withView v (adopting b.label)
  have hv : v < s.ui.views.length := (List.getElem?_eq_some_iff.1 hx).1
  have hx₀ : (s.withMade made).ui.views[v]? = some x := (withMade_old made hv).trans hx
  have hx₁ : s₁.ui.views[v]? = some (adopting b.label x) := withView_self hx₀ _
  have hapart : v ∉ b.labels := fun hmem => absurd hv (Nat.not_lt.2 (hlater v hmem))
  have hnew₁ : Hung s₁ b none := by
    refine Hung.framed b hnew fun e he => .of_unmounted (withView_ne _ ?_) ?_
    · rintro rfl
      exact hapart he
    · obtain ⟨y, hy, hroot⟩ := Hung.mounted b hnew e he
      rw [rootOf_eq hy]
      simpa using hroot
  have hothers₁ (e : Nat) (he : e < s.ui.views.length) (hev : e ≠ v) :
      s₁.ui.views[e]? = s.ui.views[e]? := (withView_ne _ hev).trans (withMade_old made he)
  have hlength₁ : s.ui.views.length ≤ s₁.ui.views.length := by
    simp [s₁, withMade]
  cases hroot : x.root with
  | none =>
    have hroots : s₁.rootsOf b.labels = [] := hnew₁.rootsOf_none
    refine ⟨⟨⟩, s₁, exec_addComponent_of_none hx₀ hroot b.label, s₁, ⟨hroot ▸ hnew₁, hx₁, hothers₁,
      hlength₁, hgrown, Nat.le_refl _, rfl, fun _ _ => rfl, ?_, fun c p hc _ hparent => ?_⟩, .refl s₁⟩
    · rw [hroots]
      simp [s₁, withMade, withView]
    · exact absurd (Toolkit.lt_of_parent? (k := s.ui.kit) hparent) (Nat.not_lt.2 hc)
  | some w =>
    have hchild : x.childParent? = some w := by rw [View.childParent?, hparts, hroot]
    have halive : s₁.ui.kit.isAlive w = true := hstands w hroot
    have hone := labelsAll_singleton b
    refine Leads.of_exec ?_ (exec_addComponent_of_some hx₀ hroot hchild b.label)
    refine leads_bind (mount_raises hnew₁ hlabels hgrown halive) fun _ t ht => ?_
    have hroots := ht.roots
    have hcount := ht.count
    rw [hone] at hroots hcount
    refine (layout_hung ht.hung.1).mono fun _ u hu => ⟨t, ⟨hroot ▸ ht.hung.1, ?_, fun e he hev => ?_,
      Nat.le_trans hlength₁ (Nat.le_of_eq ht.length.symm), ht.grown hgrown halive, ht.kit.length,
      ht.kit.destroyed, ht.kit.parents, ?_, fun c p hc hp hcp => ?_⟩, hu⟩
    · exact (ht.others v (hone.symm ▸ hapart)).trans hx₁
    · refine (ht.others e ?_).trans (hothers₁ e he hev)
      rw [hone]
      exact fun hmem => absurd he (Nat.not_lt.2 (hlater e hmem))
    · rw [hcount]
      exact (Nat.add_sub_cancel_left _ _).symm ▸ hroots
    · -- A new widget is in a new one, or it is that of the top.
      obtain ⟨p', hp', -, hplace⟩ := ht.kit.hung c hc (Toolkit.lt_of_parent? hcp)
      obtain rfl := Option.some.inj (hcp.symm.trans hp')
      obtain rfl := hplace.resolve_right (Nat.not_le.2 hp)
      obtain ⟨b', hb', hbc⟩ := ht.direct c hc hcp
      obtain rfl := List.mem_singleton.1 hb'
      exact ⟨hroot, hbc⟩

section Budded

variable {bn : Bough} (h : Budded v x bn s t)
include h

theorem Budded.rootOf (hx : s.ui.views[v]? = some x) (he : e < s.ui.views.length) :
    t.rootOf e = s.rootOf e := by
  by_cases hev : e = v
  · subst hev
    rw [rootOf_eq h.view, rootOf_eq hx]
  · rw [Session.rootOf, h.others e he hev, Session.rootOf]

theorem Budded.isAlive_iff (hgrown : s.ui.kit.Grown) :
    t.ui.kit.isAlive w = true ↔ s.ui.kit.isAlive w = true ∨ w ∈ t.rootsOf bn.labels := by
  rw [hgrown.isAlive_longer h.widgets h.destroyed, h.roots.mem_iff, List.mem_range'_1,
    Nat.add_sub_cancel' h.widgets]

/-- What stands in a widget that stood already stood there, or is that of the new tree. -/
theorem Budded.stood (hw : w < s.ui.kit.widgets.length) (hc : t.ui.kit.isAlive c = true)
    (hparent : t.ui.kit.parent? c = some w) :
    s.ui.kit.isAlive c = true ∧ s.ui.kit.parent? c = some w ∨
      x.root = some w ∧ t.rootOf bn.label = some c := by
  rcases Nat.lt_or_ge c s.ui.kit.widgets.length with hold | hnew
  · refine .inl ⟨?_, (h.parents c hold).symm.trans hparent⟩
    rw [Toolkit.isAlive_iff, ← h.destroyed]
    exact ⟨hold, (Toolkit.isAlive_iff.1 hc).2⟩
  · exact .inr (h.direct c w hnew hw hparent)

theorem Budded.framed (hgrown : s.ui.kit.Grown) (he : e < s.ui.views.length) (hev : e ≠ v)
    (hroot : ∀ w, s.rootOf e = some w → w < s.ui.kit.widgets.length ∧ x.root ≠ some w) :
    Framed s t e where
  view := h.others e he hev
  stands := fun _ _ halive => (h.isAlive_iff hgrown).2 (.inl halive)
  parent := fun w hw => h.parents w (hroot w hw).1
  sole := fun w hw _ halive hparent =>
    (h.stood (hroot w hw).1 halive hparent).resolve_right fun hnew => (hroot w hw).2 hnew.1

/-- The component holds the new tree with what it held. -/
theorem Budded.node {kids : List Bough} (hknot : Knot s place v (kids.map Bough.label) x)
    (hkids : HungAll s kids x.root) (hgrown : s.ui.kit.Grown)
    (hframed : ∀ e ∈ labelsAll kids, Framed s t e) : Hung t (.node v (kids ++ [bn])) place := by
  have hlt {w : Nat} (hw : x.root = some w) : w < s.ui.kit.widgets.length :=
    Toolkit.lt_of_isAlive (hknot.stands w hw)
  have hlabels : (kids ++ [bn]).map Bough.label = kids.map Bough.label ++ [bn.label] := by simp
  rw [Hung, hlabels]
  refine ⟨_, ⟨h.view, hknot.kind, hknot.parts, by rw [hknot.components], hknot.mounted,
    fun w hw => ?_, fun w hw => ?_, fun w hw c halive hparent => ?_⟩,
    hungAll_append.2 ⟨HungAll.framed kids hkids hframed, h.hung, trivial⟩⟩
  · exact (h.isAlive_iff hgrown).2 (.inl (hknot.stands w hw))
  · exact (h.parents w (hlt hw)).trans (hknot.parent w hw)
  · rcases h.stood (hlt hw) halive hparent with ⟨halive, hparent⟩ | ⟨-, hnew⟩
    · obtain ⟨e, he, hec⟩ := hknot.sole w hw c halive hparent
      obtain ⟨kid, hkid, rfl⟩ := List.mem_map.1 he
      have hsame := (hframed _ (Bough.label_mem_labelsAll hkid)).rootOf
      exact ⟨_, List.mem_append_left _ he, hsame.trans hec⟩
    · exact ⟨_, List.mem_append_right _ List.mem_cons_self, hnew⟩

end Budded

/-- Some components have been made, and have their widgets if the tree is mounted. The others have the
widgets that they had. -/
theorem Grove.gain (h : Grove k₀ b s) {bn : Bough} (ht : Budded v x bn s t)
    (hx : s.ui.views[v]? = some x) (hv : v ∈ b.labels) (hhung : Hung t b' place)
    (hlabel : b'.label = b.label) (hlabels : List.Perm b'.labels (b.labels ++ bn.labels))
    (hnodup : bn.labels.Nodup) (hlater : ∀ e ∈ bn.labels, s.ui.views.length ≤ e) :
    Tends k₀ b b' [] s t := by
  have hold {e : Nat} (he : e ∈ b.labels) : t.rootOf e = s.rootOf e := ht.rootOf hx (h.lt_of_mem he)
  have hroots : List.Perm (t.rootsOf b'.labels) (s.rootsOf b.labels ++ t.rootsOf bn.labels) := by
    have hperm := hlabels.filterMap t.rootOf
    rw [List.filterMap_append] at hperm
    exact hperm.trans (.of_eq (congrArg (· ++ _) (rootsOf_congr fun e => hold)))
  have hmem {w : Nat} : w ∈ t.rootsOf b'.labels ↔
      w ∈ s.rootsOf b.labels ∨ w ∈ t.rootsOf bn.labels := by
    rw [hroots.mem_iff, List.mem_append]
  have hrange {w : Nat} : w ∈ t.rootsOf bn.labels ↔
      s.ui.kit.widgets.length ≤ w ∧ w < t.ui.kit.widgets.length := by
    rw [ht.roots.mem_iff, List.mem_range'_1, Nat.add_sub_cancel' ht.widgets]
  have hbefore {e w : Nat} (he : e ∈ bn.labels) : s.rootOf e ≠ some w := by
    rw [Session.rootOf, List.getElem?_eq_none (hlater e he)]
    exact (Option.some_ne_none w).symm
  have hlabels' : b'.labels.Nodup := by
    refine hlabels.nodup_iff.2 (List.nodup_append.2 ⟨h.labels, hnodup, fun e he e' he' => ?_⟩)
    exact Nat.ne_of_lt (Nat.lt_of_lt_of_le (h.lt_of_mem he) (hlater e' he'))
  have hroots' : (t.rootsOf b'.labels).Nodup := by
    refine hroots.nodup_iff.2 (List.nodup_append.2
      ⟨h.roots, ht.roots.nodup_iff.2 List.nodup_range', fun w hw w' hw' => ?_⟩)
    have hlt := Toolkit.lt_of_isAlive ((h.standing w).2 (.inr hw))
    exact Nat.ne_of_lt (Nat.lt_of_lt_of_le hlt (hrange.1 hw').1)
  refine { grove := ⟨⟨place, hhung⟩, hlabels', ht.grown, Nat.le_trans h.base ht.widgets,
             fun w => ?_, hroots', fun w hw => ?_⟩,
           label := hlabel, labels := fun e he => ?_, others := fun e he hnot => ht.others e he ?_,
           length := ht.length, gone := gone_nil ht.destroyed,
           lost := fun e he => absurd he List.not_mem_nil, kept := fun e he w hw => ?_,
           new := fun e he w hnone hw => ?_,
           made := fun w hle hlt => hmem.2 (.inr (hrange.2 ⟨hle, hlt⟩)) }
  · rw [ht.isAlive_iff h.grown, h.standing, hmem, or_assoc]
  · exact (hmem.1 hw).elim (h.fresh w) fun hw => Nat.le_trans h.base (hrange.1 hw).1
  · rw [hlabels.mem_iff, List.mem_append] at he
    exact he.imp_right (hlater e)
  · rintro rfl
    exact hnot hv
  · rw [hlabels.mem_iff, List.mem_append] at he
    refine .inl ?_
    rcases he with he | he
    · exact (hold he).trans hw
    · exact absurd hw (hbefore he)
  · rw [hlabels.mem_iff, List.mem_append] at he
    rcases he with he | he
    · rw [hold he, hnone] at hw
      cases hw
    · exact (hrange.1 (mem_rootsOf.2 ⟨e, he, hw⟩)).1

/-- A component may take in a new tree anywhere. -/
theorem Grove.add (h : Grove k₀ b s) (hv : v ∈ b.labels) {bn : Bough}
    (hlater : bn.labels.Perm (List.range' s.ui.views.length made.length))
    (hnew : Hung (s.withMade made) bn none) :
    Leads (addComponent v bn.label) (s.withMade made) fun _ t => ∃ b', Tends k₀ b b' [] s t ∧
      ∀ x, s.ui.views[v]? = some x →
        t.ui.views[v]? = some { x with components := x.components ++ [bn.label] } := by
  obtain ⟨place, hhung⟩ := h.hung
  obtain ⟨trunk, kids, rfl⟩ := Bough.exists_fill b hv
  have hlt {e : Nat} (he : e ∈ (trunk.fill (.node v kids)).labels) := h.lt_of_mem he
  obtain ⟨q, hbranch, hexchange⟩ := hhung.exchange trunk
  rw [Hung] at hbranch
  obtain ⟨x, hknot, hkids⟩ := hbranch
  have hnodup : bn.labels.Nodup := hlater.nodup_iff.2 List.nodup_range'
  have hle (e : Nat) (he : e ∈ bn.labels) : s.ui.views.length ≤ e :=
    (List.mem_range'_1.1 (hlater.mem_iff.1 he)).1
  have hlabels := trunk.labels_graft v kids [bn]
  rw [labelsAll_singleton] at hlabels
  have hlabel : (trunk.fill (.node v (kids ++ [bn]))).label = (trunk.fill (.node v kids)).label :=
    trunk.label_fill (by rfl)
  obtain ⟨hne, -, hself⟩ := Trunk.apart h.labels
  have hparts := trunk.labels_fill (.node v kids)
  rw [Bough.labels] at hparts
  refine (addComponent_buds hknot.view hknot.parts hknot.stands h.grown hnew hnodup hle).mono ?_
  rintro _ u ⟨t, ht, hstill⟩
  have hframed {e : Nat} (he : e ∈ (trunk.fill (.node v kids)).labels) (hev : e ≠ v) :
      Framed s t e := by
    refine ht.framed h.grown (hlt he) hev fun w hw => ⟨?_, fun hxw => hev ?_⟩
    · exact Toolkit.lt_of_isAlive ((h.standing w).2 (.inr (mem_rootsOf.2 ⟨e, he, hw⟩)))
    · exact eq_of_rootOf h.roots he hv hw ((rootOf_eq hknot.view).trans hxw)
  have hbranch' : Hung t (.node v (kids ++ [bn])) q := by
    refine ht.node hknot hkids h.grown fun e he => hframed ?_ ?_
    · exact hparts.mem_iff.2 (List.mem_append_right _ (List.mem_append_left _ he))
    · rintro rfl
      exact hself he
  have hframed' (e : Nat) (he : e ∈ trunk.labels) : Framed s t e :=
    hframed (hparts.mem_iff.2 (List.mem_append_left _ he)) (hne e he)
  have hwhole : Hung t (trunk.fill (.node v (kids ++ [bn]))) place :=
    hexchange _ _ rfl hbranch' hframed' (ht.rootOf hknot.view (hlt hv))
  refine ⟨_, (h.gain ht hknot.view hv hwhole hlabel hlabels hnodup hle).still hstill, fun y hy => ?_⟩
  obtain rfl := Option.some.inj (hknot.view.symm.trans hy)
  rw [hstill.views]
  exact ht.view

end Session
end RemoteScreen
