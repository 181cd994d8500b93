import RemoteScreen.Proofs.View.Adoption

/-! Trees of components that hold nothing but one another: what it is for one to be mounted or not, and
that this goes on as long as its components and what is in their widgets do not change. -/
namespace RemoteScreen

/-- A tree of components, by their numbers. -/
inductive Bough where
  | node (v : Nat) (kids : List Bough)

namespace Bough

def label : Bough → Nat
  | node v _ => v

mutual

/-- The components of a tree, each after all that it holds. -/
def labels : Bough → List Nat
  | node v kids => labelsAll kids ++ [v]

def labelsAll : List Bough → List Nat
  | [] => []
  | b :: bs => labels b ++ labelsAll bs

end

@[simp] theorem labelsAll_append (as bs : List Bough) :
    labelsAll (as ++ bs) = labelsAll as ++ labelsAll bs := by
  induction as with
  | nil => rfl
  | cons a as ih => rw [List.cons_append, labelsAll, ih, labelsAll, List.append_assoc]

theorem label_mem_labels : ∀ b : Bough, b.label ∈ b.labels
  | node v kids => by
    rw [labels]
    exact List.mem_append_right _ List.mem_cons_self

theorem labels_sublist {b : Bough} {bs : List Bough} (h : b ∈ bs) :
    b.labels.Sublist (labelsAll bs) := by
  induction bs with
  | nil => exact absurd h List.not_mem_nil
  | cons a as ih =>
    rw [labelsAll]
    rcases List.mem_cons.1 h with rfl | h
    · exact List.sublist_append_left _ _
    · exact (ih h).trans (List.sublist_append_right _ _)

/-- The top of each of these trees is one of their components. -/
theorem label_mem_labelsAll {b : Bough} {bs : List Bough} (h : b ∈ bs) : b.label ∈ labelsAll bs :=
  (labels_sublist h).subset b.label_mem_labels

/-- A tree without one of its branches. -/
inductive Trunk where
  | tip
  | up (v : Nat) (left : List Bough) (trunk : Trunk) (right : List Bough)

namespace Trunk

/-- The tree with this branch. -/
def fill (b : Bough) : Trunk → Bough
  | tip => b
  | up v left trunk right => .node v (left ++ fill b trunk :: right)

def labels : Trunk → List Nat
  | tip => []
  | up v left trunk right => labelsAll left ++ labels trunk ++ labelsAll right ++ [v]

theorem label_fill {b b' : Bough} (h : b'.label = b.label) :
    ∀ trunk : Trunk, (trunk.fill b').label = (trunk.fill b).label
  | tip => h
  | up .. => rfl

theorem labels_fill (b : Bough) (trunk : Trunk) :
    List.Perm (trunk.fill b).labels (trunk.labels ++ b.labels) := by
  induction trunk with
  | tip => exact .refl _
  | up v left trunk right ih =>
    rw [fill, Bough.labels, labelsAll_append, labelsAll, labels]
    refine (((ih.append_right _).append_left _).append_right _).trans ?_
    rw [List.perm_iff_count]
    intro a
    simp only [List.count_append]
    omega

/-- A branch may hold more trees. -/
theorem labels_graft (trunk : Trunk) (v : Nat) (kids more : List Bough) :
    List.Perm (trunk.fill (node v (kids ++ more))).labels
      ((trunk.fill (node v kids)).labels ++ labelsAll more) := by
  refine (labels_fill _ trunk).trans (.trans ?_ ((labels_fill _ trunk).symm.append_right _))
  rw [Bough.labels, labelsAll_append, Bough.labels]
  rw [List.perm_iff_count]
  intro a
  simp only [List.count_append]
  omega

theorem mem_stub {e v : Nat} (trunk : Trunk) :
    e ∈ (trunk.fill (node v [])).labels ↔ e ∈ trunk.labels ∨ e = v := by
  rw [(labels_fill _ trunk).mem_iff, List.mem_append, Bough.labels, labelsAll, List.nil_append,
    List.mem_singleton]

/-- If every component has its place only once, the top of a branch is not in the trunk, nor in what it
holds. -/
theorem apart {trunk : Trunk} {v : Nat} {kids : List Bough}
    (h : (trunk.fill (node v kids)).labels.Nodup) :
    (∀ e ∈ trunk.labels, e ≠ v) ∧ (labelsAll kids).Nodup ∧ v ∉ labelsAll kids := by
  have hnodup := (labels_fill _ trunk).nodup_iff.1 h
  rw [Bough.labels] at hnodup
  simp only [List.nodup_append, List.mem_append, List.mem_singleton] at hnodup
  obtain ⟨-, ⟨hkids, -, hself⟩, htrunk⟩ := hnodup
  exact ⟨fun e he => htrunk e he v (.inr rfl), hkids, fun hmem => hself v hmem v rfl rfl⟩

end Trunk

mutual

/-- Where there is a component there is a branch. -/
theorem exists_fill {v : Nat} : ∀ b : Bough, v ∈ b.labels →
    ∃ (trunk : Trunk) (kids : List Bough), b = trunk.fill (node v kids)
  | node u kids, h => by
    rw [labels, List.mem_append, List.mem_singleton] at h
    rcases h with h | rfl
    · obtain ⟨left, trunk, right, branch, rfl⟩ := exists_fillAll kids h
      exact ⟨.up u left trunk right, branch, rfl⟩
    · exact ⟨.tip, kids, rfl⟩

theorem exists_fillAll {v : Nat} : ∀ bs : List Bough, v ∈ labelsAll bs →
    ∃ (left : List Bough) (trunk : Trunk) (right kids : List Bough),
      bs = left ++ trunk.fill (node v kids) :: right
  | [], h => absurd h List.not_mem_nil
  | b :: bs, h => by
    rw [labelsAll, List.mem_append] at h
    rcases h with h | h
    · obtain ⟨trunk, kids, rfl⟩ := exists_fill b h
      exact ⟨[], trunk, bs, kids, rfl⟩
    · obtain ⟨left, trunk, right, kids, rfl⟩ := exists_fillAll bs h
      exact ⟨b :: left, trunk, right, kids, rfl⟩

end

end Bough

namespace Session

open Bough (labelsAll Trunk)

variable {s t u : Session Ui} {v w c e : Nat} {place : Option Nat} {kids : List Nat} {x : View}
  {b : Bough} {bs : List Bough}

/-- The widget of a view, if it is mounted. -/
def rootOf (s : Session Ui) (v : Nat) : Option Nat := (s.ui.views[v]?).bind View.root

theorem rootOf_eq (hx : s.ui.views[v]? = some x) : s.rootOf v = x.root := by
  rw [rootOf, hx, Option.bind_some]

/-- The widgets of views that are mounted. -/
def rootsOf (s : Session Ui) (vs : List Nat) : List Nat := vs.filterMap s.rootOf

@[simp] theorem rootsOf_append (s : Session Ui) (vs vs' : List Nat) :
    s.rootsOf (vs ++ vs') = s.rootsOf vs ++ s.rootsOf vs' := List.filterMap_append

theorem mem_rootsOf {vs : List Nat} : w ∈ s.rootsOf vs ↔ ∃ v ∈ vs, s.rootOf v = some w :=
  List.mem_filterMap

theorem rootsOf_congr {vs : List Nat} (h : ∀ v ∈ vs, t.rootOf v = s.rootOf v) :
    t.rootsOf vs = s.rootsOf vs := List.filterMap_congr h

/-- Different views of these have different widgets. -/
theorem eq_of_rootOf {vs : List Nat} (h : (s.rootsOf vs).Nodup) (hv : v ∈ vs) (he : e ∈ vs)
    (hvw : s.rootOf v = some w) (hew : s.rootOf e = some w) : v = e := by
  induction vs with
  | nil => exact absurd hv List.not_mem_nil
  | cons a vs ih =>
    have hfirst {c d : Nat} (hc : s.rootOf a = some c) (hd : d ∈ vs) (hdc : s.rootOf d = some c) :
        False := by
      rw [rootsOf, List.filterMap_cons_some hc, List.nodup_cons] at h
      exact h.1 (mem_rootsOf.2 ⟨d, hd, hdc⟩)
    rcases List.mem_cons.1 hv with rfl | hv' <;> rcases List.mem_cons.1 he with rfl | he'
    · rfl
    · exact (hfirst hvw he' hew).elim
    · exact (hfirst hew hv' hvw).elim
    · exact ih (h.sublist ((List.sublist_cons_self a vs).filterMap _)) hv' he'

/-- A component that holds these. It is mounted exactly if it is given a place, and then its widget
stands in that place and has nothing in it but the widgets of these. -/
structure Knot (s : Session Ui) (place : Option Nat) (v : Nat) (kids : List Nat) (x : View) :
    Prop where
  view : s.ui.views[v]? = some x
  kind : x.kind = .component
  parts : x.parts = .none
  components : x.components = kids
  mounted : x.root.isSome = place.isSome
  stands : ∀ w, x.root = some w → s.ui.kit.isAlive w = true
  parent : ∀ w, x.root = some w → s.ui.kit.parent? w = place
  sole : ∀ w, x.root = some w → ∀ c, s.ui.kit.isAlive c = true → s.ui.kit.parent? c = some w →
    ∃ e ∈ kids, s.rootOf e = some c

theorem Knot.of_unmounted (hx : s.ui.views[v]? = some x) (hkind : x.kind = .component)
    (hparts : x.parts = .none) (hcomponents : x.components = kids) (hroot : x.root = none) :
    Knot s none v kids x := by
  have hnone {w : Nat} : x.root ≠ some w := by
    rw [hroot]
    exact (Option.some_ne_none w).symm
  exact ⟨hx, hkind, hparts, hcomponents, by rw [hroot], fun w hw => absurd hw hnone,
    fun w hw => absurd hw hnone, fun w hw => absurd hw hnone⟩

mutual

/-- A tree that is mounted in a place, or is not mounted. -/
def Hung (s : Session Ui) : Bough → Option Nat → Prop
  | .node v kids, place =>
    ∃ x, Knot s place v (kids.map Bough.label) x ∧ HungAll s kids x.root

def HungAll (s : Session Ui) : List Bough → Option Nat → Prop
  | [], _ => True
  | b :: bs, place => Hung s b place ∧ HungAll s bs place

end

theorem hungAll_append {as : List Bough} :
    HungAll s (as ++ bs) place ↔ HungAll s as place ∧ HungAll s bs place := by
  induction as with
  | nil => simp [HungAll]
  | cons a as ih => simp [HungAll, ih, and_assoc]

theorem HungAll.hung (h : HungAll s bs place) (hb : b ∈ bs) : Hung s b place := by
  induction bs with
  | nil => exact absurd hb List.not_mem_nil
  | cons a as ih =>
    rw [HungAll] at h
    rcases List.mem_cons.1 hb with rfl | hb
    · exact h.1
    · exact ih h.2 hb

theorem Hung.root (h : Hung s b place) : ∃ x, s.ui.views[b.label]? = some x ∧
    x.root.isSome = place.isSome := by
  obtain ⟨v, kids⟩ := b
  rw [Hung] at h
  obtain ⟨x, hknot, -⟩ := h
  exact ⟨x, hknot.view, hknot.mounted⟩

mutual

/-- What is below the top of a tree are its components. -/
theorem Hung.under_iff : ∀ (b : Bough) {place : Option Nat}, Hung s b place →
    ∀ e, Under s b.label e ↔ e ∈ b.labels
  | .node v kids, place, h, e => by
    rw [Hung] at h
    obtain ⟨x, hknot, hkids⟩ := h
    rw [Bough.label, Session.under_iff hknot.view, hknot.components, HungAll.under_iff kids hkids,
      Bough.labels, List.mem_append, List.mem_singleton, or_comm]

theorem HungAll.under_iff : ∀ (bs : List Bough) {place : Option Nat}, HungAll s bs place →
    ∀ e, (∃ c ∈ bs.map Bough.label, Under s c e) ↔ e ∈ labelsAll bs
  | [], _, _, e => by simp [labelsAll]
  | b :: bs, place, h, e => by
    rw [HungAll] at h
    rw [labelsAll, List.mem_append, ← Hung.under_iff b h.1, ← HungAll.under_iff bs h.2]
    simp

end

mutual

/-- All of a tree is mounted, or nothing of it. -/
theorem Hung.mounted : ∀ (b : Bough) {place : Option Nat}, Hung s b place →
    ∀ e ∈ b.labels, ∃ x, s.ui.views[e]? = some x ∧ x.root.isSome = place.isSome
  | .node v kids, place, h, e, he => by
    rw [Hung] at h
    obtain ⟨x, hknot, hkids⟩ := h
    rw [Bough.labels, List.mem_append, List.mem_singleton] at he
    rcases he with he | rfl
    · rw [← hknot.mounted]
      exact HungAll.mounted kids hkids e he
    · exact ⟨x, hknot.view, hknot.mounted⟩

theorem HungAll.mounted : ∀ (bs : List Bough) {place : Option Nat}, HungAll s bs place →
    ∀ e ∈ labelsAll bs, ∃ x, s.ui.views[e]? = some x ∧ x.root.isSome = place.isSome
  | [], _, _, _, he => absurd he List.not_mem_nil
  | b :: bs, place, h, e, he => by
    rw [HungAll] at h
    rw [labelsAll, List.mem_append] at he
    exact he.elim (Hung.mounted b h.1 e) (HungAll.mounted bs h.2 e)

end

/-- There are no more components than views. -/
theorem Hung.length_labels_le (h : Hung s b place) (hlabels : b.labels.Nodup) :
    b.labels.length ≤ s.ui.views.length := by
  have hsub : b.labels ⊆ List.range s.ui.views.length := by
    intro e he
    obtain ⟨x, hx, -⟩ := Hung.mounted b h e he
    exact List.mem_range.2 (List.getElem?_eq_some_iff.1 hx).1
  have hle := (List.subperm_of_subset hlabels hsub).length_le
  rwa [List.length_range] at hle

mutual

/-- Every component of a tree is in its place there. -/
theorem Hung.knot : ∀ (b : Bough) {place : Option Nat}, Hung s b place → ∀ e ∈ b.labels,
    ∃ (q : Option Nat) (kids : List Nat) (x : View), Knot s q e kids x ∧
      ∀ c ∈ kids, [c, e].Sublist b.labels
  | .node v kids, place, h, e, he => by
    rw [Hung] at h
    obtain ⟨x, hknot, hkids⟩ := h
    rw [Bough.labels, List.mem_append, List.mem_singleton] at he
    rw [Bough.labels]
    rcases he with he | rfl
    · obtain ⟨q, grandkids, y, hy, hbefore⟩ := HungAll.knot kids hkids e he
      exact ⟨q, grandkids, y, hy, fun c hc =>
        (hbefore c hc).trans (List.sublist_append_left _ _)⟩
    · refine ⟨place, kids.map Bough.label, x, hknot, fun c hc => ?_⟩
      obtain ⟨kid, hkid, rfl⟩ := List.mem_map.1 hc
      exact (List.singleton_sublist.2 (Bough.label_mem_labelsAll hkid)).append
        (.refl [e])

theorem HungAll.knot : ∀ (bs : List Bough) {place : Option Nat}, HungAll s bs place →
    ∀ e ∈ labelsAll bs, ∃ (q : Option Nat) (kids : List Nat) (x : View), Knot s q e kids x ∧
      ∀ c ∈ kids, [c, e].Sublist (labelsAll bs)
  | [], _, _, _, he => absurd he List.not_mem_nil
  | b :: bs, place, h, e, he => by
    rw [HungAll] at h
    rw [labelsAll, List.mem_append] at he
    rw [labelsAll]
    rcases he with he | he
    · obtain ⟨q, kids, x, hknot, hbefore⟩ := Hung.knot b h.1 e he
      exact ⟨q, kids, x, hknot, fun c hc => (hbefore c hc).trans (List.sublist_append_left _ _)⟩
    · obtain ⟨q, kids, x, hknot, hbefore⟩ := HungAll.knot bs h.2 e he
      exact ⟨q, kids, x, hknot, fun c hc => (hbefore c hc).trans (List.sublist_append_right _ _)⟩

end

mutual

/-- The widget of a component is in that of the component that holds it. -/
theorem Hung.nested : ∀ (b : Bough) {place : Option Nat}, Hung s b place → ∀ e ∈ b.labels,
    ∀ x, s.ui.views[e]? = some x → ∀ c ∈ x.components, ∀ w, s.rootOf c = some w →
      s.ui.kit.parent? w = x.root
  | .node v kids, place, h, e, he, x, hx, c, hc, w, hw => by
    rw [Hung] at h
    obtain ⟨y, hknot, hkids⟩ := h
    rw [Bough.labels, List.mem_append, List.mem_singleton] at he
    rcases he with he | rfl
    · exact HungAll.nested kids hkids e he x hx c hc w hw
    · obtain rfl := Option.some.inj (hknot.view.symm.trans hx)
      rw [hknot.components] at hc
      obtain ⟨kid, hkid, rfl⟩ := List.mem_map.1 hc
      obtain ⟨d, grandkids⟩ := kid
      have hkid' := hkids.hung hkid
      rw [Hung] at hkid'
      obtain ⟨z, hz, -⟩ := hkid'
      exact hz.parent w ((rootOf_eq hz.view).symm.trans hw)

theorem HungAll.nested : ∀ (bs : List Bough) {place : Option Nat}, HungAll s bs place →
    ∀ e ∈ labelsAll bs, ∀ x, s.ui.views[e]? = some x → ∀ c ∈ x.components, ∀ w,
      s.rootOf c = some w → s.ui.kit.parent? w = x.root
  | [], _, _, _, he, _, _, _, _, _, _ => absurd he List.not_mem_nil
  | b :: bs, place, h, e, he, x, hx, c, hc, w, hw => by
    rw [HungAll] at h
    rw [labelsAll, List.mem_append] at he
    exact he.elim (Hung.nested b h.1 e · x hx c hc w hw) (HungAll.nested bs h.2 e · x hx c hc w hw)

end

/-! What does not concern a tree -/

/-- A component has not changed, nor has what stands in its widget. -/
structure Framed (s t : Session Ui) (v : Nat) : Prop where
  view : t.ui.views[v]? = s.ui.views[v]?
  stands : ∀ w, s.rootOf v = some w → s.ui.kit.isAlive w = true → t.ui.kit.isAlive w = true
  parent : ∀ w, s.rootOf v = some w → t.ui.kit.parent? w = s.ui.kit.parent? w
  sole : ∀ w, s.rootOf v = some w → ∀ c, t.ui.kit.isAlive c = true →
    t.ui.kit.parent? c = some w → s.ui.kit.isAlive c = true ∧ s.ui.kit.parent? c = some w

theorem Framed.withView (h : Framed s t v) (f : View → View) (hv : v ≠ e) :
    Framed s (t.withView e f) v := { h with view := (withView_ne f hv).trans h.view }

theorem Framed.rootOf (h : Framed s t v) : t.rootOf v = s.rootOf v := by
  rw [Session.rootOf, h.view, Session.rootOf]

/-- A component that is not mounted has no widget to be looked after. -/
theorem Framed.of_unmounted (hview : t.ui.views[v]? = s.ui.views[v]?) (hroot : s.rootOf v = none) :
    Framed s t v := by
  have hnone {w : Nat} : s.rootOf v ≠ some w := by
    rw [hroot]
    exact (Option.some_ne_none w).symm
  exact ⟨hview, fun w hw => absurd hw hnone, fun w hw => absurd hw hnone,
    fun w hw => absurd hw hnone⟩

theorem Still.framed (h : Still s t) (v : Nat) : Framed s t v where
  view := by rw [h.views]
  stands := fun w _ halive => (h.isAlive w).trans halive
  parent := fun w _ => h.parents w
  sole := fun w _ c halive hparent =>
    ⟨(h.isAlive c).symm.trans halive, (h.parents c).symm.trans hparent⟩

theorem Knot.framed (h : Knot s place v kids x) (hv : Framed s t v)
    (hkids : ∀ e ∈ kids, t.rootOf e = s.rootOf e) : Knot t place v kids x := by
  have hroot (w : Nat) (hw : x.root = some w) : s.rootOf v = some w := (rootOf_eq h.view).trans hw
  refine { h with view := hv.view.trans h.view, stands := ?_, parent := ?_, sole := ?_ }
  · exact fun w hw => hv.stands w (hroot w hw) (h.stands w hw)
  · exact fun w hw => (hv.parent w (hroot w hw)).trans (h.parent w hw)
  · intro w hw c halive hparent
    obtain ⟨halive', hparent'⟩ := hv.sole w (hroot w hw) c halive hparent
    obtain ⟨e, he, hec⟩ := h.sole w hw c halive' hparent'
    exact ⟨e, he, (hkids e he).trans hec⟩

mutual

theorem Hung.framed : ∀ (b : Bough) {place : Option Nat}, Hung s b place →
    (∀ v ∈ b.labels, Framed s t v) → Hung t b place
  | .node v kids, place, h, hframed => by
    rw [Hung] at h ⊢
    rw [Bough.labels] at hframed
    obtain ⟨x, hknot, hkids⟩ := h
    have hbelow := fun e he => hframed e (List.mem_append_left _ he)
    refine ⟨x, hknot.framed (hframed v (List.mem_append_right _ List.mem_cons_self)) fun e he => ?_,
      HungAll.framed kids hkids hbelow⟩
    obtain ⟨kid, hkid, rfl⟩ := List.mem_map.1 he
    exact (hbelow _ (Bough.label_mem_labelsAll hkid)).rootOf

theorem HungAll.framed : ∀ (bs : List Bough) {place : Option Nat}, HungAll s bs place →
    (∀ v ∈ labelsAll bs, Framed s t v) → HungAll t bs place
  | [], _, _, _ => trivial
  | b :: bs, place, h, hframed => by
    rw [HungAll] at h ⊢
    rw [labelsAll] at hframed
    exact ⟨Hung.framed b h.1 fun v hv => hframed v (List.mem_append_left _ hv),
      HungAll.framed bs h.2 fun v hv => hframed v (List.mem_append_right _ hv)⟩

end

/-- A branch may be exchanged for another, if the rest of the tree is not concerned. -/
theorem Hung.exchange (trunk : Trunk) (h : Hung s (trunk.fill b) place) :
    ∃ q, Hung s b q ∧ ∀ (t : Session Ui) (b' : Bough), b'.label = b.label → Hung t b' q →
      (∀ v ∈ trunk.labels, Framed s t v) → t.rootOf b.label = s.rootOf b.label →
        Hung t (trunk.fill b') place := by
  induction trunk generalizing place with
  | tip => exact ⟨place, h, fun t b' _ ht _ _ => ht⟩
  | up v left trunk right ih =>
    rw [Trunk.fill, Hung] at h
    obtain ⟨x, hknot, hkids⟩ := h
    rw [hungAll_append, HungAll] at hkids
    obtain ⟨hleft, hmiddle, hright⟩ := hkids
    obtain ⟨q, hb, hrest⟩ := ih hmiddle
    refine ⟨q, hb, fun t b' hlabel ht hframed hroot => ?_⟩
    simp only [Trunk.labels, List.mem_append, List.mem_singleton] at hframed
    have hleft' : HungAll t left x.root :=
      HungAll.framed left hleft fun v hv => hframed v (.inl (.inl (.inl hv)))
    have hright' : HungAll t right x.root :=
      HungAll.framed right hright fun v hv => hframed v (.inl (.inr hv))
    have hmiddle' := hrest t b' hlabel ht (fun v hv => hframed v (.inl (.inl (.inr hv)))) hroot
    have hlabels : (left ++ trunk.fill b' :: right).map Bough.label =
        (left ++ trunk.fill b :: right).map Bough.label := by
      simp [Trunk.label_fill hlabel trunk]
    rw [Trunk.fill, Hung]
    refine ⟨x, ?_, hungAll_append.2 ⟨hleft', hmiddle', hright'⟩⟩
    rw [hlabels]
    refine hknot.framed (hframed v (.inr rfl)) fun e he => ?_
    obtain ⟨kid, hkid, rfl⟩ := List.mem_map.1 he
    rcases List.mem_append.1 hkid with hkid | hkid
    · have hmem := Bough.label_mem_labelsAll hkid
      exact (hframed _ (.inl (.inl (.inl hmem)))).rootOf
    · rcases List.mem_cons.1 hkid with rfl | hkid
      · cases trunk with
        | tip => exact hroot
        | up e left' trunk' right' =>
          refine (hframed e (.inl (.inl (.inr ?_)))).rootOf
          simp [Trunk.labels]
      · have hmem := Bough.label_mem_labelsAll hkid
        exact (hframed _ (.inl (.inr hmem))).rootOf

end Session
end RemoteScreen
