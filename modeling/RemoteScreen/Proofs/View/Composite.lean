import RemoteScreen.Proofs.View.Bough

/-! Components that hold one another leak no widget. Mounting a tree gives each of its components one
widget, in that of the component that holds it; destroying it takes these and no others, from below;
and so, whatever is done to the tree, the widgets that stand are those of its mounted components. -/
namespace RemoteScreen
namespace Session

open Bough (labelsAll Trunk)
open Toolkit (Extended)

variable {s t u : Session Ui} {v w c e p : Nat} {place : Option Nat} {kids vs : List Nat} {x : View}
  {b : Bough} {bs : List Bough}

theorem withView_eq_self (hx : s.ui.views[v]? = some x) {f : View → View} (hf : f x = x) :
    s.withView v f = s := by
  have hviews : s.ui.views.modify v f = s.ui.views := by
    refine List.ext_getElem? fun e => ?_
    rw [List.getElem?_modify]
    by_cases he : v = e
    · subst he
      rw [hx]
      simp [hf]
    · simp [he]
  rw [withView, hviews]

/-- A component has nothing of its own to be taken down but its widget. -/
theorem Knot.exec_retire (h : Knot s place v kids x) : exec (retire v x) s = (.ok ⟨⟩, s) := by
  have hsame : s.withView v partless = s := by
    refine withView_eq_self h.view ?_
    rw [partless, ← h.parts]
  have hretire : retire v x = updateView v partless := by
    rw [retire, h.kind]
    rfl
  rw [hretire, exec_updateView, hsame]

/-! The end of trees -/

/-- These views have been destroyed, and their widgets in this order, and no others. -/
structure Felled (vs : List Nat) (s t : Session Ui) : Prop extends Torn (· ∈ vs) s t where
  roots : t.ui.kit.destroyed = s.ui.kit.destroyed ++ s.rootsOf vs

theorem Felled.trans {vs' : List Nat} (h : Felled vs s t) (k : Felled vs' t u)
    (hroots : t.rootsOf vs' = s.rootsOf vs') : Felled (vs ++ vs') s u where
  toTorn := (h.toTorn.trans k.toTorn).congr fun e _ => List.mem_append.symm
  roots := by rw [k.roots, h.roots, hroots, rootsOf_append, List.append_assoc]

theorem Felled.isAlive_iff (h : Felled vs s t) :
    t.ui.kit.isAlive w = true ↔ s.ui.kit.isAlive w = true ∧ w ∉ s.rootsOf vs := by
  simp only [Toolkit.isAlive_iff, h.widgets, h.roots, List.mem_append, not_or, and_assoc]

theorem Felled.parent? (h : Felled vs s t) (w : Nat) :
    t.ui.kit.parent? w = s.ui.kit.parent? w := by
  rw [Toolkit.parent?, h.widgets, Toolkit.parent?]

theorem Torn.view_of_not (h : Torn (· ∈ vs) s t) (hv : v ∉ vs) :
    t.ui.views[v]? = s.ui.views[v]? := by
  rcases hx : s.ui.views[v]? with - | x
  · rw [List.getElem?_eq_none_iff] at hx ⊢
    rw [h.length]
    exact hx
  · exact h.kept v x hx hv

/-- Another component is not concerned. -/
theorem Felled.framed (h : Felled vs s t) (hv : v ∉ vs)
    (hroot : ∀ w, s.rootOf v = some w → w ∉ s.rootsOf vs) : Framed s t v where
  view := h.toTorn.view_of_not hv
  stands := fun w hw halive => h.isAlive_iff.2 ⟨halive, hroot w hw⟩
  parent := fun w _ => h.parent? w
  sole := fun _ _ c halive hparent =>
    ⟨(h.isAlive_iff.1 halive).1, (h.parent? c).symm.trans hparent⟩

/-- When all that a component held has been destroyed, nothing stands in its widget. -/
theorem Felled.alone (h : Felled (labelsAll bs) s t) (hknot : Knot s place v (bs.map Bough.label) x)
    (hw : x.root = some w) (hc : t.ui.kit.isAlive c = true) : t.ui.kit.parent? c ≠ some w := by
  intro hparent
  obtain ⟨halive, hnot⟩ := h.isAlive_iff.1 hc
  obtain ⟨e, he, hec⟩ := hknot.sole w hw c halive ((h.parent? c).symm.trans hparent)
  obtain ⟨b, hb, rfl⟩ := List.mem_map.1 he
  exact hnot (mem_rootsOf.2 ⟨_, Bough.label_mem_labelsAll hb, hec⟩)

/-- One tree after the other is destroyed. -/
theorem fellEach {f : Nat → Act Ui Unit} : ∀ (bs : List Bough) (s : Session Ui),
    HungAll s bs place → (labelsAll bs).Nodup → (s.rootsOf (labelsAll bs)).Nodup →
    s.ui.kit.Grown →
    (∀ b ∈ bs, ∀ t, t.ui.views.length = s.ui.views.length → Hung t b place → b.labels.Nodup →
      (t.rootsOf b.labels).Nodup → t.ui.kit.Grown →
      Leads (f b.label) t fun _ u => Felled b.labels t u ∧ u.ui.kit.Grown) →
    Leads ((bs.map Bough.label).forM f) s fun _ t =>
      Felled (labelsAll bs) s t ∧ t.ui.kit.Grown := by
  intro bs
  induction bs with
  | nil =>
    intro s _ _ _ hgrown _
    refine leads_pure ⟨⟨(Torn.refl s).congr fun e _ => ?_, ?_⟩, hgrown⟩
    · simp [labelsAll]
    · simp [labelsAll, rootsOf]
  | cons b bs ih =>
    intro s hhung hlabels hroots hgrown hf
    rw [HungAll] at hhung
    rw [labelsAll, List.nodup_append] at hlabels
    rw [labelsAll, rootsOf_append, List.nodup_append] at hroots
    refine leads_bind (hf b List.mem_cons_self s rfl hhung.1 hlabels.1 hroots.1 hgrown) ?_
    rintro _ t ⟨hfelled, hgrown'⟩
    have hframed : ∀ v ∈ labelsAll bs, Framed s t v := by
      intro v hv
      refine hfelled.framed (fun hmem => hlabels.2.2 v hmem v hv rfl) fun w hw hmem => ?_
      exact hroots.2.2 w hmem w (mem_rootsOf.2 ⟨v, hv, hw⟩) rfl
    have hsame : t.rootsOf (labelsAll bs) = s.rootsOf (labelsAll bs) :=
      rootsOf_congr fun v hv => (hframed v hv).rootOf
    refine (ih t (HungAll.framed bs hhung.2 hframed) hlabels.2.1 (hsame ▸ hroots.2.1) hgrown'
      fun b' hb' t' ht' => hf b' (List.mem_cons_of_mem _ hb') t' (ht'.trans hfelled.length)).mono ?_
    rintro _ u ⟨hrest, hgrown''⟩
    exact ⟨hfelled.trans hrest hsame, hgrown''⟩

/-- After all that it held a component has been destroyed itself. -/
theorem Felled.last (h : Felled (labelsAll bs) s t) (hknot : Knot s place v (bs.map Bough.label) x)
    (hlast : LetGo v x (s.rootsOf [v]) t u) : Felled (labelsAll bs ++ [v]) s u where
  toTorn := by
    have hsame : s.withView v partless = s :=
      withView_eq_self hknot.view (by rw [partless, ← hknot.parts])
    refine (h.toTorn.owner hknot.view (by rw [hsame]) rfl rfl hlast).congr fun e _ => ?_
    simp [or_comm]
  roots := by rw [hlast.destroyed, h.roots, rootsOf_append, List.append_assoc]

/-- A tree is destroyed from below. -/
theorem destroyDeep_fells (fuel : Nat) : ∀ (b : Bough) (s : Session Ui) {place : Option Nat},
    Hung s b place → b.labels.Nodup → (s.rootsOf b.labels).Nodup → s.ui.kit.Grown →
    b.labels.length ≤ fuel →
    Leads (destroyDeep fuel b.label) s fun _ t => Felled b.labels s t ∧ t.ui.kit.Grown := by
  induction fuel with
  | zero =>
    intro b s place _ _ _ _ hfuel
    exact absurd (List.length_pos_of_mem b.label_mem_labels) (Nat.not_lt.2 hfuel)
  | succ fuel ih =>
    rintro ⟨v, branch⟩ s place h hlabels hroots hgrown hfuel
    rw [Hung] at h
    obtain ⟨x, hknot, hkids⟩ := h
    rw [Bough.labels] at hlabels hroots hfuel ⊢
    rw [rootsOf_append] at hroots
    rw [List.length_append, List.length_singleton, Nat.add_le_add_iff_right] at hfuel
    obtain ⟨hbelow, -, hself⟩ := List.nodup_append.1 hlabels
    obtain ⟨hrootsBelow, -, hrootSelf⟩ := List.nodup_append.1 hroots
    have hv : v ∉ labelsAll branch := fun hmem => hself v hmem v List.mem_cons_self rfl
    refine leads_bind_eq (exec_view? v s) ?_
    rw [hknot.view]
    refine leads_bind_eq hknot.exec_retire ?_
    rw [hknot.components]
    refine leads_bind (fellEach branch s hkids hbelow hrootsBelow hgrown ?_) ?_
    · intro kid hkid t _ ht hkidLabels hkidRoots hgrown'
      have hle := (Bough.labels_sublist hkid).length_le
      exact ih kid t ht hkidLabels hkidRoots hgrown' (Nat.le_trans hle hfuel)
    rintro _ s₂ ⟨hfelled, hgrown₂⟩
    -- All below has been destroyed, and the component itself has not changed.
    have hx₂ : s₂.ui.views[v]? = some (partless x) := by
      rw [partless, ← hknot.parts]
      exact hfelled.kept v x hknot.view hv
    have halive (w : Nat) (hroot : x.root = some w) : s₂.ui.kit.isAlive w = true := by
      refine hfelled.isAlive_iff.2 ⟨hknot.stands w hroot, fun hmem => ?_⟩
      refine hrootSelf w hmem w (mem_rootsOf.2 ⟨v, List.mem_cons_self, ?_⟩) rfl
      exact (rootOf_eq hknot.view).trans hroot
    have hlast := letGo_lettingGo hx₂ hgrown₂ halive
    have halone : x.root.elim [] s₂.ui.kit.subtree = s.rootsOf [v] := by
      rw [rootsOf, List.filterMap_cons, rootOf_eq hknot.view]
      cases hroot : x.root with
      | none => rfl
      | some w =>
        exact Toolkit.subtree_eq_singleton hgrown₂ (halive w hroot) fun _ hc =>
          hfelled.alone hknot hroot hc
    refine ⟨⟨⟩, _, exec_lettingGo v x.root s₂, hfelled.last hknot (halone ▸ hlast), ?_⟩
    cases x.root with
    | none => exact hgrown₂
    | some w => exact hgrown₂.destroy w

/-! The beginning of trees -/

/-- These trees have been mounted in widget `p`, with a widget for each component, and nothing else has
been done. -/
structure Raised (bs : List Bough) (p : Nat) (s t : Session Ui) : Prop where
  hung : HungAll t bs (some p)
  others : ∀ v, v ∉ labelsAll bs → t.ui.views[v]? = s.ui.views[v]?
  length : t.ui.views.length = s.ui.views.length
  kit : Extended s.ui.kit.widgets.length p s.ui.kit t.ui.kit
  count : t.ui.kit.widgets.length = s.ui.kit.widgets.length + (labelsAll bs).length
  roots : List.Perm (t.rootsOf (labelsAll bs))
    (List.range' s.ui.kit.widgets.length (labelsAll bs).length)
  direct : ∀ c, s.ui.kit.widgets.length ≤ c → t.ui.kit.parent? c = some p →
    ∃ b ∈ bs, t.rootOf b.label = some c

theorem Raised.fresh (h : Raised bs p s t) (hv : v ∈ labelsAll bs) (hw : t.rootOf v = some w) :
    s.ui.kit.widgets.length ≤ w ∧ w < t.ui.kit.widgets.length := by
  have hmem := h.roots.mem_iff.1 (mem_rootsOf.2 ⟨v, hv, hw⟩)
  rw [List.mem_range'_1, ← h.count] at hmem
  exact hmem

/-- Another component is not concerned, if the trees are not in its widget. -/
theorem Raised.framed (h : Raised bs p s t) (hv : v ∉ labelsAll bs)
    (hroot : ∀ w, s.rootOf v = some w → w < s.ui.kit.widgets.length ∧ w ≠ p) : Framed s t v where
  view := h.others v hv
  stands := fun _ _ halive => h.kit.isAlive halive
  parent := fun w hw => h.kit.parents w (hroot w hw).1
  sole := by
    intro w hw c halive hparent
    obtain ⟨hlt, hne⟩ := hroot w hw
    obtain ⟨hc, hnot⟩ := Toolkit.isAlive_iff.1 halive
    rcases Nat.lt_or_ge c s.ui.kit.widgets.length with hold | hnew
    · exact ⟨Toolkit.isAlive_iff.2 ⟨hold, h.kit.destroyed ▸ hnot⟩,
        (h.kit.parents c hold).symm.trans hparent⟩
    · obtain ⟨p', hp', -, hplace⟩ := h.kit.hung c hnew hc
      obtain rfl := Option.some.inj (hparent.symm.trans hp')
      rcases hplace with rfl | hle
      · exact absurd rfl hne
      · exact absurd hlt (Nat.not_lt.2 hle)

theorem Raised.append {bs' : List Bough} (h : Raised bs p s t) (k : Raised bs' p t u)
    (hp : p < s.ui.kit.widgets.length) (hapart : ∀ v ∈ labelsAll bs, v ∉ labelsAll bs') :
    Raised (bs ++ bs') p s u := by
  have hframed : ∀ v ∈ labelsAll bs, Framed t u v := by
    intro v hv
    refine k.framed (hapart v hv) fun w hw => ?_
    obtain ⟨hle, hlt⟩ := h.fresh hv hw
    exact ⟨hlt, Nat.ne_of_gt (Nat.lt_of_lt_of_le hp hle)⟩
  have hsame : u.rootsOf (labelsAll bs) = t.rootsOf (labelsAll bs) :=
    rootsOf_congr fun v hv => (hframed v hv).rootOf
  refine ⟨hungAll_append.2 ⟨HungAll.framed bs h.hung hframed, k.hung⟩, fun v hv => ?_,
    k.length.trans h.length, h.kit.trans (k.kit.widen (.inl rfl) h.kit.length), ?_, ?_, ?_⟩
  · rw [Bough.labelsAll_append, List.mem_append, not_or] at hv
    exact (k.others v hv.2).trans (h.others v hv.1)
  · rw [k.count, h.count, Bough.labelsAll_append, List.length_append, Nat.add_assoc]
  · rw [Bough.labelsAll_append, rootsOf_append, hsame, List.length_append, ← List.range'_append_1,
      ← h.count]
    exact h.roots.append k.roots
  · intro c hc hparent
    rcases Nat.lt_or_ge c t.ui.kit.widgets.length with hold | hnew
    · obtain ⟨b, hb, hroot⟩ := h.direct c hc ((k.kit.parents c hold).symm.trans hparent)
      refine ⟨b, List.mem_append_left _ hb, ?_⟩
      exact (hframed _ (Bough.label_mem_labelsAll hb)).rootOf.trans hroot
    · obtain ⟨b, hb, hroot⟩ := k.direct c hnew hparent
      exact ⟨b, List.mem_append_right _ hb, hroot⟩

theorem Raised.grown (h : Raised bs p s t) (hgrown : s.ui.kit.Grown)
    (hp : s.ui.kit.isAlive p = true) : t.ui.kit.Grown := h.kit.grown (hgrown.site hp)

theorem Raised.isAlive_iff (h : Raised bs p s t) (hgrown : s.ui.kit.Grown) :
    t.ui.kit.isAlive w = true ↔ s.ui.kit.isAlive w = true ∨ w ∈ t.rootsOf (labelsAll bs) := by
  rw [hgrown.isAlive_longer h.kit.length h.kit.destroyed, h.roots.mem_iff, List.mem_range'_1, ← h.count]

/-- One tree after the other is mounted. -/
theorem raiseEach {body : Nat → PUnit → Act Ui (ForInStep PUnit)} :
    ∀ (bs : List Bough) (s : Session Ui), HungAll s bs none → (labelsAll bs).Nodup →
    s.ui.kit.Grown → s.ui.kit.isAlive p = true →
    (∀ b ∈ bs, ∀ t, Hung t b none → b.labels.Nodup → t.ui.kit.Grown →
      t.ui.kit.isAlive p = true →
      Leads (body b.label ⟨⟩) t fun r u => r = .yield ⟨⟩ ∧ Raised [b] p t u) →
    Leads (forIn (bs.map Bough.label) ⟨⟩ body) s fun _ t => Raised bs p s t := by
  intro bs
  induction bs with
  | nil =>
    intro s _ _ _ hp _
    refine leads_pure ⟨trivial, fun _ _ => rfl, rfl, .refl _ _ _, rfl, .refl _, fun c hc hparent => ?_⟩
    exact absurd (Toolkit.lt_of_parent? hparent) (Nat.not_lt.2 hc)
  | cons b bs ih =>
    intro s hhung hlabels hgrown hp hbody
    rw [HungAll] at hhung
    rw [labelsAll, List.nodup_append] at hlabels
    rw [List.map_cons, List.forIn_cons]
    refine leads_bind (hbody b List.mem_cons_self s hhung.1 hlabels.1 hgrown hp) ?_
    rintro _ t ⟨rfl, hraised⟩
    have hone : labelsAll [b] = b.labels := List.append_nil _
    have hapart : ∀ v ∈ labelsAll [b], v ∉ labelsAll bs := by
      intro v hv hmem
      rw [hone] at hv
      exact hlabels.2.2 v hv v hmem rfl
    have hrest : HungAll t bs none := by
      refine HungAll.framed bs hhung.2 fun v hv => ?_
      obtain ⟨x, hx, hroot⟩ := HungAll.mounted bs hhung.2 v hv
      refine .of_unmounted (hraised.others v fun hmem => hapart v hmem hv) ?_
      rw [rootOf_eq hx]
      simpa using hroot
    refine (ih t hrest hlabels.2.1 (hraised.grown hgrown hp) (hraised.kit.isAlive hp)
      fun b' hb' => hbody b' (List.mem_cons_of_mem _ hb')).mono fun _ u hu => ?_
    exact hraised.append hu (Toolkit.lt_of_isAlive hp) hapart

/-- A frame has been made in widget `p`, and a component has been given it. -/
def withFrame (s : Session Ui) (v p : Nat) : Session Ui :=
  (s.withKit { s.ui.kit with
    widgets := s.ui.kit.widgets ++ [{ kind := .frame, parent := some p }] }).withView v
      fun x => { x with root := some s.ui.kit.widgets.length }

theorem withFrame_self (hx : s.ui.views[v]? = some x) (p : Nat) :
    (s.withFrame v p).ui.views[v]? =
      some { x with root := some s.ui.kit.widgets.length } := by
  rw [withFrame, getElem?_withView, if_pos rfl]
  exact congrArg _ hx

theorem withFrame_ne (p : Nat) (he : e ≠ v) :
    (s.withFrame v p).ui.views[e]? = s.ui.views[e]? := by
  rw [withFrame, getElem?_withView, if_neg he]
  rfl

theorem withFrame_kit (hgrown : s.ui.kit.Grown) (hp : s.ui.kit.isAlive p = true) (v : Nat) :
    Extended s.ui.kit.widgets.length p s.ui.kit (s.withFrame v p).ui.kit :=
  .create (hgrown.site hp) hp (.inl rfl) _ rfl

theorem length_withFrame (s : Session Ui) (v p : Nat) :
    (s.withFrame v p).ui.kit.widgets.length = s.ui.kit.widgets.length + 1 := by
  simp [withFrame, withKit, withView]

theorem parent?_withFrame (s : Session Ui) (v p : Nat) :
    (s.withFrame v p).ui.kit.parent? s.ui.kit.widgets.length = some p := by
  simp [withFrame, withKit, withView, Toolkit.parent?]

/-- A component is mounted with all that it holds. -/
theorem Raised.node {branch : List Bough} (hknot : Knot s none v (branch.map Bough.label) x)
    (hv : v ∉ labelsAll branch) (hgrown : s.ui.kit.Grown) (hp : s.ui.kit.isAlive p = true)
    (h : Raised branch s.ui.kit.widgets.length (s.withFrame v p) t) :
    Raised [.node v branch] p s t := by
  have hcreated := withFrame_kit hgrown hp v
  have hlength := length_withFrame s v p
  have hx : t.ui.views[v]? = some { x with root := some s.ui.kit.widgets.length } :=
    (h.others v hv).trans (withFrame_self hknot.view p)
  have hroot : t.rootOf v = some s.ui.kit.widgets.length := rootOf_eq hx
  have hlt : s.ui.kit.widgets.length < (s.withFrame v p).ui.kit.widgets.length := by omega
  have hplt := Toolkit.lt_of_isAlive hp
  have hkit : Extended s.ui.kit.widgets.length p s.ui.kit t.ui.kit :=
    hcreated.trans (h.kit.widen (.inr (Nat.le_refl _)) (Nat.le_of_lt hlt))
  have hparent : t.ui.kit.parent? s.ui.kit.widgets.length = some p :=
    (h.kit.parents _ hlt).trans (parent?_withFrame s v p)
  have hlabels : labelsAll [Bough.node v branch] = labelsAll branch ++ [v] := List.append_nil _
  refine ⟨⟨?_, trivial⟩, fun e he => ?_, ?_, hkit, ?_, ?_, fun c hc hcp => ?_⟩
  · rw [Hung]
    refine ⟨_, ⟨hx, hknot.kind, hknot.parts, hknot.components, rfl, fun w hw => ?_, fun w hw => ?_,
      fun w hw c hc hcw => ?_⟩, h.hung⟩ <;> obtain rfl := Option.some.inj hw
    · exact hkit.isAlive_new hgrown (Nat.le_refl _) (Nat.lt_of_lt_of_le hlt h.kit.length)
    · exact hparent
    · -- Before the frame was made nothing was in it.
      rcases Nat.lt_or_ge c (s.withFrame v p).ui.kit.widgets.length with hold | hnew
      · have hearlier := (hcreated.grown (hgrown.site hp)).earlier c _
          ((h.kit.parents c hold).symm.trans hcw)
        omega
      · obtain ⟨b, hb, hbc⟩ := h.direct c hnew hcw
        exact ⟨b.label, List.mem_map_of_mem hb, hbc⟩
  · rw [hlabels, List.mem_append, List.mem_singleton, not_or] at he
    exact (h.others e he.1).trans (withFrame_ne p he.2)
  · exact h.length.trans (length_withView _ _ _)
  · rw [h.count, hlength, hlabels, List.length_append, List.length_singleton]
    omega
  · have hone : t.rootsOf [v] = [s.ui.kit.widgets.length] := by simp [rootsOf, hroot]
    have hroots := h.roots
    rw [hlength] at hroots
    rw [hlabels, rootsOf_append, hone, List.length_append, List.length_singleton, List.range'_succ]
    exact (hroots.append_right _).trans (List.perm_append_singleton _ _)
  · refine ⟨_, List.mem_singleton_self _, hroot.trans (congrArg some ?_)⟩
    by_contra hne
    obtain ⟨p', hp', -, hplace⟩ := h.kit.hung c (by omega) (Toolkit.lt_of_parent? hcp)
    obtain rfl := Option.some.inj (hcp.symm.trans hp')
    omega

theorem exec_create {kind : WidgetKind} {aspects : Aspects Command}
    (hp : s.ui.kit.isAlive p = true) : exec (create p kind aspects) s =
      (.ok s.ui.kit.widgets.length, s.withKit { s.ui.kit with
        widgets := s.ui.kit.widgets ++ [{ kind, parent := some p, aspects }] }) := by
  simp [create, onKit, Toolkit.create?, hp, withKit]

/-- A tree is mounted from above. -/
theorem mountDeep_raises (fuel : Nat) : ∀ (b : Bough) (s : Session Ui) (p : Nat),
    Hung s b none → b.labels.Nodup → s.ui.kit.Grown → s.ui.kit.isAlive p = true →
    b.labels.length ≤ fuel →
    Leads (mountDeep fuel b.label p) s fun _ t => Raised [b] p s t := by
  induction fuel with
  | zero =>
    intro b s p _ _ _ _ hfuel
    exact absurd (List.length_pos_of_mem b.label_mem_labels) (Nat.not_lt.2 hfuel)
  | succ fuel ih =>
    rintro ⟨v, branch⟩ s p h hlabels hgrown hp hfuel
    rw [Hung] at h
    obtain ⟨x, hknot, hkids⟩ := h
    rw [Bough.labels] at hlabels hfuel
    rw [List.length_append, List.length_singleton, Nat.add_le_add_iff_right] at hfuel
    obtain ⟨hbelow, -, hself⟩ := List.nodup_append.1 hlabels
    have hv : v ∉ labelsAll branch := fun hmem => hself v hmem v List.mem_cons_self rfl
    have hroot : x.root = none := by simpa using hknot.mounted
    refine leads_bind_eq (exec_view? v s) ?_
    rw [hknot.view]
    have hgroup : x.kind.isGroup = true := by rw [hknot.kind]; rfl
    have hbuild : buildGroup x.kind p = create p .frame [] := by rw [hknot.kind]; rfl
    dsimp only
    rw [if_pos hgroup, hbuild]
    refine leads_bind_eq (exec_create hp) ?_
    refine leads_bind_eq (exec_updateView v _ _) ?_
    rw [hknot.components]
    change Leads _ (s.withFrame v p) _
    have hcreated := withFrame_kit hgrown hp v
    have hlength := length_withFrame s v p
    have hkids₁ : HungAll (s.withFrame v p) branch none := by
      rw [hroot] at hkids
      refine HungAll.framed branch hkids fun e he => ?_
      obtain ⟨y, hy, hnone⟩ := HungAll.mounted branch hkids e he
      refine .of_unmounted (withFrame_ne p fun heq => hv (heq ▸ he)) ?_
      rw [rootOf_eq hy]
      simpa using hnone
    refine leads_bind (raiseEach branch _ hkids₁ hbelow (hcreated.grown (hgrown.site hp))
      (hcreated.isAlive_new hgrown (Nat.le_refl _) (by omega)) ?_) ?_
    · intro kid hkid t ht hkidLabels hgrown' halive
      obtain ⟨y, hy, hnone⟩ := ht.root
      have hle := (Bough.labels_sublist hkid).length_le
      refine leads_bind_eq (exec_view? kid.label t) ?_
      rw [hy, if_pos (by simpa [View.isMounted] using hnone)]
      exact leads_bind (ih kid t _ ht hkidLabels hgrown' halive (Nat.le_trans hle hfuel))
        fun _ u hu => leads_pure ⟨rfl, hu⟩
    · exact fun _ t hraised => leads_pure (.node hknot hv hgrown hp hraised)

/-! Whole trees -/

theorem mount_raises (h : Hung s b none) (hlabels : b.labels.Nodup) (hgrown : s.ui.kit.Grown)
    (hp : s.ui.kit.isAlive p = true) :
    Leads (mount b.label p) s fun _ t => Raised [b] p s t := by
  have hdepth : exec depth s = (.ok (s.ui.views.length + 1), s) := rfl
  have hle := h.length_labels_le hlabels
  exact leads_bind_eq hdepth (mountDeep_raises _ b s p h hlabels hgrown hp (Nat.le_succ_of_le hle))

theorem destroy_fells (h : Hung s b place) (hlabels : b.labels.Nodup)
    (hroots : (s.rootsOf b.labels).Nodup) (hgrown : s.ui.kit.Grown) :
    Leads (destroy b.label) s fun _ t => Felled b.labels s t ∧ t.ui.kit.Grown := by
  have hdepth : exec depth s = (.ok (s.ui.views.length + 1), s) := rfl
  have hle := h.length_labels_le hlabels
  exact leads_bind_eq hdepth
    (destroyDeep_fells _ b s h hlabels hroots hgrown (Nat.le_succ_of_le hle))

/-- All that a component holds is destroyed, and it holds nothing any more. -/
theorem clearComponents_fells (hknot : Knot s place v (bs.map Bough.label) x)
    (h : HungAll s bs x.root) (hlabels : (labelsAll bs).Nodup)
    (hroots : (s.rootsOf (labelsAll bs)).Nodup) (hgrown : s.ui.kit.Grown) :
    Leads (clearComponents v) s fun _ t =>
      ∃ t₀, Felled (labelsAll bs) s t₀ ∧ t₀.ui.kit.Grown ∧ t = t₀.withView v emptied := by
  refine leads_bind_eq (exec_view? v s) ?_
  rw [hknot.view]
  dsimp only
  rw [hknot.components]
  refine leads_bind (fellEach bs s h hlabels hroots hgrown fun b _ t _ ht => destroy_fells ht) ?_
  rintro _ t ⟨hfelled, hgrown'⟩
  exact ⟨⟨⟩, t.withView v emptied, rfl, t, hfelled, hgrown', rfl⟩

/-- The component stays in its place. -/
theorem Felled.stub (h : Felled (labelsAll bs) s t)
    (hknot : Knot s place v (bs.map Bough.label) x) (hframed : Framed s t v) :
    Hung (t.withView v emptied) (.node v []) place := by
  have hroot {w : Nat} (hw : x.root = some w) : s.rootOf v = some w :=
    (rootOf_eq hknot.view).trans hw
  rw [Hung]
  refine ⟨emptied x, ⟨withView_self (hframed.view.trans hknot.view) emptied, hknot.kind, hknot.parts,
    rfl, hknot.mounted, fun w hw => ?_, fun w hw => ?_, fun w hw c halive hparent => ?_⟩, trivial⟩
  · exact hframed.stands w (hroot hw) (hknot.stands w hw)
  · exact (hframed.parent w (hroot hw)).trans (hknot.parent w hw)
  · exact absurd hparent (h.alone hknot hw halive)

theorem layout_hung (h : Hung s b place) : Leads (layout b.label) s fun _ t => Still s t := by
  have hdepth : exec depth s = (.ok (s.ui.views.length + 1), s) := rfl
  refine leads_bind_eq hdepth (layoutDeep_still _ _ s fun e x w hunder hx hw => ?_)
  obtain ⟨q, kids, y, hknot, -⟩ := Hung.knot b h e ((Hung.under_iff b h e).1 hunder)
  obtain rfl := Option.some.inj (hx.symm.trans hknot.view)
  exact hknot.stands w hw

/-- A component that is not mounted and holds nothing has nothing to be destroyed. -/
theorem exec_destroy_idle (hx : s.ui.views[v]? = some x) (hkind : x.kind = .component)
    (hparts : x.parts = .none) (hcomponents : x.components = []) (hroot : x.root = none) :
    exec (destroy v) s = (.ok ⟨⟩, s) := by
  have hdepth : exec depth s = (.ok (s.ui.views.length + 1), s) := rfl
  have hknot : Knot s none v [] x := .of_unmounted hx hkind hparts hcomponents hroot
  have hemptied : s.withView v emptied = s :=
    withView_eq_self hx (by rw [emptied, ← hcomponents])
  rw [destroy, exec_bind, hdepth]
  dsimp only
  rw [destroyDeep, exec_bind, exec_view?, hx]
  dsimp only
  rw [exec_bind, hknot.exec_retire, hcomponents]
  dsimp only
  rw [hroot]
  have hnothing : exec (updateView v emptied) s = (.ok ⟨⟩, s) := by
    rw [exec_updateView, hemptied]
  exact hnothing

end Session
end RemoteScreen
