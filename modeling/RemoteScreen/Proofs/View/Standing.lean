import RemoteScreen.Proofs.View.Adoption

/-! What stands between two steps, and how it goes on: every mounted card has its label, views own a
mounted view for all that they show, and each is held by the view it is mounted in. A widget of a view
stays with the view or is destroyed. -/
namespace RemoteScreen
namespace Session

variable {s t u : Session Ui} {path path' : Nat → List Nat} {v w c e : Nat} {x y : View}
  {r : Renderable} {whole top P : Nat → Prop} {f : View → View}

/-- What stands. The views in `whole` own a mounted view for all that they show, and those that are
not in `top` are owned by a mounted view. -/
structure Standing (whole top : Nat → Prop) (s : Session Ui) : Prop where
  furnished : ∀ (e : Nat) (x : View), s.ui.views[e]? = some x → x.root.isSome = true → x.Furnished
  complete : ∀ (e : Nat) (x : View), s.ui.views[e]? = some x → x.root.isSome = true → whole e →
    x.renderable.isSome = true → Complete s x
  held : ∀ (e : Nat) (x : View), s.ui.views[e]? = some x → x.root.isSome = true →
    top e ∨ Held s e

/-- Two lists that go together go together by another relation that what is on the right allows. -/
theorem forall₂_of_mem {α β : Type} {R S : α → β → Prop} {as : List α} {bs : List β}
    (h : List.Forall₂ R as bs) (hRS : ∀ b ∈ bs, ∀ a, R a b → S a b) : List.Forall₂ S as bs := by
  induction h with
  | nil => exact .nil
  | cons hab _ ih =>
    refine .cons (hRS _ List.mem_cons_self _ hab) (ih fun b hb => ?_)
    exact hRS b (List.mem_cons_of_mem _ hb)

theorem forall₂_getElem? {α β : Type} {R : α → β → Prop} {as : List α} {bs : List β}
    (h : List.Forall₂ R as bs) {i : Nat} {b : β} (hb : bs[i]? = some b) :
    ∃ a, as[i]? = some a ∧ R a b := by
  induction h generalizing i with
  | nil => cases hb
  | cons hab _ ih =>
    cases i with
    | zero =>
      obtain rfl := Option.some.inj hb
      exact ⟨_, rfl, hab⟩
    | succ i => exact ih hb

theorem forall₂_exists_of_mem {α β : Type} {R : α → β → Prop} {as : List α} {bs : List β} {b : β}
    (h : List.Forall₂ R as bs) (hb : b ∈ bs) : ∃ a ∈ as, R a b := by
  obtain ⟨i, hi⟩ := List.mem_iff_getElem?.1 hb
  obtain ⟨a, ha, hab⟩ := forall₂_getElem? h hi
  exact ⟨a, List.mem_of_getElem? ha, hab⟩

theorem Complete.mono (h : Complete s x)
    (hkept : ∀ c ∈ x.components, ∀ r, Presents s r c → Presents t r c) : Complete t x :=
  forall₂_of_mem h hkept

/-- Views that stay mounted go on presenting what they show. -/
theorem Presents.kept (h : Presents s r c)
    (hkept : ∀ y, s.ui.views[c]? = some y → y.root.isSome = true → ∃ z, t.ui.views[c]? = some z ∧
      z.root.isSome = true ∧ z.renderable = y.renderable) : Presents t r c := by
  obtain ⟨y, hy, hroot, hr⟩ := h
  obtain ⟨z, hz, hsome, hsame⟩ := hkept y hy hroot
  exact ⟨z, hz, hsome, hsame.trans hr⟩

theorem Standing.congr (h : Standing whole top s) (hviews : t.ui.views = s.ui.views) :
    Standing whole top t where
  furnished := hviews ▸ h.furnished
  complete := by
    rw [hviews]
    exact fun e x hx hroot he hr => (complete_congr hviews).2 (h.complete e x hx hroot he hr)
  held := by
    unfold Held
    rw [hviews]
    exact h.held

theorem Standing.mono {whole' top' : Nat → Prop} (h : Standing whole top s)
    (hwhole : ∀ e, whole' e → whole e) (htop : ∀ e, top e → top' e) : Standing whole' top' s where
  furnished := h.furnished
  complete := fun e x hx hroot he => h.complete e x hx hroot (hwhole e he)
  held := fun e x hx hroot => (h.held e x hx hroot).imp_left (htop e)

/-- A view that had been left out turns out to own all that it shows. -/
theorem Standing.completed (h : Standing (fun e => whole e ∧ e ≠ v) top s)
    (hv : ∀ x, s.ui.views[v]? = some x → x.root.isSome = true → Complete s x) :
    Standing whole top s where
  furnished := h.furnished
  complete := by
    intro e x hx hroot he hr
    by_cases hev : e = v
    · subst hev
      exact hv x hx hroot
    · exact h.complete e x hx hroot ⟨he, hev⟩ hr
  held := h.held

/-- Views have been destroyed with all that they own, and no view in `whole` showed any of them that has
not been destroyed itself. -/
theorem Standing.torn (h : Standing whole top s) (k : Torn P s t)
    (hclosed : ∀ (e : Nat) (y : View) (c : Nat), P e → s.ui.views[e]? = some y →
      c ∈ y.components → P c)
    (howners : ∀ (e : Nat) (y : View) (c : Nat), s.ui.views[e]? = some y → whole e →
      y.root.isSome = true → y.renderable.isSome = true → c ∈ y.components → P c → P e) :
    Standing whole top t := by
  have hbefore {e : Nat} {x : View} (hx : t.ui.views[e]? = some x) (hroot : x.root.isSome = true) :
      ¬P e ∧ s.ui.views[e]? = some x := by
    rcases k.cases hx with hold | ⟨y, -, -, rfl⟩
    · exact hold
    · cases hroot
  refine ⟨fun e x hx hroot => ?_, fun e x hx hroot he hr => ?_, fun e x hx hroot => ?_⟩
  · exact h.furnished e x (hbefore hx hroot).2 hroot
  · obtain ⟨hP, hold⟩ := hbefore hx hroot
    refine (h.complete e x hold hroot he hr).mono fun c hc r hpresents => ?_
    refine hpresents.kept fun y hy hsome => ⟨y, k.kept c y hy fun hPc => ?_, hsome, rfl⟩
    exact hP (howners e x c hold he hroot hr hc hPc)
  · obtain ⟨hP, hold⟩ := hbefore hx hroot
    refine (h.held e x hold hroot).imp_right fun ⟨o, y, hy, hsome, hmem⟩ => ⟨o, y, ?_, hsome, hmem⟩
    exact k.kept o y hy fun hPo => hP (hclosed o y e hPo hy hmem)

/-- A view has changed that keeps its widget and its parts, and all the mounted views it owns. -/
theorem Standing.withView (h : Standing whole top s) (hx : s.ui.views[v]? = some x)
    (hroot : (f x).root = x.root) (hparts : (f x).parts = x.parts)
    (hrenderable : (f x).renderable = x.renderable)
    (hcomponents : ∀ c ∈ x.components, c ∈ (f x).components ∨
      ∃ y, s.ui.views[c]? = some y ∧ y.root = none)
    (hwhole : whole v → x.renderable = none) : Standing whole top (s.withView v f) := by
  have hkept {r : Renderable} {c : Nat} (hpresents : Presents s r c) :
      Presents (s.withView v f) r c := by
    refine hpresents.kept fun y hy hsome => ?_
    by_cases hcv : c = v
    · subst hcv
      obtain rfl := Option.some.inj (hx.symm.trans hy)
      exact ⟨f x, withView_self hx f, hroot ▸ hsome, hrenderable⟩
    · exact ⟨y, (withView_ne f hcv).trans hy, hsome, rfl⟩
  refine ⟨fun e z hz hsome => ?_, fun e z hz hsome he hr => ?_, fun e z hz hsome => ?_⟩
  · rcases withView_cases hx hz with ⟨rfl, rfl⟩ | ⟨-, hold⟩
    · intro n hn
      rw [View.region?, hrenderable] at hn
      rw [hparts]
      exact h.furnished e x hx (hroot ▸ hsome) n hn
    · exact h.furnished e z hold hsome
  · rcases withView_cases hx hz with ⟨rfl, rfl⟩ | ⟨-, hold⟩
    · rw [hrenderable, hwhole he] at hr
      cases hr
    · exact (h.complete e z hold hsome he hr).mono fun c _ r => hkept
  · have hbefore : ∃ y, s.ui.views[e]? = some y ∧ y.root.isSome = true := by
      rcases withView_cases hx hz with ⟨rfl, rfl⟩ | ⟨-, hold⟩
      · exact ⟨x, hx, hroot ▸ hsome⟩
      · exact ⟨z, hold, hsome⟩
    obtain ⟨y, hy, hysome⟩ := hbefore
    refine (h.held e y hy hysome).imp_right ?_
    rintro ⟨o, z', hz', hosome, hmem⟩
    by_cases hov : o = v
    · subst hov
      obtain rfl := Option.some.inj (hx.symm.trans hz')
      refine ⟨o, f x, withView_self hx f, hroot ▸ hosome, (hcomponents e hmem).resolve_right ?_⟩
      rintro ⟨y', hy', hnone⟩
      obtain rfl := Option.some.inj (hy.symm.trans hy')
      rw [hnone] at hysome
      cases hysome
    · exact ⟨o, z', (withView_ne f hov).trans hz', hosome, hmem⟩

/-- A view has taken in a new one; a mounted view that does so is not in `whole`, or shows nothing. -/
theorem Standing.takes (h : Standing whole top s) (k : Takes v r s t)
    (hx : s.ui.views[v]? = some x) (hwhole : whole v → x.renderable = none) :
    Standing whole top t := by
  have hxt : t.ui.views[v]? = some (adopting s.ui.views.length x) := k.owner x hx
  have hlt {e : Nat} {y : View} (hy : s.ui.views[e]? = some y) : e < s.ui.views.length :=
    (List.getElem?_eq_some_iff.1 hy).1
  -- A mounted view was there before, or is view `v` itself, or has been made with the new one.
  have hcases {e : Nat} {z : View} (hz : t.ui.views[e]? = some z) (hsome : z.root.isSome = true) :
      (e ≠ v ∧ s.ui.views[e]? = some z) ∨ (e = v ∧ z = adopting s.ui.views.length x) ∨
        Fitted (fun e _ => Held t e) t e z := by
    by_cases hold : e < s.ui.views.length
    · by_cases hev : e = v
      · subst hev
        exact .inr (.inl ⟨rfl, Option.some.inj (hz.symm.trans hxt)⟩)
      · exact .inl ⟨hev, (k.others e hold hev).symm.trans hz⟩
    · cases hroot : x.root with
      | none =>
        obtain ⟨hlength, hmade⟩ := k.waits x hx hroot
        obtain rfl : e = s.ui.views.length := by
          have hlt := (List.getElem?_eq_some_iff.1 hz).1
          omega
        rw [(hmade z hz).root] at hsome
        cases hsome
      | some w =>
        have hxsome : x.root.isSome = true := by rw [hroot]; rfl
        exact .inr (.inr (k.mounted x hx hxsome e z (Nat.not_lt.1 hold) hz))
  have hkept {r : Renderable} {c : Nat} (hpresents : Presents s r c) : Presents t r c := by
    refine hpresents.kept fun y hy hsome => ?_
    by_cases hcv : c = v
    · subst hcv
      obtain rfl := Option.some.inj (hx.symm.trans hy)
      exact ⟨_, hxt, hsome, rfl⟩
    · exact ⟨y, (k.others c (hlt hy) hcv).trans hy, hsome, rfl⟩
  have hheld {e : Nat} (he : Held s e) : Held t e := by
    obtain ⟨o, y, hy, hsome, hmem⟩ := he
    by_cases hov : o = v
    · subst hov
      obtain rfl := Option.some.inj (hx.symm.trans hy)
      exact ⟨o, _, hxt, hsome, List.mem_append_left _ hmem⟩
    · exact ⟨o, y, (k.others o (hlt hy) hov).trans hy, hsome, hmem⟩
  refine ⟨fun e z hz hsome => ?_, fun e z hz hsome he hr => ?_, fun e z hz hsome => ?_⟩
  · rcases hcases hz hsome with ⟨-, hold⟩ | ⟨rfl, rfl⟩ | hfit
    · exact h.furnished e z hold hsome
    · exact h.furnished e x hx hsome
    · exact hfit.furnished
  · rcases hcases hz hsome with ⟨-, hold⟩ | ⟨rfl, rfl⟩ | hfit
    · exact (h.complete e z hold hsome he hr).mono fun c _ r => hkept
    · have hr : x.renderable.isSome = true := hr
      rw [hwhole he] at hr
      cases hr
    · exact hfit.complete
  · rcases hcases hz hsome with ⟨-, hold⟩ | ⟨rfl, rfl⟩ | hfit
    · exact (h.held e z hold hsome).imp_right hheld
    · exact (h.held e x hx hsome).imp_right hheld
    · obtain ⟨w, hw, he⟩ := hfit.root
      exact .inr he

/-- A view has been mounted. If it is in `whole` it was as it was made, and if it is not in `top` it
was owned by a mounted view. -/
theorem Standing.mounts (h : Standing whole top s) (k : Mounts path path' v s t)
    (hx : s.ui.views[v]? = some x) (hwhole : whole v → x.index = 0 ∧ x.components = [])
    (hheld : top v ∨ Held s v) : Standing whole top t := by
  obtain ⟨y, w, hy, -, hw, hfurnished, hcomplete⟩ := k.view hx
  have hholds {e : Nat} (he : Held s e) : Held t e := by
    obtain ⟨o, z, hz, hsome, hmem⟩ := he
    exact ⟨o, z, k.toSpares.view hz hsome, hsome, hmem⟩
  have hcases {e : Nat} {z : View} (hz : t.ui.views[e]? = some z) :
      s.ui.views[e]? = some z ∨ (e = v ∧ z = y) ∨ Fitted (Hangs path' t) t e z := by
    by_cases hold : e < s.ui.views.length
    · by_cases hev : e = v
      · subst hev
        exact .inr (.inl ⟨rfl, Option.some.inj (hz.symm.trans hy)⟩)
      · exact .inl ((k.others e hold hev).symm.trans hz)
    · exact .inr (.inr (k.new e z (Nat.not_lt.1 hold) hz))
  refine ⟨fun e z hz hsome => ?_, fun e z hz hsome he hr => ?_, fun e z hz hsome => ?_⟩
  · rcases hcases hz with hold | ⟨rfl, rfl⟩ | hfit
    · exact h.furnished e z hold hsome
    · exact hfurnished
    · exact hfit.furnished
  · rcases hcases hz with hold | ⟨rfl, rfl⟩ | hfit
    · exact k.toSpares.complete (h.complete e z hold hsome he hr)
    · exact hcomplete (hwhole he).1 (hwhole he).2
    · exact hfit.complete
  · rcases hcases hz with hold | ⟨rfl, rfl⟩ | hfit
    · exact (h.held e z hold hsome).imp_right hholds
    · exact hheld.imp_right hholds
    · obtain ⟨w', hw', hangs⟩ := hfit.root
      exact .inr hangs.held

/-! The widgets of views -/

/-- Views go on showing what they show, what has been destroyed is still destroyed, and the widget of
a mounted view is still its widget or has been destroyed. -/
structure Lasting (s t : Session Ui) : Prop where
  views : ∀ (e : Nat) (x : View), s.ui.views[e]? = some x →
    ∃ y, t.ui.views[e]? = some y ∧ y.kind = x.kind ∧ y.renderable = x.renderable
  destroyed : s.ui.kit.destroyed ⊆ t.ui.kit.destroyed
  roots : ∀ (e : Nat) (x : View) (w : Nat), s.ui.views[e]? = some x → x.root = some w →
    (∃ y, t.ui.views[e]? = some y ∧ y.root = some w) ∨ w ∈ t.ui.kit.destroyed

/-- Nothing has been destroyed. -/
theorem Lasting.of_views (hdestroyed : t.ui.kit.destroyed = s.ui.kit.destroyed)
    (hviews : ∀ (e : Nat) (x : View), s.ui.views[e]? = some x → ∃ y, t.ui.views[e]? = some y ∧
      y.kind = x.kind ∧ y.renderable = x.renderable ∧ (x.root.isSome = true → y.root = x.root)) :
    Lasting s t where
  views := by
    intro e x hx
    obtain ⟨y, hy, hkind, hrenderable, -⟩ := hviews e x hx
    exact ⟨y, hy, hkind, hrenderable⟩
  destroyed := fun w hw => hdestroyed ▸ hw
  roots := by
    intro e x w hx hw
    obtain ⟨y, hy, -, -, hroot⟩ := hviews e x hx
    exact .inl ⟨y, hy, (hroot (by rw [hw]; rfl)).trans hw⟩

instance : IsPreorder (Session Ui) Lasting where
  refl _ := .of_views rfl fun _ x hx => ⟨x, hx, rfl, rfl, fun _ => rfl⟩
  trans s t u h k := by
    refine ⟨fun e x hx => ?_, List.Subset.trans h.destroyed k.destroyed, fun e x w hx hw => ?_⟩
    · obtain ⟨y, hy, hkind, hrenderable⟩ := h.views e x hx
      obtain ⟨z, hz, hkind', hrenderable'⟩ := k.views e y hy
      exact ⟨z, hz, hkind'.trans hkind, hrenderable'.trans hrenderable⟩
    · rcases h.roots e x w hx hw with ⟨y, hy, hyw⟩ | hgone
      · exact k.roots e y w hy hyw
      · exact .inr (k.destroyed hgone)

theorem Lasting.trans (h : Lasting s t) (k : Lasting t u) : Lasting s u := IsTrans.trans _ _ _ h k

open Classical in
theorem Torn.lasting (h : Torn P s t) : Lasting s t where
  views := by
    intro e x hx
    by_cases hP : P e
    · exact ⟨x.ended, h.ended e x hx hP, rfl, rfl⟩
    · exact ⟨x, h.kept e x hx hP, rfl, rfl⟩
  destroyed := h.destroyed.subset
  roots := by
    intro e x w hx hw
    by_cases hP : P e
    · exact .inr (h.gone e x w hx hw hP)
    · exact .inl ⟨x, h.kept e x hx hP, hw⟩

theorem Lasting.withView (hx : s.ui.views[v]? = some x) (hkind : (f x).kind = x.kind)
    (hrenderable : (f x).renderable = x.renderable)
    (hroot : x.root.isSome = true → (f x).root = x.root) : Lasting s (s.withView v f) := by
  refine .of_views rfl fun e y hy => ?_
  by_cases hev : e = v
  · subst hev
    obtain rfl := Option.some.inj (hx.symm.trans hy)
    exact ⟨f x, withView_self hx f, hkind, hrenderable, hroot⟩
  · exact ⟨y, (withView_ne f hev).trans hy, rfl, rfl, fun _ => rfl⟩

theorem Takes.lasting (h : Takes v r s t) (hx : s.ui.views[v]? = some x) : Lasting s t := by
  refine .of_views h.destroyed fun e y hy => ?_
  by_cases hev : e = v
  · subst hev
    obtain rfl := Option.some.inj (hx.symm.trans hy)
    exact ⟨_, h.owner x hx, rfl, rfl, fun _ => rfl⟩
  · exact ⟨y, (h.others e (List.getElem?_eq_some_iff.1 hy).1 hev).trans hy, rfl, rfl, fun _ => rfl⟩

theorem Mounts.lasting (h : Mounts path path' v s t) (hx : s.ui.views[v]? = some x) :
    Lasting s t := by
  obtain ⟨y, w, hy, hended, -⟩ := h.view hx
  refine .of_views h.destroyed fun e z hz => ?_
  by_cases hev : e = v
  · subst hev
    obtain rfl := Option.some.inj (hx.symm.trans hz)
    refine ⟨y, hy, congrArg (fun z => z.ended.kind) hended,
      congrArg (fun z => z.ended.renderable) hended, fun hsome => ?_⟩
    rw [h.unmounted x hx] at hsome
    cases hsome
  · exact ⟨z, (h.others e (List.getElem?_eq_some_iff.1 hz).1 hev).trans hz, rfl, rfl, fun _ => rfl⟩

theorem Still.lasting (h : Still s t) : Lasting s t :=
  .of_views h.destroyed fun _ x hx => ⟨x, h.views.symm ▸ hx, rfl, rfl, fun _ => rfl⟩

end Session
end RemoteScreen
