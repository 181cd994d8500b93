import RemoteScreen.Toolkit.Basic

/-! The tree of widgets. A widget is made after its parent and stands no longer than its parent does,
so what stands below a widget is read off the parents, and a widget that is destroyed takes all of
it along and nothing else. -/
namespace RemoteScreen
namespace Toolkit

variable {κ : Type} {k k' k'' : Toolkit κ} {w c p q a b : Nat}

def parent? (k : Toolkit κ) (c : Nat) : Option Nat := (k.widgets[c]?).bind Widget.parent

def aspects? (k : Toolkit κ) (c : Nat) : Option (Aspects κ) := (k.widgets[c]?).map Widget.aspects

theorem isAlive_iff : k.isAlive w = true ↔ w < k.widgets.length ∧ w ∉ k.destroyed := by
  simp [isAlive]

theorem lt_of_isAlive (h : k.isAlive w = true) : w < k.widgets.length := (isAlive_iff.1 h).1

/-- As long as no widget is destroyed, a widget that stands goes on standing. -/
theorem isAlive_of_length_le (hlength : k.widgets.length ≤ k'.widgets.length)
    (hdestroyed : k'.destroyed = k.destroyed) (h : k.isAlive w = true) : k'.isAlive w = true := by
  obtain ⟨hlt, hmem⟩ := isAlive_iff.1 h
  exact isAlive_iff.2 ⟨Nat.lt_of_lt_of_le hlt hlength, hdestroyed ▸ hmem⟩

theorem isAlive_congr (hlength : k'.widgets.length = k.widgets.length)
    (hdestroyed : k'.destroyed = k.destroyed) (w : Nat) : k'.isAlive w = k.isAlive w := by
  rw [isAlive, isAlive, hlength, hdestroyed]

theorem lt_of_parent? (h : k.parent? c = some p) : c < k.widgets.length := by
  obtain ⟨x, hx, -⟩ := Option.bind_eq_some_iff.1 h
  exact (List.getElem?_eq_some_iff.1 hx).1

/-- How widgets come and go: parents come first and stay as long as what is in them, and what is
destroyed was made before and is destroyed once. -/
structure Grown (k : Toolkit κ) : Prop where
  earlier : ∀ c p, k.parent? c = some p → p < c
  upright : ∀ c p, k.isAlive c = true → k.parent? c = some p → k.isAlive p = true
  made : ∀ w ∈ k.destroyed, w < k.widgets.length
  once : k.destroyed.Nodup

/-- While widgets are only made, what stands is what stood and what has been made. -/
theorem Grown.isAlive_longer (h : k.Grown) (hlength : k.widgets.length ≤ k'.widgets.length)
    (hdestroyed : k'.destroyed = k.destroyed) : k'.isAlive w = true ↔
      k.isAlive w = true ∨ k.widgets.length ≤ w ∧ w < k'.widgets.length := by
  rw [Toolkit.isAlive_iff, Toolkit.isAlive_iff, hdestroyed]
  constructor
  · rintro ⟨hlt, hnot⟩
    exact (Nat.lt_or_ge w k.widgets.length).imp (⟨·, hnot⟩) (⟨·, hlt⟩)
  · rintro (⟨hlt, hnot⟩ | ⟨hle, hlt⟩)
    · exact ⟨Nat.lt_of_lt_of_le hlt hlength, hnot⟩
    · exact ⟨hlt, fun hmem => absurd (h.made w hmem) (Nat.not_lt.2 hle)⟩

theorem grown_withWindow : (withWindow : Toolkit κ).Grown := by
  have hparent (c : Nat) : (withWindow : Toolkit κ).parent? c = none := by
    cases c <;> rfl
  refine ⟨fun c p hp => ?_, fun c p _ hp => ?_, fun w hw => absurd hw List.not_mem_nil,
    List.nodup_nil⟩
  · rw [hparent] at hp
    cases hp
  · rw [hparent] at hp
    cases hp

/-! What stands below a widget -/

/-- A widget and what stands below it, as far as its number is less than `n`. -/
def below (k : Toolkit κ) (w : Nat) : Nat → List Nat
  | 0 => []
  | n + 1 =>
    if (n == w || (k.parent? n).any (k.below w n).contains) && k.isAlive n then n :: k.below w n
    else k.below w n

theorem subtree_eq_below (k : Toolkit κ) (w : Nat) : k.subtree w = k.below w k.widgets.length := by
  have htake (n : Nat) (hn : n ≤ k.widgets.length) :
      (k.widgets.take n).zipIdx.foldl (fun acc e =>
        if (e.2 == w || e.1.parent.any acc.contains) && k.isAlive e.2 then e.2 :: acc else acc) [] =
      k.below w n := by
    induction n with
    | zero => rfl
    | succ n ih =>
      have hparent : k.parent? n = k.widgets[n].parent := by
        rw [parent?, List.getElem?_eq_getElem hn, Option.bind_some]
      have hlength : (k.widgets.take n).length = n := List.length_take_of_le (Nat.le_of_lt hn)
      rw [List.take_succ_eq_append_getElem hn, List.zipIdx_append, List.foldl_append,
        ih (Nat.le_of_lt hn), hlength, Nat.zero_add, below, hparent]
      rfl
  have hall := htake k.widgets.length (Nat.le_refl _)
  rw [List.take_length] at hall
  exact hall

theorem lt_of_mem_below {n : Nat} (h : c ∈ k.below w n) : c < n := by
  induction n with
  | zero => exact absurd h List.not_mem_nil
  | succ n ih =>
    unfold below at h
    split at h
    · rcases List.mem_cons.1 h with rfl | h
      · exact Nat.lt_succ_self _
      · exact Nat.lt_succ_of_lt (ih h)
    · exact Nat.lt_succ_of_lt (ih h)

/-- A widget joins when its number comes by, or not at all. -/
theorem mem_below_iff {n : Nat} (hc : c < n) : c ∈ k.below w n ↔
    k.isAlive c = true ∧ (c = w ∨ ∃ p, k.parent? c = some p ∧ p ∈ k.below w c) := by
  induction n with
  | zero => exact absurd hc (Nat.not_lt_zero c)
  | succ n ih =>
    rcases Nat.lt_succ_iff_lt_or_eq.1 hc with hlt | rfl
    · rw [← ih hlt, below]
      split
      · exact List.mem_cons.trans (or_iff_right (Nat.ne_of_lt hlt))
      · exact Iff.rfl
    · have hself : c ∉ k.below w c := fun h => absurd (lt_of_mem_below h) (Nat.lt_irrefl c)
      have hjoins : ((c == w || (k.parent? c).any (k.below w c).contains) && k.isAlive c) = true ↔
          k.isAlive c = true ∧ (c = w ∨ ∃ p, k.parent? c = some p ∧ p ∈ k.below w c) := by
        simp [Option.any_eq_true, and_comm]
      rw [← hjoins, below]
      split
      case isTrue h => exact iff_of_true List.mem_cons_self h
      case isFalse h => exact iff_of_false hself h

theorem nodup_below (k : Toolkit κ) (w n : Nat) : (k.below w n).Nodup := by
  induction n with
  | zero => exact List.nodup_nil
  | succ n ih =>
    unfold below
    split
    · exact List.nodup_cons.2 ⟨fun h => absurd (lt_of_mem_below h) (Nat.lt_irrefl n), ih⟩
    · exact ih

theorem nodup_subtree (k : Toolkit κ) (w : Nat) : (k.subtree w).Nodup := by
  rw [subtree_eq_below]
  exact nodup_below k w _

theorem mem_subtree_iff (h : k.Grown) : c ∈ k.subtree w ↔
    k.isAlive c = true ∧ (c = w ∨ ∃ p, k.parent? c = some p ∧ p ∈ k.subtree w) := by
  rw [subtree_eq_below]
  by_cases hc : c < k.widgets.length
  · rw [mem_below_iff hc]
    refine and_congr_right fun _ => or_congr_right ?_
    refine exists_congr fun p => and_congr_right fun hp => ?_
    have hpc : p < c := h.earlier c p hp
    rw [mem_below_iff (Nat.lt_trans hpc hc), mem_below_iff hpc]
  · refine iff_of_false (fun hmem => hc (lt_of_mem_below hmem)) fun ⟨halive, _⟩ => ?_
    exact hc (lt_of_isAlive halive)

theorem isAlive_of_mem_subtree (h : k.Grown) (hc : c ∈ k.subtree w) : k.isAlive c = true :=
  ((mem_subtree_iff h).1 hc).1

theorem self_mem_subtree (h : k.Grown) (hw : k.isAlive w = true) : w ∈ k.subtree w :=
  (mem_subtree_iff h).2 ⟨hw, .inl rfl⟩

/-- What holds of a widget and passes from parents to children holds of all that stands below. -/
theorem subtree_induction (h : k.Grown) {P : Nat → Prop} (hself : P w)
    (hchild : ∀ c p, k.parent? c = some p → P p → P c) (hc : c ∈ k.subtree w) : P c := by
  induction c using Nat.strongRecOn with
  | ind c ih =>
    obtain ⟨-, rfl | ⟨p, hp, hmem⟩⟩ := (mem_subtree_iff h).1 hc
    · exact hself
    · exact hchild c p hp (ih p (h.earlier c p hp) hmem)

/-- Where nothing that stands is in a widget, nothing goes with it. -/
theorem subtree_eq_singleton (h : k.Grown) (hw : k.isAlive w = true)
    (hempty : ∀ c, k.isAlive c = true → k.parent? c ≠ some w) : k.subtree w = [w] := by
  have hall : ∀ c ∈ k.subtree w, c = w := by
    intro c hc
    induction c using Nat.strongRecOn with
    | ind c ih =>
      obtain ⟨halive, heq | ⟨p, hp, hmem⟩⟩ := (mem_subtree_iff h).1 hc
      · exact heq
      · obtain rfl := ih p (h.earlier c p hp) hmem
        exact absurd hp (hempty c halive)
  have hnodup := nodup_subtree k w
  have hself := self_mem_subtree h hw
  rcases hsubtree : k.subtree w with - | ⟨c, - | ⟨c', cs⟩⟩ <;> rw [hsubtree] at hall hnodup hself
  · exact absurd hself List.not_mem_nil
  · rw [hall c List.mem_cons_self]
  · have hc := hall c List.mem_cons_self
    have hc' := hall c' (List.mem_cons_of_mem _ List.mem_cons_self)
    refine absurd ?_ (List.nodup_cons.1 hnodup).1
    rw [hc, hc']
    exact List.mem_cons_self

/-! The end of a widget -/

theorem isAlive_destroy_iff :
    (k.destroy w).isAlive c = true ↔ k.isAlive c = true ∧ c ∉ k.subtree w := by
  have hdestroyed : (k.destroy w).destroyed = k.destroyed ++ k.subtree w := destroyed_destroy k w
  have hwidgets : (k.destroy w).widgets = k.widgets := rfl
  simp only [isAlive_iff, hdestroyed, hwidgets, List.mem_append, not_or, and_assoc]

theorem Grown.destroy (h : k.Grown) (w : Nat) : (k.destroy w).Grown where
  earlier := h.earlier
  upright := by
    intro c p hc hp
    obtain ⟨halive, hnot⟩ := isAlive_destroy_iff.1 hc
    refine isAlive_destroy_iff.2 ⟨h.upright c p halive hp, fun hmem => hnot ?_⟩
    exact (mem_subtree_iff h).2 ⟨halive, .inr ⟨p, hp, hmem⟩⟩
  made := by
    intro c hc
    rw [destroyed_destroy] at hc
    rcases List.mem_append.1 hc with hold | hnew
    · exact h.made c hold
    · exact (isAlive_iff.1 (isAlive_of_mem_subtree h hnew)).1
  once := by
    rw [destroyed_destroy, List.nodup_append]
    refine ⟨h.once, nodup_subtree k w, fun c hold c' hnew heq => ?_⟩
    subst heq
    exact (isAlive_iff.1 (isAlive_of_mem_subtree h hnew)).2 hold

/-! More widgets -/

/-- Widgets have been added below widget `q` or below widgets numbered `a` or more, no widget has
been destroyed, and what widgets below `a` look like has not changed. -/
structure Extended (a q : Nat) (k k' : Toolkit κ) : Prop where
  length : k.widgets.length ≤ k'.widgets.length
  destroyed : k'.destroyed = k.destroyed
  parents : ∀ c < k.widgets.length, k'.parent? c = k.parent? c
  hung : ∀ c, k.widgets.length ≤ c → c < k'.widgets.length →
    ∃ p, k'.parent? c = some p ∧ p < c ∧ (p = q ∨ a ≤ p)
  aspects : ∀ c < a, k'.aspects? c = k.aspects? c

theorem Extended.refl (a q : Nat) (k : Toolkit κ) : Extended a q k k where
  length := Nat.le_refl _
  destroyed := rfl
  parents := fun _ _ => rfl
  hung := fun _ hc hc' => absurd hc' (Nat.not_lt.2 hc)
  aspects := fun _ _ => rfl

theorem Extended.trans (h : Extended a q k k') (g : Extended a q k' k'') :
    Extended a q k k'' where
  length := Nat.le_trans h.length g.length
  destroyed := g.destroyed.trans h.destroyed
  parents := fun c hc => (g.parents c (Nat.lt_of_lt_of_le hc h.length)).trans (h.parents c hc)
  hung := by
    intro c hc hc'
    by_cases hold : c < k'.widgets.length
    · rw [g.parents c hold]
      exact h.hung c hc hold
    · exact g.hung c (Nat.not_lt.1 hold) hc'
  aspects := fun c hc => (g.aspects c hc).trans (h.aspects c hc)

theorem Extended.isAlive (h : Extended a q k k') (hw : k.isAlive w = true) :
    k'.isAlive w = true := isAlive_of_length_le h.length h.destroyed hw

/-- What has been added stands. -/
theorem Extended.isAlive_new (h : Extended a q k k') (hk : k.Grown) (hw : k.widgets.length ≤ w)
    (hw' : w < k'.widgets.length) : k'.isAlive w = true := by
  refine isAlive_iff.2 ⟨hw', fun hmem => ?_⟩
  rw [h.destroyed] at hmem
  exact absurd (hk.made w hmem) (Nat.not_lt.2 hw)

/-- A place to build in: widget `q` stands, and so does all that was made since there were `a`
widgets. -/
structure Site (a q : Nat) (k : Toolkit κ) : Prop where
  grown : k.Grown
  place : k.isAlive q = true
  base : a ≤ k.widgets.length
  fresh : ∀ w, a ≤ w → w < k.widgets.length → k.isAlive w = true

theorem Grown.site (h : k.Grown) (hq : k.isAlive q = true) : Site k.widgets.length q k where
  grown := h
  place := hq
  base := Nat.le_refl _
  fresh := fun _ hw hw' => absurd hw' (Nat.not_lt.2 hw)

theorem Extended.grown (h : Extended a q k k') (hsite : Site a q k) : k'.Grown where
  earlier := by
    intro c p hp
    by_cases hold : c < k.widgets.length
    · exact hsite.grown.earlier c p (h.parents c hold ▸ hp)
    · obtain ⟨p', hp', hlt, -⟩ := h.hung c (Nat.not_lt.1 hold) (lt_of_parent? hp)
      obtain rfl := Option.some.inj (hp.symm.trans hp')
      exact hlt
  upright := by
    intro c p hc hp
    by_cases hold : c < k.widgets.length
    · have hcold : k.isAlive c = true :=
        isAlive_iff.2 ⟨hold, h.destroyed ▸ (isAlive_iff.1 hc).2⟩
      exact h.isAlive (hsite.grown.upright c p hcold (h.parents c hold ▸ hp))
    · obtain ⟨p', hp', hlt, hplace⟩ := h.hung c (Nat.not_lt.1 hold) (lt_of_parent? hp)
      obtain rfl := Option.some.inj (hp.symm.trans hp')
      by_cases hpold : p < k.widgets.length
      · rcases hplace with rfl | hle
        · exact h.isAlive hsite.place
        · exact h.isAlive (hsite.fresh p hle hpold)
      · have hplt : p < k'.widgets.length := Nat.lt_trans hlt (lt_of_parent? hp)
        exact h.isAlive_new hsite.grown (Nat.not_lt.1 hpold) hplt
  made := fun w hw => Nat.lt_of_lt_of_le (hsite.grown.made w (h.destroyed ▸ hw)) h.length
  once := h.destroyed ▸ hsite.grown.once

theorem Extended.site (h : Extended a q k k') (hsite : Site a q k) : Site a q k' where
  grown := h.grown hsite
  place := h.isAlive hsite.place
  base := Nat.le_trans hsite.base h.length
  fresh := by
    intro w hw hw'
    by_cases hold : w < k.widgets.length
    · exact h.isAlive (hsite.fresh w hw hold)
    · exact h.isAlive_new hsite.grown (Nat.not_lt.1 hold) hw'

/-- What has been built in a widget that was there or has been built there. -/
theorem Extended.widen {a' p : Nat} (h : Extended a' p k k') (hp : p = q ∨ a ≤ p) (ha : a ≤ a') :
    Extended a q k k' where
  length := h.length
  destroyed := h.destroyed
  parents := h.parents
  hung := by
    intro c hc hc'
    obtain ⟨p', hp', hlt, hplace⟩ := h.hung c hc hc'
    refine ⟨p', hp', hlt, ?_⟩
    rcases hplace with rfl | hle
    · exact hp
    · exact .inr (Nat.le_trans ha hle)
  aspects := fun c hc => h.aspects c (Nat.lt_of_lt_of_le hc ha)

/-- A widget has been made where there is room. -/
theorem Extended.create (h : Site a q k) (hp : k.isAlive p = true) (hroom : p = q ∨ a ≤ p)
    (x : Widget κ) (hx : x.parent = some p) :
    Extended a q k { k with widgets := k.widgets ++ [x] } where
  length := by simp
  destroyed := rfl
  parents := fun c hc => by
    rw [parent?, parent?, List.getElem?_append_left hc]
  hung := by
    intro c hc hc'
    obtain rfl : c = k.widgets.length := by
      rw [List.length_append, List.length_singleton] at hc'
      omega
    exact ⟨p, by simp [parent?, hx], lt_of_isAlive hp, hroom⟩
  aspects := fun c hc => by
    rw [aspects?, aspects?, List.getElem?_append_left (Nat.lt_of_lt_of_le hc h.base)]

theorem parent?_update {f : Widget κ → Widget κ} (hf : ∀ x, (f x).parent = x.parent) (c : Nat) :
    (k.update w f).parent? c = k.parent? c := by
  unfold parent? Toolkit.update
  rw [List.getElem?_modify]
  cases k.widgets[c]? with
  | none => rfl
  | some x => by_cases hwc : w = c <;> simp [hwc, hf]

theorem aspects?_update_ne {f : Widget κ → Widget κ} (h : w ≠ c) :
    (k.update w f).aspects? c = k.aspects? c := by
  rw [aspects?, update, List.getElem?_modify_ne _ _ h, aspects?]

theorem aspects?_update {f : Widget κ → Widget κ} (hf : ∀ x, (f x).aspects = x.aspects) (c : Nat) :
    (k.update w f).aspects? c = k.aspects? c := by
  unfold aspects? Toolkit.update
  rw [List.getElem?_modify]
  cases k.widgets[c]? with
  | none => rfl
  | some x => by_cases hwc : w = c <;> simp [hwc, hf]

theorem aspects?_update_self (hw : w < k.widgets.length) (f : Widget κ → Widget κ) :
    (k.update w f).aspects? w = some (f k.widgets[w]).aspects := by
  unfold aspects? Toolkit.update
  rw [List.getElem?_modify, List.getElem?_eq_getElem hw]
  simp

/-- A widget has changed that stays where it is; if it was there before, it looks the same. -/
theorem Extended.update {f : Widget κ → Widget κ} (hparent : ∀ x, (f x).parent = x.parent)
    (haspects : a ≤ w ∨ ∀ x, (f x).aspects = x.aspects) : Extended a q k (k.update w f) where
  length := by simp [Toolkit.update]
  destroyed := rfl
  parents := fun c _ => parent?_update hparent c
  hung := fun c hc hc' => absurd hc' (by simpa [Toolkit.update] using hc)
  aspects := by
    intro c hc
    rcases haspects with hw | hsame
    · exact aspects?_update_ne (Nat.ne_of_gt (Nat.lt_of_lt_of_le hc hw))
    · exact aspects?_update hsame c

end Toolkit
end RemoteScreen
