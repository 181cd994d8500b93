import RemoteScreen.Proofs.Fetch.Outcome
import RemoteScreen.Proofs.Image.Retrieval
import RemoteScreen.Proofs.View.Lifecycle
import RemoteScreen.Window.Application

/-! What goes on in a window beside its fetches. Views come and go, images arrive and rows are
measured, and none of it touches the fetches: no view has the window for its widget, so what is set
through the window is never dropped, and the alarm that a screen puts off is its own. -/
namespace RemoteScreen

/-- Everything below a widget was made after it. -/
theorem Toolkit.le_of_mem_subtree {κ : Type} {k : Toolkit κ} {w c : Nat} (h : c ∈ k.subtree w) :
    w ≤ c := by
  -- What joins is the widget itself or has its parent among those that have joined, so as long as
  -- numbers below the widget come by, none joins.
  have hfold {f : List Nat → Widget κ × Nat → List Nat}
      (hf : ∀ acc x n, f acc (x, n) = acc ∨
        f acc (x, n) = n :: acc ∧ (n = w ∨ ∃ p, x.parent = some p ∧ p ∈ acc))
      (xs : List (Widget κ)) (n : Nat) (acc : List Nat) (hacc : ∀ b ∈ acc, w ≤ b ∧ b < n) :
      ∀ c ∈ (xs.zipIdx n).foldl f acc, w ≤ c := by
    induction xs generalizing n acc with
    | nil => exact fun c hc => (hacc c hc).1
    | cons x xs ih =>
      rw [List.zipIdx_cons, List.foldl_cons]
      have hlater (b : Nat) (hb : b ∈ acc) : w ≤ b ∧ b < n + 1 :=
        ⟨(hacc b hb).1, Nat.lt_succ_of_lt (hacc b hb).2⟩
      refine ih (n + 1) _ fun b hb => ?_
      rcases hf acc x n with hsame | ⟨hjoins, hself | ⟨p, -, hp⟩⟩
      · exact hlater b (hsame ▸ hb)
      · rcases List.mem_cons.1 (hjoins ▸ hb) with rfl | hb
        · exact ⟨Nat.le_of_eq hself.symm, Nat.lt_succ_self _⟩
        · exact hlater b hb
      · rcases List.mem_cons.1 (hjoins ▸ hb) with rfl | hb
        · exact ⟨Nat.le_of_lt (Nat.lt_of_le_of_lt (hacc p hp).1 (hacc p hp).2), Nat.lt_succ_self _⟩
        · exact hlater b hb
  refine hfold (fun acc x n => ?_) k.widgets 0 [] (by simp) c h
  dsimp only
  split
  case isFalse => exact .inl rfl
  case isTrue hjoins =>
    refine .inr ⟨rfl, ?_⟩
    simpa [Option.any_eq_true] using (Bool.and_eq_true_iff.1 hjoins).1

namespace Session

/-- A command that looks for the result of a fetch. -/
def collects : Command → Bool
  | .collect => true
  | _ => false

theorem eq_collect_of_collects {c : Command} (h : collects c = true) : c = .collect := by
  cases c with
  | collect => rfl
  | _ => cases h

/-- The alarms that look for the result of a fetch. -/
def collecting (k : Toolkit Command) : List (Alarm Command) :=
  k.alarms.filter fun a => collects a.command

theorem mem_collecting {k : Toolkit Command} {a : Alarm Command} (ha : a ∈ k.alarms)
    (hcollect : a.command = .collect) : a ∈ collecting k :=
  List.mem_filter.2 ⟨ha, by simp [hcollect, collects]⟩

/-- The window stands and is the widget of no view, and what is set for later is known: images are
looked for, rows are measured, and only through the window the result of a fetch is looked for. -/
structure Tidy (u : Ui) : Prop where
  stands : u.kit.isAlive window = true
  roots : ∀ x ∈ u.views, x.root ≠ some window
  numbers : ∀ a ∈ u.kit.alarms, a.number < u.kit.nextAlarm
  distinct : (u.kit.alarms.map Alarm.number).Nodup
  alarms : ∀ a ∈ u.kit.alarms,
    a.command = .poll ∨ a.command = .collect ∧ a.owner = window
  polling : ∀ n, u.screen.pollAlarm = some n →
    n < u.kit.nextAlarm ∧ ∀ a ∈ u.kit.alarms, a.number = n → a.command = .poll
  errands : ∀ e ∈ u.kit.errands, ∃ v, e.command = .measure v

variable {s t : Session Ui} {u v : Ui}

theorem Tidy.thin (h : Tidy u) (hstands : v.kit.isAlive window = true)
    (hroots : ∀ x ∈ v.views, x.root ≠ some window) (halarms : v.kit.alarms.Sublist u.kit.alarms)
    (hnext : v.kit.nextAlarm = u.kit.nextAlarm)
    (hpolling : ∀ n, v.screen.pollAlarm = some n → u.screen.pollAlarm = some n)
    (herrands : v.kit.errands ⊆ u.kit.errands) : Tidy v where
  stands := hstands
  roots := hroots
  numbers a ha := hnext ▸ h.numbers a (halarms.subset ha)
  distinct := h.distinct.sublist (halarms.map _)
  alarms a ha := h.alarms a (halarms.subset ha)
  polling n hn := by
    obtain ⟨hlt, hpoll⟩ := h.polling n (hpolling n hn)
    exact ⟨hnext ▸ hlt, fun a ha => hpoll a (halarms.subset ha)⟩
  errands e he := h.errands e (herrands he)

/-- The application has no part in it. -/
theorem Tidy.congr (h : Tidy u) (hkit : v.kit = u.kit) (hviews : v.views = u.views)
    (hpolling : v.screen.pollAlarm = u.screen.pollAlarm) : Tidy v :=
  h.thin (hkit ▸ h.stands) (hviews ▸ h.roots) (hkit ▸ List.Sublist.refl _) (hkit ▸ rfl)
    (fun _ => hpolling ▸ id) (hkit ▸ List.Subset.refl _)

/-- A new alarm, perhaps the one of the screen. -/
theorem Tidy.after (h : Tidy u) {w : Nat} {due : Int} {c : Command} {p : Option Nat}
    (hc : c = .poll ∨ c = .collect ∧ w = window)
    (hp : p = u.screen.pollAlarm ∨ p = some u.kit.nextAlarm ∧ c = .poll) :
    Tidy { u with
      kit := { u.kit with
        alarms := u.kit.alarms ++ [⟨u.kit.nextAlarm, w, due, c⟩]
        nextAlarm := u.kit.nextAlarm + 1 }
      screen := { u.screen with pollAlarm := p } } where
  stands := h.stands
  roots := h.roots
  numbers a ha := by
    rcases List.mem_append.1 ha with ha | ha
    · exact Nat.lt_succ_of_lt (h.numbers a ha)
    · obtain rfl := List.mem_singleton.1 ha
      exact Nat.lt_succ_self _
  distinct := by
    simp only [List.map_append, List.map_cons, List.map_nil]
    refine List.nodup_append.2 ⟨h.distinct, List.nodup_singleton _, ?_⟩
    intro n hn m hm
    obtain ⟨a, ha, rfl⟩ := List.mem_map.1 hn
    obtain rfl := List.mem_singleton.1 hm
    exact Nat.ne_of_lt (h.numbers a ha)
  alarms a ha := by
    rcases List.mem_append.1 ha with ha | ha
    · exact h.alarms a ha
    · obtain rfl := List.mem_singleton.1 ha
      exact hc
  polling n hn := by
    rcases hp with rfl | ⟨rfl, hpoll⟩
    · obtain ⟨hlt, hpolls⟩ := h.polling n hn
      refine ⟨Nat.lt_succ_of_lt hlt, fun a ha hnumber => ?_⟩
      rcases List.mem_append.1 ha with ha | ha
      · exact hpolls a ha hnumber
      · obtain rfl := List.mem_singleton.1 ha
        exact absurd hnumber (Nat.ne_of_gt hlt)
    · obtain rfl := Option.some.inj hn
      refine ⟨Nat.lt_succ_self _, fun a ha hnumber => ?_⟩
      rcases List.mem_append.1 ha with ha | ha
      · exact absurd hnumber (Nat.ne_of_lt (h.numbers a ha))
      · obtain rfl := List.mem_singleton.1 ha
        exact hpoll
  errands := h.errands

/-! Beside the fetches -/

/-- What the fetches are at stays. -/
structure FetchesKept (s t : Session Ui) : Prop where
  tidy : Tidy t.ui
  collecting : collecting t.ui.kit = collecting s.ui.kit
  loading : t.ui.application.loading = s.ui.application.loading
  workers : t.ui.application.workers = s.ui.application.workers
  results : t.ui.application.results = s.ui.application.results
  last : t.ui.application.last = s.ui.application.last
  response : t.ui.screen.response = s.ui.screen.response
  renderer : t.ui.screen.renderer = s.ui.screen.renderer
  tracker : t.tracker = s.tracker
  readings : t.telemetry.readings ⊆ s.telemetry.readings

/-- Something that goes on beside the fetches of a tidy window. -/
def Aside (s t : Session Ui) : Prop := Tidy s.ui → FetchesKept s t

instance : IsPreorder (Session Ui) Aside where
  refl _ h := ⟨h, rfl, rfl, rfl, rfl, rfl, rfl, rfl, rfl, List.Subset.refl _⟩
  trans _ _ _ h k hs :=
    have a := h hs
    have b := k a.tidy
    ⟨b.tidy, b.collecting.trans a.collecting, b.loading.trans a.loading,
      b.workers.trans a.workers, b.results.trans a.results, b.last.trans a.last,
      b.response.trans a.response, b.renderer.trans a.renderer, b.tracker.trans a.tracker,
      List.Subset.trans b.readings a.readings⟩

/-- A change of the toolkit, of views, or of the alarm of the screen. -/
theorem Aside.of_ui {k : Toolkit Command} {vs : List View} {n : Nat} {p : Option Nat}
    (htidy : Tidy s.ui → Tidy { s.ui with
      kit := k, views := vs, named := n, screen := { s.ui.screen with pollAlarm := p } })
    (hcollecting : Tidy s.ui → collecting k = collecting s.ui.kit) :
    Aside s { s with ui := { s.ui with
      kit := k, views := vs, named := n, screen := { s.ui.screen with pollAlarm := p } } } :=
  fun h => ⟨htidy h, hcollecting h, rfl, rfl, rfl, rfl, rfl, rfl, rfl, List.Subset.refl _⟩

/-- A change of what is not on screen. -/
theorem Aside.of_ui_eq (hui : t.ui = s.ui) (htracker : t.tracker = s.tracker)
    (hreadings : t.telemetry.readings ⊆ s.telemetry.readings) : Aside s t := by
  intro h
  exact ⟨hui ▸ h, by rw [hui], by rw [hui], by rw [hui], by rw [hui], by rw [hui], by rw [hui],
    by rw [hui], htracker, hreadings⟩

/-- A new widget is not the window. -/
theorem create_ne_window (parent : Nat) (kind : WidgetKind) (aspects : Aspects Command) :
    Gives (create parent kind aspects) (· ≠ window) := by
  intro s w t hok
  cases halive : s.ui.kit.isAlive parent with
  | false => simp [create, onKit, Toolkit.create?, halive] at hok
  | true =>
    simp only [create, onKit, Toolkit.create?, halive, exec_bind, exec_theKit, if_true,
      exec_updateKit, exec_pure, Prod.mk.injEq, Except.ok.injEq] at hok
    have hparent : parent < s.ui.kit.widgets.length := by
      simp only [Toolkit.isAlive, Bool.and_eq_true, decide_eq_true_eq] at halive
      exact halive.1
    obtain rfl := hok.1
    exact Nat.ne_of_gt (Nat.zero_lt_of_lt hparent)

/-- One more alarm for the result of a fetch. -/
@[simp] theorem collecting_append (k : Toolkit Command) (n w : Nat) (due : Int) (m : Nat) :
    collecting { k with alarms := k.alarms ++ [⟨n, w, due, .collect⟩], nextAlarm := m } =
      collecting k ++ [⟨n, w, due, .collect⟩] := by
  simp [collecting, collects]

/-- Putting off alarms for images leaves the others. -/
theorem collecting_cancel {k : Toolkit Command} {n : Nat}
    (h : ∀ a ∈ k.alarms, a.number = n → a.command = .poll) :
    collecting (k.cancel n) = collecting k := by
  rw [collecting, Toolkit.alarms_cancel, List.filter_filter]
  refine List.filter_congr fun a ha => ?_
  by_cases hn : a.number = n
  · simp [h a ha hn, collects]
  · simp [hn]

/-- What is set through the window does not end with another widget. -/
theorem collecting_destroy (h : Tidy u) {w : Nat} (hw : w ≠ window) :
    collecting (u.kit.destroy w) = collecting u.kit := by
  rw [collecting, Toolkit.destroy, List.filter_filter]
  refine List.filter_congr fun a ha => ?_
  rcases h.alarms a ha with hpoll | ⟨-, howner⟩
  · simp [hpoll, collects]
  · have hout : window ∉ u.kit.subtree w := fun hmem =>
      hw (Nat.le_zero.1 (Toolkit.le_of_mem_subtree hmem))
    simp [howner, hout]

theorem isAlive_destroy {k : Toolkit Command} {w : Nat} (h : k.isAlive window = true)
    (hw : w ≠ window) : (k.destroy w).isAlive window = true := by
  have hout : window ∉ k.subtree w := fun hmem =>
    hw (Nat.le_zero.1 (Toolkit.le_of_mem_subtree hmem))
  simp only [Toolkit.isAlive, Toolkit.destroy, Bool.and_eq_true,
    Bool.not_eq_true', List.contains_eq_mem, decide_eq_false_iff_not, decide_eq_true_eq,
    List.mem_append, not_or] at h ⊢
  exact ⟨h.1, h.2, hout⟩

instance : ViewChanges Aside where
  Own w := w ≠ window
  log _ _ _ _ := .of_ui_eq rfl rfl (List.Subset.refl _)
  addRegion _ _ := .of_ui_eq rfl rfl (List.Subset.refl _)
  subscribe _ _ _ := .of_ui_eq rfl rfl (List.Subset.refl _)
  unsubscribe _ _ _ := .of_ui_eq rfl rfl (List.Subset.refl _)
  addWidget s x := by
    refine .of_ui (fun h => ?_) fun _ => rfl
    refine h.thin ?_ h.roots (List.Sublist.refl _) rfl (fun _ => id) (List.Subset.refl _)
    have hstands := h.stands
    simp only [Toolkit.isAlive, Bool.and_eq_true, decide_eq_true_eq] at hstands ⊢
    exact ⟨List.length_append ▸ Nat.lt_add_right _ hstands.1, hstands.2⟩
  own_create := create_ne_window
  updateWidget w f s := by
    refine .of_ui (fun h => ?_) fun _ => rfl
    refine h.thin ?_ h.roots (List.Sublist.refl _) rfl (fun _ => id) (List.Subset.refl _)
    have hstands := h.stands
    simp only [Toolkit.isAlive, Toolkit.update, List.length_modify] at hstands ⊢
    exact hstands
  destroyWidget w hw s := by
    refine .of_ui (k := s.ui.kit.destroy w) (fun h => ?_) fun h => collecting_destroy h hw
    exact h.thin (isAlive_destroy h.stands hw) h.roots List.filter_sublist rfl (fun _ => id)
      List.filter_sublist.subset
  addErrand s w v := by
    refine .of_ui (fun h => ?_) fun _ => rfl
    refine { h with errands := fun e he => ?_ }
    rcases List.mem_append.1 he with he | he
    · exact h.errands e he
    · obtain rfl := List.mem_singleton.1 he
      exact ⟨v, rfl⟩
  addView x hx _ s := by
    refine .of_ui (fun h => ?_) fun _ => rfl
    refine { h with roots := fun y hy => ?_ }
    rcases List.mem_append.1 hy with hy | hy
    · exact h.roots y hy
    · obtain rfl := List.mem_singleton.1 hy
      simp [hx]
  updateView v f hf _ s := by
    refine .of_ui (fun h => ?_) fun _ => rfl
    refine { h with roots := fun y hy hroot => ?_ }
    obtain ⟨n, hn⟩ := List.mem_iff_getElem?.1 hy
    rw [List.getElem?_modify] at hn
    obtain ⟨x, hx, rfl⟩ := Option.map_eq_some_iff.1 hn
    have hold := h.roots x (List.mem_of_getElem? hx)
    split at hroot
    · rcases hf x _ hroot with hx | hw
      · exact hold hx
      · exact hw rfl
    · exact hold hroot
  own_root s t v x hx h hs := by
    refine h (fun w hw hwindow => ?_) hs
    exact hs.roots x (List.mem_of_getElem? hx) (hwindow ▸ hw)
  named n s := by
    refine .of_ui (fun h => ?_) fun _ => rfl
    exact { h with }
  startPolling s w due :=
    .of_ui (fun h => h.after (.inl rfl) (.inr ⟨rfl, rfl⟩)) fun _ => by
      simp [collecting, collects]
  stopPolling s n hn := by
    refine .of_ui (fun h => ?_) fun h => collecting_cancel (h.polling n hn).2
    exact h.thin h.stands h.roots List.filter_sublist rfl (fun _ => id) (List.Subset.refl _)
  forgetPolling s := by
    refine .of_ui (fun h => ?_) fun _ => rfl
    exact h.thin h.stands h.roots (List.Sublist.refl _) rfl (by simp) (List.Subset.refl _)

/-! Looking for images, measuring and fetching -/

theorem Aside.of_reporting (h : Reporting s t) : Aside s t := by
  obtain ⟨⟨j, τ, rfl⟩, hreadings⟩ := h
  exact .of_ui_eq rfl rfl hreadings

theorem drainImages_aside : Keeps Aside drainImages :=
  keeps_drain (keeps_drainOne keeps_showImage
    (fun _ _ _ => .of_ui_eq rfl rfl (List.Subset.refl _))
    (fun _ _ => .of_ui_eq rfl rfl (List.Subset.refl _)) WidgetChanges.log)

theorem poll_aside : Keeps Aside poll := by
  refine keeps_bind ViewChanges.forgetPolling fun _ => ?_
  refine keeps_bind keeps_theUi fun u => ?_
  refine keeps_bind (keeps_view? _) fun x => ?_
  split
  · exact keeps_bind drainImages_aside fun _ => keeps_schedulePoll _
  · exact keeps_pure _

theorem fetch_aside (f : Fetcher) : Keeps Aside (fetch f) :=
  keeps_fetch (fun _ _ => .of_reporting)
    (fun _ _ => .of_ui_eq rfl rfl (List.Subset.refl _)) f

/-- What waits for idle time in a tidy window is to measure rows. -/
theorem runErrands_aside : Keeps Aside runErrands := by
  have hupto (fuel : Nat) : Keeps Aside (runErrandsUpTo fuel) := by
    induction fuel with
    | zero => exact keeps_pure _
    | succ fuel ih =>
      intro s h
      rcases herrands : s.ui.kit.errands with - | ⟨e, es⟩
      · have hnone : s.ui.kit.takeErrand? = none := by simp [Toolkit.takeErrand?, herrands]
        simp only [next, runErrandsUpTo, exec_bind, exec_theKit, hnone, exec_pure]
        exact (Std.Refl.refl s : Aside s s) h
      · obtain ⟨v, hv⟩ := h.errands e (herrands ▸ List.mem_cons_self)
        have hsome : s.ui.kit.takeErrand? =
            some ({ s.ui.kit with errands := es }, .measure v) := by
          simp [Toolkit.takeErrand?, herrands, hv]
        have htaken : Aside s
            { s with ui := { s.ui with kit := { s.ui.kit with errands := es } } } := by
          refine .of_ui (fun h => ?_) fun _ => rfl
          exact h.thin h.stands h.roots (List.Sublist.refl _) rfl (fun _ => id)
            (herrands ▸ List.subset_cons_self _ _)
        have hrest : Keeps Aside (do measure v; runErrandsUpTo fuel) :=
          keeps_bind (keeps_measure v) fun _ => ih
        have hnext : next (runErrandsUpTo (fuel + 1)) s = next (do measure v; runErrandsUpTo fuel)
            { s with ui := { s.ui with kit := { s.ui.kit with errands := es } } } := by
          simp only [next, runErrandsUpTo, exec_bind, exec_theKit, hsome, exec_updateKit, perform]
        rw [hnext]
        exact IsTrans.trans _ _ _ htaken (hrest _) h
  exact keeps_bind keeps_theKit fun k => hupto _

end Session
end RemoteScreen
