import RemoteScreen.Proofs.View.Changes

/-! What the life of views comes down to: taking views in, destroying them, turning pages, putting
new views in place of old ones, and measuring rows. -/
namespace RemoteScreen
namespace Session

open WidgetChanges (Own)

variable {R : Session Ui → Session Ui → Prop} {α : Type}

theorem keeps_layoutDeep [WidgetChanges R] (fuel : Nat) : ∀ v, Keeps R (layoutDeep fuel v) := by
  induction fuel with
  | zero => exact fun _ => keeps_pure _
  | succ fuel ih =>
    intro v
    refine keeps_bind (keeps_view? v) fun x => ?_
    split
    · split
      · refine keeps_bind (keeps_pack _ _) fun _ => ?_
        refine keeps_bind (keeps_forM ih) fun _ => ?_
        split <;> simp
      · exact keeps_pure _
    · exact keeps_pure _

@[simp] theorem keeps_layout [WidgetChanges R] (v : Nat) : Keeps R (layout v) :=
  keeps_bind keeps_depth fun _ => keeps_layoutDeep _ _

variable [ViewChanges R]

@[simp] theorem keeps_addComponent (v child : Nat) : Keeps R (addComponent v child) := by
  refine keeps_bind (keeps_updateView _ _ fun _ => ⟨rfl, rfl, rfl, rfl⟩) fun _ => ?_
  refine keeps_bind (keeps_view? v) fun x => ?_
  split
  · refine keeps_bind (keeps_childParent v) fun w => ?_
    exact keeps_bind (keeps_mount _ _) fun _ => keeps_layout _
  · exact keeps_pure _

/-! The end of views -/

/-- Something that is done after the alarm for images is put off. -/
theorem keeps_stopPolling {s : Session Ui} {n : Nat} {m : Act Ui α}
    (hn : s.ui.screen.pollAlarm = some n) (hm : Keeps R m) :
    R s (next (updateKit (fun k => k.cancel n) >>= fun _ => m) s) :=
  IsTrans.trans _ _ _ (ViewChanges.stopPolling s n hn) (hm _)

@[simp] theorem keeps_retire (v : Nat) (x : View) : Keeps R (retire v x) := by
  have hparts : Keeps R (updateView v fun x => { x with parts := .none }) :=
    keeps_updateView v _ fun _ => ⟨rfl, rfl, rfl, rfl⟩
  unfold retire
  split
  · split <;> simp
  · have hforget : Keeps R (do
        updateUi fun u => { u with screen := { u.screen with pollAlarm := none } }
        updateView v fun x => { x with parts := .none }) :=
      keeps_bind ViewChanges.forgetPolling fun _ => hparts
    intro s
    rw [next, exec_bind, exec_theUi]
    dsimp only
    split
    · exact keeps_stopPolling ‹_› hforget
    · exact hforget s
  · exact hparts

theorem keeps_destroyDeep (fuel : Nat) : ∀ v, Keeps R (destroyDeep fuel v) := by
  induction fuel with
  | zero => exact fun _ => keeps_pure _
  | succ fuel ih =>
    intro v
    refine keeps_view (keeps_pure _) fun x hown => ?_
    refine keeps_bind (keeps_retire _ _) fun _ => ?_
    refine keeps_bind (keeps_forM ih) fun _ => ?_
    refine keeps_bind (keeps_updateView _ _ fun _ => ⟨rfl, rfl, rfl, rfl⟩) fun _ => ?_
    split
    · exact keeps_bind (WidgetChanges.destroyWidget _ (hown _ ‹_›)) fun _ => keeps_dropRoot v
    · exact keeps_pure _

@[simp] theorem keeps_destroy (v : Nat) : Keeps R (destroy v) :=
  keeps_bind keeps_depth fun _ => keeps_destroyDeep _ _

@[simp] theorem keeps_clearComponents (v : Nat) : Keeps R (clearComponents v) := by
  refine keeps_bind (keeps_view? v) fun x => ?_
  split
  · refine keeps_bind (keeps_forM keeps_destroy) fun _ => ?_
    exact keeps_updateView _ _ fun _ => ⟨rfl, rfl, rfl, rfl⟩
  · exact keeps_pure _

/-! Pages -/

@[simp] theorem keeps_showPage (v : Nat) (index : Int) : Keeps R (showPage v index) := by
  refine keeps_bind (keeps_view? v) fun x => ?_
  split
  · exact keeps_pure _
  · dsimp only
    split
    · exact keeps_pure _
    · repeat' with_reducible refine keeps_bind ?_ fun _ => ?_
      all_goals simp

@[simp] theorem keeps_turnPage (v : Nat) (forward : Bool) : Keeps R (turnPage v forward) := by
  refine keeps_bind (keeps_view? v) fun x => ?_
  split <;> simp

@[simp] theorem keeps_replaceViews (rendered : List Renderable) :
    Keeps R (replaceViews rendered) := by
  refine keeps_bind keeps_theUi fun u => ?_
  refine keeps_bind (keeps_clearComponents _) fun _ => ?_
  refine keeps_bind (keeps_forIn fun r b => ?_) fun _ => keeps_pure _
  refine keeps_bind (keeps_viewOf _ _) fun child => ?_
  exact keeps_bind (keeps_addComponent _ _) fun _ => keeps_pure _

/-! Rows -/

@[simp] theorem keeps_measure (v : Nat) : Keeps R (measure v) := by
  refine keeps_bind (keeps_view? v) fun x => ?_
  split
  · split
    · exact keeps_bind keeps_theKit fun _ => keeps_configure _ _
    · exact keeps_pure _
  · exact keeps_pure _

end Session
end RemoteScreen
