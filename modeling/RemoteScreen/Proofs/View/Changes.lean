import RemoteScreen.Proofs.Session.Images
import RemoteScreen.View.Screen

/-! What the steps on views come down to. There are few ways in which they change a session, and a
relation that is kept by each of these is kept by all steps: here by mounting a view. -/
namespace RemoteScreen

/-- What the view of a renderable is called: by the id of the renderable, or by an id made up where
that is empty. -/
def Called (id name : String) : Prop := if id = "" then ∃ n : Nat, name = s!"uuid-{n}" else name = id

namespace Session

/-- A relation that is kept by every way in which steps on views other than the screen change a
session. -/
class WidgetChanges (R : Session Ui → Session Ui → Prop) extends IsPreorder (Session Ui) R where
  /-- What is known of the widgets of views. -/
  Own : Nat → Prop
  log : ∀ severity part message, Keeps R (log severity part message : Act Ui Unit)
  addRegion : ∀ url, Keeps R (addRegion url : Act Ui Nat)
  subscribe : ∀ n l, Keeps R (subscribe n l : Act Ui Unit)
  unsubscribe : ∀ n l, Keeps R (unsubscribe n l : Act Ui Unit)
  addWidget : ∀ (s : Session Ui) (x : Widget Command),
    R s { s with ui := { s.ui with kit := { s.ui.kit with widgets := s.ui.kit.widgets ++ [x] } } }
  own_create : ∀ parent kind aspects, Gives (create parent kind aspects) Own
  updateWidget : ∀ w f, Keeps R (updateKit fun k => k.update w f)
  destroyWidget : ∀ w, Own w → Keeps R (destroyWidget w)
  addErrand : ∀ (s : Session Ui) (w v : Nat), R s { s with ui := { s.ui with
    kit := { s.ui.kit with errands := s.ui.kit.errands ++ [⟨w, .measure v⟩] } } }
  addView : ∀ x : View, x.root = none → (∀ r, x.renderable = some r → Called r.id x.id) →
    Keeps R (addView x)
  updateView : ∀ v f, (∀ (x : View) (w : Nat), (f x).root = some w → x.root = some w ∨ Own w) →
    (∀ x, (f x).id = x.id ∧ (f x).renderable = x.renderable ∧ (f x).kind = x.kind) →
    Keeps R (updateView v f)
  /-- What is known of the widgets of views holds of those that are there. -/
  own_root : ∀ (s t : Session Ui) (v : Nat) (x : View), s.ui.views[v]? = some x →
    ((∀ w, x.root = some w → Own w) → R s t) → R s t
  named : ∀ n, Keeps R (updateUi fun u => { u with named := n })

/-- A relation that is kept by every way in which steps on views change a session. -/
class ViewChanges (R : Session Ui → Session Ui → Prop) extends WidgetChanges R where
  startPolling : ∀ (s : Session Ui) (w : Nat) (due : Int), R s { s with ui := { s.ui with
    kit := { s.ui.kit with
      alarms := s.ui.kit.alarms ++ [⟨s.ui.kit.nextAlarm, w, due, .poll⟩]
      nextAlarm := s.ui.kit.nextAlarm + 1 }
    screen := { s.ui.screen with pollAlarm := some s.ui.kit.nextAlarm } } }
  stopPolling : ∀ (s : Session Ui) (n : Nat), s.ui.screen.pollAlarm = some n →
    R s { s with ui := { s.ui with kit := s.ui.kit.cancel n } }
  forgetPolling : Keeps R (updateUi fun u =>
    { u with screen := { u.screen with pollAlarm := none } })

/-- Nothing need be known of a widget that is made. -/
theorem gives_created (parent : Nat) (kind : WidgetKind) (aspects : Aspects Command) :
    Gives (create parent kind aspects) fun _ => True := gives_true _

open WidgetChanges (Own)

attribute [simp] WidgetChanges.log WidgetChanges.addRegion WidgetChanges.subscribe
  WidgetChanges.unsubscribe WidgetChanges.updateWidget WidgetChanges.named ViewChanges.forgetPolling

section

variable {R : Session Ui → Session Ui → Prop} [IsPreorder (Session Ui) R] {α : Type}

/-! Reading -/

@[simp] theorem exec_theUi (s : Session Ui) : exec theUi s = (.ok s.ui, s) := rfl

@[simp] theorem exec_theKit (s : Session Ui) : exec theKit s = (.ok s.ui.kit, s) := rfl

@[simp] theorem exec_view? (v : Nat) (s : Session Ui) :
    exec (view? v) s = (.ok s.ui.views[v]?, s) := rfl

@[simp] theorem exec_updateUi (f : Ui → Ui) (s : Session Ui) :
    exec (updateUi f) s = (.ok ⟨⟩, { s with ui := f s.ui }) := rfl

@[simp] theorem exec_updateKit (f : Toolkit Command → Toolkit Command) (s : Session Ui) :
    exec (updateKit f) s = (.ok ⟨⟩, { s with ui := { s.ui with kit := f s.ui.kit } }) := rfl

@[simp] theorem keeps_theUi : Keeps R theUi := keeps_bind keeps_get fun _ => keeps_pure _

@[simp] theorem keeps_theKit : Keeps R theKit := keeps_bind keeps_theUi fun _ => keeps_pure _

@[simp] theorem keeps_view? (v : Nat) : Keeps R (view? v) :=
  keeps_bind keeps_theUi fun _ => keeps_pure _

@[simp] theorem keeps_region? (n : Nat) : Keeps R (region? n : Act Ui _) :=
  keeps_bind keeps_get fun _ => keeps_pure _

/-- A step that the toolkit refuses changes nothing. -/
theorem keeps_onKit {f : Toolkit Command → Option (Toolkit Command × α)}
    (h : ∀ (s : Session Ui) (k : Toolkit Command) (a : α), f s.ui.kit = some (k, a) →
      R s { s with ui := { s.ui with kit := k } }) : Keeps R (onKit f) := by
  intro s
  rcases hf : f s.ui.kit with - | ⟨k, a⟩
  · rw [next, onKit, exec_bind, exec_theKit]
    dsimp only
    rw [hf]
    exact Std.Refl.refl s
  · rw [next, onKit, exec_bind, exec_theKit]
    dsimp only
    rw [hf]
    exact h s k a hf

end

variable {R : Session Ui → Session Ui → Prop} [WidgetChanges R] {α : Type}

/-- A step that goes on with a view that has been read. -/
theorem keeps_view {v : Nat} {f : Option View → Act Ui α} (hnone : Keeps R (f none))
    (hsome : ∀ x : View, (∀ w, x.root = some w → Own R w) → Keeps R (f (some x))) :
    Keeps R (view? v >>= f) := by
  intro s
  rw [next, exec_bind, exec_view?]
  rcases hx : s.ui.views[v]? with - | x
  · exact hnone s
  · exact WidgetChanges.own_root s _ v x hx fun hown => hsome x hown s

/-! Widgets -/

/-- A change of one widget that only a destroyed one refuses. -/
theorem keeps_onKit_update {change : Toolkit Command → Option (Toolkit Command)}
    (h : ∀ k k', change k = some k' → ∃ w f, k' = k.update w f) :
    Keeps R (onKit fun k => (change k).map (·, ())) := by
  refine keeps_onKit fun s k _ hk => ?_
  obtain ⟨k', hchange, hpair⟩ := Option.map_eq_some_iff.1 hk
  obtain rfl : k' = k := (Prod.mk.inj hpair).1
  obtain ⟨w, f, rfl⟩ := h _ _ hchange
  exact WidgetChanges.updateWidget w f s

@[simp] theorem keeps_create (parent : Nat) (kind : WidgetKind) (aspects : Aspects Command) :
    Keeps R (create parent kind aspects) := by
  refine keeps_onKit fun s k w hcreate => ?_
  simp only [Toolkit.create?, Option.ite_none_right_eq_some, Option.some.injEq, Prod.mk.injEq]
    at hcreate
  obtain ⟨-, rfl, -⟩ := hcreate
  exact WidgetChanges.addWidget s _

@[simp] theorem keeps_configure (w : Nat) (aspects : Aspects Command) :
    Keeps R (configure w aspects) := by
  refine keeps_onKit_update fun k k' h => ?_
  exact ⟨_, _, (Option.some.inj (Option.ite_none_right_eq_some.1 h).2).symm⟩

@[simp] theorem keeps_pack (w : Nat) (packing : Attributes) : Keeps R (pack w packing) := by
  refine keeps_onKit_update fun k k' h => ?_
  exact ⟨_, _, (Option.some.inj (Option.ite_none_right_eq_some.1 h).2).symm⟩

@[simp] theorem keeps_addItem (canvas : Nat) (item : CanvasItem Command) :
    Keeps R (addItem canvas item) := by
  refine keeps_onKit fun s k _ hitem => ?_
  obtain rfl := (Prod.mk.inj (Option.some.inj hitem)).1
  exact WidgetChanges.updateWidget canvas _ s

@[simp] theorem keeps_measureLater (w v : Nat) : Keeps R (whenIdle w (.measure v)) := by
  refine keeps_onKit fun s k _ hidle => ?_
  simp only [Toolkit.whenIdle?, Option.map_eq_some_iff, Option.ite_none_right_eq_some,
    Option.some.injEq, Prod.mk.injEq] at hidle
  obtain ⟨k, ⟨-, rfl⟩, rfl, -⟩ := hidle
  exact WidgetChanges.addErrand s w v

/-- Through a widget that stands something can be set for later. -/
theorem exec_after {s : Session Ui} {w : Nat} (h : s.ui.kit.isAlive w = true) (delay : Int)
    (command : Command) : exec (after w delay command) s =
      (.ok s.ui.kit.nextAlarm, { s with ui := { s.ui with kit := { s.ui.kit with
        alarms := s.ui.kit.alarms ++ [⟨s.ui.kit.nextAlarm, w, s.ui.kit.now + delay, command⟩]
        nextAlarm := s.ui.kit.nextAlarm + 1 } } }) := by
  simp [after, onKit, Toolkit.after?, h]

theorem exec_after_destroyed {s : Session Ui} {w : Nat} (h : s.ui.kit.isAlive w = false)
    (delay : Int) (command : Command) :
    exec (after w delay command) s = (.error .destroyedWidget, s) := by
  simp [after, onKit, Toolkit.after?, h]

@[simp] theorem keeps_place (parent : Nat) (kind : WidgetKind) (aspects : Aspects Command)
    (packing : Attributes) : Keeps R (place parent kind aspects packing) := by
  simp [place]

@[simp] theorem keeps_setDisabled (w : Nat) (on : Bool) : Keeps R (setDisabled w on) :=
  WidgetChanges.updateWidget w _

/-! Views -/

/-- A change of a view that leaves its widget alone, and what it shows. -/
@[simp] theorem keeps_updateView (v : Nat) (f : View → View)
    (h : ∀ x, (f x).root = x.root ∧ (f x).id = x.id ∧ (f x).renderable = x.renderable ∧
      (f x).kind = x.kind) :
    Keeps R (updateView v f) :=
  WidgetChanges.updateView v f (fun x _ hw => .inl ((h x).1.symm.trans hw)) fun x => (h x).2

theorem keeps_setRoot (v : Nat) {w : Nat} (h : Own R w) : Keeps R (setRoot v w) :=
  WidgetChanges.updateView v _ (fun _ _ hw => .inr (Option.some.inj hw ▸ h)) fun _ => ⟨rfl, rfl, rfl⟩

theorem keeps_dropRoot (v : Nat) : Keeps R (updateView v fun x => { x with root := none }) :=
  WidgetChanges.updateView v _ (fun _ _ hw => by simp at hw) fun _ => ⟨rfl, rfl, rfl⟩

@[simp] theorem keeps_nameView (id : String) : Keeps R (nameView id) := by
  unfold nameView
  split <;> simp

theorem called_nameView (id : String) : Gives (nameView id) (Called id) := by
  by_cases hid : id = ""
  · subst hid
    exact gives_after fun u => gives_after fun _ => gives_pure ⟨u.named + 1, rfl⟩
  · rw [nameView, if_pos hid]
    refine gives_pure ?_
    rw [Called, if_neg hid]

/-- A view that shows a renderable is made with the id of the renderable. -/
theorem keeps_makeView (kind : ViewKind) (id name : String) (renderable : Option Renderable)
    (packing : Attributes) (h : ∀ r, renderable = some r → r.id = id) :
    Keeps R (makeView kind id name renderable packing) :=
  keeps_bind_gives (keeps_nameView id) (called_nameView id) fun _ hcalled =>
    WidgetChanges.addView _ rfl fun r hr => (h r hr).symm ▸ hcalled

@[simp] theorem keeps_viewOf (r : Renderable) (packing : Attributes) :
    Keeps R (viewOf r packing) := by
  refine keeps_makeView _ _ _ _ _ fun r' hr' => ?_
  obtain rfl := Option.some.inj hr'
  cases r <;> rfl

/-- The listeners of regions show them, and do nothing else. -/
@[simp] theorem keeps_showImage (n v : Nat) : Keeps R (showImage n v) := by
  refine keeps_bind (keeps_view? v) fun x => ?_
  refine keeps_bind (keeps_region? n) fun r => ?_
  split <;> simp

/-! Building the widgets of a view -/

variable (R) in
theorem own_create (parent : Nat) (kind : WidgetKind) (aspects : Aspects Command) :
    Gives (create parent kind aspects) (Own R) := WidgetChanges.own_create _ _ _

@[simp] theorem keeps_heading (parent : Nat) (title : String) : Keeps R (heading parent title) := by
  unfold heading
  split <;> simp

@[simp] theorem keeps_buildCard (v : Nat) (title body : String) (region parent : Nat) :
    Keeps R (buildCard v title body region parent) := by
  unfold buildCard
  repeat' with_reducible refine keeps_bind ?_ fun _ => ?_
  all_goals simp

theorem own_buildCard (v : Nat) (title body : String) (region parent : Nat) :
    Gives (buildCard v title body region parent) (Own R) := by
  refine gives_bind (own_create R _ _ _) fun frame h => ?_
  repeat' with_reducible refine gives_after fun _ => ?_
  exact gives_pure h

@[simp] theorem keeps_buildStat (label value : String) (parent : Nat) :
    Keeps R (buildStat label value parent) := by
  unfold buildStat
  repeat' with_reducible refine keeps_bind ?_ fun _ => ?_
  all_goals simp

theorem own_buildStat (label value : String) (parent : Nat) :
    Gives (buildStat label value parent) (Own R) := by
  refine gives_bind (own_create R _ _ _) fun frame h => ?_
  repeat' with_reducible refine gives_after fun _ => ?_
  exact gives_pure h

@[simp] theorem keeps_buildAction (r : Renderable) (title : String) (parent : Nat) :
    Keeps R (buildAction r title parent) := keeps_create _ _ _

@[simp] theorem keeps_buildUnknown (message : String) (parent : Nat) :
    Keeps R (buildUnknown message parent) := keeps_create _ _ _

@[simp] theorem keeps_syncNavigation (v : Nat) : Keeps R (syncNavigation v) := by
  refine keeps_bind (keeps_view? v) fun x => ?_
  split
  · split <;> simp
  · exact keeps_pure _

@[simp] theorem keeps_buildCarousel (v : Nat) (title : String) (height : Int) (parent : Nat) :
    Keeps R (buildCarousel v title height parent) := by
  unfold buildCarousel
  repeat' with_reducible refine keeps_bind ?_ fun _ => ?_
  all_goals simp

theorem own_buildCarousel (v : Nat) (title : String) (height : Int) (parent : Nat) :
    Gives (buildCarousel v title height parent) fun a => Own R a.1 := by
  refine gives_bind (own_create R _ _ _) fun frame h => ?_
  repeat' with_reducible refine gives_after fun _ => ?_
  exact gives_pure h

@[simp] theorem keeps_buildRow (v : Nat) (title : String) (parent : Nat) :
    Keeps R (buildRow v title parent) := by
  unfold buildRow
  repeat' with_reducible refine keeps_bind ?_ fun _ => ?_
  all_goals simp

theorem own_buildRow (v : Nat) (title : String) (parent : Nat) :
    Gives (buildRow v title parent) fun a => Own R a.1 := by
  refine gives_bind (own_create R _ _ _) fun frame h => ?_
  repeat' with_reducible refine gives_after fun _ => ?_
  exact gives_pure h

@[simp] theorem keeps_addHolder (canvas : Nat) (r : Renderable) : Keeps R (addHolder canvas r) := by
  simp [addHolder]

@[simp] theorem keeps_addSlot (v canvas holder child : Nat) (x width : Int) :
    Keeps R (addSlot v canvas holder child x width) := by
  refine keeps_bind (keeps_updateView _ _ fun _ => ⟨rfl, rfl, rfl, rfl⟩) fun _ => ?_
  exact keeps_bind (keeps_addItem _ _) fun _ => keeps_updateView _ _ fun _ => ⟨rfl, rfl, rfl, rfl⟩

/-! Mounting -/

/-- A view stands once its widget is built. -/
theorem keeps_build {m : Act Ui Nat} (v : Nat) (hm : Keeps R m) (hown : Gives m (Own R)) :
    Keeps R (m >>= setRoot v) := keeps_bind_gives hm hown fun _ => keeps_setRoot v

mutual

@[simp] theorem keeps_mountShown : ∀ (r : Renderable) (v parent : Nat),
    Keeps R (mountShown r v parent)
  | .card .., v, parent => by
    rw [mountShown]
    exact keeps_build v (keeps_buildCard _ _ _ _ _) (own_buildCard _ _ _ _ _)
  | .stat .., v, parent => by
    rw [mountShown]
    exact keeps_build v (keeps_buildStat _ _ _) (own_buildStat _ _ _)
  | .action .., v, parent => by
    rw [mountShown]
    exact keeps_build v (keeps_buildAction _ _ _) (own_create R _ _ _)
  | .unknown .., v, parent => by
    rw [mountShown]
    exact keeps_build v (keeps_buildUnknown _ _) (own_create R _ _ _)
  | .plain _, v, parent => by
    rw [mountShown]
    exact keeps_build v (keeps_buildUnknown _ _) (own_create R _ _ _)
  | .carousel _ title pages height, v, parent => by
    rw [mountShown]
    refine keeps_bind_gives (keeps_buildCarousel _ _ _ _) (own_buildCarousel (R := R) _ _ _ _)
      fun a h => ?_
    exact keeps_mountFirst pages v a.1 a.2 h
  | .hscroll _ title slots spacing, v, parent => by
    rw [mountShown]
    refine keeps_bind_gives (keeps_buildRow _ _ _) (own_buildRow (R := R) _ _ _) fun a h => ?_
    exact keeps_bind (keeps_mountSlots slots v a.2 spacing 0) fun _ => keeps_setRoot v h

theorem keeps_mountFirst : ∀ (rs : List Renderable) (v frame host : Nat), Own R frame →
    Keeps R (mountFirst rs v frame host)
  | [], v, frame, host, h => by
    rw [mountFirst]
    exact keeps_bind (keeps_syncNavigation v) fun _ => keeps_setRoot v h
  | r :: _, v, frame, host, h => by
    rw [mountFirst]
    refine keeps_bind (keeps_viewOf _ _) fun child => ?_
    refine keeps_bind (keeps_updateView _ _ fun _ => ⟨rfl, rfl, rfl, rfl⟩) fun _ => ?_
    refine keeps_bind (keeps_syncNavigation _) fun _ => ?_
    exact keeps_bind (keeps_setRoot v h) fun _ => keeps_mountShown r child host

theorem keeps_mountSlots : ∀ (ss : List (Slot Renderable)) (v canvas : Nat) (spacing x : Int),
    Keeps R (mountSlots ss v canvas spacing x)
  | [], v, canvas, spacing, x => by
    rw [mountSlots]
    exact keeps_pure _
  | ⟨width, r⟩ :: ss, v, canvas, spacing, x => by
    rw [mountSlots]
    refine keeps_bind (keeps_addHolder _ _) fun a => ?_
    refine keeps_bind (keeps_mountShown r a.2 a.1) fun _ => ?_
    exact keeps_bind (keeps_addSlot _ _ _ _ _ _) fun _ => keeps_mountSlots ss v canvas spacing _

end

@[simp] theorem keeps_shownBy (x : View) : Keeps R (shownBy x) := by
  unfold shownBy
  split
  · exact keeps_pure _
  · split <;> simp

@[simp] theorem keeps_depth : Keeps R depth := by simp [depth]

@[simp] theorem keeps_childParent (v : Nat) : Keeps R (childParent v) := by
  refine keeps_bind (keeps_view? v) fun x => ?_
  split
  · exact keeps_fail _
  · split <;> simp

section

variable {R : Session Ui → Session Ui → Prop} [ViewChanges R]

@[simp] theorem keeps_schedulePoll (w : Nat) : Keeps R (schedulePoll w) := by
  intro s
  rw [next, schedulePoll, exec_bind, exec_get]
  dsimp only
  split
  · rw [exec_bind, exec_theUi]
    cases halive : s.ui.kit.isAlive w with
    | false =>
      simp only [exec_bind, exec_after_destroyed halive]
      exact Std.Refl.refl s
    | true =>
      simp only [exec_bind, exec_after halive]
      exact ViewChanges.startPolling s w _
  · exact Std.Refl.refl s

@[simp] theorem keeps_buildGroup (kind : ViewKind) (parent : Nat) :
    Keeps R (buildGroup kind parent) := by
  unfold buildGroup
  split <;> simp

theorem own_buildGroup (kind : ViewKind) (parent : Nat) :
    Gives (buildGroup kind parent) (Own R) := by
  unfold buildGroup
  split
  · refine gives_bind (own_create R _ _ _) fun frame h => ?_
    exact gives_after fun _ => gives_pure h
  · exact own_create R _ _ _

theorem keeps_mountDeep (fuel : Nat) : ∀ v parent, Keeps R (mountDeep fuel v parent) := by
  induction fuel with
  | zero => exact fun _ _ => keeps_pure _
  | succ fuel ih =>
    intro v parent
    refine keeps_bind (keeps_view? v) fun x => ?_
    split
    · exact keeps_pure _
    · split
      · refine keeps_bind_gives (keeps_buildGroup _ _) (own_buildGroup (R := R) _ _)
          fun root h => ?_
        refine keeps_bind (keeps_setRoot v h) fun _ => ?_
        refine keeps_bind (keeps_forIn fun c b => ?_) fun _ => keeps_pure _
        refine keeps_bind (keeps_view? c) fun y => ?_
        split
        · exact keeps_bind (ih _ _) fun _ => keeps_pure _
        · exact keeps_pure _
      · exact keeps_bind (keeps_shownBy _) fun r => keeps_mountShown r v parent

@[simp] theorem keeps_mount (v parent : Nat) : Keeps R (mount v parent) :=
  keeps_bind keeps_depth fun _ => keeps_mountDeep _ _ _

end

end Session
end RemoteScreen
