import RemoteScreen.Proofs.View.Changes

/-! Views leave images alone. Mounting, laying out and destroying views change widgets and views,
and who listens to regions, but neither the regions themselves nor what the screen has rendered. -/
namespace RemoteScreen
namespace Session

/-- What the screen has rendered, and how it renders, stays. -/
structure ScreenKept (s t : Session Ui) : Prop where
  telemetry : t.telemetry = s.telemetry
  rendered : t.ui.screen.rendered = s.ui.screen.rendered
  renderer : t.ui.screen.renderer = s.ui.screen.renderer

instance : IsPreorder (Session Ui) ScreenKept where
  refl _ := ⟨rfl, rfl, rfl⟩
  trans _ _ _ h k := ⟨k.telemetry.trans h.telemetry, k.rendered.trans h.rendered,
    k.renderer.trans h.renderer⟩

structure ViewsOnly (s t : Session Ui) : Prop extends ImagesKept s t, ScreenKept s t

instance : IsPreorder (Session Ui) ViewsOnly where
  refl s := ⟨Std.Refl.refl s, Std.Refl.refl s⟩
  trans s t u h k := ⟨IsTrans.trans s t u h.toImagesKept k.toImagesKept,
    IsTrans.trans s t u h.toScreenKept k.toScreenKept⟩

/-- A change of what is on screen that leaves the tree of the screen as it is. -/
theorem ViewsOnly.of_ui (s : Session Ui) {u : Ui}
    (hrendered : u.screen.rendered = s.ui.screen.rendered)
    (hrenderer : u.screen.renderer = s.ui.screen.renderer) : ViewsOnly s { s with ui := u } :=
  ⟨⟨rfl, rfl, rfl, .of_regions rfl⟩, ⟨rfl, hrendered, hrenderer⟩⟩

instance : ViewChanges ViewsOnly where
  Own _ := True
  log _ _ _ _ := ⟨⟨rfl, rfl, rfl, .of_regions rfl⟩, ⟨rfl, rfl, rfl⟩⟩
  addRegion url s := ⟨addRegion_imagesKept url s, ⟨rfl, rfl, rfl⟩⟩
  subscribe n l s := ⟨subscribe_imagesKept n l s, ⟨rfl, rfl, rfl⟩⟩
  unsubscribe n l s := ⟨unsubscribe_imagesKept n l s, ⟨rfl, rfl, rfl⟩⟩
  addWidget s _ := .of_ui s rfl rfl
  own_create := gives_created
  updateWidget _ _ s := .of_ui s rfl rfl
  destroyWidget _ _ s := .of_ui s rfl rfl
  addErrand s _ _ := .of_ui s rfl rfl
  addView _ _ _ s := .of_ui s rfl rfl
  updateView _ _ _ _ s := .of_ui s rfl rfl
  own_root _ _ _ _ _ h := h fun _ _ => trivial
  named _ s := .of_ui s rfl rfl
  startPolling s _ _ := .of_ui s rfl rfl
  stopPolling s _ _ := .of_ui s rfl rfl
  forgetPolling s := .of_ui s rfl rfl

end Session
end RemoteScreen
