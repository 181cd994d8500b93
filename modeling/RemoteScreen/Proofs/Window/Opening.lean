import RemoteScreen.Proofs.View.Screen
import RemoteScreen.Proofs.Window.Tidy

/-! Opening a window: when it stands nothing has been fetched, and its screen renders for the loader
of the window. -/
namespace RemoteScreen
namespace Session

variable {s t : Session Ui} {u : Ui}

/-- A window with nothing in it. -/
structure Blank (u : Ui) : Prop where
  stands : u.kit.isAlive window = true
  alarms : u.kit.alarms = []
  errands : u.kit.errands = []
  views : u.views = []
  screen : u.screen = {}
  application : u.application = {}

theorem Blank.tidy (h : Blank u) : Tidy u where
  stands := h.stands
  roots := by simp [h.views]
  numbers := by simp [h.alarms]
  distinct := by simp [h.alarms]
  alarms := by simp [h.alarms]
  polling := by simp [h.screen]
  errands := by simp [h.errands]

/-- A window that has fetched nothing yet. -/
structure Unfetched (s : Session Ui) : Prop where
  tidy : Tidy s.ui
  collecting : collecting s.ui.kit = []
  loading : s.ui.application.loading = false
  workers : s.ui.application.workers = 0
  results : s.ui.application.results = []
  last : s.ui.application.last = none
  response : s.ui.screen.response = none
  paced : s.telemetry.Paced

theorem Blank.unfetched (h : Blank s.ui) (hpaced : s.telemetry.Paced) : Unfetched s where
  tidy := h.tidy
  collecting := by simp [Session.collecting, h.alarms]
  loading := by simp [h.application]
  workers := by simp [h.application]
  results := by simp [h.application]
  last := by simp [h.application]
  response := by simp [h.screen]
  paced := hpaced

theorem Unfetched.aside (h : Unfetched s) (k : Aside s t) : Unfetched t :=
  have k := k h.tidy
  { tidy := k.tidy
    collecting := k.collecting.trans h.collecting
    loading := k.loading.trans h.loading
    workers := k.workers.trans h.workers
    results := k.results.trans h.results
    last := k.last.trans h.last
    response := k.response.trans h.response
    paced := h.paced.mono k.readings }

/-! The parts of a window -/

theorem updateApplication_aside {f : Application → Application}
    (h : ∀ a, (f a).loading = a.loading ∧ (f a).workers = a.workers ∧
      (f a).results = a.results ∧ (f a).last = a.last) : Keeps Aside (updateApplication f) := by
  intro s htidy
  obtain ⟨hloading, hworkers, hresults, hlast⟩ := h s.ui.application
  exact ⟨{ htidy with }, rfl, hloading, hworkers, hresults, hlast, rfl, rfl, rfl,
    List.Subset.refl _⟩

theorem applyTheme_aside (setting : Value) : Keeps Aside (applyTheme setting) := by
  have hstyles (b : StyleBook) : Keeps Aside (updateKit fun k => { k with styles := b }) :=
    fun s => .of_ui (fun h => { h with }) fun _ => rfl
  refine keeps_bind keeps_theKit fun k => ?_
  dsimp only
  split
  · exact hstyles _
  · exact keeps_bind (WidgetChanges.log _ _ _) fun _ => hstyles _

theorem bind_aside (w : Nat) (event : String) (command : Command) :
    Keeps Aside (bind w event command) := WidgetChanges.updateWidget w _

theorem buildContents_aside (scrollable : Bool) : Keeps Aside (buildContents scrollable) := by
  have hcanvas (w : Nat) : Keeps Aside (updateApplication fun a => { a with canvas := some w }) :=
    updateApplication_aside fun _ => ⟨rfl, rfl, rfl, rfl⟩
  have hwheel : Keeps Aside (forM wheelEvents fun e => bind window (anywhere e.1) e.2) :=
    keeps_forM fun _ => bind_aside _ _ _
  unfold buildContents buildScrolled
  split
  · repeat' with_reducible refine keeps_bind ?_ fun _ => ?_
    all_goals simp [hcanvas, bind_aside, hwheel]
  · exact keeps_place _ _ _ _

/-- A screen is made with the renderer it is given. -/
theorem makeScreen_unfetched (h : Unfetched s) (id : String) (pollMs : Int) {r : Renderer}
    (hok : exec (makeScreen id pollMs r) s = (.ok ⟨⟩, t)) :
    Unfetched t ∧ t.ui.screen.renderer = r := by
  have hmake : Keeps Aside (makeView .screen id "" none View.pagePacking) :=
    keeps_makeView _ _ _ _ _ fun _ hr => nomatch hr
  obtain ⟨v, s₁, hview, hok⟩ := hmake.bind_eq_ok hok
  have h₁ := h.aside hview
  obtain rfl := (Prod.mk.inj hok).2
  refine ⟨{ h₁ with tidy := ?_, response := rfl }, rfl⟩
  exact h₁.tidy.thin h₁.tidy.stands h₁.tidy.roots (List.Sublist.refl _) rfl (by simp)
    (List.Subset.refl _)

/-- Where two steps give a value and the first one goes on beside the fetches, so far nothing has
been fetched and the screen renders as before. -/
theorem Unfetched.bind_eq_ok {α β : Type} {m : Act Ui α} {f : α → Act Ui β} {b : β}
    (h : Unfetched s) (hm : Keeps Aside m) (hok : exec (m >>= f) s = (.ok b, t)) :
    ∃ a u, Unfetched u ∧ u.ui.screen.renderer = s.ui.screen.renderer ∧
      exec (f a) u = (.ok b, t) := by
  obtain ⟨a, u, hu, hrest⟩ := hm.bind_eq_ok hok
  exact ⟨a, u, h.aside hu, (hu h.tidy).renderer, hrest⟩

/-- A window that has been opened has fetched nothing, and renders for a loader. -/
theorem openApplication_unfetched (hblank : Blank s.ui) (hpaced : s.telemetry.Paced) {o : Opening}
    (hok : exec (openApplication o) s = (.ok ⟨⟩, t)) :
    Unfetched t ∧ Sound t.ui.screen.renderer := by
  have hloader (l : Loader) : Keeps Aside
      (modify fun s => { s with loader := some l } : Act Ui PUnit) :=
    fun s => .of_ui_eq rfl rfl (List.Subset.refl _)
  have h₀ := hblank.unfetched hpaced
  obtain ⟨-, s₁, h₁, -, hok⟩ := h₀.bind_eq_ok (applyTheme_aside _) hok
  obtain ⟨-, s₂, h₂, -, hok⟩ := h₁.bind_eq_ok (keeps_configure _ _) hok
  obtain ⟨kit, s₃, h₃, -, hok⟩ := h₂.bind_eq_ok keeps_theKit hok
  obtain ⟨contents, s₄, h₄, -, hok⟩ := h₃.bind_eq_ok (buildContents_aside _) hok
  obtain ⟨loader, s₅, h₅, -, hok⟩ := h₄.bind_eq_ok (keeps_ofExcept _) hok
  obtain ⟨fetcher, s₆, h₆, -, hok⟩ := h₅.bind_eq_ok (keeps_ofExcept _) hok
  obtain ⟨-, s₇, h₇, -, hok⟩ := h₆.bind_eq_ok (hloader _) hok
  obtain ⟨pollMs, s₈, h₈, -, hok⟩ := h₇.bind_eq_ok (keeps_ofExcept _) hok
  -- From here on the screen is there.
  obtain ⟨⟨⟩, s₉, hscreen, hok⟩ := exec_bind_eq_ok hok
  obtain ⟨h₉, hrenderer⟩ := makeScreen_unfetched h₈ _ _ hscreen
  obtain ⟨-, s₁₀, h₁₀, r₁₀, hok⟩ := h₉.bind_eq_ok (updateApplication_aside fun _ => by simp) hok
  obtain ⟨ui, s₁₁, h₁₁, r₁₁, hok⟩ := h₁₀.bind_eq_ok keeps_theUi hok
  obtain ⟨-, s₁₂, h₁₂, r₁₂, hok⟩ := h₁₁.bind_eq_ok (keeps_mount _ _) hok
  obtain ⟨-, s₁₃, h₁₃, r₁₃, hok⟩ := h₁₂.bind_eq_ok (keeps_layout _) hok
  obtain ⟨-, s₁₄, h₁₄, r₁₄, hok⟩ := h₁₃.bind_eq_ok (bind_aside _ _ _) hok
  have hlast := bind_aside window "protocol WM_DELETE_WINDOW" .close s₁₄
  rw [next, hok] at hlast
  refine ⟨h₁₄.aside hlast, ?_⟩
  rw [(hlast h₁₄.tidy).renderer, r₁₄, r₁₃, r₁₂, r₁₁, r₁₀, hrenderer]
  exact ⟨rfl, Strategy.placeholder_reliable⟩

end Session
end RemoteScreen
