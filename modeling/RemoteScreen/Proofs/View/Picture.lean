import RemoteScreen.Proofs.View.Display

/-! The picture of a card. Whatever is done to views, and whenever the image of a card comes or fails to
come, the label of a mounted card view shows what has become of the region of the card. -/
namespace RemoteScreen
namespace Session

open Render

variable {s t : Session Ui} {base : Nat}

/-- A label shows what has become of a region. -/
def Depicts (as : Aspects Command) (r : Region Nat) : Prop :=
  match r.state with
  | .loading => as.lookup "image" = some (.text "") ∧
      as.lookup "text" = some (.text Style.loadingText)
  | .loaded => as.lookup "image" = some (.photo r.image) ∧ as.lookup "text" = some (.text "")
  | .failed => as.lookup "image" = some (.text "") ∧
      as.lookup "text" = some (.text Style.placeholderGlyph)

/-- All regions that have been loaded have an image. -/
def Sighted (s : Session Ui) : Prop := ∀ r ∈ s.regions, r.state = .loaded → r.image.isNull = false

theorem depicts_of_wears {as : Aspects Command} {r : Region Nat} (h : Wears as r.look)
    (hsighted : r.state = .loaded → r.image.isNull = false) : Depicts as r := by
  unfold Depicts
  unfold Region.look at h
  cases hstate : r.state with
  | loading =>
    simp only [hstate] at h ⊢
    exact ⟨h _ List.mem_cons_self, h _ (List.mem_cons_of_mem _ List.mem_cons_self)⟩
  | loaded =>
    simp only [hstate, hsighted hstate, Bool.false_eq_true, if_false] at h ⊢
    exact ⟨h _ List.mem_cons_self, h _ (List.mem_cons_of_mem _ List.mem_cons_self)⟩
  | failed =>
    simp only [hstate] at h ⊢
    exact ⟨h _ List.mem_cons_self, h _ (List.mem_cons_of_mem _ List.mem_cons_self)⟩

/-- A label that shows a region that has come to its end does not say that the image is loading. -/
theorem Depicts.ne_loadingText {as : Aspects Command} {r : Region Nat} (h : Depicts as r)
    (hterminal : r.isTerminal = true) : as.lookup "text" ≠ some (.text Style.loadingText) := by
  have hempty : ("" : String) ≠ Style.loadingText := by decide
  have hglyph : Style.placeholderGlyph ≠ Style.loadingText := by decide
  unfold Depicts at h
  cases hstate : r.state with
  | loading => simp [Region.isTerminal, hstate] at hterminal
  | loaded =>
    simp only [hstate] at h
    rw [h.2]
    simpa [Aspect.text] using hempty
  | failed =>
    simp only [hstate] at h
    rw [h.2]
    simpa [Aspect.text] using hglyph

/-! Regions that have an image -/

theorem Sighted.congr (h : Sighted s) (hregions : t.regions = s.regions) : Sighted t :=
  fun r hr => h r (hregions ▸ hr)

/-- A change of the listeners of a region is no change of its image. -/
theorem Sighted.withRegion (h : Sighted s) (n : Nat) {f : Region Nat → Region Nat}
    (hstate : ∀ r, (f r).state = r.state) (himage : ∀ r, (f r).image = r.image) :
    Sighted (s.withRegion n f) := by
  intro r hr hloaded
  obtain ⟨m, hm⟩ := List.mem_iff_getElem?.1 hr
  rcases withRegion_cases hm with ⟨-, r₀, hr₀, rfl⟩ | ⟨-, hold⟩
  · rw [himage]
    exact h r₀ (List.mem_of_getElem? hr₀) ((hstate r₀).symm.trans hloaded)
  · exact h r (List.mem_of_getElem? hold) hloaded

theorem Sighted.sprouts (h : Sighted s) (k : Sprouts s t) : Sighted t := by
  obtain ⟨new, hregions, hnew⟩ := k.regions
  intro r hr hloaded
  rw [hregions] at hr
  rcases List.mem_append.1 hr with hold | hmem
  · exact h r hold hloaded
  · exact absurd hloaded (hnew r hmem).2

/-- A region comes to an end in which it has an image or is not loaded. -/
theorem Sighted.settled (h : Sighted s) (n : Nat) {change : Region Nat → Option (Region Nat)}
    (hchange : ∀ r r', change r = some r' → r'.state = .loaded → r'.image.isNull = false)
    (hregions : t.regions = (s.settled n change).regions) : Sighted t := by
  refine Sighted.congr (s := s.settled n change) ?_ hregions
  unfold Session.settled
  split
  · exact h
  next r hr =>
    obtain ⟨r₀, hr₀, hend⟩ := Option.bind_eq_some_iff.1 hr
    intro r' hr' hloaded
    rcases List.mem_or_eq_of_mem_set hr' with hold | rfl
    · exact h r' hold hloaded
    · exact hchange r₀ r' hend hloaded

instance : ViewChanges (Stays Sighted) where
  Own _ := True
  log _ _ _ _ h := h.congr rfl
  addRegion url s h := by
    intro r hr
    rcases List.mem_append.1 hr with hold | hnew
    · exact h r hold
    · rw [List.mem_singleton.1 hnew]
      exact fun hloaded => by cases hloaded
  subscribe n l s h := h.withRegion n (fun _ => rfl) fun _ => rfl
  unsubscribe n l s h := h.withRegion n (fun _ => rfl) fun _ => rfl
  addWidget _ _ h := h.congr rfl
  own_create := gives_created
  updateWidget _ _ _ h := h.congr rfl
  destroyWidget _ _ _ h := h.congr rfl
  addErrand _ _ _ h := h.congr rfl
  addView _ _ _ _ h := h.congr rfl
  updateView _ _ _ _ _ h := h.congr rfl
  own_root _ _ _ _ _ h := h fun _ _ => trivial
  named _ _ h := h.congr rfl
  startPolling _ _ _ h := h.congr rfl
  stopPolling _ _ _ h := h.congr rfl
  forgetPolling _ h := h.congr rfl

theorem showResponse_sighted (response : Response) :
    Keeps (Stays Sighted) (showResponse response) := by
  have hdrop : Keeps (Stays Sighted) dropQueuedImages := by
    intro s h
    obtain ⟨a, -, l, j, ht⟩ := (dropQueuedImages_leads s).next
    rw [ht]
    exact h.congr rfl
  refine keeps_showResponse hdrop (fun s h => h.congr rfl) (fun f s h => h.congr rfl) ?_ response
  exact fun r ds pass =>
    (Renderer.render_bears r ds pass).keeps.mono fun _ _ k h => h.sprouts k

/-! Runs -/

/-- What may be done to views when every image that comes is one. -/
def DisplayStep.Pictured (base : Nat) (s : Session Ui) (step : DisplayStep) : Prop :=
  step.Permitted base s ∧ ∀ n image, step = .resolve n image → image.isNull = false

/-- Views are in their places and loaded regions have their images; nothing is asked of what views own. -/
def Depicting (base : Nat) (s : Session Ui) : Prop :=
  OnDisplay base (fun _ => False) (fun _ => True) s ∧ Sighted s

theorem Depicting.step (h : Depicting base s) {step : DisplayStep} (hstep : step.Pictured base s) :
    Depicting base (next step.act s) := by
  obtain ⟨hdisplay, hsighted⟩ := h
  obtain ⟨hperm, himage⟩ := hstep
  refine ⟨(hdisplay.step hperm (step.sound_anywhere s)).1, ?_⟩
  cases step with
  | region url =>
    rw [DisplayStep.act, next_discard]
    exact WidgetChanges.addRegion (R := Stays Sighted) url s hsighted
  | make r packing =>
    rw [DisplayStep.act, next_discard]
    exact keeps_viewOf (R := Stays Sighted) r packing s hsighted
  | mount v q => exact keeps_mount (R := Stays Sighted) v q s hsighted
  | page v index => exact keeps_showPage (R := Stays Sighted) v index s hsighted
  | turn v forward => exact keeps_turnPage (R := Stays Sighted) v forward s hsighted
  | resolve n image =>
    rw [DisplayStep.act, next_discard]
    obtain ⟨_, -, -, -, -, -, hregions⟩ :=
      (hdisplay.settle n fun _ _ => listeners_resolve? image).next
    refine hsighted.settled n (fun r r' hr' _ => ?_) hregions
    unfold Region.resolve? at hr'
    split at hr'
    · cases hr'
    · rw [← Option.some.inj hr']
      exact himage n image rfl
  | fail n =>
    rw [DisplayStep.act, next_discard]
    obtain ⟨_, -, -, -, -, -, hregions⟩ := (hdisplay.settle n fun _ _ => listeners_fail?).next
    refine hsighted.settled n (fun r r' hr' hloaded => ?_) hregions
    unfold Region.fail? at hr'
    split at hr'
    · cases hr'
    · rw [← Option.some.inj hr'] at hloaded
      cases hloaded
  | response response =>
    rw [DisplayStep.act, next_discard]
    exact showResponse_sighted response s hsighted
  | destroy v => exact keeps_destroy (R := Stays Sighted) v s hsighted

/-- The picture of a card matches its region. Whatever views are made, mounted, turned to other pages,
replaced and destroyed, and whichever regions come to their end in between, the label of every mounted
card view stands and shows what has become of its region, and if that has come to its end the label
does not say that the image is loading. -/
theorem card_depicts_region {s₀ : Session Ui} (h₀ : Idle s₀) (hsighted : Sighted s₀)
    {steps : List DisplayStep}
    (hsteps : Along (DisplayStep.Pictured s₀.ui.kit.widgets.length) s₀ steps) {v : Nat} {x : View}
    (hx : (runDisplay s₀ steps).ui.views[v]? = some x) (hcard : x.kind = .card)
    (hmounted : x.isMounted = true) :
    ∃ n r label as, x.region? = some n ∧ (runDisplay s₀ steps).regions[n]? = some r ∧
      x.parts = .card label ∧ (runDisplay s₀ steps).ui.kit.isAlive label = true ∧
      (runDisplay s₀ steps).ui.kit.aspects? label = some as ∧ Depicts as r ∧
      (r.isTerminal = true → as.lookup "text" ≠ some (.text Style.loadingText)) := by
  have hstart : Depicting s₀.ui.kit.widgets.length s₀ := ⟨h₀.display _ _, hsighted⟩
  obtain ⟨hdisplay, hsighted⟩ := hsteps.run (fun s step h => h.step) hstart
  obtain ⟨path, hpath, -⟩ := hdisplay.settled
  obtain ⟨n, hn⟩ := (hpath.toForest.card_iff hx).1 hcard
  obtain ⟨label, hparts⟩ := hdisplay.standing.furnished v x hx hmounted n hn
  have hfollows := follows_iff.2 ⟨x, hx, hparts, hn⟩
  have hr := List.getElem?_eq_getElem (hpath.toFollowed.lt_of_region? hx hn)
  obtain ⟨as, has, hwears⟩ := hpath.looks v label n _ hfollows hr
  have hdepicts := depicts_of_wears hwears (hsighted _ (List.mem_of_getElem? hr))
  exact ⟨n, _, label, as, hn, hr, hparts, (hpath.toNested.of_follows hfollows).1, has, hdepicts,
    hdepicts.ne_loadingText⟩

def planets : Renderable :=
  .carousel "planets" "Planets" [.card "mars" "Mars" "" 0, .card "venus" "Venus" "" 1] 300

/-- The first image comes while the second page is shown; then the first page is turned to again. -/
def browsing : List DisplayStep :=
  [.region "mars", .region "venus", .make planets View.stackPacking, .mount 1 window,
    .turn 1 true, .resolve 0 (.text "picture"), .turn 1 false]

theorem card_depicts_region_browsing :
    Idle vacant ∧ Sighted vacant ∧
      Along (DisplayStep.Pictured vacant.ui.kit.widgets.length) vacant browsing ∧
      ∃ x r label as, (runDisplay vacant browsing).ui.views[4]? = some x ∧ x.region? = some 0 ∧
        (runDisplay vacant browsing).regions[0]? = some r ∧ x.parts = .card label ∧
        (runDisplay vacant browsing).ui.kit.aspects? label = some as ∧
        as.lookup "image" = some (.photo r.image) ∧ as.lookup "text" = some (.text "") := by
  have hsighted : Sighted vacant := fun r hr => absurd hr List.not_mem_nil
  have hsteps : Along (DisplayStep.Pictured vacant.ui.kit.widgets.length) vacant browsing := by
    refine ⟨⟨trivial, ?_⟩, ⟨trivial, ?_⟩, ⟨?_, ?_⟩, ⟨?_, ?_⟩, ⟨trivial, ?_⟩, ⟨trivial, ?_⟩,
      ⟨trivial, ?_⟩, trivial⟩
    case refine_3 | refine_5 =>
      unfold DisplayStep.Permitted
      decide +kernel
    all_goals
      rintro n image ⟨⟩
    rfl
  have hview : ((runDisplay vacant browsing).ui.views[4]?).any fun x =>
      decide (x.kind = .card) && x.isMounted && decide (x.region? = some 0) := by decide +kernel
  have hloaded : ((runDisplay vacant browsing).regions[0]?).map Region.state = some .loaded := by
    decide +kernel
  obtain ⟨x, hx, hcard⟩ := (Option.any_eq_true _ _).1 hview
  simp only [Bool.and_eq_true, decide_eq_true_eq] at hcard
  obtain ⟨⟨hkind, hmounted⟩, hregion⟩ := hcard
  obtain ⟨n, r, label, as, hn, hr, hparts, -, has, hdepicts, -⟩ :=
    card_depicts_region idle_vacant hsighted hsteps hx hkind hmounted
  obtain rfl : 0 = n := Option.some.inj (hregion.symm.trans hn)
  rw [hr] at hloaded
  have hstate : r.state = .loaded := Option.some.inj hloaded
  unfold Depicts at hdepicts
  simp only [hstate] at hdepicts
  exact ⟨idle_vacant, hsighted, hsteps, x, r, label, as, hx, hregion, hr, hparts, has, hdepicts⟩

end Session
end RemoteScreen
