import RemoteScreen.Proofs.Render.Requests

/-! Two runs side by side. Each makes regions of its own, so that their values are compared by what
is in the regions, not by the numbers of the regions. -/
namespace RemoteScreen

/-- Whether asking for an image fails. -/
def ImageSource.refuses : ImageSource → String → Bool
  | .recorder refused, url => url != "" && refused.contains url
  | _, _ => false

/-- The region that a card begins with. -/
def ImageSource.firstRegion (images : ImageSource) (closed : Option Bool) (url : String) :
    Region Nat :=
  match images with
  | .loader => { url, state := if url = "" ∨ closed = some true then .failed else .loading }
  | _ => { url, state := if url = "" then .failed else .loading }

namespace Render

open Session

variable {υ α β : Type} {s s' t : Session υ} {c : Context} {d : Descriptor}

/-- Regions are only added, and the loader is as open as it was. -/
structure Grown (s t : Session υ) : Prop where
  closed : t.loader.map Loader.closed = s.loader.map Loader.closed
  regions : s.regions <+: t.regions

instance : IsPreorder (Session υ) Grown where
  refl _ := ⟨rfl, List.prefix_rfl⟩
  trans _ _ _ h k := ⟨k.closed.trans h.closed, h.regions.trans k.regions⟩

/-- Side by side, from sessions whose loaders are equally open, both steps give a value. The values
are related by the regions that there are then or at any later time. -/
def Beside (m m' : Act υ α) (Q : List (Region Nat) → List (Region Nat) → α → α → Prop) : Prop :=
  ∀ s s', s'.loader.map Loader.closed = s.loader.map Loader.closed →
    ∃ a t a' t', exec m s = (.ok a, t) ∧ exec m' s' = (.ok a', t') ∧ Grown s t ∧ Grown s' t' ∧
      ∀ gs gs', t.regions <+: gs → t'.regions <+: gs' → Q gs gs' a a'

section

variable {Q : List (Region Nat) → List (Region Nat) → α → α → Prop}
  {P : List (Region Nat) → List (Region Nat) → β → β → Prop}

theorem Beside.apply {m m' : Act υ α} (h : Beside m m' Q) {t t' : Session υ} {a a' : α}
    (hs : exec m s = (.ok a, t)) (hs' : exec m' s' = (.ok a', t'))
    (halike : s'.loader.map Loader.closed = s.loader.map Loader.closed) :
    Q t.regions t'.regions a a' := by
  obtain ⟨b, u, b', u', hu, hu', -, -, hrelated⟩ := h s s' halike
  obtain ⟨hb, rfl⟩ := Prod.mk.inj (hu.symm.trans hs)
  obtain ⟨hb', rfl⟩ := Prod.mk.inj (hu'.symm.trans hs')
  obtain rfl := Except.ok.inj hb
  obtain rfl := Except.ok.inj hb'
  exact hrelated _ _ List.prefix_rfl List.prefix_rfl

end

/-! Steps that give up, and what takes their place -/

/-- A step that gives up, whatever the session. -/
def GivesUp (m : Act υ α) : Prop := ∀ s, ∃ e t, exec m s = (.error e, t) ∧ Grown s t

theorem GivesUp.bind {m : Act υ α} (h : GivesUp m) (f : α → Act υ β) : GivesUp (m >>= f) := by
  intro s
  obtain ⟨e, t, hs, hgrown⟩ := h s
  exact ⟨e, t, by rw [exec_bind, hs], hgrown⟩

section

variable {body body' : Act υ Renderable} {r : Renderable} {e : Failure}

theorem exec_guarded_ok (h : exec body s = (.ok r, t)) : exec (guarded d body) s = (.ok r, t) := by
  simp [guarded, h]

/-- The placeholder of a strategy that gave up, and a line about it. -/
theorem exec_guarded_error (h : exec body s = (.error e, t)) : ∃ j,
    exec (guarded d body) s = (.ok (.unknown d.id d.type failedMessage), { t with journal := j }) := by
  rw [guarded, exec_bind, exec_attempt, h]
  exact ⟨_, rfl⟩

theorem grown_of_journal (t : Session υ) (j : Journal) : Grown t { t with journal := j } :=
  ⟨rfl, List.prefix_rfl⟩

theorem GivesUp.guarded (h : GivesUp body) (s : Session υ) :
    ∃ t, exec (guarded d body) s = (.ok (.unknown d.id d.type failedMessage), t) ∧ Grown s t := by
  obtain ⟨e, t, hs, hst⟩ := h s
  obtain ⟨j, hj⟩ := exec_guarded_error (d := d) hs
  exact ⟨_, hj, IsTrans.trans _ _ _ hst (grown_of_journal t j)⟩

end

/-! The region of a card -/

theorem exec_cardRegion_refused {url : String} (h : c.images.refuses url = true) (s : Session υ) :
    exec (cardRegion c url) s =
      (.error (.imageRefused url), { s with regions := s.regions ++ [{ url }] }) := by
  rcases hc : c.images with - | refused | -
  · simp [ImageSource.refuses, hc] at h
  · obtain ⟨hurl, hrefused⟩ : url ≠ "" ∧ url ∈ refused := by
      simpa [ImageSource.refuses, hc] using h
    simp [cardRegion, hurl, askForImage, hc, hrefused]
  · simp [ImageSource.refuses, hc] at h

/-- A closed loader fails the region of a card at once. -/
theorem exec_cardRegion_closed (hc : c.images = .loader) {l : Loader} (hl : s.loader = some l)
    (hclosed : l.closed = true) {url : String} (hurl : url ≠ "") :
    exec (cardRegion c url) s = (.ok s.regions.length, { s with
      regions := s.regions ++ [{ url, state := .failed }]
      requests := s.requests ++ [⟨s.regions.length, url, c.pass⟩] }) := by
  simp [cardRegion, hurl, askForImage, hc, requestImage, hl, hclosed, noteRequest, failRegion,
    settle, Session.region?, setRegion, Region.fail?, Region.isTerminal]

/-- The region of a card depends on its URL and on who is asked for the image. -/
theorem exec_cardRegion_made {url : String} (h : c.images.refuses url = false) (s : Session υ) :
    ∃ t, exec (cardRegion c url) s = (.ok s.regions.length, t) ∧
      t.loader.map Loader.closed = s.loader.map Loader.closed ∧
      t.regions = s.regions ++ [c.images.firstRegion (s.loader.map Loader.closed) url] := by
  by_cases hurl : url = ""
  · subst hurl
    refine ⟨_, exec_cardRegion_blank c s, rfl, ?_⟩
    rcases c.images with - | refused | - <;> simp [ImageSource.firstRegion]
  · rcases hc : c.images with - | refused | -
    · refine ⟨{ s with regions := s.regions ++ [{ url }] }, ?_, rfl, ?_⟩
      · simp [cardRegion, hurl, askForImage, hc]
      · simp [ImageSource.firstRegion, hurl]
    · have hwilling : url ∉ refused := by simpa [ImageSource.refuses, hc, hurl] using h
      refine ⟨{ s with
        regions := s.regions ++ [{ url }]
        requests := s.requests ++ [⟨s.regions.length, url, c.pass⟩] }, ?_, rfl, ?_⟩
      · simp [cardRegion, hurl, askForImage, hc, hwilling, noteRequest]
      · simp [ImageSource.firstRegion, hurl]
    · rcases hl : s.loader with - | l
      · refine ⟨{ s with regions := s.regions ++ [{ url }] }, ?_, by simp [hl], ?_⟩
        · simp [cardRegion, hurl, askForImage, hc, requestImage, hl]
        · simp [ImageSource.firstRegion, hurl]
      · rcases hopen : l.closed with - | -
        · refine ⟨_, exec_cardRegion_loader hc hl hopen hurl, ?_, ?_⟩
          · simp [Loader.enqueue_eq]
          · simp [ImageSource.firstRegion, hurl, hopen]
        · refine ⟨_, exec_cardRegion_closed hc hl hopen hurl, by simp [hl], ?_⟩
          simp [ImageSource.firstRegion, hopen]

theorem cardRegion_grown (c : Context) (url : String) :
    Keeps Grown (cardRegion c url : Act υ Nat) := by
  intro s
  rcases h : c.images.refuses url with - | -
  · obtain ⟨t, hs, hclosed, hregions⟩ := exec_cardRegion_made h s
    rw [next, hs]
    exact ⟨hclosed, hregions ▸ List.prefix_append _ _⟩
  · rw [next, exec_cardRegion_refused h s]
    exact ⟨rfl, List.prefix_append _ _⟩

end Render
end RemoteScreen
