import RemoteScreen.Proofs.Image.Retrieval

/-! What one step of retrieval can do. It issues a pass or leaves the tracker, it forgets no
request, and it ends only regions that it has the right to end. -/
namespace RemoteScreen
namespace Session

variable {υ : Type} {tell : Tell υ} {s t : Session υ} {l : Loader} {step : ImageStep}

/-- The tracker after a step. -/
def ImageStep.tracker (t : PassTracker) : ImageStep → PassTracker
  | .begin => t.advance
  | _ => t

def ImageStep.closes : ImageStep → Bool
  | .shutdown => true
  | _ => false

def ImageStep.drains : ImageStep → Bool
  | .take | .drain => true
  | _ => false

/-- The regions that a step may end: those whose completion is not stale, and one that is asked for
when the loader is closed. -/
def ImageStep.MayEnd (s : Session υ) (n : Nat) : ImageStep → Prop
  | .take | .drain => ∃ q ∈ s.requests, q.region = n ∧ s.tracker.isCurrent q.pass = true
  | .request m _ => m = n ∧ ∃ l, s.loader = some l ∧ l.closed = true
  | _ => False

structure ImageStep.Effect (step : ImageStep) (s t : Session υ) : Prop where
  order : ∃ m, Orderly t m
  loader : ∀ l m, s.loader = some l → t.loader = some m →
    m.closed = (l.closed || step.closes) ∧ (step.drains = false → l.completed ⊆ m.completed)
  tracker : t.tracker = step.tracker s.tracker
  requests : s.requests ⊆ t.requests
  regions : ∀ (n : Nat) (r : Region Nat), s.regions[n]? = some r → ∃ r', t.regions[n]? = some r' ∧
    r'.url = r.url ∧ ((r'.state = r.state ∧ r'.image = r.image) ∨
      (r.state = .loading ∧ r'.isTerminal = true ∧ step.MayEnd s n))

/-- A step that ends no region. -/
theorem ImageStep.Effect.quiet {m : Loader} (h : s.loader = some l) (horder : Orderly t m)
    (hclosed : m.closed = (l.closed || step.closes)) (hwaiting : l.completed ⊆ m.completed)
    (htracker : t.tracker = step.tracker s.tracker) (hrequests : s.requests ⊆ t.requests)
    (hregions : RegionsKept s t) : step.Effect s t where
  order := ⟨m, horder⟩
  loader := by
    intro l' m' hl hm
    obtain rfl := Option.some.inj (h.symm.trans hl)
    obtain rfl := Option.some.inj (horder.loader.symm.trans hm)
    exact ⟨hclosed, fun _ => hwaiting⟩
  tracker := htracker
  requests := hrequests
  regions := by
    intro n r hr
    obtain ⟨ls, ht⟩ := hregions n r hr
    exact ⟨_, ht, rfl, .inl ⟨rfl, rfl⟩⟩

theorem ImageStep.Effect.kept (h : Orderly s l) (k : ImagesKept s t)
    (htracker : step.tracker s.tracker = s.tracker) (hcloses : step.closes = false) :
    step.Effect s t := by
  have hclosed : l.closed = (l.closed || step.closes) := by rw [hcloses, Bool.or_false]
  have hrequests : s.requests ⊆ t.requests := k.requests ▸ List.Subset.refl _
  exact .quiet h.loader (h.imagesKept k) hclosed (List.Subset.refl _)
    (k.tracker.trans htracker.symm) hrequests k.regions

/-- A step that changes the loader alone. -/
theorem ImageStep.Effect.changed {m : Loader} (hs : s.loader = some l)
    (h : Orderly { s with loader := some m } m) (hclosed : m.closed = (l.closed || step.closes))
    (hwaiting : l.completed ⊆ m.completed) (htracker : step.tracker s.tracker = s.tracker) :
    step.Effect s { s with loader := some m } :=
  .quiet hs h hclosed hwaiting htracker.symm (List.Subset.refl _) (.of_regions rfl)

theorem ImageStep.Effect.drained (horder : ∃ m, Orderly t m) (h : Drained s t)
    (hstep : step = .take ∨ step = .drain) : step.Effect s t where
  order := horder
  loader := by
    intro l m hl hm
    obtain ⟨cs, ht, -⟩ := h.loader l hl
    obtain rfl := Option.some.inj (ht.symm.trans hm)
    rcases hstep with rfl | rfl <;> simp [ImageStep.closes, ImageStep.drains]
  tracker := by
    rw [h.tracker]
    rcases hstep with rfl | rfl <;> rfl
  requests := h.requests ▸ List.Subset.refl _
  regions := by
    intro n r hr
    obtain ⟨r', ht, hurl, hsame | ⟨hloading, hterminal, hasked⟩⟩ := h.regions n r hr
    · exact ⟨r', ht, hurl, .inl hsame⟩
    · refine ⟨r', ht, hurl, .inr ⟨hloading, hterminal, ?_⟩⟩
      rcases hstep with rfl | rfl <;> exact hasked

/-! A request to a closed loader -/

/-- The session of a request that a closed loader has written down. -/
def refused (s : Session υ) (n : Nat) (pass : Option Pass) : Session υ :=
  { s with requests := s.requests ++ [⟨n, (s.regions[n]?.map Region.url).getD "", pass⟩] }

/-- A closed loader fails the region that it is asked for; what is left is for listeners to do. -/
theorem request_closed (htell : ∀ n l, Keeps ImagesKept (tell n l)) (h : s.loader = some l)
    (hclosed : l.closed = true) (n : Nat) (pass : Option Pass) :
    ImagesKept ((s.refused n pass).settled n Region.fail?)
      (next ((ImageStep.request n pass).act tell) s) := by
  rw [ImageStep.act, next_requestImage_closed h hclosed]
  exact settled_told htell n Region.fail? (s.refused n pass)

/-- The region itself fails, if it was waiting; no other region changes. -/
theorem request_closed_regions (htell : ∀ n l, Keeps ImagesKept (tell n l)) (h : s.loader = some l)
    (hclosed : l.closed = true) (n : Nat) (pass : Option Pass) {k : Nat} {r : Region Nat}
    (hr : s.regions[k]? = some r) :
    ∃ r', (next ((ImageStep.request n pass).act tell) s).regions[k]? = some r' ∧
      r'.url = r.url ∧ r'.image = r.image ∧
      r'.state = if k = n ∧ r.state = .loading then .failed else r.state := by
  have hrefused : (s.refused n pass).regions[k]? = some r := hr
  have hset := settled_regions n Region.fail? hrefused
  obtain ⟨ls, hls⟩ := (request_closed htell h hclosed n pass).regions k _ hset
  refine ⟨_, hls, ?_⟩
  by_cases hk : k = n
  · by_cases hloading : r.state = .loading
    · simp [hk, hloading, Region.fail?, Region.isTerminal]
    · simp [hk, hloading, Region.fail?, Region.isTerminal]
  · simp [hk]

theorem request_effect (htell : ∀ n l, Keeps ImagesKept (tell n l)) (h : Orderly s l) {n : Nat}
    {pass : Option Pass} (hallowed : (ImageStep.request n pass).Allowed s) :
    (ImageStep.request n pass).Effect s (next ((ImageStep.request n pass).act tell) s) := by
  obtain ⟨hn, hnew⟩ := hallowed
  let url := (s.regions[n]?.map Region.url).getD ""
  rcases hclosed : l.closed with - | -
  · rw [ImageStep.act, next, exec_requestImage_open h.loader hclosed]
    have hjob := Loader.enqueue_eq l n pass
    exact .quiet h.loader (h.enqueue hn hnew url pass) (by simp [hjob, ImageStep.closes])
      (by simp [hjob]) rfl (List.subset_append_left _ _) (.of_regions rfl)
  · have hkept := request_closed htell h.loader hclosed n pass
    have hrefused : Orderly (s.refused n pass) l := h.refuse hn hnew url pass
    have hsettled := hrefused.settled (fun j hj _ => h.unasked_job hnew hj)
      (fun c hc => h.unasked_completion hnew hc) Region.fail?
    refine ⟨⟨l, hsettled.imagesKept hkept⟩, ?_, ?_, ?_, ?_⟩
    · intro l' m hl hm
      obtain rfl := Option.some.inj (h.loader.symm.trans hl)
      rw [hkept.loader, loader_settled] at hm
      obtain rfl := Option.some.inj (h.loader.symm.trans hm)
      simp [hclosed]
    · rw [hkept.tracker, tracker_settled]
      rfl
    · rw [hkept.requests, requests_settled]
      exact List.subset_append_left _ _
    · intro k r hr
      obtain ⟨r', hr', hurl, himage, hstate⟩ :=
        request_closed_regions htell h.loader hclosed n pass hr
      refine ⟨r', hr', hurl, ?_⟩
      by_cases hk : k = n ∧ r.state = .loading
      · rw [if_pos hk] at hstate
        exact .inr ⟨hk.2, by rw [Region.isTerminal, hstate]; rfl, hk.1.symm, l, h.loader, hclosed⟩
      · rw [if_neg hk] at hstate
        exact .inl ⟨hstate, himage⟩

/-! Every step -/

theorem ImageStep.effect (htell : ∀ n l, Keeps ImagesKept (tell n l)) (h : Orderly s l)
    (hallowed : step.Allowed s) : step.Effect s (next (step.act tell) s) := by
  cases step with
  | begin =>
    rw [ImageStep.act, next_discard]
    exact .quiet h.loader (h.congr rfl rfl (.of_regions rfl)) (Bool.or_false _).symm
      (List.Subset.refl _) rfl (List.Subset.refl _) (.of_regions rfl)
  | create url =>
    rw [ImageStep.act, next_discard]
    exact .kept h (addRegion_imagesKept url s) rfl rfl
  | subscribe n k => exact .kept h (subscribe_imagesKept n k s) rfl rfl
  | unsubscribe n k => exact .kept h (unsubscribe_imagesKept n k s) rfl rfl
  | request n pass => exact request_effect htell h hallowed
  | pool w =>
    obtain ⟨m, hm⟩ := h.pool w
    obtain ⟨k, hk, hclosed, hwaiting⟩ := w.next_eq h.loader
    have hloader := hm.loader
    rw [hk] at hloader
    obtain rfl := Option.some.inj hloader
    rw [ImageStep.act, hk]
    exact .changed h.loader (hk ▸ hm) (hclosed.trans (Bool.or_false _).symm) hwaiting rfl
  | cancel =>
    rw [ImageStep.act, next_discard, next_cancelPending h.loader]
    have horder := h.cancelEach l.pending
    obtain ⟨js, p, hm⟩ := l.cancelEach_eq l.pending
    rw [Loader.cancelPending]
    exact .changed h.loader horder (by simp [hm, ImageStep.closes]) (by simp [hm]) rfl
  | take =>
    rw [ImageStep.act, next_discard]
    obtain ⟨horder, hdrained⟩ := drainOne_drained htell s l h
    exact .drained horder hdrained (.inl rfl)
  | drain =>
    rw [ImageStep.act, next_discard]
    obtain ⟨horder, hdrained⟩ := keeps_drain (drainOne_drained htell) s l h
    exact .drained horder hdrained (.inr rfl)
  | shutdown =>
    have horder := (h.cancelEach l.queued).with_loader (m := l.shutdown) rfl rfl rfl
    obtain ⟨js, p, hm⟩ := l.cancelEach_eq l.queued
    rw [ImageStep.act, next_shutdownLoader h.loader]
    exact .changed h.loader horder (by simp [Loader.shutdown, ImageStep.closes])
      (by simp [Loader.shutdown, hm]) rfl

end Session
end RemoteScreen
