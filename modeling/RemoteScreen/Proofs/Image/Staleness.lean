import RemoteScreen.Proofs.Image.Waiting

/-! Staleness: once a later pass has begun, nothing reaches a region that was asked for with an
earlier one, whatever still runs or waits for it. -/
namespace RemoteScreen

/-- Work is current if it belongs to no pass but the current one. -/
theorem PassTracker.isCurrent_iff {t : PassTracker} {p : Option Pass} :
    t.isCurrent p = true ↔ ∀ q, p = some q → t.current = some q := by
  cases p <;> simp [isCurrent]

namespace Session

variable {υ : Type} {tell tell' : Tell υ} {s t : Session υ} {l : Loader} {step : ImageStep}
  {steps more : List ImageStep} {q : ImageRequest}

/-- Nothing has been asked for, no pass has begun, and an open loader for the session's own tracker
is idle. -/
structure Outset (s : Session υ) : Prop where
  tracker : s.tracker = {}
  requests : s.requests = []
  loader : ∃ l, s.loader = some l ∧ l.currency = .tracked ∧ l.closed = false ∧ l.jobs = [] ∧
    l.completed = []

/-- Retrieval is in order, and the current pass is the last one issued. -/
structure Underway (s : Session υ) : Prop where
  order : ∃ l, Orderly s l
  latest : ∀ p, s.tracker.current = some p → p.version = s.tracker.issued

theorem Outset.underway (h : Outset s) : Underway s := by
  obtain ⟨l, hl, htracked, -, hjobs, hcompleted⟩ := h.loader
  refine ⟨⟨l, hl, htracked, ?_, ?_, ?_, ?_, ?_, ?_, ?_⟩, ?_⟩
  · rw [h.requests]
    exact List.nodup_nil
  · rw [h.requests]
    exact fun q hq => absurd hq List.not_mem_nil
  · rw [Loader.asks, hjobs]
    exact List.nil_sublist _
  · rw [hcompleted]
    exact fun c hc => absurd hc List.not_mem_nil
  · rw [hcompleted]
    exact List.nodup_nil
  · rw [hjobs]
    exact fun j hj => absurd hj List.not_mem_nil
  · rw [hcompleted]
    exact fun c hc => absurd hc List.not_mem_nil
  · rw [h.tracker]
    exact fun p hp => absurd hp (by simp)

/-! The tracker -/

theorem ImageStep.issued_le (step : ImageStep) (t : PassTracker) :
    t.issued ≤ (step.tracker t).issued := by
  cases step with
  | begin => exact Nat.le_succ _
  | _ => exact Nat.le_refl _

theorem ImageStep.latest (step : ImageStep) {t : PassTracker}
    (h : ∀ p, t.current = some p → p.version = t.issued) :
    ∀ p, (step.tracker t).current = some p → p.version = (step.tracker t).issued := by
  cases step with
  | begin =>
    rintro p hp
    obtain rfl := Option.some.inj hp
    simp [ImageStep.tracker, PassTracker.next]
  | _ => exact h

theorem Underway.after (htell : ∀ n l, Keeps ImagesKept (tell n l)) (h : Underway s)
    (hallowed : step.Allowed s) : Underway (next (step.act tell) s) := by
  obtain ⟨l, horder⟩ := h.order
  have heffect := step.effect htell horder hallowed
  refine ⟨heffect.order, ?_⟩
  rw [heffect.tracker]
  exact step.latest h.latest

theorem ImageRun.underway (htell : ∀ n l, Keeps ImagesKept (tell n l))
    (hrun : ImageRun tell s steps t) (h : Underway s) : Underway t := by
  induction hrun with
  | nil => exact h
  | cons hallowed _ ih => exact ih (h.after htell hallowed)

/-! Closing -/

/-- A loader is closed exactly when it has been shut down. -/
theorem ImageRun.closed (htell : ∀ n l, Keeps ImagesKept (tell n l))
    (hrun : ImageRun tell s steps t) {m : Loader} (h : Underway s) (hs : s.loader = some l)
    (ht : t.loader = some m) :
    m.closed = (l.closed || steps.any ImageStep.closes) := by
  induction hrun generalizing l with
  | nil =>
    obtain rfl := Option.some.inj (hs.symm.trans ht)
    simp
  | @cons s t step steps hallowed rest ih =>
    obtain ⟨k, horder⟩ := h.order
    have heffect := step.effect htell horder hallowed
    obtain ⟨k', horder'⟩ := heffect.order
    have hclosed := (heffect.loader l k' hs horder'.loader).1
    rw [ih (h.after htell hallowed) horder'.loader ht, hclosed, List.any_cons, Bool.or_assoc]

/-! Stale requests -/

/-- The region has the URL, the state and the image that it had. -/
def Untouched (n : Nat) (s t : Session υ) : Prop :=
  ∃ r r', s.regions[n]? = some r ∧ t.regions[n]? = some r' ∧
    r'.url = r.url ∧ r'.state = r.state ∧ r'.image = r.image

theorem Untouched.trans {n : Nat} {u : Session υ} (h : Untouched n s t) (k : Untouched n t u) :
    Untouched n s u := by
  obtain ⟨r, r', hs, ht, hurl, hstate, himage⟩ := h
  obtain ⟨r₁, r'', ht', hu, hurl', hstate', himage'⟩ := k
  obtain rfl := Option.some.inj (ht.symm.trans ht')
  exact ⟨r, r'', hs, hu, hurl'.trans hurl, hstate'.trans hstate, himage'.trans himage⟩

/-- A request of a pass that came before the latest one. -/
def Stale (q : ImageRequest) (s : Session υ) : Prop :=
  q ∈ s.requests ∧ ∃ p, q.pass = some p ∧ p.version < s.tracker.issued

theorem Underway.not_current (h : Underway s) (hq : Stale q s) :
    s.tracker.isCurrent q.pass = false := by
  obtain ⟨-, p, hp, hlt⟩ := hq
  rw [hp, PassTracker.isCurrent, beq_eq_false_iff_ne]
  intro hcurrent
  have hlatest := h.latest p hcurrent
  omega

theorem Stale.effect (hq : Stale q s) (h : step.Effect s t) : Stale q t := by
  obtain ⟨hmem, p, hp, hlt⟩ := hq
  have hissued := step.issued_le s.tracker
  refine ⟨h.requests hmem, p, hp, ?_⟩
  rw [h.tracker]
  omega

/-- A region of a request is ended by nothing but a drain for which the request is current. -/
theorem Orderly.untouched (h : Orderly s l) (hallowed : step.Allowed s) (heffect : step.Effect s t)
    (hq : q ∈ s.requests) :
    Untouched q.region s t ∨ (step.drains = true ∧ s.tracker.isCurrent q.pass = true) := by
  have hregion := List.getElem?_eq_getElem (h.known q hq)
  obtain ⟨r', ht, hurl, hsame | ⟨-, -, hends⟩⟩ := heffect.regions _ _ hregion
  · exact .inl ⟨_, r', hregion, ht, hurl, hsame⟩
  · have hasked (hasked : ∃ p ∈ s.requests, p.region = q.region ∧
        s.tracker.isCurrent p.pass = true) : s.tracker.isCurrent q.pass = true := by
      obtain ⟨p, hp, hregion, hcurrent⟩ := hasked
      rw [← h.request_unique hp hq hregion]
      exact hcurrent
    cases step with
    | request n pass =>
      obtain ⟨rfl, -⟩ := hends
      exact absurd (List.mem_map_of_mem hq) hallowed.2
    | take => exact .inr ⟨rfl, hasked hends⟩
    | drain => exact .inr ⟨rfl, hasked hends⟩
    | _ => exact hends.elim

/-! The listeners of a stale region are never told: it does not matter what they would do. -/

theorem drainOne_congr (h : Orderly s l) (hq : q ∈ s.requests)
    (hstale : s.tracker.isCurrent q.pass = false) (hsame : ∀ n ≠ q.region, tell' n = tell n) :
    exec (drainOne tell') s = exec (drainOne tell) s := by
  have htold (c : Completion) (cs : List Completion) (hc : l.completed = c :: cs)
      (hcurrent : l.accepts s.tracker c.pass = true) : tell' c.region = tell c.region := by
    refine hsame c.region fun hregion => ?_
    have hpass := h.completion_pass hq (hc ▸ List.mem_cons_self) hregion
    rw [Loader.accepts, h.tracked, hpass, hstale] at hcurrent
    exact Bool.false_ne_true hcurrent
  simp only [drainOne, exec_bind, exec_get, h.loader, Option.bind_some, Loader.takeCompletion?]
  rcases hc : l.completed with - | ⟨c, cs⟩
  · rfl
  · simp only [Option.map_some, exec_bind, exec_modify]
    rcases hcurrent : l.accepts s.tracker c.pass with - | -
    · rfl
    · simp only [resolve, failRegion, settle_congr (htold c cs hc hcurrent)]

theorem drainMany_congr (htell : ∀ n l, Keeps ImagesKept (tell n l)) (fuel : Nat)
    (h : Orderly s l) (hq : q ∈ s.requests) (hstale : s.tracker.isCurrent q.pass = false)
    (hsame : ∀ n ≠ q.region, tell' n = tell n) :
    exec (drainMany tell' fuel) s = exec (drainMany tell fuel) s := by
  induction fuel generalizing s l with
  | zero => rfl
  | succ fuel ih =>
    obtain ⟨⟨m, hm⟩, hdrained⟩ := drainOne_drained htell s l h
    rw [drainMany, drainMany, exec_bind, exec_bind, drainOne_congr h hq hstale hsame]
    rw [next] at hm hdrained
    rcases hx : exec (drainOne tell) s with ⟨e | taken, u⟩
    · rfl
    · rw [hx] at hm hdrained
      rcases taken with - | applied
      · rfl
      · dsimp only at hm hdrained ⊢
        rw [exec_bind, exec_bind, ih hm (hdrained.requests.symm ▸ hq)
          (by rw [hdrained.tracker]; exact hstale)]

theorem ImageStep.next_congr (htell : ∀ n l, Keeps ImagesKept (tell n l)) (h : Orderly s l)
    (hallowed : step.Allowed s) (hq : q ∈ s.requests)
    (hstale : s.tracker.isCurrent q.pass = false) (hsame : ∀ n ≠ q.region, tell' n = tell n) :
    next (step.act tell') s = next (step.act tell) s := by
  cases step with
  | request n pass =>
    have hne : n ≠ q.region := by
      rintro rfl
      exact hallowed.2 (List.mem_map_of_mem hq)
    simp only [ImageStep.act, requestImage, failRegion, settle_congr (hsame n hne)]
  | take =>
    rw [ImageStep.act, ImageStep.act, next_discard, next_discard, next, next,
      drainOne_congr h hq hstale hsame]
  | drain =>
    rw [ImageStep.act, ImageStep.act, next_discard, next_discard, next, next, Session.drain,
      Session.drain, exec_bind, exec_bind, exec_get]
    exact congrArg Prod.snd (drainMany_congr htell _ h hq hstale hsame)
  | _ => rfl

/-- From a stale request on, a run leaves its region alone and would be the same with other
listeners there. -/
theorem ImageRun.stale (htell : ∀ n l, Keeps ImagesKept (tell n l))
    (hrun : ImageRun tell s more t) (h : Underway s) (hq : Stale q s)
    (hsame : ∀ n ≠ q.region, tell' n = tell n) :
    Untouched q.region s t ∧ Stale q t ∧ ImageRun tell' s more t := by
  induction hrun with
  | nil s =>
    obtain ⟨l, horder⟩ := h.order
    have hregion := List.getElem?_eq_getElem (horder.known q hq.1)
    exact ⟨⟨_, _, hregion, hregion, rfl, rfl, rfl⟩, hq, .nil s⟩
  | @cons s t step steps hallowed _ ih =>
    obtain ⟨l, horder⟩ := h.order
    have hcurrent := h.not_current hq
    have heffect := step.effect htell horder hallowed
    obtain ⟨hrest, hstale, hrun⟩ := ih (h.after htell hallowed) (hq.effect heffect)
    have hnext := step.next_congr htell horder hallowed hq.1 hcurrent hsame
    refine ⟨?_, hstale, .cons hallowed (hnext ▸ hrun)⟩
    rcases horder.untouched hallowed heffect hq.1 with huntouched | ⟨-, hcontra⟩
    · exact huntouched.trans hrest
    · exact absurd (hcurrent.symm.trans hcontra) Bool.false_ne_true

/-! What a run cannot do -/

theorem ImageStep.any_closes_iff : steps.any ImageStep.closes = true ↔ .shutdown ∈ steps := by
  have hcloses (step : ImageStep) : step.closes = true ↔ step = .shutdown := by
    cases step <;> simp [ImageStep.closes]
  simp [hcloses]

theorem ImageRun.due (htell : ∀ n l, Keeps ImagesKept (tell n l)) {c : Completion}
    (hrun : ImageRun tell s more t) (hpass : c.pass = none) (h : Due c s) : Due c t := by
  induction hrun with
  | nil => exact h
  | cons hallowed _ ih =>
    have hcurrent : ∀ u : PassTracker, u.isCurrent c.pass = true :=
      fun u => hpass ▸ u.isCurrent_none
    exact ih (h.step htell hallowed (hcurrent _))

/-- No stale image is ever applied. The listeners may do anything but take steps of retrieval
themselves. In any session that a run leads to: the latest pass is the current one; a region is
ended by nothing but a drain under the pass it was asked for with, or by a request after the
shutdown; when a later pass has begun, nothing that may follow changes the region or tells its
listeners, and the pass never becomes current again; what came for a request without a pass waits
until it is applied; and a request after the shutdown fails its region at once. -/
theorem no_stale_image (htell : ∀ n l, Keeps ImagesKept (tell n l)) {s₀ : Session υ}
    (h : Outset s₀) (hrun : ImageRun tell s₀ steps s) :
    (∀ p, s.tracker.current = some p → p.version = s.tracker.issued) ∧
    (∀ step : ImageStep, step.Allowed s →
      (next (step.act tell) s).tracker = step.tracker s.tracker ∧
      ∀ n < s.regions.length, Untouched n s (next (step.act tell) s) ∨
        ((step = .take ∨ step = .drain) ∧ ∃ q ∈ s.requests, q.region = n ∧
          ∀ p, q.pass = some p → s.tracker.current = some p) ∨
        ((∃ pass, step = .request n pass) ∧ .shutdown ∈ steps)) ∧
    (∀ q ∈ s.requests, ∀ p, q.pass = some p → p.version < s.tracker.issued →
      ∀ more t, ImageRun tell s more t →
        Untouched q.region s t ∧ t.tracker.current ≠ some p ∧
        ∀ tell' : Tell υ, (∀ n ≠ q.region, tell' n = tell n) → ImageRun tell' s more t) ∧
    (∀ c : Completion, c.pass = none → Waits c s → ∀ more t, ImageRun tell s more t →
      (Waits c t ∨ Applied c t) ∧ ∀ k u, exec (drain tell) t = (.ok k, u) → Applied c u) ∧
    (.shutdown ∈ steps → ∀ n pass, (ImageStep.request n pass).Allowed s →
      ∃ r, (next ((ImageStep.request n pass).act tell) s).regions[n]? = some r ∧
        r.state = .failed) := by
  have hunderway := hrun.underway htell h.underway
  obtain ⟨l, horder⟩ := hunderway.order
  have hclosed : l.closed = true ↔ .shutdown ∈ steps := by
    obtain ⟨l₀, hl₀, -, hopen, -⟩ := h.loader
    rw [hrun.closed htell h.underway hl₀ horder.loader, hopen, Bool.false_or]
    exact ImageStep.any_closes_iff
  refine ⟨hunderway.latest, ?_, ?_, ?_, ?_⟩
  · intro step hallowed
    have heffect := step.effect htell horder hallowed
    refine ⟨heffect.tracker, fun n hn => ?_⟩
    have hregion := List.getElem?_eq_getElem hn
    obtain ⟨r', ht, hurl, hsame | ⟨-, -, hends⟩⟩ := heffect.regions n _ hregion
    · exact .inl ⟨_, r', hregion, ht, hurl, hsame⟩
    · right
      cases step with
      | request m pass =>
        obtain ⟨rfl, m, hm, hmclosed⟩ := hends
        obtain rfl := Option.some.inj (horder.loader.symm.trans hm)
        exact .inr ⟨⟨pass, rfl⟩, hclosed.1 hmclosed⟩
      | take =>
        simp only [ImageStep.MayEnd, PassTracker.isCurrent_iff] at hends
        exact .inl ⟨.inl rfl, hends⟩
      | drain =>
        simp only [ImageStep.MayEnd, PassTracker.isCurrent_iff] at hends
        exact .inl ⟨.inr rfl, hends⟩
      | _ => exact hends.elim
  · intro q hq p hp hlt more t hmore
    have hstale : Stale q s := ⟨hq, p, hp, hlt⟩
    obtain ⟨huntouched, hstale', -⟩ := hmore.stale htell hunderway hstale fun _ _ => rfl
    have hcurrent := (hmore.underway htell hunderway).not_current hstale'
    refine ⟨huntouched, ?_, fun tell' hsame => ?_⟩
    · rw [hp, PassTracker.isCurrent, beq_eq_false_iff_ne] at hcurrent
      exact hcurrent
    · exact (hmore.stale htell hunderway hstale hsame).2.2
  · intro c hpass hwaits more t hmore
    have hdue : Due c s := ⟨⟨l, horder⟩, hpass ▸ s.tracker.isCurrent_none, .inl hwaits⟩
    have hdue' := hmore.due htell hpass hdue
    exact ⟨hdue'.place, fun k u hok => hdue'.applied htell hok⟩
  · intro hshutdown n pass ⟨⟨r, hr, hloading⟩, _⟩
    obtain ⟨r', hr', -, -, hstate⟩ :=
      request_closed_regions htell horder.loader (hclosed.2 hshutdown) n pass hr
    exact ⟨r', hr', by rw [hstate, if_pos ⟨rfl, hloading⟩]⟩

/-- An image of the first pass that waits when the second has begun never reaches its region. -/
theorem no_stale_image_second_pass :
    ∃ s₀ s t : Session Unit, Outset s₀ ∧
      ImageRun tellNobody s₀ [.begin, .create "a.png", .request 0 (some ⟨1⟩), .pool .start,
        .pool (.finish 0 fun _ => .ok .null), .begin] s ∧
      Waits ⟨0, some ⟨1⟩, .ok .null⟩ s ∧ ImageRun tellNobody s [.drain] t ∧ Untouched 0 s t := by
  let l : Loader := { retrieve := fun _ => .ok .null, workers := 1, currency := .tracked }
  let s₀ : Session Unit := { loader := some l, ui := () }
  have htell : ∀ n l, Keeps ImagesKept ((tellNobody : Tell Unit) n l) := fun _ _ => keeps_pure _
  have h : Outset s₀ := ⟨rfl, rfl, l, rfl, rfl, rfl, rfl, rfl⟩
  have hrun : ImageRun tellNobody s₀ [.begin, .create "a.png", .request 0 (some ⟨1⟩), .pool .start,
      .pool (.finish 0 fun _ => .ok .null), .begin] _ :=
    .cons trivial (.cons trivial (.cons ⟨⟨_, rfl, rfl⟩, by decide⟩
      (.cons trivial (.cons trivial (.cons trivial (.nil _))))))
  have hstale := (no_stale_image htell h hrun).2.2.1 ⟨0, "a.png", some ⟨1⟩⟩ (by decide) ⟨1⟩ rfl
    (by decide) [.drain] _ (.cons trivial (.nil _))
  exact ⟨s₀, _, _, h, hrun, ⟨_, rfl, List.mem_singleton_self _⟩,
    .cons trivial (.nil _), hstale.1⟩

end Session
end RemoteScreen
