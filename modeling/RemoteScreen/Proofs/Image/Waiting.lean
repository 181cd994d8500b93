import RemoteScreen.Proofs.Image.StepEffect

/-! A completion that is not stale is not lost either: it waits in the queue until a drain applies
it. -/
namespace RemoteScreen

/-- The region shows what a retrieval brought. -/
def Region.Shows (r : Region Nat) : Except String Value → Prop
  | .ok image => r.state = .loaded ∧ r.image = image
  | .error _ => r.state = .failed

theorem Region.Shows.not_loading {r : Region Nat} {o : Except String Value} (h : r.Shows o) :
    r.state ≠ .loading := by
  cases o with
  | ok image => simp [h.1]
  | error reason => simp [show r.state = .failed from h]

theorem Region.Shows.congr {r r' : Region Nat} {o : Except String Value} (h : r.Shows o)
    (hstate : r'.state = r.state) (himage : r'.image = r.image) : r'.Shows o := by
  cases o with
  | ok image => exact ⟨hstate.trans h.1, himage.trans h.2⟩
  | error reason => exact hstate.trans h

/-- A region that was waiting shows the completion that is applied to it. -/
theorem Completion.shows_getD_settle? (c : Completion) {r : Region Nat} (h : r.state = .loading) :
    ((c.settle? r).getD r).Shows c.outcome := by
  unfold Completion.settle?
  rcases c.outcome with reason | image
  · simp [Region.Shows, Region.fail?, Region.isTerminal, h]
  · simp [Region.Shows, Region.resolve?, Region.isTerminal, h]

namespace Session

variable {υ : Type} {tell : Tell υ} {s t : Session υ} {l : Loader} {c : Completion}

def Waits (c : Completion) (s : Session υ) : Prop := ∃ l, s.loader = some l ∧ c ∈ l.completed

def Applied (c : Completion) (s : Session υ) : Prop :=
  ∃ r, s.regions[c.region]? = some r ∧ r.Shows c.outcome

theorem Applied.imagesKept (h : Applied c s) (k : ImagesKept s t) : Applied c t := by
  obtain ⟨r, hr, hshows⟩ := h
  obtain ⟨ls, ht⟩ := k.regions c.region r hr
  exact ⟨_, ht, hshows⟩

theorem Waits.imagesKept (h : Waits c s) (k : ImagesKept s t) : Waits c t := by
  obtain ⟨l, hl, hc⟩ := h
  exact ⟨l, k.loader.trans hl, hc⟩

theorem Applied.effect (h : Applied c s) {step : ImageStep} (k : step.Effect s t) :
    Applied c t := by
  obtain ⟨r, hr, hshows⟩ := h
  obtain ⟨r', ht, -, hsame | ⟨hloading, -⟩⟩ := k.regions c.region r hr
  · exact ⟨r', ht, hshows.congr hsame.1 hsame.2⟩
  · exact absurd hloading hshows.not_loading

/-- A completion that is not stale, on its way to its region or there. -/
structure Due (c : Completion) (s : Session υ) : Prop where
  order : ∃ l, Orderly s l
  current : s.tracker.isCurrent c.pass = true
  place : Waits c s ∨ Applied c s

/-- A round applies the first completion and leaves the others. -/
theorem drainOne_due (htell : ∀ n l, Keeps ImagesKept (tell n l)) :
    Keeps (Stays (Due c)) (drainOne tell) := by
  intro s h
  obtain ⟨l, horder⟩ := h.order
  obtain ⟨horder', hdrained⟩ := drainOne_drained htell s l horder
  refine ⟨horder', by rw [hdrained.tracker]; exact h.current, ?_⟩
  rcases h.place with hwaits | happlied
  case inr =>
    exact .inr (happlied.effect (ImageStep.Effect.drained horder' hdrained (.inl rfl)))
  obtain ⟨m, hm, hc⟩ := hwaits
  obtain rfl := Option.some.inj (horder.loader.symm.trans hm)
  rcases hq : l.completed with - | ⟨d, ds⟩
  · rw [hq] at hc
    exact absurd hc List.not_mem_nil
  obtain ⟨-, j, hj⟩ := drainOne_cons htell horder hq
  obtain ⟨r, hr, hloading⟩ := horder.waiting c hc
  rw [hq] at hc
  rcases List.mem_cons.1 hc with rfl | hds
  · rw [if_pos h.current] at hj
    have htaken : (s.taken l ds j).regions[c.region]? = some r := hr
    have hset := settled_regions c.region c.settle? htaken
    rw [if_pos rfl] at hset
    have happlied : Applied c ((s.taken l ds j).settled c.region c.settle?) :=
      ⟨_, hset, c.shows_getD_settle? hloading⟩
    exact .inr (happlied.imagesKept hj)
  · split at hj
    case isTrue =>
      have hwaits : Waits c ((s.taken l ds j).settled d.region d.settle?) :=
        ⟨{ l with completed := ds }, loader_settled _ _ _, hds⟩
      exact .inl (hwaits.imagesKept hj)
    case isFalse =>
      rw [hj]
      exact .inl ⟨{ l with completed := ds }, rfl, hds⟩

/-- A step keeps a completion due, unless it makes it stale. -/
theorem Due.step (htell : ∀ n l, Keeps ImagesKept (tell n l)) (h : Due c s) {step : ImageStep}
    (hallowed : step.Allowed s) (hcurrent : (step.tracker s.tracker).isCurrent c.pass = true) :
    Due c (next (step.act tell) s) := by
  obtain ⟨l, horder⟩ := h.order
  rcases hdrains : step.drains with - | -
  · have heffect := step.effect htell horder hallowed
    refine ⟨heffect.order, by rw [heffect.tracker]; exact hcurrent, ?_⟩
    rcases h.place with hwaits | happlied
    case inr => exact .inr (happlied.effect heffect)
    obtain ⟨m, hm, hc⟩ := hwaits
    obtain ⟨l', hl'⟩ := heffect.order
    exact .inl ⟨l', hl'.loader, (heffect.loader m l' hm hl'.loader).2 hdrains hc⟩
  · cases step with
    | take =>
      rw [ImageStep.act, next_discard]
      exact drainOne_due htell s h
    | drain =>
      rw [ImageStep.act, next_discard]
      exact keeps_drain (drainOne_due htell) s h
    | _ => simp [ImageStep.drains] at hdrains

/-! A drain that returns -/

/-- A round takes exactly the first completion. -/
theorem drainOne_loader (htell : ∀ n l, Keeps ImagesKept (tell n l)) (h : Orderly s l)
    {cs : List Completion} (hq : l.completed = c :: cs) :
    (next (drainOne tell) s).loader = some { l with completed := cs } := by
  obtain ⟨-, j, hj⟩ := drainOne_cons htell h hq
  split at hj
  · rw [hj.loader, loader_settled]
    rfl
  · rw [hj]
    rfl

theorem exec_drainMany_ok (htell : ∀ n l, Keeps ImagesKept (tell n l)) {fuel k : Nat}
    (h : Orderly s l) (hfuel : l.completed.length ≤ fuel)
    (hok : exec (drainMany tell fuel) s = (.ok k, t)) :
    ∃ m, t.loader = some m ∧ m.completed = [] := by
  induction fuel generalizing s l k with
  | zero =>
    obtain rfl := (Prod.mk.inj hok).2
    exact ⟨l, h.loader, List.eq_nil_of_length_eq_zero (Nat.le_zero.1 hfuel)⟩
  | succ fuel ih =>
    rcases hq : l.completed with - | ⟨c, cs⟩
    · rw [drainMany, exec_bind, exec_drainOne_nil tell h.loader hq] at hok
      obtain rfl := (Prod.mk.inj hok).2
      exact ⟨l, h.loader, hq⟩
    · have hloader := drainOne_loader htell h hq
      obtain ⟨⟨m, hm⟩, -⟩ := drainOne_drained htell s l h
      obtain rfl := Option.some.inj (hloader.symm.trans hm.loader)
      have hround := (drainOne_cons htell h hq).1
      have hlength : cs.length ≤ fuel := by
        rw [hq, List.length_cons] at hfuel
        exact Nat.le_of_succ_le_succ hfuel
      rw [drainMany, exec_bind] at hok
      rw [next] at hm
      rcases hx : exec (drainOne tell) s with ⟨e | taken, u⟩
      · simp [hx] at hok
      · rw [hx] at hok hround hm
        rcases taken with - | applied
        · exact absurd rfl hround
        · dsimp only at hok
          rw [exec_bind] at hok
          rcases hy : exec (drainMany tell fuel) u with ⟨e | n, v⟩
          · simp [hy] at hok
          · rw [hy] at hok
            obtain rfl := (Prod.mk.inj hok).2
            exact ih hm hlength hy

/-- When a drain returns nothing waits any more. -/
theorem exec_drain_ok (htell : ∀ n l, Keeps ImagesKept (tell n l)) (h : Orderly s l) {k : Nat}
    (hok : exec (drain tell) s = (.ok k, t)) : ∃ m, t.loader = some m ∧ m.completed = [] := by
  rw [drain, exec_bind, exec_get] at hok
  dsimp only at hok
  rw [h.loader] at hok
  exact exec_drainMany_ok htell h (Nat.le_refl _) hok

/-- Whatever is due when a drain begins has been applied when it returns. -/
theorem Due.applied (htell : ∀ n l, Keeps ImagesKept (tell n l)) (h : Due c s) {k : Nat}
    (hok : exec (drain tell) s = (.ok k, t)) : Applied c t := by
  obtain ⟨l, horder⟩ := h.order
  obtain ⟨m, hm, hnone⟩ := exec_drain_ok htell horder hok
  have hdue : Due c (next (drain tell) s) := keeps_drain (drainOne_due htell) s h
  rw [next, hok] at hdue
  rcases hdue.place with ⟨m', hm', hc⟩ | happlied
  · obtain rfl := Option.some.inj (hm.symm.trans hm')
    rw [hnone] at hc
    exact absurd hc List.not_mem_nil
  · exact happlied

end Session
end RemoteScreen
