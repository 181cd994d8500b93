import RemoteScreen.Proofs.Session.Effect
import RemoteScreen.Session.Images

/-! What the steps of image retrieval do to a session, one equation for each, and the steps that
leave images alone: they may change who listens to a region and nothing else about it. -/
namespace RemoteScreen
namespace Session

variable {υ α : Type}

/-- The regions are still there, each as it was but for its listeners. -/
def RegionsKept (s t : Session υ) : Prop :=
  ∀ (n : Nat) (r : Region Nat), s.regions[n]? = some r →
    ∃ ls, t.regions[n]? = some { r with listeners := ls }

structure ImagesKept (s t : Session υ) : Prop where
  loader : t.loader = s.loader
  tracker : t.tracker = s.tracker
  requests : t.requests = s.requests
  regions : RegionsKept s t

theorem RegionsKept.refl (s : Session υ) : RegionsKept s s := fun _ r h => ⟨r.listeners, h⟩

theorem RegionsKept.trans {s t u : Session υ} (h : RegionsKept s t) (k : RegionsKept t u) :
    RegionsKept s u := by
  intro n r hr
  obtain ⟨ls, ht⟩ := h n r hr
  exact k n { r with listeners := ls } ht

theorem RegionsKept.length_le {s t : Session υ} (h : RegionsKept s t) :
    s.regions.length ≤ t.regions.length := by
  refine Nat.le_of_not_lt fun hlt => ?_
  obtain ⟨ls, hls⟩ := h t.regions.length _ (List.getElem?_eq_getElem hlt)
  simp at hls

instance : IsPreorder (Session υ) ImagesKept where
  refl s := ⟨rfl, rfl, rfl, .refl s⟩
  trans _ _ _ h k := ⟨k.loader.trans h.loader, k.tracker.trans h.tracker,
    k.requests.trans h.requests, h.regions.trans k.regions⟩

/-! Regions -/

theorem RegionsKept.of_regions {s t : Session υ} (h : t.regions = s.regions) : RegionsKept s t :=
  fun _ r hr => ⟨r.listeners, by rw [h]; exact hr⟩

theorem RegionsKept.of_append {s t : Session υ} {rs : List (Region Nat)}
    (h : t.regions = s.regions ++ rs) : RegionsKept s t := by
  intro n r hr
  refine ⟨r.listeners, ?_⟩
  rw [h, List.getElem?_append_left (List.getElem?_eq_some_iff.1 hr).1]
  exact hr

/-- A change of the listeners of one region. -/
theorem RegionsKept.of_modify {s t : Session υ} {n : Nat} {f : Region Nat → Region Nat}
    (hf : ∀ r, ∃ ls, f r = { r with listeners := ls })
    (h : t.regions = s.regions.modify n f) : RegionsKept s t := by
  intro m r hr
  rw [h, List.getElem?_modify, hr]
  by_cases hm : n = m
  · obtain ⟨ls, hls⟩ := hf r
    exact ⟨ls, by simp [hm, hls]⟩
  · exact ⟨r.listeners, by simp [hm]⟩

@[simp] theorem exec_addRegion (url : String) (s : Session υ) :
    exec (addRegion url) s =
      (.ok s.regions.length, { s with regions := s.regions ++ [{ url }] }) := rfl

theorem addRegion_imagesKept (url : String) : Keeps ImagesKept (addRegion url : Act υ Nat) :=
  fun _ => ⟨rfl, rfl, rfl, .of_append rfl⟩

theorem subscribe_imagesKept (n l : Nat) : Keeps ImagesKept (subscribe n l : Act υ Unit) :=
  fun _ => ⟨rfl, rfl, rfl, .of_modify (fun _ => ⟨_, rfl⟩) rfl⟩

theorem unsubscribe_imagesKept (n l : Nat) : Keeps ImagesKept (unsubscribe n l : Act υ Unit) :=
  fun _ => ⟨rfl, rfl, rfl, .of_modify (fun _ => ⟨_, rfl⟩) rfl⟩

@[simp] theorem exec_log (severity : Severity) (part message : String) (s : Session υ) :
    exec (log severity part message) s =
      (.ok ⟨⟩, { s with journal := s.journal.write ⟨severity, partLogger part, message⟩ }) := rfl

/-! The end of a region -/

/-- A session in which region `n` has come to the end that a change gives it, if it gives one. -/
def settled (s : Session υ) (n : Nat) (change : Region Nat → Option (Region Nat)) : Session υ :=
  match s.regions[n]?.bind change with
  | none => s
  | some r => { s with regions := s.regions.set n r }

section

variable (s : Session υ) (n : Nat) (change : Region Nat → Option (Region Nat))

@[simp] theorem loader_settled : (s.settled n change).loader = s.loader := by
  unfold settled
  split <;> rfl

@[simp] theorem ui_settled : (s.settled n change).ui = s.ui := by
  unfold settled
  split <;> rfl

@[simp] theorem telemetry_settled : (s.settled n change).telemetry = s.telemetry := by
  unfold settled
  split <;> rfl

@[simp] theorem tracker_settled : (s.settled n change).tracker = s.tracker := by
  unfold settled
  split <;> rfl

@[simp] theorem requests_settled : (s.settled n change).requests = s.requests := by
  unfold settled
  split <;> rfl

@[simp] theorem length_regions_settled :
    (s.settled n change).regions.length = s.regions.length := by
  unfold settled
  split <;> simp

end

theorem settled_regions {s : Session υ} (n : Nat) (change : Region Nat → Option (Region Nat))
    {k : Nat} {r : Region Nat} (hr : s.regions[k]? = some r) :
    (s.settled n change).regions[k]? = some (if k = n then (change r).getD r else r) := by
  unfold settled
  by_cases hk : k = n
  · subst hk
    rw [hr, if_pos rfl]
    rcases hc : change r with - | r'
    · simpa [hc] using hr
    · simp [hc, (List.getElem?_eq_some_iff.1 hr).1]
  · rw [if_neg hk]
    split
    · exact hr
    · rw [List.getElem?_set_ne (Ne.symm hk)]
      exact hr

/-- Once a region has its end, only listeners are left to act, and what they keep is kept. -/
theorem settled_told {R : Session υ → Session υ → Prop} [IsPreorder (Session υ) R] {tell : Tell υ}
    (htell : ∀ n l, Keeps R (tell n l)) (n : Nat) (change : Region Nat → Option (Region Nat))
    (s : Session υ) : R (s.settled n change) (next (settle tell n change) s) := by
  unfold settle settled
  simp only [next, region?, exec_bind, exec_get, exec_pure]
  rcases hr : s.regions[n]?.bind change with - | r
  · exact Std.Refl.refl _
  · have hl : R { s with regions := s.regions.set n r }
        (next (r.listeners.forM (tell n)) { s with regions := s.regions.set n r }) :=
      keeps_forM (htell n) _
    simp only [setRegion, exec_bind, exec_modify, next] at hl ⊢
    rcases hx : exec (r.listeners.forM (tell n)) { s with regions := s.regions.set n r }
      with ⟨e | a, t⟩ <;> rw [hx] at hl <;> exact hl

/-- Only the listeners of the region itself are told. -/
theorem settle_congr {tell tell' : Tell υ} {n : Nat} (h : tell' n = tell n)
    (change : Region Nat → Option (Region Nat)) : settle tell' n change = settle tell n change := by
  unfold settle
  rw [h]

/-! The loader -/

theorem exec_withLoader {s : Session υ} {l : Loader} (h : s.loader = some l) (default : α)
    (f : Loader → Loader × α) :
    exec (withLoader default f) s = (.ok (f l).2, { s with loader := some (f l).1 }) := by
  simp only [withLoader, exec_bind, exec_get, h, exec_modify, exec_pure]

theorem next_startJob {s : Session υ} {l : Loader} (h : s.loader = some l) :
    next startJob s = { s with loader := some ((l.start?.map Prod.fst).getD l) } := by
  unfold startJob
  rw [next, exec_withLoader h]
  rcases l.start? with - | ⟨m, n⟩ <;> rfl

/-- The URL of a job's region, as it is looked up when the job finishes. -/
def jobUrl (s : Session υ) (l : Loader) (n : Nat) : String :=
  ((l.jobs[n]?).bind fun j => s.regions[j.region]?.map Region.url).getD ""

theorem next_finishJob {s : Session υ} {l : Loader} (h : s.loader = some l) (k : Nat) :
    next (finishJob k) s = { s with loader := some (match l.running[k]? with
      | none => l
      | some n => l.finish n (s.jobUrl l n)) } := by
  unfold finishJob
  rw [next, exec_bind, exec_get]
  dsimp only
  rw [exec_withLoader h]
  rcases l.running[k]? with - | n <;> rfl

theorem next_cancelPending {s : Session υ} {l : Loader} (h : s.loader = some l) :
    next cancelPending s = { s with loader := some l.cancelPending.1 } := by
  rw [cancelPending, next, exec_withLoader h]

theorem next_shutdownLoader {s : Session υ} {l : Loader} (h : s.loader = some l) :
    next shutdownLoader s = { s with loader := some l.shutdown } := by
  rw [shutdownLoader, next, exec_withLoader h]

/-- A request to an open loader is written down and handed in; nobody is told anything. -/
theorem exec_requestImage_open {tell : Tell υ} {s : Session υ} {l : Loader} (h : s.loader = some l)
    (hopen : l.closed = false) (n : Nat) (pass : Option Pass) :
    exec (requestImage tell n pass) s = (.ok ⟨⟩, { s with
      requests := s.requests ++ [⟨n, (s.regions[n]?.map Region.url).getD "", pass⟩]
      loader := some (l.enqueue n pass) }) := by
  simp [requestImage, h, hopen, noteRequest]

/-- A request to a closed loader is written down, and the region fails. -/
theorem next_requestImage_closed {tell : Tell υ} {s : Session υ} {l : Loader}
    (h : s.loader = some l) (hclosed : l.closed = true) (n : Nat) (pass : Option Pass) :
    next (requestImage tell n pass) s = next (settle tell n Region.fail?) { s with
      requests := s.requests ++ [⟨n, (s.regions[n]?.map Region.url).getD "", pass⟩] } := by
  simp only [next, requestImage, h, hclosed, noteRequest, exec_bind, exec_get, exec_modify,
    if_true, failRegion]
  split <;> simp_all

/-! Taking a completion -/

end Session

/-- What a completion makes of its region: loaded with the image, or failed. -/
def Completion.settle? (c : Completion) (r : Region Nat) : Option (Region Nat) :=
  match c.outcome with
  | .ok image => r.resolve? image
  | .error _ => r.fail?

theorem Completion.settle?_eq_some {c : Completion} {r r' : Region Nat}
    (h : c.settle? r = some r') :
    r.state = .loading ∧ r'.url = r.url ∧ r'.isTerminal = true := by
  unfold Completion.settle? at h
  split at h <;>
    · simp only [Region.resolve?, Region.fail?, Option.ite_none_left_eq_some,
        Option.some.injEq] at h
      obtain ⟨hloading, rfl⟩ := h
      refine ⟨?_, rfl, rfl⟩
      simpa [Region.isTerminal] using hloading

namespace Session

variable {υ : Type} {s : Session υ} {l : Loader}

theorem exec_drainOne_nil (tell : Tell υ) (h : s.loader = some l) (hc : l.completed = []) :
    exec (drainOne tell) s = (.ok none, s) := by
  simp [drainOne, h, Loader.takeCompletion?, hc]

/-- A completion of a pass that is not current is dropped. -/
theorem exec_drainOne_stale (tell : Tell υ) {c : Completion} {cs : List Completion}
    (h : s.loader = some l) (hc : l.completed = c :: cs)
    (hstale : l.accepts s.tracker c.pass = false) :
    ∃ j, exec (drainOne tell) s =
      (.ok (some false), { s with loader := some { l with completed := cs }, journal := j }) := by
  let url := (s.regions[c.region]?.map Region.url).getD ""
  refine ⟨s.journal.write ⟨.debug, partLogger "images",
    s!"Discarding stale image url={url} pass={Pass.shown? c.pass}"⟩, ?_⟩
  simp only [drainOne, h, Loader.takeCompletion?, hc, hstale, exec_bind, exec_get, exec_modify,
    exec_log, exec_pure, Option.bind_some, Option.map_some, Bool.not_false, if_true]
  rfl

/-- A completion of the current pass, or of none, ends the wait of its region. -/
theorem exec_drainOne_current (tell : Tell υ) {c : Completion} {cs : List Completion}
    (h : s.loader = some l) (hc : l.completed = c :: cs)
    (hcurrent : l.accepts s.tracker c.pass = true) :
    ∃ j, exec (drainOne tell) s =
      match exec (settle tell c.region c.settle?)
        { s with loader := some { l with completed := cs }, journal := j } with
      | (.ok _, t) => (.ok (some true), t)
      | (.error e, t) => (.error e, t) := by
  rcases ho : c.outcome with reason | image
  · have hsettle : c.settle? = Region.fail? := by
      funext r
      simp [Completion.settle?, ho]
    let url := (s.regions[c.region]?.map Region.url).getD ""
    refine ⟨s.journal.write ⟨.info, partLogger "images",
      s!"Image load failed url={url}: {reason}"⟩, ?_⟩
    simp only [drainOne, h, Loader.takeCompletion?, hc, hcurrent, ho, hsettle, exec_bind, exec_get,
      exec_modify, exec_log, failRegion, Option.bind_some, Option.map_some, Bool.not_true,
      Bool.false_eq_true, if_false]
    generalize exec (settle tell c.region _) _ = x
    rcases x with ⟨e | a, t⟩ <;> rfl
  · have hsettle : c.settle? = fun r => r.resolve? image := by
      funext r
      simp [Completion.settle?, ho]
    refine ⟨s.journal, ?_⟩
    simp only [drainOne, h, Loader.takeCompletion?, hc, hcurrent, ho, hsettle, exec_bind, exec_get,
      exec_modify, resolve, Option.bind_some, Option.map_some, Bool.not_true,
      Bool.false_eq_true, if_false]
    generalize exec (settle tell c.region _) _ = x
    rcases x with ⟨e | a, t⟩ <;> rfl

end Session
end RemoteScreen
