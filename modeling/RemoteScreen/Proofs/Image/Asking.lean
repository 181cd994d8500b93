import RemoteScreen.Proofs.Session.Images
import RemoteScreen.Proofs.Session.Reports

/-! The moment at which an image is asked for: each request that a step makes, with the region as it
is just then. -/
namespace RemoteScreen
namespace Session

variable {υ α β : Type} {s t : Session υ}

/-- A step makes these requests, in this order, and each finds its region as given beside it. -/
inductive Asks : {α : Type} → Act υ α → Session υ → List (ImageRequest × Region Nat) → Prop where
  | quiet {α : Type} {m : Act υ α} {s : Session υ} (h : (next m s).requests = s.requests) :
      Asks m s []
  | ask {q : ImageRequest} {r : Region Nat} {s : Session υ} (h : s.regions[q.region]? = some r) :
      Asks (noteRequest q) s [(q, r)]
  | bind {α β : Type} {m : Act υ α} {f : α → Act υ β} {s t : Session υ} {a : α}
      {qs ps : List (ImageRequest × Region Nat)} (hm : exec m s = (.ok a, t)) (first : Asks m s qs)
      (others : Asks (f a) t ps) : Asks (m >>= f) s (qs ++ ps)
  | stop {α β : Type} {m : Act υ α} {f : α → Act υ β} {s t : Session υ} {e : Failure}
      {qs : List (ImageRequest × Region Nat)} (hm : exec m s = (.error e, t)) (first : Asks m s qs) :
      Asks (m >>= f) s qs
  | attempt {α : Type} {m : Act υ α} {s : Session υ} {qs : List (ImageRequest × Region Nat)}
      (h : Asks m s qs) : Asks (attempt m) s qs

/-- A step that asks for nothing. -/
def AsksNothing (m : Act υ α) : Prop := ∀ s, (next m s).requests = s.requests

theorem Keeps.asksNothing {m : Act υ α} (h : Keeps Reporting m) : AsksNothing m := by
  intro s
  obtain ⟨⟨j, τ, ht⟩, -⟩ := h s
  rw [ht]

namespace Asks

variable {qs : List (ImageRequest × Region Nat)}

/-- The requests are the ones that are written down. -/
theorem requests_next {m : Act υ α} (h : Asks m s qs) :
    (next m s).requests = s.requests ++ qs.map Prod.fst := by
  induction h with
  | quiet h => simpa using h
  | ask => rfl
  | bind hm _ _ ihm ihf =>
    rw [next, hm] at ihm
    rw [next] at ihf
    rw [next, exec_bind, hm, ihf, ihm, List.map_append, List.append_assoc]
  | stop hm _ ih =>
    rw [next, hm] at ih
    rw [next, exec_bind, hm]
    exact ih
  | attempt _ ih => exact ih

theorem before {m : Act υ α} {f : α → Act υ β} {a : α} (hm : exec m s = (.ok a, t))
    (hquiet : t.requests = s.requests) (h : Asks (f a) t qs) : Asks (m >>= f) s qs := by
  have hnone : Asks m s [] := .quiet (by rw [next, hm]; exact hquiet)
  exact hnone.bind hm h

theorem after {m : Act υ α} {f : α → Act υ β} (h : Asks m s qs) (hf : ∀ a, AsksNothing (f a)) :
    Asks (m >>= f) s qs := by
  rcases hm : exec m s with ⟨e | a, t⟩
  · exact h.stop hm
  · have hbind := h.bind hm (.quiet (hf a t))
    rwa [List.append_nil] at hbind

/-- An open loader takes every request down. -/
theorem requestImage {tell : Tell υ} {l : Loader} (h : s.loader = some l) (hopen : l.closed = false)
    {n : Nat} {r : Region Nat} (hr : s.regions[n]? = some r) (pass : Option Pass) :
    Asks (requestImage tell n pass) s [(⟨n, r.url, pass⟩, r)] := by
  unfold Session.requestImage
  refine before (exec_get s) rfl ?_
  rw [h, hr]
  refine after (.ask hr) fun _ u => ?_
  rw [if_neg (by simp [hopen])]
  rfl

/-- Taking the time of a step asks for nothing. -/
theorem timed {channel : Nat} {name : String} {attributes : Attributes} {body : Act υ α}
    (h : ∀ u, Reporting s u → Asks body u qs) :
    Asks (timed channel name attributes body) s qs := by
  obtain ⟨x, u, hu, -, hsu, -⟩ := exec_readClock s
  have hstart : exec (startTimer channel name attributes) s =
      (.ok ⟨channel, name, attributes, x⟩, u) := by
    simp [startTimer, hu]
  have hrequests : u.requests = s.requests := by
    obtain ⟨⟨j, τ, rfl⟩, -⟩ := hsu
    rfl
  refine before hstart hrequests ((h u hsu).attempt.after fun r => Keeps.asksNothing ?_)
  refine keeps_bind (stopTimer_reporting _) fun _ => ?_
  cases r with
  | ok a => exact keeps_pure a
  | error e => exact keeps_fail e

end Asks

end Session
end RemoteScreen
