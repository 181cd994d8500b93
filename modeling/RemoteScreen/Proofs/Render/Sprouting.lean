import RemoteScreen.Proofs.Render.Beside

/-! The regions of a rendering. Whoever is asked for images, and whether the rendering fails or not, it
adds regions that wait for an image or have failed, and that nobody listens to; and the cards that it
gives have regions that are there. -/
namespace RemoteScreen
namespace Render

open Session
open Renderable (cardRegions)

variable {υ α β : Type} {s t : Session υ} {reg : Registry Strategy} {f : α → List Nat}
  {g : β → List Nat}

/-- Regions have been added that nobody listens to and that have no image. -/
structure Sprouts (s t : Session υ) : Prop where
  ui : t.ui = s.ui
  tracker : t.tracker = s.tracker
  readings : t.telemetry.readings ⊆ s.telemetry.readings
  regions : ∃ new, t.regions = s.regions ++ new ∧
    ∀ r ∈ new, r.listeners = [] ∧ r.state ≠ .loaded

instance : IsPreorder (Session υ) Sprouts where
  refl s := ⟨rfl, rfl, List.Subset.refl _, [], (List.append_nil _).symm,
    fun r hr => absurd hr List.not_mem_nil⟩
  trans s t u h k := by
    obtain ⟨new, ht, hnew⟩ := h.regions
    obtain ⟨more, hu, hmore⟩ := k.regions
    refine ⟨k.ui.trans h.ui, k.tracker.trans h.tracker, List.Subset.trans k.readings h.readings,
      new ++ more, ?_, fun r hr => ?_⟩
    · rw [hu, ht, List.append_assoc]
    · exact (List.mem_append.1 hr).elim (hnew r) (hmore r)

theorem Sprouts.length_le (h : Sprouts s t) : s.regions.length ≤ t.regions.length := by
  obtain ⟨new, ht, -⟩ := h.regions
  rw [ht, List.length_append]
  exact Nat.le_add_right _ _

theorem Sprouts.of_regions (hui : t.ui = s.ui) (htracker : t.tracker = s.tracker)
    (hreadings : t.telemetry.readings ⊆ s.telemetry.readings) (hregions : t.regions = s.regions) :
    Sprouts s t :=
  ⟨hui, htracker, hreadings, [], by rw [hregions, List.append_nil],
    fun r hr => absurd hr List.not_mem_nil⟩

theorem sprouts_of_reporting (h : Reporting s t) : Sprouts s t := by
  obtain ⟨⟨j, τ, rfl⟩, hreadings⟩ := h
  exact .of_regions rfl rfl hreadings rfl

theorem log_sprouts (severity : Severity) (part message : String) :
    Keeps Sprouts (log severity part message : Act υ Unit) := fun _ => .of_regions rfl rfl (List.Subset.refl _) rfl

theorem cardRegion_sprouts (c : Context) (url : String) :
    Keeps Sprouts (cardRegion c url : Act υ Nat) := by
  intro s
  have hrendering := cardRegion_rendering c url s
  have hreadings : (next (cardRegion c url) s).telemetry.readings ⊆ s.telemetry.readings := by
    rw [hrendering.telemetry]
    exact List.Subset.refl _
  refine ⟨hrendering.ui, hrendering.tracker, hreadings, ?_⟩
  rcases h : c.images.refuses url with - | -
  · obtain ⟨t, hs, -, hregions⟩ := exec_cardRegion_made h s
    rw [next, hs]
    refine ⟨_, hregions, fun r hr => ?_⟩
    obtain rfl := List.mem_singleton.1 hr
    unfold ImageSource.firstRegion
    split
    · dsimp only
      split <;> simp
    · dsimp only
      split <;> simp
  · rw [next, exec_cardRegion_refused h s]
    refine ⟨[{ url }], rfl, fun r hr => ?_⟩
    obtain rfl := List.mem_singleton.1 hr
    simp

/-! Steps that give cards -/

/-- A step that only adds regions, and whose cards have regions that are there. -/
structure Bears (f : α → List Nat) (m : Act υ α) : Prop where
  keeps : Keeps Sprouts m
  made : ∀ s a t, exec m s = (.ok a, t) → ∀ n ∈ f a, n < t.regions.length

theorem bears_pure {a : α} (h : f a = []) : Bears f (pure a : Act υ α) where
  keeps := keeps_pure a
  made := by
    intro s b t hok n hn
    obtain rfl := Except.ok.inj (Prod.mk.inj hok).1
    rw [h] at hn
    exact absurd hn List.not_mem_nil

theorem bears_fail (e : Failure) : Bears f (fail e : Act υ α) where
  keeps := keeps_fail e
  made := fun s a t hok => by simp at hok

theorem bears_bind {m : Act υ α} {k : α → Act υ β} (hm : Bears f m)
    (hk : ∀ a, Keeps Sprouts (k a))
    (hgives : ∀ a s, (∀ n ∈ f a, n < s.regions.length) → ∀ b t, exec (k a) s = (.ok b, t) →
      ∀ n ∈ g b, n < t.regions.length) : Bears g (m >>= k) where
  keeps := keeps_bind hm.keeps hk
  made := by
    intro s b u hok
    obtain ⟨a, t, hs, hrest⟩ := exec_bind_eq_ok hok
    exact hgives a t (hm.made s a t hs) b u hrest

/-- What follows makes no other cards. -/
theorem bears_seq {m : Act υ α} {k : α → Act υ β} (hm : Bears f m)
    (hk : ∀ a, Keeps Sprouts (k a)) (hg : ∀ a, Gives (k a) fun b => g b ⊆ f a) :
    Bears g (m >>= k) := by
  refine bears_bind hm hk fun a s hmade b t hok n hn => ?_
  have hst := hk a s
  rw [next, hok] at hst
  exact Nat.lt_of_lt_of_le (hmade n (hg a s b t hok hn)) hst.length_le

theorem bears_map {m : Act υ α} {k : α → β} (hm : Bears f m) (h : ∀ a, g (k a) ⊆ f a) :
    Bears g (m >>= fun a => pure (k a)) :=
  bears_seq hm (fun _ => keeps_pure _) fun a => gives_pure (h a)

/-- A first step that gives no cards. -/
theorem bears_after {m : Act υ α} {k : α → Act υ β} (hm : Keeps Sprouts m)
    (hk : ∀ a, Bears g (k a)) : Bears g (m >>= k) := by
  have hnone : Bears (fun _ => []) m := ⟨hm, fun s a t _ n hn => absurd hn List.not_mem_nil⟩
  exact bears_bind hnone (fun a => (hk a).keeps) fun a s _ => (hk a).made s

theorem cardRegion_bears (c : Context) (url : String) :
    Bears (fun n => [n]) (cardRegion c url : Act υ Nat) where
  keeps := cardRegion_sprouts c url
  made := by
    intro s n t hok k hk
    obtain rfl := List.mem_singleton.1 hk
    rcases h : c.images.refuses url with - | -
    · obtain ⟨u, hs, -, hregions⟩ := exec_cardRegion_made h s
      obtain ⟨hn, rfl⟩ := Prod.mk.inj (hs.symm.trans hok)
      obtain rfl := Except.ok.inj hn
      rw [hregions, List.length_append]
      exact Nat.lt_add_one _
    · rw [exec_cardRegion_refused h s] at hok
      simp at hok

theorem render_bears {st : Strategy} {d : Descriptor} {c : Context}
    {children : Context → Act υ (List Renderable)}
    (hchildren : ∀ types message, Bears cardRegions (children (c.within types message))) :
    Bears (fun r => cardRegions [r]) (st.render d c children) := by
  unfold Strategy.render
  split
  · exact bears_fail _
  · split
    · exact bears_pure rfl
    · exact bears_map (cardRegion_bears c _) fun n => List.Subset.refl _
    · exact bears_pure rfl
    · exact bears_pure rfl
    · refine bears_map (hchildren _ _) fun pages => ?_
      rw [cardRegions_node rfl]
      exact List.Subset.refl _
    · refine bears_map (hchildren _ _) fun shown => ?_
      rw [cardRegions_node rfl]
      exact cardRegions_subset (contents_slots_subset _ _ _ _ _)
    · exact bears_fail _

/-- The cards of an outcome, if there are any. -/
def gained (f : α → List Nat) : Except Failure α → List Nat
  | .ok a => f a
  | .error _ => []

theorem bears_attempt {m : Act υ α} (h : Bears f m) : Bears (gained f) (attempt m) where
  keeps := keeps_attempt h.keeps
  made := by
    intro s r t hok n hn
    rw [exec_attempt] at hok
    obtain ⟨hr, rfl⟩ := Prod.mk.inj hok
    obtain rfl := Except.ok.inj hr
    rcases hs : exec m s with ⟨e | a, t⟩ <;> rw [hs] at hn
    · exact absurd hn List.not_mem_nil
    · exact h.made s a t hs n hn

theorem guarded_bears {d : Descriptor} {body : Act υ Renderable}
    (h : Bears (fun r => cardRegions [r]) body) :
    Bears (fun r => cardRegions [r]) (guarded d body) := by
  refine bears_seq (bears_attempt h) (fun r => ?_) fun r => ?_
  · split
    · exact keeps_pure _
    · exact keeps_bind (log_sprouts _ _ _) fun _ => keeps_pure _
  · split
    · exact gives_pure (List.Subset.refl _)
    · exact gives_after fun _ => gives_pure (List.nil_subset _)

theorem bears_compositional :
    Compositional (υ := υ) reg (fun _ _ m => Bears (fun r => cardRegions [r]) m)
      (fun _ _ m => Bears cardRegions m) where
  node := by
    intro d c children h
    unfold dispatchWith serve
    split
    · exact guarded_bears (render_bears fun _ _ => h _)
    · exact bears_after (log_sprouts _ _ _) fun _ => render_bears fun _ _ => h _
  nil _ := bears_pure rfl
  cons := by
    intro d ds c m ms hm hms
    refine bears_bind hm (fun r => keeps_bind hms.keeps fun _ => keeps_pure _) ?_
    intro r s hr rs t hok n hn
    obtain ⟨rs', u, hs, hrest⟩ := exec_bind_eq_ok hok
    obtain ⟨hrs, rfl⟩ := Prod.mk.inj hrest
    obtain rfl := Except.ok.inj hrs
    have hsu := hms.keeps s
    rw [next, hs] at hsu
    obtain ⟨x, hx, hnx⟩ := mem_cardRegions.1 hn
    rcases List.mem_cons.1 hx with rfl | hx
    · exact Nat.lt_of_lt_of_le (hr n hnx) hsu.length_le
    · exact hms.made s rs' _ hs n (mem_cardRegions.2 ⟨x, hx, hnx⟩)

end Render

namespace Renderer

open Session Render
open Renderable (cardRegions)

variable {υ α : Type}

theorem timed_bears {f : α → List Nat} {body : Act υ α} (h : Bears f body) (channel : Nat)
    (name : String) (attributes : Attributes) : Bears f (timed channel name attributes body) := by
  refine bears_after ?_ fun timer => ?_
  · exact keeps_bind (readClock_reporting.mono fun _ _ => sprouts_of_reporting) fun _ =>
      keeps_pure _
  · have hstop := (stopTimer_reporting (υ := υ) timer).mono fun _ _ => sprouts_of_reporting
    refine bears_seq (bears_attempt h) (fun r => ?_) fun r => ?_
    · exact keeps_bind hstop fun _ => keeps_ofExcept r
    · refine gives_after fun _ => ?_
      cases r with
      | error e => exact gives_fail e _
      | ok a => exact gives_pure (List.Subset.refl _)

/-- A whole rendering adds regions, and if it gives anything its cards have regions that are there. -/
theorem render_bears (r : Renderer) (ds : List Descriptor) (pass : Option Pass) :
    Bears cardRegions (r.render ds pass : Act υ (List Renderable)) := by
  have hcount (n : Nat) (value : Value) :=
    (count_reporting (υ := υ) n "render.unknown_components" value []).mono
      fun _ _ => sprouts_of_reporting
  refine bears_after ((channelOr_reporting _).mono fun _ _ => sprouts_of_reporting) fun channel => ?_
  refine bears_seq (timed_bears (bears_compositional.dispatchList ds (r.context pass)) _ _ _)
    (fun out => ?_) fun out => ?_
  · dsimp only
    split
    · refine keeps_bind (hcount _ _) fun _ => ?_
      exact keeps_bind (log_sprouts _ _ _) fun _ => keeps_pure _
    · exact keeps_bind (log_sprouts _ _ _) fun _ => keeps_pure _
  · dsimp only
    split
    · refine gives_after fun _ => gives_after fun _ => gives_pure (List.Subset.refl _)
    · exact gives_after fun _ => gives_pure (List.Subset.refl _)

end Renderer
end RemoteScreen
