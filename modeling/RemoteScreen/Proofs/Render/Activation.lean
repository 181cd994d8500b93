import RemoteScreen.Proofs.Render.Made

/-! Activations. Every place of a recording sink in a tree of fan-outs gets each activated id once,
in the order of the places, and nothing else happens. -/
namespace RemoteScreen

namespace Sink

/-- Nothing but fan-outs and recording sinks. -/
inductive Recording : Sink → Prop where
  | memory {slot} : Recording (.memory slot)
  | fanout {ss} (below : ∀ s ∈ ss, Recording s) : Recording (.fanout ss)

/-- Where a recording sink stands: which sink to take in each fan-out on the way there. -/
structure Place where
  path : List Nat
  slot : Nat

inductive LeadsTo : Sink → List Nat → Nat → Prop where
  | here {slot} : LeadsTo (.memory slot) [] slot
  | inside {ss i s path slot} (taken : ss[i]? = some s) (rest : LeadsTo s path slot) :
      LeadsTo (.fanout ss) (i :: path) slot

def Place.under (i : Nat) (p : Place) : Place := ⟨i :: p.path, p.slot⟩

mutual

/-- The places of recording sinks, in the order in which a walk from left to right comes to them. -/
def places : Sink → List Place
  | memory slot => [⟨[], slot⟩]
  | fanout ss => placesFrom 0 ss
  | _ => []

/-- The same for the sinks of a fan-out from number `i` on. -/
def placesFrom (i : Nat) : List Sink → List Place
  | [] => []
  | s :: ss => (places s).map (Place.under i) ++ placesFrom (i + 1) ss

end

mutual

theorem mem_places_iff (p : Place) : ∀ k : Sink, p ∈ places k ↔ k.LeadsTo p.path p.slot
  | memory slot => by
    obtain ⟨path, n⟩ := p
    rw [places, List.mem_singleton, Place.mk.injEq]
    constructor
    · rintro ⟨rfl, rfl⟩
      exact .here
    · intro h
      cases h
      exact ⟨rfl, rfl⟩
  | fanout ss => by
    rw [places, mem_placesFrom_iff p 0 ss]
    constructor
    · rintro ⟨i, s, path, hs, hpath, hrest⟩
      rw [hpath, Nat.zero_add]
      exact .inside hs hrest
    · intro h
      obtain ⟨path, n⟩ := p
      cases h with
      | @inside _ i s path _ hs hrest => exact ⟨i, s, path, hs, by rw [Nat.zero_add], hrest⟩
  | journal => ⟨fun h => absurd h List.not_mem_nil, fun h => nomatch h⟩
  | telemetry _ => ⟨fun h => absurd h List.not_mem_nil, fun h => nomatch h⟩
  | refusing => ⟨fun h => absurd h List.not_mem_nil, fun h => nomatch h⟩

theorem mem_placesFrom_iff (p : Place) (i : Nat) : ∀ ss : List Sink,
    p ∈ placesFrom i ss ↔
      ∃ j s path, ss[j]? = some s ∧ p.path = (i + j) :: path ∧ s.LeadsTo path p.slot
  | [] => by simp [placesFrom]
  | s :: ss => by
    rw [placesFrom, List.mem_append, List.mem_map, mem_placesFrom_iff p (i + 1) ss]
    constructor
    · rintro (⟨q, hq, rfl⟩ | ⟨j, t, path, ht, hpath, hrest⟩)
      · exact ⟨0, s, q.path, rfl, rfl, (mem_places_iff q s).1 hq⟩
      · exact ⟨j + 1, t, path, ht, by rw [hpath, Nat.add_right_comm, Nat.add_assoc], hrest⟩
    · rintro ⟨j, t, path, ht, hpath, hrest⟩
      cases j with
      | zero =>
        obtain rfl : s = t := Option.some.inj ht
        refine .inl ⟨⟨path, p.slot⟩, (mem_places_iff ⟨path, p.slot⟩ s).2 hrest, ?_⟩
        rw [Place.under, ← Nat.add_zero i, ← hpath]
      | succ j =>
        exact .inr ⟨j, t, path, ht, by rw [hpath, Nat.add_right_comm, Nat.add_assoc], hrest⟩

end

/-- Paths as they are walked: the first step where they part decides. -/
def InOrder (ps : List Place) : Prop := ps.Pairwise fun p q => p.path < q.path

mutual

theorem places_inOrder : ∀ k : Sink, InOrder (places k)
  | memory _ => List.pairwise_singleton _ _
  | fanout ss => placesFrom_inOrder 0 ss
  | journal => .nil
  | telemetry _ => .nil
  | refusing => .nil

theorem placesFrom_inOrder (i : Nat) : ∀ ss : List Sink, InOrder (placesFrom i ss)
  | [] => .nil
  | s :: ss => by
    have hfirst : ((places s).map (Place.under i)).Pairwise fun p q => p.path < q.path := by
      rw [List.pairwise_map]
      exact (places_inOrder s).imp fun h => List.cons_lt_cons_iff.2 (.inr ⟨rfl, h⟩)
    refine List.pairwise_append.2 ⟨hfirst, placesFrom_inOrder (i + 1) ss, ?_⟩
    intro p hp q hq
    obtain ⟨p, -, rfl⟩ := List.mem_map.1 hp
    obtain ⟨j, -, path, -, hpath, -⟩ := (mem_placesFrom_iff q (i + 1) ss).1 hq
    rw [hpath, Place.under]
    exact List.cons_lt_cons_iff.2 (.inl (by omega))

end

end Sink

namespace Session

open Sink (places placesFrom)

variable {υ : Type}

/-- What the recording sinks at some places get when `id` is activated. -/
def deliveriesAt (ps : List Sink.Place) (id : String) : List Delivery :=
  ps.map fun p => ⟨p.slot, id⟩

/-- The session after some deliveries. -/
def delivered (ds : List Delivery) (s : Session υ) : Session υ :=
  { s with deliveries := s.deliveries ++ ds }

@[simp] theorem delivered_nil (s : Session υ) : delivered [] s = s := by simp [delivered]

theorem delivered_append (ds es : List Delivery) (s : Session υ) :
    delivered (ds ++ es) s = delivered es (delivered ds s) := by simp [delivered]

mutual

theorem exec_activate (id : String) : ∀ {k : Sink} (_ : k.Recording) (s : Session υ),
    exec (activate id k) s = (.ok ⟨⟩, delivered (deliveriesAt (places k) id) s)
  | .memory _, _, _ => rfl
  | .fanout ss, h, s => by
    cases h with
    | fanout hbelow =>
      rw [activate, places]
      exact exec_activateList id 0 hbelow s

theorem exec_activateList (id : String) (i : Nat) :
    ∀ {ss : List Sink} (_ : ∀ k ∈ ss, k.Recording) (s : Session υ),
      exec (activateList id ss) s = (.ok ⟨⟩, delivered (deliveriesAt (placesFrom i ss) id) s)
  | [], _, s => by rw [placesFrom, deliveriesAt, List.map_nil, delivered_nil]; rfl
  | k :: ks, h, s => by
    have hfirst := exec_activate id (h k List.mem_cons_self) s
    have hrest := exec_activateList id (i + 1) (fun k hk => h k (List.mem_cons_of_mem _ hk))
      (delivered (deliveriesAt (places k) id) s)
    have hplaces : deliveriesAt (placesFrom i (k :: ks)) id =
        deliveriesAt (places k) id ++ deliveriesAt (placesFrom (i + 1) ks) id := by
      rw [placesFrom, deliveriesAt, List.map_append, List.map_map]
      rfl
    rw [activateList, exec_bind, hfirst, hplaces, delivered_append]
    exact hrest

end

/-- Actions that all report to one tree, activated one after the other. -/
theorem exec_activations {k : Sink} (hk : k.Recording) {xs : List Renderable}
    (hxs : ∀ x ∈ xs, ∃ id title, x = .action id title (some k)) (s : Session υ) :
    exec (xs.forM activateRenderable) s =
      (.ok ⟨⟩, delivered (xs.flatMap fun x => deliveriesAt (places k) x.id) s) := by
  induction xs generalizing s with
  | nil => rw [List.flatMap_nil, delivered_nil]; rfl
  | cons x xs ih =>
    obtain ⟨id, title, rfl⟩ := hxs x List.mem_cons_self
    have hrest := ih (fun x hx => hxs x (List.mem_cons_of_mem _ hx))
      (delivered (deliveriesAt (places k) id) s)
    rw [List.forM_eq_forM, List.forM_cons, exec_bind, activateRenderable, exec_activate id hk,
      List.flatMap_cons, delivered_append]
    exact hrest

theorem received_deliveriesAt (slot : Nat) (ps : List Sink.Place) (id : String) :
    Delivery.received slot (deliveriesAt ps id) =
      List.replicate (ps.countP fun p => p.slot == slot) id := by
  induction ps with
  | nil => rfl
  | cons p ps ih =>
    simp only [Delivery.received, deliveriesAt] at ih
    by_cases h : p.slot = slot
    · simp [Delivery.received, deliveriesAt, h, ih, List.replicate_succ]
    · simp [Delivery.received, deliveriesAt, h, ih]

theorem received_flatMap {α : Type} (slot : Nat) (xs : List α) (f : α → List Delivery) :
    Delivery.received slot (xs.flatMap f) = xs.flatMap fun x => Delivery.received slot (f x) := by
  induction xs with
  | nil => rfl
  | cons x xs ih => rw [List.flatMap_cons, List.flatMap_cons, Delivery.received_append, ih]

end Session

namespace Renderer

open Session

variable {υ : Type}

/-- Activating actions of a rendered tree, however often, sends the id of each to every place of a
recording sink, from left to right, before the next one is activated. Regions and all else stay as
they are. -/
theorem activations_reach_every_place {r : Renderer} (hsinks : r.actions.Recording)
    {ds : List Descriptor} {pass : Option Pass} {s₀ t₀ : Session υ} {out : List Renderable}
    (hout : exec (r.render ds pass) s₀ = (.ok out, t₀)) {xs : List Renderable}
    (hxs : ∀ x ∈ xs, x ∈ Renderable.walkList out ∧ x.isAction = true) (s : Session υ) :
    (r.actions.places.Pairwise fun p q => p.path < q.path) ∧
      (∀ p, p ∈ r.actions.places ↔ r.actions.LeadsTo p.path p.slot) ∧
      exec (xs.forM activateRenderable) s = (.ok ⟨⟩, { s with
        deliveries := s.deliveries ++
          xs.flatMap fun x => r.actions.places.map fun p => ⟨p.slot, x.id⟩ }) ∧
      ∀ slot, Delivery.received slot (next (xs.forM activateRenderable) s).deliveries =
        Delivery.received slot s.deliveries ++ xs.flatMap fun x =>
          List.replicate (r.actions.places.countP fun p => p.slot == slot) x.id := by
  have hactions : ∀ x ∈ xs, ∃ id title, x = .action id title (some r.actions) := by
    intro x hx
    obtain ⟨hwalk, haction⟩ := hxs x hx
    cases r.render_made ds pass s₀ out t₀ hout x hwalk with
    | action => exact ⟨_, _, rfl⟩
    | _ => cases haction
  have hexec := exec_activations hsinks hactions s
  refine ⟨r.actions.places_inOrder, fun p => Sink.mem_places_iff p r.actions, hexec,
    fun slot => ?_⟩
  rw [next, hexec, delivered, Delivery.received_append, received_flatMap]
  simp only [received_deliveriesAt]

/-- One recording sink twice and another one once, at three depths, and a fan-out without sinks. -/
def branching : Sink := .fanout [.memory 0, .fanout [], .fanout [.memory 1, .fanout [.memory 0]]]

/-- Buttons at the root and on a page. -/
def buttons : List Descriptor :=
  [⟨"pages", "carousel", [], some [⟨"land", "exploreButton", [], none⟩]⟩,
    ⟨"orbit", "exploreButton", [], none⟩]

/-- Buttons are taken on pages, too. -/
def buttonRegistry : Registry Strategy :=
  { fallback := .placeholder
    entries := [("exploreButton", .action),
      ("carousel", ⟨.carousel ["exploreButton"] 300, fun _ => none⟩)] }

theorem branching_recording : branching.Recording := by
  refine .fanout fun k hk => ?_
  simp only [List.mem_cons, List.not_mem_nil, or_false] at hk
  rcases hk with rfl | rfl | rfl
  · exact .memory
  · exact .fanout (by simp)
  · refine .fanout fun k hk => ?_
    simp only [List.mem_cons, List.not_mem_nil, or_false] at hk
    rcases hk with rfl | rfl
    · exact .memory
    · exact .fanout fun k hk => by
        obtain rfl := List.mem_singleton.1 hk
        exact .memory

theorem activations_reach_every_place_branching :
    ∃ land orbit : Renderable, ∃ out t,
      exec (({ registry := buttonRegistry, actions := branching } : Renderer).render buttons none)
        ({ ui := () } : Session Unit) = (.ok out, t) ∧
      (∀ x ∈ [land, orbit, land], x ∈ Renderable.walkList out ∧ x.isAction = true) ∧
      Delivery.received 0 (next ([land, orbit, land].forM activateRenderable) t).deliveries =
        Delivery.received 0 t.deliveries ++ ["land", "land", "orbit", "orbit", "land", "land"] := by
  let land : Renderable := .action "land" "Explore" (some branching)
  let orbit : Renderable := .action "orbit" "Explore" (some branching)
  let out : List Renderable := [.carousel "pages" "" [land] 300, orbit]
  let r : Renderer := { registry := buttonRegistry, actions := branching }
  have hdispatch (u : Session Unit) :
      exec (Render.dispatchList r.registry buttons (r.context none)) u = (.ok out, u) := rfl
  obtain ⟨t, hrender⟩ := exec_render_of_dispatch r out { ui := () }
    Strategy.placeholder_reliable trivial (Telemetry.paced_of_clock_nil rfl) (by decide)
    fun u => ⟨u, hdispatch u⟩
  have hpressed : ∀ x ∈ [land, orbit, land], x ∈ Renderable.walkList out ∧ x.isAction = true := by
    simp [out, land, orbit, Renderable.walk, Renderable.isAction]
  obtain ⟨-, -, -, hreceived⟩ :=
    activations_reach_every_place branching_recording hrender hpressed t
  exact ⟨land, orbit, out, t, hrender, hpressed, hreceived 0⟩

end Renderer
end RemoteScreen
