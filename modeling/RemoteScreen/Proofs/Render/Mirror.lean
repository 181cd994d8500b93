import Mathlib.Data.List.Forall2
import RemoteScreen.Proofs.Render.Renderer

/-! With the built-in strategies a rendering mirrors the descriptors: each node that can be seen has
one counterpart, at the same place, whose kind depends on the type of the node and on what the node
stands in directly. -/
namespace RemoteScreen

/-- What a node stands in directly. -/
inductive Container where
  | root | carousel | hscroll
  deriving DecidableEq, Repr

namespace Container

/-- What a placeholder says there. -/
def message : Container → String
  | root => "Unknown component"
  | carousel => "Unknown carousel item"
  | hscroll => "Unknown hscroll item"

/-- The types that are not shown as placeholders there. A button is one in no container. -/
def types : Container → List String
  | root => ["planetCard", "galaxyStats", "exploreButton", "carousel", "hscroll"]
  | carousel | hscroll => ["planetCard", "galaxyStats", "carousel", "hscroll"]

theorem types_subset (k : Container) : k.types ⊆ root.types := by
  cases k <;> simp [types]

end Container

/-- A descriptor and its counterpart. Only carousels and rows have something below them. -/
inductive Mirrors : Container → Descriptor → Renderable → Prop where
  | card {k id ps cs title body region} :
      Mirrors k ⟨id, "planetCard", ps, cs⟩ (.card id title body region)
  | stat {k id ps cs label value maxLines} :
      Mirrors k ⟨id, "galaxyStats", ps, cs⟩ (.stat id label value maxLines)
  | action {id ps cs title sink} :
      Mirrors .root ⟨id, "exploreButton", ps, cs⟩ (.action id title sink)
  | carousel {k id ps cs title pages height}
      (below : List.Forall₂ (Mirrors .carousel) (cs.getD []) pages) :
      Mirrors k ⟨id, "carousel", ps, cs⟩ (.carousel id title pages height)
  | hscroll {k id ps cs title slots spacing}
      (below : List.Forall₂ (Mirrors .hscroll) (cs.getD []) (slots.map Slot.content)) :
      Mirrors k ⟨id, "hscroll", ps, cs⟩ (.hscroll id title slots spacing)
  | unknown {k id type ps cs} (h : type ∉ k.types) :
      Mirrors k ⟨id, type, ps, cs⟩ (.unknown id type k.message)

namespace Descriptor

mutual

/-- The nodes of a tree that can be seen, in pre-order. -/
def visible : Descriptor → List Descriptor
  | ⟨id, type, ps, cs⟩ =>
    ⟨id, type, ps, cs⟩ ::
      if type = "carousel" ∨ type = "hscroll" then visibleChildren cs else []

def visibleChildren : Option (List Descriptor) → List Descriptor
  | none => []
  | some ds => visibleList ds

def visibleList : List Descriptor → List Descriptor
  | [] => []
  | d :: ds => visible d ++ visibleList ds

end

end Descriptor

namespace Mirrors

open Renderable (walk walkList)
open Descriptor (visible visibleChildren visibleList)

mutual

theorem walk_ids {k : Container} {r : Renderable} : ∀ {d : Descriptor}, Mirrors k d r →
    (walk r).map Renderable.id = (visible d).map Descriptor.id
  | ⟨id, type, ps, cs⟩, h => by
    rw [Renderable.walk_eq, visible]
    cases h with
    | card => rfl
    | stat => rfl
    | action => rfl
    | carousel hpages =>
      have hbelow := walkChildren_ids hpages
      simpa [Renderable.children, Renderable.id] using hbelow
    | hscroll hcontents =>
      have hbelow := walkChildren_ids hcontents
      simpa [Renderable.children, Renderable.id] using hbelow
    | unknown hunknown =>
      have hleaf : ¬(type = "carousel" ∨ type = "hscroll") := by
        rintro (rfl | rfl) <;> cases k <;> simp [Container.types] at hunknown
      rw [if_neg hleaf]
      rfl

theorem walkChildren_ids {k : Container} {rs : List Renderable} :
    ∀ {cs : Option (List Descriptor)}, List.Forall₂ (Mirrors k) (cs.getD []) rs →
      (walkList rs).map Renderable.id = (visibleChildren cs).map Descriptor.id
  | none, h => by
    cases h
    rfl
  | some ds, h => walkList_ids h

theorem walkList_ids {k : Container} {rs : List Renderable} :
    ∀ {ds : List Descriptor}, List.Forall₂ (Mirrors k) ds rs →
      (walkList rs).map Renderable.id = (visibleList ds).map Descriptor.id
  | [], h => by
    cases h
    rfl
  | d :: ds, h => by
    cases h with
    | cons hhead htail =>
      rw [Renderable.walkList_cons, List.map_append, walk_ids hhead, walkList_ids htail,
        visibleList, List.map_append]

end

end Mirrors

namespace Render

open Session

variable {υ : Type} {reg : Registry Strategy} {d : Descriptor} {c : Context} {k : Container}
  {children : Context → Act υ (List Renderable)}

/-- The context of nodes that stand there. -/
structure Stands (k : Container) (c : Context) : Prop where
  message : c.message = k.message
  allowed : c.allowed = if k = .root then none else some k.types
  images : c.images.Willing

theorem Stands.carousel (h : Stands k c) :
    Stands .carousel (c.within Strategy.containerTypes Strategy.carouselMessage) :=
  ⟨rfl, rfl, h.images⟩

theorem Stands.hscroll (h : Stands k c) :
    Stands .hscroll (c.within Strategy.containerTypes Strategy.hscrollMessage) :=
  ⟨rfl, rfl, h.images⟩

/-- The built-in strategies serve exactly the types that the root takes. -/
theorem has_default_iff (tag : String) :
    Registry.default.has tag = true ↔ tag ∈ Container.root.types := by
  simp [Registry.has, Registry.get?, Option.isSome_iff_ne_none, List.lookup_eq_none_iff,
    Registry.default, Container.types, Strategy.cardTag, Strategy.statTag, Strategy.actionTag,
    Strategy.carouselTag, Strategy.hscrollTag, Decidable.or_iff_not_imp_left]

theorem Stands.accepts_iff (h : Stands k c) (tag : String) :
    c.accepts .default tag = true ↔ tag ∈ k.types := by
  rw [Context.accepts, Bool.and_eq_true, has_default_iff, Context.allows, h.allowed]
  cases k with
  | root => simp
  | carousel => simpa using fun h => Container.types_subset .carousel h
  | hscroll => simpa using fun h => Container.types_subset .hscroll h

theorem guarded_yields {body : Act υ Renderable} {P : Renderable → Prop} (h : Yields body P) :
    Yields (guarded d body) P := by
  intro s
  obtain ⟨r, t, hs, hr⟩ := h s
  exact ⟨r, t, by simp [guarded, hs], hr⟩

/-- The strategy for a type that is taken makes the counterpart. -/
theorem served_mirrors {id type : String} {ps : Properties} {cs : Option (List Descriptor)}
    (hk : Stands k c) (hmem : type ∈ k.types)
    (hchildren : ∀ c k, Stands k c → Yields (children c) (List.Forall₂ (Mirrors k) (cs.getD []))) :
    ∃ s, Registry.default.get? type = some s ∧
      Yields (s.render ⟨id, type, ps, cs⟩ c children) (Mirrors k ⟨id, type, ps, cs⟩) := by
  have hroot := k.types_subset hmem
  simp only [Container.types, List.mem_cons, List.not_mem_nil, or_false] at hroot
  rcases hroot with rfl | rfl | rfl | rfl | rfl
  · refine ⟨.card, rfl, ?_⟩
    exact yields_after (cardRegion_yields hk.images _) fun _ => yields_pure .card
  · exact ⟨.stat, rfl, yields_pure .stat⟩
  · refine ⟨.action, rfl, yields_pure ?_⟩
    cases k with
    | root => exact .action
    | carousel => simp [Container.types] at hmem
    | hscroll => simp [Container.types] at hmem
  · refine ⟨.carousel, rfl, ?_⟩
    exact yields_bind (hchildren _ _ hk.carousel) fun _ hpages => yields_pure (.carousel hpages)
  · refine ⟨.hscroll, rfl, ?_⟩
    refine yields_bind (hchildren _ _ hk.hscroll) fun shown hshown => yields_pure (.hscroll ?_)
    simp only [Descriptor.childList]
    rw [contents_slots hshown.length_eq.symm]
    exact hshown

theorem mirrors_compositional :
    Compositional (υ := υ) .default
      (fun d c m => ∀ k, Stands k c → Yields m (Mirrors k d))
      (fun ds c m => ∀ k, Stands k c → Yields m (List.Forall₂ (Mirrors k) ds)) where
  node := by
    rintro ⟨id, type, ps, cs⟩ c children hchildren k hk
    by_cases hmem : type ∈ k.types
    · obtain ⟨s, hs, hserved⟩ := served_mirrors hk hmem fun c k hk => hchildren c k hk
      rw [dispatchWith_accepted ((hk.accepts_iff type).2 hmem) hs]
      exact guarded_yields hserved
    · have hrefused : c.accepts .default type = false :=
        Bool.eq_false_iff.2 fun h => hmem ((hk.accepts_iff type).1 h)
      rw [dispatchWith_refused hrefused]
      refine yields_after (yields_modify trivial) fun _ => yields_pure ?_
      rw [hk.message]
      exact .unknown hmem
  nil := fun c k _ => yields_pure .nil
  cons := by
    intro d ds c m ms hm hms k hk
    refine yields_bind (hm k hk) fun r hr => ?_
    exact yields_bind (hms k hk) fun rs hrs => yields_pure (.cons hr hrs)

end Render

namespace Renderer

open Session Render

variable {υ : Type} {s : Session υ}

/-- Nothing is lost, invented or put elsewhere: each root, and each child of a carousel or of a row
that can be seen, has its counterpart at its place, and nothing else is there. -/
theorem render_mirrors {r : Renderer} (hregistry : r.registry = .default)
    (himages : r.images.Willing) (hpaced : s.telemetry.Paced) {ds : List Descriptor}
    (hds : Descriptor.nodesList ds < 2 ^ 1023) (pass : Option Pass) :
    ∃ out t, exec (r.render ds pass) s = (.ok out, t) ∧
      List.Forall₂ (Mirrors .root) ds out ∧
      (Renderable.walkList out).map Renderable.id =
        (Descriptor.visibleList ds).map Descriptor.id := by
  have hfallback : r.registry.fallback.Reliable := by
    rw [hregistry]
    exact Strategy.placeholder_reliable
  obtain ⟨u, out, v, t, -, hout, -, hrender⟩ := exec_render hfallback himages hpaced hds pass
  have hstands : Stands .root (r.context pass) := ⟨rfl, rfl, himages⟩
  have hmirrors := mirrors_compositional.dispatchList (υ := υ) ds (r.context pass) .root hstands
  rw [hregistry] at hout
  have hout := hmirrors.gives u out v hout
  exact ⟨out, t, hrender, hout, Mirrors.walkList_ids hout⟩

/-- A button in a row, a carousel in a row, and a button with a child. -/
def nested : List Descriptor :=
  [⟨"row", "hscroll", [], some [⟨"go", "exploreButton", [], none⟩,
      ⟨"pages", "carousel", [], some [⟨"mars", "planetCard", [], none⟩]⟩]⟩,
    ⟨"go", "exploreButton", [], some [⟨"below", "planetCard", [], none⟩]⟩]

theorem render_mirrors_nested :
    ∃ out t,
      exec (({} : Renderer).render nested none) ({ ui := () } : Session Unit) = (.ok out, t) ∧
      List.Forall₂ (Mirrors .root) nested out ∧
      (Renderable.walkList out).map Renderable.id = ["row", "go", "pages", "mars", "go"] := by
  have hsize : Descriptor.nodesList nested < 1023 := by decide
  obtain ⟨out, t, hrender, hmirrors, hwalk⟩ :=
    render_mirrors (s := { ui := () }) (r := {}) rfl trivial (Telemetry.paced_of_clock_nil rfl)
      (Nat.lt_trans hsize (Nat.lt_two_pow_self (n := 1023))) none
  exact ⟨out, t, hrender, hmirrors, hwalk⟩

end Renderer
end RemoteScreen
