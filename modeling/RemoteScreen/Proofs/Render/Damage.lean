import RemoteScreen.Proofs.Render.Beside

/-! Two renderings of one forest, where strategies give up on more descriptors in the second. Both
run side by side: only the outermost nodes that are lost differ, and each has a placeholder in its
place. -/
namespace RemoteScreen

namespace Strategy

/-- The second strategy does the same, and gives up wherever the first does. -/
structure Frailer (s s' : Strategy) : Prop where
  manner : s'.manner = s.manner
  fault : ∀ d, s'.fault d = none → s.fault d = none

end Strategy

namespace Registry

/-- The second registry has the same tags, and strategies that give up on more descriptors. -/
structure Frailer (reg reg' : Registry Strategy) : Prop where
  fallback : reg'.fallback = reg.fallback
  entries : List.Forall₂ (fun e e' => e'.1 = e.1 ∧ e.2.Frailer e'.2) reg.entries reg'.entries

/-- Whether the strategy of a node that is accepted gives up on it. -/
def givesUp (reg : Registry Strategy) (c : Context) (d : Descriptor) : Bool :=
  c.accepts reg d.type && ((reg.get? d.type).bind fun s => s.fault d).isSome

/-- The second registry gives up on a node on which the first does not. -/
def Lost (reg reg' : Registry Strategy) (c : Context) (d : Descriptor) : Prop :=
  reg.givesUp c d = false ∧ reg'.givesUp c d = true

end Registry

section

variable (reg reg' : Registry Strategy) (gs gs' : List (Region Nat))

mutual

/-- What is shown for one node with two registries, and with the regions there are then. A node that
is lost has a placeholder; any other is as it was, down to what is lost below it. -/
inductive Spared : Context → Descriptor → Renderable → Renderable → Prop where
  | lost {c d r} (lost : reg.Lost reg' c d) :
      Spared c d r (.unknown d.id d.type "Component failed to render")
  | leaf {c d r} (kept : ¬ reg.Lost reg' c d) (children : r.children = [])
      (region : r.region? = none) : Spared c d r r
  | card {c d id title body n n' g} (kept : ¬ reg.Lost reg' c d) (first : gs[n]? = some g)
      (second : gs'[n']? = some g) : Spared c d (.card id title body n) (.card id title body n')
  | carousel {c d id title pages pages' types height} (kept : ¬ reg.Lost reg' c d)
      (served : (reg.get? d.type).map Strategy.manner = some (.carousel types height))
      (below : SparedList (c.within types Strategy.carouselMessage) d.childList pages pages') :
      Spared c d (.carousel id title pages height) (.carousel id title pages' height)
  | hscroll {c d id title ss ss' spacing types widths w u} (kept : ¬ reg.Lost reg' c d)
      (served : (reg.get? d.type).map Strategy.manner = some (.hscroll types widths w u))
      (below : SparedSlots u (c.within types Strategy.hscrollMessage) d.childList ss ss') :
      Spared c d (.hscroll id title ss spacing) (.hscroll id title ss' spacing)

inductive SparedList : Context → List Descriptor → List Renderable → List Renderable → Prop where
  | nil {c} : SparedList c [] [] []
  | cons {c d ds r r' rs rs'} (first : Spared c d r r') (others : SparedList c ds rs rs') :
      SparedList c (d :: ds) (r :: rs) (r' :: rs')

/-- In a row the slot of a node that is lost has the width for what is unknown. -/
inductive SparedSlots : Int → Context → List Descriptor → List (Slot Renderable) →
    List (Slot Renderable) → Prop where
  | nil {u c} : SparedSlots u c [] [] []
  | lost {u c d ds w r r' ss ss'} (lost : reg.Lost reg' c d) (content : Spared c d r r')
      (others : SparedSlots u c ds ss ss') :
      SparedSlots u c (d :: ds) (⟨w, r⟩ :: ss) (⟨u, r'⟩ :: ss')
  | kept {u c d ds w r r' ss ss'} (kept : ¬ reg.Lost reg' c d) (content : Spared c d r r')
      (others : SparedSlots u c ds ss ss') :
      SparedSlots u c (d :: ds) (⟨w, r⟩ :: ss) (⟨w, r'⟩ :: ss')

end

end

/-! Registries -/

namespace Registry

variable {reg reg' : Registry Strategy}

theorem lookup_frailer {es es' : List (String × Strategy)}
    (h : List.Forall₂ (fun e e' => e'.1 = e.1 ∧ e.2.Frailer e'.2) es es') (tag : String) :
    Option.Rel Strategy.Frailer (es.lookup tag) (es'.lookup tag) := by
  induction h with
  | nil => exact .none
  | @cons e e' es es' he _ ih =>
    obtain ⟨key, s⟩ := e
    obtain ⟨key', s'⟩ := e'
    obtain ⟨rfl, hfrail⟩ := he
    simp only [List.lookup_cons]
    split
    · exact .some hfrail
    · exact ih

theorem Frailer.get? (h : reg.Frailer reg') (tag : String) :
    Option.Rel Strategy.Frailer (reg.get? tag) (reg'.get? tag) := lookup_frailer h.entries tag

theorem Frailer.accepts (h : reg.Frailer reg') (c : Context) (tag : String) :
    c.accepts reg' tag = c.accepts reg tag := by
  have hget := h.get? tag
  unfold Context.accepts Registry.has
  generalize reg.get? tag = s at hget
  generalize reg'.get? tag = s' at hget
  cases hget <;> rfl

theorem Frailer.served (h : reg.Frailer reg') {tag : String} (htag : reg.has tag = true) :
    ∃ s s', reg.get? tag = some s ∧ reg'.get? tag = some s' ∧ s.Frailer s' := by
  obtain ⟨s, hs⟩ := Option.isSome_iff_exists.1 htag
  have hget := h.get? tag
  rcases hs' : reg'.get? tag with - | s' <;> rw [hs, hs'] at hget
  · cases hget
  · cases hget with
    | some hfrail => exact ⟨s, s', hs, rfl, hfrail⟩

end Registry

/-! Slots -/

section

variable {reg reg' : Registry Strategy} {gs gs' : List (Region Nat)} {c : Context}
  {d : Descriptor} {ds : List Descriptor} {r r' : Renderable} {rs rs' : List Renderable}

theorem Spared.isUnknown_of_lost (h : Spared reg reg' gs gs' c d r r') (hlost : reg.Lost reg' c d) :
    r'.isUnknown = true := by
  cases h with
  | lost => rfl
  | leaf hkept => exact absurd hlost hkept
  | card hkept => exact absurd hlost hkept
  | carousel hkept => exact absurd hlost hkept
  | hscroll hkept => exact absurd hlost hkept

theorem Spared.isUnknown_of_kept (h : Spared reg reg' gs gs' c d r r')
    (hkept : ¬ reg.Lost reg' c d) : r'.isUnknown = r.isUnknown := by
  cases h with
  | lost hlost => exact absurd hlost hkept
  | _ => rfl

theorem SparedList.slots (h : SparedList reg reg' gs gs' c ds rs rs') (widths : List (String × Int))
    (w u : Int) :
    SparedSlots reg reg' gs gs' u c ds (Strategy.slots widths w u ds rs)
      (Strategy.slots widths w u ds rs') := by
  induction ds generalizing rs rs' with
  | nil =>
    cases h
    exact .nil
  | cons d ds ih =>
    cases h with
    | @cons _ _ _ r r' rs rs' hfirst hothers =>
      have hslots := ih hothers
      simp only [Strategy.slots, List.zip_cons_cons, List.map_cons, Strategy.slotWidth] at hslots ⊢
      by_cases hlost : reg.Lost reg' c d
      · rw [hfirst.isUnknown_of_lost hlost, if_pos rfl]
        exact .lost hlost hfirst hslots
      · rw [hfirst.isUnknown_of_kept hlost]
        exact .kept hlost hfirst hslots

end

/-! Nodes -/

namespace Render

open Session

variable {υ : Type} {c : Context} {d : Descriptor}

section

variable {reg reg' : Registry Strategy} {st st' : Strategy} {body body' : Act υ Renderable}
  {children children' : Context → Act υ (List Renderable)}

theorem Beside.grown {m m' : Act υ α}
    {Q : List (Region Nat) → List (Region Nat) → α → α → Prop} (h : Beside m m' Q) :
    Keeps Grown m := by
  intro s
  obtain ⟨a, t, -, -, hs, -, hgrown, -⟩ := h s s rfl
  rw [next, hs]
  exact hgrown

end

end Render

namespace Renderer

open Session Render

variable {υ : Type} {s : Session υ}

/-- A card that is lost in a row, beside one that is not. -/
def row : List Descriptor :=
  [⟨"row", "hscroll", [], some [⟨"mars", "planetCard", [], none⟩,
    ⟨"venus", "planetCard", [], none⟩]⟩]

end Renderer
end RemoteScreen
