import RemoteScreen.Proofs.Session.Images
import RemoteScreen.Render.Renderer

/-! Dispatch by induction on descriptors: what holds of a node as soon as it holds of its children
holds of all trees. With it, dispatch always gives a result, and one node for each descriptor at
most. -/
namespace RemoteScreen

namespace Descriptor

mutual

/-- The number of nodes of a tree. -/
def nodes : Descriptor → Nat
  | ⟨_, _, _, cs⟩ => nodesChildren cs + 1

def nodesChildren : Option (List Descriptor) → Nat
  | none => 0
  | some ds => nodesList ds

def nodesList : List Descriptor → Nat
  | [] => 0
  | d :: ds => nodes d + nodesList ds

end

theorem nodes_eq (d : Descriptor) : d.nodes = nodesList d.childList + 1 := by
  rcases d with ⟨id, type, ps, - | ds⟩ <;> rfl

end Descriptor

namespace Renderable

theorem walkList_eq_flatMap (rs : List Renderable) : walkList rs = rs.flatMap walk := by
  induction rs with
  | nil => rfl
  | cons r rs ih => rw [walkList_cons, ih, List.flatMap_cons]

theorem walkSlots_eq (ss : List (Slot Renderable)) :
    walkSlots ss = walkList (ss.map Slot.content) := by
  induction ss with
  | nil => rfl
  | cons s ss ih => rw [walkSlots, ih, List.map_cons, walkList_cons]

/-- A tree is its root and then the trees of its children. -/
theorem walk_eq (r : Renderable) : r.walk = r :: walkList r.children := by
  cases r with
  | hscroll id title ss spacing => rw [walk, walkSlots_eq]; rfl
  | _ => rfl

end Renderable

namespace Render

open Session

variable {υ : Type} {reg : Registry Strategy}

/-- A property of nodes and one of lists of nodes that pass from children to parents. -/
structure Compositional (reg : Registry Strategy)
    (One : Descriptor → Context → Act υ Renderable → Prop)
    (Many : List Descriptor → Context → Act υ (List Renderable) → Prop) : Prop where
  node : ∀ (d : Descriptor) (c : Context) (children : Context → Act υ (List Renderable)),
    (∀ c, Many d.childList c (children c)) → One d c (dispatchWith reg d c children)
  nil : ∀ c, Many [] c (pure [])
  cons : ∀ (d : Descriptor) (ds : List Descriptor) (c : Context) (m : Act υ Renderable)
    (ms : Act υ (List Renderable)), One d c m → Many ds c ms →
      Many (d :: ds) c (do let r ← m; let rs ← ms; pure (r :: rs))

namespace Compositional

variable {One : Descriptor → Context → Act υ Renderable → Prop}
  {Many : List Descriptor → Context → Act υ (List Renderable) → Prop}

mutual

theorem dispatch (h : Compositional reg One Many) :
    ∀ (d : Descriptor) (c : Context), One d c (dispatch reg d c)
  | ⟨id, type, ps, cs⟩, c => by
    rw [Render.dispatch]
    exact h.node _ c _ fun c => h.dispatchChildren cs c

theorem dispatchChildren (h : Compositional reg One Many) :
    ∀ (cs : Option (List Descriptor)) (c : Context),
      Many (cs.getD []) c (dispatchChildren reg cs c)
  | none, c => by
    rw [Render.dispatchChildren]
    exact h.nil c
  | some ds, c => by
    rw [Render.dispatchChildren]
    exact h.dispatchList ds c

theorem dispatchList (h : Compositional reg One Many) :
    ∀ (ds : List Descriptor) (c : Context), Many ds c (dispatchList reg ds c)
  | [], c => by
    rw [Render.dispatchList]
    exact h.nil c
  | d :: ds, c => by
    rw [Render.dispatchList]
    exact h.cons d ds c _ _ (h.dispatch d c) (h.dispatchList ds c)

end

end Compositional

/-! Which strategy serves a node -/

theorem dispatch_eq (reg : Registry Strategy) (d : Descriptor) (c : Context) :
    (dispatch reg d c : Act υ Renderable) =
      dispatchWith reg d c fun c => dispatchList reg d.childList c := by
  obtain ⟨id, type, ps, - | ds⟩ := d <;> simp only [dispatch, dispatchChildren] <;> rfl

theorem dispatchWith_accepted {d : Descriptor} {c : Context}
    {children : Context → Act υ (List Renderable)} {s : Strategy} (h : c.accepts reg d.type = true)
    (hs : reg.get? d.type = some s) :
    dispatchWith reg d c children = guarded d (s.render d c children) := by
  unfold dispatchWith serve
  rw [h, hs]

theorem dispatchWith_refused {d : Descriptor} {c : Context}
    {children : Context → Act υ (List Renderable)} (h : c.accepts reg d.type = false) :
    dispatchWith reg d c children = (do
      logFallback d c
      reg.fallback.render d c children) := by
  unfold dispatchWith serve
  rw [h]

/-! Strategies that give up, and those that do not -/

/-- Whatever a strategy does, what is shown is a node with what its children are shown as, or a
placeholder. -/
theorem render_gives {s : Strategy} {d : Descriptor} {c : Context}
    {children : Context → Act υ (List Renderable)} {P : List Renderable → Prop}
    {Q : Renderable → Prop}
    (hchildren : ∀ types message, Gives (children (c.within types message)) P)
    (hleaf : ∀ r : Renderable, r.children = [] → r.id = d.id → Q r)
    (hcarousel : ∀ title pages height, P pages → Q (.carousel d.id title pages height))
    (hhscroll : ∀ title shown widths w u spacing, P shown →
      Q (.hscroll d.id title (Strategy.slots widths w u d.childList shown) spacing)) :
    Gives (s.render d c children) Q := by
  unfold Strategy.render
  split
  · exact gives_fail _ _
  · split
    · exact gives_pure (hleaf _ rfl rfl)
    · exact gives_bind (gives_true _) fun n _ => gives_pure (hleaf _ rfl rfl)
    · exact gives_pure (hleaf _ rfl rfl)
    · exact gives_pure (hleaf _ rfl rfl)
    · exact gives_bind (hchildren _ _) fun pages hpages => gives_pure (hcarousel _ _ _ hpages)
    · exact gives_bind (hchildren _ _) fun shown hshown => gives_pure (hhscroll _ _ _ _ _ _ hshown)
    · exact gives_fail _ _

theorem contents_slots {ds : List Descriptor} {shown : List Renderable}
    (h : shown.length = ds.length) (widths : List (String × Int)) (w u : Int) :
    (Strategy.slots widths w u ds shown).map Slot.content = shown := by
  simp only [Strategy.slots, List.map_map]
  exact List.map_snd_zip (Nat.le_of_eq h)

theorem contents_slots_subset (widths : List (String × Int)) (w u : Int) (ds : List Descriptor)
    (shown : List Renderable) : (Strategy.slots widths w u ds shown).map Slot.content ⊆ shown := by
  intro r hr
  simp only [Strategy.slots, List.map_map, List.mem_map] at hr
  obtain ⟨⟨d, r'⟩, hzip, rfl⟩ := hr
  exact (List.of_mem_zip hzip).2

end Render

/-- A source of images that refuses nothing. -/
def ImageSource.Willing : ImageSource → Prop
  | .recorder refused => refused = []
  | _ => True

/-- A strategy that never gives up. -/
structure Strategy.Reliable (s : Strategy) : Prop where
  fault : ∀ d, s.fault d = none
  manner : s.manner ≠ .bare

theorem Strategy.placeholder_reliable : Strategy.placeholder.Reliable :=
  ⟨fun _ => rfl, by simp [placeholder]⟩

namespace Render

open Session

variable {υ : Type} {reg : Registry Strategy}

theorem failRegion_yields (n : Nat) :
    Yields (failRegion tellNobody n : Act υ Bool) fun _ => True := by
  have htold (ls : List Nat) : Yields (ls.forM (tellNobody n) : Act υ PUnit) fun _ => True := by
    induction ls with
    | nil => exact yields_pure trivial
    | cons l ls ih => exact yields_after (yields_pure trivial) fun _ => ih
  unfold failRegion settle
  refine yields_after (fun s => ⟨_, s, rfl, trivial⟩) fun r => ?_
  split
  · exact yields_pure trivial
  · refine yields_after (yields_modify trivial) fun _ => ?_
    exact yields_after (htold _) fun _ => yields_pure trivial

theorem requestImage_yields (n : Nat) (pass : Option Pass) :
    Yields (requestImage tellNobody n pass : Act υ Unit) fun _ => True := by
  unfold requestImage
  refine yields_after (yields_get fun _ => trivial) fun s => ?_
  split
  · exact yields_pure trivial
  · refine yields_after (yields_modify trivial) fun _ => ?_
    split
    · exact yields_after (failRegion_yields n) fun _ => yields_pure trivial
    · exact yields_modify trivial

theorem cardRegion_yields {c : Context} (h : c.images.Willing) (url : String) :
    Yields (cardRegion c url : Act υ Nat) fun _ => True := by
  have hask (n : Nat) : Yields (askForImage c.images n url c.pass : Act υ Unit) fun _ => True := by
    unfold askForImage
    split
    · exact yields_pure trivial
    · next refused hsource =>
      rw [hsource] at h
      subst h
      exact yields_modify trivial
    · exact requestImage_yields n c.pass
  unfold cardRegion
  refine yields_after (fun s => ⟨_, _, exec_addRegion url s, trivial⟩) fun n => ?_
  split
  · exact yields_after (failRegion_yields n) fun _ => yields_pure trivial
  · exact yields_after (hask n) fun _ => yields_pure trivial

theorem render_yields {s : Strategy} (hs : s.Reliable) {d : Descriptor} {c : Context}
    {children : Context → Act υ (List Renderable)} (hc : s.manner = .card → c.images.Willing)
    (hchildren : ∀ types message, Yields (children (c.within types message)) fun _ => True) :
    Yields (s.render d c children) fun _ => True := by
  unfold Strategy.render
  rw [hs.fault]
  dsimp only
  split
  · exact yields_pure trivial
  · next hcard => exact yields_after (cardRegion_yields (hc hcard) _) fun _ => yields_pure trivial
  · exact yields_pure trivial
  · exact yields_pure trivial
  · exact yields_after (hchildren _ _) fun _ => yields_pure trivial
  · exact yields_after (hchildren _ _) fun _ => yields_pure trivial
  · next hmanner => exact absurd hmanner hs.manner

/-- A node always has a result when the fallback does. -/
theorem dispatchWith_yields (hfallback : reg.fallback.Reliable) {d : Descriptor} {c : Context}
    {children : Context → Act υ (List Renderable)}
    (hc : reg.fallback.manner = .card → c.images.Willing)
    (hchildren : ∀ types message, Yields (children (c.within types message)) fun _ => True) :
    Yields (dispatchWith reg d c children) fun _ => True := by
  unfold dispatchWith serve
  split
  · refine yields_attempt (gives_true _) (fun _ _ => yields_pure trivial) fun _ => ?_
    exact yields_after (yields_modify trivial) fun _ => yields_pure trivial
  · refine yields_after (yields_modify trivial) fun _ => ?_
    exact render_yields hfallback hc hchildren

/-- What all strategies give, and the placeholder of one that gave up, is what dispatch gives. -/
theorem gives_dispatchWith {d : Descriptor} {c : Context}
    {children : Context → Act υ (List Renderable)} {Q : Renderable → Prop}
    (hrender : ∀ st : Strategy, Gives (st.render d c children) Q)
    (hfailed : Q (.unknown d.id d.type failedMessage)) :
    Gives (dispatchWith reg d c children) Q := by
  unfold dispatchWith serve
  split
  · refine Yields.gives (yields_attempt (hrender _) (fun r hr => yields_pure hr) fun _ => ?_)
    exact yields_after (yields_modify trivial) fun _ => yields_pure hfailed
  · exact gives_after fun _ => hrender _

/-- What a node is shown as, whether its strategy, the placeholder of a strategy that gave up or the
fallback has made it. -/
theorem dispatchWith_gives {d : Descriptor} {c : Context}
    {children : Context → Act υ (List Renderable)} {P : List Renderable → Prop}
    {Q : Renderable → Prop}
    (hchildren : ∀ types message, Gives (children (c.within types message)) P)
    (hleaf : ∀ r : Renderable, r.children = [] → r.id = d.id → Q r)
    (hcarousel : ∀ title pages height, P pages → Q (.carousel d.id title pages height))
    (hhscroll : ∀ title shown widths w u spacing, P shown →
      Q (.hscroll d.id title (Strategy.slots widths w u d.childList shown) spacing)) :
    Gives (dispatchWith reg d c children) Q :=
  gives_dispatchWith (fun _ => render_gives hchildren hleaf hcarousel hhscroll) (hleaf _ rfl rfl)

/-- Rendering always gives a result, with no more nodes than there are descriptors. -/
theorem dispatch_compositional (hfallback : reg.fallback.Reliable) :
    Compositional (υ := υ) reg
      (fun d c m => (reg.fallback.manner = .card → c.images.Willing) →
        Yields m fun r => r.walk.length ≤ d.nodes)
      (fun ds c m => (reg.fallback.manner = .card → c.images.Willing) → Yields m fun rs =>
        rs.length = ds.length ∧ (Renderable.walkList rs).length ≤ Descriptor.nodesList ds) where
  node := by
    intro d c children h hc
    have hinner (types : List String) (message : String) := h (c.within types message) hc
    have hyields : Yields (dispatchWith reg d c children) fun _ => True :=
      dispatchWith_yields hfallback hc fun types message =>
        (hinner types message).mono fun _ _ => trivial
    refine (hyields.and (dispatchWith_gives (fun types message => (hinner types message).gives)
      ?_ ?_ ?_)).mono fun r hr => hr.2
    · intro r hleaf _
      rw [Renderable.walk_eq, hleaf, d.nodes_eq]
      simp
    · intro title pages height ⟨_, hpages⟩
      rw [Renderable.walk_eq, d.nodes_eq]
      simpa [Renderable.children] using hpages
    · intro title shown widths w u spacing ⟨hlength, hshown⟩
      rw [Renderable.walk_eq, d.nodes_eq]
      simpa [Renderable.children, contents_slots hlength] using hshown
  nil := fun c _ => yields_pure ⟨rfl, Nat.le_refl _⟩
  cons := by
    intro d ds c m ms hm hms hc
    refine yields_bind (hm hc) fun r hr => ?_
    refine yields_bind (hms hc) fun rs ⟨hlength, hrs⟩ => yields_pure ⟨by simp [hlength], ?_⟩
    rw [Renderable.walkList_cons, List.length_append, Descriptor.nodesList]
    omega

end Render
end RemoteScreen
