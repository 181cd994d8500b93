import RemoteScreen.Proofs.Render.Renderer
import RemoteScreen.Proofs.Text.Line

/-! What a rendering is made of. Whatever the registry, each node of the tree was made by one of the
strategies, or is the placeholder of one that gave up; so much is known of any tree. -/
namespace RemoteScreen

/-- A node that strategies make in a context with this sink: a number shows the first line of some
text, and an action reports to the sink. -/
inductive Made (sink : Sink) : Renderable → Prop where
  | card {id title body region} : Made sink (.card id title body region)
  | stat {id label text} : Made sink (.stat id label (Text.firstLine text) 1)
  | action {id title} : Made sink (.action id title (some sink))
  | unknown {id tag message} : Made sink (.unknown id tag message)
  | carousel {id title pages height} : Made sink (.carousel id title pages height)
  | hscroll {id title slots spacing} : Made sink (.hscroll id title slots spacing)

/-- All nodes of some trees are so made. -/
def AllMade (sink : Sink) (rs : List Renderable) : Prop :=
  ∀ x ∈ Renderable.walkList rs, Made sink x

namespace AllMade

open Renderable (walk walkList)

variable {sink : Sink} {r : Renderable} {rs ss : List Renderable}

theorem nil : AllMade sink [] := fun _ h => absurd h List.not_mem_nil

theorem cons (hr : AllMade sink [r]) (hrs : AllMade sink rs) : AllMade sink (r :: rs) := by
  intro x hx
  rcases List.mem_append.1 hx with hx | hx
  · exact hr x (List.mem_append_left _ hx)
  · exact hrs x hx

/-- Fewer trees. -/
theorem mono (h : AllMade sink rs) (hsub : ss ⊆ rs) : AllMade sink ss := by
  intro x hx
  rw [Renderable.walkList_eq_flatMap, List.mem_flatMap] at hx
  obtain ⟨s, hs, hx⟩ := hx
  refine h x ?_
  rw [Renderable.walkList_eq_flatMap]
  exact List.mem_flatMap.2 ⟨s, hsub hs, hx⟩

/-- A tree is made so if its root is and all that stands below it. -/
theorem node (hr : Made sink r) (hbelow : AllMade sink r.children) : AllMade sink [r] := by
  intro x hx
  rw [Renderable.walkList_cons, Renderable.walk_eq, Renderable.walkList_nil, List.append_nil] at hx
  rcases List.mem_cons.1 hx with rfl | hx
  · exact hr
  · exact hbelow x hx

end AllMade

namespace Render

open Session

variable {υ : Type} {d : Descriptor} {c : Context}

theorem render_made (st : Strategy) {children : Context → Act υ (List Renderable)}
    (hchildren : ∀ types message, Gives (children (c.within types message)) (AllMade c.actions)) :
    Gives (st.render d c children) fun r => AllMade c.actions [r] := by
  have hleaf {r : Renderable} (hr : Made c.actions r) (hnone : r.children = []) :
      AllMade c.actions [r] := .node hr (hnone ▸ .nil)
  unfold Strategy.render
  split
  · exact gives_fail _ _
  · split
    · exact gives_pure (hleaf .unknown rfl)
    · exact gives_after fun n => gives_pure (hleaf .card rfl)
    · exact gives_pure (hleaf .stat rfl)
    · exact gives_pure (hleaf .action rfl)
    · exact gives_bind (hchildren _ _) fun pages hpages => gives_pure (.node .carousel hpages)
    · refine gives_bind (hchildren _ _) fun shown hshown => gives_pure (.node .hscroll ?_)
      exact hshown.mono (contents_slots_subset _ _ _ _ _)
    · exact gives_fail _ _

theorem made_compositional (reg : Registry Strategy) :
    Compositional (υ := υ) reg (fun _ c m => Gives m fun r => AllMade c.actions [r])
      (fun _ c m => Gives m (AllMade c.actions)) where
  node _ _ _ hchildren :=
    gives_dispatchWith (fun st => render_made st fun _ _ => hchildren _) (.node .unknown .nil)
  nil _ := gives_pure .nil
  cons _ _ _ _ _ hm hms :=
    gives_bind hm fun _ hr => gives_bind hms fun _ hrs => gives_pure (hr.cons hrs)

end Render

namespace Renderer

open Session

variable {υ : Type}

theorem render_made (r : Renderer) (ds : List Descriptor) (pass : Option Pass) :
    Gives (r.render ds pass : Act υ (List Renderable)) (AllMade r.actions) :=
  r.render_gives ((Render.made_compositional r.registry).dispatchList ds (r.context pass))

/-- A text is cut at its first line break, and no number that a rendering shows has any. -/
theorem stats_keep_to_one_line :
    (∀ text : String, Text.Clipped text (Text.firstLine text)) ∧
    ∀ (r : Renderer) (ds : List Descriptor) (pass : Option Pass) (s t : Session υ)
      (out : List Renderable), exec (r.render ds pass) s = (.ok out, t) →
      ∀ id label value n, .stat id label value n ∈ Renderable.walkList out →
        Text.Unbroken value.toList := by
  refine ⟨Text.firstLine_clipped, ?_⟩
  intro r ds pass s t out hout id label value n hstat
  have hmade : AllMade r.actions out := r.render_made ds pass s out t hout
  cases hmade _ hstat with
  | stat => exact (Text.firstLine_clipped _).unbroken

/-- What dispatch gives from every session, a rendering gives from this one. -/
theorem exec_render_of_dispatch (r : Renderer) {ds : List Descriptor} {pass : Option Pass}
    (out : List Renderable) (s : Session υ) (hfallback : r.registry.fallback.Reliable)
    (himages : r.images.Willing) (hpaced : s.telemetry.Paced)
    (hds : Descriptor.nodesList ds < 1023)
    (h : ∀ u : Session υ, ∃ v,
      exec (Render.dispatchList r.registry ds (r.context pass)) u = (.ok out, v)) :
    ∃ t, exec (r.render ds pass) s = (.ok out, t) := by
  obtain ⟨u, out', v, t, -, hout, -, hrender⟩ := exec_render hfallback himages hpaced
    (Nat.lt_trans hds (Nat.lt_two_pow_self (n := 1023))) pass
  obtain ⟨w, hw⟩ := h u
  obtain rfl := Except.ok.inj (Prod.mk.inj (hout.symm.trans hw)).1
  exact ⟨t, hrender⟩

/-- A number in a row, with a value of three lines. -/
def torn : List Descriptor :=
  [⟨"row", "hscroll", [],
    some [⟨"share", "galaxyStats", [("value", some "95 %\r\nof\u2028all")], none⟩]⟩]

theorem stats_keep_to_one_line_torn :
    ∃ out t, exec (({} : Renderer).render torn none) ({ ui := () } : Session Unit) = (.ok out, t) ∧
      .stat "share" "" "95 %" 1 ∈ Renderable.walkList out ∧ Text.Unbroken "95 %".toList := by
  let out : List Renderable := [.hscroll "row" "" [⟨200, .stat "share" "" "95 %" 1⟩] 15]
  have hline : Text.firstLine "95 %\r\nof\u2028all" = "95 %" := by decide
  let r : Renderer := {}
  have hdispatch (u : Session Unit) :
      exec (Render.dispatchList r.registry torn (r.context none)) u = (.ok out, u) := by
    unfold out
    rw [← hline]
    rfl
  obtain ⟨t, hrender⟩ := exec_render_of_dispatch r out { ui := () }
    Strategy.placeholder_reliable trivial (Telemetry.paced_of_clock_nil rfl) (by decide)
    fun u => ⟨u, hdispatch u⟩
  have hstat : .stat "share" "" "95 %" 1 ∈ Renderable.walkList out := by
    simp [out, Renderable.walk, Renderable.walkSlots]
  exact ⟨out, t, hrender, hstat,
    stats_keep_to_one_line.2 {} torn none _ t out hrender "share" "" "95 %" 1 hstat⟩

end Renderer
end RemoteScreen
