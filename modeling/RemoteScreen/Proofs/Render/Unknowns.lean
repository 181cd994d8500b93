import RemoteScreen.Proofs.Render.Mirror

/-! Nodes that are not accepted where they stand. A rendering with the built-in strategies shows one
placeholder for each and writes one line about each, and reports their number at its end, whoever is
asked for images. -/
namespace RemoteScreen

/-- A node that can be seen, what it stands in directly, and how many containers it is within. -/
structure Spot where
  node : Descriptor
  container : Container
  depth : Nat

namespace Spot

def isRefused (p : Spot) : Bool := !p.container.types.contains p.node.type

def line (p : Spot) : Record :=
  ⟨.debug, partLogger "render",
    s!"Fallback render id={p.node.id} type={Text.quote p.node.type} depth={p.depth}"⟩

end Spot

namespace Descriptor

mutual

/-- The nodes of a tree that can be seen, in pre-order, each with its place. -/
def spots (k : Container) (depth : Nat) : Descriptor → List Spot
  | ⟨id, type, ps, cs⟩ =>
    ⟨⟨id, type, ps, cs⟩, k, depth⟩ ::
      if type = "carousel" then spotsChildren .carousel (depth + 1) cs
      else if type = "hscroll" then spotsChildren .hscroll (depth + 1) cs
      else []

def spotsChildren (k : Container) (depth : Nat) : Option (List Descriptor) → List Spot
  | none => []
  | some ds => spotsList k depth ds

def spotsList (k : Container) (depth : Nat) : List Descriptor → List Spot
  | [] => []
  | d :: ds => spots k depth d ++ spotsList k depth ds

end

mutual

theorem node_spots (k : Container) (depth : Nat) : ∀ d : Descriptor,
    (spots k depth d).map Spot.node = visible d
  | ⟨id, type, ps, cs⟩ => by
    rw [spots, visible, List.map_cons]
    by_cases hcarousel : type = "carousel"
    · rw [if_pos hcarousel, if_pos (.inl hcarousel), node_spotsChildren .carousel (depth + 1) cs]
    by_cases hhscroll : type = "hscroll"
    · rw [if_neg hcarousel, if_pos hhscroll, if_pos (.inr hhscroll),
        node_spotsChildren .hscroll (depth + 1) cs]
    · rw [if_neg hcarousel, if_neg hhscroll, if_neg (not_or.2 ⟨hcarousel, hhscroll⟩), List.map_nil]

theorem node_spotsChildren (k : Container) (depth : Nat) : ∀ cs : Option (List Descriptor),
    (spotsChildren k depth cs).map Spot.node = visibleChildren cs
  | none => rfl
  | some ds => node_spotsList k depth ds

theorem node_spotsList (k : Container) (depth : Nat) : ∀ ds : List Descriptor,
    (spotsList k depth ds).map Spot.node = visibleList ds
  | [] => rfl
  | d :: ds => by
    rw [spotsList, visibleList, List.map_append, node_spots k depth d, node_spotsList k depth ds]

end

/-- The nodes of a tree that can be seen and are not accepted where they stand. -/
def refused (k : Container) (depth : Nat) (d : Descriptor) : List Spot :=
  (spots k depth d).filter Spot.isRefused

def refusedList (k : Container) (depth : Nat) (ds : List Descriptor) : List Spot :=
  (spotsList k depth ds).filter Spot.isRefused

theorem refusedList_cons (k : Container) (depth : Nat) (d : Descriptor) (ds : List Descriptor) :
    refusedList k depth (d :: ds) = refused k depth d ++ refusedList k depth ds := by
  rw [refusedList, spotsList, List.filter_append]
  rfl

@[simp] theorem spotsChildren_eq (k : Container) (depth : Nat) (cs : Option (List Descriptor)) :
    spotsChildren k depth cs = spotsList k depth (cs.getD []) := by
  cases cs <;> rfl

/-- What is refused in a node that is accepted itself stands in it, if it is a container. -/
theorem refused_of_mem {k : Container} {d : Descriptor} (h : d.type ∈ k.types) (depth : Nat) :
    refused k depth d =
      if d.type = "carousel" then refusedList .carousel (depth + 1) d.childList
      else if d.type = "hscroll" then refusedList .hscroll (depth + 1) d.childList
      else [] := by
  obtain ⟨id, type, ps, cs⟩ := d
  have haccepted : Spot.isRefused ⟨⟨id, type, ps, cs⟩, k, depth⟩ = false := by
    simpa [Spot.isRefused] using h
  rw [refused, spots, List.filter_cons_of_neg (Bool.not_eq_true _ ▸ haccepted)]
  simp only [spotsChildren_eq]
  split
  · rfl
  · split <;> rfl

/-- Nothing can be seen in a node that is refused. -/
theorem refused_of_not_mem {k : Container} {d : Descriptor} (h : d.type ∉ k.types) (depth : Nat) :
    refused k depth d = [⟨d, k, depth⟩] := by
  obtain ⟨id, type, ps, cs⟩ := d
  have hrefused : Spot.isRefused ⟨⟨id, type, ps, cs⟩, k, depth⟩ = true := by
    simpa [Spot.isRefused] using h
  have hcarousel : type ≠ "carousel" := by
    rintro rfl
    cases k <;> simp [Container.types] at h
  have hhscroll : type ≠ "hscroll" := by
    rintro rfl
    cases k <;> simp [Container.types] at h
  rw [refused, spots, List.filter_cons_of_pos hrefused, if_neg hcarousel, if_neg hhscroll]
  rfl

end Descriptor

namespace Render

open Session Descriptor
open Renderable (walkList)

variable {υ α β : Type} {s : Session υ} {rs rs' : List Record} {P : α → Prop} {Q : β → Prop}

/-- A step that always gives a value, and writes these lines and reports nothing else. -/
def Writes (rs : List Record) (m : Act υ α) (P : α → Prop) : Prop :=
  ∀ s, ∃ a t, exec m s = (.ok a, t) ∧ P a ∧ ∀ n, Reports n (rs.map .line) s t

theorem writes_pure {a : α} (h : P a) : Writes [] (pure a : Act υ α) P :=
  fun s => ⟨a, s, rfl, h, fun _ => .nil rfl⟩

theorem writes_log (severity : Severity) (part message : String) :
    Writes [⟨severity, partLogger part, message⟩] (log severity part message : Act υ Unit)
      fun _ => True :=
  fun s => ⟨⟨⟩, _, rfl, trivial, fun n => .line n _ s⟩

theorem writes_bind {m : Act υ α} {f : α → Act υ β} (hm : Writes rs m P)
    (hf : ∀ a, P a → Writes rs' (f a) Q) : Writes (rs ++ rs') (m >>= f) Q := by
  intro s
  obtain ⟨a, t, hs, ha, hst⟩ := hm s
  obtain ⟨b, u, ht, hb, htu⟩ := hf a ha t
  refine ⟨b, u, by rw [exec_bind, hs]; exact ht, hb, fun n => ?_⟩
  rw [List.map_append]
  exact (hst n).append (htu n)

theorem writes_map {m : Act υ α} {f : α → β} (hm : Writes rs m P) (hf : ∀ a, P a → Q (f a)) :
    Writes rs (m >>= fun a => pure (f a)) Q := by
  have h := writes_bind hm fun a ha => writes_pure (υ := υ) (hf a ha)
  rwa [List.append_nil] at h

/-- A step that reports nothing. -/
def Unreported (s t : Session υ) : Prop := t.reported = s.reported

instance : IsPreorder (Session υ) Unreported where
  refl _ := rfl
  trans _ _ _ h k := k.trans h

theorem cardRegion_writes {c : Context} (h : c.images.Willing) (url : String) :
    Writes [] (cardRegion c url : Act υ Nat) fun _ => True := by
  intro s
  obtain ⟨n, t, hs, -⟩ := cardRegion_yields h url s
  have hquiet := keeps_cardRegion (R := Unreported (υ := υ)) (fun _ _ _ _ => rfl) c url s
  rw [next, hs] at hquiet
  exact ⟨n, t, hs, trivial, fun _ => .nil hquiet⟩

theorem writes_guarded {d : Descriptor} {body : Act υ Renderable} {P : Renderable → Prop}
    (h : Writes rs body P) : Writes rs (guarded d body) P := by
  intro s
  obtain ⟨r, t, hs, hr, hst⟩ := h s
  exact ⟨r, t, by simp [guarded, hs], hr, hst⟩

/-! Trees -/

/-- How many placeholders are shown. -/
def Shows (n : Nat) (r : Renderable) : Prop := r.walk.countP Renderable.isUnknown = n

def ShowsList (n : Nat) (rs : List Renderable) : Prop :=
  (walkList rs).countP Renderable.isUnknown = n

theorem ShowsList.below {n : Nat} {r : Renderable} (h : ShowsList n r.children)
    (hr : r.isUnknown = false) : Shows n r := by
  rw [Shows, Renderable.walk_eq, List.countP_cons_of_neg (Bool.not_eq_true _ ▸ hr)]
  exact h

theorem served_writes {d : Descriptor} {c : Context} {k : Container}
    {children : Context → Act υ (List Renderable)} (hk : Stands k c) (hmem : d.type ∈ k.types)
    (hchildren : ∀ (c : Context) (k : Container), Stands k c →
      Writes ((refusedList k c.depth d.childList).map Spot.line) (children c) fun rs =>
        rs.length = d.childList.length ∧ ShowsList (refusedList k c.depth d.childList).length rs) :
    ∃ s, Registry.default.get? d.type = some s ∧
      Writes ((refused k c.depth d).map Spot.line) (s.render d c children)
        (Shows (refused k c.depth d).length) := by
  rw [refused_of_mem hmem]
  obtain ⟨id, type, ps, cs⟩ := d
  have hroot := k.types_subset hmem
  simp only [Container.types, List.mem_cons, List.not_mem_nil, or_false] at hroot
  rcases hroot with rfl | rfl | rfl | rfl | rfl
  · exact ⟨.card, rfl, writes_map (cardRegion_writes hk.images _) fun _ _ => rfl⟩
  · exact ⟨.stat, rfl, writes_pure rfl⟩
  · exact ⟨.action, rfl, writes_pure rfl⟩
  · refine ⟨.carousel, rfl, writes_map (hchildren _ _ hk.carousel) fun pages hpages => ?_⟩
    exact hpages.2.below rfl
  · refine ⟨.hscroll, rfl, writes_map (hchildren _ _ hk.hscroll) fun shown hshown => ?_⟩
    refine ShowsList.below ?_ rfl
    rw [Renderable.children, contents_slots hshown.1]
    exact hshown.2

theorem writes_compositional :
    Compositional (υ := υ) .default
      (fun d c m => ∀ k, Stands k c →
        Writes ((refused k c.depth d).map Spot.line) m (Shows (refused k c.depth d).length))
      (fun ds c m => ∀ k, Stands k c →
        Writes ((refusedList k c.depth ds).map Spot.line) m fun rs =>
          rs.length = ds.length ∧ ShowsList (refusedList k c.depth ds).length rs) where
  node := by
    intro d c children hchildren k hk
    by_cases hmem : d.type ∈ k.types
    · obtain ⟨s, hs, hserved⟩ := served_writes hk hmem fun c k hk => hchildren c k hk
      rw [dispatchWith_accepted ((hk.accepts_iff d.type).2 hmem) hs]
      exact writes_guarded hserved
    · have hrefused : c.accepts .default d.type = false :=
        Bool.eq_false_iff.2 fun h => hmem ((hk.accepts_iff d.type).1 h)
      rw [dispatchWith_refused hrefused, refused_of_not_mem hmem]
      exact writes_map (writes_log _ _ _) fun _ _ => rfl
  nil := fun c k _ => writes_pure ⟨rfl, rfl⟩
  cons := by
    intro d ds c m ms hm hms k hk
    rw [refusedList_cons, List.map_append, List.length_append]
    refine writes_bind (hm k hk) fun r hr => writes_map (hms k hk) fun rs ⟨hlength, hrs⟩ => ?_
    refine ⟨congrArg Nat.succ hlength, ?_⟩
    rw [ShowsList, Renderable.walkList_cons, List.countP_append, hr, hrs]

end Render
namespace Renderer

open Session Render
open Descriptor (refusedList)

variable {υ : Type} {s : Session υ}

/-- The figures of a rendering with that many unknown nodes. -/
def figures (x : Float) (unknown : Nat) : List Metric :=
  ⟨"render.pass_ms", x, []⟩ ::
    if unknown = 0 then [] else [⟨"render.unknown_components", Number.ofInt unknown, []⟩]

def closingLine (pass : Option Pass) (roots unknown : Nat) : Record :=
  ⟨.debug, partLogger "render", s!"Render pass={passName pass} roots={roots} unknown={unknown}"⟩

/-- The nodes that can be seen and are not accepted where they stand are as many as the
placeholders. There is a line about each, in pre-order and with its depth, before the time of the
rendering and their number are reported, and the closing line has their number again. A channel that
keeps what it takes has the time, and the number if it is not zero, and nothing else besides. -/
theorem render_counts_unknown {r : Renderer} (hregistry : r.registry = .default)
    (himages : r.images.Willing) (hpaced : s.telemetry.Paced) {ds : List Descriptor}
    (hds : Descriptor.nodesList ds < 2 ^ 1023) (pass : Option Pass) {refused : List Spot}
    (hrefused : refusedList .root 0 ds = refused) :
    ∃ out x t, exec (r.render ds pass) s = (.ok out, t) ∧
      (Renderable.walkList out).countP Renderable.isUnknown = refused.length ∧
      Reported r.channel (refused.map (.line ∘ Spot.line) ++
        (figures x refused.length).map .metric ++
        [.line (closingLine pass ds.length refused.length)]) s t ∧
      ∀ n c, r.channel.or s.telemetry.processWide = some n → s.telemetry.channels[n]? = some c →
        c.keepsEvents = true →
          t.journal = (refused.map Spot.line ++ [closingLine pass ds.length refused.length]).foldl
            Journal.write s.journal ∧
          t.telemetry.channels[n]? =
            some { c with metrics := c.metrics ++ figures x refused.length } := by
  have hfallback : r.registry.fallback.Reliable := by
    rw [hregistry]
    exact Strategy.placeholder_reliable
  obtain ⟨n, w, u, out, v, x, t, hchannel, -, hquiet, hout, -, hreports, hrender⟩ :=
    exec_render_reports hfallback (fun _ => himages) hpaced hds pass
  have hstands : Stands .root (r.context pass) := ⟨rfl, rfl, himages⟩
  have hwrites := writes_compositional.dispatchList (υ := υ) ds (r.context pass) .root hstands
  obtain ⟨out', v', hv', ⟨hlength, hcount⟩, hlines⟩ := hwrites u
  rw [← hregistry, hout] at hv'
  obtain ⟨hsame, rfl⟩ := Prod.mk.inj hv'
  obtain rfl := Except.ok.inj hsame
  change (Renderable.walkList out).countP Renderable.isUnknown = (refusedList .root 0 ds).length
    at hcount
  rw [hrefused] at hcount
  have hclosing : Notice.metric ⟨"render.pass_ms", x, []⟩ :: closing pass out =
      (figures x refused.length).map .metric ++
        [.line (closingLine pass ds.length refused.length)] := by
    simp only [closing, figures, unknownCount, hcount, hlength]
    split <;> rfl
  have hreported : Reported r.channel (refused.map (.line ∘ Spot.line) ++
      (figures x refused.length).map .metric ++
      [.line (closingLine pass ds.length refused.length)]) s t := by
    refine ⟨n, w, hchannel, Reports.after hquiet ?_⟩
    rw [List.append_assoc, ← hclosing, ← List.map_map]
    exact (hrefused ▸ hlines n).append hreports
  refine ⟨out, x, t, hrender, hcount, hreported, fun m c hm hc hkeeps => ?_⟩
  obtain ⟨m', s', hm', hreports⟩ := hreported
  rw [exec_channelOr_of_some hm] at hm'
  obtain ⟨hsame, rfl⟩ := Prod.mk.inj hm'
  obtain rfl := Except.ok.inj hsame
  have hkept := hreports.kept hc hkeeps
  simpa [List.filterMap_map, List.filterMap_cons, Function.comp_def, Notice.record?, Notice.event?,
    Notice.metric?] using hkept

/-- A text that is no tag, and in a carousel another one and a button. -/
def strange : List Descriptor :=
  [⟨"1", "mystery", [], none⟩,
    ⟨"2", "carousel", [], some [⟨"2a", "mystery", [], none⟩, ⟨"2b", "exploreButton", [], none⟩]⟩,
    ⟨"3", "exploreButton", [], none⟩]

theorem render_counts_unknown_strange :
    ∃ out x t,
      exec (({ channel := some 0 } : Renderer).render strange none)
        ({ ui := (), telemetry := { channels := [.recording] } } : Session Unit) = (.ok out, t) ∧
      (Renderable.walkList out).countP Renderable.isUnknown = 3 ∧
      (t.telemetry.channels[0]?.map Channel.metrics) =
        some [⟨"render.pass_ms", x, []⟩, ⟨"render.unknown_components", Number.ofInt 3, []⟩] ∧
      t.journal.records.map Record.message =
        ["Fallback render id=1 type='mystery' depth=0",
          "Fallback render id=2a type='mystery' depth=1",
          "Fallback render id=2b type='exploreButton' depth=1",
          "Render pass=- roots=3 unknown=3"] := by
  have hsize : Descriptor.nodesList strange < 1023 := by decide
  have hrefused : refusedList .root 0 strange =
      [⟨⟨"1", "mystery", [], none⟩, .root, 0⟩, ⟨⟨"2a", "mystery", [], none⟩, .carousel, 1⟩,
        ⟨⟨"2b", "exploreButton", [], none⟩, .carousel, 1⟩] := rfl
  obtain ⟨out, x, t, hrender, hcount, -, hchannel⟩ :=
    render_counts_unknown (r := { channel := some 0 })
      (s := { ui := (), telemetry := { channels := [.recording] } }) rfl trivial
      (Telemetry.paced_of_clock_nil rfl)
      (Nat.lt_trans hsize (Nat.lt_two_pow_self (n := 1023))) none hrefused
  obtain ⟨hjournal, hkept⟩ := hchannel 0 .recording rfl rfl rfl
  refine ⟨out, x, t, hrender, hcount, ?_, ?_⟩
  · rw [hkept]
    rfl
  · rw [hjournal]
    decide +kernel

end Renderer
end RemoteScreen
