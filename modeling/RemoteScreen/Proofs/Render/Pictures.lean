import RemoteScreen.Proofs.Render.Drawing
import RemoteScreen.Proofs.Text.Trim

/-! The images that a rendering asks for are those of the cards that can be seen. Each card has a
region of its own; it is asked for once, while it waits, unless the descriptor has no URL, and then
the region has failed. -/
namespace RemoteScreen

open ReadPart (looked Placed regionFor urls urlsList drawn drawnList)
open Descriptor (readPart readParts visible visibleChildren visibleList)
open Renderable (walk walkList cardRegions)

/-- What is seen for a node: a card for the descriptor of a card alone, and its region is for the
URL that stands there, without blanks around it. If there is none, the region has failed. -/
structure Pictured (gs : List (Region Nat)) (d : Descriptor) (r : Renderable) : Prop where
  id : r.id = d.id
  card : r.region?.isSome = true ↔ d.type = "planetCard"
  region : ∀ n, r.region? = some n → looked gs n = some (Text.strip (d.prop "imageUrl"),
    if Text.allBlank (d.prop "imageUrl") then .failed else .loading)

theorem Pictured.of_no_region {gs : List (Region Nat)} {d : Descriptor} {r : Renderable}
    (hid : r.id = d.id) (hr : r.region? = none) (htype : d.type ≠ "planetCard") :
    Pictured gs d r :=
  ⟨hid, by simp [hr, htype], by simp [hr]⟩

theorem Pictured.ids {gs : List (Region Nat)} {ds : List Descriptor} {rs : List Renderable}
    (h : List.Forall₂ (Pictured gs) ds rs) : rs.map Renderable.id = ds.map Descriptor.id := by
  induction h with
  | nil => rfl
  | cons first _ ih => rw [List.map_cons, List.map_cons, first.id, ih]

namespace ReadPart

variable {sink : Sink}

mutual

/-- The cards have one region each, numbered as they are met. -/
theorem regions_drawn {k : Container} : ∀ (p : ReadPart) (n : Nat),
    (walk (drawn sink k n p)).filterMap Renderable.region? = List.range' n (urls p).length
  | .card .., _ => rfl
  | .stat .., _ => rfl
  | .button .., _ => rfl
  | .carousel _ _ ps, n => by
    have hbelow := regions_drawnList (k := .carousel) ps n
    rw [drawn, urls, ← hbelow, Renderable.walk_eq]
    rfl
  | .hscroll _ _ ps, n => by
    have hbelow := regions_drawnList (k := .hscroll) ps n
    rw [drawn, urls, ← hbelow, Renderable.walk_eq, Renderable.children, contents_drawnSlots]
    rfl
  | .refused .., _ => rfl

theorem regions_drawnList {k : Container} : ∀ (ps : List ReadPart) (n : Nat),
    (walkList (drawnList sink k n ps)).filterMap Renderable.region? =
      List.range' n (urlsList ps).length
  | [], _ => rfl
  | p :: ps, n => by
    rw [drawnList, Renderable.walkList_cons, List.filterMap_append, regions_drawn p,
      regions_drawnList ps, urlsList, List.length_append, List.range'_append_1]

end

mutual

theorem pictured_drawn {gs : List (Region Nat)} {k : Container} : ∀ (d : Descriptor) {n : Nat},
    Placed gs n (urls (readPart k d)) →
      List.Forall₂ (Pictured gs) (visible d) (walk (drawn sink k n (readPart k d)))
  | ⟨id, type, ps, cs⟩, n, h => by
    by_cases hmem : type ∈ k.types
    · have hroot := k.types_subset hmem
      simp only [Container.types, List.mem_cons, List.not_mem_nil, or_false] at hroot
      rcases hroot with rfl | rfl | rfl | rfl | rfl
      · rw [Descriptor.readPart_card] at h ⊢
        refine .cons ⟨rfl, by simp [drawn, Renderable.region?], fun m hm => ?_⟩ .nil
        obtain rfl : n = m := Option.some.inj hm
        rw [h.head, regionFor]
        simp only [Text.strip_eq_empty_iff]
        rfl
      · rw [Descriptor.readPart_stat]
        exact .cons (.of_no_region rfl rfl (by simp)) .nil
      · cases k with
        | root =>
          rw [Descriptor.readPart_button]
          exact .cons (.of_no_region rfl rfl (by simp)) .nil
        | carousel => simp [Container.types] at hmem
        | hscroll => simp [Container.types] at hmem
      · rw [Descriptor.readPart_carousel] at h ⊢
        rw [drawn, Renderable.walk_eq]
        exact .cons (.of_no_region rfl rfl (by simp)) (pictured_drawnChildren cs h)
      · rw [Descriptor.readPart_hscroll] at h ⊢
        rw [drawn, Renderable.walk_eq, Renderable.children, contents_drawnSlots]
        exact .cons (.of_no_region rfl rfl (by simp)) (pictured_drawnChildren cs h)
    · have hleaf : ¬(type = "carousel" ∨ type = "hscroll") := by
        rintro (rfl | rfl) <;> cases k <;> simp [Container.types] at hmem
      have hcard : type ≠ "planetCard" := by
        rintro rfl
        cases k <;> simp [Container.types] at hmem
      rw [Descriptor.readPart_refused hmem, visible, if_neg hleaf]
      exact .cons (.of_no_region rfl rfl hcard) .nil

theorem pictured_drawnChildren {gs : List (Region Nat)} {k : Container} :
    ∀ (cs : Option (List Descriptor)) {n : Nat}, Placed gs n (urlsList (readParts k (cs.getD []))) →
      List.Forall₂ (Pictured gs) (visibleChildren cs)
        (walkList (drawnList sink k n (readParts k (cs.getD []))))
  | none, _, _ => .nil
  | some ds, _, h => pictured_drawnList ds h

theorem pictured_drawnList {gs : List (Region Nat)} {k : Container} :
    ∀ (ds : List Descriptor) {n : Nat}, Placed gs n (urlsList (readParts k ds)) →
      List.Forall₂ (Pictured gs) (visibleList ds) (walkList (drawnList sink k n (readParts k ds)))
  | [], _, _ => .nil
  | d :: ds, _, h => List.rel_append (pictured_drawn d h.left) (pictured_drawnList ds h.right)

end

end ReadPart

namespace Render

/-- What is asked for a card that has region `n`: nothing without a URL, and otherwise the image for
that region, which waits. -/
def request? (gs : List (Region Nat)) (pass : Option Pass) (n : Nat) :
    Option (ImageRequest × Region Nat) :=
  match looked gs n with
  | some (url, _) => if url = "" then none else some (⟨n, url, pass⟩, { url })
  | none => none

theorem requests_range' {gs : List (Region Nat)} {n : Nat} {us : List String}
    (h : Placed gs n us) (pass : Option Pass) :
    (List.range' n us.length).filterMap (request? gs pass) = requestsFor pass n us := by
  induction us generalizing n with
  | nil => rfl
  | cons url us ih =>
    have hsplit : Placed gs n ([url] ++ us) := h
    have hfirst := hsplit.left.head
    have hothers := ih hsplit.right
    rw [List.length_singleton] at hothers
    rw [List.length_cons, List.range'_succ, requestsFor]
    by_cases hurl : url = ""
    · have hnone : request? gs pass n = none := by rw [request?, hfirst, hurl]; rfl
      rw [List.filterMap_cons_none hnone, if_pos hurl, hothers]
    · have hsome : request? gs pass n = some (⟨n, url, pass⟩, { url }) := by
        simp [request?, hfirst, hurl]
      rw [List.filterMap_cons_some hsome, if_neg hurl, hothers]

end Render

namespace Renderer

open Session Render

variable {υ : Type} {s : Session υ}

/-- The images that are asked for are those of the cards that can be seen, in pre-order. -/
theorem render_asks {r : Renderer} (hregistry : r.registry = .default)
    (himages : r.images = .recorder []) (hpaced : s.telemetry.Paced) {ds : List Descriptor}
    (hds : Descriptor.nodesList ds < 2 ^ 1023) (pass : Option Pass) :
    ∃ out t, exec (r.render ds pass) s = (.ok out, t) ∧
      Asks (r.render ds pass) s ((cardRegions out).filterMap (request? t.regions pass)) ∧
      t.requests = s.requests ++
        ((cardRegions out).filterMap (request? t.regions pass)).map Prod.fst ∧
      List.Forall₂ (Pictured t.regions) (visibleList ds) (walkList out) ∧
      (cardRegions out).Nodup ∧ ∀ n ∈ cardRegions out, s.regions.length ≤ n := by
  have hpatient : r.images.Patient (s.loader.map Loader.closed) := by
    rw [himages]
    rfl
  obtain ⟨out, x, t, rfl, hs, -, hregions, hasks⟩ :=
    exec_render_drawn hregistry hpatient hpaced hds pass
  have hplaced : Placed t.regions s.regions.length (urlsList (readParts .root ds)) :=
    hregions ▸ Placed.of_append _ _
  have hcards : cardRegions (drawnList r.actions .root s.regions.length (readParts .root ds)) =
      List.range' s.regions.length (urlsList (readParts .root ds)).length :=
    ReadPart.regions_drawnList _ _
  rw [himages] at hasks
  have hrequests := hasks.requests_next
  rw [next, hs] at hrequests
  refine ⟨_, t, hs, ?_⟩
  rw [hcards, requests_range' hplaced pass]
  refine ⟨hasks, hrequests, ReadPart.pictured_drawnList ds hplaced, List.nodup_range', fun n hn => ?_⟩
  exact (List.mem_range'_1.1 hn).1

/-- One card twice, a card in a button that is not accepted, a card in a card, and a card whose URL is
blank. -/
def gallery : List Descriptor :=
  [⟨"mars", "planetCard", [("imageUrl", some " /mars.png")],
      some [⟨"phobos", "planetCard", [("imageUrl", some "/phobos.png")], none⟩]⟩,
    ⟨"pages", "carousel", [], some [⟨"mars", "planetCard", [("imageUrl", some "/mars.png")], none⟩,
      ⟨"go", "exploreButton", [],
        some [⟨"hidden", "planetCard", [("imageUrl", some "/hidden.png")], none⟩]⟩]⟩,
    ⟨"pale", "planetCard", [("imageUrl", some "\t")], none⟩]

theorem render_asks_gallery :
    ∃ out t,
      exec (({ images := .recorder [] } : Renderer).render gallery (some ⟨1⟩))
        ({ ui := () } : Session Unit) = (.ok out, t) ∧
      t.requests = ((cardRegions out).filterMap (request? t.regions (some ⟨1⟩))).map Prod.fst ∧
      (walkList out).map Renderable.id = ["mars", "pages", "mars", "go", "pale"] ∧
      (cardRegions out).Nodup := by
  have hsize : Descriptor.nodesList gallery < 1023 := by decide
  obtain ⟨out, t, hs, -, hrequests, hpictured, hnodup, -⟩ :=
    render_asks (s := { ui := () }) (r := { images := .recorder [] }) rfl rfl
      (Telemetry.paced_of_clock_nil rfl) (Nat.lt_trans hsize (Nat.lt_two_pow_self (n := 1023)))
      (some ⟨1⟩)
  have hids := Pictured.ids hpictured
  exact ⟨out, t, hs, hrequests, hids, hnodup⟩

end Renderer
end RemoteScreen
