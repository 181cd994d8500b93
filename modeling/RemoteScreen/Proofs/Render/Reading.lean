import RemoteScreen.Proofs.Render.Drawing

/-! What a rendering reads, in two runs: their values compare equal exactly if the same was read in
both, and then nothing else that can be observed differs, but for the time that was taken. -/
namespace RemoteScreen
namespace ReadPart

open Renderable (walkList)

@[simp] theorem length_drawnList (sink : Sink) (k : Container) (n : Nat) (ps : List ReadPart) :
    (drawnList sink k n ps).length = ps.length := by
  induction ps generalizing n with
  | nil => rfl
  | cons p ps ih => rw [drawnList, List.length_cons, ih, List.length_cons]

mutual

/-- There is one placeholder for each line about a node that is not accepted. -/
theorem countP_walk_drawn (sink : Sink) (k : Container) (depth : Nat) : ∀ (p : ReadPart) (n : Nat),
    (drawn sink k n p).walk.countP Renderable.isUnknown = (lines depth p).length
  | .card .., _ => rfl
  | .stat .., _ => rfl
  | .button .., _ => rfl
  | .carousel _ _ ps, n => by
    have hbelow := countP_walkList_drawnList sink .carousel (depth + 1) ps n
    rw [drawn, lines, ← hbelow, Renderable.walk_eq]
    exact List.countP_cons_of_neg Bool.false_ne_true
  | .hscroll _ _ ps, n => by
    have hbelow := countP_walkList_drawnList sink .hscroll (depth + 1) ps n
    rw [drawn, lines, ← hbelow, Renderable.walk_eq, Renderable.children, contents_drawnSlots]
    exact List.countP_cons_of_neg Bool.false_ne_true
  | .refused .., _ => rfl

theorem countP_walkList_drawnList (sink : Sink) (k : Container) (depth : Nat) :
    ∀ (ps : List ReadPart) (n : Nat),
      (walkList (drawnList sink k n ps)).countP Renderable.isUnknown = (linesList depth ps).length
  | [], _ => rfl
  | p :: ps, n => by
    rw [drawnList, Renderable.walkList_cons, List.countP_append, linesList, List.length_append,
      countP_walk_drawn sink k depth p, countP_walkList_drawnList sink k depth ps]

end

end ReadPart

namespace Render

/-- The requests, but for the numbers of the regions: one for each URL that is not empty. -/
theorem requestsFor_urls (pass : Option Pass) (n : Nat) (us : List String) :
    ((requestsFor pass n us).map Prod.fst).map (fun q => (q.url, q.pass)) =
      (us.filter (· ≠ "")).map (·, pass) := by
  induction us generalizing n with
  | nil => rfl
  | cons url us ih =>
    rw [requestsFor]
    split
    · next hurl => rw [ih, List.filter_cons_of_neg (by simp [hurl])]
    · next hurl => rw [List.map_cons, List.map_cons, ih, List.filter_cons_of_pos (by simp [hurl]),
        List.map_cons]

theorem asked_urls (images : ImageSource) (closed : Option Bool) (pass : Option Pass) (n m : Nat)
    (us : List String) :
    ((asked images closed pass n us).map Prod.fst).map (fun q => (q.url, q.pass)) =
      ((asked images closed pass m us).map Prod.fst).map (fun q => (q.url, q.pass)) := by
  unfold asked
  split
  · rw [requestsFor_urls, requestsFor_urls]
  · rfl

end Render

namespace Renderer

open Session Render ReadPart
open Descriptor (readParts)

variable {υ : Type} {s : Session υ}

theorem closing_drawnList (sink : Sink) (pass : Option Pass) (n m : Nat) (ps : List ReadPart) :
    closing pass (drawnList sink .root n ps) = closing pass (drawnList sink .root m ps) := by
  have hcount (n : Nat) : unknownCount (drawnList sink .root n ps) = (linesList 0 ps).length :=
    countP_walkList_drawnList sink .root 0 ps n
  rw [closing, closing, hcount, hcount, length_drawnList, length_drawnList]

/-- A rendering depends on what it reads. -/
theorem render_reads {r : Renderer} (hregistry : r.registry = .default)
    (hpatient : r.images.Patient (s.loader.map Loader.closed)) (hpaced : s.telemetry.Paced)
    {ds ds' : List Descriptor} (hds : Descriptor.nodesList ds < 2 ^ 1023)
    (hds' : Descriptor.nodesList ds' < 2 ^ 1023) (pass : Option Pass) :
    ∃ out t, exec (r.render ds pass) s = (.ok out, t) ∧
      ∀ s' : Session υ, RegionsKept t s' → s'.loader.map Loader.closed = s.loader.map Loader.closed →
        s'.telemetry.Paced →
        ∃ out' t', exec (r.render ds' pass) s' = (.ok out', t') ∧
          (Renderable.sameList (looked t'.regions) out out' = true ↔
            readParts .root ds = readParts .root ds') ∧
          (readParts .root ds = readParts .root ds' →
            ∃ asked asked' before after x x',
              t.requests = s.requests ++ asked ∧ t'.requests = s'.requests ++ asked' ∧
              asked.map (fun q => (q.url, q.pass)) = asked'.map (fun q => (q.url, q.pass)) ∧
              Reported r.channel (before ++ .metric ⟨"render.pass_ms", x, []⟩ :: after) s t ∧
              Reported r.channel (before ++ .metric ⟨"render.pass_ms", x', []⟩ :: after) s' t') := by
  obtain ⟨out, x, t, rfl, hs, hreported, hregions, hasks⟩ :=
    exec_render_drawn hregistry hpatient hpaced hds pass
  refine ⟨_, t, hs, fun s' hkept hclosed hpaced' => ?_⟩
  rw [← hclosed] at hpatient
  obtain ⟨out', x', t', rfl, hs', hreported', hregions', hasks'⟩ :=
    exec_render_drawn hregistry hpatient hpaced' hds' pass
  have hplaced : Placed t'.regions s.regions.length (urlsList (readParts .root ds)) := by
    have hfirst : Placed t.regions s.regions.length (urlsList (readParts .root ds)) :=
      hregions ▸ Placed.of_append _ _
    exact (hfirst.kept hkept).kept (.of_append hregions')
  have hplaced' : Placed t'.regions s'.regions.length (urlsList (readParts .root ds')) :=
    hregions' ▸ Placed.of_append _ _
  refine ⟨_, t', hs', sameList_drawn_iff _ _ hplaced hplaced', fun hread => ?_⟩
  have hrequests := hasks.requests_next
  have hrequests' := hasks'.requests_next
  rw [next, hs] at hrequests
  rw [next, hs', hclosed, ← hread] at hrequests'
  rw [← hread, closing_drawnList r.actions pass _ s.regions.length] at hreported'
  refine ⟨_, _, _, _, x, x', hrequests, hrequests', ?_, hreported, hreported'⟩
  exact asked_urls _ _ _ _ _ _

/-- A card, a number, a button in a row, and an empty carousel. -/
def plain : List Descriptor :=
  [⟨"mars", "planetCard", [("imageUrl", some "/mars.png")], none⟩,
    ⟨"stars", "galaxyStats", [("value", some "9")], none⟩,
    ⟨"row", "hscroll", [], some [⟨"go", "exploreButton", [], none⟩]⟩,
    ⟨"pages", "carousel", [], none⟩]

/-- The same with all that is not read: blanks around a URL, a second line, properties of a button
that is not accepted, a card below a number, and no children in a list. -/
def adorned : List Descriptor :=
  [⟨"mars", "planetCard", [("moons", some "2"), ("imageUrl", some " /mars.png\n")], none⟩,
    ⟨"stars", "galaxyStats", [("value", some "9\nlight years")],
      some [⟨"below", "planetCard", [("imageUrl", some "/below.png")], none⟩]⟩,
    ⟨"row", "hscroll", [], some [⟨"go", "exploreButton", [("title", some "Go")], some []⟩]⟩,
    ⟨"pages", "carousel", [("title", none)], some []⟩]

theorem readParts_adorned : readParts .root plain = readParts .root adorned := by
  cbv

theorem render_reads_adorned :
    ∃ out t out' t',
      exec (({ images := .recorder [] } : Renderer).render plain none) ({ ui := () } : Session Unit) =
        (.ok out, t) ∧
      exec (({ images := .recorder [] } : Renderer).render adorned none)
        ({ ui := (), regions := t.regions } : Session Unit) = (.ok out', t') ∧
      Renderable.sameList (looked t'.regions) out out' = true ∧
      t'.requests.map (fun q => (q.url, q.pass)) = t.requests.map (fun q => (q.url, q.pass)) := by
  have hsize : Descriptor.nodesList plain < 1023 ∧ Descriptor.nodesList adorned < 1023 := by decide
  have hbound {n : Nat} (h : n < 1023) : n < 2 ^ 1023 := Nat.lt_trans h Nat.lt_two_pow_self
  obtain ⟨out, t, hs, hsecond⟩ :=
    render_reads (s := { ui := () }) (r := { images := .recorder [] }) rfl rfl
      (Telemetry.paced_of_clock_nil rfl) (hbound hsize.1) (hbound hsize.2) none
  obtain ⟨out', t', hs', hsame, hobserved⟩ := hsecond { ui := (), regions := t.regions }
    (.of_regions rfl) rfl (Telemetry.paced_of_clock_nil rfl)
  obtain ⟨asked, asked', -, -, -, -, hasked, hasked', hurls, -⟩ := hobserved readParts_adorned
  refine ⟨out, t, out', t', hs, hs', hsame.2 readParts_adorned, ?_⟩
  rw [hasked, hasked']
  exact hurls.symm

end Renderer
end RemoteScreen
