import RemoteScreen.Proofs.Image.Orderly
import RemoteScreen.Proofs.Render.Renderer

/-! Rendering with an open loader: every card that has a URL gets a region and a job of its own,
under the pass of the rendering, and whatever was there before stays. -/
namespace RemoteScreen

/-- The regions of the cards of a forest. -/
def Renderable.cardRegions (rs : List Renderable) : List Nat :=
  (walkList rs).filterMap Renderable.region?

namespace Render

open Session
open Renderable (walk walkList cardRegions)

variable {υ α β : Type} {reg : Registry Strategy} {s t : Session υ} {l : Loader} {p : Option Pass}
  {n : Nat}

/-- Where the loader is open, regions and jobs are only added. -/
structure Requesting (s t : Session υ) : Prop extends Rendering s t where
  order : ∀ l, Orderly s l → l.closed = false → ∃ m, Orderly t m ∧ m.closed = false ∧
    l.jobs <+: m.jobs ∧ s.regions <+: t.regions

instance : IsPreorder (Session υ) Requesting where
  refl s := ⟨Std.Refl.refl s, fun l h hopen => ⟨l, h, hopen, List.prefix_rfl, List.prefix_rfl⟩⟩
  trans s t u h k := by
    refine ⟨IsTrans.trans s t u h.toRendering k.toRendering, fun l hl hopen => ?_⟩
    obtain ⟨m, hm, hmopen, hjobs, hregions⟩ := h.order l hl hopen
    obtain ⟨m', hm', hmopen', hjobs', hregions'⟩ := k.order m hm hmopen
    exact ⟨m', hm', hmopen', hjobs.trans hjobs', hregions.trans hregions'⟩

theorem log_requesting (severity : Severity) (part message : String) :
    Keeps Requesting (log severity part message : Act υ Unit) := by
  intro s
  refine ⟨log_rendering severity part message s, fun l hl hopen => ?_⟩
  exact ⟨l, hl.congr rfl rfl (.of_regions rfl), hopen, List.prefix_rfl, List.prefix_rfl⟩

/-- The region has no URL, or a job is queued for it under the pass. -/
def Served (p : Option Pass) (n : Nat) (s : Session υ) : Prop :=
  ∃ l r, s.loader = some l ∧ s.regions[n]? = some r ∧
    (r.url = "" ∨ ∃ j ∈ l.jobs, j.region = n ∧ j.pass = p ∧ j.state = .queued)

theorem Served.requesting (h : Served p n s) (k : Requesting s t) (hl : Orderly s l)
    (hopen : l.closed = false) : Served p n t := by
  obtain ⟨l', r, hs, hr, hserved⟩ := h
  obtain rfl := Option.some.inj (hl.loader.symm.trans hs)
  obtain ⟨m, hm, -, hjobs, hregions⟩ := k.order l hl hopen
  obtain ⟨rs, hrs⟩ := hregions
  have hkept : t.regions[n]? = some r := by
    rw [← hrs, List.getElem?_append_left (List.getElem?_eq_some_iff.1 hr).1]
    exact hr
  refine ⟨m, r, hm.loader, hkept, ?_⟩
  rcases hserved with hurl | ⟨j, hj, hrest⟩
  · exact .inl hurl
  · exact .inr ⟨j, hjobs.subset hj, hrest⟩

theorem Served.kept (h : Served p n s) (hloader : t.loader = s.loader)
    (hregions : RegionsKept s t) : Served p n t := by
  obtain ⟨l, r, hl, hr, hserved⟩ := h
  obtain ⟨ls, ht⟩ := hregions n r hr
  exact ⟨l, _, hloader.trans hl, ht, hserved⟩

/-- A region made since there were `base` of them, and served. -/
def New (base : Nat) (p : Option Pass) (n : Nat) (s : Session υ) : Prop := base ≤ n ∧ Served p n s

/-- A step that only adds, and that makes the regions of what it gives and leaves them served. -/
structure Serves (p : Option Pass) (regions : α → List Nat) (m : Act υ α) : Prop where
  keeps : Keeps Requesting m
  serves : ∀ s l, Orderly s l → l.closed = false → ∀ a t, exec m s = (.ok a, t) →
    ∀ n ∈ regions a, New s.regions.length p n t

theorem serves_pure {regions : α → List Nat} {a : α} (h : regions a = []) :
    Serves p regions (pure a : Act υ α) where
  keeps := keeps_pure a
  serves := by
    intro s l _ _ b t hok n hn
    obtain rfl := Except.ok.inj (Prod.mk.inj hok).1
    rw [h] at hn
    exact absurd hn List.not_mem_nil

/-- What a step has served stays served while the next step adds to it. -/
theorem serves_bind {f : α → List Nat} {g : β → List Nat} {m : Act υ α} {k : α → Act υ β}
    (hm : Serves p f m) (hk : ∀ a, Keeps Requesting (k a))
    (hgives : ∀ a s l base, Orderly s l → l.closed = false → base ≤ s.regions.length →
      (∀ n ∈ f a, New base p n s) → ∀ b t, exec (k a) s = (.ok b, t) → ∀ n ∈ g b, New base p n t) :
    Serves p g (m >>= k) where
  keeps := keeps_bind hm.keeps hk
  serves := by
    intro s l hl hopen b u hok
    rw [exec_bind] at hok
    rcases hs : exec m s with ⟨e | a, t⟩ <;> rw [hs] at hok
    · simp at hok
    · have hst := hm.keeps s
      rw [next, hs] at hst
      obtain ⟨l', hl', hopen', -, hregions⟩ := hst.order l hl hopen
      exact hgives a t l' _ hl' hopen' hregions.length_le (hm.serves s l hl hopen a t hs) b u hok

theorem serves_map {f : α → List Nat} {g : β → List Nat} {m : Act υ α} {k : α → β}
    (hm : Serves p f m) (h : ∀ a, g (k a) ⊆ f a) : Serves p g (m >>= fun a => pure (k a)) := by
  refine serves_bind hm (fun a => keeps_pure _) ?_
  intro a s l _ _ _ _ hserved b t hok n hn
  obtain ⟨hb, rfl⟩ := Prod.mk.inj hok
  obtain rfl := Except.ok.inj hb
  exact hserved n (h a hn)

/-! The region of a card -/

/-- Without a URL a card has a region that has failed. -/
theorem exec_cardRegion_blank (c : Context) (s : Session υ) :
    exec (cardRegion c "") s =
      (.ok s.regions.length,
        { s with regions := s.regions ++ [{ url := "", state := .failed }] }) := by
  simp [cardRegion, failRegion, settle, Session.region?, setRegion, Region.fail?, Region.isTerminal]

/-- With a URL it has a region that waits and a job for it. -/
theorem exec_cardRegion_loader {c : Context} (hc : c.images = .loader) (hl : s.loader = some l)
    (hopen : l.closed = false) {url : String} (hurl : url ≠ "") :
    exec (cardRegion c url) s = (.ok s.regions.length, { s with
      regions := s.regions ++ [{ url }]
      requests := s.requests ++ [⟨s.regions.length, url, c.pass⟩]
      loader := some (l.enqueue s.regions.length c.pass) }) := by
  have hadded : ({ s with regions := s.regions ++ [{ url }] } : Session υ).loader = some l := hl
  simp only [cardRegion, exec_bind, exec_addRegion, if_neg hurl, hc, askForImage,
    exec_requestImage_open hadded hopen, exec_pure]
  simp

theorem cardRegion_serves {c : Context} (hc : c.images = .loader) (url : String) :
    Serves c.pass (fun n => [n]) (cardRegion c url : Act υ Nat) := by
  have hadded {s : Session υ} {l : Loader} (hl : Orderly s l) (r : Region Nat) :
      Orderly { s with regions := s.regions ++ [r] } l :=
    hl.congr rfl rfl (.of_append rfl)
  have hfresh {s : Session υ} {l : Loader} (hl : Orderly s l) :
      s.regions.length ∉ s.requests.map ImageRequest.region := by
    intro hn
    obtain ⟨q, hq, he⟩ := List.mem_map.1 hn
    exact absurd (hl.known q hq) (by omega)
  constructor
  · intro s
    refine ⟨cardRegion_rendering c url s, fun l hl hopen => ?_⟩
    by_cases hurl : url = ""
    · subst hurl
      rw [next, exec_cardRegion_blank]
      exact ⟨l, hadded hl _, hopen, List.prefix_rfl, List.prefix_append _ _⟩
    · rw [next, exec_cardRegion_loader hc hl.loader hopen hurl]
      have hwaits : Loading s.regions.length { s with regions := s.regions ++ [{ url }] } :=
        ⟨{ url }, by simp, rfl⟩
      have hasked := (hadded hl { url }).enqueue hwaits (hfresh hl) url c.pass
      refine ⟨_, hasked, ?_, ?_, List.prefix_append _ _⟩
      · simp [Loader.enqueue_eq, hopen]
      · simp [Loader.enqueue_eq]
  · intro s l hl hopen n t hok k hk
    obtain rfl := List.mem_singleton.1 hk
    by_cases hurl : url = ""
    · subst hurl
      rw [exec_cardRegion_blank] at hok
      obtain ⟨hn, rfl⟩ := Prod.mk.inj hok
      obtain rfl := Except.ok.inj hn
      exact ⟨Nat.le_refl _, l, { url := "", state := .failed }, hl.loader, by simp, .inl rfl⟩
    · rw [exec_cardRegion_loader hc hl.loader hopen hurl] at hok
      obtain ⟨hn, rfl⟩ := Prod.mk.inj hok
      obtain rfl := Except.ok.inj hn
      let j : Job := { region := s.regions.length, pass := c.pass, watched := true }
      exact ⟨Nat.le_refl _, _, { url }, rfl, by simp,
        .inr ⟨j, by simp [Loader.enqueue_eq, j], rfl, rfl, rfl⟩⟩

/-! Trees -/

theorem mem_cardRegions {rs : List Renderable} :
    n ∈ cardRegions rs ↔ ∃ r ∈ rs, n ∈ cardRegions [r] := by
  simp only [cardRegions, Renderable.walkList_eq_flatMap, List.mem_filterMap, List.mem_flatMap,
    List.mem_singleton]
  constructor
  · rintro ⟨x, ⟨r, hr, hx⟩, hn⟩
    exact ⟨r, hr, x, ⟨r, rfl, hx⟩, hn⟩
  · rintro ⟨r, hr, x, ⟨_, rfl, hx⟩, hn⟩
    exact ⟨x, ⟨_, hr, hx⟩, hn⟩

theorem cardRegions_subset {rs rs' : List Renderable} (h : rs ⊆ rs') :
    cardRegions rs ⊆ cardRegions rs' := by
  intro n hn
  obtain ⟨r, hr, hn⟩ := mem_cardRegions.1 hn
  exact mem_cardRegions.2 ⟨r, h hr, hn⟩

/-- What is not a card has the cards of its children. -/
theorem cardRegions_node {r : Renderable} (h : r.region? = none) :
    cardRegions [r] = cardRegions r.children := by
  simp only [cardRegions, Renderable.walkList_cons, Renderable.walkList_nil, List.append_nil]
  rw [Renderable.walk_eq, List.filterMap_cons_none h]

theorem render_serves {s : Strategy} {d : Descriptor} {c : Context}
    {children : Context → Act υ (List Renderable)} (hc : c.images = .loader)
    (hchildren : ∀ types message, Serves c.pass cardRegions (children (c.within types message))) :
    Serves c.pass (fun r => cardRegions [r]) (s.render d c children) := by
  have hfail (e : Failure) : Serves c.pass (fun r => cardRegions [r]) (fail e : Act υ Renderable) :=
    ⟨keeps_fail e, fun s l _ _ a t hok => by simp at hok⟩
  unfold Strategy.render
  split
  · exact hfail _
  · split
    · exact serves_pure rfl
    · exact serves_map (cardRegion_serves hc _) fun n => List.Subset.refl _
    · exact serves_pure rfl
    · exact serves_pure rfl
    · refine serves_map (hchildren _ _) fun pages => ?_
      rw [cardRegions_node rfl]
      exact List.Subset.refl _
    · refine serves_map (hchildren _ _) fun shown => ?_
      rw [cardRegions_node rfl]
      exact cardRegions_subset (contents_slots_subset _ _ _ _ _)
    · exact hfail _

theorem guarded_serves {d : Descriptor} {body : Act υ Renderable}
    (h : Serves p (fun r => cardRegions [r]) body) :
    Serves p (fun r => cardRegions [r]) (guarded d body) where
  keeps := by
    refine keeps_bind (keeps_attempt h.keeps) fun r => ?_
    split
    · exact keeps_pure _
    · exact keeps_bind (log_requesting _ _ _) fun _ => keeps_pure _
  serves := by
    intro s l hl hopen r t hok n hn
    rw [guarded, exec_bind, exec_attempt] at hok
    rcases hs : exec body s with ⟨e | r', u⟩ <;> rw [hs] at hok
    · simp only [exec_bind, exec_log, exec_pure] at hok
      obtain rfl := Except.ok.inj (Prod.mk.inj hok).1
      exact absurd hn List.not_mem_nil
    · obtain ⟨hr, rfl⟩ := Prod.mk.inj hok
      obtain rfl := Except.ok.inj hr
      exact h.serves s l hl hopen r' _ hs n hn

theorem serves_compositional :
    Compositional (υ := υ) reg
      (fun _ c m => c.images = .loader → Serves c.pass (fun r => cardRegions [r]) m)
      (fun _ c m => c.images = .loader → Serves c.pass cardRegions m) where
  node := by
    intro d c children h hc
    have hrender (s : Strategy) :
        Serves c.pass (fun r => cardRegions [r]) (s.render d c children) :=
      render_serves hc fun types message => h (c.within types message) hc
    unfold dispatchWith serve
    split
    · exact guarded_serves (hrender _)
    · refine serves_bind (f := fun _ => []) ⟨log_requesting _ _ _, ?_⟩
        (fun _ => (hrender _).keeps) ?_
      · exact fun s l _ _ a t _ n hn => absurd hn List.not_mem_nil
      · intro _ s l base hl hopen hbase _ r t hok n hn
        obtain ⟨hfresh, hserved⟩ := (hrender _).serves s l hl hopen r t hok n hn
        exact ⟨Nat.le_trans hbase hfresh, hserved⟩
  nil := fun c _ => serves_pure rfl
  cons := by
    intro d ds c m ms hm hms hc
    have hrest (r : Renderable) : Keeps Requesting (do let rs ← ms; pure (r :: rs)) :=
      keeps_bind (hms hc).keeps fun _ => keeps_pure _
    refine serves_bind (hm hc) hrest ?_
    intro r s l base hl hopen hbase hserved rs t hok n hn
    rw [exec_bind] at hok
    rcases hs : exec ms s with ⟨e | rs', u⟩ <;> rw [hs] at hok
    · simp at hok
    · obtain ⟨hrs, rfl⟩ := Prod.mk.inj hok
      obtain rfl := Except.ok.inj hrs
      have hsu := (hms hc).keeps s
      rw [next, hs] at hsu
      obtain ⟨x, hx, hnx⟩ := mem_cardRegions.1 hn
      rcases List.mem_cons.1 hx with rfl | hx
      · obtain ⟨hfresh, hserved⟩ := hserved n hnx
        exact ⟨hfresh, hserved.requesting hsu hl hopen⟩
      · obtain ⟨hfresh, hserved⟩ :=
          (hms hc).serves s l hl hopen rs' _ hs n (mem_cardRegions.2 ⟨x, hx, hnx⟩)
        exact ⟨Nat.le_trans hbase hfresh, hserved⟩

theorem dispatchList_serves (reg : Registry Strategy) (ds : List Descriptor) {c : Context}
    (hc : c.images = .loader) :
    Serves c.pass cardRegions (dispatchList reg ds c : Act υ (List Renderable)) :=
  serves_compositional.dispatchList ds c hc

end Render
end RemoteScreen
