import RemoteScreen.Proofs.Image.Asking
import RemoteScreen.Proofs.Render.Beside
import RemoteScreen.Proofs.Render.ReadPart

/-! With the built-in strategies, and as long as nobody refuses an image or fails it at once, what is
read of the descriptors decides what dispatch gives and does: the nodes, the regions of the cards,
the requests for their images and the lines in the log. -/
namespace RemoteScreen
namespace ImageSource

/-- Nobody is asked, or the one who is asked lets the regions wait. -/
def Patient (images : ImageSource) (closed : Option Bool) : Prop :=
  match images with
  | .none => True
  | .recorder refused => refused = []
  | .loader => closed ≠ some true

/-- Whether requests are taken down. -/
def listens (images : ImageSource) (closed : Option Bool) : Bool :=
  match images with
  | .none => false
  | .recorder _ => true
  | .loader => closed.isSome

theorem Patient.willing {images : ImageSource} {closed : Option Bool} (h : images.Patient closed) :
    images.Willing := by
  cases images with
  | recorder refused => exact h
  | _ => trivial

end ImageSource

namespace Render

open Session ReadPart
open Descriptor

variable {υ α β : Type} {s t u : Session υ} {images : ImageSource} {pass : Option Pass}
  {us vs : List String} {rs rs' : List Record}

/-- The requests for cards with these URLs, whose regions have the numbers from `n` on, and the
regions as they are then. Without a URL there is none. -/
def requestsFor (pass : Option Pass) : Nat → List String → List (ImageRequest × Region Nat)
  | _, [] => []
  | n, url :: us =>
    if url = "" then requestsFor pass (n + 1) us
    else (⟨n, url, pass⟩, { url }) :: requestsFor pass (n + 1) us

theorem requestsFor_append (pass : Option Pass) (n : Nat) (us vs : List String) :
    requestsFor pass n (us ++ vs) =
      requestsFor pass n us ++ requestsFor pass (n + us.length) vs := by
  induction us generalizing n with
  | nil => rfl
  | cons url us ih =>
    rw [List.cons_append, requestsFor, requestsFor, ih, List.length_cons, Nat.add_right_comm,
      Nat.add_assoc]
    split <;> rfl

/-- The requests that are taken down for the cards. -/
def asked (images : ImageSource) (closed : Option Bool) (pass : Option Pass) (n : Nat)
    (us : List String) : List (ImageRequest × Region Nat) :=
  if images.listens closed then requestsFor pass n us else []

theorem asked_append (images : ImageSource) (closed : Option Bool) (pass : Option Pass) (n : Nat)
    (us vs : List String) :
    asked images closed pass n (us ++ vs) =
      asked images closed pass n us ++ asked images closed pass (n + us.length) vs := by
  unfold asked
  split
  · exact requestsFor_append pass n us vs
  · rfl

/-- Cards with these URLs have been given their regions, and these lines have been written. -/
structure Drew (us : List String) (rs : List Record) (s t : Session υ) : Prop
    extends Rendering s t where
  journal : t.journal = rs.foldl Journal.write s.journal
  regions : t.regions = s.regions ++ us.map regionFor
  closed : t.loader.map Loader.closed = s.loader.map Loader.closed

theorem Drew.refl (s : Session υ) : Drew [] [] s s :=
  ⟨Std.Refl.refl s, rfl, by simp, rfl⟩

theorem Drew.trans (h : Drew us rs s t) (k : Drew vs rs' t u) : Drew (us ++ vs) (rs ++ rs') s u where
  toRendering := IsTrans.trans s t u h.toRendering k.toRendering
  journal := by rw [k.journal, h.journal, List.foldl_append]
  regions := by rw [k.regions, h.regions, List.map_append, List.append_assoc]
  closed := k.closed.trans h.closed

/-- A step that gives a value which depends only on the number of the first region it makes, and
that does what there is to do for cards with these URLs, and for these lines. -/
def Draws (images : ImageSource) (pass : Option Pass) (us : List String) (rs : List Record)
    (m : Act υ α) (out : Nat → α) : Prop :=
  ∀ s : Session υ, images.Patient (s.loader.map Loader.closed) → ∃ t,
    exec m s = (.ok (out s.regions.length), t) ∧ Drew us rs s t ∧
      Asks m s (asked images (s.loader.map Loader.closed) pass s.regions.length us)

theorem draws_quiet {m : Act υ α} {a : α} (h : ∀ s, ∃ t, exec m s = (.ok a, t) ∧ Drew [] rs s t)
    (hquiet : AsksNothing m) : Draws images pass [] rs m fun _ => a := by
  intro s _
  obtain ⟨t, hs, hst⟩ := h s
  have hnone (n : Nat) : asked images (s.loader.map Loader.closed) pass n [] = [] := by
    unfold asked
    split <;> rfl
  exact ⟨t, hs, hst, hnone _ ▸ .quiet (hquiet s)⟩

theorem draws_pure (a : α) : Draws images pass [] [] (pure a : Act υ α) fun _ => a :=
  draws_quiet (fun s => ⟨s, rfl, .refl s⟩) fun _ => rfl

theorem draws_log (severity : Severity) (part message : String) :
    Draws images pass [] [⟨severity, partLogger part, message⟩]
      (log severity part message : Act υ Unit) fun _ => ⟨⟩ :=
  draws_quiet (fun s => ⟨_, rfl, log_rendering _ _ _ s, rfl, by simp, rfl⟩) fun _ => rfl

/-- The second step begins where the first has left the numbers of regions. -/
theorem draws_bind {m : Act υ α} {f : α → Act υ β} {out : Nat → α} {more : Nat → Nat → β}
    (hm : Draws images pass us rs m out)
    (hf : ∀ n, Draws images pass vs rs' (f (out n)) (more n)) :
    Draws images pass (us ++ vs) (rs ++ rs') (m >>= f) fun n => more n (n + us.length) := by
  intro s hpatient
  obtain ⟨t, hs, hst, hasks⟩ := hm s hpatient
  obtain ⟨u, ht, htu, hasks'⟩ := hf s.regions.length t (hst.closed ▸ hpatient)
  have hlength : t.regions.length = s.regions.length + us.length := by simp [hst.regions]
  rw [hlength] at ht hasks'
  rw [hst.closed] at hasks'
  refine ⟨u, by rw [exec_bind, hs]; exact ht, hst.trans htu, ?_⟩
  rw [asked_append]
  exact .bind hs hasks hasks'

theorem draws_map {m : Act υ α} {out : Nat → α} (hm : Draws images pass us rs m out) (f : α → β) :
    Draws images pass us rs (m >>= fun a => pure (f a)) fun n => f (out n) := by
  intro s hpatient
  obtain ⟨t, hs, hst, hasks⟩ := hm s hpatient
  exact ⟨t, by simp [hs], hst, hasks.after fun _ _ => rfl⟩

theorem draws_guarded {d : Descriptor} {body : Act υ Renderable} {out : Nat → Renderable}
    (h : Draws images pass us rs body out) : Draws images pass us rs (guarded d body) out := by
  intro s hpatient
  obtain ⟨t, hs, hst, hasks⟩ := h s hpatient
  refine ⟨t, exec_guarded_ok hs, hst, hasks.attempt.after fun r _ => ?_⟩
  cases r <;> rfl

/-! The region of a card -/

/-- Asking for an image changes nothing but the list of requests and the loader's queue. -/
theorem exec_askForImage (pass : Option Pass) (hpatient : images.Patient (s.loader.map Loader.closed)) {n : Nat}
    {r : Region Nat} (hr : s.regions[n]? = some r) :
    ∃ t, exec (askForImage images n r.url pass) s = (.ok ⟨⟩, t) ∧ Drew [] [] s t ∧
      Asks (askForImage images n r.url pass) s
        (if images.listens (s.loader.map Loader.closed) then [(⟨n, r.url, pass⟩, r)] else []) := by
  cases images with
  | none => exact ⟨s, rfl, .refl s, .quiet rfl⟩
  | recorder refused =>
    obtain rfl : refused = [] := hpatient
    exact ⟨_, rfl, ⟨⟨rfl, rfl, rfl⟩, rfl, by simp, rfl⟩, .ask hr⟩
  | loader =>
    cases hl : s.loader with
    | none =>
      have hnobody : exec (requestImage tellNobody n pass) s = (.ok ⟨⟩, s) := by
        simp [requestImage, hl]
      exact ⟨s, hnobody, .refl s, .quiet (by rw [next, askForImage, hnobody])⟩
    | some l =>
      have hopen : l.closed = false := by simpa [ImageSource.Patient, hl] using hpatient
      refine ⟨_, exec_requestImage_open hl hopen n pass, ⟨⟨rfl, rfl, rfl⟩, rfl, by simp, ?_⟩, ?_⟩
      · simp [hl, Loader.enqueue_eq]
      · exact .requestImage hl hopen hr pass

theorem cardRegion_draws (c : Context) (url : String) :
    Draws c.images c.pass [url] [] (cardRegion c url : Act υ Nat) fun n => n := by
  intro s hpatient
  by_cases hurl : url = ""
  · subst hurl
    refine ⟨_, exec_cardRegion_blank c s, ⟨⟨rfl, rfl, rfl⟩, rfl, rfl, rfl⟩, ?_⟩
    have hnone : asked c.images (s.loader.map Loader.closed) c.pass s.regions.length [""] = [] := by
      simp [asked, requestsFor]
    rw [hnone]
    exact .quiet (by rw [next, exec_cardRegion_blank])
  · let u : Session υ := { s with regions := s.regions ++ [{ url }] }
    have hmade : u.regions[s.regions.length]? = some { url } := by simp [u]
    have hpatient' : c.images.Patient (u.loader.map Loader.closed) := hpatient
    obtain ⟨t, ht, hut, hasks⟩ := exec_askForImage c.pass hpatient' hmade
    have hbody : (cardRegion c url : Act υ Nat) = (do
        let n ← addRegion url
        askForImage c.images n url c.pass
        pure n) := by
      simp [cardRegion, hurl]
    have hsu : Drew [url] [] s u := ⟨⟨rfl, rfl, rfl⟩, rfl, by simp [u, regionFor, hurl], rfl⟩
    have hone : asked c.images (s.loader.map Loader.closed) c.pass s.regions.length [url] =
        if c.images.listens (u.loader.map Loader.closed) then
          [(⟨s.regions.length, url, c.pass⟩, { url })] else [] := by
      simp [asked, requestsFor, hurl, u]
    rw [hbody, hone]
    refine ⟨t, by simp only [exec_bind, exec_addRegion]; rw [ht]; rfl, hsu.trans hut, ?_⟩
    exact .before (exec_addRegion url s) rfl (hasks.after fun _ _ => rfl)

/-! Trees -/

theorem slotWidth_drawn (sink : Sink) (n : Nat) (d : Descriptor) :
    Strategy.slotWidth Strategy.slotWidths Strategy.defaultWidth Strategy.unknownWidth d
      (drawn sink .hscroll n (readPart .hscroll d)) = width (readPart .hscroll d) := by
  obtain ⟨id, type, ps, cs⟩ := d
  by_cases hmem : type ∈ Container.hscroll.types
  · simp only [Container.types, List.mem_cons, List.not_mem_nil, or_false] at hmem
    rcases hmem with rfl | rfl | rfl | rfl
    · rw [readPart_card]
      rfl
    · rw [readPart_stat]
      rfl
    · rw [readPart_carousel]
      rfl
    · rw [readPart_hscroll]
      rfl
  · rw [readPart_refused hmem]
    rfl

/-- The slots of a row are as wide as what is read of the nodes says. -/
theorem slots_drawnList (sink : Sink) (n : Nat) (ds : List Descriptor) :
    Strategy.slots Strategy.slotWidths Strategy.defaultWidth Strategy.unknownWidth ds
      (drawnList sink .hscroll n (readParts .hscroll ds)) =
        drawnSlots sink n (readParts .hscroll ds) := by
  induction ds generalizing n with
  | nil => rfl
  | cons d ds ih =>
    simp only [Strategy.slots] at ih
    simp only [readParts, drawnList, drawnSlots, Strategy.slots, List.zip_cons_cons, List.map_cons,
      slotWidth_drawn, ih]

/-- The strategy for a type that is taken draws what is read of the node. -/
theorem served_draws {c : Context} {k : Container} (id : String) {type : String} (ps : Properties)
    {cs : Option (List Descriptor)} {children : Context → Act υ (List Renderable)}
    (hk : Stands k c) (hmem : type ∈ k.types)
    (hchildren : ∀ (c : Context) (k : Container), Stands k c →
      Draws c.images c.pass (urlsList (readParts k (cs.getD [])))
        (linesList c.depth (readParts k (cs.getD []))) (children c)
        fun n => drawnList c.actions k n (readParts k (cs.getD []))) :
    ∃ s, Registry.default.get? type = some s ∧
      Draws c.images c.pass (urls (readPart k ⟨id, type, ps, cs⟩))
        (lines c.depth (readPart k ⟨id, type, ps, cs⟩)) (s.render ⟨id, type, ps, cs⟩ c children)
        fun n => drawn c.actions k n (readPart k ⟨id, type, ps, cs⟩) := by
  have hroot := k.types_subset hmem
  simp only [Container.types, List.mem_cons, List.not_mem_nil, or_false] at hroot
  rcases hroot with rfl | rfl | rfl | rfl | rfl
  · refine ⟨.card, rfl, ?_⟩
    simp only [readPart_card, urls, lines, drawn]
    exact draws_map (cardRegion_draws c _) fun n =>
      Renderable.card id (Properties.get ps "name" "") (Properties.get ps "description" "") n
  · refine ⟨.stat, rfl, ?_⟩
    simp only [readPart_stat, urls, lines, drawn]
    exact draws_pure (Renderable.stat id _ _ 1)
  · refine ⟨.action, rfl, ?_⟩
    cases k with
    | root =>
      simp only [readPart_button, urls, lines, drawn]
      exact draws_pure (Renderable.action id _ _)
    | carousel => simp [Container.types] at hmem
    | hscroll => simp [Container.types] at hmem
  · refine ⟨.carousel, rfl, ?_⟩
    simp only [readPart_carousel, urls, lines, drawn]
    exact draws_map (hchildren _ _ hk.carousel) fun pages =>
      Renderable.carousel id (Properties.get ps "title" "") pages Strategy.defaultHeight
  · refine ⟨.hscroll, rfl, ?_⟩
    have hshown := draws_map (hchildren _ _ hk.hscroll) fun shown =>
      Renderable.hscroll id (Properties.get ps "title" "") (Strategy.slots Strategy.slotWidths
        Strategy.defaultWidth Strategy.unknownWidth (cs.getD []) shown) Renderable.slotSpacing
    simp only [slots_drawnList] at hshown
    simp only [readPart_hscroll, urls, lines, drawn]
    exact hshown

theorem draws_compositional :
    Compositional (υ := υ) .default
      (fun d c m => ∀ k, Stands k c → Draws c.images c.pass (urls (readPart k d))
        (lines c.depth (readPart k d)) m fun n => drawn c.actions k n (readPart k d))
      (fun ds c m => ∀ k, Stands k c → Draws c.images c.pass (urlsList (readParts k ds))
        (linesList c.depth (readParts k ds)) m fun n => drawnList c.actions k n (readParts k ds))
    where
  node := by
    rintro ⟨id, type, ps, cs⟩ c children hchildren k hk
    by_cases hmem : type ∈ k.types
    · obtain ⟨s, hs, hserved⟩ := served_draws id ps hk hmem fun c k hk => hchildren c k hk
      rw [dispatchWith_accepted ((hk.accepts_iff type).2 hmem) hs]
      exact draws_guarded hserved
    · have hrefused : c.accepts .default type = false :=
        Bool.eq_false_iff.2 fun h => hmem ((hk.accepts_iff type).1 h)
      rw [dispatchWith_refused hrefused, readPart_refused hmem]
      simp only [urls, lines, drawn, ← hk.message]
      exact draws_map (draws_log _ _ _) fun _ => Renderable.unknown id type c.message
  nil := fun c k _ => draws_pure _
  cons := by
    intro d ds c m ms hm hms k hk
    have hothers (n : Nat) := draws_map (hms k hk) (drawn c.actions k n (readPart k d) :: ·)
    exact draws_bind (f := fun r => do let rs ← ms; pure (r :: rs)) (hm k hk) hothers

end Render

namespace Renderer

open Session Render ReadPart
open Descriptor (readParts)

variable {υ : Type} {s : Session υ}

/-- Around dispatch nothing is asked for. -/
theorem asks_render {r : Renderer} {ds : List Descriptor} {pass : Option Pass}
    {qs : List (ImageRequest × Region Nat)}
    (h : ∀ u, Reporting s u →
      Asks (dispatchList r.registry ds (r.context pass) : Act υ (List Renderable)) u qs) :
    Asks (r.render ds pass) s qs := by
  obtain ⟨n, w, hw, -⟩ := channelOr_yields r.channel s
  have hsw : Reporting s w := by
    have h := channelOr_reporting r.channel s
    rwa [next, hw] at h
  have hrequests : w.requests = s.requests := by
    obtain ⟨⟨j, τ, rfl⟩, -⟩ := hsw
    rfl
  have htimed : Asks (timed n "render.pass_ms" [] (dispatchList r.registry ds (r.context pass))) w
      qs := .timed fun u hwu => h u (IsTrans.trans _ _ _ hsw hwu)
  refine .before hw hrequests (htimed.after fun out => Keeps.asksNothing ?_)
  dsimp only
  split
  · refine keeps_bind (count_reporting _ _ _ _) fun _ => ?_
    exact keeps_bind (log_reporting _ _ _) fun _ => keeps_pure _
  · exact keeps_bind (log_reporting _ _ _) fun _ => keeps_pure _

/-- What a rendering gives, does and reports, all of it from what is read of the descriptors. -/
theorem exec_render_drawn {r : Renderer} (hregistry : r.registry = .default)
    (hpatient : r.images.Patient (s.loader.map Loader.closed)) (hpaced : s.telemetry.Paced)
    {ds : List Descriptor} (hds : Descriptor.nodesList ds < 2 ^ 1023) (pass : Option Pass) :
    ∃ out x t, out = drawnList r.actions .root s.regions.length (readParts .root ds) ∧
      exec (r.render ds pass) s = (.ok out, t) ∧
      Reported r.channel ((linesList 0 (readParts .root ds)).map .line ++
        .metric ⟨"render.pass_ms", x, []⟩ :: closing pass out) s t ∧
      t.regions = s.regions ++ (urlsList (readParts .root ds)).map regionFor ∧
      Asks (r.render ds pass) s (asked r.images (s.loader.map Loader.closed) pass s.regions.length
        (urlsList (readParts .root ds))) := by
  have hfallback : r.registry.fallback.Reliable := by
    rw [hregistry]
    exact Strategy.placeholder_reliable
  obtain ⟨n, w, u, out, v, x, t, hchannel, hsu, hquiet, hout, hvt, hreports, hrender⟩ :=
    exec_render_reports hfallback (fun _ => hpatient.willing) hpaced hds pass
  have hstands : Stands .root (r.context pass) := ⟨rfl, rfl, hpatient.willing⟩
  obtain ⟨⟨j, τ, rfl⟩, -⟩ := hsu
  have hdraws := draws_compositional.dispatchList (υ := υ) ds (r.context pass) .root hstands
  obtain ⟨v', hv', hdrew, -⟩ := hdraws { s with journal := j, telemetry := τ } hpatient
  rw [← hregistry, hout] at hv'
  obtain ⟨hshown, rfl⟩ := Prod.mk.inj hv'
  obtain ⟨⟨j', τ', rfl⟩, -⟩ := hvt
  refine ⟨out, x, _, Except.ok.inj hshown, hrender, ⟨n, w, hchannel, ?_⟩, hdrew.regions, ?_⟩
  · have hlines := Reports.lines n (linesList 0 (readParts .root ds))
      ({ s with journal := j, telemetry := τ } : Session υ)
    have hdone : Reports n ((linesList 0 (readParts .root ds)).map .line)
        { s with journal := j, telemetry := τ } v := by
      rw [Reports, reported, hdrew.journal, hdrew.telemetry]
      exact hlines
    exact Reports.after hquiet (hdone.append hreports)
  · refine asks_render fun u hsu => ?_
    obtain ⟨⟨j, τ, rfl⟩, -⟩ := hsu
    obtain ⟨-, -, -, hasks⟩ := hdraws { s with journal := j, telemetry := τ } hpatient
    rw [hregistry]
    exact hasks

end Renderer
end RemoteScreen
