import RemoteScreen.Proofs.View.Housing

/-! Cards and their regions: a card view that is built shows its region and listens to it, one that is
retired hears nothing more, and when a region comes to its end every view that listens shows it. -/
namespace RemoteScreen

open Session (Wears)

variable {ι : Type}

/-- A listener makes no difference to the looks of a region. -/
@[simp] theorem Region.look_subscribe (r : Region ι) (l : ι) : (r.subscribe l).look = r.look := rfl

@[simp] theorem Region.look_unsubscribe [BEq ι] (r : Region ι) (l : ι) :
    (r.unsubscribe l).look = r.look := rfl

theorem Region.look_keys (r : Region ι) : (r.look.map Prod.fst).Nodup := by
  unfold look
  split
  · split <;> simp
  · simp
  · simp

theorem Toolkit.lookup_overlay_of_not_mem {κ : Type} {key : String} {top : Aspects κ}
    (h : key ∉ top.map Prod.fst) (base : Aspects κ) :
    (overlay base top).lookup key = base.lookup key := by
  induction top generalizing base with
  | nil => rfl
  | cons e top ih =>
    rw [List.map_cons, List.mem_cons, not_or] at h
    have htop := ih h.2 (Json.putEntry e.1 e.2 base)
    rw [Json.lookup_putEntry, if_neg h.1] at htop
    exact htop

/-- What is laid over the looks of a widget is what it wears. -/
theorem wears_overlay {top : Aspects Command} (h : (top.map Prod.fst).Nodup)
    (base : Aspects Command) : Wears (Toolkit.overlay base top) top := by
  induction top generalizing base with
  | nil => exact fun e he => absurd he List.not_mem_nil
  | cons e top ih =>
    obtain ⟨hnot, hnodup⟩ := List.nodup_cons.1 h
    intro e' he'
    rcases List.mem_cons.1 he' with rfl | he'
    · have hlookup := Toolkit.lookup_overlay_of_not_mem hnot (Json.putEntry e'.1 e'.2 base)
      rw [Json.lookup_putEntry, if_pos rfl] at hlookup
      exact hlookup
    · exact ih hnodup (Json.putEntry e.1 e.2 base) e' he'

namespace Session

open Toolkit (Extended Site)
open Renderable (cardRegions)

variable {s t : Session Ui} {path path' : Nat → List Nat} {a q v w label n : Nat} {x : View}
  {r : Region Nat}

theorem exec_showImage (hx : s.ui.views[v]? = some x) (hparts : x.parts = .card label)
    (hr : s.regions[n]? = some r) : exec (showImage n v) s = exec (configure label r.look) s := by
  simp [showImage, hx, hparts, region?, hr]

/-- A session with a changed region. -/
def withRegion (s : Session Ui) (n : Nat) (f : Region Nat → Region Nat) : Session Ui :=
  { s with regions := s.regions.modify n f }

theorem getElem?_withRegion (s : Session Ui) (n : Nat) (f : Region Nat → Region Nat) (m : Nat) :
    (s.withRegion n f).regions[m]? = if m = n then (s.regions[m]?).map f else s.regions[m]? := by
  unfold withRegion
  dsimp only
  rw [List.getElem?_modify]
  by_cases hm : m = n
  · subst hm
    rw [if_pos rfl]
    cases s.regions[m]? <;> simp
  · rw [if_neg hm]
    cases s.regions[m]? <;> simp [Ne.symm hm]

/-- A region of a session in which one has changed is that one or an old one. -/
theorem withRegion_cases {f : Region Nat → Region Nat} {m : Nat} {r : Region Nat}
    (hr : (s.withRegion n f).regions[m]? = some r) :
    (m = n ∧ ∃ r₀, s.regions[n]? = some r₀ ∧ r = f r₀) ∨ m ≠ n ∧ s.regions[m]? = some r := by
  rw [getElem?_withRegion] at hr
  by_cases hm : m = n
  · subst hm
    rw [if_pos rfl] at hr
    obtain ⟨r₀, hr₀, hf⟩ := Option.map_eq_some_iff.1 hr
    exact .inl ⟨rfl, r₀, hr₀, hf.symm⟩
  · rw [if_neg hm] at hr
    exact .inr ⟨hm, hr⟩

@[simp] theorem length_withRegion (s : Session Ui) (n : Nat) (f : Region Nat → Region Nat) :
    (s.withRegion n f).regions.length = s.regions.length := List.length_modify _ _ _

/-! Building a card -/

theorem follows_of_card (label : Nat) (hx : s.ui.views[v]? = some x) (hregion : x.region? = some n)
    {u m l : Nat} :
    Follows (s.withView v fun x => { x with parts := .card label }).ui u l m ↔
      u = v ∧ l = label ∧ m = n ∨ u ≠ v ∧ Follows s.ui u l m := by
  unfold Follows
  by_cases hu : u = v
  · subst hu
    have hfollows : View.follows? { x with parts := .card label } = some (label, n) :=
      View.follows?_eq_some.2 ⟨rfl, hregion⟩
    rw [withView_self hx, Option.bind_some, hfollows]
    simp [eq_comm]
  · rw [withView_ne _ hu]
    simp [hu]

/-- A card view takes up a label that looks as its region wants it, and listens. -/
theorem Housed.subscribed (h : Housed path s) (hx : s.ui.views[v]? = some x)
    (hroot : x.root = none) (hparts : x.parts = .none) (hregion : x.region? = some n)
    (hlabel : s.ui.kit.isAlive label = true) {vs : List Nat} (hpath : path label = v :: vs)
    (hlooks : ∀ r, s.regions[n]? = some r →
      ∃ as, s.ui.kit.aspects? label = some as ∧ Wears as r.look) :
    Housed path ((s.withView v fun x => { x with parts := .card label }).withRegion n
      fun r => r.subscribe v) := by
  have hfollows (u l m : Nat) := follows_of_card label hx hregion (u := u) (l := l) (m := m)
  have hfree (l m : Nat) : ¬Follows s.ui v l m := by
    intro hfollow
    obtain ⟨y, hy, hcard, -⟩ := follows_iff.1 hfollow
    obtain rfl := Option.some.inj (hx.symm.trans hy)
    rw [hparts] at hcard
    cases hcard
  have howns (w : Nat) (hw : ({ x with parts := .card label } : View).Owns w) :
      s.ui.kit.isAlive w = true ∧ path w = v :: vs := by
    rcases hw with hw | hw
    · rw [hroot] at hw
      cases hw
    · obtain rfl := List.mem_singleton.1 hw
      exact ⟨hlabel, hpath⟩
  refine ⟨h.toNested.withView hx howns, ?_, ?_, ?_, ?_⟩
  · exact h.toForest.withView hx (fun c hc => .inl hc) rfl rfl
  · intro y hy r hr
    rw [length_withRegion]
    exact h.within_withView hx rfl y hy r hr
  · intro m r hr
    rcases withRegion_cases hr with ⟨rfl, r₀, hr₀, rfl⟩ | ⟨hm, hr⟩
    · obtain ⟨hnodup, hheard⟩ := h.heard m r₀ hr₀
      have hnew : v ∉ r₀.listeners := fun hv => by
        obtain ⟨l, hl⟩ := (hheard v).1 hv
        exact hfree l m hl
      refine ⟨?_, fun u => ?_⟩
      · rw [Region.listeners_subscribe]
        exact List.nodup_append_comm.1 (List.nodup_cons.2 ⟨hnew, hnodup⟩)
      · rw [Region.listeners_subscribe, List.mem_append, List.mem_singleton, hheard u]
        by_cases hu : u = v
        · subst hu
          exact iff_of_true (.inr rfl) ⟨label, (hfollows u label m).2 (.inl ⟨rfl, rfl, rfl⟩)⟩
        · refine (or_iff_left hu).trans (exists_congr fun l => ?_)
          exact ((hfollows u l m).trans (by simp [hu])).symm
    · obtain ⟨hnodup, hheard⟩ := h.heard m r hr
      refine ⟨hnodup, fun u => (hheard u).trans (exists_congr fun l => ?_)⟩
      by_cases hu : u = v
      · subst hu
        refine iff_of_false (hfree l m) fun hfollow => ?_
        rcases (hfollows u l m).1 hfollow with ⟨-, -, hmn⟩ | ⟨hne, -⟩
        · exact hm hmn
        · exact hne rfl
      · exact ((hfollows u l m).trans (by simp [hu])).symm
  · intro u l m r hfollow hr
    have hlook : ∃ r₀, s.regions[m]? = some r₀ ∧ r.look = r₀.look := by
      rcases withRegion_cases hr with ⟨rfl, r₀, hr₀, rfl⟩ | ⟨-, hr⟩
      · exact ⟨r₀, hr₀, rfl⟩
      · exact ⟨r, hr, rfl⟩
    obtain ⟨r₀, hr₀, hlook⟩ := hlook
    rw [hlook]
    rcases (hfollows u l m).1 hfollow with ⟨rfl, rfl, rfl⟩ | ⟨-, hfollow⟩
    · exact hlooks r₀ hr₀
    · exact h.looks u l m r₀ hfollow hr₀

/-- A card view is built: its frame and its label are its own, and it listens. -/
theorem buildCard_leads (h : Housed path s) (hx : s.ui.views[v]? = some x) (hroot : x.root = none)
    (hparts : x.parts = .none) (hregion : x.region? = some n) (hq : s.ui.kit.isAlive q = true)
    (title body : String) :
    Leads (buildCard v title body n q) s fun frame t => ∃ k label,
      Extended s.ui.kit.widgets.length q s.ui.kit k ∧
      (s.ui.kit.widgets.length ≤ frame ∧ frame < k.widgets.length) ∧
      (s.ui.kit.widgets.length ≤ label ∧ label < k.widgets.length) ∧
      t = ((s.withKit k).withView v fun x => { x with parts := .card label }).withRegion n
        (fun r => r.subscribe v) ∧
      Housed (raised s.ui.kit.widgets.length (v :: path q) path) t := by
  have hsite := h.grown.site hq
  refine leads_bind (create_leads hsite (.inl rfl) _ _) fun frame s₁ ⟨h₁, hframe⟩ => ?_
  refine leads_bind (place_leads h₁.site (.inr hframe) _ _ _) fun label s₂ ⟨h₂, hlabel⟩ => ?_
  have hframe₂ := h₂.fresh hframe
  refine leads_bind_eq (exec_updateView _ _ _) ?_
  have hsite₃ : Site s.ui.kit.widgets.length q
    (s₂.withView v fun x => { x with parts := .card label }).ui.kit := h₂.site
  refine leads_bind (place_leads hsite₃ (.inr hframe₂) _ _ _) fun _ s₄ ⟨h₄, _⟩ => ?_
  refine leads_bind (place_leads h₄.site (.inr (h₄.fresh hframe₂)) _ _ _) fun _ s₅ ⟨h₅, _⟩ => ?_
  have hlabel₅ := h₅.fresh (h₄.fresh hlabel)
  have hframe₅ := h₅.fresh (h₄.fresh hframe₂)
  have hrest := h₄.trans h₅
  have hkit : Extended s.ui.kit.widgets.length q s.ui.kit s₅.ui.kit :=
    (h₁.trans h₂).kit.trans hrest.kit
  have hs₅ : s₅ = (s.withKit s₅.ui.kit).withView v fun x => { x with parts := .card label } := by
    rw [hrest.eq, (h₁.trans h₂).eq]
    rfl
  have hrange := h.lt_of_region? hx hregion
  -- The label comes to look as its region wants it.
  let r := s.regions[n]
  let k := s₅.ui.kit.update label fun x =>
    { x with aspects := Toolkit.overlay x.aspects r.look }
  have hview : s₅.ui.views[v]? = some { x with parts := .card label } := by
    rw [hs₅]
    exact withView_self (s := s.withKit s₅.ui.kit) hx _
  have hr : s₅.regions[n]? = some r := by
    rw [hs₅]
    exact List.getElem?_eq_getElem hrange
  have hshow : exec (showImage n v) s₅ = (.ok ⟨⟩, s₅.withKit k) := by
    rw [exec_showImage hview rfl hr, exec_configure (hlabel₅.isAlive hrest.site)]
  refine leads_bind_eq hshow ?_
  refine leads_bind_eq (exec_modify _ _) ?_
  have hlast : Extended s.ui.kit.widgets.length q s₅.ui.kit k :=
    .update (fun _ => rfl) (.inl hlabel₅.1)
  have hall := hkit.trans hlast
  have hhoused : Housed (raised s.ui.kit.widgets.length (v :: path q) path) (s.withKit k) :=
    h.extended hall hq (fun _ hc => raised_of_lt hc) (fun _ hc _ => raised_of_le hc)
      (.inr ⟨v, rfl⟩)
  have hlooks (r' : Region Nat) (hr' : s.regions[n]? = some r') :
      ∃ as, k.aspects? label = some as ∧ Wears as r'.look := by
    obtain rfl : r = r' := Option.some.inj ((List.getElem?_eq_getElem hrange).symm.trans hr')
    exact ⟨_, Toolkit.aspects?_update_self hlabel₅.2 _, wears_overlay r.look_keys _⟩
  have halive : k.isAlive label = true := hlast.isAlive (hlabel₅.isAlive hrest.site)
  have hdone := hhoused.subscribed hx hroot hparts hregion halive (raised_of_le hlabel₅.1) hlooks
  refine leads_pure ⟨k, label, hall, ⟨hframe₅.1, Nat.lt_of_lt_of_le hframe₅.2 hlast.length⟩,
    ⟨hlabel₅.1, Nat.lt_of_lt_of_le hlabel₅.2 hlast.length⟩, ?_, ?_⟩
  · rw [hs₅]
    rfl
  · rw [hs₅]
    exact hdone

/-! Retiring -/

/-- Only cards have a region. -/
theorem Forest.card_iff (h : Forest s.ui.views) (hx : s.ui.views[v]? = some x) :
    x.kind = .card ↔ ∃ n, x.region? = some n := by
  rcases h.sort x (List.mem_of_getElem? hx) with ⟨hgroup, hnone⟩ | ⟨r, hr, hkind⟩
  · refine iff_of_false (fun hcard => ?_) fun ⟨n, hn⟩ => ?_
    · rw [hcard] at hgroup
      cases hgroup
    · rw [View.region?, hnone] at hn
      cases hn
  · rw [hkind, View.region?, hr, Option.bind_some]
    cases r <;> simp [ViewKind.ofRenderable, Renderable.region?, Renderable.visible]

/-- A view without its parts, which shows no region on them any more. -/
def partless (x : View) : View := { x with parts := .none }

theorem follows_partless (hx : s.ui.views[v]? = some x) {u l m : Nat} :
    Follows (s.withView v partless).ui u l m ↔ u ≠ v ∧ Follows s.ui u l m := by
  unfold Follows
  by_cases hu : u = v
  · subst hu
    have hnone : (partless x).follows? = none := rfl
    rw [withView_self hx, Option.bind_some, hnone]
    simp
  · rw [withView_ne _ hu]
    simp [hu]

theorem owns_partless (h : (partless x).Owns w) : x.Owns w := by
  rcases h with hroot | hpart
  · exact .inl hroot
  · exact absurd hpart List.not_mem_nil

/-- A card view that stops listening goes without its label. -/
theorem Housed.unsubscribed (h : Housed path s) (hx : s.ui.views[v]? = some x)
    (hregion : x.region? = some n) :
    Housed path ((s.withRegion n fun r => r.unsubscribe v).withView v partless) := by
  have hfollows (u l m : Nat) := follows_partless hx (u := u) (l := l) (m := m)
  have hregions (l m : Nat) (hfollow : Follows s.ui v l m) : m = n := by
    obtain ⟨y, hy, -, hm⟩ := follows_iff.1 hfollow
    obtain rfl := Option.some.inj (hx.symm.trans hy)
    exact Option.some.inj (hm.symm.trans hregion)
  obtain ⟨vs, hown⟩ := h.own v x hx
  refine ⟨h.toNested.withView hx (f := partless) fun w hw => hown w (owns_partless hw), ?_, ?_, ?_, ?_⟩
  · exact h.toForest.withView hx (f := partless) (fun c hc => .inl hc) rfl rfl
  · intro y hy r hr
    change ∀ m ∈ cardRegions [r], m < (s.withRegion n fun r => r.unsubscribe v).regions.length
    rw [length_withRegion]
    exact h.within_withView hx rfl y hy r hr
  · intro m r hr
    rcases withRegion_cases hr with ⟨rfl, r₀, hr₀, rfl⟩ | ⟨hm, hr⟩
    · obtain ⟨hnodup, hheard⟩ := h.heard m r₀ hr₀
      rw [Region.listeners_unsubscribe]
      refine ⟨hnodup.erase v, fun u => ?_⟩
      rw [hnodup.mem_erase_iff, hheard u, ← exists_and_left]
      exact exists_congr fun l => (hfollows u l m).symm
    · obtain ⟨hnodup, hheard⟩ := h.heard m r hr
      refine ⟨hnodup, fun u => (hheard u).trans (exists_congr fun l => ?_)⟩
      refine Iff.trans ?_ (hfollows u l m).symm
      refine (and_iff_right_of_imp fun hfollow => ?_).symm
      rintro rfl
      exact hm (hregions l m hfollow)
  · intro u l m r hfollow hr
    have hbefore : Follows s.ui u l m := ((hfollows u l m).1 hfollow).2
    rcases withRegion_cases hr with ⟨rfl, r₀, hr₀, rfl⟩ | ⟨-, hr⟩
    · exact h.looks u l m r₀ hbefore hr₀
    · exact h.looks u l m r hbefore hr

theorem Housed.partless (h : Housed path s) (hx : s.ui.views[v]? = some x)
    (hregion : x.region? = none) : Housed path (s.withView v partless) := by
  obtain ⟨vs, hown⟩ := h.own v x hx
  have hfollows : x.follows? = none := by
    unfold View.follows?
    split
    · simp_all
    · rfl
  exact h.withView hx (fun w hw => hown w (owns_partless hw)) (fun c hc => .inl hc) rfl rfl
    hfollows.symm

/-- A view that is retired has lost its parts, and no more. -/
theorem retire_leads (h : Housed path s) (hx : s.ui.views[v]? = some x) :
    Leads (retire v x) s fun _ t => Housed path t ∧
      t.ui.views = (s.withView v Session.partless).ui.views ∧
      t.ui.kit.widgets = s.ui.kit.widgets ∧ t.ui.kit.destroyed = s.ui.kit.destroyed := by
  have hcard := h.toForest.card_iff hx
  have hregion (hkind : x.kind ≠ .card) : x.region? = none := by
    by_contra hsome
    exact hkind (hcard.2 (Option.ne_none_iff_exists'.1 hsome))
  unfold retire
  split
  next hkind =>
    obtain ⟨n, hn⟩ := hcard.1 hkind
    rw [hn]
    exact ⟨⟨⟩, _, rfl, h.unsubscribed hx hn, rfl, rfl, rfl⟩
  next hkind =>
    have hnone := hregion (by rw [hkind]; decide)
    have hforget (k : Toolkit Command) (hwidgets : k.widgets = s.ui.kit.widgets)
        (hdestroyed : k.destroyed = s.ui.kit.destroyed) :
        Leads (do
          updateUi fun u => { u with screen := { u.screen with pollAlarm := none } }
          updateView v Session.partless) (s.withKit k) fun _ t => Housed path t ∧
            t.ui.views = (s.withView v Session.partless).ui.views ∧
            t.ui.kit.widgets = s.ui.kit.widgets ∧ t.ui.kit.destroyed = s.ui.kit.destroyed :=
      ⟨⟨⟩, _, rfl, (h.partless hx hnone).still (.of_widgets hwidgets hdestroyed rfl rfl), rfl,
        hwidgets, hdestroyed⟩
    refine leads_bind_eq (exec_theUi s) ?_
    dsimp only
    split
    · exact leads_bind_eq (exec_updateKit _ s) (hforget (s.ui.kit.cancel _) rfl rfl)
    · exact hforget s.ui.kit rfl rfl
  next hkind _ =>
    exact ⟨⟨⟩, _, rfl, h.partless hx (hregion hkind), rfl, rfl, rfl⟩

/-! The end of a region -/

/-- Two views show their regions on different labels. -/
theorem Nested.label_ne (h : Nested path s.ui) {u m l : Nat} (hu : Follows s.ui u l m)
    (hv : Follows s.ui v label n) (hne : u ≠ v) : l ≠ label := by
  rintro rfl
  obtain ⟨-, us, hus⟩ := h.of_follows hu
  obtain ⟨-, vs, hvs⟩ := h.of_follows hv
  exact hne (List.cons.inj (hus.symm.trans hvs)).1

theorem Follows.unique {u : Ui} {l m : Nat} (h : Follows u v label n) (k : Follows u v l m) :
    l = label ∧ m = n := by
  have heq := Option.some.inj (h.symm.trans k)
  exact ⟨(Prod.mk.inj heq).1.symm, (Prod.mk.inj heq).2.symm⟩

/-- While the listeners of region `n` are told that it is `r` now: those in `told` show it, and the
labels of other regions look as before. -/
structure Telling (s : Session Ui) (n : Nat) (r : Region Nat) (told : List Nat) (t : Session Ui) :
    Prop where
  eq : t = ({ s with regions := s.regions.set n r } : Session Ui).withKit t.ui.kit
  length : t.ui.kit.widgets.length = s.ui.kit.widgets.length
  destroyed : t.ui.kit.destroyed = s.ui.kit.destroyed
  parents : ∀ c, t.ui.kit.parent? c = s.ui.kit.parent? c
  shown : ∀ v ∈ told, ∀ label, Follows s.ui v label n →
    ∃ as, t.ui.kit.aspects? label = some as ∧ Wears as r.look
  others : ∀ v label m, Follows s.ui v label m → m ≠ n →
    t.ui.kit.aspects? label = s.ui.kit.aspects? label

theorem Telling.views {told : List Nat} (h : Telling s n r told t) : t.ui.views = s.ui.views := by
  rw [h.eq]
  rfl

theorem Telling.regions {told : List Nat} (h : Telling s n r told t) :
    t.regions = s.regions.set n r := by
  rw [h.eq]
  rfl

/-- Telling one more listener. -/
theorem Telling.tell (hs : Housed path s) (hn : n < s.regions.length) {told : List Nat}
    (h : Telling s n r told t) (hv : Follows s.ui v label n) :
    Leads (showImage n v) t fun _ u => Telling s n r (told ++ [v]) u := by
  obtain ⟨x, hx, hparts, -⟩ := follows_iff.1 hv
  have halive : t.ui.kit.isAlive label = true := by
    rw [Toolkit.isAlive_congr h.length h.destroyed]
    exact (hs.toNested.of_follows hv).1
  have hx' : t.ui.views[v]? = some x := h.views.symm ▸ hx
  have hr : t.regions[n]? = some r := by
    rw [h.regions]
    exact List.getElem?_set_self hn
  refine ⟨⟨⟩, _, (exec_showImage hx' hparts hr).trans (exec_configure halive _), ?_⟩
  refine ⟨?_, ?_, h.destroyed, fun c => ?_, fun u hu l hl => ?_, fun u l m hfollow hm => ?_⟩
  · conv_lhs => rw [h.eq]
    rfl
  · exact (List.length_modify _ _ _).trans h.length
  · refine Eq.trans ?_ (h.parents c)
    exact Toolkit.parent?_update (f := fun x =>
      { x with aspects := Toolkit.overlay x.aspects r.look }) (fun _ => rfl) c
  · by_cases huv : u = v
    · subst huv
      obtain rfl := (hv.unique hl).1
      exact ⟨_, Toolkit.aspects?_update_self (Toolkit.lt_of_isAlive halive) _,
        wears_overlay r.look_keys _⟩
    · have htold : u ∈ told := by simpa [huv] using hu
      obtain ⟨as, has, hwears⟩ := h.shown u htold l hl
      have hne : l ≠ label := hs.toNested.label_ne hl hv huv
      exact ⟨as, (Toolkit.aspects?_update_ne hne.symm).trans has, hwears⟩
  · have huv : u ≠ v := by
      rintro rfl
      exact hm (hv.unique hfollow).2
    have hne : l ≠ label := hs.toNested.label_ne hfollow hv huv
    exact (Toolkit.aspects?_update_ne hne.symm).trans (h.others u l m hfollow hm)

/-- When all listeners have been told, labels look as their regions want them again. -/
theorem Telling.housed (hs : Housed path s) {r₀ : Region Nat} (hr₀ : s.regions[n]? = some r₀)
    (hlisteners : r.listeners = r₀.listeners) (h : Telling s n r r₀.listeners t) :
    Housed path t := by
  have hn : n < s.regions.length := (List.getElem?_eq_some_iff.1 hr₀).1
  have hfollows (u l m : Nat) : Follows t.ui u l m ↔ Follows s.ui u l m := by
    unfold Follows
    rw [h.views]
  have hregion {m : Nat} {r' : Region Nat} (hr' : t.regions[m]? = some r') :
      m = n ∧ r' = r ∨ m ≠ n ∧ s.regions[m]? = some r' := by
    rw [h.regions, List.getElem?_set] at hr'
    by_cases hm : n = m
    · subst hm
      rw [if_pos rfl, if_pos hn] at hr'
      exact .inl ⟨rfl, (Option.some.inj hr').symm⟩
    · rw [if_neg hm] at hr'
      exact .inr ⟨Ne.symm hm, hr'⟩
  refine ⟨hs.toNested.congr h.length h.destroyed h.parents h.views, ?_, ?_, ?_, ?_⟩
  · rw [h.views]
    exact hs.toForest
  · rw [h.views, h.regions, List.length_set]
    exact hs.within
  · intro m r' hr'
    rcases hregion hr' with ⟨rfl, rfl⟩ | ⟨-, hr'⟩
    · obtain ⟨hnodup, hheard⟩ := hs.heard m r₀ hr₀
      rw [hlisteners]
      exact ⟨hnodup, fun v => (hheard v).trans (exists_congr fun l => (hfollows v l m).symm)⟩
    · obtain ⟨hnodup, hheard⟩ := hs.heard m r' hr'
      exact ⟨hnodup, fun v => (hheard v).trans (exists_congr fun l => (hfollows v l m).symm)⟩
  · intro v l m r' hfollow hr'
    have hbefore := (hfollows v l m).1 hfollow
    rcases hregion hr' with ⟨rfl, rfl⟩ | ⟨hm, hr'⟩
    · have hlistens : v ∈ r₀.listeners := ((hs.heard m r₀ hr₀).2 v).2 ⟨l, hbefore⟩
      exact h.shown v hlistens l hbefore
    · rw [h.others v l m hbefore hm]
      exact hs.looks v l m r' hbefore hr'

/-- A region comes to its end, if it had not come to one, and all views that listen show it. -/
theorem settle_leads (h : Housed path s) (n : Nat) {change : Region Nat → Option (Region Nat)}
    (hchange : ∀ r r', change r = some r' → r'.listeners = r.listeners) :
    Leads (settle tellView n change) s fun _ t => Housed path t ∧ t.ui.views = s.ui.views ∧
      t.ui.kit.widgets.length = s.ui.kit.widgets.length ∧
      t.ui.kit.destroyed = s.ui.kit.destroyed ∧ t.ui.screen = s.ui.screen ∧
      t.regions = (s.settled n change).regions := by
  have hread : exec (region? n) s = (.ok s.regions[n]?, s) := rfl
  unfold settled
  refine leads_bind_eq hread ?_
  cases hr : s.regions[n]?.bind change with
  | none => exact leads_pure ⟨h, rfl, rfl, rfl, rfl, rfl⟩
  | some r =>
    obtain ⟨r₀, hr₀, hend⟩ := Option.bind_eq_some_iff.1 hr
    have hlisteners := hchange r₀ r hend
    have hn : n < s.regions.length := (List.getElem?_eq_some_iff.1 hr₀).1
    let s₁ : Session Ui := { s with regions := s.regions.set n r }
    have hstart : Telling s n r [] s₁ :=
      ⟨rfl, rfl, rfl, fun _ => rfl, fun _ hv => absurd hv List.not_mem_nil, fun _ _ _ _ _ => rfl⟩
    have htold : Leads (r.listeners.forM (tellView n)) s₁ fun _ t =>
        Telling s n r r.listeners t := by
      refine leads_forM (Telling s n r) hstart fun before v after t hbefore ht => ?_
      have hv : v ∈ r₀.listeners := by simp [← hlisteners, hbefore]
      obtain ⟨l, hl⟩ := ((h.heard n r₀ hr₀).2 v).1 hv
      exact ht.tell h hn hl
    refine leads_bind_eq (exec_modify _ s) ?_
    refine leads_bind htold fun _ t ht => leads_pure ?_
    refine ⟨Telling.housed h hr₀ hlisteners (hlisteners ▸ ht), ht.views, ht.length, ht.destroyed, ?_,
      ht.regions⟩
    rw [ht.eq]
    rfl

end Session
end RemoteScreen
