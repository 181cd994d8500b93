import RemoteScreen.Proofs.Render.Beside

/-! Registration. Whatever a registry is asked, the first strategy of each tag stays and no other
one is ever taken; dispatch then gives what the strategy of the type gives. -/
namespace RemoteScreen
namespace Render

open Session

variable {υ α β σ : Type} {d : Descriptor} {c : Context}

/-! The log has no part in what is rendered -/

/-- What a step gives, and what it does but for the log, is the same whatever the log says. -/
def Deaf (m : Act υ α) : Prop :=
  ∀ s j, ∃ j', exec m { s with journal := j } = ((exec m s).1, { (exec m s).2 with journal := j' })

theorem deaf_pure (a : α) : Deaf (pure a : Act υ α) := fun _ j => ⟨j, rfl⟩

theorem deaf_fail (e : Failure) : Deaf (fail e : Act υ α) := fun _ j => ⟨j, rfl⟩

theorem deaf_log (severity : Severity) (part message : String) :
    Deaf (log severity part message : Act υ Unit) := fun _ _ => ⟨_, rfl⟩

theorem deaf_bind {m : Act υ α} {f : α → Act υ β} (hm : Deaf m) (hf : ∀ a, Deaf (f a)) :
    Deaf (m >>= f) := by
  intro s j
  obtain ⟨j', hs⟩ := hm s j
  rw [exec_bind, exec_bind, hs]
  rcases exec m s with ⟨e | a, t⟩
  · exact ⟨j', rfl⟩
  · exact hf a t j'

theorem deaf_attempt {m : Act υ α} (hm : Deaf m) : Deaf (attempt m) := by
  intro s j
  obtain ⟨j', hs⟩ := hm s j
  exact ⟨j', by rw [exec_attempt, exec_attempt, hs]⟩

/-- A step that looks at the session, but not at the log. -/
theorem deaf_get {f : Session υ → Act υ β} (hlook : ∀ s j, f { s with journal := j } = f s)
    (hf : ∀ s, Deaf (f s)) : Deaf (get >>= f) := by
  intro s j
  obtain ⟨j', hs⟩ := hf s s j
  exact ⟨j', by simpa only [exec_bind, exec_get, hlook] using hs⟩

theorem failRegion_deaf (n : Nat) : Deaf (failRegion tellNobody n : Act υ Bool) := by
  have htold (ls : List Nat) : Deaf (ls.forM (tellNobody n) : Act υ PUnit) := by
    induction ls with
    | nil => exact deaf_pure _
    | cons l ls ih => exact deaf_bind (deaf_pure _) fun _ => ih
  have hregion : Deaf (region? n : Act υ (Option (Region Nat))) := fun _ j => ⟨j, rfl⟩
  have hset (g : Region Nat) : Deaf (setRegion n g : Act υ Unit) := fun _ j => ⟨j, rfl⟩
  refine deaf_bind hregion fun g => ?_
  split
  · exact deaf_pure _
  · exact deaf_bind (hset _) fun _ => deaf_bind (htold _) fun _ => deaf_pure _

theorem cardRegion_deaf (c : Context) (url : String) : Deaf (cardRegion c url : Act υ Nat) := by
  have hadd : Deaf (addRegion url : Act υ Nat) := fun _ j => ⟨j, rfl⟩
  have hnote (q : ImageRequest) : Deaf (noteRequest q : Act υ Unit) := fun _ j => ⟨j, rfl⟩
  have hrequest (n : Nat) : Deaf (requestImage tellNobody n c.pass : Act υ Unit) := by
    refine deaf_get (fun _ _ => rfl) fun s => ?_
    split
    · exact deaf_pure _
    · refine deaf_bind (hnote _) fun _ => ?_
      split
      · exact deaf_bind (failRegion_deaf n) fun _ => deaf_pure _
      · exact fun _ j => ⟨j, rfl⟩
  have hask (n : Nat) : Deaf (askForImage c.images n url c.pass : Act υ Unit) := by
    unfold askForImage
    split
    · exact deaf_pure _
    · split
      · exact deaf_fail _
      · exact hnote _
    · exact hrequest n
  refine deaf_bind hadd fun n => ?_
  split
  · exact deaf_bind (failRegion_deaf n) fun _ => deaf_pure _
  · exact deaf_bind (hask n) fun _ => deaf_pure _

theorem render_deaf (st : Strategy) {children : Context → Act υ (List Renderable)}
    (hchildren : ∀ c, Deaf (children c)) : Deaf (st.render d c children) := by
  unfold Strategy.render
  split
  · exact deaf_fail _
  · split
    · exact deaf_pure _
    · exact deaf_bind (cardRegion_deaf c _) fun _ => deaf_pure _
    · exact deaf_pure _
    · exact deaf_pure _
    · exact deaf_bind (hchildren _) fun _ => deaf_pure _
    · exact deaf_bind (hchildren _) fun _ => deaf_pure _
    · exact deaf_fail _

theorem serve_deaf {reg : Registry σ} {run : σ → Act υ Renderable} (hrun : ∀ x, Deaf (run x)) :
    Deaf (serve reg d c run) := by
  unfold serve guarded logFallback
  split
  · refine deaf_bind (deaf_attempt (hrun _)) fun r => ?_
    split
    · exact deaf_pure _
    · exact deaf_bind (deaf_log _ _ _) fun _ => deaf_pure _
  · exact deaf_bind (deaf_log _ _ _) fun _ => hrun _

theorem deaf_compositional (reg : Registry Strategy) :
    Compositional (υ := υ) reg (fun _ _ m => Deaf m) (fun _ _ m => Deaf m) where
  node _ _ _ hchildren := serve_deaf fun st => render_deaf st hchildren
  nil _ := deaf_pure _
  cons _ _ _ _ _ hm hms := deaf_bind hm fun _ => deaf_bind hms fun _ => deaf_pure _

/-! Which strategy serves a node -/

/-- In a context that takes every type the strategy for the type serves a node, if there is one. -/
theorem serve_registered {reg : Registry σ} {run : σ → Act υ Renderable} (hc : c.allowed = none)
    (hhas : reg.has d.type = true) : serve reg d c run = guarded d (run (reg.resolve d.type)) := by
  obtain ⟨x, hx⟩ := Option.isSome_iff_exists.1 hhas
  simp only [serve, Context.accepts, Context.allows, hc, hhas, hx, Bool.and_self,
    Registry.resolve, Option.getD_some]

/-- Otherwise it is served by the fallback, after a line in the log. -/
theorem exec_serve_unregistered {reg : Registry σ} {run : σ → Act υ Renderable}
    (hhas : reg.has d.type = false) (s : Session υ) :
    exec (serve reg d c run) s = exec (run (reg.resolve d.type)) (next (logFallback d c) s) := by
  have hnone : reg.get? d.type = none := by
    rwa [Registry.has, Option.isSome_eq_false_iff, Option.isNone_iff_eq_none] at hhas
  simp only [serve, Context.accepts, hhas, Bool.false_and, Registry.resolve, hnone,
    Option.getD_none, exec_bind]
  rfl

end Render

namespace Registry

open Session Render

/-- What is asked of a registry. -/
inductive Request (σ : Type) where
  | register (tag : String) (strategy : σ)
  | has (tag : String)
  | get (tag : String)
  | resolve (tag : String)
  | tags
  | dispatch (d : Descriptor) (c : Context)

/-- What it answers. -/
inductive Answer (σ : Type) where
  | registered
  | refused (e : RegistryError)
  | known (b : Bool)
  | found (strategy : Option σ)
  | serves (strategy : σ)
  | listed (tags : List String)
  | shown (outcome : Except Failure Renderable)

abbrev History (σ : Type) := List (Request σ × Answer σ)

/-- What was to be registered, in order. -/
def attempts {σ : Type} (qs : List (Request σ)) : List (String × σ) :=
  qs.filterMap fun
    | .register tag x => some (tag, x)
    | _ => none

/-- What was registered with success, in order. -/
def successes {σ : Type} (h : History σ) : List (String × σ) :=
  h.filterMap fun
    | (.register tag x, .registered) => some (tag, x)
    | _ => none

/-- A registry in use: the session in which its strategies run, and all that it was asked so far. -/
structure Desk (σ υ : Type) where
  registry : Registry σ
  session : Session υ
  history : History σ := []

section

variable {σ υ : Type} (render : Registry σ → σ → Descriptor → Context → Act υ Renderable)

/-- The answer to a request, and the registry and the session after it. How strategies render is
left open. -/
def reply (k : Desk σ υ) : Request σ → Answer σ × Registry σ × Session υ
  | .register tag x =>
    match k.registry.register tag x with
    | .ok reg => (.registered, reg, k.session)
    | .error e => (.refused e, k.registry, k.session)
  | .has tag => (.known (k.registry.has tag), k.registry, k.session)
  | .get tag => (.found (k.registry.get? tag), k.registry, k.session)
  | .resolve tag => (.serves (k.registry.resolve tag), k.registry, k.session)
  | .tags => (.listed k.registry.tags, k.registry, k.session)
  | .dispatch d c =>
    let (outcome, t) := exec (serve k.registry d c fun x => render k.registry x d c) k.session
    (.shown outcome, k.registry, t)

def ask (k : Desk σ υ) (q : Request σ) : Desk σ υ :=
  let (a, reg, t) := reply render k q
  ⟨reg, t, k.history ++ [(q, a)]⟩

def askAll (k : Desk σ υ) (qs : List (Request σ)) : Desk σ υ := qs.foldl (ask render) k

end

section

variable {σ υ : Type} {render : Registry σ → σ → Descriptor → Context → Act υ Renderable}
  {k : Desk σ υ} {fallback : σ}

theorem has_iff_mem_tags (reg : Registry σ) (tag : String) :
    reg.has tag = true ↔ tag ∈ reg.tags := by
  rw [has, get?, Option.isSome_iff_ne_none, Ne, List.lookup_eq_none_iff]
  simp [tags]

theorem register_eq (reg : Registry σ) (tag : String) (x : σ) :
    reg.register tag x =
      if tag = "" then .error .emptyTag
      else if tag ∈ reg.tags then .error (.duplicateTag tag)
      else .ok { reg with entries := reg.entries ++ [(tag, x)] } := by
  simp only [register, has_iff_mem_tags]

theorem reply_register (k : Desk σ υ) (tag : String) (x : σ) :
    reply render k (.register tag x) =
      if tag = "" then (.refused .emptyTag, k.registry, k.session)
      else if tag ∈ k.registry.tags then (.refused (.duplicateTag tag), k.registry, k.session)
      else (.registered, { k.registry with entries := k.registry.entries ++ [(tag, x)] },
        k.session) := by
  rw [reply, register_eq]
  by_cases hempty : tag = ""
  · simp only [hempty, if_true]
  by_cases hmem : tag ∈ k.registry.tags
  · simp only [hempty, hmem, if_true, if_false]
  · simp only [hempty, hmem, if_false]

/-- A request adds one entry, under a tag that was free, or it leaves the registry alone. -/
theorem ask_cases (k : Desk σ υ) (q : Request σ) :
    (∃ tag x, q = .register tag x ∧ tag ≠ "" ∧ tag ∉ k.registry.tags ∧
      ask render k q = ⟨{ k.registry with entries := k.registry.entries ++ [(tag, x)] }, k.session,
        k.history ++ [(q, .registered)]⟩) ∨
    ∃ a t, a ≠ .registered ∧ (∀ tag x, q = .register tag x → tag = "" ∨ tag ∈ k.registry.tags) ∧
      ask render k q = ⟨k.registry, t, k.history ++ [(q, a)]⟩ := by
  cases q with
  | register tag x =>
    by_cases hempty : tag = ""
    · refine .inr ⟨.refused .emptyTag, k.session, by simp, ?_, ?_⟩
      · rintro _ _ ⟨rfl, rfl⟩
        exact .inl hempty
      · rw [ask, reply_register, if_pos hempty]
    by_cases hmem : tag ∈ k.registry.tags
    · refine .inr ⟨.refused (.duplicateTag tag), k.session, by simp, ?_, ?_⟩
      · rintro _ _ ⟨rfl, rfl⟩
        exact .inr hmem
      · rw [ask, reply_register, if_neg hempty, if_pos hmem]
    · refine .inl ⟨tag, x, rfl, hempty, hmem, ?_⟩
      rw [ask, reply_register, if_neg hempty, if_neg hmem]
  | has tag => exact .inr ⟨_, _, by simp, by simp, rfl⟩
  | get tag => exact .inr ⟨_, _, by simp, by simp, rfl⟩
  | resolve tag => exact .inr ⟨_, _, by simp, by simp, rfl⟩
  | tags => exact .inr ⟨_, _, by simp, by simp, rfl⟩
  | dispatch d c => exact .inr ⟨_, _, by simp, by simp, rfl⟩

theorem successes_concat (h : History σ) (q : Request σ) {a : Answer σ} (ha : a ≠ .registered) :
    successes (h ++ [(q, a)]) = successes h := by
  have hnone : successes [(q, a)] = [] := by
    cases a with
    | registered => exact absurd rfl ha
    | _ => cases q <;> rfl
  rw [successes, List.filterMap_append, ← successes, ← successes, hnone, List.append_nil]

/-- The registry holds what was registered with success, and nothing that came later has taken the
place of what came first. -/
structure Keeping (fallback : σ) (k : Desk σ υ) : Prop where
  fallback : k.registry.fallback = fallback
  entries : k.registry.entries = successes k.history
  once : k.registry.tags.Nodup
  named : "" ∉ k.registry.tags
  first : ∀ tag ≠ "", k.registry.get? tag = (attempts (k.history.map Prod.fst)).lookup tag

theorem Keeping.ask (h : Keeping fallback k) (q : Request σ) :
    Keeping fallback (ask render k q) := by
  have hattempts (qs : List (Request σ)) : attempts (qs ++ [q]) = attempts qs ++ attempts [q] :=
    List.filterMap_append
  rcases ask_cases k q with ⟨tag, x, rfl, hname, hnew, hask⟩ | ⟨a, t, ha, hrefused, hask⟩
  · rw [hask]
    have htags : Registry.tags { k.registry with entries := k.registry.entries ++ [(tag, x)] } =
        k.registry.tags ++ [tag] := by simp [tags]
    refine ⟨h.fallback, ?_, ?_, ?_, ?_⟩
    · rw [h.entries, successes, successes, List.filterMap_append]
      rfl
    · rw [htags]
      exact List.concat_eq_append ▸ h.once.concat hnew
    · rw [htags, List.mem_append, not_or]
      exact ⟨h.named, by simpa using Ne.symm hname⟩
    · intro other hother
      have hfirst := h.first other hother
      rw [get?] at hfirst
      rw [get?, List.map_append, List.map_singleton, hattempts, List.lookup_append,
        List.lookup_append, hfirst]
      rfl
  · rw [hask]
    refine ⟨h.fallback, ?_, h.once, h.named, ?_⟩
    · rw [successes_concat _ _ ha]
      exact h.entries
    · intro tag htag
      rw [h.first tag htag, List.map_append, List.map_singleton, hattempts, List.lookup_append]
      -- A further attempt under a tag comes after the first one, and so makes no difference.
      cases q with
      | register tag' x =>
        by_cases hsame : tag = tag'
        · subst hsame
          have hmem := (hrefused tag x rfl).resolve_left htag
          rw [← has_iff_mem_tags, has, h.first tag htag, Option.isSome_iff_exists] at hmem
          obtain ⟨y, hy⟩ := hmem
          rw [hy, Option.some_or]
        · have hother : (attempts [.register tag' x]).lookup tag = none := by
            simp [attempts, List.lookup_cons, beq_eq_false_iff_ne.2 hsame]
          rw [hother, Option.or_none]
      | _ => exact (Option.or_none).symm

theorem Keeping.askAll (h : Keeping fallback k) (qs : List (Request σ)) :
    Keeping fallback (askAll render k qs) := by
  induction qs generalizing k with
  | nil => exact h
  | cons q qs ih => exact ih (h.ask q)

theorem asked_askAll (k : Desk σ υ) (qs : List (Request σ)) :
    (askAll render k qs).history.map Prod.fst = k.history.map Prod.fst ++ qs := by
  induction qs generalizing k with
  | nil => exact (List.append_nil _).symm
  | cons q qs ih =>
    have hone : (Registry.ask render k q).history.map Prod.fst = k.history.map Prod.fst ++ [q] := by
      simp [Registry.ask]
    rw [Registry.askAll, List.foldl_cons, ← Registry.askAll, ih, hone, List.append_assoc]
    rfl

/-- The session in which a node is rendered: that its type is not registered has been put down. -/
def noted (reg : Registry σ) (d : Descriptor) (c : Context) (s : Session υ) : Session υ :=
  if reg.has d.type then s else next (logFallback d c) s

variable (render) in
/-- How a registry answers that began empty and was asked `qs`. -/
structure KeepsFirst (fallback : σ) (qs : List (Request σ)) (k : Desk σ υ) : Prop where
  asked : k.history.map Prod.fst = qs
  /-- What is refused is no tag at all, and what was registered with success before. -/
  refusal : ∀ tag x, (reply render k (.register tag x)).1 =
    if tag = "" then .refused .emptyTag
    else if tag ∈ (successes k.history).map Prod.fst then .refused (.duplicateTag tag)
    else .registered
  traceless : ∀ tag x e, (reply render k (.register tag x)).1 = .refused e →
    (reply render k (.register tag x)).2 = (k.registry, k.session)
  tags : reply render k .tags =
    (.listed ((successes k.history).map Prod.fst), k.registry, k.session)
  once : ((successes k.history).map Prod.fst).Nodup
  first : ∀ tag ∈ (successes k.history).map Prod.fst, ∃ x, (attempts qs).lookup tag = some x ∧
    reply render k (.get tag) = (.found (some x), k.registry, k.session) ∧
    reply render k (.resolve tag) = (.serves x, k.registry, k.session)
  others : ∀ tag, tag ∉ (successes k.history).map Prod.fst →
    reply render k (.get tag) = (.found none, k.registry, k.session) ∧
    reply render k (.resolve tag) = (.serves fallback, k.registry, k.session)
  has : ∀ tag, reply render k (.has tag) =
    (.known (decide (tag ∈ (successes k.history).map Prod.fst)), k.registry, k.session)
  /-- Where every type is taken, a node is shown as the strategy for its type shows it, -/
  shown : ∀ d c out t, c.allowed = none →
    exec (render k.registry (k.registry.resolve d.type) d c) (noted k.registry d c k.session) =
      (.ok out, t) →
    reply render k (.dispatch d c) = (.shown (.ok out), k.registry, t)
  /-- and as a placeholder if that one is registered and gives up. -/
  failed : ∀ d c e t, c.allowed = none → k.registry.has d.type = true →
    exec (render k.registry (k.registry.resolve d.type) d c) k.session = (.error e, t) →
    ∃ t', reply render k (.dispatch d c) =
      (.shown (.ok (.unknown d.id d.type "Component failed to render")), k.registry, t')

theorem Keeping.keepsFirst (h : Keeping fallback k) {qs : List (Request σ)}
    (hasked : k.history.map Prod.fst = qs) : KeepsFirst render fallback qs k := by
  have htags : (successes k.history).map Prod.fst = k.registry.tags := by
    rw [Registry.tags, h.entries]
  have hget {tag : String} (htag : tag ∉ k.registry.tags) : k.registry.get? tag = none := by
    rw [← has_iff_mem_tags, Registry.has, Bool.not_eq_true, Option.isSome_eq_false_iff,
      Option.isNone_iff_eq_none] at htag
    exact htag
  constructor
  case asked => exact hasked
  case refusal =>
    intro tag x
    rw [htags, reply_register]
    by_cases hempty : tag = ""
    · rw [if_pos hempty, if_pos hempty]
    · rw [if_neg hempty, if_neg hempty]
      split <;> rfl
  case traceless =>
    intro tag x e
    rw [reply]
    split
    · intro hregistered
      cases hregistered
    · exact fun _ => rfl
  case tags => rw [htags, reply]
  case once => exact htags ▸ h.once
  case first =>
    rw [htags]
    intro tag htag
    have hname : tag ≠ "" := fun hempty => h.named (hempty ▸ htag)
    obtain ⟨x, hx⟩ := Option.isSome_iff_exists.1 ((has_iff_mem_tags _ _).2 htag)
    have hfirst := h.first tag hname
    rw [hasked] at hfirst
    refine ⟨x, hfirst ▸ hx, by rw [reply, hx], ?_⟩
    rw [reply, Registry.resolve, hx, Option.getD_some]
  case others =>
    rw [htags]
    intro tag htag
    refine ⟨by rw [reply, hget htag], ?_⟩
    rw [reply, Registry.resolve, hget htag, Option.getD_none, h.fallback]
  case has =>
    intro tag
    have hknown : k.registry.has tag = decide (tag ∈ k.registry.tags) := by
      rw [Bool.eq_iff_iff, has_iff_mem_tags, decide_eq_true_iff]
    rw [htags, reply, hknown]
  case shown =>
    intro d c out t hc hrender
    cases hhas : k.registry.has d.type with
    | true =>
      rw [noted, if_pos hhas] at hrender
      rw [reply, serve_registered hc hhas, exec_guarded_ok hrender]
    | false =>
      rw [noted, if_neg (Bool.eq_false_iff.1 hhas)] at hrender
      rw [reply, exec_serve_unregistered hhas, hrender]
  case failed =>
    intro d c e t hc hhas hrender
    obtain ⟨j, hj⟩ := exec_guarded_error (d := d) hrender
    exact ⟨{ t with journal := j }, by rw [reply, serve_registered hc hhas, hj]; rfl⟩

end

/-- From this session dispatch gives what the strategy for the type gives, or the placeholder of a
registered one that gave up. It differs in nothing but the log. -/
def ShowsResolved {υ : Type} (reg : Registry Strategy) (d : Descriptor) (c : Context)
    (s : Session υ) : Prop :=
  match exec ((reg.resolve d.type).render d c fun c => dispatchList reg d.childList c) s with
  | (.ok out, t) => ∃ j, exec (dispatch reg d c) s = (.ok out, { t with journal := j })
  | (.error _, t) => reg.has d.type = true → ∃ j, exec (dispatch reg d c) s =
      (.ok (.unknown d.id d.type "Component failed to render"), { t with journal := j })

theorem dispatch_showsResolved {υ : Type} (reg : Registry Strategy) (d : Descriptor) {c : Context}
    (hc : c.allowed = none) (s : Session υ) : ShowsResolved reg d c s := by
  have hdeaf : Deaf (υ := υ)
      ((reg.resolve d.type).render d c fun c => dispatchList reg d.childList c) :=
    render_deaf _ fun c => (deaf_compositional reg).dispatchList d.childList c
  unfold ShowsResolved
  rw [dispatch_eq, dispatchWith]
  cases hhas : reg.has d.type with
  | true =>
    rw [serve_registered hc hhas]
    split
    · next out t h => exact ⟨t.journal, exec_guarded_ok h⟩
    · next e t h => exact fun _ => exec_guarded_error h
  | false =>
    obtain ⟨j, hj⟩ := hdeaf s (next (logFallback d c) s).journal
    rw [exec_serve_unregistered hhas]
    split
    · next out t h =>
      rw [h] at hj
      exact ⟨j, hj⟩
    · exact fun hregistered => absurd hregistered Bool.false_ne_true

/-- However long a registry has been in use, the first strategy of each tag serves it and everything
else is served by the fallback; and what dispatch shows is what the strategy for the type shows. -/
theorem registry_keeps_first {σ υ : Type}
    (render : Registry σ → σ → Descriptor → Context → Act υ Renderable) (fallback : σ)
    (s : Session υ) (qs : List (Request σ)) :
    KeepsFirst render fallback qs (askAll render ⟨{ fallback }, s, []⟩ qs) ∧
    ∀ (reg : Registry Strategy) (d : Descriptor) (c : Context) (t : Session υ),
      c.allowed = none → ShowsResolved reg d c t := by
  have hempty : Keeping (υ := υ) fallback ⟨{ fallback }, s, []⟩ :=
    ⟨rfl, rfl, List.nodup_nil, List.not_mem_nil, fun _ _ => rfl⟩
  refine ⟨(hempty.askAll qs).keepsFirst (asked_askAll _ qs), ?_⟩
  intro reg d c t hc
  exact dispatch_showsResolved reg d hc t

/-- A tag that is claimed twice, no tag at all, and a strategy that always gives up. -/
def contested : List (Request Strategy) :=
  [.register "moons" .stat, .register "" .card, .register "moons" .card, .resolve "rings",
    .dispatch ⟨"m", "moons", [("value", some "2")], none⟩ {}, .register "rings" (.broken "boom")]

/-- Strategies as they render in a tree. -/
def inTree {υ : Type} (reg : Registry Strategy) (st : Strategy) (d : Descriptor) (c : Context) :
    Act υ Renderable := st.render d c fun c => dispatchList reg d.childList c

theorem registry_keeps_first_contested :
    let k := askAll inTree ⟨{ fallback := .placeholder }, ({ ui := () } : Session Unit), []⟩
      contested
    successes k.history = [("moons", .stat), ("rings", .broken "boom")] ∧
      (reply inTree k (.register "rings" .card)).1 = .refused (.duplicateTag "rings") ∧
      (reply inTree k (.get "moons")).1 = .found (some .stat) ∧
      (reply inTree k (.resolve "Moons")).1 = .serves .placeholder ∧
      (reply inTree k (.dispatch ⟨"r", "rings", [], none⟩ {})).1 =
        .shown (.ok (.unknown "r" "rings" "Component failed to render")) := by
  intro k
  have hkept : KeepsFirst inTree .placeholder contested k :=
    (registry_keeps_first inTree .placeholder { ui := () } contested).1
  have hsuccesses : successes k.history = [("moons", .stat), ("rings", .broken "boom")] := rfl
  refine ⟨hsuccesses, ?_, ?_, ?_, ?_⟩
  · rw [hkept.refusal, hsuccesses]
    rfl
  · obtain ⟨x, hx, hget, -⟩ := hkept.first "moons" (by rw [hsuccesses]; simp)
    obtain rfl := Option.some.inj hx
    rw [hget]
  · rw [(hkept.others "Moons" (by rw [hsuccesses]; simp)).2]
  · obtain ⟨t, ht⟩ :=
      hkept.failed ⟨"r", "rings", [], none⟩ {} (.strategy "boom") k.session rfl rfl rfl
    rw [ht]

end Registry
end RemoteScreen
