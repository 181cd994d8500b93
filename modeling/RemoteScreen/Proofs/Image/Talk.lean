import Mathlib.Logic.Relation
import Mathlib.Data.List.Nodup
import RemoteScreen.Image.Watch

/-! The talk with one region, call by call and listener by listener. While listeners are being told
they may make calls of their own, and so calls begin before earlier ones have been answered. Whatever
is called, and whenever, the wait ends once. -/
namespace RemoteScreen

variable {ι : Type}

namespace RegionCall

/-- Whether the wait is asked to end. -/
def isEnd : RegionCall ι → Bool
  | resolve _ | fail => true
  | subscribe _ | unsubscribe _ => false

/-- The region after the call, unless it refuses. -/
def attempt? [BEq ι] (r : Region ι) : RegionCall ι → Option (Region ι)
  | subscribe l => some (r.subscribe l)
  | unsubscribe l => some (r.unsubscribe l)
  | resolve image => r.resolve? image
  | fail => r.fail?

/-- The state and the image of a region whose wait has been ended by the call. -/
def outcome : RegionCall ι → ImageState × Value
  | resolve image => (.loaded, image)
  | fail => (.failed, .null)
  | subscribe _ | unsubscribe _ => (.loading, .null)

/-- The listeners after the call. -/
def enlist [BEq ι] (ls : List ι) : RegionCall ι → List ι
  | subscribe l => ls ++ [l]
  | unsubscribe l => ls.erase l
  | resolve _ | fail => ls

/-- The listeners after some calls, if there were none before. -/
def listing [BEq ι] (cs : List (RegionCall ι)) : List ι := cs.foldl enlist []

/-- The call after so many others asks for an end. -/
def EndAt (cs : List (RegionCall ι)) (n : Nat) : Prop := ∃ c, cs[n]? = some c ∧ c.isEnd = true

variable {c : RegionCall ι} {cs : List (RegionCall ι)} {r r' : Region ι}

theorem outcome_terminal (ends : c.isEnd = true) : c.outcome.1 ≠ .loading := by
  cases c <;> cases ends <;> exact nofun

theorem EndAt.lt {n : Nat} (h : EndAt cs n) : n < cs.length := by
  obtain ⟨c, hc, -⟩ := h
  exact (List.getElem?_eq_some_iff.1 hc).1

theorem endAt_concat {n : Nat} :
    EndAt (cs ++ [c]) n ↔ EndAt cs n ∨ n = cs.length ∧ c.isEnd = true := by
  simp only [EndAt, List.getElem?_append, List.getElem?_singleton]
  split
  case isTrue hlt =>
    constructor
    · exact .inl
    · rintro (h | ⟨rfl, -⟩)
      · exact h
      · exact absurd hlt (Nat.lt_irrefl _)
  case isFalse hle =>
    constructor
    · rintro ⟨d, hd, hend⟩
      obtain ⟨hn, hsame⟩ := Option.ite_none_right_eq_some.1 hd
      cases hsame
      exact .inr ⟨by omega, hend⟩
    · rintro (h | ⟨rfl, hend⟩)
      · exact absurd (EndAt.lt h) hle
      · exact ⟨c, by simp, hend⟩

section

variable [BEq ι]

theorem attempt?_calm (calm : c.isEnd = false) (h : c.attempt? r = some r') :
    r' = { r with listeners := c.enlist r.listeners } := by
  cases c <;> cases calm <;> exact (Option.some.inj h).symm

theorem attempt?_loading (ends : c.isEnd = true) (hstate : r.state = .loading)
    (himage : r.image = .null) :
    c.attempt? r = some { r with state := c.outcome.1, image := c.outcome.2 } := by
  obtain ⟨url, state, image, ls⟩ := r
  cases hstate
  cases himage
  cases c <;> cases ends <;> rfl

theorem attempt?_terminal (ends : c.isEnd = true) (hstate : r.state ≠ .loading) :
    c.attempt? r = none := by
  cases c <;> cases ends <;> simp [attempt?, Region.resolve?, Region.fail?, Region.isTerminal,
    hstate]

/-- An end that is accepted comes to a region that waits, and leaves its listeners alone. -/
theorem attempt?_end (ends : c.isEnd = true) (h : c.attempt? r = some r') :
    r'.state = c.outcome.1 ∧ r'.listeners = r.listeners := by
  have hwaits : ¬ r.isTerminal = true := fun hterminal => by
    cases c <;> cases ends <;> simp [attempt?, Region.resolve?, Region.fail?, hterminal] at h
  cases c <;> cases ends <;>
    simp only [attempt?, Region.resolve?, Region.fail?, if_neg hwaits] at h <;>
    exact Option.some.inj h ▸ ⟨rfl, rfl⟩

theorem enlist_of_end (ends : c.isEnd = true) (ls : List ι) : c.enlist ls = ls := by
  cases c <;> cases ends <;> rfl

theorem listing_concat (cs : List (RegionCall ι)) (c : RegionCall ι) :
    listing (cs ++ [c]) = c.enlist (listing cs) := by
  simp [listing, List.foldl_append]

end

end RegionCall

/-- A listener is told about the end that a call has brought. -/
structure Telling (ι : Type) where
  /-- How many calls began before that one. -/
  call : Nat
  listener : ι
  state : ImageState
  image : Value

structure Talk (ι : Type) where
  region : Region ι
  /-- The calls, in the order in which they began. -/
  calls : List (RegionCall ι) := []
  /-- The calls whose listeners are being told, the latest first, and who is still to be told. -/
  rounds : List (Nat × List ι) := []
  told : List (Telling ι) := []
  /-- The calls for an end that have been answered, by the number of calls before. -/
  answers : List (Nat × Bool) := []

namespace Talk

variable [BEq ι]

/-- One step of a talk. A call may begin at any time. The listeners of the moment are told one after
the other, and only then is the call answered. -/
inductive Step : Talk ι → Talk ι → Prop where
  | edit {t : Talk ι} {c : RegionCall ι} {r : Region ι} (calm : c.isEnd = false)
      (accepted : c.attempt? t.region = some r) :
      Step t { t with region := r, calls := t.calls ++ [c] }
  | refuse {t : Talk ι} {c : RegionCall ι} (ends : c.isEnd = true)
      (refused : c.attempt? t.region = none) :
      Step t { t with calls := t.calls ++ [c], answers := t.answers ++ [(t.calls.length, false)] }
  | accept {t : Talk ι} {c : RegionCall ι} {r : Region ι} (ends : c.isEnd = true)
      (accepted : c.attempt? t.region = some r) :
      Step t { t with
        region := r
        calls := t.calls ++ [c]
        rounds := (t.calls.length, r.listeners) :: t.rounds }
  | tell {t : Talk ι} {n : Nat} {l : ι} {ls : List ι} {rest : List (Nat × List ι)}
      (round : t.rounds = (n, l :: ls) :: rest) :
      Step t { t with
        rounds := (n, ls) :: rest
        told := t.told ++ [⟨n, l, t.region.state, t.region.image⟩] }
  | answer {t : Talk ι} {n : Nat} {rest : List (Nat × List ι)} (round : t.rounds = (n, []) :: rest) :
      Step t { t with rounds := rest, answers := t.answers ++ [(n, true)] }

abbrev Run : Talk ι → Talk ι → Prop := Relation.ReflTransGen Step

/-- A talk that has not begun, with a region that has just been made. -/
def fresh (url : String) : Talk ι := { region := { url } }

/-- Nobody has asked for an end. -/
structure Waiting (t : Talk ι) : Prop where
  calm : ∀ c ∈ t.calls, c.isEnd = false
  state : t.region.state = .loading
  image : t.region.image = .null
  rounds : t.rounds = []
  told : t.told = []
  answers : t.answers = []

/-- The call `c` was the first to ask for an end, after the calls `before`. -/
structure Ended (t : Talk ι) (before : List (RegionCall ι)) (c : RegionCall ι)
    (after : List (RegionCall ι)) : Prop where
  calls : t.calls = before ++ c :: after
  calm : ∀ b ∈ before, b.isEnd = false
  ends : c.isEnd = true
  state : t.region.state = c.outcome.1
  image : t.region.image = c.outcome.2
  /-- The listeners of the moment are told one by one about this call, and nobody else is told
  anything. -/
  delivery : ∃ left, t.told ++ left.map (fun l => ⟨before.length, l, c.outcome.1, c.outcome.2⟩) =
      (RegionCall.listing before).map (fun l => ⟨before.length, l, c.outcome.1, c.outcome.2⟩) ∧
    (t.rounds = [(before.length, left)] ∨ t.rounds = [] ∧ left = [])
  /-- Only this call gets the answer yes, once all have been told. -/
  granted : ∀ n, (n, true) ∈ t.answers ↔ n = before.length ∧ t.rounds = []
  /-- Every later call for an end gets the answer no. -/
  refused : ∀ n, (n, false) ∈ t.answers ↔ before.length < n ∧ RegionCall.EndAt t.calls n
  once : (t.answers.map Prod.fst).Nodup

variable {t t' : Talk ι} {c d : RegionCall ι} {before after : List (RegionCall ι)}

/-! One step -/

theorem Waiting.step (h : Waiting t) (hlisteners : t.region.listeners = RegionCall.listing t.calls)
    (hstep : Step t t') : Waiting t' ∨ ∃ c, Ended t' t.calls c [] := by
  cases hstep with
  | edit calm accepted =>
    obtain rfl := RegionCall.attempt?_calm calm accepted
    refine .inl { h with calm := fun d hd => ?_ }
    rcases List.mem_append.1 hd with hd | hd
    · exact h.calm d hd
    · exact List.mem_singleton.1 hd ▸ calm
  | refuse ends refused =>
    exact absurd ((RegionCall.attempt?_loading ends h.state h.image).symm.trans refused) nofun
  | @accept c r ends accepted =>
    rw [RegionCall.attempt?_loading ends h.state h.image] at accepted
    obtain rfl := Option.some.inj accepted
    refine .inr ⟨c, ?_⟩
    refine ⟨rfl, h.calm, ends, rfl, rfl, ⟨t.region.listeners, ?_, .inl ?_⟩, ?_, ?_, ?_⟩
    · rw [h.told, hlisteners, List.nil_append]
    · rw [h.rounds]
    · simp [h.answers]
    · intro n
      simp only [h.answers, List.not_mem_nil, false_iff, RegionCall.endAt_concat, not_and]
      rintro hn (⟨d, hd, hend⟩ | ⟨rfl, -⟩)
      · exact absurd (h.calm d (List.mem_of_getElem? hd)) (by simp [hend])
      · exact Nat.lt_irrefl _ hn
    · simp [h.answers]
  | tell round => exact absurd (h.rounds.symm.trans round) nofun
  | answer round => exact absurd (h.rounds.symm.trans round) nofun

theorem Ended.lt (h : Ended t before c after) {x : Nat × Bool} (hx : x ∈ t.answers) :
    x.1 < t.calls.length := by
  obtain ⟨n, - | -⟩ := x
  · exact ((h.refused n).1 hx).2.lt
  · obtain ⟨rfl, -⟩ := (h.granted n).1 hx
    simp [h.calls]

theorem Ended.terminal (h : Ended t before c after) : t.region.state ≠ .loading :=
  h.state ▸ RegionCall.outcome_terminal h.ends

omit [BEq ι] in
theorem nodup_concat_answer {answers : List (Nat × Bool)} {n : Nat} {b : Bool}
    (h : (answers.map Prod.fst).Nodup) (hnew : ∀ x ∈ answers, x.1 ≠ n) :
    ((answers ++ [(n, b)]).map Prod.fst).Nodup := by
  rw [List.map_append, List.map_singleton, ← List.concat_eq_append]
  refine h.concat fun hmem => ?_
  obtain ⟨x, hx, hn⟩ := List.mem_map.1 hmem
  exact hnew x hx hn

theorem Ended.step (h : Ended t before c after) (hstep : Step t t') :
    ∃ after', Ended t' before c after' := by
  cases hstep with
  | @edit d r calm accepted =>
    obtain rfl := RegionCall.attempt?_calm calm accepted
    refine ⟨after ++ [d], { h with calls := by simp [h.calls], refused := fun n => ?_ }⟩
    rw [h.refused n, RegionCall.endAt_concat]
    simp [calm]
  | @refuse d ends refused =>
    refine ⟨after ++ [d], { h with
      calls := by simp [h.calls], granted := fun n => ?_, refused := fun n => ?_, once := ?_ }⟩
    · simpa using h.granted n
    · have hlt : before.length < t.calls.length := by simp [h.calls]
      simp only [List.mem_append, h.refused n, List.mem_singleton, Prod.mk.injEq, and_true,
        RegionCall.endAt_concat, ends]
      constructor
      · rintro (⟨hn, hend⟩ | rfl)
        · exact ⟨hn, .inl hend⟩
        · exact ⟨hlt, .inr rfl⟩
      · rintro ⟨hn, hend | rfl⟩
        · exact .inl ⟨hn, hend⟩
        · exact .inr rfl
    · exact nodup_concat_answer h.once fun x hx => Nat.ne_of_lt (h.lt hx)
  | accept ends accepted =>
    exact absurd ((RegionCall.attempt?_terminal ends h.terminal).symm.trans accepted) nofun
  | @tell n l ls rest round =>
    obtain ⟨left, hdelivery, hround | ⟨hround, -⟩⟩ := h.delivery
    · cases hround.symm.trans round
      refine ⟨after, { h with
        delivery := ⟨ls, ?_, .inl rfl⟩, granted := fun n => ?_ }⟩
      · rw [← hdelivery, h.state, h.image]
        simp
      · simp [h.granted n, round]
    · exact absurd (hround.symm.trans round) nofun
  | @answer n rest round =>
    obtain ⟨left, hdelivery, hround | ⟨hround, -⟩⟩ := h.delivery
    · cases hround.symm.trans round
      refine ⟨after, { h with
        delivery := ⟨[], hdelivery, .inr ⟨rfl, rfl⟩⟩, granted := fun n => ?_,
        refused := fun n => ?_, once := ?_ }⟩
      · simp [h.granted n, round]
      · simp [h.refused n]
      · refine nodup_concat_answer h.once ?_
        rintro ⟨n, - | -⟩ hx
        · exact Nat.ne_of_gt ((h.refused n).1 hx).1
        · exact absurd ((h.granted n).1 hx).2 (by simp [round])
    · exact absurd (hround.symm.trans round) nofun

theorem listeners_step (h : t.region.listeners = RegionCall.listing t.calls) (hstep : Step t t') :
    t'.region.listeners = RegionCall.listing t'.calls := by
  cases hstep with
  | edit calm accepted =>
    obtain rfl := RegionCall.attempt?_calm calm accepted
    rw [RegionCall.listing_concat, ← h]
  | refuse ends refused => rw [RegionCall.listing_concat, RegionCall.enlist_of_end ends, ← h]
  | @accept c r ends accepted =>
    rw [RegionCall.listing_concat, RegionCall.enlist_of_end ends, ← h]
    exact (RegionCall.attempt?_end ends accepted).2
  | tell round => exact h
  | answer round => exact h

/-! A whole run -/

/-- The course of a talk up to now. -/
structure Account (t : Talk ι) : Prop where
  listeners : t.region.listeners = RegionCall.listing t.calls
  phase : Waiting t ∨ ∃ before c after, Ended t before c after

theorem account_fresh (url : String) : Account (fresh url : Talk ι) where
  listeners := rfl
  phase := .inl ⟨nofun, rfl, rfl, rfl, rfl, rfl⟩

theorem Account.step (h : Account t) (hstep : Step t t') : Account t' where
  listeners := listeners_step h.listeners hstep
  phase := by
    rcases h.phase with hwaiting | ⟨before, c, after, hended⟩
    · exact (hwaiting.step h.listeners hstep).imp_right fun ⟨c, hc⟩ => ⟨_, c, _, hc⟩
    · obtain ⟨after', hafter⟩ := hended.step hstep
      exact .inr ⟨before, c, after', hafter⟩

theorem Account.run (h : Account t) (hrun : Run t t') : Account t' := by
  induction hrun with
  | refl => exact h
  | tail _ hstep ih => exact ih.step hstep

theorem Ended.run (h : Ended t before c after) (hrun : Run t t') :
    ∃ after', Ended t' before c after' := by
  induction hrun with
  | refl => exact ⟨after, h⟩
  | tail _ hstep ih =>
    obtain ⟨after', hafter⟩ := ih
    exact hafter.step hstep

theorem Account.lt (h : Account t) {x : Nat × Bool} (hx : x ∈ t.answers) :
    x.1 < t.calls.length := by
  rcases h.phase with hwaiting | ⟨before, c, after, hended⟩
  · rw [hwaiting.answers] at hx
    exact absurd hx List.not_mem_nil
  · exact hended.lt hx

/-- Nothing that happens later changes the state or the image of a terminal region. -/
theorem Account.stays (h : Account t) (hrun : Run t t') (hterminal : t.region.isTerminal = true) :
    t'.region.state = t.region.state ∧ t'.region.image = t.region.image := by
  rcases h.phase with hwaiting | ⟨before, c, after, hended⟩
  · simp [Region.isTerminal, hwaiting.state] at hterminal
  · obtain ⟨after', hafter⟩ := hended.run hrun
    exact ⟨hafter.state.trans hended.state.symm, hafter.image.trans hended.image.symm⟩

theorem Account.atMostOnce (h : Account t) {m n : Nat} (hm : (m, true) ∈ t.answers)
    (hn : (n, true) ∈ t.answers) : m = n := by
  rcases h.phase with hwaiting | ⟨before, c, after, hended⟩
  · rw [hwaiting.answers] at hm
    exact absurd hm List.not_mem_nil
  · exact ((hended.granted m).1 hm).1.trans ((hended.granted n).1 hn).1.symm

/-- No call is answered twice. -/
theorem Account.answer_unique (h : Account t) {n : Nat} {a b : Bool} (ha : (n, a) ∈ t.answers)
    (hb : (n, b) ∈ t.answers) : a = b := by
  have hnodup : (t.answers.map Prod.fst).Nodup := by
    rcases h.phase with hwaiting | ⟨before, c, after, hended⟩
    · simp [hwaiting.answers]
    · exact hended.once
  exact (Prod.mk.inj (List.inj_on_of_nodup_map hnodup ha hb rfl)).2

/-- What has been said about earlier calls stays, as long as none of them is being told about. -/
theorem Run.kept {k : Nat} (hrun : Run t t') (hk : k ≤ t.calls.length)
    (hrounds : ∀ x ∈ t.rounds, k ≤ x.1) :
    t.calls <+: t'.calls ∧ (∀ x, x.1 < k → (x ∈ t'.answers ↔ x ∈ t.answers)) ∧
      ∀ x ∈ t'.rounds, k ≤ x.1 := by
  induction hrun with
  | refl => exact ⟨List.prefix_rfl, fun _ _ => Iff.rfl, hrounds⟩
  | @tail u v _ hstep ih =>
    obtain ⟨hcalls, hanswers, hrounds⟩ := ih
    have hlength : k ≤ u.calls.length := Nat.le_trans hk hcalls.length_le
    cases hstep with
    | edit => exact ⟨hcalls.trans (List.prefix_append _ _), hanswers, hrounds⟩
    | refuse =>
      refine ⟨hcalls.trans (List.prefix_append _ _), fun x hx => ?_, hrounds⟩
      rw [← hanswers x hx, List.mem_append, List.mem_singleton, or_iff_left_iff_imp]
      rintro rfl
      exact absurd hx (Nat.not_lt.2 hlength)
    | accept =>
      exact ⟨hcalls.trans (List.prefix_append _ _), hanswers,
        List.forall_mem_cons.2 ⟨hlength, hrounds⟩⟩
    | tell round =>
      rw [round] at hrounds
      obtain ⟨hfirst, hrest⟩ := List.forall_mem_cons.1 hrounds
      exact ⟨hcalls, hanswers, List.forall_mem_cons.2 ⟨hfirst, hrest⟩⟩
    | answer round =>
      rw [round] at hrounds
      obtain ⟨hfirst, hrest⟩ := List.forall_mem_cons.1 hrounds
      refine ⟨hcalls, fun x hx => ?_, hrest⟩
      rw [← hanswers x hx, List.mem_append, List.mem_singleton, or_iff_left_iff_imp]
      rintro rfl
      exact absurd hx (Nat.not_lt.2 hfirst)

end Talk
end RemoteScreen
