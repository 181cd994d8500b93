import Mathlib.Data.List.Forall2
import RemoteScreen.Proofs.Image.Talk

/-! A watched region talks as any region does: that its calls are refused while listeners are told
is the region's own doing. So it is resolved or failed once, and its listeners of that moment hear
of it. -/
namespace RemoteScreen

variable {ι : Type} [BEq ι]

/-- What a listener is told, if this is that. -/
def Heard.telling? : Heard ι → Option (ι × ImageState × Value)
  | .told l state image => some (l, state, image)
  | .answered .. => none

namespace Watch

/-- Calls one after the other, with what each of them gives. -/
def callAll (react : ι → Reaction ι) :
    Watch ι → List (RegionCall ι) → Watch ι × List (Except (Raised ι) (Option Bool))
  | w, [] => (w, [])
  | w, c :: cs =>
    let (w, answer) := w.call react c
    let (w, answers) := callAll react w cs
    (w, answer :: answers)

/-- The same region, about which the same has been heard. -/
structure Follows (w : Watch ι) (t : Talk ι) : Prop where
  region : w.region = t.region
  told : w.heard.filterMap Heard.telling? = t.told.map fun x => (x.listener, x.state, x.image)
  answered : ∀ l answer, .answered l answer ∈ w.heard → ∃ n, (n, answer) ∈ t.answers

variable {react : ι → Reaction ι} {w : Watch ι} {t : Talk ι} {n : Nat} {ls : List ι}

omit [BEq ι] in
/-- A listener hears that the call it has made is refused. -/
theorem Follows.refused (h : Follows w t) (l : ι) (c : RegionCall ι) :
    Follows (w.note (.answered l false))
      { t with calls := t.calls ++ [c], answers := t.answers ++ [(t.calls.length, false)] } where
  region := h.region
  told := by simp [Watch.note, Heard.telling?, h.told]
  answered := by
    intro m answer hmem
    rcases List.mem_append.1 hmem with hmem | hmem
    · obtain ⟨n, hn⟩ := h.answered m answer hmem
      exact ⟨n, List.mem_append_left _ hn⟩
    · cases List.mem_singleton.1 hmem
      exact ⟨_, List.mem_append_right _ List.mem_cons_self⟩

/-- What a listener asks for is asked of the region. -/
theorem nested_follows (h : Follows w t) (hterminal : t.region.state ≠ .loading) (l : ι)
    (c : RegionCall ι) : ∃ t', Talk.Step t t' ∧ Follows (nested l w c) t' ∧ t'.rounds = t.rounds ∧
      t'.region.state ≠ .loading := by
  have hrefused (ends : c.isEnd = true) := RegionCall.attempt?_terminal ends hterminal
  cases c with
  | subscribe m =>
    refine ⟨_, .edit (c := .subscribe m) rfl rfl, ⟨?_, h.told, h.answered⟩, rfl, hterminal⟩
    exact congrArg (Region.subscribe · m) h.region
  | unsubscribe m =>
    refine ⟨_, .edit (c := .unsubscribe m) rfl rfl, ⟨?_, h.told, h.answered⟩, rfl, hterminal⟩
    exact congrArg (Region.unsubscribe · m) h.region
  | resolve image =>
    exact ⟨_, .refuse rfl (hrefused rfl), h.refused l _, rfl, hterminal⟩
  | fail =>
    exact ⟨_, .refuse rfl (hrefused rfl), h.refused l _, rfl, hterminal⟩

theorem nestedAll_follows (h : Follows w t) (hterminal : t.region.state ≠ .loading) (l : ι)
    (cs : List (RegionCall ι)) : ∃ t', Talk.Run t t' ∧ Follows (cs.foldl (nested l) w) t' ∧
      t'.rounds = t.rounds ∧ t'.region.state ≠ .loading := by
  induction cs generalizing w t with
  | nil => exact ⟨t, .refl, h, rfl, hterminal⟩
  | cons c cs ih =>
    obtain ⟨u, hstep, hu, hrounds, hterminal⟩ := nested_follows h hterminal l c
    obtain ⟨t', hrun, ht', hrounds', hterminal'⟩ := ih hu hterminal
    exact ⟨t', .head hstep hrun, ht', hrounds'.trans hrounds, hterminal'⟩

theorem tell_follows (hcalm : ∀ l, (react l).raises = false) (h : Follows w t)
    (hterminal : t.region.state ≠ .loading) (hround : t.rounds = [(n, ls)]) :
    ∃ t', Talk.Run t t' ∧ Follows (tell react ls w).1 t' ∧ (tell react ls w).2 = none ∧
      t'.rounds = [(n, [])] := by
  induction ls generalizing w t with
  | nil => exact ⟨t, .refl, h, rfl, hround⟩
  | cons l ls ih =>
    have htold : Follows (w.note (.told l w.region.state w.region.image))
        { t with
          rounds := [(n, ls)]
          told := t.told ++ [⟨n, l, t.region.state, t.region.image⟩] } := by
      refine ⟨h.region, ?_, fun m answer hmem => ?_⟩
      · simp [Watch.note, Heard.telling?, h.told, h.region]
      · rcases List.mem_append.1 hmem with hmem | hmem
        · exact h.answered m answer hmem
        · cases List.mem_singleton.1 hmem
    obtain ⟨u, hnested, hu, hrounds, hterminal⟩ :=
      nestedAll_follows htold hterminal l (react l).calls
    obtain ⟨t', hrun, ht', hnone, hround'⟩ := ih hu hterminal hrounds
    rw [tell]
    simp only [hcalm l, Bool.false_eq_true, if_false]
    exact ⟨t', .head (.tell hround) (hnested.trans hrun), ht', hnone, hround'⟩

/-- What a call gives is what it is answered, or nothing where it asks for no end. -/
theorem call_follows (hcalm : ∀ l, (react l).raises = false) (h : Follows w t)
    (haccount : Talk.Account t) (hrest : t.rounds = []) (c : RegionCall ι) :
    ∃ t' answer, Talk.Run t t' ∧ t'.rounds = [] ∧ Follows (w.call react c).1 t' ∧
      (w.call react c).2 = .ok answer ∧ t'.calls[t.calls.length]? = some c ∧
      ∀ b, answer = some b ↔ (t.calls.length, b) ∈ t'.answers := by
  have hnew (b : Bool) : (t.calls.length, b) ∉ t.answers :=
    fun hmem => Nat.lt_irrefl _ (haccount.lt hmem)
  rcases hends : c.isEnd with - | -
  · have hedit : ∃ r, c.attempt? t.region = some r ∧
        w.call react c = ({ w with region := r }, .ok none) := by
      rw [← h.region]
      cases c <;> cases hends <;> exact ⟨_, rfl, rfl⟩
    obtain ⟨r, hr, hcall⟩ := hedit
    rw [hcall]
    refine ⟨_, none, .single (.edit hends hr), hrest, ⟨rfl, h.told, h.answered⟩, rfl, by simp,
      fun b => ?_⟩
    exact ⟨nofun, fun hmem => absurd hmem (hnew b)⟩
  · have hcall : w.call react c = w.settle react (c.attempt? t.region) := by
      rw [← h.region]
      cases c <;> cases hends <;> rfl
    rw [hcall]
    rcases hr : c.attempt? t.region with - | r
    · refine ⟨_, some false, .single (.refuse hends hr), hrest, ⟨h.region, h.told, ?_⟩, rfl, by simp,
        fun b => ?_⟩
      · exact fun l answer hmem => (h.answered l answer hmem).imp fun n => List.mem_append_left _
      · simp [hnew, eq_comm]
    · have hterminal : r.state ≠ .loading :=
        (RegionCall.attempt?_end hends hr).1 ▸ RegionCall.outcome_terminal hends
      obtain ⟨u, hrun, hu, hnone, hround⟩ := tell_follows (w := { w with region := r })
        (t := { t with
          region := r
          calls := t.calls ++ [c]
          rounds := [(t.calls.length, r.listeners)] })
        hcalm ⟨rfl, h.told, h.answered⟩ hterminal rfl
      have hsettle : w.settle react (some r) =
          ((tell react r.listeners { w with region := r }).1, .ok (some true)) := by
        have htell : tell react r.listeners { w with region := r } = (_, none) :=
          Prod.ext rfl hnone
        rw [settle, htell]
      have haccept : Talk.Step t _ := .accept hends hr
      rw [hrest] at haccept
      have hall := Relation.ReflTransGen.head haccept (hrun.tail (.answer hround))
      have hkept := (hrun.kept (k := 0) (Nat.zero_le _) fun _ _ => Nat.zero_le _).1
      have hanswer : ((t.calls.length, true) : Nat × Bool) ∈ u.answers ++ [(t.calls.length, true)] :=
        List.mem_append_right _ List.mem_cons_self
      rw [hsettle]
      refine ⟨_, some true, hall, rfl, ⟨hu.region, hu.told, ?_⟩, rfl, ?_, fun b => ?_⟩
      · exact fun l answer hmem => (hu.answered l answer hmem).imp fun n => List.mem_append_left _
      · exact List.prefix_iff_getElem?.1 hkept _ (by simp) |>.trans (by simp)
      · constructor
        · rintro ⟨⟩
          exact hanswer
        · intro hmem
          rw [(haccount.run hall).answer_unique hmem hanswer]

/-- In a talk, calls that begin one after the other, each when all before are over, and what they
are answered. -/
structure Answers (t : Talk ι) (cs : List (RegionCall ι))
    (answers : List (Except (Raised ι) (Option Bool))) (places : List Nat) : Prop where
  ordered : places.Pairwise (· < ·)
  calls : List.Forall₂ (fun n c => t.calls[n]? = some c) places cs
  answers : List.Forall₂ (fun n a => ∃ answer, a = .ok answer ∧
    ∀ b, answer = some b ↔ (n, b) ∈ t.answers) places answers

theorem callAll_follows (hcalm : ∀ l, (react l).raises = false) (h : Follows w t)
    (haccount : Talk.Account t) (hrest : t.rounds = []) (cs : List (RegionCall ι)) :
    ∃ t' places, Talk.Run t t' ∧ t'.rounds = [] ∧ Follows (w.callAll react cs).1 t' ∧
      Answers t' cs (w.callAll react cs).2 places ∧ ∀ n ∈ places, t.calls.length ≤ n := by
  induction cs generalizing w t with
  | nil => exact ⟨t, [], .refl, hrest, h, ⟨List.Pairwise.nil, .nil, .nil⟩, nofun⟩
  | cons c cs ih =>
    obtain ⟨u, answer, hrun, hrest', hu, hanswer, hcall, hlog⟩ :=
      call_follows hcalm h haccount hrest c
    obtain ⟨t', places, hrun', hrest'', ht', hanswers, hlater⟩ :=
      ih hu (haccount.run hrun) hrest'
    have hlt : t.calls.length < u.calls.length := (List.getElem?_eq_some_iff.1 hcall).1
    obtain ⟨hcalls, hkept, -⟩ := hrun'.kept (Nat.le_refl _) (by simp [hrest'])
    refine ⟨t', t.calls.length :: places, hrun.trans hrun', hrest'', ht', ⟨?_, ?_, ?_⟩, ?_⟩
    · exact List.pairwise_cons.2 ⟨fun n hn => Nat.lt_of_lt_of_le hlt (hlater n hn), hanswers.ordered⟩
    · refine .cons ?_ hanswers.calls
      rw [← hcall, List.prefix_iff_getElem?.1 hcalls _ hlt, List.getElem?_eq_getElem hlt]
    · refine .cons ⟨answer, hanswer, fun b => ?_⟩ hanswers.answers
      rw [hlog b, hkept (t.calls.length, b) hlt]
    · exact List.forall_mem_cons.2
        ⟨Nat.le_refl _, fun n hn => Nat.le_of_lt (Nat.lt_of_lt_of_le hlt (hlater n hn))⟩

/-- Whatever is called, from outside or by a listener that is being told, a region that has been made
ends its wait once. Only the first call for an end is answered yes, the later ones no. It decides
about the state and the image for good. The listeners of that moment are told about it, in order and
as often as they are listed, each when state and image are those of the end, and nobody is told
anything else. So it is too where the listeners react with calls of their own. -/
theorem region_ends_once (url : String) :
    (∀ t : Talk ι, Talk.Run (.fresh url) t →
      (t.Waiting ∨ ∃ before c after, t.Ended before c after) ∧
      (∀ m n, (m, true) ∈ t.answers → (n, true) ∈ t.answers → m = n) ∧
      ∀ t', Talk.Run t t' → t.region.isTerminal = true →
        t'.region.state = t.region.state ∧ t'.region.image = t.region.image) ∧
    ∀ react : ι → Reaction ι, (∀ l, (react l).raises = false) → ∀ cs : List (RegionCall ι),
      ∃ t places, Talk.Run (.fresh url) t ∧ t.rounds = [] ∧
        Follows (callAll react { region := { url } } cs).1 t ∧
        Answers t cs (callAll react { region := { url } } cs).2 places := by
  constructor
  · intro t hrun
    have haccount := (Talk.account_fresh url).run hrun
    exact ⟨haccount.phase, fun _ _ => haccount.atMostOnce, fun _ => haccount.stays⟩
  · intro react hcalm cs
    obtain ⟨t, places, hrun, hrest, hfollows, hanswers, -⟩ :=
      callAll_follows (w := { region := { url } }) (t := .fresh url) hcalm ⟨rfl, rfl, nofun⟩
        (Talk.account_fresh url) rfl cs
    exact ⟨t, places, hrun, hrest, hfollows, hanswers⟩

/-- The first listener leaves and asks for another end, the second brings a third. -/
def restless : Nat → Reaction Nat
  | 0 => ⟨[.unsubscribe 0, .fail], false⟩
  | 1 => ⟨[.subscribe 2, .resolve (.text "c")], false⟩
  | _ => ⟨[], false⟩

theorem region_ends_once_restless :
    ∃ t : Talk Nat, Talk.Run (.fresh "u") t ∧ t.region.listeners = [1, 2] ∧
      t.told.map Telling.listener = [0, 1, 0] ∧ t.region.image = .text "a" ∧
      ∃ before c after, t.Ended before c after := by
  obtain ⟨hruns, hwatches⟩ := region_ends_once (ι := Nat) "u"
  have hcalm (l : Nat) : (restless l).raises = false := by
    rcases l with - | - | l <;> rfl
  obtain ⟨t, places, hrun, -, hfollows, -⟩ := hwatches restless hcalm
    [.subscribe 0, .subscribe 1, .subscribe 0, .resolve (.text "a"), .resolve (.text "b")]
  refine ⟨t, hrun, hfollows.region ▸ rfl, ?_, hfollows.region ▸ rfl, ?_⟩
  · have htold := congrArg (List.map fun x => x.1) hfollows.told
    rw [List.map_map] at htold
    exact htold.symm
  · refine (hruns t hrun).1.resolve_left fun hwaiting => ?_
    exact absurd (hfollows.region ▸ hwaiting.state) nofun

end Watch
end RemoteScreen
