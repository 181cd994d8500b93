import RemoteScreen.Proofs.Session.Effect

/-! Where a step leads from one session: it gives a value, and the value and the session after it
have a property. A step that fails leads nowhere. -/
namespace RemoteScreen
namespace Session

variable {υ α β : Type} {s t : Session υ}

def Leads (m : Act υ α) (s : Session υ) (Q : α → Session υ → Prop) : Prop :=
  ∃ a t, exec m s = (.ok a, t) ∧ Q a t

theorem leads_pure {a : α} {Q : α → Session υ → Prop} (h : Q a s) :
    Leads (pure a : Act υ α) s Q := ⟨a, s, rfl, h⟩

theorem leads_bind {m : Act υ α} {f : α → Act υ β} {P : α → Session υ → Prop}
    {Q : β → Session υ → Prop} (hm : Leads m s P) (hf : ∀ a t, P a t → Leads (f a) t Q) :
    Leads (m >>= f) s Q := by
  obtain ⟨a, t, hs, ha⟩ := hm
  obtain ⟨b, u, ht, hb⟩ := hf a t ha
  exact ⟨b, u, by rw [exec_bind, hs]; exact ht, hb⟩

/-- A first step whose outcome is known. -/
theorem leads_bind_eq {m : Act υ α} {f : α → Act υ β} {a : α} {Q : β → Session υ → Prop}
    (hm : exec m s = (.ok a, t)) (hf : Leads (f a) t Q) : Leads (m >>= f) s Q := by
  obtain ⟨b, u, ht, hb⟩ := hf
  exact ⟨b, u, by rw [exec_bind, hm]; exact ht, hb⟩

theorem Leads.mono {m : Act υ α} {P Q : α → Session υ → Prop} (h : Leads m s P)
    (hPQ : ∀ a t, P a t → Q a t) : Leads m s Q := by
  obtain ⟨a, t, hs, ha⟩ := h
  exact ⟨a, t, hs, hPQ a t ha⟩

/-- The session that a step leads to is the next one. -/
theorem Leads.next {m : Act υ α} {Q : α → Session υ → Prop} (h : Leads m s Q) :
    ∃ a, exec m s = (.ok a, next m s) ∧ Q a (next m s) := by
  obtain ⟨a, t, hs, ha⟩ := h
  have hnext : Session.next m s = t := by rw [Session.next, hs]
  exact ⟨a, hnext ▸ hs, hnext ▸ ha⟩

/-- What a step leads to has also what the step keeps. -/
theorem Leads.and_keeps {R : Session υ → Session υ → Prop} {m : Act υ α}
    {Q : α → Session υ → Prop} (h : Leads m s Q) (hm : Keeps R m) :
    Leads m s fun a t => Q a t ∧ R s t := by
  obtain ⟨a, hs, ha⟩ := h.next
  exact ⟨a, _, hs, ha, hm s⟩

/-- What a step leads to is what it leads to in any other account of it. -/
theorem Leads.of_ok {m : Act υ α} {a : α} {Q : α → Session υ → Prop} (h : Leads m s Q)
    (hexec : exec m s = (.ok a, t)) : Q a t := by
  obtain ⟨b, u, hs, hb⟩ := h
  obtain ⟨hba, rfl⟩ := Prod.mk.inj (hs.symm.trans hexec)
  exact Except.ok.inj hba ▸ hb

theorem Leads.and_exec {m : Act υ α} {Q : α → Session υ → Prop} (h : Leads m s Q) :
    Leads m s fun a t => Q a t ∧ exec m s = (.ok a, t) := by
  obtain ⟨a, t, hs, ha⟩ := h
  exact ⟨a, t, hs, ha, hs⟩

/-- A loop for its effects, with an invariant on what has been gone through. -/
theorem leads_forM {xs : List α} {f : α → Act υ PUnit} (Inv : List α → Session υ → Prop)
    (h : Inv [] s)
    (hstep : ∀ before x after t, xs = before ++ x :: after → Inv before t →
      Leads (f x) t fun _ u => Inv (before ++ [x]) u) :
    Leads (xs.forM f) s fun _ t => Inv xs t := by
  have hrest (before after : List α) (t : Session υ) (hxs : xs = before ++ after)
      (ht : Inv before t) : Leads (after.forM f) t fun _ u => Inv xs u := by
    induction after generalizing before t with
    | nil =>
      rw [List.append_nil] at hxs
      exact leads_pure (hxs ▸ ht)
    | cons x after ih =>
      refine leads_bind (hstep before x after t hxs ht) fun _ u hu => ?_
      exact ih (before ++ [x]) u (by rw [hxs, List.append_assoc]; rfl) hu
  exact hrest [] xs s rfl h

/-- The same for a loop that is written with `for`. -/
theorem leads_forIn {xs : List α} {f : α → PUnit → Act υ (ForInStep PUnit)}
    (Inv : List α → Session υ → Prop) (h : Inv [] s)
    (hstep : ∀ before x after t, xs = before ++ x :: after → Inv before t →
      Leads (f x ⟨⟩) t fun b u => b = .yield ⟨⟩ ∧ Inv (before ++ [x]) u) :
    Leads (forIn xs ⟨⟩ f) s fun _ t => Inv xs t := by
  have hrest (before after : List α) (t : Session υ) (hxs : xs = before ++ after)
      (ht : Inv before t) : Leads (forIn after ⟨⟩ f) t fun _ u => Inv xs u := by
    induction after generalizing before t with
    | nil =>
      rw [List.append_nil] at hxs
      exact leads_pure (hxs ▸ ht)
    | cons x after ih =>
      rw [List.forIn_cons]
      refine leads_bind (hstep before x after t hxs ht) fun b u ⟨hb, hu⟩ => ?_
      subst hb
      exact ih (before ++ [x]) u (by rw [hxs, List.append_assoc]; rfl) hu
  exact hrest [] xs s rfl h

theorem Leads.of_exec {m m' : Act υ α} {Q : α → Session υ → Prop} (h : Leads m s Q)
    (heq : exec m' t = exec m s) : Leads m' t Q := by
  obtain ⟨a, u, hs, ha⟩ := h
  exact ⟨a, u, heq.trans hs, ha⟩

end Session
end RemoteScreen
