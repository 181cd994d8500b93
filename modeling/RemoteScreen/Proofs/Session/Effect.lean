import Mathlib.Order.Defs.Unbundled
import RemoteScreen.Session.Telemetry

/-! Steps as functions on sessions: what a step gives and what it leaves. A relation that a step
keeps holds between the session before it and the session after it, also where the step fails. -/
namespace RemoteScreen
namespace Session

variable {υ α β : Type}

/-- The outcome of a step and the session after it. -/
def exec (m : Act υ α) (s : Session υ) : Except Failure α × Session υ := m.run.run s

/-- The session after a step. -/
def next (m : Act υ α) (s : Session υ) : Session υ := (exec m s).2

@[simp] theorem exec_pure (a : α) (s : Session υ) : exec (pure a : Act υ α) s = (.ok a, s) := rfl

@[simp] theorem exec_bind (m : Act υ α) (f : α → Act υ β) (s : Session υ) :
    exec (m >>= f) s = match exec m s with
      | (.ok a, t) => exec (f a) t
      | (.error e, t) => (.error e, t) := by
  rcases h : exec m s with ⟨a | e, t⟩ <;>
    simp only [exec, ExceptT.run_bind, StateT.run_bind] at h ⊢ <;> rw [h] <;> rfl

@[simp] theorem exec_map (f : α → β) (m : Act υ α) (s : Session υ) :
    exec (f <$> m) s = match exec m s with
      | (.ok a, t) => (.ok (f a), t)
      | (.error e, t) => (.error e, t) := by
  rw [map_eq_pure_bind, exec_bind]
  rcases exec m s with ⟨e | a, t⟩ <;> rfl

@[simp] theorem exec_get (s : Session υ) : exec (get : Act υ (Session υ)) s = (.ok s, s) := rfl

@[simp] theorem exec_set (t s : Session υ) : exec (set t : Act υ PUnit) s = (.ok ⟨⟩, t) := rfl

@[simp] theorem exec_modify (f : Session υ → Session υ) (s : Session υ) :
    exec (modify f : Act υ PUnit) s = (.ok ⟨⟩, f s) := rfl

@[simp] theorem exec_fail (e : Failure) (s : Session υ) :
    exec (fail e : Act υ α) s = (.error e, s) := rfl

@[simp] theorem exec_attempt (m : Act υ α) (s : Session υ) :
    exec (attempt m) s = (.ok (exec m s).1, (exec m s).2) := rfl

@[simp] theorem exec_ofExcept (r : Except Failure α) (s : Session υ) :
    exec (ofExcept r : Act υ α) s = (r, s) := by cases r <;> rfl

theorem exists_exec_eq_ok {m : Act υ α} {s : Session υ} (h : (exec m s).1.toBool = true) :
    ∃ a, exec m s = (.ok a, next m s) := by
  unfold next
  rcases hs : exec m s with ⟨e | a, t⟩
  · rw [hs] at h
    cases h
  · exact ⟨a, rfl⟩

/-- Two steps give a value if the first one does and so does the second one from there. -/
theorem exec_bind_eq_ok {m : Act υ α} {f : α → Act υ β} {s u : Session υ} {b : β}
    (h : exec (m >>= f) s = (.ok b, u)) :
    ∃ a t, exec m s = (.ok a, t) ∧ exec (f a) t = (.ok b, u) := by
  rw [exec_bind] at h
  rcases hs : exec m s with ⟨e | a, t⟩ <;> rw [hs] at h
  · simp at h
  · exact ⟨a, t, rfl, h⟩

/-- What is done after a first step whose outcome is known. -/
theorem next_bind_eq {m : Act υ α} {f : α → Act υ β} {s t : Session υ} {a : α}
    (h : exec m s = (.ok a, t)) : next (m >>= f) s = next (f a) t := by
  rw [next, exec_bind, h]
  rfl

/-! What steps give -/

/-- Whenever the step gives a value, the value has a property. -/
def Gives (m : Act υ α) (P : α → Prop) : Prop := ∀ s a t, exec m s = (.ok a, t) → P a

theorem gives_pure {a : α} {P : α → Prop} (h : P a) : Gives (pure a : Act υ α) P := by
  intro s b t hok
  obtain rfl := Except.ok.inj (Prod.mk.inj hok).1
  exact h

theorem gives_fail (e : Failure) (P : α → Prop) : Gives (fail e : Act υ α) P := by
  intro s a t hok
  simp at hok

theorem gives_bind {m : Act υ α} {f : α → Act υ β} {P : α → Prop} {Q : β → Prop}
    (hm : Gives m P) (hf : ∀ a, P a → Gives (f a) Q) : Gives (m >>= f) Q := by
  intro s b u hok
  obtain ⟨a, t, hs, hrest⟩ := exec_bind_eq_ok hok
  exact hf a (hm s a t hs) t b u hrest

theorem gives_true (m : Act υ α) : Gives m fun _ => True := fun _ _ _ _ => trivial

/-- A first step whose value does not matter. -/
theorem gives_after {m : Act υ α} {f : α → Act υ β} {Q : β → Prop} (hf : ∀ a, Gives (f a) Q) :
    Gives (m >>= f) Q := gives_bind (gives_true m) fun a _ => hf a

theorem Gives.mono {m : Act υ α} {P Q : α → Prop} (hm : Gives m P) (h : ∀ a, P a → Q a) :
    Gives m Q := fun s a t hok => h a (hm s a t hok)

/-! Relations that steps keep -/

def Keeps (R : Session υ → Session υ → Prop) (m : Act υ α) : Prop := ∀ s, R s (next m s)

section

variable {R : Session υ → Session υ → Prop} [IsPreorder (Session υ) R]

@[simp] theorem keeps_pure (a : α) : Keeps R (pure a : Act υ α) := fun s => Std.Refl.refl s

@[simp] theorem keeps_get : Keeps R (get : Act υ (Session υ)) := fun s => Std.Refl.refl s

@[simp] theorem keeps_fail (e : Failure) : Keeps R (fail e : Act υ α) := fun s => Std.Refl.refl s

@[simp] theorem keeps_ofExcept (r : Except Failure α) : Keeps R (ofExcept r : Act υ α) := by
  intro s
  rw [next, exec_ofExcept]
  exact Std.Refl.refl s

/-- From one session: what follows may rely on where the first step has led. -/
theorem kept_bind {m : Act υ α} {f : α → Act υ β} {s : Session υ} (hm : R s (next m s))
    (hf : ∀ a t, exec m s = (.ok a, t) → R s t → R t (next (f a) t)) :
    R s (next (m >>= f) s) := by
  unfold next at hm ⊢
  rw [exec_bind]
  rcases hs : exec m s with ⟨e | a, t⟩ <;> rw [hs] at hm
  · exact hm
  · exact IsTrans.trans _ _ _ hm (hf a t hs hm)

/-- What follows may rely on what the first step gives. -/
theorem keeps_bind_gives {m : Act υ α} {f : α → Act υ β} {P : α → Prop} (hm : Keeps R m)
    (hgives : Gives m P) (hf : ∀ a, P a → Keeps R (f a)) : Keeps R (m >>= f) :=
  fun s => kept_bind (hm s) fun a t hok _ => hf a (hgives s a t hok) t

@[simp] theorem keeps_bind {m : Act υ α} {f : α → Act υ β} (hm : Keeps R m)
    (hf : ∀ a, Keeps R (f a)) : Keeps R (m >>= f) :=
  keeps_bind_gives hm (gives_true m) fun a _ => hf a

@[simp] theorem keeps_map {f : α → β} {m : Act υ α} (hm : Keeps R m) : Keeps R (f <$> m) := by
  rw [map_eq_pure_bind]
  exact keeps_bind hm fun _ => keeps_pure _

section

variable {P : Session υ → Prop} {s : Session υ} {xs : List α}

/-- A loop over steps that rely on a property of the session which the relation keeps. -/
theorem kept_forM {f : α → Act υ PUnit} (hP : ∀ s t, P s → R s t → P t)
    (hf : ∀ x ∈ xs, ∀ s, P s → R s (next (f x) s)) (hs : P s) : R s (next (xs.forM f) s) := by
  induction xs generalizing s with
  | nil => exact keeps_pure _ s
  | cons x xs ih =>
    refine kept_bind (hf x List.mem_cons_self s hs) fun _ t _ hst => ?_
    exact ih (fun y hy => hf y (List.mem_cons_of_mem x hy)) (hP s t hs hst)

/-- The same for a loop that is written with `for`. -/
theorem kept_forIn {b : β} {f : α → β → Act υ (ForInStep β)} (hP : ∀ s t, P s → R s t → P t)
    (hf : ∀ x ∈ xs, ∀ b s, P s → R s (next (f x b) s)) (hs : P s) :
    R s (next (forIn xs b f) s) := by
  induction xs generalizing s b with
  | nil => exact keeps_pure _ s
  | cons x xs ih =>
    rw [List.forIn_cons]
    refine kept_bind (hf x List.mem_cons_self b s hs) fun step t _ hst => ?_
    cases step with
    | done => exact keeps_pure _ t
    | yield b => exact ih (fun y hy => hf y (List.mem_cons_of_mem x hy)) (hP s t hs hst)

end

@[simp] theorem keeps_forM {xs : List α} {f : α → Act υ PUnit} (hf : ∀ x, Keeps R (f x)) :
    Keeps R (xs.forM f) :=
  fun _ => kept_forM (P := fun _ => True) (fun _ _ _ _ => trivial) (fun x _ s _ => hf x s) trivial

@[simp] theorem keeps_forIn {xs : List α} {b : β} {f : α → β → Act υ (ForInStep β)}
    (hf : ∀ x b, Keeps R (f x b)) : Keeps R (forIn xs b f) :=
  fun _ => kept_forIn (P := fun _ => True) (fun _ _ _ _ => trivial) (fun x _ b s _ => hf x b s) trivial

end

@[simp] theorem keeps_attempt {R : Session υ → Session υ → Prop} {m : Act υ α} (hm : Keeps R m) :
    Keeps R (attempt m) := hm

/-- Where two steps give a value, the first one has kept what it keeps. -/
theorem Keeps.bind_eq_ok {R : Session υ → Session υ → Prop} {m : Act υ α} {f : α → Act υ β}
    {s u : Session υ} {b : β} (hm : Keeps R m) (h : exec (m >>= f) s = (.ok b, u)) :
    ∃ a t, R s t ∧ exec (f a) t = (.ok b, u) := by
  obtain ⟨a, t, hs, hrest⟩ := exec_bind_eq_ok h
  have hkept := hm s
  rw [next, hs] at hkept
  exact ⟨a, t, hkept, hrest⟩

theorem keeps_modify {R : Session υ → Session υ → Prop} {f : Session υ → Session υ}
    (h : ∀ s, R s (f s)) : Keeps R (modify f : Act υ PUnit) := h

/-- The relation of a property that is not lost. -/
def Stays (P : Session υ → Prop) (s t : Session υ) : Prop := P s → P t

instance (P : Session υ → Prop) : IsPreorder (Session υ) (Stays P) where
  refl _ := id
  trans _ _ _ h k := k ∘ h

theorem Keeps.mono {R S : Session υ → Session υ → Prop} {m : Act υ α} (hm : Keeps R m)
    (h : ∀ s t, R s t → S s t) : Keeps S m := fun s => h _ _ (hm s)

/-! Steps that always give something -/

/-- From every session the step gives a value, and the value has a property. -/
def Yields (m : Act υ α) (P : α → Prop) : Prop := ∀ s, ∃ a t, exec m s = (.ok a, t) ∧ P a

theorem yields_pure {a : α} {P : α → Prop} (h : P a) : Yields (pure a : Act υ α) P :=
  fun s => ⟨a, s, rfl, h⟩

theorem yields_bind {m : Act υ α} {f : α → Act υ β} {P : α → Prop} {Q : β → Prop}
    (hm : Yields m P) (hf : ∀ a, P a → Yields (f a) Q) : Yields (m >>= f) Q := by
  intro s
  obtain ⟨a, t, hs, ha⟩ := hm s
  rw [exec_bind, hs]
  exact hf a ha t

/-- A first step whose value does not matter. -/
theorem yields_after {m : Act υ α} {f : α → Act υ β} {Q : β → Prop}
    (hm : Yields m fun _ => True) (hf : ∀ a, Yields (f a) Q) : Yields (m >>= f) Q :=
  yields_bind hm fun a _ => hf a

theorem yields_modify {f : Session υ → Session υ} {P : PUnit → Prop} (h : P ⟨⟩) :
    Yields (modify f : Act υ PUnit) P := fun s => ⟨⟨⟩, f s, rfl, h⟩

theorem yields_get {P : Session υ → Prop} (h : ∀ s, P s) : Yields (get : Act υ (Session υ)) P :=
  fun s => ⟨s, s, rfl, h s⟩

/-- A step whose failures are caught and made good. -/
theorem yields_attempt {m : Act υ α} {f : Except Failure α → Act υ β} {P : α → Prop}
    {Q : β → Prop} (hm : Gives m P) (hok : ∀ a, P a → Yields (f (.ok a)) Q)
    (herror : ∀ e, Yields (f (.error e)) Q) : Yields (attempt m >>= f) Q := by
  intro s
  rw [exec_bind, exec_attempt]
  rcases hs : exec m s with ⟨e | a, t⟩
  · exact herror e t
  · exact hok a (hm s a t hs) t

theorem Yields.mono {m : Act υ α} {P Q : α → Prop} (hm : Yields m P) (h : ∀ a, P a → Q a) :
    Yields m Q := by
  intro s
  obtain ⟨a, t, hs, ha⟩ := hm s
  exact ⟨a, t, hs, h a ha⟩

theorem Yields.gives {m : Act υ α} {P : α → Prop} (h : Yields m P) : Gives m P := by
  intro s a t hok
  obtain ⟨b, u, hs, hb⟩ := h s
  rw [hs] at hok
  obtain rfl := Except.ok.inj (Prod.mk.inj hok).1
  exact hb

theorem Yields.and {m : Act υ α} {P Q : α → Prop} (h : Yields m P) (k : Gives m Q) :
    Yields m fun a => P a ∧ Q a := by
  intro s
  obtain ⟨a, t, hs, ha⟩ := h s
  exact ⟨a, t, hs, ha, k s a t hs⟩

end Session
end RemoteScreen
