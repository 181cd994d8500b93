import RemoteScreen.Proofs.Json.Merged
import RemoteScreen.Proofs.Text.Trim
import RemoteScreen.Settings

/-! How settings lie over one another: the environment over options, options over built-in defaults,
and options over options. Maps are never written to but by those who made them. -/
namespace RemoteScreen
namespace Settings

variable {key : String} {x : Value} {base top o₁ o₂ : Options}
  {environment : List (String × String)}

/-! Options over options -/

/-- Each key stands once, as in every map. -/
def Distinct (o : Options) : Prop := (o.map Prod.fst).Nodup

theorem Distinct.overlay (h : Distinct base) (top : Options) :
    Distinct (Settings.overlay base top) := by
  induction top generalizing base with
  | nil => exact h
  | cons e top ih => exact ih (Json.nodup_keys_putEntry h e.1 e.2)

theorem lookup_of_not_mem {o : Options} (h : key ∉ o.map Prod.fst) : o.lookup key = none := by
  rw [List.lookup_eq_none_iff]
  rintro e he
  exact bne_iff_ne.2 fun heq => h (heq ▸ List.mem_map_of_mem he)

theorem lookup_eq_some_iff {o : Options} (h : Distinct o) :
    o.lookup key = some x ↔ (key, x) ∈ o := by
  rw [List.lookup_eq_some_iff]
  constructor
  · rintro ⟨before, after, rfl, -⟩
    simp
  · intro hmem
    obtain ⟨before, after, rfl⟩ := List.append_of_mem hmem
    refine ⟨before, after, rfl, fun e he => bne_iff_ne.2 ?_⟩
    rw [Distinct, List.map_append, List.map_cons, List.nodup_append] at h
    exact (h.2.2 _ (List.mem_map_of_mem he) _ List.mem_cons_self).symm

/-- What is laid over the rest counts first. -/
theorem lookup_overlay (h : Distinct top) (base : Options) (key : String) :
    (overlay base top).lookup key = (top.lookup key).or (base.lookup key) := by
  induction top generalizing base with
  | nil => rfl
  | cons e top ih =>
    obtain ⟨hnew, hdistinct⟩ := List.nodup_cons.1 h
    change (overlay (Json.putEntry e.1 e.2 base) top).lookup key = _
    rw [ih hdistinct, Json.lookup_putEntry, List.lookup_cons]
    by_cases hkey : key = e.1
    · subst hkey
      rw [lookup_of_not_mem hnew]
      simp
    · simp [hkey, beq_eq_false_iff_ne.2 hkey]

theorem get_of_lookup {s t : Settings}
    (h : (s.options.getD []).lookup key = (t.options.getD []).lookup key) (default : Value) :
    s.get key default = t.get key default := by
  rw [get, get, h]

theorem merged_of_free {o : Options} (h : ∀ e ∈ o, e.1 ≠ reservedKey) (s : Settings) :
    s.merged o = .ok ⟨some (overlay (s.options.getD []) o)⟩ := by
  have hnone : (o.any fun e => e.1 == reservedKey) = false := by
    simpa using h
  rw [merged, hnone]
  rfl

theorem mem_of_mem_overlay {e : String × Value} (h : e ∈ overlay base top) :
    e ∈ base ∨ e ∈ top := by
  induction top generalizing base with
  | nil => exact .inl h
  | cons e' top ih =>
    rcases ih h with h | h
    · rcases Json.mem_of_mem_putEntry h with rfl | h
      · exact .inr List.mem_cons_self
      · exact .inl h
    · exact .inr (List.mem_cons_of_mem e' h)

/-- Two calls to merge say what one call says with the later options laid over the earlier. -/
theorem merged_merged (h₁ : Distinct o₁) (h₂ : Distinct o₂)
    (hfree₁ : ∀ e ∈ o₁, e.1 ≠ reservedKey) (hfree₂ : ∀ e ∈ o₂, e.1 ≠ reservedKey) (s : Settings) :
    ∃ t u w, s.merged o₁ = .ok t ∧ t.merged o₂ = .ok u ∧ s.merged (overlay o₁ o₂) = .ok w ∧
      ∀ key default, u.get key default = w.get key default := by
  have hfree : ∀ e ∈ overlay o₁ o₂, e.1 ≠ reservedKey := fun e he =>
    (mem_of_mem_overlay he).elim (hfree₁ e) (hfree₂ e)
  refine ⟨_, _, _, merged_of_free hfree₁ s, merged_of_free hfree₂ _, merged_of_free hfree s,
    fun key => get_of_lookup ?_⟩
  dsimp only [Option.getD_some]
  rw [lookup_overlay h₂, lookup_overlay h₁, lookup_overlay (h₁.overlay o₂), lookup_overlay h₂,
    Option.or_assoc]

/-! The environment -/

/-- The entries that an environment makes up. -/
def environmentEntries (environment : List (String × String)) : Options :=
  environmentVariables.filterMap fun v => (v.value? environment).map fun x => (v.key, x)

theorem fromEnvironment_eq (environment : List (String × String)) (base : Option Options) :
    fromEnvironment environment base =
      ⟨some (overlay (base.getD []) (environmentEntries environment))⟩ := by
  unfold fromEnvironment overlay environmentEntries
  rw [List.foldl_filterMap]
  congr 3
  funext o v
  cases v.value? environment <;> rfl

theorem distinct_environmentEntries (environment : List (String × String)) :
    Distinct (environmentEntries environment) := by
  have hkeys : environmentVariables.Pairwise fun v w => v.key ≠ w.key := by decide
  refine List.pairwise_map.2 (List.pairwise_filterMap.2 (hkeys.imp fun hne e he e' he' => ?_))
  obtain ⟨x, -, rfl⟩ := Option.map_eq_some_iff.1 he
  obtain ⟨x', -, rfl⟩ := Option.map_eq_some_iff.1 he'
  exact hne

/-- The environment gives a key a value: one of the variables for that key is set, it is not blank,
and the text that is left without the blanks around it can be converted. -/
def Feeds (environment : List (String × String)) (key : String) (x : Value) : Prop :=
  ∃ v ∈ environmentVariables, v.key = key ∧ ∃ raw, environment.lookup v.name = some raw ∧
    Text.strip raw ≠ "" ∧ v.conversion.apply? (Text.strip raw) = some x

theorem Variable.value?_eq_some {v : Variable} : v.value? environment = some x ↔
    ∃ raw, environment.lookup v.name = some raw ∧ Text.strip raw ≠ "" ∧
      v.conversion.apply? (Text.strip raw) = some x := by
  unfold value?
  cases hraw : environment.lookup v.name with
  | none => simp
  | some raw =>
    by_cases hblank : Text.allBlank raw = true
    · have hempty := (Text.strip_eq_empty_iff raw).2 hblank
      simp [hblank, hempty]
    · have hfilled : Text.strip raw ≠ "" := fun h => hblank ((Text.strip_eq_empty_iff raw).1 h)
      simp [hblank, hfilled]

theorem lookup_environmentEntries_iff :
    (environmentEntries environment).lookup key = some x ↔ Feeds environment key x := by
  rw [lookup_eq_some_iff (distinct_environmentEntries environment)]
  simp only [environmentEntries, List.mem_filterMap, Option.map_eq_some_iff, Feeds,
    Variable.value?_eq_some, Prod.mk.injEq]
  constructor
  · rintro ⟨v, hv, y, hy, hkey, rfl⟩
    exact ⟨v, hv, hkey, hy⟩
  · rintro ⟨v, hv, hkey, hx⟩
    exact ⟨v, hv, x, hx, hkey, rfl⟩

/-- What the environment gives counts; where it gives nothing, the options are as they were. -/
theorem get_fromEnvironment (environment : List (String × String)) (base : Option Options)
    (key : String) (default : Value) :
    (∀ x, Feeds environment key x → (fromEnvironment environment base).get key default = x) ∧
    ((∀ x, ¬Feeds environment key x) →
      (fromEnvironment environment base).get key default = (⟨base⟩ : Settings).get key default) := by
  have hlookup : (overlay (base.getD []) (environmentEntries environment)).lookup key = _ :=
    lookup_overlay (distinct_environmentEntries environment) (base.getD []) key
  rw [fromEnvironment_eq]
  constructor
  · intro x hx
    rw [lookup_environmentEntries_iff.2 hx, Option.some_or] at hlookup
    rw [get]
    dsimp only [Option.getD_some]
    rw [hlookup]
  · intro hnone
    have hempty : (environmentEntries environment).lookup key = none := by
      cases hx : (environmentEntries environment).lookup key with
      | none => rfl
      | some x => exact absurd (lookup_environmentEntries_iff.1 hx) (hnone x)
    rw [hempty, Option.none_or] at hlookup
    exact get_of_lookup hlookup default

/-! Maps in memory -/

/-- The maps that there are. Each has its place, and a new one comes at the end. -/
abbrev Store := List Options

namespace Store

variable {store store' : Store} {place : Option Nat} {a : Nat}

/-- Settings whose options are the map at a place, if they have any. -/
def settings (store : Store) (place : Option Nat) : Settings := ⟨place.bind fun a => store[a]?⟩

/-- Writes into the map at a place. -/
def put (store : Store) (a : Nat) (key : String) (x : Value) : Store :=
  store.modify a (Json.putEntry key x)

/-- A copy of the map that settings have, or an empty one. -/
def copy (store : Store) (place : Option Nat) : Store :=
  store ++ [(store.settings place).options.getD []]

/-- Merging step by step: a copy of the options is made, and written to. The result is the place of
the copy. -/
def merged (store : Store) (place : Option Nat) (overrides : Options) :
    Except Failure (Store × Nat) :=
  if overrides.any fun e => e.1 == reservedKey then .error (.reservedOption reservedKey)
  else .ok (overrides.foldl (fun store' e => store'.put store.length e.1 e.2) (store.copy place),
    store.length)

/-- Reading the environment step by step, in the same way. -/
def fromEnvironment (store : Store) (environment : List (String × String)) (place : Option Nat) :
    Store × Nat :=
  (environmentVariables.foldl (fun store' v =>
    match v.value? environment with
    | some x => store'.put store.length v.key x
    | none => store') (store.copy place), store.length)

theorem put_concat (store : Store) (o : Options) (key : String) (x : Value) :
    (store ++ [o]).put store.length key x = store ++ [Json.putEntry key x o] := by
  induction store with
  | nil => rfl
  | cons _ store ih => simpa [put] using ih

/-- Writes to the copy leave all other maps alone, and make of it what laying over makes. -/
theorem foldl_put (store : Store) (o top : Options) :
    top.foldl (fun store' e => store'.put store.length e.1 e.2) (store ++ [o]) =
      store ++ [overlay o top] := by
  induction top generalizing o with
  | nil => rfl
  | cons e top ih =>
    rw [List.foldl_cons, put_concat]
    exact ih (Json.putEntry e.1 e.2 o)

theorem merged_eq (store : Store) (place : Option Nat) (overrides : Options) :
    store.merged place overrides = ((store.settings place).merged overrides).map
      fun s => (store ++ [s.options.getD []], store.length) := by
  unfold merged Settings.merged copy
  split
  · rfl
  · rw [foldl_put]
    rfl

theorem fromEnvironment_eq (store : Store) (environment : List (String × String))
    (place : Option Nat) :
    store.fromEnvironment environment place =
      (store ++ [overlay ((store.settings place).options.getD []) (environmentEntries environment)],
        store.length) := by
  rw [← foldl_put, environmentEntries, List.foldl_filterMap]
  unfold fromEnvironment copy
  congr 2
  funext store' v
  cases v.value? environment <;> rfl

/-- From one store to another: the map at the new place has the options of the settings, and no
settings that there were before have changed. -/
structure Adds (store : Store) (s : Settings) (store' : Store) (a : Nat) : Prop where
  made : store'.settings (some a) = s
  kept : ∀ place : Option Nat, (∀ b ∈ place, b < store.length) →
    store'.settings place = store.settings place

theorem adds_concat (store : Store) (o : Options) :
    store.Adds ⟨some o⟩ (store ++ [o]) store.length where
  made := by simp [settings]
  kept place hplace := by
    cases place with
    | none => rfl
    | some b =>
      have hb : b < store.length := hplace b rfl
      simp [settings, List.getElem?_append_left hb]

theorem fromEnvironment_adds (store : Store) (environment : List (String × String))
    (place : Option Nat) :
    ∃ store' a, store.fromEnvironment environment place = (store', a) ∧
      store.Adds (Settings.fromEnvironment environment (store.settings place).options) store' a := by
  rw [Settings.fromEnvironment_eq]
  exact ⟨_, _, store.fromEnvironment_eq environment place, store.adds_concat _⟩

theorem merged_adds {overrides : Options} {t : Settings}
    (h : (store.settings place).merged overrides = .ok t) :
    ∃ store' a, store.merged place overrides = .ok (store', a) ∧ store.Adds t store' a := by
  refine ⟨store ++ [t.options.getD []], store.length, ?_, ?_⟩
  · rw [merged_eq, h]
    rfl
  · unfold Settings.merged at h
    split at h
    · cases h
    · obtain rfl := Except.ok.inj h
      exact store.adds_concat _

end Store

/-- What the environment gives a key counts, and where it gives nothing the options and the defaults
answer as without it; options merged in two calls answer as if merged in one; and both make new
settings and leave all others as they are. -/
theorem settings_lie_in_layers :
    (∀ environment base key default,
      (∀ x, Feeds environment key x → (fromEnvironment environment base).get key default = x) ∧
      ((∀ x, ¬Feeds environment key x) → (fromEnvironment environment base).get key default =
        (⟨base⟩ : Settings).get key default)) ∧
    (∀ (s : Settings) (o₁ o₂ : Options), Distinct o₁ → Distinct o₂ →
      (∀ e ∈ o₁, e.1 ≠ reservedKey) → (∀ e ∈ o₂, e.1 ≠ reservedKey) →
      ∃ t u w, s.merged o₁ = .ok t ∧ t.merged o₂ = .ok u ∧ s.merged (overlay o₁ o₂) = .ok w ∧
        ∀ key default, u.get key default = w.get key default) ∧
    (∀ (store : Store) environment place,
      ∃ store' a, store.fromEnvironment environment place = (store', a) ∧
        store.Adds (fromEnvironment environment (store.settings place).options) store' a) ∧
    ∀ (store : Store) place overrides t, (store.settings place).merged overrides = .ok t →
      ∃ store' a, store.merged place overrides = .ok (store', a) ∧ store.Adds t store' a :=
  ⟨get_fromEnvironment, fun s _ _ h₁ h₂ hfree₁ hfree₂ => merged_merged h₁ h₂ hfree₁ hfree₂ s,
    Store.fromEnvironment_adds, fun _ _ _ _ => Store.merged_adds⟩

/-- A count with a low line and blanks around it, a time that is none, and a blank name. -/
def patchy : List (String × String) :=
  [("PYSDUI_IMAGE_WORKERS", " 1_2 "), ("PYSDUI_TIMEOUT", "soon"), ("PYSDUI_THEME", "  ")]

theorem feeds_patchy : Feeds patchy "image_workers" (.int 12) :=
  ⟨⟨"PYSDUI_IMAGE_WORKERS", "image_workers", .whole⟩, by simp [environmentVariables], rfl, " 1_2 ",
    rfl, by decide +kernel, rfl⟩

theorem not_feeds_patchy (x : Value) : ¬Feeds patchy "timeout" x := by
  have hnone : (environmentEntries patchy).lookup "timeout" = none := rfl
  rw [← lookup_environmentEntries_iff, hnone]
  exact nofun

theorem settings_lie_in_layers_patchy :
    (Feeds patchy "image_workers" (.int 12) ∧
      (fromEnvironment patchy (some [("timeout", .null)])).get "image_workers" = .int 12) ∧
    ((∀ x, ¬Feeds patchy "timeout" x) ∧
      (fromEnvironment patchy (some [("timeout", .null)])).get "timeout" (.int 1) =
        (⟨some [("timeout", .null)]⟩ : Settings).get "timeout" (.int 1)) ∧
    (∃ t u w, (⟨none⟩ : Settings).merged [("theme", .null)] = .ok t ∧
      t.merged [("poll_ms", .int 9), ("theme", .text "arc")] = .ok u ∧
      (⟨none⟩ : Settings).merged (overlay [("theme", .null)]
        [("poll_ms", .int 9), ("theme", .text "arc")]) = .ok w ∧
      ∀ key default, u.get key default = w.get key default) ∧
    ∃ (store' : Store) (a : Nat),
      Store.merged [[("theme", .null)]] (some 0) [("poll_ms", .int 9)] = .ok (store', a) ∧
      Store.Adds [[("theme", .null)]] ⟨some [("theme", .null), ("poll_ms", .int 9)]⟩ store' a := by
  obtain ⟨henvironment, hmerged, -, hstore⟩ := settings_lie_in_layers
  refine ⟨⟨feeds_patchy, (henvironment _ _ _ _).1 _ feeds_patchy⟩,
    ⟨not_feeds_patchy, (henvironment _ _ _ _).2 not_feeds_patchy⟩,
    hmerged _ _ _ ?_ ?_ ?_ ?_, hstore _ _ _ _ rfl⟩
  · simp [Distinct]
  · simp [Distinct]
  · simp [reservedKey]
  · simp [reservedKey]

end Settings
end RemoteScreen
