import RemoteScreen.Failure

/-! Registries: which strategy serves which type tag. A tag is registered once; all other texts are
served by the fallback. -/
namespace RemoteScreen

structure Registry (σ : Type) where
  fallback : σ
  entries : List (String × σ) := []

namespace Registry

variable {σ τ : Type}

def get? (r : Registry σ) (tag : String) : Option σ := r.entries.lookup tag

def has (r : Registry σ) (tag : String) : Bool := (r.get? tag).isSome

def resolve (r : Registry σ) (tag : String) : σ := (r.get? tag).getD r.fallback

/-- The tags in the order of their registration. -/
def tags (r : Registry σ) : List String := r.entries.map Prod.fst

def register (r : Registry σ) (tag : String) (s : σ) : Except RegistryError (Registry σ) :=
  if tag = "" then .error .emptyTag
  else if r.has tag then .error (.duplicateTag tag)
  else .ok { r with entries := r.entries ++ [(tag, s)] }

theorem tags_register {r r' : Registry σ} {tag : String} {s : σ} (h : r.register tag s = .ok r') :
    r'.tags = r.tags ++ [tag] := by
  unfold register at h
  split at h
  · simp at h
  · split at h
    · simp at h
    · simp only [Except.ok.injEq] at h
      subst h
      simp [tags]

def map (f : σ → τ) (r : Registry σ) : Registry τ :=
  ⟨f r.fallback, r.entries.map fun e => (e.1, f e.2)⟩

end Registry
end RemoteScreen
