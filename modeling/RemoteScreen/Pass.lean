/-! Render passes: which tree is the current one. -/
namespace RemoteScreen

/-- Names one rendering of one response. -/
structure Pass where
  version : Int
  deriving DecidableEq, Repr

def Pass.shown (p : Pass) : String := s!"RenderPass(version={p.version})"

/-- A pass as shown in a log line. -/
def Pass.shown? : Option Pass → String
  | some p => p.shown
  | none => "None"

/-- Issues passes with increasing versions and remembers the last one. -/
structure PassTracker where
  issued : Nat := 0
  current : Option Pass := none
  deriving DecidableEq, Repr

namespace PassTracker

def next (t : PassTracker) : Pass := ⟨t.issued + 1⟩

def advance (t : PassTracker) : PassTracker := ⟨t.issued + 1, some t.next⟩

@[simp] theorem issued_advance (t : PassTracker) : t.advance.issued = t.issued + 1 := rfl

@[simp] theorem current_advance (t : PassTracker) : t.advance.current = some t.next := rfl

/-- Work that belongs to no pass is never stale. -/
def isCurrent (t : PassTracker) : Option Pass → Bool
  | none => true
  | some p => t.current == some p

@[simp] theorem isCurrent_none (t : PassTracker) : t.isCurrent none = true := rfl

end PassTracker
end RemoteScreen
