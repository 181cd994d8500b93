/-! JSON values. Objects keep the order of their entries and numbers keep their spelling. -/
namespace RemoteScreen

inductive Json where
  | null
  | bool (b : Bool)
  | number (lexeme : String)
  | text (s : String)
  | list (items : List Json)
  | object (entries : List (String × Json))
  deriving Inhabited

namespace Json

/-- The last entry under a key. -/
def lastValue? (key : String) (entries : List (String × Json)) : Option Json :=
  entries.foldl (fun found e => if e.1 = key then some e.2 else found) none

@[simp] theorem lastValue?_nil (key : String) : lastValue? key [] = none := rfl

/-- Writes an entry: the key keeps its first place and the new value counts. -/
def putEntry {α : Type} (key : String) (x : α) : List (String × α) → List (String × α)
  | [] => [(key, x)]
  | e :: es => if e.1 = key then (key, x) :: es else e :: putEntry key x es

@[simp] theorem lookup_putEntry {α : Type} (key k : String) (x : α) (es : List (String × α)) :
    (putEntry key x es).lookup k = if k = key then some x else es.lookup k := by
  have cons (other : String) (y : α) (es : List (String × α)) :
      ((other, y) :: es).lookup k = if k = other then some y else es.lookup k := by
    by_cases h : k = other
    · simp [h]
    · simp [List.lookup_cons, beq_eq_false_iff_ne.2 h, h]
  induction es with
  | nil => simp [putEntry, cons]
  | cons e es ih =>
    obtain ⟨other, y⟩ := e
    unfold putEntry
    split
    · subst_vars
      rw [cons, cons]
      split <;> rfl
    · rw [cons, cons, ih]
      split <;> split <;> simp_all

/-- Entries with every key once, at its first place and with its last value. -/
def mergeEntries {α : Type} (entries : List (String × α)) : List (String × α) :=
  entries.foldl (fun acc e => putEntry e.1 e.2 acc) []

@[simp] theorem mergeEntries_nil {α : Type} : mergeEntries ([] : List (String × α)) = [] := rfl

mutual

/-- The value a document denotes: in every object the last entry of a repeated key wins. -/
def merged : Json → Json
  | .list items => .list (mergedItems items)
  | .object entries => .object (mergeEntries (mergedEntries entries))
  | v => v

def mergedItems : List Json → List Json
  | [] => []
  | v :: vs => merged v :: mergedItems vs

def mergedEntries : List (String × Json) → List (String × Json)
  | [] => []
  | (k, v) :: es => (k, merged v) :: mergedEntries es

end

end Json
end RemoteScreen
