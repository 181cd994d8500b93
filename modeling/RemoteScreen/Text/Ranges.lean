/-! Tables of code points. The entries stand in ascending order, and each holds for a range of code
points with both ends included. -/
namespace RemoteScreen
namespace Text

/-- The entry whose range holds a code point, among those from `low` up to but not including
`high`. -/
def rowFrom? {α : Type} (table : Array α) (range : α → Nat × Nat) (n : Nat) :
    (fuel low high : Nat) → Option α
  | 0, _, _ => none
  | fuel + 1, low, high =>
    if high ≤ low then none
    else
      let middle := (low + high) / 2
      match table[middle]? with
      | none => none
      | some e =>
        if n < (range e).1 then rowFrom? table range n fuel low middle
        else if (range e).2 < n then rowFrom? table range n fuel (middle + 1) high
        else some e

def rowAt? {α : Type} (table : Array α) (range : α → Nat × Nat) (n : Nat) : Option α :=
  rowFrom? table range n (table.size + 1) 0 table.size

def inRanges (table : Array (Nat × Nat)) (n : Nat) : Bool := (rowAt? table id n).isSome

/-- What a table says of a code point. -/
def valueAt? {β : Type} (table : Array (Nat × Nat × β)) (n : Nat) : Option β :=
  (rowAt? table (fun e => (e.1, e.2.1)) n).map (·.2.2)

/-- Whatever is found holds the code point that was looked for. -/
theorem rowFrom?_holds {α : Type} {table : Array α} {range : α → Nat × Nat} {n : Nat} {e : α} :
    ∀ {fuel low high : Nat}, rowFrom? table range n fuel low high = some e →
      (range e).1 ≤ n ∧ n ≤ (range e).2 := by
  intro fuel
  induction fuel with
  | zero => simp [rowFrom?]
  | succ fuel ih =>
    intro low high h
    simp only [rowFrom?] at h
    split at h
    · cases h
    · split at h
      · cases h
      · split at h
        · exact ih h
        · split at h
          · exact ih h
          · cases h
            omega

end Text
end RemoteScreen
