/-! Labels in plain letters: the characters past ASCII are taken out of a label, and numbers after a
hyphen tell which they were and where they stood. -/
namespace RemoteScreen
namespace Host

/-- The number from which the characters past ASCII are counted. -/
def firstPoint : Nat := 0x80

def firstBias : Nat := 72

/-- Numbers are written to base 36. -/
def base : Nat := 36

/-- The digit of a number at a place ends it if it is below the threshold of that place. -/
def threshold (place bias : Nat) : Nat := max 1 (min 26 (base * (place + 1) - bias))

theorem one_le_threshold (place bias : Nat) : 1 ≤ threshold place bias := by
  unfold threshold
  omega

/-- How often 35 goes into a distance before it is small, and what is left. -/
def scaleDown (delta : Nat) : Nat × Nat :=
  if 455 < delta then
    let (times, rest) := scaleDown (delta / 35)
    (times + 1, rest)
  else (0, delta)
termination_by delta

/-- Numbers that follow are likely to be about as large as the last one. -/
def adapt (delta : Nat) (first : Bool) (length : Nat) : Nat :=
  let delta := if first then delta / 700 else delta / 2
  let (times, rest) := scaleDown (delta + delta / length)
  base * times + base * rest / (rest + 38)

def digitChar (d : Nat) : Char := Char.ofNat (if d < 26 then 97 + d else 22 + d)

/-- The digits of a number, from a place on. -/
def digitsFrom (bias place n : Nat) : List Char :=
  let t := threshold place bias
  if n < t then [digitChar n]
  else digitChar (t + (n - t) % (base - t)) :: digitsFrom bias (place + 1) ((n - t) / (base - t))
termination_by n
decreasing_by
  have ht := one_le_threshold place bias
  exact Nat.lt_of_le_of_lt (Nat.div_le_self _ _) (by omega)

/-- The numbers written so far, and the distance to the next: over how many places, in labels of the
characters counted so far, it is. -/
structure Writing where
  out : List Char := []
  delta : Nat := 0
  bias : Nat := firstBias
  count : Nat
  first : Bool := true

/-- Goes past a character of the label while those that are `point` are put in. -/
def Writing.pass (point : Nat) (w : Writing) (c : Nat) : Writing :=
  if c < point then { w with delta := w.delta + 1 }
  else if c = point then
    { out := w.out ++ digitsFrom w.bias 0 w.delta, delta := 0
      bias := adapt w.delta w.first (w.count + 1), count := w.count + 1, first := false }
  else w

/-- Puts in all characters of the given kinds, each greater than the one before. -/
def Writing.putAll (cs : List Nat) : List Nat → Nat → Writing → Writing
  | [], _, w => w
  | point :: points, from_, w =>
    let w := { w with delta := w.delta + (point - from_) * (w.count + 1) }
    let w := cs.foldl (Writing.pass point) w
    putAll cs points (point + 1) { w with delta := w.delta + 1 }

def encode (cs : List Nat) : String :=
  let plain := cs.filter (· < firstPoint)
  let points := ((cs.filter (firstPoint ≤ ·)).mergeSort (· ≤ ·)).eraseDups
  let w := Writing.putAll cs points firstPoint { count := plain.length }
  String.ofList (plain.map Char.ofNat ++ (if plain.isEmpty then [] else ['-']) ++ w.out)

def digitValue? (c : Char) : Option Nat :=
  let c := c.toLower
  if 'a' ≤ c ∧ c ≤ 'z' then some (c.toNat - 97)
  else if '0' ≤ c ∧ c ≤ '9' then some (c.toNat - 22)
  else none

/-- The characters found so far, the kind and the place that the next distance counts from, and the
number being read. -/
structure Reading where
  out : List Nat
  point : Nat := firstPoint
  spot : Nat := 0
  bias : Nat := firstBias
  first : Bool := true
  number : Nat := 0
  weight : Nat := 1
  place : Nat := 0

/-- Puts a character in where the number says, unless there is no such character. -/
def Reading.put (r : Reading) (delta : Nat) : Option Reading :=
  let length := r.out.length + 1
  let point := r.point + (r.spot + delta) / length
  let spot := (r.spot + delta) % length
  if 0x10FFFF < point then none
  else
    some {
      out := r.out.take spot ++ point :: r.out.drop spot
      point, spot := spot + 1, bias := adapt delta r.first length, first := false }

def Reading.step (r : Reading) (c : Char) : Option Reading := do
  let d ← digitValue? c
  let t := threshold r.place r.bias
  let number := r.number + d * r.weight
  if d < t then r.put number
  else some { r with number, weight := r.weight * (base - t), place := r.place + 1 }

/-- The code points of a label, if it is one: every number has an end. -/
def decode? (cs : List Char) : Option (List Nat) := do
  let digits := (cs.reverse.takeWhile (· != '-')).reverse
  let plain := (cs.take (cs.length - digits.length)).dropLast
  let r ← digits.foldlM Reading.step { out := plain.map Char.toNat }
  if r.place = 0 then some r.out else none

end Host
end RemoteScreen
