import RemoteScreen.Number.Binary

/-! The shortest decimal that reads back as a float, and its text: positional for moderate
exponents, with an exponent otherwise. -/
namespace RemoteScreen
namespace Number

/-- The number `coefficient * 10 ^ exponent`. -/
structure Decimal where
  coefficient : Nat
  exponent : Int
  deriving DecidableEq, Repr

def digitChars (n : Nat) : List Char := Nat.toDigits 10 n

def digitCount (n : Nat) : Nat := (digitChars n).length

/-- The numbers that round to a float: from `low / den` to `high / den`, around `mid / den`; the
ends belong to it or not. -/
structure Interval where
  low : Nat
  mid : Nat
  high : Nat
  den : Nat
  closed : Bool

/-- Below a power of two the floats lie closer together. -/
def interval (m : Nat) (e : Int) : Interval :=
  let gap := if m = Nat.pow 2 fractionBits ∧ lowestExponent < e then 1 else 2
  let (low, den) := scaled (4 * m - gap) 1 (2 - e)
  let (mid, _) := scaled (4 * m) 1 (2 - e)
  let (high, _) := scaled (4 * m + 2) 1 (2 - e)
  ⟨low, mid, high, den, m % 2 = 0⟩

/-- Whether `c * 10 ^ x` lies in the interval. -/
def Interval.holds (i : Interval) (c : Nat) (x : Int) : Bool :=
  let (n, d) := if 0 ≤ x then (c * Nat.pow 10 x.toNat, 1) else (c, Nat.pow 10 (-x).toNat)
  if i.closed then i.low * d ≤ n * i.den && n * i.den ≤ i.high * d
  else i.low * d < n * i.den && n * i.den < i.high * d

/-- The exponent of the leading decimal digit of `num / den`. -/
def leadingExponent (num den : Nat) : Int :=
  if den ≤ num then (digitCount (num / den) : Int) - 1
  else -(digitCount ((den + num - 1) / num - 1) : Int)

/-- The point of a decimal grid that lies in the interval and nearest to its middle. -/
def Interval.onGrid? (i : Interval) (x : Int) : Option Decimal :=
  let (n, d) :=
    if 0 ≤ x then (i.mid, i.den * Nat.pow 10 x.toNat) else (i.mid * Nat.pow 10 (-x).toNat, i.den)
  let below := n / d
  let lower := i.holds below x
  let upper := i.holds (below + 1) x
  if lower && upper then some ⟨roundEven n d, x⟩
  else if lower then some ⟨below, x⟩
  else if upper then some ⟨below + 1, x⟩
  else none

/-- Tries ever finer grids. -/
def Interval.shortest (i : Interval) (lead : Int) : (fuel digits : Nat) → Decimal
  | 0, _ => ⟨0, 0⟩
  | fuel + 1, digits =>
    match i.onGrid? (lead - digits) with
    | some d => d
    | none => i.shortest lead fuel (digits + 1)

/-- Seventeen digits tell all floats apart. -/
def shortest (m : Nat) (e : Int) : Decimal :=
  if m = 0 then ⟨0, 0⟩
  else
    let i := interval m e
    i.shortest (leadingExponent i.mid i.den) 18 0

/-- The same number without zeros at the end of its coefficient. -/
def Decimal.trimmed : (fuel : Nat) → Decimal → Decimal
  | 0, d => d
  | fuel + 1, d =>
    if d.coefficient ≠ 0 ∧ d.coefficient % 10 = 0 then
      Decimal.trimmed fuel ⟨d.coefficient / 10, d.exponent + 1⟩
    else d

/-- Leading digits from `10 ^ least` up to but not including `10 ^ limit` are written positionally;
an exponent has at least `width` digits. -/
structure Layout where
  least : Int
  limit : Int
  width : Nat

/-- Numbers are positional from 0.0001 up to 10 ^ 16, and exponents have two digits or more. -/
def floatLayout : Layout := ⟨-4, 16, 2⟩

def zeros (n : Nat) : List Char := List.replicate n '0'

def exponentChars (l : Layout) (x : Int) : List Char :=
  let ds := digitChars x.natAbs
  'e' :: (if x < 0 then '-' else '+') :: zeros (l.width - ds.length) ++ ds

/-- The text of a number that is not negative. A number written positionally always has a point. -/
def Layout.chars (l : Layout) (d : Decimal) : List Char :=
  if d.coefficient = 0 then ['0', '.', '0']
  else
    let ds := digitChars d.coefficient
    let lead := d.exponent + ds.length - 1
    if l.least ≤ lead ∧ lead < l.limit then
      if 0 ≤ d.exponent then ds ++ zeros d.exponent.toNat ++ ['.', '0']
      else if 0 ≤ lead then ds.take (lead + 1).toNat ++ '.' :: ds.drop (lead + 1).toNat
      else '0' :: '.' :: zeros (-lead - 1).toNat ++ ds
    else
      match ds with
      | [c] => c :: exponentChars l lead
      | c :: cs => c :: '.' :: cs ++ exponentChars l lead
      | [] => []

def floatText (x : Float) : String :=
  match parts x with
  | .nan => "nan"
  | .infinite negative => if negative then "-inf" else "inf"
  | .finite negative m e =>
    let cs := floatLayout.chars ((shortest m e).trimmed 20)
    String.ofList (if negative then '-' :: cs else cs)

end Number
end RemoteScreen
