import RemoteScreen.Number.Shortest

/-! Whole numbers with a given number of digits: positional, with an exponent, or whichever of the
two is plainer. -/
namespace RemoteScreen
namespace Number

/-- A whole part and a fraction. A point with nothing after it is written only if it is asked for.
-/
def pointed (point : Bool) (whole fraction : List Char) : List Char :=
  if fraction.isEmpty && !point then whole else whole ++ '.' :: fraction

def positional (places : Nat) (point : Bool) (n : Nat) : List Char :=
  pointed point (digitChars n) (zeros places)

/-- The first digits of a number, `places` of them after the leading one, rounded to even, and the
exponent of the leading one. -/
def leadingDigits (places n : Nat) : List Char × Nat :=
  let e := digitCount n - 1
  let c := if places ≤ e then roundEven n (Nat.pow 10 (e - places)) else n * Nat.pow 10 (places - e)
  let ds := digitChars c
  if places + 1 < ds.length then (ds.dropLast, e + 1)
  else (ds ++ zeros (places + 1 - ds.length), e)

def exponential (places : Nat) (point : Bool) (n : Nat) : List Char :=
  let (ds, e) := leadingDigits places n
  pointed point (ds.take 1) (ds.drop 1) ++ exponentChars floatLayout e

def withoutEndZeros (ds : List Char) : List Char :=
  (ds.reverse.dropWhile (· == '0')).reverse

/-- Positional if the digits reach the point, with an exponent otherwise; with no zeros at the end
of the fraction, unless the point is asked for. -/
def plainer (digits : Nat) (point : Bool) (n : Nat) : List Char :=
  let (ds, e) := leadingDigits (digits - 1) n
  let fraction (cs : List Char) := if point then cs else withoutEndZeros cs
  if e < max 1 digits then pointed point (ds.take (e + 1)) (fraction (ds.drop (e + 1)))
  else pointed point (ds.take 1) (fraction (ds.drop 1)) ++ exponentChars floatLayout e

end Number
end RemoteScreen
