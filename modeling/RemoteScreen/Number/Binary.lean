/-! Floating-point numbers by their parts, and the number nearest to a quotient. -/
namespace RemoteScreen
namespace Number

/-- A sign with nothing, an infinity, or a magnitude `m * 2 ^ e`. -/
inductive Parts where
  | nan
  | infinite (negative : Bool)
  | finite (negative : Bool) (m : Nat) (e : Int)
  deriving DecidableEq, Repr

def fractionBits : Nat := 52

def lowestExponent : Int := -1074

def parts (x : Float) : Parts :=
  let bits := x.toBits.toNat
  let negative := bits / Nat.pow 2 63 == 1
  let e := bits / Nat.pow 2 fractionBits % 2048
  let f := bits % Nat.pow 2 fractionBits
  if e = 2047 then
    if f = 0 then .infinite negative else .nan
  else if e = 0 then .finite negative f lowestExponent
  else .finite negative (Nat.pow 2 fractionBits + f) (e + lowestExponent - 1)

/-- The float with a given sign and magnitude, or an infinity where that is too large. -/
def ofParts (negative : Bool) (m : Nat) (e : Int) : Float :=
  let sign := if negative then Nat.pow 2 63 else 0
  let bits :=
    if m < Nat.pow 2 fractionBits then m
    else
      let biased := (e - lowestExponent + 1).toNat
      if 2047 ≤ biased then 2047 * Nat.pow 2 fractionBits
      else biased * Nat.pow 2 fractionBits + (m - Nat.pow 2 fractionBits)
  Float.ofBits (sign + bits).toUInt64

/-- `num / den` in units of `2 ^ e`, as a quotient of whole numbers. -/
def scaled (num den : Nat) (e : Int) : Nat × Nat :=
  if 0 ≤ e then (num, den * Nat.pow 2 e.toNat) else (num * Nat.pow 2 (-e).toNat, den)

/-- The whole number nearest to a quotient; of two, the even one. -/
def roundEven (num den : Nat) : Nat :=
  let q := num / den
  let r := num % den
  if 2 * r < den then q
  else if den < 2 * r then q + 1
  else if q % 2 = 0 then q else q + 1

/-- The exponent that gives a quotient a full fraction, or the lowest one. -/
def exponentFor (num den : Nat) : Int :=
  let guess : Int := (num.log2 : Int) - den.log2 - fractionBits
  let (n, d) := scaled num den guess
  let e := if n / d < Nat.pow 2 fractionBits then guess - 1 else guess
  max e lowestExponent

/-- The float nearest to a quotient; of two, the even one. -/
def nearest (negative : Bool) (num den : Nat) : Float :=
  if num = 0 then ofParts negative 0 lowestExponent
  else
    let e := exponentFor num den
    let (n, d) := scaled num den e
    let m := roundEven n d
    if m = Nat.pow 2 (fractionBits + 1) then ofParts negative (Nat.pow 2 fractionBits) (e + 1)
    else ofParts negative m e

def isInfinite (x : Float) : Bool :=
  match parts x with
  | .infinite _ => true
  | _ => false

def ofInt (n : Int) : Float := nearest (n < 0) n.natAbs 1

/-- The whole part of a finite number, towards zero. -/
def truncate? (x : Float) : Option Int :=
  match parts x with
  | .finite negative m e =>
    let (n, d) := scaled m 1 (-e)
    let whole : Nat := n / d
    some (if negative then -(whole : Int) else whole)
  | _ => none

end Number
end RemoteScreen
