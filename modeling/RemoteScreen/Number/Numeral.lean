import RemoteScreen.Number.Binary
import RemoteScreen.Text.Blank
import RemoteScreen.Text.Digit
import RemoteScreen.Text.Quoted

/-! Numerals: texts that denote whole numbers or floats. Digits of every script count, white space
around a numeral does not, and a low line may stand between two digits. -/
namespace RemoteScreen
namespace Number

open Text (digitValue? isDecimalDigit trimBy isMargin quote)

inductive NumeralError where
  | notWhole (text : String)
  | notFloat (text : String)
  | tooLong (digits : Nat)
  deriving DecidableEq, Repr

/-- The most digits that a whole number may have. -/
def maxDigits : Nat := 4300

/-- How much of a quoted text a message about a whole number holds. -/
def shownChars : Nat := 200

def NumeralError.message : NumeralError → String
  | .notWhole text =>
    s!"invalid literal for int() with base 10: {String.ofList ((quote text).toList.take shownChars)}"
  | .notFloat text => s!"could not convert string to float: {quote text}"
  | .tooLong digits =>
    s!"Exceeds the limit ({maxDigits} digits) for integer string conversion: value has {digits} digits; use sys.set_int_max_str_digits() to increase the limit"

def sign : List Char → Bool × List Char
  | '-' :: cs => (true, cs)
  | '+' :: cs => (false, cs)
  | cs => (false, cs)

/-- A run of digits in which single low lines may stand between digits: the values of the digits and
the rest. -/
def digitRun : List Char → List Nat × List Char
  | [] => ([], [])
  | c :: cs =>
    match digitValue? c with
    | none => ([], c :: cs)
    | some v =>
      match cs with
      | '_' :: d :: ds =>
        if isDecimalDigit d then
          let (vs, rest) := digitRun (d :: ds)
          (v :: vs, rest)
        else ([v], cs)
      | cs =>
        let (vs, rest) := digitRun cs
        (v :: vs, rest)

def ofDigits (vs : List Nat) : Nat := vs.foldl (fun n v => n * 10 + v) 0

def signed (negative : Bool) (n : Nat) : Int := if negative then -(n : Int) else n

def whole (s : String) : Except NumeralError Int :=
  let (negative, cs) := sign (trimBy isMargin s.toList)
  let (vs, rest) := digitRun cs
  if vs = [] then .error (.notWhole s)
  else if maxDigits < vs.length ∧ rest.head? ≠ some '_' then .error (.tooLong vs.length)
  else if rest ≠ [] then .error (.notWhole s)
  else .ok (signed negative (ofDigits vs))

/-- The float `coefficient * 10 ^ exponent`. Exponents far outside the range of floats need no
exact work. -/
def ofDecimal (negative : Bool) (digits : List Nat) (exponent : Int) : Float :=
  let digits := digits.dropWhile (· == 0)
  let lead := exponent + digits.length
  if digits = [] ∨ lead < -400 then nearest negative 0 1
  else if 400 < lead then nearest negative (Nat.pow 10 400) 1
  else if 0 ≤ exponent then nearest negative (ofDigits digits * Nat.pow 10 exponent.toNat) 1
  else nearest negative (ofDigits digits) (Nat.pow 10 (-exponent).toNat)

/-- What follows the digits of a float: nothing, or an exponent. -/
def exponent? : List Char → Option Int
  | [] => some 0
  | c :: cs =>
    if c = 'e' ∨ c = 'E' then
      let (negative, cs) := sign cs
      match digitRun cs with
      | (v :: vs, []) => some (signed negative (ofDigits (v :: vs)))
      | _ => none
    else none

def fractionRun : List Char → List Nat × List Char
  | '.' :: cs => digitRun cs
  | cs => ([], cs)

def wordFloat? (negative : Bool) (cs : List Char) : Option Float :=
  let name := String.ofList (cs.map Char.toLower)
  if name = "inf" ∨ name = "infinity" then some (nearest negative (Nat.pow 10 400) 1)
  else if name = "nan" then some (Float.ofBits 0x7FF8000000000000)
  else none

def float (s : String) : Except NumeralError Float :=
  let (negative, cs) := sign (trimBy isMargin s.toList)
  match wordFloat? negative cs with
  | some x => .ok x
  | none =>
    let (before, rest) := digitRun cs
    let (after, rest) := fractionRun rest
    match exponent? rest with
    | some e =>
      if before = [] ∧ after = [] then .error (.notFloat s)
      else .ok (ofDecimal negative (before ++ after) (e - after.length))
    | none => .error (.notFloat s)

end Number
end RemoteScreen
