import RemoteScreen.Settings
import RemoteScreen.Text.Case

/-! Log levels: numbers, their names, and the level that a setting asks for. -/
namespace RemoteScreen

/-- A level keeps the form it was given in. -/
inductive Level where
  | number (n : Int)
  | flag (b : Bool)
  deriving DecidableEq, Repr

namespace Level

def value : Level → Int
  | number n => n
  | flag b => if b then 1 else 0

def info : Level := number 20

/-- The names of levels that a setting may use. -/
def names : List (String × Int) := [
  ("CRITICAL", 50), ("FATAL", 50), ("ERROR", 40), ("WARN", 30), ("WARNING", 30), ("INFO", 20),
  ("DEBUG", 10), ("NOTSET", 0)]

/-- How a log line names a level. -/
def nameOf (n : Int) : String :=
  if n = 50 then "CRITICAL"
  else if n = 40 then "ERROR"
  else if n = 30 then "WARNING"
  else if n = 20 then "INFO"
  else if n = 10 then "DEBUG"
  else if n = 0 then "NOTSET"
  else s!"Level {n}"

/-- A text that shows digits alone is taken for a number; it is read with its letters in upper case,
which leaves digits as they are. Other texts are names, and what is no name means `info`. -/
def ofText (s : String) : Except Number.NumeralError Level :=
  let name := Text.upper (Text.strip s)
  if name ≠ "" ∧ name.toList.all Text.isDigitLike then (Number.whole name).map number
  else .ok (((names.lookup name).map number).getD info)

def ofValue : Value → Except Failure Level
  | .bool b => .ok (flag b)
  | .int n => .ok (number n)
  | .text s => (ofText s).mapError fun e => .value (.numeral e)
  | _ => .ok info

end Level

/-- How a log file is opened: what it holds stays, or goes. -/
inductive FileMode where
  | append | replace
  deriving DecidableEq, Repr

namespace FileMode

def name : FileMode → String
  | append => "a"
  | replace => "w"

/-- Only a text that says to replace does. -/
def ofValue : Value → FileMode
  | .text s => if Text.lower (Text.strip s) = "w" then replace else append
  | _ => append

end FileMode
end RemoteScreen
