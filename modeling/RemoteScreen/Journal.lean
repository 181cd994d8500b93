/-! Log records in the order they were written. -/
namespace RemoteScreen

inductive Severity where
  | debug | info | warning | error
  deriving DecidableEq, Repr

namespace Severity

def level : Severity → Int
  | debug => 10
  | info => 20
  | warning => 30
  | error => 40

def name : Severity → String
  | debug => "DEBUG"
  | info => "INFO"
  | warning => "WARNING"
  | error => "ERROR"

end Severity

def programName : String := "pysdui"

/-- The logger above all loggers of the program. -/
def baseLogger : String := programName

def appLogger : String := baseLogger ++ ".app"

/-- The logger of one part of the program. -/
def partLogger (part : String) : String := s!"{appLogger}.{part}"

structure Record where
  severity : Severity
  logger : String
  message : String
  deriving DecidableEq, Repr

def Record.line (r : Record) : String := s!"{r.severity.name} {r.logger} {r.message}"

/-- The records written so far, none of them below the threshold of its time. -/
structure Journal where
  threshold : Int := 0
  records : List Record := []

namespace Journal

def write (j : Journal) (r : Record) : Journal :=
  if j.threshold ≤ r.severity.level then { j with records := j.records ++ [r] } else j

def lines (j : Journal) : List String := j.records.map Record.line

end Journal
end RemoteScreen
