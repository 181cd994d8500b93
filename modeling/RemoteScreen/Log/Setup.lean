import RemoteScreen.Journal
import RemoteScreen.Log.Level
import RemoteScreen.Log.Style
import RemoteScreen.Text.Utf8

/-! Setting up the log: which handlers stand on the program's logger, what a repeated setup changes,
and where the lines go. -/
namespace RemoteScreen
namespace Log

/-- Where a handler writes. Foreign handlers belong to the surrounding program. -/
inductive Output where
  | console
  | file (path : String) (mode : FileMode)
  | foreign
  deriving DecidableEq, Repr

structure Handler where
  serial : Nat
  output : Output
  level : Level
  style : Style
  deriving DecidableEq, Repr

/-- What a setup asks for. -/
structure Demand where
  level : Level
  console : Bool
  file : Option String
  mode : FileMode
  style : Style
  quiet : Bool
  deriving DecidableEq, Repr

/-- Demands that have the same effect; a level counts by its number. -/
def Demand.agrees (a b : Demand) : Bool :=
  a.level.value == b.level.value && a.console == b.console && a.file == b.file &&
    a.mode == b.mode && a.style == b.style && a.quiet == b.quiet

/-- The libraries whose loggers are kept quiet. -/
def noisyLibraries : List String := ["httpx", "httpcore", "PIL"]

def defaultFormat : String := "%(asctime)s [%(levelname)s] %(name)s: %(message)s"

def defaultDate : String := "%Y-%m-%d %H:%M:%S"

/-- The level that counts where no logger on the way has one of its own. -/
def rootLevel : Int := 30

structure Setup where
  level : Level := .number 0
  /-- The handlers on the logger, in order. -/
  handlers : List Handler := []
  /-- The handlers that a setup put there. -/
  installed : List Handler := []
  /-- The serial numbers of handlers that were closed, in order. -/
  closed : List Nat := []
  nextSerial : Nat := 0
  accepted : Option Demand := none
  libraryLevel : Int := 0
  files : List (String × Text.Utf8.Octets) := []
  /-- How many octets each handler has written to its file, by serial number. -/
  written : List (Nat × Nat) := []
  console : String := ""

namespace Demand

def ofSettings (s : Option Settings) : Except Failure Demand := do
  let level ← Level.ofValue (Settings.first s ["logging.level", "log_level"] (.text "INFO"))
  let file := Settings.first s ["logging.file", "log_file"] .null
  .ok {
    level
    console := (Settings.first s ["logging.console", "log_console"] (.bool true)).truth
    file := if file.truth then some file.display else none
    mode := FileMode.ofValue (Settings.first s ["logging.file_mode", "log_file_mode"] (.text "a"))
    style := {
      format := (Settings.first s ["logging.format", "log_format"] (.text defaultFormat)).display
      date := (Settings.first s ["logging.datefmt", "log_datefmt"] (.text defaultDate)).display }
    quiet := (Settings.first s ["logging.quiet_libraries"] (.bool true)).truth }

end Demand

/-! Files -/

/-- The parts of a path, without the steps that lead nowhere. -/
def pathParts (path : String) : List String :=
  ((path.toList.splitOn '/').map String.ofList).foldl (fun acc part =>
    if part = "" ∨ part = "." then acc
    else if part = ".." then acc.dropLast
    else acc ++ [part]) []

def normalPath (path : String) : String := "/".intercalate (pathParts path)

namespace Setup

def isFile (s : Setup) (parts : List String) : Bool :=
  s.files.any fun f => f.1 == "/".intercalate parts

/-- A directory holds at least one file, or is the working directory. -/
def isDirectory (s : Setup) (parts : List String) : Bool :=
  parts.isEmpty || s.files.any fun f => ("/".intercalate parts ++ "/").toList.isPrefixOf f.1.toList

/-- Why the directory of a file cannot be had, if it cannot: a file stands in its place, or on the
way to it, and then the first directory below that file is the one refused. -/
def directoryError? (s : Setup) (parts : List String) : Option FileError :=
  if s.isFile parts then some (.fileExists ("/".intercalate parts))
  else
    ((List.range parts.length).find? fun n => s.isFile (parts.take n)).map fun n =>
      .notDirectory ("/".intercalate (parts.take (n + 1)))

def held (s : Setup) (path : String) : Text.Utf8.Octets := (s.files.lookup path).getD []

def putFile (s : Setup) (path : String) (octets : Text.Utf8.Octets) : Setup :=
  { s with files := Json.putEntry path octets s.files }

def writeFile (s : Setup) (path text : String) : Setup :=
  s.putFile (normalPath path) (Text.Utf8.encode text.toList)

/-- Opens a log file. It exists afterwards; whether it keeps what it held depends on the mode. -/
def openFile (s : Setup) (path : String) (mode : FileMode) : Except FileError Setup :=
  let parts := pathParts path
  match s.directoryError? parts.dropLast with
  | some e => .error e
  | none =>
    if s.isDirectory parts then .error (.isDirectory (normalPath path))
    else
      let path := normalPath path
      .ok (s.putFile path (match mode with | .append => s.held path | .replace => []))

/-! Handlers -/

/-- Takes the installed handlers off the logger and closes them. -/
def removeInstalled (s : Setup) : Setup :=
  { s with
    handlers := s.handlers.filter fun h => !s.installed.contains h
    closed := s.closed ++ s.installed.map Handler.serial
    installed := [] }

def install (s : Setup) (output : Output) (level : Level) (style : Style) : Setup :=
  let h : Handler := ⟨s.nextSerial, output, level, style⟩
  { s with
    handlers := s.handlers ++ [h]
    installed := s.installed ++ [h]
    nextSerial := s.nextSerial + 1 }

/-- A handler of the surrounding program. -/
def addForeign (s : Setup) (level : Level) (style : Style) : Setup :=
  { s with
    handlers := s.handlers ++ [⟨s.nextSerial, .foreign, level, style⟩]
    nextSerial := s.nextSerial + 1 }

def installConsole (s : Setup) (d : Demand) : Setup :=
  if d.console then s.install .console d.level d.style else s

/-- The old handlers go, and the console handler stands, before the file is opened. -/
def installAll (s : Setup) (d : Demand) : Setup × Except Failure Unit :=
  let s := ({ s with level := d.level }.removeInstalled).installConsole d
  match d.file with
  | none => (s, .ok ())
  | some path =>
    match s.openFile path d.mode with
    | .error e => (s, .error (.fileRefused e))
    | .ok s => (s.install (.file (normalPath path) d.mode) d.level d.style, .ok ())

/-- A demand that agrees with the last accepted one changes nothing. -/
def apply (s : Setup) (d : Demand) : Setup × Except Failure Unit :=
  if s.accepted.any fun a => a.agrees d then (s, .ok ())
  else if !d.style.isValid then (s, .error (.wrongFormat d.style.format))
  else
    match s.installAll d with
    | (s, .error e) => (s, .error e)
    | (s, .ok ()) =>
      ({ s with libraryLevel := if d.quiet then 30 else 0, accepted := some d }, .ok ())

def init (s : Setup) (settings : Option Settings) : Setup × Except Failure Unit :=
  match Demand.ofSettings settings with
  | .error e => (s, .error e)
  | .ok d => s.apply d

/-- Removes what was installed, and forgets that anything was. -/
def reset (s : Setup) : Setup := { s.removeInstalled with accepted := none }

/-! Lines -/

/-- Whether a logger is the program's own or below it. -/
def ownLogger (logger : String) : Bool :=
  logger == baseLogger || (baseLogger ++ ".").toList.isPrefixOf logger.toList

/-- The level below which the program's loggers say nothing. -/
def threshold (s : Setup) : Int := if s.level.value = 0 then rootLevel else s.level.value

def fieldOf (logger : String) (level : Int) (date text : String) (name : String) : FieldValue :=
  if name = "name" then .text logger
  else if name = "levelname" then .text (Level.nameOf level)
  else if name = "levelno" then .number level
  else if name = "asctime" then .text date
  else .text text

/-- Puts octets at a place, over those that stand there. Zeros fill what lies between the end and
the place. -/
def overwrite (held : Text.Utf8.Octets) (place : Nat) (octets : Text.Utf8.Octets) :
    Text.Utf8.Octets :=
  held.take place ++ List.replicate (place - held.length) 0 ++ octets ++
    held.drop (place + octets.length)

/-- A handler that replaced what its file held goes on where it stopped, whatever has become of the
file; others write at the end. -/
def emitFile (s : Setup) (serial : Nat) (path : String) (mode : FileMode)
    (octets : Text.Utf8.Octets) : Setup :=
  let held := s.held path
  match mode with
  | .append => s.putFile path (held ++ octets)
  | .replace =>
    let place := (s.written.lookup serial).getD 0
    { s.putFile path (overwrite held place octets) with
      written := (serial, place + octets.length) :: s.written.filter fun e => e.1 != serial }

def emit (s : Setup) (h : Handler) (line : String) : Setup :=
  match h.output with
  | .console => { s with console := s.console ++ line }
  | .file path mode => s.emitFile h.serial path mode (Text.Utf8.encode line.toList)
  | .foreign => s

/-- Gives a text to every handler that takes its level. -/
def write (s : Setup) (logger : String) (level : Int) (text : String) : Setup :=
  if ownLogger logger && 0 < level && s.threshold ≤ level then
    s.handlers.foldl (fun s h =>
      if h.level.value ≤ level then
        s.emit h (h.style.line (fieldOf logger level h.style.date text) ++ "\n")
      else s) s
  else s

end Setup

/-- The name of the logger of a part; no name, or an empty one, means the program as a whole. -/
def loggerOf (part : Option String) : String :=
  match part with
  | some p => if p = "" then appLogger else partLogger p
  | none => appLogger

end Log
end RemoteScreen
