import RemoteScreen.Failure
import RemoteScreen.Json.Basic
import RemoteScreen.Text.Blank

/-! Settings: options laid over built-in defaults, and the environment laid over options. -/
namespace RemoteScreen

abbrev Options := Attributes

structure Settings where
  options : Option Options := none

namespace Settings

def defaultEndpoint : String := "https://oooop.free.beeceptor.com/components"

def defaults : Options := [
  ("endpoint", .text defaultEndpoint),
  ("timeout", .float 10.0),
  ("image_workers", .int 4),
  ("poll_ms", .int 50),
  ("theme", .text "equilux"),
  ("scrollable", .bool true)]

/-- An option that is given counts, even as null; then a built-in default; then the caller's. -/
def get (s : Settings) (key : String) (default : Value := .null) : Value :=
  match (s.options.getD []).lookup key with
  | some v => v
  | none => (defaults.lookup key).getD default

/-- Options with others written over them. -/
def overlay (base top : Options) : Options :=
  top.foldl (fun acc e => Json.putEntry e.1 e.2 acc) base

@[simp] theorem overlay_nil (base : Options) : overlay base [] = base := rfl

/-- The name that an override may not have. -/
def reservedKey : String := "self"

def merged (s : Settings) (overrides : Options) : Except Failure Settings :=
  if overrides.any fun e => e.1 == reservedKey then .error (.reservedOption reservedKey)
  else .ok ⟨some (overlay (s.options.getD []) overrides)⟩

/-- How the text of an environment variable becomes a value. -/
inductive Conversion where
  | text | float | whole
  deriving DecidableEq, Repr

def Conversion.apply? (c : Conversion) (s : String) : Option Value :=
  match c with
  | .text => some (.text s)
  | .float => (Number.float s).toOption.map .float
  | .whole => (Number.whole s).toOption.map .int

structure Variable where
  name : String
  key : String
  conversion : Conversion

def environmentVariables : List Variable := [
  ⟨"PYSDUI_ENDPOINT", "endpoint", .text⟩,
  ⟨"PYSDUI_TIMEOUT", "timeout", .float⟩,
  ⟨"PYSDUI_IMAGE_WORKERS", "image_workers", .whole⟩,
  ⟨"PYSDUI_THEME", "theme", .text⟩,
  ⟨"PYSDUI_LOG_LEVEL", "log_level", .text⟩]

/-- The value of a variable: none where it is not set, blank, or cannot be converted. -/
def Variable.value? (v : Variable) (environment : List (String × String)) : Option Value :=
  match environment.lookup v.name with
  | none => none
  | some raw => if Text.allBlank raw then none else v.conversion.apply? (Text.strip raw)

def fromEnvironment (environment : List (String × String)) (base : Option Options := none) :
    Settings :=
  ⟨some (environmentVariables.foldl (fun opts v =>
    match v.value? environment with
    | some x => Json.putEntry v.key x opts
    | none => opts) (base.getD []))⟩

/-- Settings made of a value: a map gives options, and nothing else does. -/
def ofValue? : Value → Option Settings
  | .map es => some ⟨some es⟩
  | _ => none

/-- The first of several options that is given and not null. -/
def first (s : Option Settings) (keys : List String) (default : Value) : Value :=
  match s with
  | none => default
  | some s => ((keys.map fun k => s.get k).find? fun v => !v.isNull).getD default

end Settings
end RemoteScreen
