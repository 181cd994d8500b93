import RemoteScreen.Text.Quoted

/-! The program's own kinds of error, and the wider kinds that each belongs to. -/
namespace RemoteScreen

inductive ErrorKind where
  | program | fetch | transport | decode | registry
  deriving DecidableEq, Repr

namespace ErrorKind

def name : ErrorKind → String
  | program => "PysduiError"
  | fetch => "FetchError"
  | transport => "TransportError"
  | decode => "DecodeError"
  | registry => "RegistryError"

def all : List ErrorKind := [program, fetch, transport, decode, registry]

def ofName? (s : String) : Option ErrorKind := all.find? fun k => k.name == s

/-- The kinds of a program that are wider than all of its own. -/
def general : List String := ["Exception", "BaseException"]

/-- The names of the kinds that an error belongs to, the narrowest first. -/
def lineage (k : ErrorKind) : List String :=
  (match k with
    | program => [program.name]
    | fetch => [fetch.name, program.name]
    | transport => [transport.name, fetch.name, program.name]
    | decode => [decode.name, fetch.name, program.name]
    | registry => [registry.name, program.name, "ValueError"]) ++ general

@[simp] theorem lineage_head (k : ErrorKind) : k.lineage.head? = some k.name := by
  cases k <;> rfl

/-- What an error says that was given some texts: the only one, or all of them, quoted. -/
def wording : List String → String
  | [] => ""
  | [t] => t
  | ts => "(" ++ ", ".intercalate (ts.map Text.quote) ++ ")"

/-- Why an error cannot be made of so many texts, and a status if it is given one. Trouble on the
way takes one text and may have a status; other errors take any texts and no status. -/
def refusal? (k : ErrorKind) (texts : Nat) (withStatus : Bool) : Option String :=
  if k = transport then
    let maker := s!"{k.name}.__init__()"
    match texts with
    | 0 => some s!"{maker} missing 1 required positional argument: 'message'"
    | 1 => none
    | n =>
      let extra := if withStatus then " positional arguments (and 1 keyword-only argument)" else ""
      some s!"{maker} takes 2 positional arguments but {n + 1}{extra} were given"
  else if withStatus then some s!"{k.name}() takes no keyword arguments"
  else none

end ErrorKind
end RemoteScreen
