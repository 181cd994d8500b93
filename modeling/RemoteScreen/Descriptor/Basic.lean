/-! Component descriptors: the tree that a server sends. A descriptor is data alone; what is shown
for it is decided when it is rendered. -/
namespace RemoteScreen

/-- Display texts by key. A key without a value acts as absent. -/
abbrev Properties := List (String × Option String)

/-- One node: an advisory id, an open-ended type tag, properties, and children where the type has
any. No children and an empty list of children are told apart. -/
structure Descriptor where
  id : String
  type : String
  properties : Properties
  children : Option (List Descriptor)
  deriving Inhabited

namespace Properties

def get (ps : Properties) (key default : String) : String :=
  ((ps.lookup key).join).getD default

@[simp] theorem get_nil (key default : String) : get [] key default = default := rfl

/-- Equal as maps, whatever the order of the entries. -/
def same (ps qs : Properties) : Bool :=
  ps.all (fun e => qs.lookup e.1 == some e.2) && qs.all (fun e => ps.lookup e.1 == some e.2)

end Properties

namespace Descriptor

def prop (d : Descriptor) (key : String) (default : String := "") : String :=
  Properties.get d.properties key default

def childList (d : Descriptor) : List Descriptor := d.children.getD []

mutual

/-- Equal as trees, with the properties of each node compared as maps. -/
def same : Descriptor → Descriptor → Bool
  | ⟨i, t, ps, cs⟩, ⟨j, u, qs, ds⟩ =>
    i == j && t == u && Properties.same ps qs && sameChildren cs ds

def sameChildren : Option (List Descriptor) → Option (List Descriptor) → Bool
  | none, none => true
  | some cs, some ds => sameList cs ds
  | _, _ => false

def sameList : List Descriptor → List Descriptor → Bool
  | [], [] => true
  | c :: cs, d :: ds => same c d && sameList cs ds
  | _, _ => false

end

end Descriptor
end RemoteScreen
