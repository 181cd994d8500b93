/-! Numeric addresses: four numbers with points between them, or eight groups of hexadecimal digits
with colons between them. -/
namespace RemoteScreen
namespace Host

def splitPoints (cs : List Char) : List (List Char) := cs.splitOn '.'

/-- Four runs of digits look like an address. -/
def looksNumeric (cs : List Char) : Bool :=
  let parts := splitPoints cs
  parts.length == 4 && parts.all fun p => !p.isEmpty && p.all Char.isDigit

/-- A number up to 255, without needless zeros. -/
def isOctet (cs : List Char) : Bool :=
  !cs.isEmpty && cs.all Char.isDigit && cs.length ≤ 3 && (cs.length == 1 || cs.head? != some '0') &&
    cs.foldl (fun n c => n * 10 + (c.toNat - 48)) 0 ≤ 255

def isShortAddress (cs : List Char) : Bool :=
  let parts := splitPoints cs
  parts.length == 4 && parts.all isOctet

def isHexDigit (c : Char) : Bool :=
  c.isDigit || ('a' ≤ c && c ≤ 'f') || ('A' ≤ c && c ≤ 'F')

/-- Up to four hexadecimal digits. -/
def isGroup (cs : List Char) : Bool := !cs.isEmpty && cs.length ≤ 4 && cs.all isHexDigit

/-- The last two groups may be given as a short address: it stands for two groups. -/
def spreadLast (parts : List (List Char)) : Option (List (List Char)) :=
  match parts.getLast? with
  | some last =>
    if last.contains '.' then
      if isShortAddress last then some (parts.dropLast ++ [['0'], ['0']]) else none
    else some parts
  | none => none

/-- The number of groups in an address. -/
def groupCount : Nat := 8

/-- Groups on one side of a gap. An empty one counts only as the outer end of the gap itself. -/
def sideFits (outer : Option (List Char)) (groups : List (List Char)) : Bool :=
  (outer == some [] && groups.length == 1) || groups.all isGroup

/-- Eight groups, or fewer around one gap: an empty group that is neither the first nor the last. -/
def groupsFit (parts : List (List Char)) : Bool :=
  let inner := (parts.drop 1).dropLast
  if parts.length < 3 ∨ groupCount + 1 < parts.length then false
  else
    match inner.findIdx? List.isEmpty with
    | none => parts.length == groupCount && parts.all isGroup
    | some i =>
      let before := parts.take (i + 1)
      let after := parts.drop (i + 2)
      let count (outer : Option (List Char)) (side : List (List Char)) : Nat :=
        if outer = some [] then side.length - 1 else side.length
      sideFits parts.head? before && sideFits parts.getLast? after &&
        count parts.head? before + count parts.getLast? after < groupCount

/-- The text after a percent sign names the network that an address is meant on. -/
def splitZone (cs : List Char) : List Char × Option (List Char) :=
  let (address, rest) := cs.span (· != '%')
  (address, match rest with | _ :: zone => some zone | [] => none)

def zoneFits : Option (List Char) → Bool
  | some zone => !zone.isEmpty && !zone.contains '%'
  | none => true

def isLongAddress (cs : List Char) : Bool :=
  let (address, zone) := splitZone cs
  let parts := address.splitOn ':'
  zoneFits zone && 3 ≤ parts.length && (spreadLast parts).any groupsFit

end Host
end RemoteScreen
