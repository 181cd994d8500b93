import RemoteScreen.Image.Source

/-! Images in segments, each behind a marker: the octet 255 and another. The points are not read, as
only the size of the image counts; their scan has to end with its marker. -/
namespace RemoteScreen
namespace Image
namespace Jpeg

def signature : Octets := [0xFF, 0xD8, 0xFF]

def accepts (octets : Octets) : Bool := signature.isPrefixOf octets

/-- What is known of an image before its points come: the tables that its layers need, and those
that there are. -/
structure Header where
  size : Size := ⟨0, 0⟩
  needed : List UInt8 := []
  tables : List UInt8 := []

def flag : UInt8 := 0xFF

/-- The octets that are a marker behind a flag. Those below are none. -/
def firstMarker : UInt8 := 0xC0

/-- The markers of a scan and of tables, and the one that ends the image. -/
def scanMarker : UInt8 := 0xDA

def tableMarker : UInt8 := 0xDB

def endMarker : UInt8 := 0xD9

/-- Markers of frames tell the size of an image. -/
def isFrame (marker : UInt8) : Bool :=
  let isOther := [0xC4, 0xC8, 0xCC].contains marker
  (0xC0 ≤ marker && marker ≤ 0xCF && !isOther) || marker == 0xDE

/-- Markers without a segment. -/
def isAlone (marker : UInt8) : Bool :=
  marker == 0xC8 || (0xD0 ≤ marker && marker ≤ 0xD9) || (0xF0 ≤ marker && marker ≤ 0xFD)

/-- A segment, whose length counts itself, and what follows it. -/
def segment (octets : Octets) : Read (Octets × Octets) :=
  match octets with
  | a :: b :: rest =>
    match takeExactly? (ofBig [a, b] - 2) rest with
    | some r => .ok r
    | none => .error .truncated
  | _ => .error .unidentified

theorem length_rest_of_segment {octets body rest : Octets} (h : segment octets = .ok (body, rest)) :
    rest.length < octets.length := by
  match octets with
  | [] => simp [segment] at h
  | [_] => simp [segment] at h
  | a :: b :: r =>
    simp only [segment, takeExactly?] at h
    split at h
    · rename_i p hp
      split at hp
      · cases hp
        cases h
        simp only [List.length_drop, List.length_cons]
        omega
      · cases hp
    · cases h

/-- The layers of a frame, three octets each; the last tells the table that the layer needs. -/
def layers? : Octets → Option (List UInt8)
  | [] => some []
  | _ :: _ :: table :: rest => (layers? rest).map (table :: ·)
  | _ => none

/-- A frame has one, three or four layers of eight bits. -/
def Header.frame (h : Header) : Octets → Read Header
  | depth :: a :: b :: c :: d :: count :: layers =>
    match layers? layers with
    | some needed =>
      if depth = 8 ∧ (count = 1 ∨ count = 3 ∨ count = 4) then
        .ok { h with size := ⟨ofBig [c, d], ofBig [a, b]⟩, needed }
      else .error .unidentified
    | none => .error .unidentified
  | _ => .error .unidentified

/-- The octets of a table behind the one that tells its number: 64 numbers of one octet or of two.
-/
def tableOctets (kind : UInt8) : Nat := if kind < 16 then 64 else 128

def Header.readTables (h : Header) : Octets → Read Header
  | [] => .ok h
  | kind :: rest =>
    if rest.length < tableOctets kind then .error .unidentified
    else readTables { h with tables := (kind &&& 15) :: h.tables } (rest.drop (tableOctets kind))
termination_by octets => octets.length
decreasing_by
  simp only [List.length_drop, List.length_cons]
  omega

def Header.read (h : Header) (marker : UInt8) (body : Octets) : Read Header :=
  if isFrame marker then h.frame body
  else if marker = tableMarker then h.readTables body
  else .ok h

/-- Reads segments up to the first scan. `flagged` says that the octet before was a flag; other
octets between the segments are passed over. -/
def opened (h : Header) : (flagged : Bool) → Octets → Read (Header × Octets)
  | _, [] => .error .unidentified
  | false, x :: rest => opened h (x == flag) rest
  | true, x :: rest =>
    if x = flag then opened h true rest
    else if x = 0 then opened h false rest
    else if x < firstMarker then .error .unidentified
    else if isAlone x then opened h false rest
    else
      match step : segment rest with
      | .error e => .error e
      | .ok (body, after) =>
        have := length_rest_of_segment step
        if x = scanMarker then .ok (h, after)
        else match h.read x body with
          | .error e => .error e
          | .ok h => opened h false after
termination_by _ octets => octets.length

def ends : Octets → Bool
  | a :: b :: rest => (a == flag && b == endMarker) || ends (b :: rest)
  | _ => false

/-- The size of an image that has all its tables and comes to an end. -/
def read (octets : Octets) : Read Size := do
  let (h, rest) ← opened {} true (octets.drop signature.length)
  if h.size.width = 0 ∨ h.size.height = 0 then throw .unidentified
  let size ← checkPoints h.size
  if h.needed.all h.tables.contains && ends rest then .ok size else .error .truncated

end Jpeg
end Image
end RemoteScreen
