/-! UTF-8: characters to octets, and octets back to characters or to the place of the first fault.
-/
namespace RemoteScreen
namespace Text
namespace Utf8

abbrev Octets := List UInt8

def encode (cs : List Char) : Octets := cs.flatMap String.utf8EncodeChar

@[simp] theorem encode_nil : encode [] = [] := rfl

@[simp] theorem encode_cons (c : Char) (cs : List Char) :
    encode (c :: cs) = String.utf8EncodeChar c ++ encode cs := rfl

def isTail (b : UInt8) : Bool := 0x80 ≤ b && b < 0xC0

/-- The character at the front and what follows it. Overlong forms, surrogates and values past
U+10FFFF have no reading. -/
def step? : Octets → Option (Char × Octets)
  | [] => none
  | a :: rest =>
    if a < 0x80 then some (Char.ofNat a.toNat, rest)
    else if a < 0xC2 then none
    else if a < 0xE0 then
      match rest with
      | b :: rest =>
        if isTail b then some (Char.ofNat ((a.toNat - 0xC0) * 64 + (b.toNat - 0x80)), rest)
        else none
      | _ => none
    else if a < 0xF0 then
      match rest with
      | b :: c :: rest =>
        if isTail b && isTail c && !(a == 0xE0 && b < 0xA0) && !(a == 0xED && 0xA0 ≤ b) then
          some (Char.ofNat ((a.toNat - 0xE0) * 4096 + (b.toNat - 0x80) * 64 + (c.toNat - 0x80)),
            rest)
        else none
      | _ => none
    else if a < 0xF5 then
      match rest with
      | b :: c :: d :: rest =>
        if isTail b && isTail c && isTail d && !(a == 0xF0 && b < 0x90) &&
            !(a == 0xF4 && 0x90 ≤ b) then
          some (Char.ofNat ((a.toNat - 0xF0) * 262144 + (b.toNat - 0x80) * 4096 +
            (c.toNat - 0x80) * 64 + (d.toNat - 0x80)), rest)
        else none
      | _ => none
    else none

theorem length_step? {s rest : Octets} {c : Char} (h : step? s = some (c, rest)) :
    rest.length < s.length := by
  unfold step? at h
  split at h
  · simp at h
  · repeat' split at h
    all_goals simp_all
    all_goals obtain ⟨_, rfl⟩ := h
    all_goals omega

/-- Reads all characters; a fault gives the number of octets from the faulty one to the end. -/
def decode (s : Octets) : Except Nat (List Char) :=
  match s with
  | [] => .ok []
  | b :: s =>
    match h : step? (b :: s) with
    | none => .error (s.length + 1)
    | some (c, rest) =>
      have : rest.length < s.length + 1 := length_step? h
      (decode rest).map (c :: ·)
termination_by s.length

end Utf8
end Text
end RemoteScreen
