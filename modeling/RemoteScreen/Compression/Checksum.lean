/-! Checksums of octets: two running sums, and the remainder by a polynomial. -/
namespace RemoteScreen
namespace Compression

def sumModulus : Nat := 65521

/-- The sum of the octets and the sum of those sums, side by side. -/
def runningSums (octets : List UInt8) : Nat :=
  let (a, b) := octets.foldl (fun (a, b) x =>
    let a := (a + x.toNat) % sumModulus
    (a, (b + a) % sumModulus)) (1, 0)
  b * 65536 + a

def polynomial : UInt32 := 0xEDB88320

def divideStep (x : UInt32) : UInt32 := if x &&& 1 = 1 then (x >>> 1) ^^^ polynomial else x >>> 1

def divideOctet (x : UInt32) (octet : UInt8) : UInt32 :=
  (List.range 8).foldl (fun x _ => divideStep x) (x ^^^ octet.toUInt32)

def remainder (octets : List UInt8) : Nat :=
  ((octets.foldl divideOctet 0xFFFFFFFF) ^^^ 0xFFFFFFFF).toNat

end Compression
end RemoteScreen
