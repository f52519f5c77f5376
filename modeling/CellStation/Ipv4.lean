/-!
# Internet addresses
-/

namespace CellStation

/-- An IPv4 address, its first number first. -/
structure Ipv4 where
  a : UInt8
  b : UInt8
  c : UInt8
  d : UInt8
  deriving DecidableEq, Repr

namespace Ipv4

/-- The address that stands for none. -/
def unspecified : Ipv4 := ⟨0, 0, 0, 0⟩

/-- The four bytes on the wire. -/
def toBytes (ip : Ipv4) : List UInt8 := [ip.a, ip.b, ip.c, ip.d]

/-- Dotted text. -/
def text (ip : Ipv4) : String := s!"{ip.a}.{ip.b}.{ip.c}.{ip.d}"

end Ipv4

end CellStation
