/-!
# Sizes

The sizes that the modem's API mode and its AT commands fix.
-/

namespace CellStation

/-- Largest frame payload, the type byte not counted : room for a 1500 byte packet. -/
def maxPayload : Nat := 1536

/-- Bytes a frame adds around its payload : delimiter, two of length, type, checksum. -/
def frameOverhead : Nat := 5

/-- Longest access point name the modem accepts, in bytes. -/
def maxApnBytes : Nat := 49

/-- Bytes buffered in each direction : one frame of the largest size. -/
def bufferCapacity : Nat := maxPayload + frameOverhead

end CellStation
