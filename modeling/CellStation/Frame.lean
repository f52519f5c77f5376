import CellStation.Limits

/-!
# Frames

A frame is a type byte with a payload. On the wire it stands between a delimiter, a
length and a checksum, which `CellStation.Frame.Codec` adds and removes.
-/

namespace CellStation

/-- The byte that opens every frame on the wire. -/
def startDelimiter : UInt8 := 0x7E

/-- An untyped frame. -/
structure Frame where
  kind : UInt8
  payload : List UInt8
  deriving DecidableEq, Repr

namespace Frame

/-- The empty frame. No layout uses its type, so it reads as nothing. -/
def empty : Frame := ⟨0, []⟩

instance : Inhabited Frame := ⟨empty⟩

/-- Bytes of payload. -/
def payloadSize (frame : Frame) : Nat := frame.payload.length

/-- Bytes on the wire. -/
def wireSize (frame : Frame) : Nat := frame.payload.length + frameOverhead

/-- The frame with at most `size` bytes of its payload. -/
def truncate (frame : Frame) (size : Nat) : Frame :=
  { frame with payload := frame.payload.take size }

/-- The frame with a payload of `size` bytes : cut, or filled up with zeros. -/
def resize (frame : Frame) (size : Nat) : Frame :=
  { frame with
    payload := frame.payload.take size ++ List.replicate (size - frame.payloadSize) 0 }

end Frame

/-- The sum of the bytes, modulo 256. -/
def byteSum (bytes : List UInt8) : UInt8 := bytes.foldl (· + ·) 0

/-- The byte that brings the sum over type and payload to `0xFF`. -/
def checksum (kind : UInt8) (payload : List UInt8) : UInt8 :=
  0xFF - byteSum (kind :: payload)

end CellStation
