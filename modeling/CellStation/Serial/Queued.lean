import CellStation.Serial.Port

/-!
# Ports served from outside

A port that keeps two queues. Whoever serves the device puts what has arrived into the
first and takes what was written out of the second, so that the stack runs between two
such exchanges without waiting.
-/

namespace CellStation

/-- A port that only queues. -/
structure QueuedPort where
  /-- The last line rate that was asked for. -/
  baud : UInt32
  /-- Bytes that have arrived, the oldest first. -/
  inbound : List UInt8
  /-- Bytes that were written, the oldest first. -/
  outbound : List UInt8
  deriving DecidableEq, Repr

namespace QueuedPort

/-- A port at a line rate, with nothing in either queue. -/
def atRate (baud : UInt32) : QueuedPort := ⟨baud, [], []⟩

/-- Bytes arrive. -/
def arrive (port : QueuedPort) (bytes : List UInt8) : QueuedPort :=
  { port with inbound := port.inbound ++ bytes }

/-- Take what was written. -/
def collect (port : QueuedPort) : List UInt8 × QueuedPort :=
  (port.outbound, { port with outbound := [] })

instance : SerialPort QueuedPort where
  setBaudRate baud port := (.ok (), { port with baud })
  bytesToRead port := (.ok port.inbound.length, port)
  read size port := (.ok (port.inbound.take size), { port with inbound := port.inbound.drop size })
  write bytes port := (.ok bytes.length, { port with outbound := port.outbound ++ bytes })
  bytesToWrite port := (.ok port.outbound.length, port)

end QueuedPort

end CellStation
