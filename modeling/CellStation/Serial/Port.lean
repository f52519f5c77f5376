import CellStation.Serial.Link

/-!
# Serial lines over a host port

A port of the host as the operating system offers it, and the serial line made of it.
The line treats a read or write that timed out as one that moved no byte, and reports as
writable what a chunk of fixed size leaves after the bytes still queued.
-/

namespace CellStation

/-- Why a read or write on a port failed. -/
inductive FaultKind where
  | timedOut
  | wouldBlock
  | interrupted
  | brokenPipe
  | other
  deriving DecidableEq, Repr

/-- A failed read or write on a port. -/
structure TransferFault where
  kind : FaultKind
  reason : String
  deriving DecidableEq, Repr

/-- What the host offers on a port with state `π`. An order that fails gives its reason. -/
class SerialPort (π : Type) where
  setBaudRate : UInt32 → π → Except String Unit × π
  bytesToRead : π → Except String Nat × π
  read : Nat → π → Except TransferFault (List UInt8) × π
  write : List UInt8 → π → Except TransferFault Nat × π
  bytesToWrite : π → Except String Nat × π

/-- A serial line over a port of the host. -/
structure HostLine (π : Type) where
  port : π
  writeChunk : Nat

namespace HostLine

variable {π : Type}

/-- The answer to a read or write, where a time-out counts as nothing moved. -/
def settle {α : Type} (nothing : α) : Except TransferFault α → Except Error α
  | .ok answer => .ok answer
  | .error fault =>
    if fault.kind = .timedOut then .ok nothing else .error (.transfer fault.reason)

instance [SerialPort π] : SerialLink (HostLine π) where
  setBaud baud line :=
    let (answer, port) := SerialPort.setBaudRate baud line.port
    (answer.mapError .serial, { line with port })
  available line :=
    let (answer, port) := SerialPort.bytesToRead line.port
    (answer.mapError .serial, { line with port })
  read size line :=
    let (answer, port) := SerialPort.read size line.port
    (settle [] answer, { line with port })
  write bytes line :=
    let (answer, port) := SerialPort.write bytes line.port
    (settle 0 answer, { line with port })
  writable line :=
    let (answer, port) := SerialPort.bytesToWrite line.port
    (line.writeChunk - answer.toOption.getD 0, { line with port })

end HostLine

end CellStation
