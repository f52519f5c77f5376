/-!
# Messaging engines

A messaging engine is driven one step at a time. In a step it sends and receives bytes
through a window : the room left in the frame being filled and the bytes not yet taken
from the frame that came in. What it does next may depend on each answer, so a step is a
tree of calls (`Session`). `Session.run` plays a step against a window.
-/

namespace CellStation

/-- A message that the engine hands to the application. -/
structure Message where
  topic : String
  payload : List UInt8
  qos : UInt8
  retain : Bool
  packetId : UInt16
  deriving DecidableEq, Repr

/-- The bytes that can be moved in one step. -/
structure Window where
  /-- Bytes that can still be sent. -/
  room : Nat
  /-- Bytes sent so far. -/
  sent : List UInt8
  /-- Bytes received and not yet taken. -/
  unread : List UInt8
  deriving DecidableEq, Repr

namespace Window

/-- Send as many of the bytes as there is room for; the answer is their count. -/
def send (window : Window) (bytes : List UInt8) : Nat × Window :=
  let taken := bytes.take window.room
  (taken.length,
    { window with room := window.room - taken.length, sent := window.sent ++ taken })

/-- Take up to `size` of the received bytes. -/
def receive (window : Window) (size : Nat) : List UInt8 × Window :=
  (window.unread.take size, { window with unread := window.unread.drop size })

end Window

/-- One step of an engine, as the calls it makes until it is done. -/
inductive Session (α : Type) where
  /-- The step is done. -/
  | done (result : α)
  /-- Send bytes, and go on knowing how many were taken. -/
  | send (bytes : List UInt8) (next : Nat → Session α)
  /-- Ask for up to `size` received bytes, and go on with them. -/
  | receive (size : Nat) (next : List UInt8 → Session α)
  /-- Hand a message to the application. -/
  | publish (message : Message) (next : Session α)

/-- A call of an engine with its answer. -/
inductive EngineCall where
  | send (bytes : List UInt8) (taken : Nat)
  | receive (size : Nat) (bytes : List UInt8)
  | publish (message : Message)
  deriving DecidableEq, Repr

namespace Session

variable {α : Type}

/-- Play a step : its result, the window after it, and the calls made, in order. -/
def run : Session α → Window → α × Window × List EngineCall
  | done result, window => (result, window, [])
  | send bytes next, window =>
    let (taken, window) := window.send bytes
    let (result, window, calls) := (next taken).run window
    (result, window, .send bytes taken :: calls)
  | receive size next, window =>
    let (bytes, window) := window.receive size
    let (result, window, calls) := (next bytes).run window
    (result, window, .receive size bytes :: calls)
  | publish message next, window =>
    let (result, window, calls) := next.run window
    (result, window, .publish message :: calls)

end Session

/-- What the adapter asks of a messaging engine with state `ε`. -/
class MqttEngine (ε : Type) where
  /-- Size the transmit and the receive buffer. -/
  init : Nat → Nat → ε → ε
  /-- Forget the connection and what is in flight, for a new socket. -/
  reinit : ε → ε
  /-- One step of the protocol. -/
  sync : ε → Session ε

/-- Where there is no engine, the type of engines is the empty one. -/
instance : MqttEngine Empty where
  init _ _ engine := engine
  reinit engine := engine
  sync engine := .done engine

end CellStation
