import CellStation.Config
import CellStation.Mqtt.Session
import CellStation.Request

/-!
# MQTT adapter

The adapter carries the byte stream of a messaging engine over a socket of the modem, at
most one frame out and one frame in per step. A socket that the modem drops or closes is
given up. After a failed send the socket is given up as well, and a request to close it
goes out as soon as it fits, unless the modem has dropped the socket in the meantime.
-/

namespace CellStation

/-- The frame id of the adapter's requests. -/
def sendFrameId : UInt8 := 'M'.toUInt8

/-- An engine bound to a socket, or to none. -/
structure MqttAdapter (ε : Type) where
  engine : ε
  socket : Option UInt8
  /-- A socket to close once the request fits. -/
  pendingClose : Option UInt8
  /-- A socket given up, until its owner has been told. -/
  abandoned : Option UInt8
  deriving DecidableEq, Repr

/-- What one step of the adapter came to. -/
structure MqttStep (ε : Type) where
  adapter : MqttAdapter ε
  /-- The request to send. -/
  request : Option Request
  /-- The engine has taken its step. -/
  synced : Bool
  /-- The calls of the engine in its step. -/
  calls : List EngineCall

namespace MqttStep

variable {ε : Type}

/-- The messages handed to the application. -/
def published (step : MqttStep ε) : List Message :=
  step.calls.filterMap fun
    | .publish message => some message
    | _ => none

/-- The frame after the step : the request, or the empty frame. -/
def out (step : MqttStep ε) : Frame := (step.request.map Request.frame).getD .empty

end MqttStep

namespace MqttAdapter

variable {ε : Type}

/-- Bytes of data that fit into one send request within `space` bytes on the wire. -/
def capacity (space : Nat) : Nat :=
  min (space - Layout.socketSend.wireSizeOf 0) (maxPayload - Layout.socketSend.headerSize)

/-- The frame shows that the modem has dropped or closed the socket. -/
def isGone (frame : Inbound) (socket : UInt8) : Bool :=
  match frame with
  | .socketState other state => other = socket && state ≠ .connected
  | .closed other _ => other = socket
  | _ => false

/-- Let go of the bound socket if the frame says that it is gone or that a send failed. -/
def release (adapter : MqttAdapter ε) (frame : Inbound) : MqttAdapter ε :=
  match adapter.socket with
  | none => adapter
  | some socket =>
    match frame with
    | .delivery id status =>
      if id = sendFrameId ∧ status ≠ .ok then
        { adapter with
          socket := none
          pendingClose := some socket
          abandoned := some socket }
      else adapter
    | _ => if isGone frame socket then { adapter with socket := none } else adapter

/-- The socket to close now, and the adapter with the close request sent or dropped. -/
def settleClose (adapter : MqttAdapter ε) (frame : Inbound) (space : Nat) :
    Option UInt8 × MqttAdapter ε :=
  match adapter.pendingClose with
  | none => (none, adapter)
  | some socket =>
    if isGone frame socket then (none, { adapter with pendingClose := none })
    else if Layout.socketClose.wireSizeOf 0 ≤ space then
      (some socket, { adapter with pendingClose := none })
    else (none, adapter)

/-- The bytes a frame brings for the bound socket. -/
def received (adapter : MqttAdapter ε) (frame : Inbound) : List UInt8 :=
  match frame with
  | .data socket bytes => if adapter.socket = some socket then bytes else []
  | _ => []

/-- The bytes that the engine can move in a step. -/
def window (adapter : MqttAdapter ε) (frame : Inbound) (space : Nat) : Window where
  room := if adapter.socket.isSome then capacity space else 0
  sent := []
  unread := adapter.received frame

/-- Take note of a socket given up, once. -/
def takeAbandoned (adapter : MqttAdapter ε) : Option UInt8 × MqttAdapter ε :=
  (adapter.abandoned, { adapter with abandoned := none })

variable [MqttEngine ε]

/-- The adapter of a configuration, bound to no socket. -/
def ofConfig (engine : ε) (config : MqttConfig) : Except Error (MqttAdapter ε) :=
  if config.txBuffer = 0 ∨ config.rxBuffer = 0 then .error (.config .engineBuffersZero)
  else
    .ok
      { engine := MqttEngine.init config.txBuffer.toNat config.rxBuffer.toNat engine
        socket := none
        pendingClose := none
        abandoned := none }

/-- Bind to a socket, or to none. The engine starts afresh when the socket changes. -/
def useSocket (adapter : MqttAdapter ε) (socket : Option UInt8) : MqttAdapter ε :=
  if socket = adapter.socket then adapter
  else { adapter with engine := MqttEngine.reinit adapter.engine, socket }

/-- Let the engine take a step; the bytes it sent are the request. -/
def sync (adapter : MqttAdapter ε) (frame : Inbound) (space : Nat) : MqttStep ε :=
  let (engine, window, calls) :=
    (MqttEngine.sync adapter.engine).run (adapter.window frame space)
  { adapter := { adapter with engine }
    request :=
      match adapter.socket, window.sent with
      | some socket, byte :: bytes => some (.send sendFrameId socket (byte :: bytes))
      | _, _ => none
    synced := true
    calls := calls }

/-- Handle a frame, and send a close request or let the engine take a step, within
`space` bytes on the wire. -/
def process (adapter : MqttAdapter ε) (frame : Frame) (space : Nat) : MqttStep ε :=
  match (adapter.release frame.inbound).settleClose frame.inbound space with
  | (some socket, adapter) =>
    { adapter, request := some (.close sendFrameId socket), synced := false, calls := [] }
  | (none, adapter) => adapter.sync frame.inbound space

end MqttAdapter

end CellStation
