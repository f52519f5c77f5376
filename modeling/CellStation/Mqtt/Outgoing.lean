import CellStation.Mqtt.Adapter

/-!
# The frame an adapter fills

An adapter is handed a frame to fill, which may hold what another component left in it. Over
a bound socket it lays out a send request in the frame, with as many bytes of zero as the space
allows, has its engine write over these from the front, and cuts off the ones not written. A
step that sends nothing empties the frame. What the frame holds in the end is the request of
`MqttAdapter.process`.
-/

namespace CellStation

/-- The bytes that an engine moves in one step, in place. -/
structure Transfer where
  /-- The bytes to be written over. -/
  slots : List UInt8
  /-- How many of them are written. -/
  written : Nat
  /-- The bytes that came in. -/
  arrived : List UInt8
  /-- How many of them are taken. -/
  consumed : Nat
  deriving DecidableEq, Repr

namespace Transfer

/-- Nothing is written or taken. -/
def start (slots arrived : List UInt8) : Transfer := ⟨slots, 0, arrived, 0⟩

/-- Write as many of the bytes as there are slots left; the answer is their count. -/
def send (transfer : Transfer) (bytes : List UInt8) : Nat × Transfer :=
  let count := min bytes.length (transfer.slots.length - transfer.written)
  (count,
    { transfer with
      slots := transfer.slots.take transfer.written ++ bytes.take count ++
        transfer.slots.drop (transfer.written + count)
      written := transfer.written + count })

/-- Take up to `size` of the bytes that came in. -/
def receive (transfer : Transfer) (size : Nat) : List UInt8 × Transfer :=
  let count := min size (transfer.arrived.length - transfer.consumed)
  ((transfer.arrived.drop transfer.consumed).take count,
    { transfer with consumed := transfer.consumed + count })

end Transfer

/-- Play a step of an engine in place : its result, the bytes after it, and the calls made,
in order. -/
def Session.exchange {α : Type} : Session α → Transfer → α × Transfer × List EngineCall
  | done result, transfer => (result, transfer, [])
  | send bytes next, transfer =>
    let (taken, transfer) := transfer.send bytes
    let (result, transfer, calls) := (next taken).exchange transfer
    (result, transfer, .send bytes taken :: calls)
  | receive size next, transfer =>
    let (bytes, transfer) := transfer.receive size
    let (result, transfer, calls) := (next bytes).exchange transfer
    (result, transfer, .receive size bytes :: calls)
  | publish message next, transfer =>
    let (result, transfer, calls) := next.exchange transfer
    (result, transfer, .publish message :: calls)

/-- What one step of the adapter comes to, with the frame that it fills. -/
structure FilledStep (ε : Type) where
  adapter : MqttAdapter ε
  /-- The frame holds a request to send. -/
  made : Bool
  out : Frame
  /-- The engine has taken its step. -/
  synced : Bool
  /-- The calls of the engine in its step. -/
  calls : List EngineCall

/-- The step of an adapter with its request in the frame. -/
def FilledStep.ofStep {ε : Type} (step : MqttStep ε) : FilledStep ε where
  adapter := step.adapter
  made := step.request.isSome
  out := step.out
  synced := step.synced
  calls := step.calls

namespace MqttAdapter

variable {ε : Type}

/-- The frame with a send request laid out for the bound socket, and the bytes of it that the
engine may write over. Without a socket, or without room, the frame is left as it is. -/
def layOut (adapter : MqttAdapter ε) (space : Nat) (out : Frame) : Frame × List UInt8 :=
  match adapter.socket with
  | some socket =>
    if 0 < capacity space then
      let laid := out.reuse .socketSend (sendFrameId, socket, (), ()) (capacity space)
      (laid, laid.payload.drop Layout.socketSend.headerSize)
    else (out, [])
  | none => (out, [])

variable [MqttEngine ε]

/-- Let the engine take a step; the bytes it wrote are the request. -/
def syncInto (adapter : MqttAdapter ε) (frame : Inbound) (space : Nat) (out : Frame) :
    FilledStep ε :=
  let (laid, slots) := adapter.layOut space out
  let (engine, transfer, calls) :=
    (MqttEngine.sync adapter.engine).exchange (.start slots (adapter.received frame))
  { adapter := { adapter with engine }
    made := transfer.written ≠ 0
    out :=
      if transfer.written = 0 then .empty
      else
        (laid.withTail .socketSend transfer.slots).truncate
          (Layout.socketSend.headerSize + transfer.written)
    synced := true
    calls := calls }

/-- Handle a frame, and fill the frame `out` with a close request or with what the engine sends
in its step, within `space` bytes on the wire. -/
def fill (adapter : MqttAdapter ε) (frame : Frame) (space : Nat) (out : Frame) : FilledStep ε :=
  match (adapter.release frame.inbound).settleClose frame.inbound space with
  | (some socket, adapter) =>
    { adapter
      made := true
      out := out.reuse .socketClose (sendFrameId, socket, ()) 0
      synced := false
      calls := [] }
  | (none, adapter) => adapter.syncInto frame.inbound space out

end MqttAdapter

end CellStation
