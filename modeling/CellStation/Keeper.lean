import CellStation.Config
import CellStation.Request
import CellStation.Status.Query

/-!
# Socket keeper

The keeper holds one socket of the modem connected to a fixed host. It asks for a socket
when the network is up, at most once per retry interval, connects it, and starts over
when the socket is lost, refused or closed. Only a socket that is connected and not on
its way out is handed out.
-/

namespace CellStation

/-- The frame id of create requests. -/
def createFrameId : UInt8 := 'K'.toUInt8

/-- The frame id of connect and close requests. -/
def requestFrameId : UInt8 := 1

/-- Where the keeper stands. -/
inductive Phase where
  /-- At rest : connected, or waiting to ask for a socket. -/
  | ready
  /-- A create request has been sent. -/
  | createWait
  /-- The socket is to be connected. -/
  | connect
  /-- A connect request has been sent. -/
  | connectWait
  /-- The socket is to be closed. -/
  | close
  /-- The socket is being closed. -/
  | closeWait
  deriving DecidableEq, Repr

namespace Phase

/-- The phase, for display. -/
def text : Phase → String
  | ready => "READY"
  | createWait => "CREATE_WAIT"
  | connect => "CONNECT"
  | connectWait => "CONNECT_WAIT"
  | close => "CLOSE"
  | closeWait => "CLOSE_WAIT"

end Phase

/-- The destination, and how far the socket to it has come. -/
structure Keeper where
  host : String
  port : UInt16
  protocol : IpProtocol
  retryInterval : Millis
  networkUp : Bool
  /-- The clock reading after which a socket may be asked for. -/
  nextRetry : Millis
  /-- The socket that the modem has assigned. -/
  socketId : Option UInt8
  phase : Phase
  deriving DecidableEq, Repr

namespace Keeper

/-- Longest host that fits into one connect request, in bytes. -/
def maxHostBytes : Nat := maxPayload - Layout.socketConnect.headerSize

/-- The keeper of a configuration. -/
def ofConfig (config : SocketConfig) : Except Error Keeper :=
  if config.host = "" then .error (.config .hostEmpty)
  else if maxHostBytes < Text.size config.host then
    .error (.config (.hostTooLong (Text.size config.host)))
  else
    .ok
      { host := config.host
        port := config.port
        protocol := config.protocol.code
        retryInterval := config.retryInterval.lowMillis
        networkUp := false
        nextRetry := 0
        socketId := none
        phase := .ready }

/-- The socket, while it is connected and at rest. -/
def socket (keeper : Keeper) : Option UInt8 :=
  if keeper.phase = .ready then keeper.socketId else none

/-- Have a connected socket closed, so that a fresh one is asked for. -/
def reconnect (keeper : Keeper) : Keeper :=
  if keeper.phase = .ready ∧ keeper.socketId.isSome then { keeper with phase := .close }
  else keeper

/-- Take note that the user of a socket is closing it. -/
def closeStarted (keeper : Keeper) (socket : UInt8) : Keeper :=
  if keeper.phase = .ready ∧ keeper.socketId = some socket then
    { keeper with phase := .closeWait }
  else keeper

/-- Handle a frame from the modem. -/
def onIncoming (keeper : Keeper) (frame : Frame) : Keeper :=
  match frame.inbound with
  | .created id socket status =>
    if keeper.phase = .createWait ∧ id = createFrameId then
      if status = .ok then { keeper with socketId := some socket, phase := .connect }
      else { keeper with socketId := none, phase := .ready }
    else keeper
  | .connecting socket status =>
    if keeper.socketId = some socket ∧ status ≠ .started then { keeper with phase := .close }
    else keeper
  | .socketState socket state =>
    if keeper.socketId = some socket then
      { keeper with
        socketId := if state = .connected then keeper.socketId else none
        phase := .ready }
    else keeper
  | .closed socket status =>
    if keeper.socketId = some socket ∧ status = .ok then
      { keeper with socketId := none, phase := .ready }
    else keeper
  | .event code => { keeper with networkUp := code = .registered }
  | .reply _ command status [association] =>
    if command = Query.association.command ∧ status = .ok then
      { keeper with networkUp := association = 0 }
    else keeper
  | _ => keeper

/-- The request that the phase calls for, if it fits into `space` bytes, and the keeper
after it. The program stops where the next attempt would have to wait beyond the last reading
that the clock can have. -/
def nextRequest (keeper : Keeper) (now : Millis) (space : Nat) :
    Except Overflow (Option Request × Keeper) :=
  match keeper.phase, keeper.socketId with
  | .ready, none =>
    if keeper.networkUp ∧ Layout.socketCreate.wireSizeOf 0 ≤ space ∧ keeper.nextRetry < now then do
      let nextRetry ← now.later keeper.retryInterval
      return (some (.create createFrameId keeper.protocol),
        { keeper with nextRetry, phase := .createWait })
    else .ok (none, keeper)
  | .connect, some socket =>
    if Layout.socketConnect.wireSizeOf (Text.size keeper.host) ≤ space then
      .ok (some (.connect requestFrameId socket keeper.port (Text.toBytes keeper.host)),
        { keeper with phase := .connectWait })
    else .ok (none, keeper)
  | .close, some socket =>
    if Layout.socketClose.wireSizeOf 0 ≤ space then
      .ok (some (.close requestFrameId socket), { keeper with phase := .closeWait })
    else .ok (none, keeper)
  | .connect, none => .ok (none, { keeper with phase := .ready })
  | .close, none => .ok (none, { keeper with phase := .ready })
  | _, _ => .ok (none, keeper)

end Keeper

end CellStation
