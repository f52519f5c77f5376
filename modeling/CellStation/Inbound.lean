import CellStation.Layout

/-!
# Inbound frames

The frames from the modem that the stack acts upon, with the values that matter.
`Frame.inbound` reads a frame as one of them; every other frame, and one too short for
its layout, is `Inbound.other`.
-/

namespace CellStation

/-- A two-letter AT command. -/
abbrev Command := Vector UInt8 2

namespace Command

/-- The command with these letters. -/
def ofLetters (first second : Char) : Command := #v[first.toUInt8, second.toUInt8]

end Command

/-- A frame from the modem, as the stack reads it. -/
inductive Inbound where
  /-- The answer to the command sent as `id`. -/
  | reply (id : UInt8) (command : Command) (status : AtStatus) (value : List UInt8)
  /-- An event of the modem. -/
  | event (code : ModemStatusCode)
  /-- The answer to the create request sent as `id`. -/
  | created (id socket : UInt8) (status : CreateStatus)
  /-- The answer to a connect request. -/
  | connecting (socket : UInt8) (status : ConnectStatus)
  /-- The answer to a close request. -/
  | closed (socket : UInt8) (status : CloseStatus)
  /-- A socket has changed its state. -/
  | socketState (socket : UInt8) (state : SocketState)
  /-- What became of the data sent as `id`. -/
  | delivery (id : UInt8) (status : DeliveryStatus)
  /-- Data received over a socket. -/
  | data (socket : UInt8) (bytes : List UInt8)
  /-- Nothing that the stack acts upon. -/
  | other
  deriving DecidableEq, Repr

/-- A frame, as the stack reads it. -/
def Frame.inbound (frame : Frame) : Inbound :=
  if let some ((id, command, status, _), value) := frame.decodeAs? .atCommandResponse then
    .reply id command status value
  else if let some ((code, _), _) := frame.decodeAs? .modemStatus then
    .event code
  else if let some ((id, socket, status, _), _) := frame.decodeAs? .socketCreateResponse then
    .created id socket status
  else if let some ((_, socket, status, _), _) := frame.decodeAs? .socketConnectResponse then
    .connecting socket status
  else if let some ((_, socket, status, _), _) := frame.decodeAs? .socketCloseResponse then
    .closed socket status
  else if let some ((socket, state, _), _) := frame.decodeAs? .socketStatus then
    .socketState socket state
  else if let some ((id, status, _), _) := frame.decodeAs? .transmitStatus then
    .delivery id status
  else if let some ((_, socket, _), bytes) := frame.decodeAs? .socketReceive then
    .data socket bytes
  else .other

end CellStation
