import CellStation.Inbound

/-!
# Outbound requests

The requests that the stack sends to the modem. `Request.frame` lays each out. A component makes
its request in a frame that it is handed (`FilledTurn`).
-/

namespace CellStation

/-- A request to the modem. -/
inductive Request where
  /-- Carry out a command; with a value it sets, without one it asks. -/
  | command (id : UInt8) (command : Command) (value : List UInt8)
  /-- Create a socket. -/
  | create (id : UInt8) (protocol : IpProtocol)
  /-- Connect a socket to a host written as text. -/
  | connect (id socket : UInt8) (port : UInt16) (host : List UInt8)
  /-- Close a socket. -/
  | close (id socket : UInt8)
  /-- Send data over a socket. -/
  | send (id socket : UInt8) (bytes : List UInt8)
  deriving DecidableEq, Repr

namespace Request

/-- The frame of a request. -/
def frame : Request → Frame
  | command id name value => .ofHeader .atCommand (id, name, ()) value
  | create id protocol => .ofHeader .socketCreate (id, protocol, ()) []
  | connect id socket port host =>
    .ofHeader .socketConnect (id, socket, port, AddressType.byText, ()) host
  | close id socket => .ofHeader .socketClose (id, socket, ()) []
  | send id socket bytes => .ofHeader .socketSend (id, socket, (), ()) bytes

/-- Bytes of a request on the wire. -/
def wireSize (request : Request) : Nat := request.frame.wireSize

/-- A frame that is used again and again : it takes on the request made, and keeps what it
holds when none is made. -/
def fill (made : Option Request) (out : Frame) : Frame := (made.map frame).getD out

end Request

/-- What the turn of a component comes to, with the frame that it is handed to fill. -/
structure FilledTurn (σ : Type) where
  /-- The component after the turn. -/
  state : σ
  /-- The frame holds a request to send. -/
  made : Bool
  out : Frame
  deriving DecidableEq, Repr

namespace FilledTurn

variable {σ : Type}

/-- The turn that makes a request, or none, with what it leaves in the frame. -/
def ofRequest (out : Frame) (turn : Option Request × σ) : FilledTurn σ :=
  ⟨turn.2, turn.1.isSome, Request.fill turn.1 out⟩

end FilledTurn

end CellStation
