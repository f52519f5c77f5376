import CellStation.Frame
import CellStation.Layout.Field

/-!
# Payload layouts

Each kind of frame lays its payload out as a header of fixed fields followed by a tail
that takes what remains. `Layout` lists the kinds, `Layout.fields` the headers as they are
read and `Layout.written` as they are put down, and the type byte of a frame says which layout
it has. Reading a frame that was laid out gives its header and tail back (`decodeAs?_ofHeader`),
as the two lists agree for every layout (`Layout.written_eq_fields`).
-/

namespace CellStation

/-- The kinds of frame. -/
inductive Layout where
  /-- A command for the modem, applied at once; the tail is the value to set. -/
  | atCommand
  /-- A command for the modem, queued until applied. -/
  | atCommandQueue
  /-- The answer to a command; the tail is the value. -/
  | atCommandResponse
  /-- A text message to send. -/
  | transmitSms
  /-- A text message received. -/
  | receiveSms
  /-- Data to send to an address. -/
  | transmitIp
  /-- Data to send over an encrypted stream. -/
  | transmitTls
  /-- Data received from an address. -/
  | receiveIp
  /-- What became of a transmission. -/
  | transmitStatus
  /-- An event of the modem. -/
  | modemStatus
  /-- Data for another interface of the modem. -/
  | relayToInterface
  /-- Data from another interface of the modem. -/
  | relayFromInterface
  /-- A block of a firmware image. -/
  | firmwareUpdate
  /-- What became of a block of a firmware image. -/
  | firmwareUpdateResponse
  /-- A positioning request. -/
  | gnssRequest
  /-- The acknowledgement of a positioning request. -/
  | gnssResponse
  /-- A raw positioning sentence; all of the payload is tail. -/
  | gnssNmea
  /-- A position fix. -/
  | gnssOneShot
  /-- A request for a new socket. -/
  | socketCreate
  /-- The new socket, or why there is none. -/
  | socketCreateResponse
  /-- A request to read or set an option of a socket. -/
  | socketOption
  /-- The option read or set. -/
  | socketOptionResponse
  /-- A request to connect; the tail is the destination. -/
  | socketConnect
  /-- Whether the attempt to connect has started. -/
  | socketConnectResponse
  /-- A request to close a socket. -/
  | socketClose
  /-- Whether the socket was closed. -/
  | socketCloseResponse
  /-- Data to send over a connected socket. -/
  | socketSend
  /-- Data to send to an address through a socket. -/
  | socketSendTo
  /-- A request to listen on a port. -/
  | socketBindListen
  /-- Whether the socket listens. -/
  | socketBindListenResponse
  /-- A client that has connected to a listening socket. -/
  | socketNewClient
  /-- Data received over a connected socket. -/
  | socketReceive
  /-- Data received from an address through a socket. -/
  | socketReceiveFrom
  /-- A change in the state of a socket. -/
  | socketStatus
  deriving DecidableEq, Repr

namespace Layout

/-- Every layout, by type byte. -/
def all : List Layout :=
  [.atCommand, .atCommandQueue, .transmitSms, .transmitIp, .transmitTls, .firmwareUpdate,
   .relayToInterface, .gnssRequest, .socketCreate, .socketOption, .socketConnect, .socketClose,
   .socketSend, .socketSendTo, .socketBindListen, .atCommandResponse, .transmitStatus,
   .modemStatus, .receiveSms, .firmwareUpdateResponse, .relayFromInterface, .receiveIp,
   .gnssResponse, .gnssNmea, .gnssOneShot, .socketCreateResponse, .socketOptionResponse,
   .socketConnectResponse, .socketCloseResponse, .socketBindListenResponse, .socketNewClient,
   .socketReceive, .socketReceiveFrom, .socketStatus]

/-- The type byte of a layout. -/
def kind : Layout → UInt8
  | atCommand => 0x08
  | atCommandQueue => 0x09
  | transmitSms => 0x1F
  | transmitIp => 0x20
  | transmitTls => 0x23
  | firmwareUpdate => 0x2B
  | relayToInterface => 0x2D
  | gnssRequest => 0x3D
  | socketCreate => 0x40
  | socketOption => 0x41
  | socketConnect => 0x42
  | socketClose => 0x43
  | socketSend => 0x44
  | socketSendTo => 0x45
  | socketBindListen => 0x46
  | atCommandResponse => 0x88
  | transmitStatus => 0x89
  | modemStatus => 0x8A
  | receiveSms => 0x9F
  | firmwareUpdateResponse => 0xAB
  | relayFromInterface => 0xAD
  | receiveIp => 0xB0
  | gnssResponse => 0xBD
  | gnssNmea => 0xBE
  | gnssOneShot => 0xBF
  | socketCreateResponse => 0xC0
  | socketOptionResponse => 0xC1
  | socketConnectResponse => 0xC2
  | socketCloseResponse => 0xC3
  | socketBindListenResponse => 0xC6
  | socketNewClient => 0xCC
  | socketReceive => 0xCD
  | socketReceiveFrom => 0xCE
  | socketStatus => 0xCF

/-- The name of a layout. -/
def name : Layout → String
  | atCommand => "AtCommand"
  | atCommandQueue => "AtCommandQueue"
  | transmitSms => "TransmitSms"
  | transmitIp => "TransmitIp"
  | transmitTls => "TransmitTls"
  | firmwareUpdate => "FirmwareUpdate"
  | relayToInterface => "RelayToInterface"
  | gnssRequest => "GnssRequest"
  | socketCreate => "SocketCreate"
  | socketOption => "SocketOption"
  | socketConnect => "SocketConnect"
  | socketClose => "SocketClose"
  | socketSend => "SocketSend"
  | socketSendTo => "SocketSendTo"
  | socketBindListen => "SocketBindListen"
  | atCommandResponse => "AtCommandResponse"
  | transmitStatus => "TransmitStatus"
  | modemStatus => "ModemStatus"
  | receiveSms => "ReceiveSms"
  | firmwareUpdateResponse => "FirmwareUpdateResponse"
  | relayFromInterface => "RelayFromInterface"
  | receiveIp => "ReceiveIp"
  | gnssResponse => "GnssResponse"
  | gnssNmea => "GnssNmea"
  | gnssOneShot => "GnssOneShot"
  | socketCreateResponse => "SocketCreateResponse"
  | socketOptionResponse => "SocketOptionResponse"
  | socketConnectResponse => "SocketConnectResponse"
  | socketCloseResponse => "SocketCloseResponse"
  | socketBindListenResponse => "SocketBindListenResponse"
  | socketNewClient => "SocketNewClient"
  | socketReceive => "SocketReceive"
  | socketReceiveFrom => "SocketReceiveFrom"
  | socketStatus => "SocketStatus"

/-- Bytes of the phone number in text messages, padded with NUL. -/
def phoneNumberWidth : Nat := 20

/-- Firmware update flag : the first block. -/
def flagInitial : UInt8 := 0x01

/-- Firmware update flag : the last block. -/
def flagFinal : UInt8 := 0x02

/-- Firmware update flag : give the update up. -/
def flagCancel : UInt8 := 0x04

/-- The socket option that selects the profile of an encrypted stream. -/
def tlsProfileOption : UInt8 := 0x00

/-- The header of a layout, in the order in which it is read. -/
@[reducible] def fields : Layout → List Field
  | atCommand => [⟨.frameId, .byte⟩, ⟨.command, .octets 2⟩]
  | atCommandQueue => [⟨.frameId, .byte⟩, ⟨.command, .octets 2⟩]
  | atCommandResponse => [⟨.frameId, .byte⟩, ⟨.command, .octets 2⟩, ⟨.status, .code .atStatus⟩]
  | transmitSms =>
    [⟨.frameId, .byte⟩, ⟨.unused, .reserved⟩, ⟨.phoneNumber, .octets phoneNumberWidth⟩]
  | receiveSms => [⟨.phoneNumber, .octets phoneNumberWidth⟩]
  | transmitIp =>
    [⟨.frameId, .byte⟩, ⟨.destIp, .address⟩, ⟨.destPort, .word⟩, ⟨.sourcePort, .word⟩,
     ⟨.protocol, .code .ipProtocol⟩, ⟨.options, .code .transmitOption⟩]
  | transmitTls =>
    [⟨.frameId, .byte⟩, ⟨.destIp, .address⟩, ⟨.destPort, .word⟩, ⟨.sourcePort, .word⟩,
     ⟨.tlsProfile, .byte⟩, ⟨.options, .code .transmitOption⟩]
  | receiveIp =>
    [⟨.sourceIp, .address⟩, ⟨.destPort, .word⟩, ⟨.sourcePort, .word⟩,
     ⟨.protocol, .code .ipProtocol⟩, ⟨.unused, .reserved⟩]
  | transmitStatus => [⟨.frameId, .byte⟩, ⟨.status, .code .deliveryStatus⟩]
  | modemStatus => [⟨.status, .code .modemStatus⟩]
  | relayToInterface => [⟨.frameId, .byte⟩, ⟨.interface, .code .relayInterface⟩]
  | relayFromInterface => [⟨.interface, .code .relayInterface⟩]
  | firmwareUpdate => [⟨.id, .byte⟩, ⟨.component, .byte⟩, ⟨.flags, .byte⟩]
  | firmwareUpdateResponse => [⟨.id, .byte⟩, ⟨.status, .code .firmwareStatus⟩]
  | gnssRequest => [⟨.frameId, .byte⟩, ⟨.command, .code .gnssCommand⟩, ⟨.oneshotTimeout, .word⟩]
  | gnssResponse =>
    [⟨.frameId, .byte⟩, ⟨.command, .code .gnssCommand⟩, ⟨.status, .code .gnssStatus⟩]
  | gnssNmea => []
  | gnssOneShot =>
    [⟨.status, .code .gnssFixStatus⟩, ⟨.lockTime, .long⟩, ⟨.latitude, .signed⟩,
     ⟨.longitude, .signed⟩, ⟨.altitude, .long⟩, ⟨.satellites, .byte⟩]
  | socketCreate => [⟨.frameId, .byte⟩, ⟨.protocol, .code .ipProtocol⟩]
  | socketCreateResponse => [⟨.frameId, .byte⟩, ⟨.socket, .byte⟩, ⟨.status, .code .createStatus⟩]
  | socketOption => [⟨.frameId, .byte⟩, ⟨.socket, .byte⟩, ⟨.option, .byte⟩]
  | socketOptionResponse =>
    [⟨.frameId, .byte⟩, ⟨.socket, .byte⟩, ⟨.option, .byte⟩, ⟨.status, .code .optionStatus⟩]
  | socketConnect =>
    [⟨.frameId, .byte⟩, ⟨.socket, .byte⟩, ⟨.destPort, .word⟩, ⟨.addressType, .code .addressType⟩]
  | socketConnectResponse => [⟨.frameId, .byte⟩, ⟨.socket, .byte⟩, ⟨.status, .code .connectStatus⟩]
  | socketClose => [⟨.frameId, .byte⟩, ⟨.socket, .byte⟩]
  | socketCloseResponse => [⟨.frameId, .byte⟩, ⟨.socket, .byte⟩, ⟨.status, .code .closeStatus⟩]
  | socketSend => [⟨.frameId, .byte⟩, ⟨.socket, .byte⟩, ⟨.unused, .reserved⟩]
  | socketSendTo =>
    [⟨.frameId, .byte⟩, ⟨.socket, .byte⟩, ⟨.destIp, .address⟩, ⟨.destPort, .word⟩,
     ⟨.unused, .reserved⟩]
  | socketBindListen => [⟨.frameId, .byte⟩, ⟨.socket, .byte⟩, ⟨.sourcePort, .word⟩]
  | socketBindListenResponse => [⟨.frameId, .byte⟩, ⟨.socket, .byte⟩, ⟨.status, .code .bindStatus⟩]
  | socketNewClient =>
    [⟨.listenSocket, .byte⟩, ⟨.clientSocket, .byte⟩, ⟨.remoteIp, .address⟩, ⟨.remotePort, .word⟩]
  | socketReceive => [⟨.frameId, .byte⟩, ⟨.socket, .byte⟩, ⟨.unused, .reserved⟩]
  | socketReceiveFrom =>
    [⟨.frameId, .byte⟩, ⟨.socket, .byte⟩, ⟨.sourceIp, .address⟩, ⟨.sourcePort, .word⟩,
     ⟨.unused, .reserved⟩]
  | socketStatus => [⟨.socket, .byte⟩, ⟨.status, .code .socketState⟩]

/-- The fields that a writer puts down for a layout, in order. -/
def written : Layout → List Field
  | atCommand => [⟨.frameId, .byte⟩, ⟨.command, .octets 2⟩]
  | atCommandQueue => [⟨.frameId, .byte⟩, ⟨.command, .octets 2⟩]
  | atCommandResponse => [⟨.frameId, .byte⟩, ⟨.command, .octets 2⟩, ⟨.status, .code .atStatus⟩]
  | transmitSms =>
    [⟨.frameId, .byte⟩, ⟨.unused, .reserved⟩, ⟨.phoneNumber, .octets phoneNumberWidth⟩]
  | receiveSms => [⟨.phoneNumber, .octets phoneNumberWidth⟩]
  | transmitIp =>
    [⟨.frameId, .byte⟩, ⟨.destIp, .address⟩, ⟨.destPort, .word⟩, ⟨.sourcePort, .word⟩,
     ⟨.protocol, .code .ipProtocol⟩, ⟨.options, .code .transmitOption⟩]
  | transmitTls =>
    [⟨.frameId, .byte⟩, ⟨.destIp, .address⟩, ⟨.destPort, .word⟩, ⟨.sourcePort, .word⟩,
     ⟨.tlsProfile, .byte⟩, ⟨.options, .code .transmitOption⟩]
  | receiveIp =>
    [⟨.sourceIp, .address⟩, ⟨.destPort, .word⟩, ⟨.sourcePort, .word⟩,
     ⟨.protocol, .code .ipProtocol⟩, ⟨.unused, .reserved⟩]
  | transmitStatus => [⟨.frameId, .byte⟩, ⟨.status, .code .deliveryStatus⟩]
  | modemStatus => [⟨.status, .code .modemStatus⟩]
  | relayToInterface => [⟨.frameId, .byte⟩, ⟨.interface, .code .relayInterface⟩]
  | relayFromInterface => [⟨.interface, .code .relayInterface⟩]
  | firmwareUpdate => [⟨.id, .byte⟩, ⟨.component, .byte⟩, ⟨.flags, .byte⟩]
  | firmwareUpdateResponse => [⟨.id, .byte⟩, ⟨.status, .code .firmwareStatus⟩]
  | gnssRequest => [⟨.frameId, .byte⟩, ⟨.command, .code .gnssCommand⟩, ⟨.oneshotTimeout, .word⟩]
  | gnssResponse =>
    [⟨.frameId, .byte⟩, ⟨.command, .code .gnssCommand⟩, ⟨.status, .code .gnssStatus⟩]
  | gnssNmea => []
  | gnssOneShot =>
    [⟨.status, .code .gnssFixStatus⟩, ⟨.lockTime, .long⟩, ⟨.latitude, .signed⟩,
     ⟨.longitude, .signed⟩, ⟨.altitude, .long⟩, ⟨.satellites, .byte⟩]
  | socketCreate => [⟨.frameId, .byte⟩, ⟨.protocol, .code .ipProtocol⟩]
  | socketCreateResponse => [⟨.frameId, .byte⟩, ⟨.socket, .byte⟩, ⟨.status, .code .createStatus⟩]
  | socketOption => [⟨.frameId, .byte⟩, ⟨.socket, .byte⟩, ⟨.option, .byte⟩]
  | socketOptionResponse =>
    [⟨.frameId, .byte⟩, ⟨.socket, .byte⟩, ⟨.option, .byte⟩, ⟨.status, .code .optionStatus⟩]
  | socketConnect =>
    [⟨.frameId, .byte⟩, ⟨.socket, .byte⟩, ⟨.destPort, .word⟩, ⟨.addressType, .code .addressType⟩]
  | socketConnectResponse => [⟨.frameId, .byte⟩, ⟨.socket, .byte⟩, ⟨.status, .code .connectStatus⟩]
  | socketClose => [⟨.frameId, .byte⟩, ⟨.socket, .byte⟩]
  | socketCloseResponse => [⟨.frameId, .byte⟩, ⟨.socket, .byte⟩, ⟨.status, .code .closeStatus⟩]
  | socketSend => [⟨.frameId, .byte⟩, ⟨.socket, .byte⟩, ⟨.unused, .reserved⟩]
  | socketSendTo =>
    [⟨.frameId, .byte⟩, ⟨.socket, .byte⟩, ⟨.destIp, .address⟩, ⟨.destPort, .word⟩,
     ⟨.unused, .reserved⟩]
  | socketBindListen => [⟨.frameId, .byte⟩, ⟨.socket, .byte⟩, ⟨.sourcePort, .word⟩]
  | socketBindListenResponse => [⟨.frameId, .byte⟩, ⟨.socket, .byte⟩, ⟨.status, .code .bindStatus⟩]
  | socketNewClient =>
    [⟨.listenSocket, .byte⟩, ⟨.clientSocket, .byte⟩, ⟨.remoteIp, .address⟩, ⟨.remotePort, .word⟩]
  | socketReceive => [⟨.frameId, .byte⟩, ⟨.socket, .byte⟩, ⟨.unused, .reserved⟩]
  | socketReceiveFrom =>
    [⟨.frameId, .byte⟩, ⟨.socket, .byte⟩, ⟨.sourceIp, .address⟩, ⟨.sourcePort, .word⟩,
     ⟨.unused, .reserved⟩]
  | socketStatus => [⟨.socket, .byte⟩, ⟨.status, .code .socketState⟩]

/-- Bytes of the header. -/
def headerSize : Layout → Nat
  | gnssNmea => 0
  | modemStatus | relayFromInterface => 1
  | transmitStatus | relayToInterface | firmwareUpdateResponse | socketCreate | socketClose
  | socketStatus => 2
  | atCommand | atCommandQueue | firmwareUpdate | gnssResponse | socketCreateResponse
  | socketOption | socketConnectResponse | socketCloseResponse | socketSend
  | socketBindListenResponse | socketReceive => 3
  | atCommandResponse | gnssRequest | socketOptionResponse | socketBindListen => 4
  | socketConnect => 5
  | socketNewClient => 8
  | socketSendTo | socketReceiveFrom => 9
  | receiveIp => 10
  | transmitIp | transmitTls => 11
  | gnssOneShot => 18
  | receiveSms => phoneNumberWidth
  | transmitSms => 2 + phoneNumberWidth

/-- What is put down is what is read. -/
theorem written_eq_fields (layout : Layout) : layout.written = layout.fields := by
  cases layout <;> rfl

theorem nodup_fields (layout : Layout) : layout.fields.Nodup := by
  cases layout <;> decide

/-- The bytes of a header. -/
def headerBytes (layout : Layout) (header : Header layout.fields) : List UInt8 :=
  Header.put layout.written layout.fields header

@[simp] theorem headerBytes_eq (layout : Layout) (header : Header layout.fields) :
    layout.headerBytes header = Header.write layout.fields header := by
  rw [headerBytes, written_eq_fields, Header.put_self layout.nodup_fields]

/-- Bytes on the wire of a frame with a tail of `extra` bytes. -/
def wireSizeOf (layout : Layout) (extra : Nat) : Nat :=
  layout.headerSize + extra + frameOverhead

/-- The registered types as a book of codes : each type is named for its layout. -/
def kindBook : List CodeEntry :=
  all.map fun layout => ⟨layout.kind.toNat, layout.name, layout.name⟩

/-- No two layouts share a type byte. -/
theorem kind_injective {a b : Layout} (h : a.kind = b.kind) : a = b := by
  cases a <;> cases b <;> first | rfl | exact absurd h (by decide)

/-- The fields take up the whole header. -/
@[simp] theorem width_fields (layout : Layout) :
    Header.width layout.fields = layout.headerSize := by
  cases layout <;> rfl

end Layout

namespace Frame

variable {layout : Layout}

/-- The frame of a header and a tail. -/
def ofHeader (layout : Layout) (header : Header layout.fields) (tail : List UInt8) : Frame :=
  ⟨layout.kind, layout.headerBytes header ++ tail⟩

/-- The frame of a header and `extra` bytes of zero, to be filled by `withTail`. -/
def setup (layout : Layout) (header : Header layout.fields) (extra : Nat) : Frame :=
  ofHeader layout header (List.replicate extra 0)

/-- A frame that is used again : it takes on a layout, the bytes of a header, and `extra` bytes
of zero, to be filled by `withTail`. -/
def reuse (layout : Layout) (header : Header layout.fields) (extra : Nat) (frame : Frame) :
    Frame :=
  let emptied : Frame := { frame with kind := layout.kind, payload := [] }
  let headed := { emptied with payload := emptied.payload ++ layout.headerBytes header }
  headed.resize (layout.headerSize + extra)

/-- The frame with the bytes behind its header replaced. -/
def withTail (layout : Layout) (tail : List UInt8) (frame : Frame) : Frame :=
  { frame with payload := frame.payload.take layout.headerSize ++ tail }

/-- The header and the tail, when the frame has this layout and its payload holds a
whole header. -/
def decodeAs? (layout : Layout) (frame : Frame) :
    Option (Header layout.fields × List UInt8) :=
  if frame.kind = layout.kind ∧ layout.headerSize ≤ frame.payload.length then
    some (Header.read layout.fields frame.payload, frame.payload.drop layout.headerSize)
  else none

/-- The name of the frame's type with the size of its payload, for messages. -/
def describe (frame : Frame) : String :=
  let name := codeText Layout.kindBook frame.kind.toNat
  let digits := Nat.toDigits 16 frame.kind.toNat
  let hex := String.ofList (if digits.length < 2 then '0' :: digits else digits)
  s!"{name}(0x{hex}) {frame.payloadSize} bytes"

/-! ## Laws -/

@[simp] theorem wireSize_ofHeader (header : Header layout.fields) (tail : List UInt8) :
    (ofHeader layout header tail).wireSize = layout.wireSizeOf tail.length := by
  simp [wireSize, ofHeader, Layout.wireSizeOf]

theorem decodeAs?_ofHeader (header : Header layout.fields) (tail : List UInt8) :
    decodeAs? layout (ofHeader layout header tail) = some (header, tail) := by
  have hwidth : (Header.write layout.fields header).length = layout.headerSize := by simp
  simp only [decodeAs?, ofHeader, Layout.headerBytes_eq, List.length_append, hwidth]
  rw [if_pos ⟨trivial, by omega⟩, Header.read_write_append, List.drop_left' hwidth]

/-- What a frame held before does not matter once it is used again. -/
theorem reuse_eq (header : Header layout.fields) (extra : Nat) (frame : Frame) :
    frame.reuse layout header extra = setup layout header extra := by
  simp [reuse, resize, payloadSize, setup, ofHeader, List.take_of_length_le]

theorem withTail_setup (header : Header layout.fields) (tail : List UInt8) :
    withTail layout tail (setup layout header tail.length) = ofHeader layout header tail := by
  have hwidth : (Header.write layout.fields header).length = layout.headerSize := by simp
  simp [withTail, setup, ofHeader, List.take_left' hwidth]

/-- A frame that reads as one layout reads as no other. -/
theorem decodeAs?_of_ne {other : Layout} {frame : Frame}
    {read : Header layout.fields × List UInt8} (h : frame.decodeAs? layout = some read)
    (hne : layout ≠ other) : frame.decodeAs? other = none := by
  unfold decodeAs? at h ⊢
  split at h
  · rename_i hlayout
    exact if_neg fun hother => hne (Layout.kind_injective (hlayout.1.symm.trans hother.1))
  · cases h

end Frame

end CellStation
