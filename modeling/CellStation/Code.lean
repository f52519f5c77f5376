/-!
# Codes

A code is one byte with a documented meaning. The documented sets are open : modems
send codes that no book lists, and these must survive being read and written. A value
of `Code set` is therefore the raw byte itself, and `CodeSet.book` lists the documented
ones of each set with their names. Two codes are equal exactly when their bytes are.
-/

namespace CellStation

/-- A documented code : its raw value, its name, and the text shown for it. -/
structure CodeEntry where
  raw : Nat
  name : String
  text : String
  deriving DecidableEq, Repr

/-- The entry that documents `raw`, if there is one. -/
def documented? (book : List CodeEntry) (raw : Nat) : Option CodeEntry :=
  book.find? (·.raw == raw)

/-- The name of `raw`; a code outside the book is named by its number. -/
def codeName (book : List CodeEntry) (raw : Nat) : String :=
  match documented? book raw with
  | some entry => entry.name
  | none => s!"Unknown({raw})"

/-- The text shown for `raw`. -/
def codeText (book : List CodeEntry) (raw : Nat) : String :=
  match documented? book raw with
  | some entry => entry.text
  | none => "UNKNOWN"

/-! ## The sets of one-byte codes -/

/-- The sets of codes that frame headers and status replies use. -/
inductive CodeSet where
  /-- Result of a local AT command. -/
  | atStatus
  /-- Delivery result in a transmit status frame. -/
  | deliveryStatus
  /-- Event that the modem reports unasked. -/
  | modemStatus
  /-- Transport protocol of IP and socket frames. -/
  | ipProtocol
  /-- Option byte of an IP transmission. -/
  | transmitOption
  /-- Endpoint of a relay frame. -/
  | relayInterface
  /-- Result of one firmware update step. -/
  | firmwareStatus
  /-- Positioning request. -/
  | gnssCommand
  /-- Acknowledgement of a positioning request. -/
  | gnssStatus
  /-- Result of a one-shot position fix. -/
  | gnssFixStatus
  /-- Result of a socket creation. -/
  | createStatus
  /-- Result of a socket option access. -/
  | optionStatus
  /-- Result of a connect request; success only means that the attempt started. -/
  | connectStatus
  /-- Result of a socket close. -/
  | closeStatus
  /-- Result of a bind and listen request. -/
  | bindStatus
  /-- State of a socket; in all but `Connected` the modem has closed it. -/
  | socketState
  /-- How a connect request writes its destination. -/
  | addressType
  /-- Carrier profile (`CP`). -/
  | carrierProfile
  /-- Cellular association (`AI`). -/
  | associationStatus
  deriving DecidableEq, Repr

namespace CodeSet

/-- Every set. -/
def all : List CodeSet :=
  [.atStatus, .deliveryStatus, .modemStatus, .ipProtocol, .transmitOption, .relayInterface,
   .firmwareStatus, .gnssCommand, .gnssStatus, .gnssFixStatus, .createStatus, .optionStatus,
   .connectStatus, .closeStatus, .bindStatus, .socketState, .addressType, .carrierProfile,
   .associationStatus]

/-- The name of a set. -/
def name : CodeSet → String
  | .atStatus => "AtStatus"
  | .deliveryStatus => "DeliveryStatus"
  | .modemStatus => "ModemStatusCode"
  | .ipProtocol => "IpProtocol"
  | .transmitOption => "TransmitOption"
  | .relayInterface => "RelayInterface"
  | .firmwareStatus => "FirmwareStatus"
  | .gnssCommand => "GnssCommand"
  | .gnssStatus => "GnssStatus"
  | .gnssFixStatus => "GnssFixStatus"
  | .createStatus => "CreateStatus"
  | .optionStatus => "OptionStatus"
  | .connectStatus => "ConnectStatus"
  | .closeStatus => "CloseStatus"
  | .bindStatus => "BindStatus"
  | .socketState => "SocketState"
  | .addressType => "AddressType"
  | .carrierProfile => "CarrierProfile"
  | .associationStatus => "AssociationStatus"

/-- The documented codes of a set. -/
def book : CodeSet → List CodeEntry
  | .atStatus =>
    [⟨0x00, "Ok", "OK"⟩,
     ⟨0x01, "Error", "ERROR"⟩,
     ⟨0x02, "BadCommand", "BAD_COMMAND"⟩,
     ⟨0x03, "BadParam", "BAD_PARAM"⟩]
  | .deliveryStatus =>
    [⟨0x00, "Ok", "OK"⟩,
     ⟨0x20, "ConnectionNotFound", "CONNECTION_NOT_FOUND"⟩,
     ⟨0x21, "NetworkFailure", "NETWORK_FAILURE"⟩,
     ⟨0x22, "NetworkDisconnected", "NETWORK_DISCONNECTED"⟩,
     ⟨0x2C, "BadFrame", "BAD_FRAME"⟩,
     ⟨0x31, "InternalError", "INTERNAL_ERROR"⟩,
     ⟨0x32, "ResourceError", "RESOURCE_ERROR"⟩,
     ⟨0x74, "MessageTooLong", "MESSAGE_TOO_LONG"⟩,
     ⟨0x76, "SocketClosedUnexpectedly", "SOCKET_CLOSED_UNEXPECTEDLY"⟩,
     ⟨0x78, "BadUdpPort", "BAD_UDP_PORT"⟩,
     ⟨0x79, "BadTcpPort", "BAD_TCP_PORT"⟩,
     ⟨0x7A, "BadIpAddress", "BAD_IP_ADDRESS"⟩,
     ⟨0x7B, "BadDataMode", "BAD_DATA_MODE"⟩,
     ⟨0x7C, "BadInterface", "BAD_INTERFACE"⟩,
     ⟨0x7D, "InterfaceClosed", "INTERFACE_CLOSED"⟩,
     ⟨0x7E, "ModemUpdate", "MODEM_UPDATE"⟩,
     ⟨0x80, "ConnectionRefused", "CONNECTION_REFUSED"⟩,
     ⟨0x81, "ConnectionLost", "CONNECTION_LOST"⟩,
     ⟨0x82, "NoServer", "NO_SERVER"⟩,
     ⟨0x83, "SocketClosed", "SOCKET_CLOSED"⟩,
     ⟨0x84, "UnknownServer", "UNKNOWN_SERVER"⟩,
     ⟨0x85, "UnknownError", "UNKNOWN_ERROR"⟩,
     ⟨0x86, "BadTlsConfig", "BAD_TLS_CONFIG"⟩,
     ⟨0x87, "SocketDisconnected", "SOCKET_DISCONNECTED"⟩,
     ⟨0x88, "SocketUnbound", "SOCKET_UNBOUND"⟩,
     ⟨0x89, "SocketInactivityTimeout", "SOCKET_INACTIVITY_TIMEOUT"⟩,
     ⟨0x8A, "NetworkPdpDeactivated", "NETWORK_PDP_DEACTIVATED"⟩,
     ⟨0x8B, "TlsAuthenticationError", "TLS_AUTHENTICATION_ERROR"⟩]
  | .modemStatus =>
    [⟨0x00, "PowerUp", "POWER_UP"⟩,
     ⟨0x01, "WatchdogReset", "WATCHDOG_RESET"⟩,
     ⟨0x02, "Registered", "REGISTERED"⟩,
     ⟨0x03, "Unregistered", "UNREGISTERED"⟩,
     ⟨0x0E, "ManagerConnected", "MANAGER_CONNECTED"⟩,
     ⟨0x0F, "ManagerDisconnected", "MANAGER_DISCONNECTED"⟩,
     ⟨0x38, "UpdateStarted", "UPDATE_STARTED"⟩,
     ⟨0x39, "UpdateFailed", "UPDATE_FAILED"⟩,
     ⟨0x3A, "UpdateApplying", "UPDATE_APPLYING"⟩]
  | .ipProtocol =>
    [⟨0x00, "Udp", "UDP"⟩,
     ⟨0x01, "Tcp", "TCP"⟩,
     ⟨0x04, "Tls", "TLS"⟩]
  | .transmitOption =>
    [⟨0x00, "NoOptions", "NO_OPTIONS"⟩,
     ⟨0x02, "CloseSocket", "CLOSE_SOCKET"⟩]
  | .relayInterface =>
    [⟨0x00, "SerialPort", "SERIAL_PORT"⟩,
     ⟨0x01, "Ble", "BLE"⟩,
     ⟨0x02, "Python", "PYTHON"⟩]
  | .firmwareStatus =>
    [⟨0x00, "Ok", "OK"⟩,
     ⟨0x02, "InProgress", "IN_PROGRESS"⟩,
     ⟨0x03, "NotStarted", "NOT_STARTED"⟩,
     ⟨0x04, "SequenceError", "SEQUENCE_ERROR"⟩,
     ⟨0x05, "InternalError", "INTERNAL_ERROR"⟩,
     ⟨0x06, "ResourceError", "RESOURCE_ERROR"⟩]
  | .gnssCommand =>
    [⟨0x00, "StartOneShot", "START_ONESHOT"⟩,
     ⟨0x04, "StopOneShot", "STOP_ONESHOT"⟩,
     ⟨0x05, "StartNmea", "START_NMEA"⟩,
     ⟨0x06, "StopNmea", "STOP_NMEA"⟩]
  | .gnssStatus =>
    [⟨0x00, "Ok", "OK"⟩,
     ⟨0x01, "Error", "ERROR"⟩]
  | .gnssFixStatus =>
    [⟨0x00, "Ok", "OK"⟩,
     ⟨0x01, "Invalid", "INVALID"⟩,
     ⟨0x02, "Timeout", "TIMEOUT"⟩,
     ⟨0x03, "Cancelled", "CANCELLED"⟩]
  | .createStatus =>
    [⟨0x00, "Ok", "OK"⟩,
     ⟨0x22, "NotRegistered", "NOT_REGISTERED"⟩,
     ⟨0x31, "InternalError", "INTERNAL_ERROR"⟩,
     ⟨0x32, "ResourceError", "RESOURCE_ERROR"⟩,
     ⟨0x7B, "BadProtocol", "BAD_PROTOCOL"⟩,
     ⟨0x7E, "ModemUpdate", "MODEM_UPDATE"⟩,
     ⟨0x85, "UnknownError", "UNKNOWN_ERROR"⟩,
     ⟨0x86, "BadTlsProfile", "BAD_TLS_PROFILE"⟩]
  | .optionStatus =>
    [⟨0x00, "Ok", "OK"⟩,
     ⟨0x01, "BadParam", "BAD_PARAM"⟩,
     ⟨0x02, "Failed", "FAILED"⟩,
     ⟨0x20, "BadSocket", "BAD_SOCKET"⟩]
  | .connectStatus =>
    [⟨0x00, "Started", "STARTED"⟩,
     ⟨0x01, "BadAddressType", "BAD_ADDRESS_TYPE"⟩,
     ⟨0x02, "BadParam", "BAD_PARAM"⟩,
     ⟨0x03, "AlreadyInProgress", "ALREADY_IN_PROGRESS"⟩,
     ⟨0x04, "AlreadyConnected", "ALREADY_CONNECTED"⟩,
     ⟨0x05, "UnknownError", "UNKNOWN_ERROR"⟩,
     ⟨0x20, "BadSocket", "BAD_SOCKET"⟩]
  | .closeStatus =>
    [⟨0x00, "Ok", "OK"⟩,
     ⟨0x20, "BadSocket", "BAD_SOCKET"⟩]
  | .bindStatus =>
    [⟨0x00, "Ok", "OK"⟩,
     ⟨0x01, "BadPort", "BAD_PORT"⟩,
     ⟨0x02, "Error", "ERROR"⟩,
     ⟨0x03, "AlreadyBound", "ALREADY_BOUND"⟩,
     ⟨0x20, "BadSocket", "BAD_SOCKET"⟩]
  | .socketState =>
    [⟨0x00, "Connected", "CONNECTED"⟩,
     ⟨0x01, "FailedDns", "FAILED_DNS"⟩,
     ⟨0x02, "ConnectionRefused", "CONNECTION_REFUSED"⟩,
     ⟨0x03, "TransportClosed", "TRANSPORT_CLOSED"⟩,
     ⟨0x04, "TimedOut", "TIMED_OUT"⟩,
     ⟨0x05, "InternalError", "INTERNAL_ERROR"⟩,
     ⟨0x06, "HostUnreachable", "HOST_UNREACHABLE"⟩,
     ⟨0x07, "ConnectionLost", "CONNECTION_LOST"⟩,
     ⟨0x08, "UnknownError", "UNKNOWN_ERROR"⟩,
     ⟨0x09, "UnknownServer", "UNKNOWN_SERVER"⟩,
     ⟨0x0A, "ResourceError", "RESOURCE_ERROR"⟩,
     ⟨0x0B, "ResetByPeer", "RESET_BY_PEER"⟩,
     ⟨0x0C, "InactivityClosed", "INACTIVITY_CLOSED"⟩,
     ⟨0x0D, "PdpDeactivated", "PDP_DEACTIVATED"⟩]
  | .addressType =>
    [⟨0x00, "Binary", "BINARY"⟩,
     ⟨0x01, "Text", "TEXT"⟩]
  | .carrierProfile =>
    [⟨0x00, "Autodetect", "AUTODETECT"⟩,
     ⟨0x01, "NoProfile", "NO_PROFILE"⟩,
     ⟨0x02, "Att", "ATT"⟩,
     ⟨0x03, "Verizon", "VERIZON"⟩,
     ⟨0x04, "Australia", "AUSTRALIA"⟩,
     ⟨0xFF, "UnknownProfile", "UNKNOWN_PROFILE"⟩]
  | .associationStatus =>
    [⟨0x00, "Connected", "CONNECTED"⟩,
     ⟨0x22, "Registering", "REGISTERING"⟩,
     ⟨0x23, "Connecting", "CONNECTING"⟩,
     ⟨0x24, "NoHardware", "NO_HARDWARE"⟩,
     ⟨0x25, "RegistrationDenied", "REGISTRATION_DENIED"⟩,
     ⟨0x2A, "AirplaneMode", "AIRPLANE_MODE"⟩,
     ⟨0x2B, "UsbDirectMode", "USB_DIRECT_MODE"⟩,
     ⟨0x2C, "PowerSaveMode", "POWER_SAVE_MODE"⟩,
     ⟨0x2D, "CommandedShutdown", "COMMANDED_SHUTDOWN"⟩,
     ⟨0x2E, "LowVoltageShutdown", "LOW_VOLTAGE_SHUTDOWN"⟩,
     ⟨0x2F, "BypassMode", "BYPASS_MODE"⟩,
     ⟨0x30, "FirmwareUpdate", "FIRMWARE_UPDATE"⟩,
     ⟨0x31, "RegulatoryTesting", "REGULATORY_TESTING"⟩,
     ⟨0xFF, "Initializing", "INITIALIZING"⟩]

end CodeSet

/-- A code of the set `set`, kept as its byte. -/
structure Code (set : CodeSet) where
  raw : UInt8
  deriving DecidableEq, Repr

namespace Code

variable {set : CodeSet}

/-- The documented name of a code, or its number. -/
def name (code : Code set) : String := codeName set.book code.raw.toNat

/-- The text shown for a code. -/
def text (code : Code set) : String := codeText set.book code.raw.toNat

end Code

/-- Result of a local AT command. -/
abbrev AtStatus := Code .atStatus

/-- Delivery result in a transmit status frame. -/
abbrev DeliveryStatus := Code .deliveryStatus

/-- Event that the modem reports unasked. -/
abbrev ModemStatusCode := Code .modemStatus

/-- Transport protocol of IP and socket frames. -/
abbrev IpProtocol := Code .ipProtocol

/-- Option byte of an IP transmission. -/
abbrev TransmitOption := Code .transmitOption

/-- Endpoint of a relay frame. -/
abbrev RelayInterface := Code .relayInterface

/-- Result of one firmware update step. -/
abbrev FirmwareStatus := Code .firmwareStatus

/-- Positioning request. -/
abbrev GnssCommand := Code .gnssCommand

/-- Acknowledgement of a positioning request. -/
abbrev GnssStatus := Code .gnssStatus

/-- Result of a one-shot position fix. -/
abbrev GnssFixStatus := Code .gnssFixStatus

/-- Result of a socket creation. -/
abbrev CreateStatus := Code .createStatus

/-- Result of a socket option access. -/
abbrev OptionStatus := Code .optionStatus

/-- Result of a connect request; success only means that the attempt started. -/
abbrev ConnectStatus := Code .connectStatus

/-- Result of a socket close. -/
abbrev CloseStatus := Code .closeStatus

/-- Result of a bind and listen request. -/
abbrev BindStatus := Code .bindStatus

/-- State of a socket; in all but `Connected` the modem has closed it. -/
abbrev SocketState := Code .socketState

/-- How a connect request writes its destination. -/
abbrev AddressType := Code .addressType

/-- Carrier profile (`CP`). -/
abbrev CarrierProfile := Code .carrierProfile

/-- Cellular association (`AI`). -/
abbrev AssociationStatus := Code .associationStatus

/-! ## The codes that the stack acts upon -/

/-- The command was carried out. -/
def AtStatus.ok : AtStatus := ⟨0x00⟩

/-- The data was delivered. -/
def DeliveryStatus.ok : DeliveryStatus := ⟨0x00⟩

/-- The modem has started. -/
def ModemStatusCode.powerUp : ModemStatusCode := ⟨0x00⟩

/-- The modem has restarted itself. -/
def ModemStatusCode.watchdogReset : ModemStatusCode := ⟨0x01⟩

/-- The modem has joined the network. -/
def ModemStatusCode.registered : ModemStatusCode := ⟨0x02⟩

/-- The modem has lost the network. -/
def ModemStatusCode.unregistered : ModemStatusCode := ⟨0x03⟩

/-- The modem is applying a firmware update. -/
def ModemStatusCode.updateApplying : ModemStatusCode := ⟨0x3A⟩

/-- Datagrams. -/
def IpProtocol.udp : IpProtocol := ⟨0x00⟩

/-- A plain stream. -/
def IpProtocol.tcp : IpProtocol := ⟨0x01⟩

/-- An encrypted stream. -/
def IpProtocol.tls : IpProtocol := ⟨0x04⟩

/-- The socket exists. -/
def CreateStatus.ok : CreateStatus := ⟨0x00⟩

/-- The attempt has started. -/
def ConnectStatus.started : ConnectStatus := ⟨0x00⟩

/-- The socket is closed. -/
def CloseStatus.ok : CloseStatus := ⟨0x00⟩

/-- Data can flow. -/
def SocketState.connected : SocketState := ⟨0x00⟩

/-- The destination is written as text. -/
def AddressType.byText : AddressType := ⟨0x01⟩

/-- No profile has been read yet. -/
def CarrierProfile.unknownProfile : CarrierProfile := ⟨0xFF⟩

/-- Registered and connected. -/
def AssociationStatus.connected : AssociationStatus := ⟨0x00⟩

/-- Looking for a network. -/
def AssociationStatus.registering : AssociationStatus := ⟨0x22⟩

/-- Updating firmware. -/
def AssociationStatus.firmwareUpdate : AssociationStatus := ⟨0x30⟩

/-- Starting up. -/
def AssociationStatus.initializing : AssociationStatus := ⟨0xFF⟩

/-! ## Radio access technology -/

/-- Radio access technology (`OT`), a code of two bytes. -/
structure Technology where
  raw : UInt16
  deriving DecidableEq, Repr

namespace Technology

/-- The documented technologies. -/
def book : List CodeEntry :=
  [⟨0x0000, "Gsm", "GSM"⟩,
   ⟨0x0008, "LteM", "LTE_M"⟩,
   ⟨0x0009, "NbIot", "NB_IOT"⟩,
   ⟨0xFFFF, "UnknownTech", "UNKNOWN_TECH"⟩]

/-- The documented name of a technology, or its number. -/
def name (technology : Technology) : String := codeName book technology.raw.toNat

/-- The text shown for a technology. -/
def text (technology : Technology) : String := codeText book technology.raw.toNat

/-- No technology has been read yet. -/
def unknownTech : Technology := ⟨0xFFFF⟩

end Technology

end CellStation
