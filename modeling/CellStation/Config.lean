import CellStation.Clock
import CellStation.Error
import CellStation.Text.Utf8

/-!
# Configuration

The configuration of a station in five sections, with the value each field has when it is
not given, and the checks a configuration must pass before a station is built from it.
-/

namespace CellStation

/-- Transport protocol of the kept socket. -/
inductive Transport where
  | udp
  | tcp
  | tls
  deriving DecidableEq, Repr

namespace Transport

/-- Every protocol. -/
def all : List Transport := [udp, tcp, tls]

/-- The name of a protocol. -/
def name : Transport → String
  | udp => "udp"
  | tcp => "tcp"
  | tls => "tls"

/-- The code of a protocol. -/
def code : Transport → IpProtocol
  | udp => .udp
  | tcp => .tcp
  | tls => .tls

end Transport

/-- The serial line to the modem. -/
structure SerialConfig where
  /-- Path of the serial device. -/
  device : String := "/dev/ttyUSB0"
  /-- Bytes reported as writable per poll. -/
  writeChunk : UInt64 := 256
  deriving DecidableEq, Repr

/-- The status monitor and what is written to the modem at the start. -/
structure MonitorConfig where
  /-- Time between two polls of one fact. -/
  pollInterval : Duration := .ofMillis 10000
  /-- Carrier profile to write. -/
  carrierProfile : Option UInt8 := none
  /-- Access point name to write. -/
  apn : Option String := none
  deriving DecidableEq, Repr

/-- Least time between two attempts to create a socket when none is given. -/
def defaultRetryInterval : Duration := .ofMillis 3000

/-- The destination kept open. -/
structure SocketConfig where
  /-- Host name or dotted address. -/
  host : String
  /-- Destination port. -/
  port : UInt16
  /-- Transport protocol. -/
  protocol : Transport
  /-- Least time between two attempts to create the socket. -/
  retryInterval : Duration := defaultRetryInterval
  deriving DecidableEq, Repr

/-- The buffers of the messaging engine. -/
structure MqttConfig where
  txBuffer : UInt64 := 2048
  rxBuffer : UInt64 := 2048
  deriving DecidableEq, Repr

/-- The loop of the station. -/
structure StationConfig where
  /-- Time between two ticks. -/
  tickInterval : Duration := .ofMillis 5
  /-- A tick that takes longer is slow. -/
  slowTick : Duration := .ofMillis 5
  /-- Name shown on the first display line. -/
  name : String := "BLUB Station"
  deriving DecidableEq, Repr

/-- The configuration of a station. -/
structure Config where
  serial : SerialConfig := {}
  monitor : MonitorConfig := {}
  /-- The socket to keep open, if one is to be kept. -/
  socket : Option SocketConfig := none
  mqtt : MqttConfig := {}
  station : StationConfig := {}
  deriving DecidableEq, Repr

/-- The size of an access point name is one that the modem accepts. -/
def apnFits (apn : String) : Bool := 0 < Text.size apn && Text.size apn ≤ maxApnBytes

/-! ## Checks -/

/-- The first check of the section that fails. -/
def SerialConfig.fault? (config : SerialConfig) : Option ConfigError :=
  if config.device = "" then some .devicePathEmpty
  else if config.writeChunk = 0 then some .writeChunkZero
  else none

/-- The first check of the section that fails. -/
def MonitorConfig.fault? (config : MonitorConfig) : Option ConfigError :=
  if config.pollInterval.nanos = 0 then some .pollIntervalZero
  else
    match config.apn with
    | some apn => if apnFits apn then none else some (.apnSize (Text.size apn))
    | none => none

/-- The first check of the section that fails. -/
def SocketConfig.fault? (config : SocketConfig) : Option ConfigError :=
  if config.host = "" then some .hostEmpty
  else if config.port = 0 then some .portZero
  else none

/-- The check of the section. -/
def MqttConfig.fault? (config : MqttConfig) : Option ConfigError :=
  if config.txBuffer = 0 ∨ config.rxBuffer = 0 then some .buffersZero else none

/-- The check of the section. -/
def StationConfig.fault? (config : StationConfig) : Option ConfigError :=
  if config.tickInterval.nanos = 0 then some .tickIntervalZero else none

namespace Config

/-- The first check that fails, section by section. -/
def fault? (config : Config) : Option ConfigError :=
  config.serial.fault? <|> config.monitor.fault? <|>
    config.socket.bind SocketConfig.fault? <|> config.mqtt.fault? <|> config.station.fault?

/-- Check a configuration. -/
def validate (config : Config) : Except Error Unit :=
  match config.fault? with
  | some cause => .error (.config cause)
  | none => .ok ()

end Config

end CellStation
