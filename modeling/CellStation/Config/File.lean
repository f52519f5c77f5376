import CellStation.Config
import CellStation.Json.Printer
import CellStation.Json.Reader

/-!
# Configuration files

A configuration file is a JSON object of sections. A section or a field that is not given
has its default, only the destination of a socket must be given whole. Durations are written and
read as whole milliseconds. What is written by `Config.toJson` is read back by `Config.ofJson?`.
-/

namespace CellStation

/-! ## Sections as JSON -/

namespace Duration

/-- Read a duration. -/
def ofJson? (json : Json) : Option Duration := json.uint64?.map ofMillis

/-- Write a duration. -/
def toJson (duration : Duration) : Json := .ofNat duration.lowMillis.toNat

end Duration

namespace Transport

/-- The protocol with a name. -/
def ofName? (name : String) : Option Transport := all.find? (·.name == name)

/-- A protocol is its name, alone or as the only key of an object with nothing in it. -/
def ofJson? : Json → Option Transport
  | .str (some name) => ofName? name
  | .obj [(some name, .null)] => ofName? name
  | _ => none

/-- The name of a protocol. -/
def toJson (protocol : Transport) : Json := .ofText protocol.name

end Transport

namespace SerialConfig

/-- Read the section. -/
def ofJson? (json : Json) : Option SerialConfig :=
  match json.fields? ["device", "write_chunk"] with
  | some [device, writeChunk] => do
    let default : SerialConfig := {}
    let device ← Json.orDefault? Json.text? default.device device
    let writeChunk ← Json.orDefault? Json.uint64? default.writeChunk writeChunk
    return { device, writeChunk }
  | _ => none

/-- Write the section. -/
def toJson (config : SerialConfig) : Json :=
  .ofMembers [("device", .ofText config.device), ("write_chunk", .ofNat config.writeChunk.toNat)]

end SerialConfig

namespace MonitorConfig

/-- Read the section. -/
def ofJson? (json : Json) : Option MonitorConfig :=
  match json.fields? ["poll_interval", "carrier_profile", "apn"] with
  | some [pollInterval, carrierProfile, apn] => do
    let default : MonitorConfig := {}
    let pollInterval ← Json.orDefault? Duration.ofJson? default.pollInterval pollInterval
    let carrierProfile ←
      Json.orDefault? (Json.nullable? Json.uint8?) default.carrierProfile carrierProfile
    let apn ← Json.orDefault? (Json.nullable? Json.text?) default.apn apn
    return { pollInterval, carrierProfile, apn }
  | _ => none

/-- Write the section. -/
def toJson (config : MonitorConfig) : Json :=
  .ofMembers
    [("poll_interval", config.pollInterval.toJson),
     ("carrier_profile", .ofOption (fun raw => .ofNat raw.toNat) config.carrierProfile),
     ("apn", .ofOption .ofText config.apn)]

end MonitorConfig

namespace SocketConfig

/-- Read the section. -/
def ofJson? (json : Json) : Option SocketConfig :=
  match json.fields? ["host", "port", "protocol", "retry_interval"] with
  | some [host, port, protocol, retryInterval] => do
    let host ← Json.required? Json.text? host
    let port ← Json.required? Json.uint16? port
    let protocol ← Json.required? Transport.ofJson? protocol
    let retryInterval ← Json.orDefault? Duration.ofJson? defaultRetryInterval retryInterval
    return { host, port, protocol, retryInterval }
  | _ => none

/-- Write the section. -/
def toJson (config : SocketConfig) : Json :=
  .ofMembers
    [("host", .ofText config.host), ("port", .ofNat config.port.toNat),
     ("protocol", config.protocol.toJson),
     ("retry_interval", config.retryInterval.toJson)]

end SocketConfig

namespace MqttConfig

/-- Read the section. -/
def ofJson? (json : Json) : Option MqttConfig :=
  match json.fields? ["tx_buffer", "rx_buffer"] with
  | some [txBuffer, rxBuffer] => do
    let default : MqttConfig := {}
    let txBuffer ← Json.orDefault? Json.uint64? default.txBuffer txBuffer
    let rxBuffer ← Json.orDefault? Json.uint64? default.rxBuffer rxBuffer
    return { txBuffer, rxBuffer }
  | _ => none

/-- Write the section. -/
def toJson (config : MqttConfig) : Json :=
  .ofMembers
    [("tx_buffer", .ofNat config.txBuffer.toNat), ("rx_buffer", .ofNat config.rxBuffer.toNat)]

end MqttConfig

namespace StationConfig

/-- Read the section. -/
def ofJson? (json : Json) : Option StationConfig :=
  match json.fields? ["tick_interval", "slow_tick", "name"] with
  | some [tickInterval, slowTick, name] => do
    let default : StationConfig := {}
    let tickInterval ← Json.orDefault? Duration.ofJson? default.tickInterval tickInterval
    let slowTick ← Json.orDefault? Duration.ofJson? default.slowTick slowTick
    let name ← Json.orDefault? Json.text? default.name name
    return { tickInterval, slowTick, name }
  | _ => none

/-- Write the section. -/
def toJson (config : StationConfig) : Json :=
  .ofMembers
    [("tick_interval", config.tickInterval.toJson), ("slow_tick", config.slowTick.toJson),
     ("name", .ofText config.name)]

end StationConfig

namespace Config

/-- Read a configuration. -/
def ofJson? (json : Json) : Option Config :=
  match json.fields? ["serial", "monitor", "socket", "mqtt", "station"] with
  | some [serial, monitor, socket, mqtt, station] => do
    let serial ← Json.orDefault? SerialConfig.ofJson? {} serial
    let monitor ← Json.orDefault? MonitorConfig.ofJson? {} monitor
    let socket ← Json.orDefault? (Json.nullable? SocketConfig.ofJson?) none socket
    let mqtt ← Json.orDefault? MqttConfig.ofJson? {} mqtt
    let station ← Json.orDefault? StationConfig.ofJson? {} station
    return { serial, monitor, socket, mqtt, station }
  | _ => none

/-- Write a configuration, every field given. -/
def toJson (config : Config) : Json :=
  .ofMembers
    [("serial", config.serial.toJson), ("monitor", config.monitor.toJson),
     ("socket", .ofOption SocketConfig.toJson config.socket), ("mqtt", config.mqtt.toJson),
     ("station", config.station.toJson)]

/-! ## Files -/

/-- The configuration that the contents of a file stand for. -/
def parse (contents : ByteArray) : Except Error Config :=
  match String.fromUTF8? contents with
  | none => .error (.transfer "stream did not contain valid UTF-8")
  | some text =>
    match (Json.parse? text).bind ofJson? with
    | some config => .ok config
    | none => .error .json

/-- The configuration of a file, if it passes the checks. -/
def load (contents : ByteArray) : Except Error Config := do
  let config ← parse contents
  config.validate
  return config

end Config

end CellStation
