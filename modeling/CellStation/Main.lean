import CellStation.Config.File
import CellStation.Radio.Modem
import CellStation.Serial.Queued
import CellStation.Station

/-!
# Command line

The program takes the path of a configuration file, or nothing for the default
configuration, and ticks a station over the modem at the configured device until it is
stopped. Each display line is printed when it changes. The device keeps the line rate it
was opened with : the rates that the bring-up asks for are for the device to follow.
-/

namespace CellStation

/-- A station over a modem at a device, without a messaging engine. -/
abbrev Board := Station (Modem (HostLine QueuedPort)) Empty LineDisplay

namespace Board

/-- The port under the modem. -/
def port (board : Board) : QueuedPort := board.radio.link.port

/-- The board with another port. -/
def withPort (board : Board) (port : QueuedPort) : Board :=
  { board with radio := { board.radio with link := { board.radio.link with port } } }

/-- The board of a configuration, at a clock reading. -/
def ofConfig (config : Config) (now : Millis) : Except Error Board :=
  let line : HostLine QueuedPort := ⟨.atRate commandBaud, config.serial.writeChunk.toNat⟩
  Station.ofConfig config (.ofLink line now) .empty

/-- Every frame takes bytes, so a tick hands out no more frames than there are bytes to read. -/
def pollLimit (board : Board) : Nat :=
  board.radio.inBuf.length + board.port.inbound.length + 1

/-- One tick in which bytes arrive : the bytes that it writes, and the board after it. -/
def exchange (board : Board) (arrived : List UInt8) (now : Millis) :
    Except Overflow (List UInt8 × Board) := do
  let board : Board := board.withPort (board.port.arrive arrived)
  let board : Board ←
    match board.tick? (.held now board.pollLimit) with
    | some outcome => outcome.map Tick.station
    | none => .ok board
  let (written, port) := board.port.collect
  return (written, board.withPort port)

end Board

/-- A serial device in use. -/
structure Device where
  /-- Where its bytes are read. -/
  source : IO.FS.Handle
  /-- Where bytes for it are written. -/
  sink : IO.FS.Handle
  /-- The bytes that have arrived since they were last taken. -/
  inbox : IO.Ref (List UInt8)

namespace Device

/-- Put into the inbox what the device sends, until it sends no more. -/
partial def listen (device : Device) : IO Unit := do
  let bytes ← device.source.read 1
  unless bytes.isEmpty do
    device.inbox.modify (· ++ bytes.toList)
    device.listen

/-- Open a device. -/
def openPath (path : String) : IO (Except Error Device) := do
  let attempt : IO Device := do
    let source ← IO.FS.Handle.mk path .read
    let sink ← IO.FS.Handle.mk path .readWrite
    return ⟨source, sink, ← IO.mkRef []⟩
  match ← attempt.toBaseIO with
  | .ok device => return .ok device
  | .error reason => return .error (.config (.deviceNotOpened path reason.toString))

/-- Take the bytes that have arrived. -/
def take (device : Device) : IO (List UInt8) := device.inbox.modifyGet fun bytes => (bytes, [])

/-- Write bytes to the device. -/
def put (device : Device) (bytes : List UInt8) : IO Unit := do
  unless bytes.isEmpty do
    device.sink.write (ByteArray.mk bytes.toArray)
    device.sink.flush

end Device

/-- The reading of the clock of the machine. -/
def clockReading : IO Millis := return UInt64.ofNat (← IO.monoMsNow)

/-- Print the lines that have changed. -/
def printChanges (before after : LineDisplay) : IO Unit := do
  for (text, index) in after.lines.zipIdx do
    unless before.line? index = some text do
      IO.println s!"{index}: {text}"
  (← IO.getStdout).flush

/-- Tick the board until the device fails or the program stops. -/
partial def runBoard (config : StationConfig) (device : Device) (board : Board) :
    IO Overflow := do
  let start ← clockReading
  match board.exchange (← device.take) start with
  | .error stop => return stop
  | .ok (written, after) =>
    device.put written
    printChanges board.display after.display
    let spent := (Millis.since (← clockReading) start).toNat
    if config.slowTick.nanos < spent * 1000000 then IO.eprintln s!"Slow tick: {spent}ms"
    IO.sleep (UInt32.ofNat (min (config.tickInterval.millis - spent) (2 ^ 32 - 1)))
    runBoard config device after

/-- The configuration that the arguments name. -/
def configOf : List String → IO (Except Error Config)
  | [] => return do
    let config : Config := {}
    config.validate
    return config
  | path :: _ => do
    match ← (IO.FS.readBinFile path).toBaseIO with
    | .ok contents => return Config.load contents
    | .error reason => return .error (.transfer reason.toString)

/-- A result, or its failure thrown in its own words. -/
def orThrow {α : Type} (result : Except Error α) : IO α :=
  IO.ofExcept (result.mapError Error.message)

/-- Run the station that the arguments name; a failure of it is thrown. -/
def runStation (arguments : List String) : IO Overflow := do
  let config ← orThrow (← configOf arguments)
  let device ← orThrow (← Device.openPath config.serial.device)
  discard <| IO.asTask device.listen .dedicated
  let board ← orThrow (Board.ofConfig config (← clockReading))
  runBoard config.station device board

end CellStation

/-- Exit code 1 says that the station failed, and 101 that the program stopped. -/
def main (arguments : List String) : IO UInt32 := do
  match ← (CellStation.runStation arguments).toBaseIO with
  | .ok stop =>
    IO.eprintln stop.message
    return 101
  | .error reason =>
    IO.eprintln s!"Station stopped: {reason}"
    return 1
