import CellStation.Display
import CellStation.Keeper
import CellStation.Monitor
import CellStation.Mqtt.Adapter
import CellStation.Radio

/-!
# Station

A station ties a radio, a status monitor, a socket keeper and an adapter for a messaging
engine together. It is driven by ticks.

A tick first handles every frame that the radio has ready : the monitor, the keeper and
the adapter see each in this order, the adapter without room to send. Then the monitor,
the keeper and the adapter send at most one request each, in this order, each within the
space that the radio has left. Last the adapter is bound to the socket that the keeper
hands out, and the display is refreshed.

The clock is read at each poll of the radio, while a frame is handled, and in the turns of the
monitor and the keeper (`Readings`). The program stops where a sum of one of these turns has no
room in a word.
-/

namespace CellStation

/-- The version of the stack. -/
def version : String := "0.1.0"

/-- Lines that a station shows. -/
def displayLines : Nat := 5

/-- A station over a radio `ρ`, a messaging engine `ε` and a display `δ`. -/
structure Station (ρ ε δ : Type) where
  name : String
  radio : ρ
  display : δ
  monitor : Monitor
  keeper : Option Keeper
  mqtt : Option (MqttAdapter ε)
  ticks : Nat

/-- The readings of the clock in a tick. -/
structure Readings where
  /-- At each poll of the radio, and while the frame that it hands out is handled. -/
  polls : List (Millis × Millis)
  /-- In the turn of the monitor. -/
  monitor : Millis
  /-- In the turn of the keeper. -/
  keeper : Millis
  deriving DecidableEq, Repr

/-- The readings of a clock that is held, for so many polls. -/
def Readings.held (now : Millis) (polls : Nat) : Readings where
  polls := List.replicate polls (now, now)
  monitor := now
  keeper := now

/-- A station within a tick, with what the tick has come to so far. -/
structure Tick (ρ ε δ : Type) where
  station : Station ρ ε δ
  /-- The inbound frames handled, in order. -/
  handled : List Frame
  /-- The requests queued, in order. -/
  queued : List Request
  /-- The requests made and not queued, in order. -/
  dropped : List Request
  /-- The calls of the messaging engine, in order. -/
  calls : List EngineCall
  /-- The messages handed to the application, in order. -/
  published : List Message

namespace Station

variable {ρ ε δ : Type}

/-- The station of a configuration, without a messaging engine. -/
def ofConfig (config : Config) (radio : ρ) (display : δ) : Except Error (Station ρ ε δ) := do
  config.validate
  let monitor ← Monitor.ofConfig config.monitor
  let keeper ← config.socket.mapM Keeper.ofConfig
  return { name := config.station.name, radio, display, monitor, keeper, mqtt := none, ticks := 0 }

/-- The station with a messaging engine over the kept socket. -/
def withMqtt [MqttEngine ε] (station : Station ρ ε δ) (engine : ε) (config : Config) :
    Except Error (Station ρ ε δ) := do
  let adapter ← MqttAdapter.ofConfig engine config.mqtt
  return { station with mqtt := some adapter }

/-- The socket that the keeper hands out. -/
def keptSocket (station : Station ρ ε δ) : Option UInt8 := station.keeper.bind Keeper.socket

/-! ## The display -/

/-- Which socket is in use, or what is being done about one. -/
def socketLine (station : Station ρ ε δ) : String :=
  match station.keeper with
  | none => "No socket"
  | some keeper =>
    match keeper.socket with
    | some socket => s!"Socket {socket} {station.monitor.status.ipAddress.text}"
    | none => s!"Socket {keeper.phase.text}"

/-- The display lines, in order. -/
def lines [Radio ρ] (station : Station ρ ε δ) : List String :=
  let status := station.monitor.status
  [station.name,
   s!"XBee {Radio.stateText station.radio}",
   s!"{status.associationText} {status.networkOperator}",
   s!"{status.technologyText} {status.power.text}dBm {status.quality.text}dB",
   station.socketLine]

theorem length_lines [Radio ρ] (station : Station ρ ε δ) :
    station.lines.length = displayLines := rfl

/-- Refresh the display. -/
def render [Radio ρ] [Display δ] (station : Station ρ ε δ) : Station ρ ε δ :=
  { station with
    display := station.lines.zipIdx.foldl (fun display (text, index) =>
      Display.setLine index text display) station.display }

end Station

namespace Tick

variable {ρ ε δ : Type}

/-- Queue a request, if there is one. -/
def queue [Radio ρ] (tick : Tick ρ ε δ) : Option Request → Tick ρ ε δ
  | none => tick
  | some request =>
    { tick with
      station :=
        { tick.station with radio := Radio.enqueue request.frame tick.station.radio }
      queued := tick.queued ++ [request] }

/-- Let the adapter take a step; a socket that it gives up goes back to the keeper. -/
def runMqtt [MqttEngine ε] (tick : Tick ρ ε δ) (frame : Frame) (space : Nat) :
    Option Request × Tick ρ ε δ :=
  match tick.station.mqtt with
  | none => (none, tick)
  | some adapter =>
    let step := adapter.process frame space
    let (abandoned, adapter) := step.adapter.takeAbandoned
    let keeper :=
      match abandoned with
      | some socket => tick.station.keeper.map fun keeper => keeper.closeStarted socket
      | none => tick.station.keeper
    (step.request,
      { tick with
        station := { tick.station with keeper, mqtt := some adapter }
        calls := tick.calls ++ step.calls
        published := tick.published ++ step.published })

/-! ## Inbound frames -/

/-- Handle one inbound frame. What the adapter would send is not queued. -/
def handle [MqttEngine ε] (tick : Tick ρ ε δ) (now : Millis) (frame : Frame) : Tick ρ ε δ :=
  let station := tick.station
  let tick : Tick ρ ε δ :=
    { tick with
      station :=
        { station with
          monitor := station.monitor.onIncoming now frame
          keeper := station.keeper.map fun keeper => keeper.onIncoming frame }
      handled := tick.handled ++ [frame] }
  let (request, tick) := tick.runMqtt frame 0
  { tick with dropped := tick.dropped ++ request.toList }

/-- Handle every frame that the radio has ready; there is no answer when it still hands out
frames after as many polls as there are readings. -/
def drain? [Radio ρ] [MqttEngine ε] : List (Millis × Millis) → Tick ρ ε δ → Option (Tick ρ ε δ)
  | [], _ => none
  | (polled, now) :: readings, tick =>
    match Radio.poll polled tick.station.radio with
    | (none, radio) => some { tick with station := { tick.station with radio } }
    | (some frame, radio) =>
      drain? readings ({ tick with station := { tick.station with radio } }.handle now frame)

/-! ## Outbound requests -/

/-- Let the monitor send. -/
def monitorTurn [Radio ρ] (tick : Tick ρ ε δ) (now : Millis) :
    Except Overflow (Tick ρ ε δ) := do
  let station := tick.station
  let (request, monitor) ← station.monitor.nextRequest now (Radio.space station.radio)
  return { tick with station := { station with monitor } }.queue request

/-- Let the keeper send. -/
def keeperTurn [Radio ρ] (tick : Tick ρ ε δ) (now : Millis) : Except Overflow (Tick ρ ε δ) :=
  let station := tick.station
  match station.keeper with
  | none => .ok tick
  | some keeper => do
    let (request, keeper) ← keeper.nextRequest now (Radio.space station.radio)
    return { tick with station := { station with keeper := some keeper } }.queue request

/-- Let the adapter send. -/
def mqttTurn [Radio ρ] [MqttEngine ε] (tick : Tick ρ ε δ) : Tick ρ ε δ :=
  let (request, tick) := tick.runMqtt .empty (Radio.space tick.station.radio)
  tick.queue request

/-- Let the monitor, the keeper and the adapter send. -/
def turns [Radio ρ] [MqttEngine ε] (tick : Tick ρ ε δ) (readings : Readings) :
    Except Overflow (Tick ρ ε δ) := do
  let tick ← tick.monitorTurn readings.monitor
  let tick ← tick.keeperTurn readings.keeper
  return tick.mqttTurn

/-- Bind the adapter to the socket that the keeper hands out. -/
def rebind [MqttEngine ε] (tick : Tick ρ ε δ) : Tick ρ ε δ :=
  let station := tick.station
  let mqtt := station.mqtt.map fun adapter => adapter.useSocket station.keptSocket
  { tick with station := { station with mqtt } }

end Tick

namespace Station

variable {ρ ε δ : Type} [Radio ρ] [MqttEngine ε] [Display δ]

/-- The start of a tick. -/
def beginTick (station : Station ρ ε δ) : Tick ρ ε δ := ⟨station, [], [], [], [], []⟩

/-- One tick, if the radio hands out fewer frames than there are readings at its polls. -/
def tick? (station : Station ρ ε δ) (readings : Readings) :
    Option (Except Overflow (Tick ρ ε δ)) :=
  (station.beginTick.drain? readings.polls).map fun drained => do
    let tick := (← drained.turns readings).rebind
    let station := tick.station.render
    return { tick with station := { station with ticks := station.ticks + 1 } }

end Station

end CellStation
