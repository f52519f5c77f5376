import CellStation.Proofs.ComponentRequests
import CellStation.Proofs.RadioRuns
import CellStation.Station

/-!
# Runs of a station

A station is built from a configuration and ticked. Between ticks it may be given a
messaging engine, the engine may be acted upon, the modem may be configured, and the kept
socket may be reconnected. `Station.Run` is such a run over a radio, with what happened in
it : the frames handled and the requests queued, in order.

A tick that the program does not stop in handles frames until the radio has none ready, and
then queues at most three requests (`Station.tick?_eq_some`). `Tick.Sends` is what queueing
requests comes to, one turn of a component or several. The turns are told without the case in
which the program stops (`Tick.turns_eq_ok`). What one handled frame preserves, the handling of
all of them preserves (`Tick.drain?_preserves`).
-/

namespace CellStation

open Radio (Call after received enqueues Fits)

/-- What a station does that its modem can tell. -/
inductive Happening where
  | handled (frame : Frame)
  | queued (request : Request)
  deriving DecidableEq, Repr

namespace Tick

variable {ρ ε δ : Type}

/-- What happens in a tick, in order. -/
def happenings (tick : Tick ρ ε δ) : List Happening :=
  tick.handled.map .handled ++ tick.queued.map .queued

/-- The tick with another radio. -/
def withRadio (tick : Tick ρ ε δ) (radio : ρ) : Tick ρ ε δ :=
  { tick with station := { tick.station with radio } }

/-! ## Queueing requests -/

section Queueing

variable [Radio ρ]

/-- Requests are queued, one after the other, each within the space there is for it. -/
structure Sends (tick : Tick ρ ε δ) (requests : List Request) (next : Tick ρ ε δ) : Prop where
  handled : next.handled = tick.handled
  dropped : next.dropped = tick.dropped
  queued : next.queued = tick.queued ++ requests
  radio : next.station.radio = after (enqueues (requests.map Request.frame)) tick.station.radio
  fits : Fits (requests.map Request.frame) tick.station.radio

theorem Sends.trans {tick middle next : Tick ρ ε δ} {first second : List Request}
    (h : Sends tick first middle) (hnext : Sends middle second next) :
    Sends tick (first ++ second) next where
  handled := hnext.handled.trans h.handled
  dropped := hnext.dropped.trans h.dropped
  queued := by rw [hnext.queued, h.queued, List.append_assoc]
  radio := by rw [hnext.radio, h.radio, List.map_append, Radio.after_enqueues_append]
  fits := by
    rw [List.map_append, Radio.fits_append, ← h.radio]
    exact ⟨h.fits, hnext.fits⟩

/-- A request that fits, or none, is queued once the component that made it is put back. -/
theorem sends_queue {tick noted : Tick ρ ε δ} {request : Option Request}
    (hradio : noted.station.radio = tick.station.radio) (hhandled : noted.handled = tick.handled)
    (hdropped : noted.dropped = tick.dropped) (hqueued : noted.queued = tick.queued)
    (hfits : ∀ made ∈ request, made.wireSize ≤ Radio.space tick.station.radio) :
    Sends tick request.toList (noted.queue request) := by
  cases request with
  | none =>
    refine ⟨hhandled, hdropped, ?_, hradio, trivial⟩
    rw [Option.toList_none, List.append_nil]
    exact hqueued
  | some made =>
    refine ⟨hhandled, hdropped, ?_, ?_, hfits made rfl, trivial⟩
    · exact congrArg (· ++ [made]) hqueued
    · exact congrArg (Radio.enqueue made.frame) hradio

@[simp] theorem keeper_queue (tick : Tick ρ ε δ) (request : Option Request) :
    (tick.queue request).station.keeper = tick.station.keeper := by
  cases request <;> rfl

@[simp] theorem mqtt_queue (tick : Tick ρ ε δ) (request : Option Request) :
    (tick.queue request).station.mqtt = tick.station.mqtt := by
  cases request <;> rfl

end Queueing

/-! ## The turns of the components -/

section Turns

variable [Radio ρ]

/-- The tick after the turn of the monitor. -/
def afterMonitor (tick : Tick ρ ε δ) (now : Millis) : Tick ρ ε δ :=
  let station := tick.station
  let (request, monitor) := station.monitor.takeTurn now (Radio.space station.radio)
  { tick with station := { station with monitor } }.queue request

theorem keeper_afterMonitor (tick : Tick ρ ε δ) (now : Millis) :
    (tick.afterMonitor now).station.keeper = tick.station.keeper :=
  keeper_queue _ _

theorem mqtt_afterMonitor (tick : Tick ρ ε δ) (now : Millis) :
    (tick.afterMonitor now).station.mqtt = tick.station.mqtt :=
  mqtt_queue _ _

/-- The tick after the turn of the keeper. -/
def afterKeeper (tick : Tick ρ ε δ) (now : Millis) : Tick ρ ε δ :=
  let station := tick.station
  match station.keeper with
  | none => tick
  | some keeper =>
    let (request, keeper) := keeper.takeTurn now (Radio.space station.radio)
    { tick with station := { station with keeper := some keeper } }.queue request

theorem monitorTurn_eq_ok {tick next : Tick ρ ε δ} {now : Millis}
    (h : tick.monitorTurn now = .ok next) : next = tick.afterMonitor now := by
  obtain ⟨turn, hturn, hnext⟩ := bind_eq_ok_iff.mp h
  rw [afterMonitor, Monitor.takeTurn_of_ok hturn]
  exact (Except.ok.inj hnext).symm

theorem keeperTurn_eq_ok {tick next : Tick ρ ε δ} {now : Millis}
    (h : tick.keeperTurn now = .ok next) : next = tick.afterKeeper now := by
  cases hkeeper : tick.station.keeper with
  | none =>
    rw [keeperTurn, hkeeper] at h
    rw [afterKeeper, hkeeper]
    exact (Except.ok.inj h).symm
  | some keeper =>
    rw [keeperTurn, hkeeper] at h
    obtain ⟨turn, hturn, hnext⟩ := bind_eq_ok_iff.mp h
    rw [afterKeeper, hkeeper]
    simp only [Keeper.takeTurn_of_ok hturn]
    exact (Except.ok.inj hnext).symm

variable [MqttEngine ε]

/-- The tick after the turns of the monitor, the keeper and the adapter. -/
def afterTurns (tick : Tick ρ ε δ) (readings : Readings) : Tick ρ ε δ :=
  ((tick.afterMonitor readings.monitor).afterKeeper readings.keeper).mqttTurn

/-- Where the program does not stop in the turns, these come to what each component makes of
its own. -/
theorem turns_eq_ok {tick next : Tick ρ ε δ} {readings : Readings}
    (h : tick.turns readings = .ok next) : next = tick.afterTurns readings := by
  obtain ⟨polled, hmonitor, h⟩ := bind_eq_ok_iff.mp h
  obtain ⟨kept, hkeeper, h⟩ := bind_eq_ok_iff.mp h
  rw [afterTurns, ← monitorTurn_eq_ok hmonitor, ← keeperTurn_eq_ok hkeeper]
  exact (Except.ok.inj h).symm

end Turns

/-! ## Handling frames -/

variable [MqttEngine ε]

/-- The adapter's step concerns the keeper, the adapter, and what is told of its engine only. -/
theorem runMqtt_eq (tick : Tick ρ ε δ) (frame : Frame) (space : Nat) :
    ∃ keeper mqtt calls published, (tick.runMqtt frame space).2 =
      { tick with station := { tick.station with keeper, mqtt }, calls, published } := by
  unfold runMqtt
  split
  · exact ⟨_, _, _, _, rfl⟩
  · exact ⟨_, _, _, _, rfl⟩

/-- Handling a frame neither touches the radio nor queues a request. -/
theorem handle_fields (tick : Tick ρ ε δ) (now : Millis) (frame : Frame) :
    (tick.handle now frame).station.radio = tick.station.radio ∧
      (tick.handle now frame).handled = tick.handled ++ [frame] ∧
      (tick.handle now frame).queued = tick.queued := by
  simp only [handle]
  obtain ⟨keeper, mqtt, calls, published, heq⟩ := runMqtt_eq (_ : Tick ρ ε δ) frame 0
  rw [heq]
  exact ⟨rfl, rfl, rfl⟩

variable [Radio ρ]

/-- What holds as frames are polled and handled holds when the radio has none left. -/
theorem drain?_preserves {P : Tick ρ ε δ → Prop}
    (hframe : ∀ {tick polled now frame radio}, P tick →
      Radio.poll polled tick.station.radio = (some frame, radio) →
      P ((tick.withRadio radio).handle now frame))
    (hidle : ∀ {tick polled radio}, P tick →
      Radio.poll polled tick.station.radio = (none, radio) → P (tick.withRadio radio)) :
    ∀ {readings tick drained}, drain? readings tick = some drained → P tick → P drained
  | [], _, _, h, _ => by cases h
  | (polled, now) :: readings, tick, drained, h, htick => by
    rw [drain?] at h
    split at h
    · rename_i radio hpoll
      obtain rfl := Option.some.inj h
      exact hidle htick hpoll
    · rename_i frame radio hpoll
      exact drain?_preserves hframe hidle h (hframe htick hpoll)

/-- A poll that hands out nothing ends the loop. -/
theorem drain?_cons_of_none {polled now : Millis} {readings : List (Millis × Millis)}
    {tick : Tick ρ ε δ} {radio : ρ} (hpoll : Radio.poll polled tick.station.radio = (none, radio)) :
    drain? ((polled, now) :: readings) tick = some (tick.withRadio radio) := by
  rw [drain?, hpoll]
  rfl

/-- The loop handles the frame that a poll hands out, and goes on. -/
theorem drain?_cons_of_some {polled now : Millis} {readings : List (Millis × Millis)}
    {tick : Tick ρ ε δ} {radio : ρ} {frame : Frame}
    (hpoll : Radio.poll polled tick.station.radio = (some frame, radio)) :
    drain? ((polled, now) :: readings) tick =
      drain? readings ((tick.withRadio radio).handle now frame) := by
  rw [drain?, hpoll]
  rfl

end Tick

/-- A new keeper is at rest and holds no socket. -/
theorem Keeper.ofConfig_eq_ok {config : SocketConfig} {keeper : Keeper}
    (h : Keeper.ofConfig config = .ok keeper) : keeper.phase = .ready ∧ keeper.socketId = none := by
  unfold Keeper.ofConfig at h
  split at h
  · cases h
  split at h
  · cases h
  obtain rfl := Except.ok.inj h
  exact ⟨rfl, rfl⟩

namespace Station

variable {ρ ε δ : Type}

/-- A new station is over the given radio and has no messaging engine. Its monitor and its keeper
are those of their sections. -/
theorem parts_of_ofConfig {config : Config} {radio : ρ} {display : δ} {station : Station ρ ε δ}
    (h : ofConfig config radio display = .ok station) :
    (station.radio = radio ∧ station.mqtt = none) ∧
      Monitor.ofConfig config.monitor = .ok station.monitor ∧
      ∀ keeper ∈ station.keeper, ∃ socket ∈ config.socket, Keeper.ofConfig socket = .ok keeper := by
  simp only [ofConfig, bind_eq_ok_iff] at h
  obtain ⟨-, -, monitor, hmonitor, kept, hkept, hstation⟩ := h
  obtain rfl := Except.ok.inj hstation
  refine ⟨⟨rfl, rfl⟩, hmonitor, fun keeper hkeeper => ?_⟩
  cases hsocket : config.socket with
  | none =>
    rw [hsocket] at hkept
    obtain rfl := Except.ok.inj hkept
    cases hkeeper
  | some socket =>
    rw [hsocket, Option.mapM_some] at hkept
    obtain ⟨made, hmade, hsome⟩ := bind_eq_ok_iff.mp hkept
    obtain rfl := Except.ok.inj hsome
    obtain rfl := Option.some.inj hkeeper
    exact ⟨socket, rfl, hmade⟩

/-- A station with a kept socket is built from what its sections are built from. -/
theorem ofConfig_of_sections {config : Config} {radio : ρ} {display : δ} {socket : SocketConfig}
    {monitor : Monitor} {keeper : Keeper} (hvalid : config.validate = .ok ())
    (hmonitor : Monitor.ofConfig config.monitor = .ok monitor)
    (hsocket : config.socket = some socket)
    (hkeeper : Keeper.ofConfig socket = .ok keeper) :
    ofConfig (ε := ε) config radio display =
      .ok ⟨config.station.name, radio, display, monitor, some keeper, none, 0⟩ := by
  rw [ofConfig, hvalid, hmonitor, hsocket, Option.mapM_some, hkeeper]
  rfl

/-- A new station is over the given radio, has no messaging engine, and keeps no socket yet. -/
theorem ofConfig_eq_ok {config : Config} {radio : ρ} {display : δ} {station : Station ρ ε δ}
    (h : ofConfig config radio display = .ok station) :
    station.radio = radio ∧ station.mqtt = none ∧
      ∀ keeper ∈ station.keeper, keeper.phase = .ready ∧ keeper.socketId = none := by
  obtain ⟨⟨hradio, hmqtt⟩, -, hkeeper⟩ := parts_of_ofConfig h
  refine ⟨hradio, hmqtt, fun keeper hkept => ?_⟩
  obtain ⟨socket, -, hmade⟩ := hkeeper keeper hkept
  exact Keeper.ofConfig_eq_ok hmade

/-- A new messaging engine is bound to no socket and has given none up. -/
theorem withMqtt_eq_ok [MqttEngine ε] {station next : Station ρ ε δ} {engine : ε} {config : Config}
    (h : station.withMqtt engine config = .ok next) :
    ∃ adapter, next = { station with mqtt := some adapter } ∧ adapter.socket = none ∧
      adapter.abandoned = none := by
  obtain ⟨adapter, hadapter, hnext⟩ := bind_eq_ok_iff.mp h
  refine ⟨adapter, (Except.ok.inj hnext).symm, ?_⟩
  unfold MqttAdapter.ofConfig at hadapter
  split at hadapter
  · cases hadapter
  · obtain rfl := Except.ok.inj hadapter
    exact ⟨rfl, rfl⟩

variable [Radio ρ] [MqttEngine ε] [Display δ]

/-- A tick that the program does not stop in handles frames, lets the components take their
turns, and binds the adapter to the socket that the keeper then hands out. -/
theorem tick?_eq_some {station : Station ρ ε δ} {readings : Readings} {tick : Tick ρ ε δ}
    (h : station.tick? readings = some (.ok tick)) :
    ∃ drained next, station.beginTick.drain? readings.polls = some drained ∧
      drained.turns readings = .ok next ∧ next = drained.afterTurns readings ∧
      tick.handled = next.handled ∧ tick.queued = next.queued ∧ tick.dropped = next.dropped ∧
      tick.station.radio = next.station.radio ∧ tick.station.keeper = next.station.keeper ∧
      tick.station.mqtt = next.station.mqtt.map fun adapter =>
        adapter.useSocket next.station.keptSocket := by
  obtain ⟨drained, hdrained, h⟩ := Option.map_eq_some_iff.mp h
  obtain ⟨next, hturns, h⟩ := bind_eq_ok_iff.mp h
  obtain rfl := Except.ok.inj h
  exact ⟨drained, next, hdrained, hturns, Tick.turns_eq_ok hturns, rfl, rfl, rfl, rfl, rfl, rfl⟩

/-- A run of a station over a radio, with what happened in it. -/
inductive Run (radio : ρ) : List Happening → Station ρ ε δ → Prop where
  | start {config : Config} {display : δ} {station : Station ρ ε δ}
    (h : ofConfig config radio display = .ok station) : Run radio [] station
  /-- A messaging engine is put over the kept socket. -/
  | attach {history : List Happening} {station next : Station ρ ε δ} {config : Config} {engine : ε}
    (hrun : Run radio history station) (h : station.withMqtt engine config = .ok next) :
    Run radio history next
  /-- The application acts on the engine. -/
  | engine {history : List Happening} {station : Station ρ ε δ} (engine : ε)
    (hrun : Run radio history station) :
    Run radio history
      { station with mqtt := station.mqtt.map fun adapter => { adapter with engine } }
  /-- A carrier profile is to be written. -/
  | carrier {history : List Happening} {station : Station ρ ε δ} (profile : CarrierProfile)
    (hrun : Run radio history station) :
    Run radio history { station with monitor := station.monitor.configureCarrier profile }
  /-- An access point name is to be written. -/
  | apn {history : List Happening} {station : Station ρ ε δ} (apn : String)
    (hrun : Run radio history station) :
    Run radio history { station with monitor := station.monitor.configureApn apn }
  /-- The kept socket is to be closed and opened afresh. -/
  | reconnect {history : List Happening} {station : Station ρ ε δ}
    (hrun : Run radio history station) :
    Run radio history { station with keeper := station.keeper.map Keeper.reconnect }
  /-- The program does not stop in a tick. -/
  | tick {history : List Happening} {station : Station ρ ε δ} {readings : Readings}
    {tick : Tick ρ ε δ} (hrun : Run radio history station)
    (h : station.tick? readings = some (.ok tick)) :
    Run radio (history ++ tick.happenings) tick.station

/-- A tick that the program does not stop in. -/
def next? (station : Station ρ ε δ) (readings : Readings) : Option (Tick ρ ε δ) :=
  (station.tick? readings).bind Except.toOption

/-- Ticks in which the program does not stop : what happens in them, and the station after
them. -/
def ticks? : List Readings → Station ρ ε δ → Option (List Happening × Station ρ ε δ)
  | [], station => some ([], station)
  | readings :: later, station => do
    let tick ← station.next? readings
    let (happenings, station) ← ticks? later tick.station
    return (tick.happenings ++ happenings, station)

theorem tick?_of_next? {station : Station ρ ε δ} {readings : Readings} {tick : Tick ρ ε δ}
    (h : station.next? readings = some tick) : station.tick? readings = some (.ok tick) := by
  obtain ⟨outcome, houtcome, htick⟩ := Option.bind_eq_some_iff.mp h
  cases outcome with
  | ok reached =>
    obtain rfl := Option.some.inj htick
    exact houtcome
  | error stop => cases htick

theorem Run.ticks {radio : ρ} : ∀ {readings : List Readings} {history later : List Happening}
    {station next : Station ρ ε δ}, Run radio history station →
    ticks? readings station = some (later, next) → Run radio (history ++ later) next
  | [], history, later, station, next, hrun, h => by
    obtain ⟨rfl, rfl⟩ := Prod.mk.inj (Option.some.inj h)
    rwa [List.append_nil]
  | first :: readings, history, later, station, next, hrun, h => by
    simp only [ticks?, Option.bind_eq_bind, Option.bind_eq_some_iff] at h
    obtain ⟨tick, htick, ⟨rest, reached⟩, hrest, hpair⟩ := h
    obtain ⟨rfl, rfl⟩ := Prod.mk.inj (Option.some.inj hpair)
    rw [← List.append_assoc]
    exact (hrun.tick (tick?_of_next? htick)).ticks hrest

end Station

end CellStation
