import CellStation.Proofs.Handover
import CellStation.Proofs.LineLog
import CellStation.Proofs.RadioIntake
import CellStation.Proofs.ScriptedRadio

/-!
# The budget of a tick

The components share the space that the radio has. While the radio is drained the adapter has
none of it, and so makes no request (`Station.DrainsSilently`). Then each component takes its turn
with the space that those before it have left, and makes no request that does not fit, so a radio
that takes what it has room for takes every request of a tick (`Tick.WithinBudget`).

Over a modem this says that the stream to it grows in a tick by exactly what the requests
queued are written as, also in the tick in which API mode is entered (`StreamGrows`).
-/

namespace CellStation

open LinkCall (sentIn)
open Radio (Call after enqueues Fits Intake)

/-! ## The turns of a tick -/

namespace Tick

variable {ρ ε δ : Type}

theorem wireSize_le_of_runMqtt [MqttEngine ε] {tick : Tick ρ ε δ} {frame : Frame} {space : Nat}
    {request : Request} (h : (tick.runMqtt frame space).1 = some request) :
    request.wireSize ≤ space := by
  unfold runMqtt at h
  split at h
  · cases h
  · exact MqttAdapter.wireSize_le_of_process h

variable [Radio ρ]

/-- The request that the monitor makes in its turn. -/
def monitorRequest (tick : Tick ρ ε δ) (now : Millis) : Option Request :=
  (tick.station.monitor.takeTurn now (Radio.space tick.station.radio)).1

/-- The request that the keeper makes in its turn. -/
def keeperRequest (tick : Tick ρ ε δ) (now : Millis) : Option Request :=
  tick.station.keeper.bind fun keeper =>
    (keeper.takeTurn now (Radio.space tick.station.radio)).1

/-- The request that the adapter makes in its turn. -/
def mqttRequest [MqttEngine ε] (tick : Tick ρ ε δ) : Option Request :=
  (tick.runMqtt .empty (Radio.space tick.station.radio)).1

theorem afterMonitor_sends (tick : Tick ρ ε δ) (now : Millis) :
    Sends tick (tick.monitorRequest now).toList (tick.afterMonitor now) :=
  sends_queue rfl rfl rfl rfl fun _ h => Monitor.wireSize_le_of_takeTurn h

/-- Without a keeper its turn changes nothing. -/
theorem afterKeeper_of_none {tick : Tick ρ ε δ} (now : Millis) (h : tick.station.keeper = none) :
    tick.keeperRequest now = none ∧ tick.afterKeeper now = tick := by
  rw [keeperRequest, afterKeeper, h]
  exact ⟨rfl, rfl⟩

theorem afterKeeper_of_some {tick : Tick ρ ε δ} {keeper : Keeper} (now : Millis)
    (h : tick.station.keeper = some keeper) :
    tick.keeperRequest now = (keeper.takeTurn now (Radio.space tick.station.radio)).1 ∧
      tick.afterKeeper now =
        { tick with
          station :=
            { tick.station with
              keeper := some (keeper.takeTurn now (Radio.space tick.station.radio)).2 } }.queue
          (keeper.takeTurn now (Radio.space tick.station.radio)).1 := by
  rw [keeperRequest, afterKeeper, h]
  exact ⟨rfl, rfl⟩

theorem afterKeeper_sends (tick : Tick ρ ε δ) (now : Millis) :
    Sends tick (tick.keeperRequest now).toList (tick.afterKeeper now) := by
  cases hkeeper : tick.station.keeper with
  | none =>
    obtain ⟨hrequest, hturn⟩ := afterKeeper_of_none now hkeeper
    rw [hrequest, hturn]
    exact ⟨rfl, rfl, (List.append_nil _).symm, rfl, trivial⟩
  | some keeper =>
    obtain ⟨hrequest, hturn⟩ := afterKeeper_of_some now hkeeper
    rw [hrequest, hturn]
    exact sends_queue rfl rfl rfl rfl fun _ h => Keeper.wireSize_le_of_takeTurn h

variable [MqttEngine ε]

theorem mqttTurn_sends (tick : Tick ρ ε δ) :
    Sends tick tick.mqttRequest.toList tick.mqttTurn := by
  obtain ⟨keeper, mqtt, calls, published, heq⟩ :=
    tick.runMqtt_eq .empty (Radio.space tick.station.radio)
  have hturn : tick.mqttTurn =
    (tick.runMqtt .empty (Radio.space tick.station.radio)).2.queue tick.mqttRequest := rfl
  rw [hturn, heq]
  exact sends_queue rfl rfl rfl rfl fun _ h => wireSize_le_of_runMqtt h

/-- The requests of the turns : at most one each of the monitor, the keeper and the adapter,
in this order. -/
def requests (tick : Tick ρ ε δ) (readings : Readings) : List Request :=
  (tick.monitorRequest readings.monitor).toList ++
    ((tick.afterMonitor readings.monitor).keeperRequest readings.keeper).toList ++
    ((tick.afterMonitor readings.monitor).afterKeeper readings.keeper).mqttRequest.toList

theorem length_requests_le (tick : Tick ρ ε δ) (readings : Readings) :
    (tick.requests readings).length ≤ 3 := by
  have hone : ∀ request : Option Request, request.toList.length ≤ 1 := by
    rintro (_ | request) <;> simp
  have hmonitor := hone (tick.monitorRequest readings.monitor)
  have hkeeper := hone ((tick.afterMonitor readings.monitor).keeperRequest readings.keeper)
  have hmqtt :=
    hone ((tick.afterMonitor readings.monitor).afterKeeper readings.keeper).mqttRequest
  simp only [requests, List.length_append]
  omega

theorem afterTurns_sends (tick : Tick ρ ε δ) (readings : Readings) :
    Sends tick (tick.requests readings) (tick.afterTurns readings) :=
  ((tick.afterMonitor_sends _).trans (afterKeeper_sends _ _)).trans (mqttTurn_sends _)

/-- A tick with what it queues, once the frames are handled. -/
structure WithinBudget (intake : Intake ρ) (readings : Readings) (drained tick : Tick ρ ε δ) :
    Prop where
  /-- At most one request each of the monitor, the keeper and the adapter, in this order. -/
  queued : tick.queued = drained.requests readings
  length_le : tick.queued.length ≤ 3
  /-- The requests are given to the radio, and nothing else is. -/
  radio : tick.station.radio =
    after (enqueues (tick.queued.map Request.frame)) drained.station.radio
  /-- Each is within the space there is when it is queued. -/
  fits : Fits (tick.queued.map Request.frame) drained.station.radio
  /-- The stream to the modem grows by what they are written as. -/
  stream : intake.stream tick.station.radio =
    intake.stream drained.station.radio ++ (tick.queued.map Request.frame).flatMap Frame.toWire
  /-- The space shrinks by their sizes. -/
  space : Radio.space tick.station.radio +
      ((tick.queued.map Request.frame).map Frame.wireSize).sum =
    Radio.space drained.station.radio
  /-- No request is made and not queued. -/
  dropped : tick.dropped = []

/-- Over a modem : what is queued in the turns goes behind what was queued, and none of it
on the line yet. -/
theorem WithinBudget.outBuf {σ : Type} [SerialLink σ] {readings : Readings}
    {drained tick : Tick (Modem (Recorded σ)) ε δ}
    (h : WithinBudget Modem.intake readings drained tick) :
    tick.station.radio.link = drained.station.radio.link ∧
      tick.station.radio.outBuf.toList = drained.station.radio.outBuf.toList ++
        (tick.queued.map Request.frame).flatMap Frame.toWire := by
  have hlink : tick.station.radio.link = drained.station.radio.link := by
    rw [h.radio, Modem.link_enqueues]
  have hstream : sentIn tick.station.radio.link.calls ++ tick.station.radio.outBuf.toList =
      sentIn drained.station.radio.link.calls ++ drained.station.radio.outBuf.toList ++ _ :=
    h.stream
  rw [hlink, List.append_assoc] at hstream
  exact ⟨hlink, List.append_cancel_left hstream⟩

end Tick

namespace Station

variable {ρ σ ε δ : Type} [Radio ρ] [SerialLink σ] [MqttEngine ε]

/-- What a tick has come to once the radio is drained : no request has been made, and no byte of
the engine has been taken. -/
structure DrainsSilently (station : Station ρ ε δ) (polls : List (Millis × Millis))
    (drained : Tick ρ ε δ) : Prop where
  /-- The components have been handed what the radio had ready, the adapter without room. -/
  hands : ∃ frames, Tick.Hands ((polls.map Prod.snd).zip frames) station.beginTick drained
  queued : drained.queued = []
  dropped : drained.dropped = []
  calls : ∀ bytes taken, .send bytes taken ∈ drained.calls → taken = 0

/-- Draining is silent, whatever the radio has ready and whatever the engine does with it. -/
theorem drainsSilently {station : Station ρ ε δ} {polls : List (Millis × Millis)}
    {drained : Tick ρ ε δ} (h : station.beginTick.drain? polls = some drained) :
    DrainsSilently station polls drained := by
  obtain ⟨frames, -, -, -, hhands⟩ := Tick.drain?_hands h
  have hsilent :=
    station.beginTick.station.stepsWith_silent (((polls.map Prod.snd).zip frames).map Prod.snd)
  refine ⟨⟨frames, hhands⟩, hhands.queued, ?_, fun bytes taken hsent => ?_⟩
  · refine hhands.dropped.trans (List.flatMap_eq_nil_iff.mpr fun step hstep => ?_)
    rw [(hsilent step hstep).1, Option.toList_none]
  · rw [hhands.calls, beginTick, List.nil_append] at hsent
    obtain ⟨step, hstep, hcall⟩ := List.mem_flatMap.mp hsent
    exact (hsilent step hstep).2 bytes taken hcall

variable [Display δ]

theorem exists_withinBudget (intake : Intake ρ) {station : Station ρ ε δ} {readings : Readings}
    {tick : Tick ρ ε δ} (hsound : intake.sound station.radio)
    (h : station.tick? readings = some (.ok tick)) :
    ∃ drained, station.beginTick.drain? readings.polls = some drained ∧
      Tick.WithinBudget intake readings drained tick := by
  obtain ⟨drained, _, hdrain, -, rfl, -, hqueued, hdropped, hradio, -, -⟩ := tick?_eq_some h
  obtain ⟨frames, -, -, hpolls, -⟩ := Tick.drain?_hands hdrain
  have hsilent := drainsSilently hdrain
  have hsends := drained.afterTurns_sends readings
  have hrequests : tick.queued = drained.requests readings := by
    rw [hqueued, hsends.queued, hsilent.queued]
    rfl
  have hsound' : intake.sound drained.station.radio := by
    rw [hpolls]
    exact intake.sound_after _ hsound
  refine ⟨drained, hdrain, hrequests, ?_, ?_, ?_, ?_, ?_, ?_⟩
  · rw [hrequests]
    exact drained.length_requests_le readings
  · rw [hradio, hsends.radio, hrequests]
  · rw [hrequests]
    exact hsends.fits
  · rw [hradio, hsends.radio, hrequests]
    exact intake.stream_enqueues hsound' hsends.fits
  · rw [hradio, hsends.radio, hrequests]
    exact intake.space_enqueues hsound' hsends.fits
  · rw [hdropped, hsends.dropped, hsilent.dropped]

/-- The radio of a run has been polled and given frames, and nothing else. -/
theorem Run.exists_calls {radio : ρ} {history : List Happening} {station : Station ρ ε δ}
    (h : Run radio history station) : ∃ calls, station.radio = after calls radio := by
  induction h with
  | start h => exact ⟨[], (ofConfig_eq_ok h).1⟩
  | attach _ h ih =>
    obtain ⟨adapter, rfl, -⟩ := withMqtt_eq_ok h
    exact ih
  | engine _ _ ih | carrier _ _ ih | apn _ _ ih | reconnect _ ih => exact ih
  | tick _ h ih =>
    obtain ⟨calls, hcalls⟩ := ih
    obtain ⟨drained, _, hdrain, -, rfl, -, -, -, hradio, -, -⟩ := tick?_eq_some h
    obtain ⟨frames, -, -, hpolls, -⟩ := Tick.drain?_hands hdrain
    rw [hradio, (drained.afterTurns_sends _).radio, hpolls, beginTick, hcalls,
      ← Radio.after_append, ← Radio.after_append]
    exact ⟨_, rfl⟩

/-! ## Over a modem -/

variable {link : Recorded σ} {start : Millis} {history : List Happening}
  {station : Station (Modem (Recorded σ)) ε δ} {readings : Readings}
  {tick : Tick (Modem (Recorded σ)) ε δ}

theorem Run.sound (h : Run (.ofLink link start) history station) :
    Modem.intake.sound station.radio := by
  obtain ⟨calls, hcalls⟩ := h.exists_calls
  rw [hcalls]
  exact Modem.intake.sound_after calls (Ring.capacity_empty bufferCapacity)

/-- In API mode the line takes in a tick from what was queued and from what the tick queues,
in this order. -/
theorem extends_tick (hlaw : SerialLink.WritesWithin σ)
    (hrun : Run (.ofLink link start) history station)
    (h : station.tick? readings = some (.ok tick)) (hstate : station.radio.state = .apiMode) :
    ∃ later, station.radio.link.Extends tick.station.radio.link later ∧
      sentIn later ++ tick.station.radio.outBuf.toList =
        station.radio.outBuf.toList ++ (tick.queued.map Request.frame).flatMap Frame.toWire := by
  obtain ⟨drained, hdrain, hbudget⟩ := exists_withinBudget Modem.intake hrun.sound h
  obtain ⟨frames, -, -, hpolls, -⟩ := Tick.drain?_hands hdrain
  obtain ⟨hlink, hqueue⟩ := hbudget.outBuf
  obtain ⟨later, hlater, -, -, hsent⟩ := Modem.extends_after hlaw _ hstate hrun.sound
  rw [Radio.admitted_polls, List.flatMap_nil, List.append_nil] at hsent
  refine ⟨later, ?_, ?_⟩
  · rw [hlink, hpolls]
    exact hlater
  · rw [hqueue, hpolls, ← List.append_assoc]
    exact congrArg (· ++ _) hsent

/-- Before API mode nothing is queued, so what a tick queues is all that is queued after it. -/
theorem outBuf_tick_of_waiting (hrun : Run (.ofLink link start) history station)
    (h : station.tick? readings = some (.ok tick)) (hstate : station.radio.state ≠ .apiMode) :
    station.radio.outBuf.toList = [] ∧
      tick.station.radio.outBuf.toList =
        (tick.queued.map Request.frame).flatMap Frame.toWire := by
  obtain ⟨calls, hcalls⟩ := hrun.exists_calls
  have hempty : station.radio.outBuf = .empty bufferCapacity := by
    rw [hcalls] at hstate ⊢
    exact (Modem.after_of_waiting hstate).2.2
  have hidle : station.radio.outBuf.size = 0 := by
    rw [hempty]
    rfl
  obtain ⟨drained, hdrain, hbudget⟩ := exists_withinBudget Modem.intake hrun.sound h
  refine ⟨by rw [hempty, Ring.toList_empty], ?_⟩
  rcases hreadings : readings.polls with _ | ⟨⟨polled, now⟩, later⟩
  · rw [hreadings] at hdrain
    cases hdrain
  · -- The first poll hands out nothing, so that it is the only one.
    have hpoll : Radio.poll polled station.radio = (none, (station.radio.poll polled).2) :=
      Prod.ext (Modem.poll_of_waiting polled hstate) rfl
    rw [hreadings, Tick.drain?_cons_of_none hpoll] at hdrain
    obtain rfl := Option.some.inj hdrain
    obtain ⟨-, -, hkept, -, -⟩ := Modem.poll_fields polled hidle
    rw [hbudget.outBuf.2, Tick.withRadio, hkept, hempty, Ring.toList_empty, List.nil_append]

/-! ## Nothing is dropped -/

/-- Over a modem, the stream grows in a tick by what its requests are written as. -/
structure StreamGrows (station : Station (Modem (Recorded σ)) ε δ)
    (tick : Tick (Modem (Recorded σ)) ε δ) : Prop where
  /-- In API mode : what the line takes in the tick, followed by what is queued after it, is
  what was queued before and what the tick queues. -/
  ready : SerialLink.WritesWithin σ → station.radio.state = .apiMode →
    ∃ later, station.radio.link.Extends tick.station.radio.link later ∧
      sentIn later ++ tick.station.radio.outBuf.toList =
        station.radio.outBuf.toList ++ (tick.queued.map Request.frame).flatMap Frame.toWire
  /-- Before API mode nothing is queued. -/
  waiting : station.radio.state ≠ .apiMode →
    station.radio.outBuf.toList = [] ∧
      tick.station.radio.outBuf.toList = (tick.queued.map Request.frame).flatMap Frame.toWire

/-- Nothing that a tick produces is dropped. Over every radio, while frames are drained the adapter
makes no request and none of its engine's bytes is taken, whether or not the program stops later on
in the tick. Then the monitor, the keeper and the adapter queue at most one request each, in this
order and each within the space there is for it, so that the stream grows by exactly what they
are written as. This holds over every radio that takes what it has room for, and over the modem in
every run. -/
theorem tick_drops_nothing :
    (∀ (station : Station ρ ε δ) (polls : List (Millis × Millis)) (drained : Tick ρ ε δ),
      station.beginTick.drain? polls = some drained → DrainsSilently station polls drained) ∧
    (∀ (intake : Intake ρ) (station : Station ρ ε δ) (readings : Readings) (tick : Tick ρ ε δ),
      intake.sound station.radio → station.tick? readings = some (.ok tick) →
      ∃ drained, station.beginTick.drain? readings.polls = some drained ∧
        Tick.WithinBudget intake readings drained tick) ∧
    (∀ (link : Recorded σ) (start : Millis) (history : List Happening)
      (station : Station (Modem (Recorded σ)) ε δ) (readings : Readings)
      (tick : Tick (Modem (Recorded σ)) ε δ),
      Run (.ofLink link start) history station → station.tick? readings = some (.ok tick) →
      (∃ drained, station.beginTick.drain? readings.polls = some drained ∧
        DrainsSilently station readings.polls drained ∧
        Tick.WithinBudget Modem.intake readings drained tick) ∧
      StreamGrows station tick) := by
  refine ⟨fun _ _ _ h => drainsSilently h, ?_, ?_⟩
  · intro intake station readings tick hsound h
    exact exists_withinBudget intake hsound h
  · intro link start history station readings tick hrun h
    obtain ⟨drained, hdrain, hbudget⟩ := exists_withinBudget Modem.intake hrun.sound h
    exact ⟨⟨drained, hdrain, drainsSilently hdrain, hbudget⟩,
      fun hlaw hstate => extends_tick hlaw hrun h hstate,
      fun hstate => outBuf_tick_of_waiting hrun h hstate⟩

/-- A radio with a script takes in what it has room for. -/
def scriptedIntake : Intake ScriptedRadio where
  sound _ := True
  stream radio := radio.sent.flatMap Frame.toWire
  sound_answer _ _ := trivial
  stream_enqueue {radio frame} _ hfits := by
    have hroom : frame.wireSize ≤ radio.room := hfits
    simp only [Radio.enqueue, if_pos hroom, List.flatMap_append, List.flatMap_singleton]
  space_enqueue {radio frame} _ hfits := by
    have hroom : frame.wireSize ≤ radio.room := hfits
    simp only [Radio.enqueue, Radio.space, if_pos hroom]
    omega

/-- A station whose monitor, keeper and adapter all have something to send. -/
def eager : Station ScriptedRadio OutboxEngine NullDisplay where
  name := "station"
  radio := ⟨[some .empty, none], 32, []⟩
  display := ⟨⟩
  monitor := .fresh 10000
  keeper := some
    { host := "broker.local", port := 1883, protocol := .tcp, retryInterval := 3000,
      networkUp := true, nextRetry := 0, socketId := none, phase := .ready }
  mqtt := some ⟨⟨List.replicate 20 0⟩, some 1, none, none⟩
  ticks := 0

/-- A station over a line whose modem answers every command. -/
def bringingUp : Station (Modem (Recorded PacedLine)) OutboxEngine NullDisplay where
  name := StationConfig.name {}
  radio := .ofLink Modem.BringUp.paced.link 0
  display := ⟨⟩
  monitor := .fresh 10000
  keeper := none
  mqtt := none
  ticks := 0

theorem run_bringingUp : Run (.ofLink Modem.BringUp.paced.link 0) [] bringingUp := by
  have hvalid : Config.validate {} = .ok () := by decide +kernel
  have hfresh : ofConfig {} (Modem.ofLink Modem.BringUp.paced.link 0) ⟨⟩ = .ok bringingUp := by
    rw [ofConfig, hvalid]
    rfl
  exact .start hfresh

/-- A frame is handled while the engine offers 20 bytes, of which none is taken. Then three requests
fill a space of 32 bytes to the last one. Over a modem the tick after the one that enters API mode
queues a poll. -/
theorem tick_drops_nothing_eager :
    (∃ drained tick, eager.beginTick.drain? (Readings.held 1000 2).polls = some drained ∧
      (∃ taken, drained.calls = [.send (List.replicate 20 0) taken] ∧ taken = 0) ∧
      eager.tick? (.held 1000 2) = some (.ok tick) ∧
      tick.queued.length = 3 ∧ tick.station.radio.room = 0 ∧
      Tick.WithinBudget scriptedIntake (.held 1000 2) drained tick) ∧
    ∃ (history : List Happening)
      (station : Station (Modem (Recorded PacedLine)) OutboxEngine NullDisplay)
      (tick : Tick (Modem (Recorded PacedLine)) OutboxEngine NullDisplay),
      Run (.ofLink Modem.BringUp.paced.link 0) history station ∧
      station.radio.state = .apiMode ∧ station.tick? (.held 1206 2) = some (.ok tick) ∧
      tick.queued.length = 1 ∧ SerialLink.WritesWithin PacedLine ∧ StreamGrows station tick := by
  obtain ⟨hdrains, hover, hmodem⟩ :=
    @tick_drops_nothing ScriptedRadio PacedLine OutboxEngine NullDisplay _ _ _ _
  constructor
  · have hoffered : (eager.beginTick.drain? (Readings.held 1000 2).polls).map Tick.calls =
        some [.send (List.replicate 20 0) 0] := by decide +kernel
    have hfull : (eager.next? (.held 1000 2)).map (fun tick =>
        (tick.queued.length, tick.station.radio.room)) = some (3, 0) := by decide +kernel
    obtain ⟨tick, hnext, hfacts⟩ := Option.map_eq_some_iff.mp hfull
    obtain ⟨hthree, hspent⟩ := Prod.mk.inj hfacts
    have htick := tick?_of_next? hnext
    obtain ⟨drained, hdrain, hbudget⟩ := hover scriptedIntake eager _ tick trivial htick
    rw [hdrain] at hoffered
    have hcalls := Option.some.inj hoffered
    have hsilent := (hdrains _ _ _ hdrain).calls
    exact ⟨drained, tick, hdrain, ⟨_, hcalls, hsilent _ _ (by rw [hcalls]; exact .head _)⟩, htick,
      hthree, hspent, hbudget⟩
  · let readings : List Readings := [0, 1101, 1102, 1203, 1204, 1205].map (.held · 2)
    have hlast : (bringingUp.ticks? readings).bind (fun reached =>
        (reached.2.next? (.held 1206 2)).map fun tick =>
          (reached.2.radio.state, tick.queued.length)) = some (.apiMode, 1) := by decide +kernel
    obtain ⟨⟨history, station⟩, hticks, hlast⟩ := Option.bind_eq_some_iff.mp hlast
    obtain ⟨tick, hnext, hfacts⟩ := Option.map_eq_some_iff.mp hlast
    obtain ⟨hstate, hone⟩ := Prod.mk.inj hfacts
    have hrun := run_bringingUp.ticks hticks
    have htick := tick?_of_next? hnext
    obtain ⟨-, hgrows⟩ := hmodem _ _ _ _ _ _ hrun htick
    exact ⟨_, station, tick, hrun, hstate, htick, hone, PacedLine.writesWithin, hgrows⟩

end Station

end CellStation
