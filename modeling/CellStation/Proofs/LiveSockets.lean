import CellStation.Proofs.Since
import CellStation.Proofs.SocketHistory
import CellStation.Proofs.TickBudget

/-!
# Data goes to live sockets only

The keeper and the adapter read the same frames, each in its own way, and the adapter learns
of a new socket only at the end of a tick. `Station.Tracked` ties both to the history : the
keeper is tracked, and the adapter is bound to a live socket or to none. Each frame handled
and each turn of a component keeps it, and so does a run (`Station.Run.tracked`). Data is
sent over the socket of the adapter, so it goes to live sockets only.
-/

namespace CellStation

variable {history : List Happening} {item : Happening} {socket : UInt8}

/-- All data went to sockets that were live when it was queued. -/
def SendsToLive (history : List Happening) : Prop :=
  ∀ before id socket bytes later, history = before ++ .queued (.send id socket bytes) :: later →
    Live socket before

theorem SendsToLive.concat (h : SendsToLive history)
    (hitem : ∀ id socket bytes, item = .queued (.send id socket bytes) → Live socket history) :
    SendsToLive (history ++ [item]) := by
  intro before id socket bytes later hsplit
  rcases split_concat hsplit with ⟨rfl, heq, -⟩ | ⟨rest, -, hrest⟩
  · exact hitem id socket bytes heq.symm
  · exact h before id socket bytes rest hrest

variable {ρ ε δ : Type}

/-- What a station knows of its history. -/
structure Station.Tracked (history : List Happening) (station : Station ρ ε δ) : Prop where
  keeper : ∀ keeper ∈ station.keeper, keeper.Tracked history
  adapter : ∀ adapter ∈ station.mqtt, ∀ socket ∈ adapter.socket, Live socket history
  sends : SendsToLive history

namespace Tick

variable [MqttEngine ε]

/-- The keeper after a step of the adapter, the adapter's binding, and the data it sends. -/
theorem runMqtt_parts (tick : Tick ρ ε δ) (frame : Frame) (space : Nat) :
    (∀ keeper ∈ (tick.runMqtt frame space).2.station.keeper, ∃ before ∈ tick.station.keeper,
      keeper = before ∨ ∃ socket, keeper = before.closeStarted socket) ∧
    (∀ adapter ∈ (tick.runMqtt frame space).2.station.mqtt, ∃ before ∈ tick.station.mqtt,
      adapter.socket = (before.release frame.inbound).socket) ∧
    ∀ id socket bytes, (tick.runMqtt frame space).1 = some (.send id socket bytes) →
      ∃ adapter ∈ tick.station.mqtt, (adapter.release frame.inbound).socket = some socket := by
  cases hmqtt : tick.station.mqtt with
  | none =>
    simp only [runMqtt, hmqtt]
    refine ⟨fun keeper hkeeper => ⟨keeper, hkeeper, .inl rfl⟩, ?_, ?_⟩
    · simp
    · simp
  | some adapter =>
    obtain ⟨hsocket, hsend⟩ := adapter.socket_process frame space
    simp only [runMqtt, hmqtt, MqttAdapter.takeAbandoned]
    refine ⟨?_, ?_, ?_⟩
    · intro keeper hkeeper
      split at hkeeper
      · rename_i given _
        obtain ⟨before, hbefore, rfl⟩ := Option.map_eq_some_iff.mp hkeeper
        exact ⟨before, hbefore, .inr ⟨given, rfl⟩⟩
      · exact ⟨keeper, hkeeper, .inl rfl⟩
    · rintro _ ⟨⟩
      exact ⟨adapter, rfl, hsocket⟩
    · intro id socket bytes h
      exact ⟨adapter, rfl, hsend id socket bytes h⟩

end Tick

theorem Live.queued (h : Live socket history) (request : Option Request) :
    Live socket (history ++ request.toList.map .queued) := by
  cases request with
  | none => simpa using h
  | some made => exact h.concat (spares_queued _ _)

theorem SendsToLive.queued (h : SendsToLive history) {request : Option Request}
    (hsend : ∀ id socket bytes, request = some (.send id socket bytes) → Live socket history) :
    SendsToLive (history ++ request.toList.map .queued) := by
  cases request with
  | none => simpa using h
  | some made =>
    refine h.concat fun id socket bytes heq => hsend id socket bytes ?_
    rw [Happening.queued.inj heq]

namespace Station.Tracked

/-- A component queues a request, or none; no adapter is bound anew. -/
theorem queued {station next : Station ρ ε δ} {request : Option Request}
    (h : station.Tracked history)
    (hkeeper : ∀ keeper ∈ next.keeper,
      keeper.Tracked (history ++ request.toList.map .queued))
    (hmqtt : ∀ adapter ∈ next.mqtt, ∃ before ∈ station.mqtt,
      ∀ socket ∈ adapter.socket, before.socket = some socket)
    (hsend : ∀ id socket bytes, request = some (.send id socket bytes) → Live socket history) :
    next.Tracked (history ++ request.toList.map .queued) where
  keeper := hkeeper
  adapter adapter hadapter socket hsocket := by
    obtain ⟨before, hbefore, hkept⟩ := hmqtt adapter hadapter
    exact (h.adapter before hbefore socket (hkept socket hsocket)).queued request
  sends := h.sends.queued hsend

theorem handle [MqttEngine ε] {tick : Tick ρ ε δ} (h : tick.station.Tracked history) (now : Millis)
    (frame : Frame) : (tick.handle now frame).station.Tracked (history ++ [.handled frame]) := by
  obtain ⟨hkeeper, hmqtt, -⟩ := Tick.runMqtt_parts
    ({ tick with
      station :=
        { tick.station with
          monitor := tick.station.monitor.onIncoming now frame
          keeper := tick.station.keeper.map fun keeper => keeper.onIncoming frame }
      handled := tick.handled ++ [frame] } : Tick ρ ε δ) frame 0
  refine ⟨fun keeper hmem => ?_, fun adapter hmem socket hsocket => ?_, ?_⟩
  · obtain ⟨before, hbefore, hstep⟩ := hkeeper keeper hmem
    obtain ⟨kept, hkept, rfl⟩ := Option.map_eq_some_iff.mp hbefore
    have htracked := (h.keeper kept hkept).onIncoming frame
    rcases hstep with rfl | ⟨given, rfl⟩
    · exact htracked
    · exact htracked.closeStarted given
  · obtain ⟨before, hbefore, hrelease⟩ := hmqtt adapter hmem
    obtain ⟨hbound, hspares⟩ := MqttAdapter.socket_release (hrelease.symm.trans hsocket)
    exact (h.adapter before hbefore socket hbound).concat (spares_handled.mpr hspares)
  · exact h.sends.concat fun id socket bytes heq => by cases heq

variable [Radio ρ]

theorem afterMonitor {tick : Tick ρ ε δ} (h : tick.station.Tracked history) (now : Millis) :
    (tick.afterMonitor now).station.Tracked
      (history ++ (tick.monitorRequest now).toList.map .queued) := by
  refine h.queued (fun keeper hmem => ?_) (fun adapter hmem => ?_) fun _ _ _ heq => ?_
  · rw [Tick.keeper_afterMonitor] at hmem
    exact (h.keeper keeper hmem).queued _
  · rw [Tick.mqtt_afterMonitor] at hmem
    exact ⟨adapter, hmem, fun _ => id⟩
  · exact absurd heq Monitor.takeTurn_ne_send

theorem afterKeeper {tick : Tick ρ ε δ} (h : tick.station.Tracked history) (now : Millis) :
    (tick.afterKeeper now).station.Tracked
      (history ++ (tick.keeperRequest now).toList.map .queued) := by
  cases hkept : tick.station.keeper with
  | none =>
    obtain ⟨hrequest, hturn⟩ := Tick.afterKeeper_of_none now hkept
    rw [hrequest, hturn]
    simpa using h
  | some keeper =>
    obtain ⟨hrequest, hturn⟩ := Tick.afterKeeper_of_some now hkept
    rw [hrequest, hturn]
    refine h.queued (fun next hmem => ?_) (fun adapter hmem => ?_) fun _ _ _ heq => ?_
    · rw [Tick.keeper_queue] at hmem
      obtain rfl := Option.some.inj hmem
      exact (h.keeper keeper hkept).turn (keeper.turn_takeTurn now _)
    · rw [Tick.mqtt_queue] at hmem
      exact ⟨adapter, hmem, fun _ => id⟩
    · exact absurd heq Keeper.takeTurn_ne_send

variable [MqttEngine ε]

theorem mqttTurn {tick : Tick ρ ε δ} (h : tick.station.Tracked history) :
    tick.mqttTurn.station.Tracked (history ++ tick.mqttRequest.toList.map .queued) := by
  obtain ⟨hkeeper, hmqtt, hsend⟩ := tick.runMqtt_parts .empty (Radio.space tick.station.radio)
  refine h.queued (fun keeper hmem => ?_) (fun adapter hmem => ?_) fun id socket bytes heq => ?_
  · simp only [Tick.mqttTurn, Tick.keeper_queue] at hmem
    obtain ⟨before, hbefore, hstep⟩ := hkeeper keeper hmem
    have htracked := (h.keeper before hbefore).queued tick.mqttRequest
    rcases hstep with rfl | ⟨given, rfl⟩
    · exact htracked
    · exact htracked.closeStarted given
  · simp only [Tick.mqttTurn, Tick.mqtt_queue] at hmem
    obtain ⟨before, hbefore, hrelease⟩ := hmqtt adapter hmem
    exact ⟨before, hbefore, fun socket hsocket =>
      (MqttAdapter.socket_release (hrelease.symm.trans hsocket)).1⟩
  · obtain ⟨adapter, hadapter, hbound⟩ := hsend id socket bytes heq
    exact h.adapter adapter hadapter socket (MqttAdapter.socket_release hbound).1

theorem afterTurns {tick : Tick ρ ε δ} (h : tick.station.Tracked history) (readings : Readings) :
    (tick.afterTurns readings).station.Tracked
      (history ++ (tick.requests readings).map .queued) := by
  have hturns := ((h.afterMonitor readings.monitor).afterKeeper readings.keeper).mqttTurn
  rw [List.append_assoc, List.append_assoc, ← List.map_append, ← List.map_append] at hturns
  rw [Tick.requests, List.append_assoc]
  exact hturns

/-- Frames are handled one by one. -/
theorem drain {station : Station ρ ε δ} (h : station.Tracked history)
    {polls : List (Millis × Millis)} {drained : Tick ρ ε δ}
    (hdrain : station.beginTick.drain? polls = some drained) :
    drained.station.Tracked (history ++ drained.handled.map .handled) := by
  refine Tick.drain?_preserves (P := fun tick =>
    tick.station.Tracked (history ++ tick.handled.map .handled)) ?_ ?_ hdrain ?_
  · intro tick polled now frame radio htick _
    have hpolled : (tick.withRadio radio).station.Tracked (history ++ tick.handled.map .handled) :=
      ⟨htick.keeper, htick.adapter, htick.sends⟩
    have hhandled := ((tick.withRadio radio).handle_fields now frame).2.1
    rw [hhandled, List.map_append, ← List.append_assoc]
    exact hpolled.handle now frame
  · intro tick polled radio htick _
    exact ⟨htick.keeper, htick.adapter, htick.sends⟩
  · simpa [beginTick] using h

variable [Display δ]

/-- A tick ends with the adapter bound to what the keeper hands out. -/
theorem tick {station : Station ρ ε δ} (h : station.Tracked history) {readings : Readings}
    {tick : Tick ρ ε δ} (htick : station.tick? readings = some (.ok tick)) :
    tick.station.Tracked (history ++ tick.happenings) := by
  obtain ⟨drained, _, hdrain, -, rfl, hhandled, hqueued, -, -, hkeeper, hmqtt⟩ :=
    tick?_eq_some htick
  have hsends := drained.afterTurns_sends readings
  have hend := (h.drain hdrain).afterTurns readings
  have hhistory : history ++ tick.happenings =
      history ++ drained.handled.map .handled ++ (drained.requests readings).map .queued := by
    rw [Tick.happenings, hhandled, hsends.handled, hqueued, hsends.queued,
      (drainsSilently hdrain).queued, List.append_assoc]
    rfl
  rw [hhistory]
  refine ⟨fun keeper hmem => ?_, fun adapter hmem socket hsocket => ?_, hend.sends⟩
  · rw [hkeeper] at hmem
    exact hend.keeper keeper hmem
  · rw [hmqtt] at hmem
    obtain ⟨before, hbefore, rfl⟩ := Option.map_eq_some_iff.mp hmem
    unfold MqttAdapter.useSocket at hsocket
    split at hsocket
    · exact hend.adapter before hbefore socket hsocket
    · obtain ⟨keeper, hkept, hgiven⟩ := Option.bind_eq_some_iff.mp hsocket
      exact (hend.keeper keeper hkept).live hgiven

end Station.Tracked

namespace Station

variable [Radio ρ] [MqttEngine ε] [Display δ]

/-- A run keeps track of its sockets. -/
theorem Run.tracked {radio : ρ} {history : List Happening} {station : Station ρ ε δ}
    (hrun : Run radio history station) : station.Tracked history := by
  induction hrun with
  | start h =>
    obtain ⟨-, hmqtt, hkeeper⟩ := ofConfig_eq_ok h
    refine ⟨fun keeper hmem => ?_, fun adapter hmem => ?_, fun before _ _ _ _ h => by simp at h⟩
    · obtain ⟨hphase, hnone⟩ := hkeeper keeper hmem
      show Tracks [] keeper.phase keeper.socketId
      rw [hphase]
      exact .ofNone hnone
    · rw [hmqtt] at hmem
      cases hmem
  | attach _ h ih =>
    obtain ⟨adapter, rfl, hunbound, -⟩ := withMqtt_eq_ok h
    refine ⟨ih.keeper, ?_, ih.sends⟩
    rintro _ ⟨⟩ socket hsocket
    rw [hunbound] at hsocket
    cases hsocket
  | engine engine _ ih =>
    refine ⟨ih.keeper, fun adapter hmem => ?_, ih.sends⟩
    obtain ⟨before, hbefore, rfl⟩ := Option.map_eq_some_iff.mp hmem
    exact ih.adapter before hbefore
  | carrier _ _ ih | apn _ _ ih => exact ⟨ih.keeper, ih.adapter, ih.sends⟩
  | reconnect _ ih =>
    refine ⟨fun keeper hmem => ?_, ih.adapter, ih.sends⟩
    obtain ⟨before, hbefore, rfl⟩ := Option.map_eq_some_iff.mp hmem
    exact (ih.keeper before hbefore).reconnect
  | tick _ h ih => exact ih.tick h

/-- Data goes to live sockets only. When a station queues data for a socket, the modem has
assigned this socket in answer to a create request of the keeper, then a frame has said that
it is connected, and since the assignment no frame has said that it is not connected or that
it was closed. -/
theorem data_to_live_sockets {radio : ρ} {history before later : List Happening}
    {station : Station ρ ε δ} {id socket : UInt8} {bytes : List UInt8}
    (hrun : Run radio history station)
    (hsend : history = before ++ .queued (.send id socket bytes) :: later) : Live socket before :=
  hrun.tracked.sends before id socket bytes later hsend

/-- A destination to keep a socket open to. -/
def brokerConfig : SocketConfig := { host := "broker.local", port := 1883, protocol := .tcp }

/-- A new station with an engine that has bytes to send. The radio has a script in which the
network comes up, and the modem assigns socket 5 and connects it. -/
def opening : Station ScriptedRadio OutboxEngine NullDisplay where
  name := StationConfig.name {}
  radio :=
    { answers :=
        [some (.ofHeader .modemStatus (ModemStatusCode.registered, ()) []), none,
         some (.ofHeader .socketCreateResponse (createFrameId, 5, CreateStatus.ok, ()) []), none,
         some (.ofHeader .socketStatus (5, SocketState.connected, ()) []), none]
      room := 1000
      sent := [] }
  display := ⟨⟩
  monitor := .fresh 10000
  keeper := some
    { host := brokerConfig.host, port := 1883, protocol := .tcp, retryInterval := 3000,
      networkUp := false, nextRetry := 0, socketId := none, phase := .ready }
  mqtt := some ⟨⟨[1, 2, 3]⟩, none, none, none⟩
  ticks := 0

theorem run_opening : Run opening.radio [] opening := by
  let config : Config := { socket := some brokerConfig }
  let unattached : Station ScriptedRadio OutboxEngine NullDisplay := { opening with mqtt := none }
  have hvalid : config.validate = .ok () := by decide +kernel
  have hmonitor : Monitor.ofConfig config.monitor = .ok (.fresh 10000) := by decide +kernel
  have hfresh : ofConfig config opening.radio opening.display = .ok unattached :=
    ofConfig_of_sections hvalid hmonitor rfl rfl
  have hattach : unattached.withMqtt ⟨[1, 2, 3]⟩ config = .ok opening := rfl
  exact .attach (.start hfresh) hattach

/-- Data goes to socket 5 one tick after it is connected. -/
theorem data_to_live_sockets_opening :
    ∃ (before : List Happening) (station : Station ScriptedRadio OutboxEngine NullDisplay),
      Run opening.radio (before ++ [.queued (.send sendFrameId 5 [1, 2, 3])]) station ∧
        Live 5 before := by
  let readings : List Readings := [1000, 1010, 1020, 1030].map (.held · 2)
  have hlast : (ticks? readings opening).map (fun reached => reached.1.getLast?) =
      some (some (.queued (.send sendFrameId 5 [1, 2, 3]))) := by decide +kernel
  obtain ⟨⟨history, station⟩, hticks, hend⟩ := Option.map_eq_some_iff.mp hlast
  obtain ⟨before, hhistory⟩ := List.getLast?_eq_some_iff.mp hend
  have hrun := run_opening.ticks hticks
  rw [List.nil_append] at hrun
  exact ⟨before, station, hhistory ▸ hrun, data_to_live_sockets hrun hhistory⟩

end Station

end CellStation
