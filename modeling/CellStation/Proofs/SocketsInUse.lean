import CellStation.Proofs.HandedOutSockets
import CellStation.Proofs.LiveSockets

/-!
# Data and sockets in use

The adapter stays bound through a tick, and learns only at its end what the keeper hands out.
By then the keeper may have taken the socket out of use : between ticks, or on a frame that
the adapter does not read. It still holds the socket (`Station.Run.bound`). Whether it also
hands the socket out when data for it is queued is told by the state before the tick and the
frames of the tick (`Station.handedOut_atSend_iff`), and it does not always
(`Station.data_after_close`).
-/

namespace CellStation

/-! ## The adapter -/

namespace MqttAdapter

variable {ε : Type} {adapter : MqttAdapter ε} {socket : UInt8}

/-- An adapter that stays bound has not changed. -/
theorem release_of_bound {frame : Inbound} (h : (adapter.release frame).socket = some socket) :
    adapter.release frame = adapter := by
  refine (adapter.release_eq_or_unbound frame).resolve_right fun hunbound => ?_
  cases hunbound.symm.trans h

variable [MqttEngine ε]

theorem abandoned_process (adapter : MqttAdapter ε) (frame : Frame) (space : Nat) :
    (adapter.process frame space).adapter.abandoned =
      (adapter.release frame.inbound).abandoned := by
  have hprocessed := adapter.processed_process frame space
  generalize adapter.process frame space = step at hprocessed ⊢
  cases hprocessed with
  | closes | drops | syncs => rfl

theorem useSocket_fields (adapter : MqttAdapter ε) (given : Option UInt8) :
    (adapter.useSocket given).socket = given ∧
      (adapter.useSocket given).abandoned = adapter.abandoned := by
  unfold useSocket
  split
  · rename_i hsame
    exact ⟨hsame.symm, rfl⟩
  · exact ⟨rfl, rfl⟩

end MqttAdapter

variable {ρ ε δ : Type}

/-! ## A step of the adapter -/

/-- What a station knows of the socket that its adapter is bound to. -/
structure Station.Bound (station : Station ρ ε δ) : Prop where
  paired : ∀ keeper ∈ station.keeper, keeper.Paired
  /-- The keeper has been told of every socket given up. -/
  told : ∀ adapter ∈ station.mqtt, adapter.abandoned = none
  held : ∀ adapter ∈ station.mqtt, ∀ socket ∈ adapter.socket,
    ∃ keeper ∈ station.keeper, keeper.socketId = some socket

/-- The adapter of a station is bound to a socket. -/
def Station.IsBound (station : Station ρ ε δ) (socket : UInt8) : Prop :=
  ∃ adapter ∈ station.mqtt, adapter.socket = some socket

namespace Tick

variable [MqttEngine ε]

/-- After a step the adapter has given up no socket that the keeper has not been told of. One
that is bound after the step was bound before it, to a socket that the frame does not end, and
the keeper has been told of nothing. -/
theorem runMqtt_told {tick : Tick ρ ε δ} (frame : Frame) (space : Nat)
    (h : ∀ adapter ∈ tick.station.mqtt, adapter.abandoned = none) :
    (∀ adapter ∈ (tick.runMqtt frame space).2.station.mqtt, adapter.abandoned = none) ∧
      ∀ socket, (tick.runMqtt frame space).2.station.IsBound socket →
        tick.station.IsBound socket ∧ ¬ frame.inbound.Ends socket ∧
          (tick.runMqtt frame space).2.station.keeper = tick.station.keeper := by
  cases hmqtt : tick.station.mqtt with
  | none => simp [runMqtt, hmqtt, Station.IsBound]
  | some adapter =>
    refine ⟨?_, ?_⟩
    · simp only [runMqtt, hmqtt, MqttAdapter.takeAbandoned]
      rintro _ ⟨⟩
      rfl
    · rintro socket ⟨next, hnext, hbound⟩
      simp only [runMqtt, hmqtt, MqttAdapter.takeAbandoned] at hnext ⊢
      obtain rfl := Option.some.inj hnext
      have hrelease := (adapter.socket_process frame space).1.symm.trans hbound
      obtain ⟨hbefore, hends⟩ := MqttAdapter.socket_release hrelease
      refine ⟨⟨adapter, hmqtt, hbefore⟩, hends, ?_⟩
      rw [adapter.abandoned_process, MqttAdapter.release_of_bound hrelease, h adapter hmqtt]

/-- Data is sent over the socket that the adapter is bound to. -/
theorem isBound_of_send {tick : Tick ρ ε δ} {frame : Frame} {space : Nat} {id socket : UInt8}
    {bytes : List UInt8} (h : (tick.runMqtt frame space).1 = some (.send id socket bytes)) :
    (tick.runMqtt frame space).2.station.IsBound socket := by
  cases hmqtt : tick.station.mqtt with
  | none => simp [runMqtt, hmqtt] at h
  | some adapter =>
    simp only [runMqtt, hmqtt, MqttAdapter.takeAbandoned] at h ⊢
    obtain ⟨hsocket, hsend⟩ := adapter.socket_process frame space
    exact ⟨_, rfl, hsocket.trans (hsend id socket bytes h)⟩

/-- A step keeps what a station knows of its binding, if the keeper holds the bound socket
unless the frame ends it. -/
theorem bound_runMqtt {tick : Tick ρ ε δ} {frame : Frame} {space : Nat}
    (hpaired : ∀ keeper ∈ tick.station.keeper, keeper.Paired)
    (htold : ∀ adapter ∈ tick.station.mqtt, adapter.abandoned = none)
    (hheld : ∀ socket, tick.station.IsBound socket → ¬ frame.inbound.Ends socket →
      ∃ keeper ∈ tick.station.keeper, keeper.socketId = some socket) :
    (tick.runMqtt frame space).2.station.Bound := by
  obtain ⟨htold', hlasting⟩ := runMqtt_told frame space htold
  refine ⟨fun keeper hmem => ?_, htold', fun adapter hmem socket hsocket => ?_⟩
  · obtain ⟨before, hbefore, hstep⟩ := (tick.runMqtt_parts frame space).1 keeper hmem
    rcases hstep with rfl | ⟨given, rfl⟩
    · exact hpaired _ hbefore
    · exact (Keeper.follows_closeStarted (hpaired before hbefore) given).paired
  · obtain ⟨hbefore, hends, hsame⟩ := hlasting socket ⟨adapter, hmem, hsocket⟩
    rw [hsame]
    exact hheld socket hbefore hends

end Tick

/-! ## The frames of a tick -/

/-- A tick in which frames are handled. As long as the adapter stays bound to a socket, none of
the frames has ended it, and the keeper has been told of the frames and of nothing else. -/
structure Tick.Undisturbed (start : Station ρ ε δ) (tick : Tick ρ ε δ) : Prop where
  bound : tick.station.Bound
  lasting : ∀ socket, tick.station.IsBound socket → start.IsBound socket ∧
    (∀ frame ∈ tick.handled, ¬ frame.inbound.Ends socket) ∧
    tick.station.keeper =
      start.keeper.map fun keeper => keeper.after (tick.handled.map .incoming)

namespace Tick

section Handling

variable [MqttEngine ε] {start : Station ρ ε δ}

theorem Undisturbed.handle {tick : Tick ρ ε δ} (h : Undisturbed start tick) (now : Millis)
    (frame : Frame) : Undisturbed start (tick.handle now frame) := by
  -- The monitor and the keeper have read the frame, and the adapter is yet to take its step.
  let read : Tick ρ ε δ :=
    { tick with
      station :=
        { tick.station with
          monitor := tick.station.monitor.onIncoming now frame
          keeper := tick.station.keeper.map fun keeper => keeper.onIncoming frame }
      handled := tick.handled ++ [frame] }
  have hfollows : ∀ keeper ∈ tick.station.keeper,
      Keeper.Follows keeper (.incoming frame) (keeper.onIncoming frame) := fun keeper hkeeper =>
    Keeper.follows_onIncoming (h.bound.paired keeper hkeeper) frame
  have hbound : (read.runMqtt frame 0).2.station.Bound := by
    refine bound_runMqtt (fun keeper hmem => ?_) h.bound.told fun socket hbefore hends => ?_
    · obtain ⟨kept, hkept, rfl⟩ := Option.map_eq_some_iff.mp hmem
      exact (hfollows kept hkept).paired
    · obtain ⟨adapter, hadapter, hsocket⟩ := hbefore
      obtain ⟨kept, hkept, hid⟩ := h.bound.held adapter hadapter socket hsocket
      exact ⟨kept.onIncoming frame, Option.map_eq_some_iff.mpr ⟨kept, hkept, rfl⟩,
        ((hfollows kept hkept).holds socket).mpr (.inr ⟨hid, hends⟩)⟩
  refine ⟨hbound, fun socket hlast => ?_⟩
  obtain ⟨-, hlasting⟩ := read.runMqtt_told frame 0 h.bound.told
  obtain ⟨hbefore, hends, hsame⟩ := hlasting socket hlast
  obtain ⟨hstart, hnone, hafter⟩ := h.lasting socket hbefore
  have hread : read.station.keeper =
      start.keeper.map fun keeper => keeper.after ((tick.handled ++ [frame]).map .incoming) := by
    show tick.station.keeper.map _ = _
    simp only [hafter, Option.map_map, List.map_append, List.map_singleton, Keeper.after_concat]
    rfl
  rw [(tick.handle_fields now frame).2.1]
  refine ⟨hstart, ?_, hsame.trans hread⟩
  simp only [List.forall_mem_append, List.forall_mem_singleton]
  exact ⟨hnone, hends⟩

theorem Undisturbed.drain [Radio ρ] (h : start.Bound) {polls : List (Millis × Millis)}
    {drained : Tick ρ ε δ} (hdrain : start.beginTick.drain? polls = some drained) :
    Undisturbed start drained := by
  refine drain?_preserves (P := Undisturbed start) ?_ ?_ hdrain ?_
  · intro tick polled now frame radio htick _
    have hpolled : Undisturbed start (tick.withRadio radio) :=
      ⟨⟨htick.bound.paired, htick.bound.told, htick.bound.held⟩, htick.lasting⟩
    exact hpolled.handle now frame
  · intro tick polled radio htick _
    exact ⟨⟨htick.bound.paired, htick.bound.told, htick.bound.held⟩, htick.lasting⟩
  · refine ⟨⟨h.paired, h.told, h.held⟩, fun socket hbound => ⟨hbound, ?_, ?_⟩⟩
    · simp [Station.beginTick]
    · simp [Station.beginTick, Keeper.after]

end Handling

/-! ## The moment of sending -/

section Sending

variable [Radio ρ]

theorem keeper_afterKeeper (tick : Tick ρ ε δ) (now : Millis) :
    (tick.afterKeeper now).station.keeper = tick.station.keeper.map fun keeper =>
      keeper.answer (.turn now (Radio.space tick.station.radio)) := by
  cases hkeeper : tick.station.keeper with
  | none =>
    rw [(afterKeeper_of_none now hkeeper).2, hkeeper]
    rfl
  | some keeper =>
    rw [(afterKeeper_of_some now hkeeper).2, keeper_queue]
    rfl

theorem mqtt_afterKeeper (tick : Tick ρ ε δ) (now : Millis) :
    (tick.afterKeeper now).station.mqtt = tick.station.mqtt := by
  cases hkeeper : tick.station.keeper with
  | none => rw [(afterKeeper_of_none now hkeeper).2]
  | some keeper => rw [(afterKeeper_of_some now hkeeper).2, mqtt_queue]

/-- The keeper's turn does not touch what is known of the binding. -/
theorem bound_afterKeeper {tick : Tick ρ ε δ} (h : tick.station.Bound) (now : Millis) :
    (tick.afterKeeper now).station.Bound := by
  have hfollows : ∀ keeper ∈ tick.station.keeper, ∀ space,
      Keeper.Follows keeper (.turn now space) (keeper.answer (.turn now space)) :=
    fun keeper hmem space => Keeper.follows_answer (h.paired keeper hmem) (.turn now space)
  refine ⟨?_, ?_, ?_⟩
  · intro keeper hmem
    rw [keeper_afterKeeper] at hmem
    obtain ⟨kept, hkept, rfl⟩ := Option.map_eq_some_iff.mp hmem
    exact (hfollows kept hkept _).paired
  · intro adapter hmem
    rw [mqtt_afterKeeper] at hmem
    exact h.told adapter hmem
  · intro adapter hmem socket hsocket
    rw [mqtt_afterKeeper] at hmem
    obtain ⟨kept, hkept, hid⟩ := h.held adapter hmem socket hsocket
    rw [keeper_afterKeeper]
    exact ⟨_, Option.map_eq_some_iff.mpr ⟨kept, hkept, rfl⟩,
      ((hfollows kept hkept _).holds socket).mpr (.inr ⟨hid, id⟩)⟩

variable [MqttEngine ε]

/-- The tick when the adapter's request is about to be queued : the monitor and the keeper have
had their turns, and the adapter has taken its step. -/
def atSend (tick : Tick ρ ε δ) (readings : Readings) : Tick ρ ε δ :=
  let tick := (tick.afterMonitor readings.monitor).afterKeeper readings.keeper
  (tick.runMqtt .empty (Radio.space tick.station.radio)).2

/-- Once the adapter's request is queued, the turns are over. -/
theorem afterTurns_eq_queue (tick : Tick ρ ε δ) (readings : Readings) :
    tick.afterTurns readings = (tick.atSend readings).queue
      ((tick.afterMonitor readings.monitor).afterKeeper readings.keeper).mqttRequest := rfl

theorem bound_atSend {tick : Tick ρ ε δ} (h : tick.station.Bound) (readings : Readings) :
    (tick.atSend readings).station.Bound := by
  have hmonitor : (tick.afterMonitor readings.monitor).station.Bound := by
    constructor
    · rw [keeper_afterMonitor]
      exact h.paired
    · rw [mqtt_afterMonitor]
      exact h.told
    · rw [mqtt_afterMonitor, keeper_afterMonitor]
      exact h.held
  have hturn := bound_afterKeeper hmonitor readings.keeper
  exact bound_runMqtt hturn.paired hturn.told fun socket ⟨adapter, hmem, hsocket⟩ _ =>
    hturn.held adapter hmem socket hsocket

/-- A socket that the adapter is bound to when it sends was bound before the turns, and the
keeper has had its turn and has been told of nothing else. -/
theorem keeper_atSend {tick : Tick ρ ε δ} (h : tick.station.Bound) (readings : Readings)
    {socket : UInt8} (hbound : (tick.atSend readings).station.IsBound socket) :
    tick.station.IsBound socket ∧ ∃ space, (tick.atSend readings).station.keeper =
      tick.station.keeper.map fun keeper => keeper.answer (.turn readings.keeper space) := by
  have htold : ∀ adapter ∈
      ((tick.afterMonitor readings.monitor).afterKeeper readings.keeper).station.mqtt,
      adapter.abandoned = none := by
    rw [mqtt_afterKeeper, mqtt_afterMonitor]
    exact h.told
  obtain ⟨-, hlasting⟩ := runMqtt_told Frame.empty (Radio.space
    ((tick.afterMonitor readings.monitor).afterKeeper readings.keeper).station.radio) htold
  obtain ⟨⟨adapter, hmem, hsocket⟩, -, hsame⟩ := hlasting socket hbound
  rw [mqtt_afterKeeper, mqtt_afterMonitor] at hmem
  refine ⟨⟨adapter, hmem, hsocket⟩,
    Radio.space (tick.afterMonitor readings.monitor).station.radio, ?_⟩
  rw [atSend, hsame, keeper_afterKeeper, keeper_afterMonitor]

/-- Only the adapter makes requests to send data. -/
theorem mqttRequest_of_mem_requests {tick : Tick ρ ε δ} {readings : Readings} {id socket : UInt8}
    {bytes : List UInt8} (h : .send id socket bytes ∈ tick.requests readings) :
    ((tick.afterMonitor readings.monitor).afterKeeper readings.keeper).mqttRequest =
      some (.send id socket bytes) := by
  simp only [requests, List.mem_append, Option.mem_toList] at h
  rcases h with (hmonitor | hkeeper) | hmqtt
  · exact absurd hmonitor Monitor.takeTurn_ne_send
  · obtain ⟨keeper, -, hrequest⟩ := Option.bind_eq_some_iff.mp hkeeper
    exact absurd hrequest Keeper.takeTurn_ne_send
  · exact hmqtt

end Sending

end Tick

namespace Station

/-! ## Ticks and runs -/

/-- What a station hands out once its keeper has read frames and had its turn. -/
theorem keptSocket_after {station next : Station ρ ε δ} (h : station.Bound) {socket : UInt8}
    {frames : List Frame} {now : Millis} {space : Nat} (hbound : station.IsBound socket)
    (hlasting : ∀ frame ∈ frames, ¬ frame.inbound.Ends socket)
    (hnext : next.keeper = station.keeper.map fun keeper =>
      (keeper.after (frames.map .incoming)).answer (.turn now space)) :
    (∃ keeper ∈ next.keeper, keeper.socketId = some socket) ∧
      (next.keptSocket = some socket ↔
        Keeper.InUse socket (station.keptSocket = some socket) (frames.map .incoming)) := by
  obtain ⟨adapter, hmem, hsocket⟩ := hbound
  obtain ⟨keeper, hkept, hid⟩ := h.held adapter hmem socket hsocket
  have hends : ∀ call ∈ frames.map Keeper.Call.incoming, ¬ call.Ends socket := by
    simpa [Keeper.Call.Ends] using hlasting
  have hpaired := (h.paired keeper hkept).after (frames.map .incoming)
  have hfollows := Keeper.follows_answer hpaired (.turn now space)
  obtain ⟨hheld, huse⟩ := Keeper.after_of_lasting (h.paired keeper hkept) hid hends
  rw [Option.mem_def] at hkept
  rw [keptSocket, keptSocket, hnext, hkept]
  refine ⟨⟨_, rfl, (hfollows.holds socket).mpr (.inr ⟨hheld, id⟩)⟩, ?_⟩
  show (Keeper.answer _ _).socket = some socket ↔ _
  rw [hfollows.handsOut, Option.bind_some, ← huse]
  constructor
  · rintro (⟨-, hconnects⟩ | ⟨hsocket, -, -⟩)
    · exact hconnects.elim
    · exact hsocket
  · exact fun hsocket => .inr ⟨hsocket, id, id⟩

variable [Radio ρ] [MqttEngine ε] [Display δ]

theorem Bound.tick {station : Station ρ ε δ} (h : station.Bound) {readings : Readings}
    {tick : Tick ρ ε δ} (htick : station.tick? readings = some (.ok tick)) :
    tick.station.Bound := by
  obtain ⟨drained, _, hdrain, -, rfl, -, -, -, -, hkeeper, hmqtt⟩ := tick?_eq_some htick
  have hend := Tick.bound_atSend (Tick.Undisturbed.drain h hdrain).bound readings
  rw [Tick.afterTurns_eq_queue, Tick.keeper_queue] at hkeeper
  rw [Tick.afterTurns_eq_queue, Tick.mqtt_queue] at hmqtt
  refine ⟨?_, ?_, ?_⟩
  · rw [hkeeper]
    exact hend.paired
  · intro adapter hmem
    rw [hmqtt] at hmem
    obtain ⟨before, hbefore, rfl⟩ := Option.map_eq_some_iff.mp hmem
    exact (before.useSocket_fields _).2.trans (hend.told before hbefore)
  · intro adapter hmem socket hsocket
    rw [hmqtt] at hmem
    obtain ⟨before, hbefore, rfl⟩ := Option.map_eq_some_iff.mp hmem
    rw [(before.useSocket_fields _).1, keptSocket, Tick.keeper_queue] at hsocket
    obtain ⟨keeper, hkept, hgiven⟩ := Option.bind_eq_some_iff.mp hsocket
    rw [hkeeper]
    exact ⟨keeper, hkept, Keeper.socketId_of_socket hgiven⟩

/-- In a run the keeper holds the socket that the adapter is bound to. -/
theorem Run.bound {radio : ρ} {history : List Happening} {station : Station ρ ε δ}
    (hrun : Run radio history station) : station.Bound := by
  induction hrun with
  | start h =>
    obtain ⟨-, hmqtt, hkeeper⟩ := ofConfig_eq_ok h
    refine ⟨fun keeper hmem _ => (hkeeper keeper hmem).2, ?_, ?_⟩
    · simp [hmqtt]
    · simp [hmqtt]
  | attach _ h ih =>
    obtain ⟨adapter, rfl, hunbound, htold⟩ := withMqtt_eq_ok h
    refine ⟨ih.paired, ?_, ?_⟩
    · rintro _ ⟨⟩
      exact htold
    · rintro _ ⟨⟩ socket hsocket
      rw [hunbound] at hsocket
      cases hsocket
  | engine engine _ ih =>
    refine ⟨ih.paired, fun adapter hmem => ?_, fun adapter hmem => ?_⟩
    · obtain ⟨before, hbefore, rfl⟩ := Option.map_eq_some_iff.mp hmem
      exact ih.told before hbefore
    · obtain ⟨before, hbefore, rfl⟩ := Option.map_eq_some_iff.mp hmem
      exact ih.held before hbefore
  | carrier _ _ ih | apn _ _ ih => exact ⟨ih.paired, ih.told, ih.held⟩
  | reconnect _ ih =>
    refine ⟨fun keeper hmem => ?_, ih.told, fun adapter hmem socket hsocket => ?_⟩
    · obtain ⟨kept, hkept, rfl⟩ := Option.map_eq_some_iff.mp hmem
      exact (Keeper.follows_reconnect (ih.paired kept hkept)).paired
    · obtain ⟨kept, hkept, hid⟩ := ih.held adapter hmem socket hsocket
      exact ⟨kept.reconnect, Option.map_eq_some_iff.mpr ⟨kept, hkept, rfl⟩,
        ((Keeper.follows_reconnect (ih.paired kept hkept)).holds socket).mpr (.inr ⟨hid, id⟩)⟩
  | tick _ h ih => exact ih.tick h

/-- Whether data goes to a socket in use. When a tick of a run queues data for a socket, the
keeper holds this socket at that moment. It hands the socket out at that moment exactly when it
did before the tick and no frame of the tick says that connecting it failed, or when a frame of
the tick says that it is connected and no later one says that this failed. -/
theorem handedOut_atSend_iff {radio : ρ} {history : List Happening} {station : Station ρ ε δ}
    {readings : Readings} {tick : Tick ρ ε δ} {id socket : UInt8} {bytes : List UInt8}
    (hrun : Run radio history station) (htick : station.tick? readings = some (.ok tick))
    (hsend : .send id socket bytes ∈ tick.queued) :
    ∃ drained, station.beginTick.drain? readings.polls = some drained ∧
      drained.turns readings =
        .ok ((drained.atSend readings).queue (some (.send id socket bytes))) ∧
      (∃ keeper ∈ (drained.atSend readings).station.keeper, keeper.socketId = some socket) ∧
      ((drained.atSend readings).station.keptSocket = some socket ↔
        Keeper.InUse socket (station.keptSocket = some socket) (tick.handled.map .incoming)) := by
  obtain ⟨drained, _, hdrain, hturns, rfl, hhandled, hqueued, -, -, -, -⟩ := tick?_eq_some htick
  have hsends := drained.afterTurns_sends readings
  rw [hqueued, hsends.queued, (drainsSilently hdrain).queued] at hsend
  have hrequest := Tick.mqttRequest_of_mem_requests hsend
  have hundisturbed := Tick.Undisturbed.drain hrun.bound hdrain
  obtain ⟨hbound, space, hturn⟩ :=
    Tick.keeper_atSend hundisturbed.bound readings (Tick.isBound_of_send hrequest)
  obtain ⟨hstart, hlasting, hafter⟩ := hundisturbed.lasting socket hbound
  rw [hafter, Option.map_map] at hturn
  rw [hhandled, hsends.handled]
  refine ⟨drained, hdrain, ?_, keptSocket_after hrun.bound hstart hlasting hturn⟩
  rw [hturns, Tick.afterTurns_eq_queue, hrequest]

/-- The station has bytes to send over socket 5, which is connected and stays so. -/
theorem handedOut_atSend_iff_opening :
    ∃ (history : List Happening) (station : Station ScriptedRadio OutboxEngine NullDisplay)
      (tick drained : Tick ScriptedRadio OutboxEngine NullDisplay),
      Run opening.radio history station ∧ station.tick? (.held 1030 2) = some (.ok tick) ∧
        .send sendFrameId 5 [1, 2, 3] ∈ tick.queued ∧
        station.beginTick.drain? (Readings.held 1030 2).polls = some drained ∧
        (drained.atSend (.held 1030 2)).station.keptSocket = some 5 := by
  let readings : List Readings := [1000, 1010, 1020].map (.held · 2)
  have hlast : (ticks? readings opening).bind (fun reached =>
      (reached.2.next? (.held 1030 2)).map fun tick =>
        (reached.2.keptSocket, tick.handled, tick.queued.getLast?)) =
      some (some 5, [], some (.send sendFrameId 5 [1, 2, 3])) := by decide +kernel
  obtain ⟨⟨history, station⟩, hticks, hlast⟩ := Option.bind_eq_some_iff.mp hlast
  obtain ⟨tick, hnext, hfacts⟩ := Option.map_eq_some_iff.mp hlast
  obtain ⟨hkept, hhandled, hsend⟩ : station.keptSocket = some 5 ∧ tick.handled = [] ∧
      tick.queued.getLast? = some (.send sendFrameId 5 [1, 2, 3]) := by simpa using hfacts
  have hrun := run_opening.ticks hticks
  have htick := tick?_of_next? hnext
  have hmem := List.mem_of_getLast? hsend
  obtain ⟨drained, hdrain, -, -, hiff⟩ := handedOut_atSend_iff hrun htick hmem
  refine ⟨_, station, tick, drained, hrun, htick, hmem, hdrain, hiff.mpr (.inl ⟨hkept, ?_⟩)⟩
  simp [hhandled]

/-- Data goes to a socket that is being closed : the socket is to be reconnected, and the next
tick queues the request to close it and then data for it, while nothing is handed out. -/
theorem data_after_close :
    ∃ (history : List Happening) (station : Station ScriptedRadio OutboxEngine NullDisplay)
      (tick drained : Tick ScriptedRadio OutboxEngine NullDisplay),
      Run opening.radio history station ∧ station.tick? (.held 1030 2) = some (.ok tick) ∧
        tick.queued =
          [.command (Monitor.pollId .firmwareVersion) Query.firmwareVersion.command [],
            .close requestFrameId 5, .send sendFrameId 5 [1, 2, 3]] ∧
        station.beginTick.drain? (Readings.held 1030 2).polls = some drained ∧
        drained.turns (.held 1030 2) =
          .ok ((drained.atSend (.held 1030 2)).queue (some (.send sendFrameId 5 [1, 2, 3]))) ∧
        (drained.atSend (.held 1030 2)).station.keptSocket = none := by
  let readings : List Readings := [1000, 1010, 1020].map (.held · 2)
  have hlast : (ticks? readings opening).bind (fun reached =>
      let station := { reached.2 with keeper := reached.2.keeper.map Keeper.reconnect }
      (station.next? (.held 1030 2)).bind fun tick =>
        (station.beginTick.drain? (Readings.held 1030 2).polls).map fun drained =>
          (tick.queued, ((drained.afterMonitor 1030).afterKeeper 1030).mqttRequest,
            (drained.atSend (.held 1030 2)).station.keptSocket)) =
      some ([.command (Monitor.pollId .firmwareVersion) Query.firmwareVersion.command [],
          .close requestFrameId 5, .send sendFrameId 5 [1, 2, 3]],
        some (.send sendFrameId 5 [1, 2, 3]), none) := by decide +kernel
  obtain ⟨⟨history, station⟩, hticks, hlast⟩ := Option.bind_eq_some_iff.mp hlast
  obtain ⟨tick, hnext, hlast⟩ := Option.bind_eq_some_iff.mp hlast
  obtain ⟨drained, hdrain, hfacts⟩ := Option.map_eq_some_iff.mp hlast
  obtain ⟨hqueued, hsent⟩ := Prod.mk.inj hfacts
  obtain ⟨hrequest, hkept⟩ := Prod.mk.inj hsent
  have htick := tick?_of_next? hnext
  obtain ⟨_, _, hdrain', hturns, rfl, -⟩ := tick?_eq_some htick
  obtain rfl := Option.some.inj (hdrain.symm.trans hdrain')
  refine ⟨_, _, tick, drained, (run_opening.ticks hticks).reconnect, htick, hqueued, hdrain, ?_,
    hkept⟩
  rw [hturns, Tick.afterTurns_eq_queue]
  exact congrArg (fun request => Except.ok ((drained.atSend (.held 1030 2)).queue request)) hrequest

end Station

end CellStation
