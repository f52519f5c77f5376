import CellStation.Proofs.KeeperRuns
import CellStation.Proofs.MonitorRuns

/-!
# What is handed to the components

While a radio is drained, each of its frames is handed to the monitor, to the keeper and to the
adapter. `Tick.Hands` tells of each component the calls that are made on it : the monitor and the
keeper handle every frame, the adapter has a step with every frame and no room to send, and the
keeper is told which sockets the adapter gives up. So it is with one frame (`Tick.Hands.cons`),
and with all that the radio has ready (`Tick.drain?_hands`).
-/

namespace CellStation

open Radio (after received)

namespace MqttAdapter

variable {ε : Type} [MqttEngine ε]

/-- The calls on an adapter that frames are handed to : a step with each of them, without room to
send, after which it is asked what it has given up. -/
def handovers (frames : List Frame) : List Call :=
  frames.flatMap fun frame => [.process frame 0, .takeAbandoned]

/-- The calls on a keeper while frames are handed to it and to an adapter : each frame, and after
it the socket that the adapter gives up with it. -/
def told (adapter : MqttAdapter ε) (frames : List Frame) : List Keeper.Call :=
  (frames.zip (adapter.steps (handovers frames))).flatMap fun (frame, step) =>
    .incoming frame :: (step.adapter.abandoned.map .closeStarted).toList

theorem told_cons (adapter : MqttAdapter ε) (frame : Frame) (frames : List Frame) :
    adapter.told (frame :: frames) =
      .incoming frame :: ((adapter.process frame 0).adapter.abandoned.map .closeStarted).toList ++
        (adapter.process frame 0).adapter.takeAbandoned.2.told frames := rfl

/-- Without room an adapter makes no request in any of its steps, and its engine sends nothing. -/
theorem steps_handovers (adapter : MqttAdapter ε) (frames : List Frame) :
    ∀ step ∈ adapter.steps (handovers frames),
      step.request = none ∧ ∀ bytes taken, .send bytes taken ∈ step.calls → taken = 0 := by
  induction frames generalizing adapter with
  | nil => nofun
  | cons frame frames ih =>
    refine List.forall_mem_cons.mpr ⟨adapter.process_without_room frame, ?_⟩
    exact ih (adapter.process frame 0).adapter.takeAbandoned.2

end MqttAdapter

namespace Station

variable {ρ ε δ : Type} [MqttEngine ε]

/-- The steps of the adapter, if there is one, with frames that are handed to it. -/
def stepsWith (station : Station ρ ε δ) (frames : List Frame) : List (MqttStep ε) :=
  station.mqtt.elim [] fun adapter => adapter.steps (MqttAdapter.handovers frames)

/-- While frames are handed over the adapter makes no request, and its engine sends nothing. -/
theorem stepsWith_silent (station : Station ρ ε δ) (frames : List Frame) :
    ∀ step ∈ station.stepsWith frames,
      step.request = none ∧ ∀ bytes taken, .send bytes taken ∈ step.calls → taken = 0 := by
  unfold stepsWith
  cases station.mqtt with
  | none => nofun
  | some adapter => exact adapter.steps_handovers frames

/-- The calls on the keeper while frames are handed to the station. -/
def keeperTold (station : Station ρ ε δ) (frames : List Frame) : List Keeper.Call :=
  station.mqtt.elim (frames.map .incoming) fun adapter => adapter.told frames

end Station

namespace Tick

variable {ρ ε δ : Type} [MqttEngine ε] {tick next : Tick ρ ε δ}

/-- Frames are handed to the components, each with the reading of the clock meanwhile. -/
structure Hands (arrivals : List (Millis × Frame)) (tick next : Tick ρ ε δ) : Prop where
  handled : next.handled = tick.handled ++ arrivals.map Prod.snd
  monitor : next.station.monitor =
    tick.station.monitor.after (arrivals.map fun (now, frame) => .incoming now frame)
  keeper : next.station.keeper = tick.station.keeper.map fun keeper =>
    keeper.after (tick.station.keeperTold (arrivals.map Prod.snd))
  mqtt : next.station.mqtt = tick.station.mqtt.map fun adapter =>
    adapter.after (MqttAdapter.handovers (arrivals.map Prod.snd))
  /-- The requests that the adapter makes meanwhile are dropped. -/
  dropped : next.dropped = tick.dropped ++
    (tick.station.stepsWith (arrivals.map Prod.snd)).flatMap fun step => step.request.toList
  calls : next.calls = tick.calls ++
    (tick.station.stepsWith (arrivals.map Prod.snd)).flatMap MqttStep.calls
  queued : next.queued = tick.queued

/-- Where nothing is handed over, only the radio may be another. -/
theorem hands_withRadio (tick : Tick ρ ε δ) (radio : ρ) : Hands [] tick (tick.withRadio radio) where
  handled := (List.append_nil _).symm
  monitor := rfl
  keeper := by
    cases hmqtt : tick.station.mqtt <;>
      simp [withRadio, Station.keeperTold, hmqtt, MqttAdapter.told, Keeper.after]
  mqtt := by simp [withRadio, MqttAdapter.handovers, MqttAdapter.after]
  dropped := by
    cases hmqtt : tick.station.mqtt <;>
      simp [withRadio, Station.stepsWith, hmqtt, MqttAdapter.handovers, MqttAdapter.steps]
  calls := by
    cases hmqtt : tick.station.mqtt <;>
      simp [withRadio, Station.stepsWith, hmqtt, MqttAdapter.handovers, MqttAdapter.steps]
  queued := rfl

/-- The radio has no part in what is handed over. -/
theorem Hands.of_withRadio {arrivals : List (Millis × Frame)} {radio : ρ}
    (h : Hands arrivals (tick.withRadio radio) next) : Hands arrivals tick next :=
  ⟨h.handled, h.monitor, h.keeper, h.mqtt, h.dropped, h.calls, h.queued⟩

/-- One frame is handled before the others. -/
theorem Hands.cons {now : Millis} {frame : Frame} {arrivals : List (Millis × Frame)}
    (h : Hands arrivals (tick.handle now frame) next) :
    Hands ((now, frame) :: arrivals) tick next := by
  obtain ⟨hhandled, hmonitor, hkeeper, hmqtt, hdropped, hcalls, hqueued⟩ := h
  rcases tick with ⟨⟨name, radio, display, monitor, keeper, _ | adapter, ticks⟩, handled, queued,
    dropped, calls, published⟩
  · refine ⟨?_, hmonitor, ?_, hmqtt, ?_, hcalls, hqueued⟩
    · rw [hhandled]
      exact List.append_assoc _ _ _
    · rw [hkeeper]
      exact Option.map_map ..
    · rw [hdropped]
      exact List.append_assoc _ _ _
  · refine ⟨?_, hmonitor, ?_, hmqtt, ?_, ?_, hqueued⟩
    · rw [hhandled]
      exact List.append_assoc _ _ _
    · rw [hkeeper]
      simp only [handle, runMqtt, MqttAdapter.takeAbandoned, Station.keeperTold, Option.elim_some,
        List.map_cons, MqttAdapter.told_cons]
      cases (adapter.process frame 0).adapter.abandoned with
      | none => exact Option.map_map ..
      | some socket =>
        rw [Option.map_map, Option.map_map]
        rfl
    · rw [hdropped]
      exact List.append_assoc _ _ _
    · rw [hcalls]
      exact List.append_assoc _ _ _

/-- The drain loop polls the radio until there is nothing ready, and hands what the polls bring to
the components. -/
theorem drain?_hands [Radio ρ] : ∀ {readings : List (Millis × Millis)} {tick drained : Tick ρ ε δ},
    drain? readings tick = some drained →
    ∃ frames : List Frame, frames.length < readings.length ∧
      received (((readings.map Prod.fst).take (frames.length + 1)).map .poll)
        tick.station.radio = frames ∧
      drained.station.radio =
        after (((readings.map Prod.fst).take (frames.length + 1)).map .poll) tick.station.radio ∧
      Hands ((readings.map Prod.snd).zip frames) tick drained
  | [], _, _, h => by cases h
  | (polled, now) :: readings, tick, drained, h => by
    rcases hpoll : Radio.poll polled tick.station.radio with ⟨_ | frame, radio⟩
    · rw [drain?_cons_of_none hpoll] at h
      obtain rfl := Option.some.inj h
      have hanswer : Radio.answer (.poll polled) tick.station.radio = (none, radio) := hpoll
      refine ⟨[], Nat.succ_pos _, ?_, ?_, tick.hands_withRadio radio⟩
      · simp [received, hanswer]
      · simp [after, hanswer, withRadio]
    · rw [drain?_cons_of_some hpoll] at h
      have hanswer : Radio.answer (.poll polled) tick.station.radio = (some frame, radio) := hpoll
      obtain ⟨frames, hlength, hreceived, hradio, hhands⟩ := drain?_hands h
      have hkept : ((tick.withRadio radio).handle now frame).station.radio = radio :=
        ((tick.withRadio radio).handle_fields now frame).1
      rw [hkept] at hreceived hradio
      refine ⟨frame :: frames, Nat.succ_lt_succ hlength, ?_, ?_, hhands.cons.of_withRadio⟩
      · simp only [List.length_cons, List.map_cons, List.take_succ_cons, received, hanswer, hreceived,
          Option.toList_some, List.singleton_append]
      · simp only [List.length_cons, List.map_cons, List.take_succ_cons, after, hanswer, hradio]

end Tick

end CellStation
