import CellStation.Proofs.Framing
import CellStation.Proofs.Resynchronisation
import CellStation.Proofs.TickBudget
import CellStation.Serial.Queued

/-!
# A tick drains its input

A tick handles frames until a poll hands out none. A poll reads only what there is room for and
hands out one frame, so the bytes that count are those held back together with those that still
wait on the line (`Modem.Pending`). On a line on which none arrive meanwhile
(`SerialLink.Still`), a frame takes at least five of them, so the polls come to an end
(`Tick.exists_drained`). A poll that reads less than all there is fills the buffer, and a frame
of any size fits into the buffer. So a frame that stands first is handed out by the next poll,
however the bytes are cut between buffer and line (`Modem.Pending.poll_toWire`), and a tick
hands all frames pending to the components (`Station.tick_drains_input`).
-/

namespace CellStation

open Radio (Call after received enqueues)

/-- A line on which no bytes arrive : it reports the bytes that wait on it, hands them over in
order, and keeps them through all else that is asked of it in API mode. -/
structure SerialLink.Still (σ : Type) [SerialLink σ] where
  /-- The line is still, and these bytes wait on it. -/
  waits : σ → List UInt8 → Prop
  available {line : σ} {bytes : List UInt8} (h : waits line bytes) :
    (SerialLink.available line).1 = .ok bytes.length ∧ waits (SerialLink.available line).2 bytes
  read {line : σ} {bytes : List UInt8} {size : Nat} (h : waits line bytes)
    (hsize : size ≤ bytes.length) :
    (SerialLink.read size line).1 = .ok (bytes.take size) ∧
      waits (SerialLink.read size line).2 (bytes.drop size)
  writable {line : σ} {bytes : List UInt8} (h : waits line bytes) :
    waits (SerialLink.writable line).2 bytes
  write {line : σ} {bytes : List UInt8} (text : List UInt8) (h : waits line bytes) :
    waits (SerialLink.write text line).2 bytes

namespace Modem

variable {σ : Type} [SerialLink σ] {still : SerialLink.Still σ} {modem : Modem σ}
  {queue bytes : List UInt8}

/-! ## One poll over a still line -/

/-- In API mode as many of the bytes that wait are read as there is room for. -/
theorem fillInput_of_waits (hstate : modem.state = .apiMode)
    (h : still.waits modem.link queue) :
    modem.fillInput.inBuf = modem.inBuf ++ queue.take (modem.wanted queue.length) ∧
      still.waits modem.fillInput.link (queue.drop (modem.wanted queue.length)) := by
  obtain ⟨hreports, hasked⟩ := still.available h
  have hwanted : modem.wanted queue.length =
      min queue.length (bufferCapacity - modem.inBuf.length) := by rw [wanted, if_pos hstate]
  rcases hask : SerialLink.available modem.link with ⟨reply, asked⟩
  rw [hask] at hreports hasked
  obtain rfl : reply = .ok queue.length := hreports
  by_cases hwant : modem.wanted queue.length = 0
  · simp only [fillInput, hask, hwant, if_true, List.take_zero, List.append_nil, List.drop_zero]
    exact ⟨trivial, hasked⟩
  obtain ⟨hhands, hread⟩ := still.read hasked (hwanted ▸ Nat.min_le_left _ _)
  rcases hcall : SerialLink.read (modem.wanted queue.length) asked with ⟨answer, line⟩
  rw [hcall] at hhands hread
  obtain rfl : answer = .ok (queue.take (modem.wanted queue.length)) := hhands
  simp only [fillInput, hask, hwant, if_false, hcall, List.take_take, Nat.min_self]
  refine ⟨newest_of_le ?_, hread⟩
  rw [List.length_append, List.length_take]
  omega

/-- Writing leaves the bytes that wait where they are. -/
theorem drainOutput_of_waits (h : still.waits modem.link queue) :
    still.waits modem.drainOutput.link queue := by
  have hasked := still.writable h
  rcases hroom : SerialLink.writable modem.link with ⟨writable, link⟩
  rw [hroom] at hasked
  by_cases hcount : min writable modem.outBuf.size = 0
  · simp only [drainOutput, hroom, hcount, if_true]
    exact hasked
  have hwrote := still.write (modem.outBuf.front.take (min writable modem.outBuf.size)) hasked
  rcases hwrite : SerialLink.write (modem.outBuf.front.take (min writable modem.outBuf.size)) link
    with ⟨_ | written, line⟩ <;>
  · rw [hwrite] at hwrote
    simp only [drainOutput, hroom, hcount, if_false, hwrite]
    exact hwrote

/-- A modem in API mode. The bytes are those it holds back, followed by those that wait on its
line. -/
structure Pending (still : SerialLink.Still σ) (modem : Modem σ) (bytes : List UInt8) : Prop where
  state : modem.state = .apiMode
  split : ∃ queue, still.waits modem.link queue ∧ modem.inBuf ++ queue = bytes

namespace Pending

/-- A poll reads a part of the bytes pending, all of them or as many as the buffer holds, and
takes a frame out of that part. What it leaves of the part is pending with the rest. -/
theorem poll (h : Pending still modem bytes) (now : Millis) :
    ∃ seen rest, bytes = seen ++ rest ∧ (rest = [] ∨ bufferCapacity ≤ seen.length) ∧
      Frame.decode maxPayload seen = ((modem.poll now).1, (modem.poll now).2.inBuf) ∧
      Pending still (modem.poll now).2 ((modem.poll now).2.inBuf ++ rest) := by
  obtain ⟨hstate, queue, hwaits, rfl⟩ := h
  obtain ⟨hfill, hline⟩ := fillInput_of_waits hstate hwaits
  have hdrained := drainOutput_of_waits hline
  have hready := state_answer (.poll now) hstate
  have hpoll := poll_of_apiMode now hstate
  rw [takeFrame_eq, inBuf_drainOutput, hfill] at hpoll
  refine ⟨modem.inBuf ++ queue.take (modem.wanted queue.length),
    queue.drop (modem.wanted queue.length), ?_, ?_, ?_, hready, _, ?_, rfl⟩
  · rw [List.append_assoc, List.take_append_drop]
  · rw [List.drop_eq_nil_iff, List.length_append, List.length_take, wanted, if_pos hstate]
    omega
  · rw [hpoll]
  · rw [hpoll]
    exact hdrained

/-- A poll that hands out a frame takes at least five of the bytes pending. -/
theorem poll_some {now : Millis} {frame : Frame} {next : Modem σ} (h : Pending still modem bytes)
    (hpoll : modem.poll now = (some frame, next)) :
    ∃ left, Pending still next left ∧ left.length + 5 ≤ bytes.length := by
  obtain ⟨seen, rest, rfl, -, hdecode, hnext⟩ := h.poll now
  rw [hpoll] at hdecode hnext
  have hshort := Frame.length_decode_lt hdecode
  refine ⟨_, hnext, ?_⟩
  rw [List.length_append, List.length_append]
  omega

/-- A frame that stands first is handed out by the next poll, and what follows it is pending. -/
theorem poll_toWire {frame : Frame} {more : List UInt8}
    (h : Pending still modem (frame.toWire ++ more)) (hsize : frame.payloadSize ≤ maxPayload)
    (now : Millis) :
    ∃ next, modem.poll now = (some frame, next) ∧ Pending still next more := by
  obtain ⟨seen, rest, hsplit, hfull, hdecode, hnext⟩ := h.poll now
  have hwire : frame.toWire.length ≤ seen.length := by
    have hlengths := congrArg List.length hsplit
    rw [List.length_append, List.length_append] at hlengths
    rcases hfull with rfl | hfull
    · rw [List.length_nil] at hlengths
      omega
    · rw [Frame.length_toWire, Frame.wireSize, ← Frame.payloadSize]
      exact Nat.le_trans (Nat.add_le_add_right hsize frameOverhead) hfull
  obtain ⟨behind, rfl⟩ : frame.toWire <+: seen :=
    List.prefix_of_prefix_length_le ⟨more, hsplit⟩ ⟨rest, rfl⟩ hwire
  rw [List.append_assoc] at hsplit
  obtain rfl := List.append_cancel_left hsplit
  have hscan := Frame.scan_toWire hsize (Nat.le_trans hsize (by decide)) behind
  rw [Frame.decode_of_scan_accept hscan] at hdecode
  obtain ⟨hframe, hbuf⟩ := Prod.mk.inj hdecode
  refine ⟨(modem.poll now).2, Prod.ext hframe.symm rfl, ?_⟩
  rwa [← hbuf] at hnext

/-- A part of a frame is left as it is. -/
theorem poll_part {next : Frame} {part wire : List UInt8} (h : Pending still modem part)
    (hnext : Frame.encode maxPayload next = .ok wire) (hpart : part <+: wire)
    (hproper : part ≠ wire) (now : Millis) :
    ∃ waiting, modem.poll now = (none, waiting) ∧ Pending still waiting part := by
  obtain ⟨seen, rest, rfl, -, hdecode, hpending⟩ := h.poll now
  obtain ⟨hsize, rfl⟩ := Frame.encode_eq_ok hnext
  obtain ⟨tail, htail⟩ := hpart
  have hscan := Frame.scan_toWire hsize (Nat.le_trans hsize (by decide)) []
  rw [List.append_nil, ← htail, List.append_assoc] at hscan
  have hmissing : rest ++ tail ≠ [] := by
    rintro hnil
    obtain ⟨rfl, rfl⟩ := List.append_eq_nil_iff.mp hnil
    exact hproper (by simpa using htail)
  rw [Frame.decode_of_scan_wait (Frame.scan_part hscan hmissing)] at hdecode
  obtain ⟨hnone, hbuf⟩ := Prod.mk.inj hdecode
  refine ⟨(modem.poll now).2, Prod.ext hnone.symm rfl, ?_⟩
  rwa [← hbuf] at hpending

/-- Frames to be sent change nothing of what is pending. -/
theorem enqueues (h : Pending still modem bytes) : ∀ frames : List Frame,
    Pending still (after (Radio.enqueues frames) modem) bytes := by
  intro frames
  induction frames generalizing modem with
  | nil => exact h
  | cons frame frames ih =>
    obtain ⟨outBuf, heq⟩ := enqueue_eq frame modem
    have hqueued : Pending still (modem.enqueue frame) bytes := by
      rw [heq]
      exact ⟨h.state, h.split⟩
    exact ih hqueued

end Pending

end Modem

/-! ## The drain loop -/

namespace Tick

variable {σ ε δ : Type} [SerialLink σ] [MqttEngine ε] {still : SerialLink.Still σ}

/-- The loop ends if it may poll once more than there can be frames. -/
theorem exists_drained : ∀ (readings : List (Millis × Millis)) {bytes : List UInt8}
    {tick : Tick (Modem σ) ε δ}, Modem.Pending still tick.station.radio bytes →
    bytes.length / 5 < readings.length →
    ∃ drained, drain? readings tick = some drained ∧
      drained.handled.length ≤ tick.handled.length + bytes.length / 5
  | [], _, _, _, hpolls => absurd hpolls (Nat.not_lt_zero _)
  | (polled, now) :: readings, bytes, tick, hpending, hpolls => by
    rcases hpoll : tick.station.radio.poll polled with ⟨_ | frame, radio⟩
    · exact ⟨tick.withRadio radio, drain?_cons_of_none hpoll, Nat.le_add_right _ _⟩
    · obtain ⟨left, hleft, hshort⟩ := hpending.poll_some hpoll
      obtain ⟨hradio, hhandled, -⟩ := (tick.withRadio radio).handle_fields now frame
      rw [← show _ = radio from hradio] at hleft
      rw [List.length_cons] at hpolls
      obtain ⟨drained, hdrain, hfew⟩ := exists_drained readings hleft (by omega)
      refine ⟨drained, (drain?_cons_of_some hpoll).trans hdrain, ?_⟩
      rw [hhandled, List.length_append, List.length_singleton] at hfew
      simp only [withRadio] at hfew
      omega

/-- Over whole frames with a part of one more behind them, the loop handles these frames and
leaves the part. -/
theorem drained_frames {next : Frame} {part wire : List UInt8}
    (hnext : Frame.encode maxPayload next = .ok wire) (hpart : part <+: wire)
    (hproper : part ≠ wire) : ∀ {frames : List Frame} {readings : List (Millis × Millis)}
    {tick drained : Tick (Modem σ) ε δ}, drain? readings tick = some drained →
    (∀ frame ∈ frames, frame.payloadSize ≤ maxPayload) →
    Modem.Pending still tick.station.radio (frames.flatMap Frame.toWire ++ part) →
    drained.handled = tick.handled ++ frames ∧ Modem.Pending still drained.station.radio part
  | _, [], _, _, h, _, _ => by cases h
  | [], (polled, now) :: readings, tick, drained, h, _, hpending => by
    obtain ⟨radio, hpoll, hleft⟩ := hpending.poll_part hnext hpart hproper polled
    obtain rfl := Option.some.inj ((drain?_cons_of_none hpoll).symm.trans h)
    exact ⟨(List.append_nil _).symm, hleft⟩
  | frame :: frames, (polled, now) :: readings, tick, drained, h, hsizes, hpending => by
    obtain ⟨hsize, hothers⟩ := List.forall_mem_cons.mp hsizes
    rw [List.flatMap_cons, List.append_assoc] at hpending
    obtain ⟨radio, hpoll, hleft⟩ := hpending.poll_toWire hsize polled
    obtain ⟨hradio, hhandled, -⟩ := (tick.withRadio radio).handle_fields now frame
    rw [← show _ = radio from hradio] at hleft
    obtain ⟨hrest, hend⟩ := drained_frames hnext hpart hproper
      ((drain?_cons_of_some hpoll).symm.trans h) hothers hleft
    refine ⟨?_, hend⟩
    rw [hrest, hhandled, List.append_assoc]
    rfl

/-- The turns of the components change nothing of what is pending. -/
theorem pending_afterTurns {bytes : List UInt8} {tick : Tick (Modem σ) ε δ}
    (h : Modem.Pending still tick.station.radio bytes) (readings : Readings) :
    Modem.Pending still (tick.afterTurns readings).station.radio bytes := by
  rw [(tick.afterTurns_sends readings).radio]
  exact h.enqueues _

/-- The program stops in the turns only at a sum that has no room. -/
theorem no_room_of_turns {ρ : Type} [Radio ρ] {tick : Tick ρ ε δ} {readings : Readings}
    {stop : Overflow} (h : tick.turns readings = .error stop) :
    UInt64.size ≤ readings.monitor.toNat + tick.station.monitor.pollInterval.toNat ∨
      ∃ keeper ∈ tick.station.keeper,
        UInt64.size ≤ readings.keeper.toNat + keeper.retryInterval.toNat := by
  rcases bind_eq_error_iff.mp h with hmonitor | ⟨noted, hmonitor, h⟩
  · rw [monitorTurn, bind_pure_eq_error_iff, Monitor.nextRequest_eq_error_iff] at hmonitor
    exact .inl hmonitor.2.2.2.2
  · rcases bind_eq_error_iff.mp h with hkeeper | ⟨_, -, h⟩
    · obtain rfl := monitorTurn_eq_ok hmonitor
      rw [keeperTurn, keeper_afterMonitor] at hkeeper
      cases hkept : tick.station.keeper with
      | none =>
        rw [hkept] at hkeeper
        cases hkeeper
      | some keeper =>
        simp only [hkept, bind_pure_eq_error_iff, Keeper.nextRequest_eq_error_iff] at hkeeper
        exact .inr ⟨keeper, rfl, hkeeper.2.2.2.2.2⟩
    · cases h

end Tick

/-! ## A tick -/

namespace Station

variable {σ ε δ : Type} [SerialLink σ] [MqttEngine ε] [Display δ]

/-- How a tick goes over a modem : the frames that it hands to the components, what it has come to
once its input is drained, and how it ends. -/
structure Drains (still : SerialLink.Still σ) (readings : Readings) (bytes : List UInt8)
    (station : Station (Modem σ) ε δ) (frames : List Frame) (drained : Tick (Modem σ) ε δ)
    (outcome : Except Overflow (Tick (Modem σ) ε δ)) : Prop where
  /-- The loop ends, and so does the tick. -/
  ends : station.beginTick.drain? readings.polls = some drained ∧
    station.tick? readings = some outcome
  few : frames.length ≤ bytes.length / 5
  /-- In the loop the radio is polled and asked for nothing else, and these frames are what the
  polls hand out. -/
  polls : received (((readings.polls.map Prod.fst).take (frames.length + 1)).map .poll)
      station.radio = frames ∧
    drained.station.radio =
      after (((readings.polls.map Prod.fst).take (frames.length + 1)).map .poll) station.radio
  /-- The monitor handles exactly these frames, and so do the keeper and the adapter. -/
  hands : Tick.Hands ((readings.polls.map Prod.snd).zip frames) station.beginTick drained
  /-- Nothing is queued in the loop. -/
  queued : drained.queued = []
  /-- After the loop no more frames are handled, and what the components ask for is queued. -/
  later : ∀ tick, outcome = .ok tick →
    tick.handled = frames ∧ tick.queued = drained.requests readings
  /-- The program stops only where a sum of the turns has no room. -/
  stops : ∀ stop, outcome = .error stop →
    UInt64.size ≤ readings.monitor.toNat + drained.station.monitor.pollInterval.toNat ∨
      ∃ keeper ∈ drained.station.keeper,
        UInt64.size ≤ readings.keeper.toNat + keeper.retryInterval.toNat
  /-- If whole frames are pending, and a part of one more behind them, then it is these frames, in
  their order, and the part is pending after the loop and in the end. -/
  whole : ∀ (whole : List Frame) (next : Frame) (wire part : List UInt8),
    (∀ frame ∈ whole, frame.payloadSize ≤ maxPayload) →
    Frame.encode maxPayload next = .ok wire → part <+: wire → part ≠ wire →
    bytes = whole.flatMap Frame.toWire ++ part →
      frames = whole ∧ Modem.Pending still drained.station.radio part ∧
      ∀ tick, outcome = .ok tick → Modem.Pending still tick.station.radio part

/-- A tick drains its input and stops. Over every modem in API mode whose line is still, and
whatever bytes are pending, the loop of a tick ends with at most one frame for five bytes. If
whole frames are pending, however many, and a part of one more behind them, then the tick hands
exactly these frames to the monitor, the keeper and the adapter, in their order and before
anything is queued, and the part is pending after it. -/
theorem tick_drains_input (still : SerialLink.Still σ) {station : Station (Modem σ) ε δ}
    {bytes : List UInt8} (h : Modem.Pending still station.radio bytes) {readings : Readings}
    (hpolls : bytes.length / 5 < readings.polls.length) :
    ∃ frames drained outcome, Drains still readings bytes station frames drained outcome := by
  have hpending : Modem.Pending still station.beginTick.station.radio bytes := h
  obtain ⟨drained, hdrain, hfew⟩ := Tick.exists_drained _ hpending hpolls
  obtain ⟨outcome, houtcome⟩ : ∃ outcome, station.tick? readings = some outcome := by
    rw [tick?, hdrain]
    exact ⟨_, rfl⟩
  obtain ⟨frames, hlength, hreceived, hradio, hhands⟩ := Tick.drain?_hands hdrain
  have hhandled : drained.handled = frames := by
    rw [hhands.handled, List.map_snd_zip (by rw [List.length_map]; exact Nat.le_of_lt hlength)]
    rfl
  have hqueued : drained.queued = [] := hhands.queued
  have hlater : ∀ tick, outcome = .ok tick → tick.handled = frames ∧
      tick.queued = drained.requests readings ∧
      tick.station.radio = (drained.afterTurns readings).station.radio := by
    rintro tick rfl
    obtain ⟨_, _, hdrain', -, rfl, htold, hasked, -, htaken, -, -⟩ := tick?_eq_some houtcome
    obtain rfl := Option.some.inj (hdrain.symm.trans hdrain')
    have hsends := drained.afterTurns_sends readings
    refine ⟨(htold.trans hsends.handled).trans hhandled, ?_, htaken⟩
    rw [hasked, hsends.queued, hqueued, List.nil_append]
  refine ⟨frames, drained, outcome, ⟨hdrain, houtcome⟩, ?_, ⟨hreceived, hradio⟩, hhands, hqueued,
    fun tick htick => ⟨(hlater tick htick).1, (hlater tick htick).2.1⟩, ?_, ?_⟩
  · rw [hhandled, beginTick, List.length_nil, Nat.zero_add] at hfew
    exact hfew
  · rintro stop rfl
    obtain ⟨_, hdrain', hturns⟩ := Option.map_eq_some_iff.mp houtcome
    obtain rfl := Option.some.inj (hdrain.symm.trans hdrain')
    rw [bind_pure_eq_error_iff] at hturns
    exact Tick.no_room_of_turns hturns
  · intro whole next wire part hsizes hnext hpart hproper hbytes
    obtain ⟨hwhole, hleft⟩ :=
      Tick.drained_frames hnext hpart hproper hdrain hsizes (hbytes ▸ hpending)
    refine ⟨hhandled.symm.trans hwhole, hleft, fun tick htick => ?_⟩
    rw [(hlater tick htick).2.2]
    exact Tick.pending_afterTurns hleft readings

/-! ## A station with a backlog -/

/-- A line over a port that only queues is still until more bytes arrive. -/
def queuedStill : SerialLink.Still (HostLine QueuedPort) where
  waits line bytes := line.port.inbound = bytes
  available := by
    rintro line bytes rfl
    exact ⟨rfl, rfl⟩
  read := by
    rintro line bytes size rfl hsize
    exact ⟨rfl, rfl⟩
  writable h := h
  write _ h := h

/-- Two frames of the largest size, and the event that the modem is registered. -/
def backlog : List Frame :=
  [⟨0xCD, List.replicate maxPayload 0x7E⟩, ⟨0xB0, List.replicate maxPayload 0⟩, ⟨0x8A, [0x02]⟩]

/-- A station that has read some bytes of its backlog, and none of the bytes that start one more
frame behind it. -/
def behind : Station (Modem (HostLine QueuedPort)) OutboxEngine NullDisplay where
  name := "station"
  radio :=
    { link :=
        { port :=
            { baud := apiBaud
              inbound := (backlog.flatMap Frame.toWire ++ [0x7E, 0x00]).drop 1000
              outbound := [] }
          writeChunk := 64 }
      state := .apiMode
      since := 0
      inBuf := (backlog.flatMap Frame.toWire ++ [0x7E, 0x00]).take 1000
      outBuf := .empty bufferCapacity }
  display := ⟨⟩
  monitor := .fresh 10000
  keeper := none
  mqtt := some ⟨⟨[]⟩, none, none, none⟩
  ticks := 0

theorem tick_drains_input_behind :
    Modem.Pending queuedStill behind.radio (backlog.flatMap Frame.toWire ++ [0x7E, 0x00]) ∧
    ∃ drained tick, Drains queuedStill (.held 1000 700)
        (backlog.flatMap Frame.toWire ++ [0x7E, 0x00]) behind backlog drained (.ok tick) ∧
      Modem.Pending queuedStill tick.station.radio [0x7E, 0x00] := by
  have hpending : Modem.Pending queuedStill behind.radio
      (backlog.flatMap Frame.toWire ++ [0x7E, 0x00]) :=
    ⟨rfl, behind.radio.link.port.inbound, rfl, by simp only [behind, List.take_append_drop]⟩
  have hlength : (backlog.flatMap Frame.toWire ++ [0x7E, 0x00]).length / 5 <
      (Readings.held 1000 700).polls.length := by
    rw [List.length_append, Frame.length_flatMap_toWire, Readings.held, List.length_replicate]
    simp only [backlog, List.map_cons, List.map_nil, List.sum_cons, List.sum_nil, Frame.wireSize,
      List.length_replicate, List.length_cons, List.length_nil]
    decide
  have hsizes : ∀ frame ∈ backlog, frame.payloadSize ≤ maxPayload := by
    simp only [backlog, List.forall_mem_cons, Frame.payloadSize, List.length_replicate]
    exact ⟨Nat.le_refl _, Nat.le_refl _, by decide, by simp⟩
  have hpart : [0x7E, 0x00] <+: Frame.toWire ⟨0x8A, [0x03]⟩ := by decide
  obtain ⟨frames, drained, outcome, hdrains⟩ := tick_drains_input queuedStill hpending hlength
  obtain ⟨rfl, -, hleft⟩ :=
    hdrains.whole backlog ⟨0x8A, [0x03]⟩ _ _ hsizes rfl hpart (by decide) rfl
  -- The turns come to an end, since the sums have room.
  have hinterval : drained.station.monitor.pollInterval = 10000 := by
    rw [hdrains.hands.monitor, Monitor.pollInterval_after]
    rfl
  have hkeeper : drained.station.keeper = none := by
    rw [hdrains.hands.keeper]
    rfl
  cases outcome with
  | error stop =>
    rcases hdrains.stops stop rfl with hsum | ⟨keeper, hmem, -⟩
    · rw [hinterval] at hsum
      exact absurd hsum (by decide)
    · rw [hkeeper] at hmem
      cases hmem
  | ok tick => exact ⟨hpending, drained, tick, hdrains, hleft tick rfl⟩

end Station

end CellStation
