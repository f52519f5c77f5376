import CellStation.Mqtt.Outgoing
import CellStation.Proofs.EngineBytes

/-!
# The byte budget of an adapter

An adapter writes into the frame that it is handed. What its engine moves in place is what it
moves through a window (`Session.exchange_start`), for a transfer shows a window at every moment
(`Transfer.window`) : the slots not written are its room, those written have been sent, and the
bytes not taken are unread. So the frame holds the request of the step whatever it held before
(`MqttAdapter.fill_eq`), and a request stays within the space, and within the largest payload
(`MqttAdapter.fill_within_budget`).
-/

namespace CellStation

/-! ## Bytes in place -/

namespace Transfer

variable {transfer : Transfer}

/-- What a transfer shows of its bytes. -/
def window (transfer : Transfer) : Window where
  room := transfer.slots.length - transfer.written
  sent := transfer.slots.take transfer.written
  unread := transfer.arrived.drop transfer.consumed

/-- No more is written than there are slots. -/
def Sound (transfer : Transfer) : Prop := transfer.written ≤ transfer.slots.length

/-- The number of bytes sent is the number written. -/
theorem Sound.length_sent (h : transfer.Sound) :
    transfer.window.sent.length = transfer.written :=
  List.length_take_of_le h

/-- No more is written than there is room for. -/
theorem Sound.written_send_le (h : transfer.Sound) (bytes : List UInt8) :
    transfer.written + (transfer.send bytes).1 ≤ transfer.slots.length := by
  have hcount : (transfer.send bytes).1 ≤ transfer.slots.length - transfer.written :=
    Nat.min_le_right _ _
  unfold Sound at h
  omega

/-- The slots stay as many when some are written over. -/
theorem Sound.length_slots_send (h : transfer.Sound) (bytes : List UInt8) :
    (transfer.send bytes).2.slots.length = transfer.slots.length := by
  unfold Sound at h
  simp only [send, List.length_append, List.length_take, List.length_drop]
  omega

theorem Sound.send (h : transfer.Sound) (bytes : List UInt8) : (transfer.send bytes).2.Sound := by
  unfold Sound
  rw [h.length_slots_send]
  exact h.written_send_le bytes

/-- Bytes taken are not written over. -/
theorem Sound.receive (h : transfer.Sound) (size : Nat) : (transfer.receive size).2.Sound := h

/-- What is written comes behind what was written before. -/
theorem Sound.sent_send (h : transfer.Sound) (bytes : List UInt8) :
    (transfer.send bytes).2.window.sent =
      transfer.window.sent ++ bytes.take (transfer.send bytes).1 := by
  refine List.take_left' ?_
  rw [List.length_append, List.length_take_of_le h,
    List.length_take_of_le (Nat.min_le_left bytes.length _)]
  rfl

/-- Bytes written over slots are sent through the window. -/
theorem Sound.window_send (h : transfer.Sound) (bytes : List UInt8) :
    transfer.window.send bytes = ((transfer.send bytes).1, (transfer.send bytes).2.window) := by
  have htaken : bytes.take transfer.window.room = bytes.take (transfer.send bytes).1 := by
    rw [List.take_eq_take_min, Nat.min_comm]
    rfl
  have hcount : (bytes.take (transfer.send bytes).1).length = (transfer.send bytes).1 :=
    List.length_take_of_le (Nat.min_le_left _ _)
  have hroom : transfer.window.room - (transfer.send bytes).1 =
      (transfer.send bytes).2.window.room := by
    simp only [window, h.length_slots_send]
    exact Nat.sub_sub _ _ _
  simp only [Window.send, htaken, hcount, hroom, ← h.sent_send]
  rfl

/-- Bytes taken in place are received through the window. -/
theorem window_receive (transfer : Transfer) (size : Nat) :
    transfer.window.receive size =
      ((transfer.receive size).1, (transfer.receive size).2.window) := by
  have htaken : transfer.window.unread.take size = (transfer.receive size).1 := by
    rw [List.take_eq_take_min]
    simp only [window, List.length_drop]
    rfl
  have hleft : transfer.window.unread.drop size = (transfer.receive size).2.window.unread := by
    rw [List.drop_eq_drop_min]
    simp only [window, List.length_drop, List.drop_drop]
    rfl
  unfold Window.receive
  rw [htaken, hleft]
  rfl

end Transfer

namespace Session

variable {α : Type}

/-- A step played in place has no more written than there are slots, and leaves as many of them. -/
theorem sound_exchange : ∀ (session : Session α) {transfer : Transfer}, transfer.Sound →
    (session.exchange transfer).2.1.Sound ∧
      (session.exchange transfer).2.1.slots.length = transfer.slots.length
  | .done _, _, h => ⟨h, rfl⟩
  | .send bytes next, transfer, h => by
    obtain ⟨hsound, hlength⟩ := sound_exchange (next (transfer.send bytes).1) (h.send bytes)
    exact ⟨hsound, hlength.trans (h.length_slots_send bytes)⟩
  | .receive size next, _, h => sound_exchange (next _) (h.receive size)
  | .publish _ next, _, h => sound_exchange next h

/-- A step played in place is the step played against what the bytes show : it comes to the same
result by the same calls with the same answers. -/
theorem run_window : ∀ (session : Session α) {transfer : Transfer}, transfer.Sound →
    session.run transfer.window =
      ((session.exchange transfer).1, (session.exchange transfer).2.1.window,
        (session.exchange transfer).2.2)
  | .done _, _, _ => rfl
  | .send bytes next, transfer, h => by
    have hrest := run_window (next (transfer.send bytes).1) (h.send bytes)
    simp only [run, h.window_send, hrest, exchange]
  | .receive size next, transfer, h => by
    have hrest := run_window (next (transfer.receive size).1) (h.receive size)
    simp only [run, transfer.window_receive, hrest, exchange]
  | .publish _ next, _, h => by
    simp only [run, run_window next h, exchange]

/-- A step played in place comes to what it comes to through a window with as much room as there
are slots, and leaves in the first of them what it sends. -/
theorem exchange_start {session : Session α} {slots arrived : List UInt8} {result : α}
    {window : Window} {calls : List EngineCall}
    (h : session.run ⟨slots.length, [], arrived⟩ = (result, window, calls)) :
    ∃ transfer : Transfer, session.exchange (.start slots arrived) = (result, transfer, calls) ∧
      transfer.slots.length = slots.length ∧ transfer.written = window.sent.length ∧
      transfer.slots.take transfer.written = window.sent := by
  have hsound : (Transfer.start slots arrived).Sound := Nat.zero_le _
  obtain ⟨hend, hslots⟩ := session.sound_exchange hsound
  have hrun : session.run ⟨slots.length, [], arrived⟩ = _ := session.run_window hsound
  obtain ⟨rfl, hleft⟩ := Prod.mk.inj (hrun.symm.trans h)
  obtain ⟨rfl, rfl⟩ := Prod.mk.inj hleft
  exact ⟨_, rfl, hslots, hend.length_sent.symm, rfl⟩

end Session

/-! ## The frame -/

namespace Frame

variable {layout : Layout}

theorem payloadSize_ofHeader (header : Header layout.fields) (tail : List UInt8) :
    (ofHeader layout header tail).payloadSize = layout.headerSize + tail.length := by
  simp [payloadSize, ofHeader]

/-- Behind the header that is laid out come the zeros. -/
theorem drop_setup (header : Header layout.fields) (extra : Nat) :
    (setup layout header extra).payload.drop layout.headerSize = List.replicate extra 0 :=
  List.drop_left' (by simp)

/-- A frame is cut behind bytes of its tail. -/
theorem truncate_ofHeader (header : Header layout.fields) (tail : List UInt8) (size : Nat) :
    (ofHeader layout header tail).truncate (layout.headerSize + size) =
      ofHeader layout header (tail.take size) := by
  have hwidth : (layout.headerBytes header).length = layout.headerSize := by simp
  simp only [truncate, ofHeader]
  rw [← hwidth, List.take_length_add_append]

end Frame

namespace MqttAdapter

variable {ε : Type} {adapter : MqttAdapter ε}

/-- There is a slot for each byte that there is room for. -/
theorem slots_layOut (adapter : MqttAdapter ε) (frame : Inbound) (space : Nat) (out : Frame) :
    (adapter.layOut space out).2 = List.replicate (adapter.window frame space).room 0 := by
  cases hsocket : adapter.socket with
  | none => simp [layOut, window, hsocket]
  | some socket =>
    by_cases hroom : 0 < capacity space
    · simp only [layOut, window, hsocket, if_pos hroom, Frame.reuse_eq]
      exact Frame.drop_setup _ _
    · simp [layOut, window, hsocket, Nat.eq_zero_of_not_pos hroom]

/-- The engine finds the room of its window in the frame. -/
theorem window_layOut (adapter : MqttAdapter ε) (frame : Inbound) (space : Nat) (out : Frame) :
    ⟨(adapter.layOut space out).2.length, [], adapter.received frame⟩ =
      adapter.window frame space := by
  rw [adapter.slots_layOut frame, List.length_replicate]
  rfl

/-- A request laid out, written over and cut behind what is written is a request to send it. -/
theorem frame_layOut {socket : UInt8} {space : Nat} {slots : List UInt8}
    (hsocket : adapter.socket = some socket) (hroom : 0 < capacity space)
    (hslots : slots.length = capacity space) (written : Nat) (out : Frame) :
    ((adapter.layOut space out).1.withTail .socketSend slots).truncate
        (Layout.socketSend.headerSize + written) =
      (Request.send sendFrameId socket (slots.take written)).frame := by
  simp only [layOut, hsocket, if_pos hroom, Frame.reuse_eq]
  rw [← hslots, Frame.withTail_setup, Frame.truncate_ofHeader]
  rfl

variable [MqttEngine ε]

/-- What the engine sends in place is the request that it makes through the window. -/
theorem syncInto_eq (adapter : MqttAdapter ε) (frame : Inbound) (space : Nat) (out : Frame) :
    adapter.syncInto frame space out = .ofStep (adapter.sync frame space) := by
  have hroom := (MqttEngine.sync adapter.engine).room_run (adapter.window frame space)
  rcases hrun : (MqttEngine.sync adapter.engine).run (adapter.window frame space)
    with ⟨engine, window, calls⟩
  simp only [hrun] at hroom
  obtain ⟨transfer, hexchange, hslots, hwritten, hsent⟩ :=
    Session.exchange_start ((congrArg _ (adapter.window_layOut frame space out)).trans hrun)
  rw [adapter.slots_layOut frame, List.length_replicate] at hslots
  simp only [syncInto, hexchange, sync, hrun, FilledStep.ofStep, MqttStep.out]
  have hfits : transfer.written ≤ (adapter.window frame space).room := by
    have hfresh : (adapter.window frame space).sent.length = 0 := rfl
    omega
  cases hsocket : adapter.socket with
  | none =>
    -- There is no room, so nothing is written.
    have hnone : (adapter.window frame space).room = 0 := by simp [MqttAdapter.window, hsocket]
    simp [Nat.eq_zero_of_le_zero (hnone ▸ hfits)]
  | some socket =>
    have hcapacity : (adapter.window frame space).room = capacity space := by
      simp [MqttAdapter.window, hsocket]
    cases hbytes : window.sent with
    | nil => simp [hwritten, hbytes]
    | cons byte bytes =>
      have hpos : 0 < transfer.written := by simp [hwritten, hbytes]
      have hframe := frame_layOut hsocket (hcapacity ▸ Nat.lt_of_lt_of_le hpos hfits)
        (hslots.trans hcapacity) transfer.written out
      rw [hsent, hbytes] at hframe
      simp [Nat.ne_of_gt hpos, hframe]

/-- The frame holds the request of the step, whatever it held before. -/
theorem fill_eq (adapter : MqttAdapter ε) (frame : Frame) (space : Nat) (out : Frame) :
    adapter.fill frame space out = .ofStep (adapter.process frame space) := by
  unfold fill process
  generalize (adapter.release frame.inbound).settleClose frame.inbound space = settled
  obtain ⟨_ | socket, settled⟩ := settled
  · exact syncInto_eq settled frame.inbound space out
  · simp only [FilledStep.ofStep, MqttStep.out, Frame.reuse_eq]
    rfl

/-! ## The budget -/

/-- A step makes a request to send over the bound socket what fits, or one to close a socket. -/
theorem fits_of_request_process {frame : Frame} {space : Nat} {request : Request}
    (h : (adapter.process frame space).request = some request) :
    (∃ socket bytes, request = .send sendFrameId socket bytes ∧
        (adapter.process frame space).adapter.socket = some socket ∧
        bytes ≠ [] ∧ bytes.length ≤ capacity space) ∨
      ∃ socket, request = .close sendFrameId socket := by
  have hprocessed := adapter.processed_process frame space
  generalize adapter.process frame space = step at hprocessed h ⊢
  cases hprocessed with
  | closes socket => exact .inr ⟨socket, (Option.some.inj h).symm⟩
  | drops | syncs =>
    obtain ⟨socket, bytes, hsend, hbound, hdata⟩ := fits_of_request_sync h
    exact .inl ⟨socket, bytes, hsend, hbound, hdata⟩

theorem payloadSize_le_of_process {frame : Frame} {space : Nat} {request : Request}
    (h : (adapter.process frame space).request = some request) :
    request.frame.payloadSize ≤ maxPayload := by
  obtain ⟨socket, bytes, rfl, -, -, hfits⟩ | ⟨socket, rfl⟩ := fits_of_request_process h
  · have hcapacity : capacity space ≤ maxPayload - Layout.socketSend.headerSize :=
      Nat.min_le_right _ _
    have hheader : Layout.socketSend.headerSize ≤ maxPayload := by decide
    rw [Request.frame, Frame.payloadSize_ofHeader]
    omega
  · rw [Request.frame, Frame.payloadSize_ofHeader]
    decide

/-- The byte budget of an adapter. Whatever the state of the adapter, the frame that came in, the
space and the calls of the engine, a step that makes a request leaves a frame of at most `space`
bytes on the wire, with a payload that is not too large. It carries the frame id of the adapter,
and reads as data for the socket that is bound after the step, at least one byte and exactly
those that the engine was told to be accepted, or as a request to close a socket. A step that
makes no request leaves the empty frame, and has accepted nothing. What the frame held before does
not matter. -/
theorem fill_within_budget (adapter : MqttAdapter ε) (frame : Frame) (space : Nat) (out : Frame) :
    let step := adapter.fill frame space out
    (step.made = true →
      step.out.wireSize ≤ space ∧ step.out.payloadSize ≤ maxPayload ∧
        ((∃ socket data, step.adapter.socket = some socket ∧
            step.out.decodeAs? .socketSend = some ((sendFrameId, socket, (), ()), data) ∧
            data ≠ [] ∧ data.length + 8 ≤ space ∧
            data = step.calls.flatMap EngineCall.accepted) ∨
          ∃ socket, step.out.decodeAs? .socketClose = some ((sendFrameId, socket, ()), []))) ∧
      (step.made = false →
        step.out = .empty ∧ step.calls.flatMap EngineCall.accepted = []) ∧
      ∀ other, adapter.fill frame space other = step := by
  simp only [fill_eq, implies_true, and_true]
  have hsent := adapter.dataSent_process frame space
  refine ⟨fun hmade => ?_, fun hnone => ?_⟩
  · obtain ⟨request, hrequest⟩ : ∃ request, (adapter.process frame space).request = some request :=
      Option.isSome_iff_exists.mp hmade
    have hout : (adapter.process frame space).out = request.frame := by
      simp [MqttStep.out, hrequest]
    have hwire : request.wireSize ≤ space := wireSize_le_of_process hrequest
    simp only [FilledStep.ofStep, hout] at hsent ⊢
    refine ⟨hwire, payloadSize_le_of_process hrequest, ?_⟩
    obtain ⟨socket, bytes, rfl, hbound, hsome, -⟩ | ⟨socket, rfl⟩ :=
      fits_of_request_process hrequest
    · rw [Request.wireSize_eq] at hwire
      have hlength : bytes.length + 8 ≤ space := by
        simp only [Layout.wireSizeOf, Layout.headerSize, frameOverhead] at hwire
        omega
      rw [dataSent_send] at hsent
      exact .inl ⟨socket, bytes, hbound, Frame.decodeAs?_ofHeader _ _, hsome, hlength, hsent⟩
    · exact .inr ⟨socket, Frame.decodeAs?_ofHeader _ _⟩
  · have hrequest : (adapter.process frame space).request = none :=
      Option.not_isSome_iff_eq_none.mp (ne_true_of_eq_false hnone)
    have hout : (adapter.process frame space).out = .empty := by simp [MqttStep.out, hrequest]
    rw [hout, dataSent_empty] at hsent
    exact ⟨hout, hsent.symm⟩

/-- An adapter on socket 5 with five bytes to send. -/
def echoBehind : MqttAdapter EchoEngine := ⟨⟨[1, 2, 3, 4, 5]⟩, some 5, none, none⟩

/-- In a frame that held a longer payload, two bytes of data take up all of ten bytes; in eight
bytes there is no room for any, and the frame is emptied. -/
theorem fill_within_budget_tight :
    let held : Frame := ⟨0x42, List.replicate 40 0xAA⟩
    (echoBehind.fill .empty 10 held).out.wireSize ≤ 10 ∧
      (echoBehind.fill .empty 10 held).out.decodeAs? .socketSend =
        some ((sendFrameId, 5, (), ()), [1, 2]) ∧
      echoBehind.fill .empty 10 .empty = echoBehind.fill .empty 10 held ∧
      (echoBehind.fill .empty 8 held).out = .empty := by
  intro held
  obtain ⟨hmade, -, hany⟩ := fill_within_budget echoBehind .empty 10 held
  obtain ⟨-, hnone, -⟩ := fill_within_budget echoBehind .empty 8 held
  exact ⟨(hmade (by decide +kernel)).1, by decide +kernel, hany .empty,
    (hnone (by decide +kernel)).1⟩

end MqttAdapter

end CellStation
