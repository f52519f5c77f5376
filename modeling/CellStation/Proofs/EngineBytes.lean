import CellStation.Proofs.AdapterRuns

/-!
# The bytes of an engine arrive as they are

The data that an adapter sends over sockets in a run is what its engine was told to be accepted,
byte for byte and in order. What the engine is handed in a step is the front of the data that
the frame of the step brings for the bound socket, and all of it once the engine has asked until
there was no more (`MqttAdapter.bytes_intact`).
-/

namespace CellStation

namespace Frame

/-- The data that a frame has the modem send over a socket. -/
def dataSent (frame : Frame) : List UInt8 :=
  ((frame.decodeAs? .socketSend).map Prod.snd).getD []

/-- The data that a frame brings for a socket. -/
def dataFor (frame : Frame) : Option UInt8 → List UInt8
  | some socket =>
    match frame.decodeAs? .socketReceive with
    | some ((_, which, _), data) => if which = socket then data else []
    | none => []
  | none => []

/-- A frame brings data when it reads as data received. -/
theorem inbound_eq_data_iff {frame : Frame} {socket : UInt8} {data : List UInt8} :
    frame.inbound = .data socket data ↔
      ∃ id, frame.decodeAs? .socketReceive = some ((id, socket, (), ()), data) := by
  constructor
  · intro h
    simp only [inbound] at h
    repeat (split at h; · cases h)
    split at h
    · rename_i id which rest bytes hread
      obtain ⟨rfl, rfl⟩ := Inbound.data.inj h
      exact ⟨id, hread⟩
    · cases h
  · rintro ⟨id, h⟩
    have hother : ∀ other, Layout.socketReceive ≠ other → frame.decodeAs? other = none :=
      fun _ hne => decodeAs?_of_ne h hne
    simp [inbound, h, hother]

end Frame

namespace MqttAdapter

variable {ε : Type} {adapter : MqttAdapter ε} {frame : Frame}

/-! ## What is handed out -/

/-- A frame that brings data lets go of no socket. -/
theorem release_of_data {socket : UInt8} {data : List UInt8} (adapter : MqttAdapter ε) :
    adapter.release (.data socket data) = adapter := by
  unfold release
  cases adapter.socket <;> rfl

/-- The bytes to be handed out are the data that the frame brings for the socket bound. -/
theorem received_release (adapter : MqttAdapter ε) (frame : Frame) :
    (adapter.release frame.inbound).received frame.inbound = frame.dataFor adapter.socket := by
  cases hread : frame.decodeAs? .socketReceive with
  | none =>
    have hnone : ∀ socket data, frame.inbound ≠ .data socket data := by
      intro socket data hdata
      obtain ⟨id, hsome⟩ := Frame.inbound_eq_data_iff.mp hdata
      rw [hread] at hsome
      cases hsome
    have hempty : frame.dataFor adapter.socket = [] := by
      unfold Frame.dataFor
      split
      · simp only [hread]
      · rfl
    rw [hempty]
    unfold received
    split
    · rename_i socket data hdata
      exact absurd hdata (hnone socket data)
    · rfl
  | some read =>
    obtain ⟨⟨id, which, _, _⟩, data⟩ := read
    rw [Frame.inbound_eq_data_iff.mpr ⟨id, hread⟩, release_of_data]
    cases hsocket : adapter.socket with
    | none => simp [received, hsocket, Frame.dataFor]
    | some socket => simp [received, hsocket, Frame.dataFor, hread, eq_comm]

variable [MqttEngine ε]

theorem handed_sync (adapter : MqttAdapter ε) (frame : Inbound) (space : Nat) :
    (adapter.sync frame space).calls.flatMap EngineCall.handed <+: adapter.received frame ∧
      ∀ size, 0 < size → .receive size [] ∈ (adapter.sync frame space).calls →
        (adapter.sync frame space).calls.flatMap EngineCall.handed = adapter.received frame := by
  have hunread := (MqttEngine.sync adapter.engine).unread_run (adapter.window frame space)
  refine ⟨⟨_, hunread.symm⟩, fun size hsize hdrained => ?_⟩
  have hleft := (MqttEngine.sync adapter.engine).unread_run_of_drained hsize hdrained
  rw [hleft, List.append_nil] at hunread
  exact hunread.symm

/-- What an engine is handed in a step is the front of what the frame brings, and all of it
once the engine has been told that there is no more. -/
theorem handed_process (adapter : MqttAdapter ε) (frame : Frame) (space : Nat) :
    (adapter.process frame space).calls.flatMap EngineCall.handed <+:
        frame.dataFor adapter.socket ∧
      ∀ size, 0 < size → .receive size [] ∈ (adapter.process frame space).calls →
        (adapter.process frame space).calls.flatMap EngineCall.handed =
          frame.dataFor adapter.socket := by
  have hprocessed := adapter.processed_process frame space
  rw [← received_release]
  generalize adapter.process frame space = step at hprocessed ⊢
  cases hprocessed with
  | closes => exact ⟨List.nil_prefix, fun size _ h => by simp at h⟩
  | drops => exact handed_sync _ frame.inbound space
  | syncs => exact handed_sync _ frame.inbound space

/-! ## What is sent -/

theorem dataSent_send (id socket : UInt8) (bytes : List UInt8) :
    (Request.send id socket bytes).frame.dataSent = bytes := by
  simp [Frame.dataSent, Request.frame, Frame.decodeAs?_ofHeader]

theorem dataSent_close (id socket : UInt8) : (Request.close id socket).frame.dataSent = [] := by
  have hclose := @Frame.decodeAs?_ofHeader .socketClose (id, socket, ()) []
  simp [Frame.dataSent, Request.frame, Frame.decodeAs?_of_ne hclose]

theorem dataSent_empty : Frame.empty.dataSent = [] := by decide +kernel

/-- Without a socket an engine sends nothing; over a socket it sends what fits. -/
theorem dataSent_sync (adapter : MqttAdapter ε) (frame : Inbound) (space : Nat) :
    (adapter.sync frame space).out.dataSent =
      (adapter.sync frame space).calls.flatMap EngineCall.accepted := by
  have hsent : ((MqttEngine.sync adapter.engine).run (adapter.window frame space)).2.1.sent =
      (adapter.sync frame space).calls.flatMap EngineCall.accepted :=
    (MqttEngine.sync adapter.engine).sent_run (adapter.window frame space)
  have hroom := (MqttEngine.sync adapter.engine).room_run (adapter.window frame space)
  rw [← hsent]
  simp only [MqttStep.out, sync]
  split
  · rename_i socket byte bytes hsocket hbytes
    simp [dataSent_send, hbytes]
  · rename_i hnone
    -- Nothing was sent : there was no socket and so no room, or the engine sent nothing.
    cases hsocket : adapter.socket with
    | none =>
      rw [window_of_unbound hsocket frame space] at hroom ⊢
      have hempty := (Nat.add_eq_zero_iff.mp hroom).1
      simp [dataSent_empty, List.eq_nil_of_length_eq_zero hempty]
    | some socket =>
      cases hbytes :
          ((MqttEngine.sync adapter.engine).run (adapter.window frame space)).2.1.sent with
      | nil => simp [dataSent_empty]
      | cons byte bytes => exact absurd hbytes (hnone socket byte bytes hsocket)

/-- What a step sends over a socket is what the engine was told to be accepted in it. -/
theorem dataSent_process (adapter : MqttAdapter ε) (frame : Frame) (space : Nat) :
    (adapter.process frame space).out.dataSent =
      (adapter.process frame space).calls.flatMap EngineCall.accepted := by
  have hprocessed := adapter.processed_process frame space
  generalize adapter.process frame space = step at hprocessed ⊢
  cases hprocessed with
  | closes socket => exact dataSent_close sendFrameId socket
  | drops => exact dataSent_sync _ frame.inbound space
  | syncs => exact dataSent_sync _ frame.inbound space

theorem dataSent_steps : ∀ (calls : List Call) (adapter : MqttAdapter ε),
    ((adapter.steps calls).map MqttStep.out).flatMap Frame.dataSent =
      ((adapter.steps calls).flatMap MqttStep.calls).flatMap EngineCall.accepted
  | [], _ => rfl
  | .process frame space :: calls, adapter => by
    have hsteps : adapter.steps (.process frame space :: calls) =
      adapter.process frame space :: (adapter.process frame space).adapter.steps calls := rfl
    rw [hsteps, List.map_cons, List.flatMap_cons, List.flatMap_cons, List.flatMap_append,
      dataSent_process, dataSent_steps calls]
  | .useSocket socket :: calls, adapter => dataSent_steps calls (adapter.useSocket socket)
  | .takeAbandoned :: calls, adapter => dataSent_steps calls adapter.takeAbandoned.2

/-- No send call was told that more was accepted than it offered. -/
theorem taken_le_of_mem_steps {bytes : List UInt8} {taken : Nat} :
    ∀ (calls : List Call) (adapter : MqttAdapter ε),
      .send bytes taken ∈ (adapter.steps calls).flatMap MqttStep.calls → taken ≤ bytes.length
  | [], _, h => by simp [steps] at h
  | .process frame space :: calls, adapter, h => by
    rcases List.mem_append.mp h with hfirst | hrest
    · have hprocessed := adapter.processed_process frame space
      generalize adapter.process frame space = step at hprocessed hfirst
      cases hprocessed with
      | closes => simp at hfirst
      | drops | syncs => exact Session.taken_le_length _ hfirst
    · exact taken_le_of_mem_steps calls _ hrest
  | .useSocket socket :: calls, adapter, h =>
    taken_le_of_mem_steps calls (adapter.useSocket socket) h
  | .takeAbandoned :: calls, adapter, h => taken_le_of_mem_steps calls adapter.takeAbandoned.2 h

/-! ## Runs -/

/-- The bytes of an engine arrive as they are. In every run of an adapter, whatever its engine
does, the data of the frames made is, in order, the leading bytes that the send calls of the
engine were told to be accepted, never more than they offered. After every run, what the engine is
handed while a frame is handled is the front of the data that the frame brings for the socket
bound then, and nothing if it brings none; it is all of it once a call that asked for bytes was
handed none. -/
theorem bytes_intact (adapter : MqttAdapter ε) (calls : List Call) :
    ((adapter.steps calls).map MqttStep.out).flatMap Frame.dataSent =
        ((adapter.steps calls).flatMap MqttStep.calls).flatMap EngineCall.accepted ∧
      (∀ bytes taken, .send bytes taken ∈ (adapter.steps calls).flatMap MqttStep.calls →
        taken ≤ bytes.length) ∧
      ∀ frame space,
        ((adapter.after calls).process frame space).calls.flatMap EngineCall.handed <+:
            frame.dataFor (adapter.after calls).socket ∧
          ∀ size, 0 < size →
            .receive size [] ∈ ((adapter.after calls).process frame space).calls →
            ((adapter.after calls).process frame space).calls.flatMap EngineCall.handed =
              frame.dataFor (adapter.after calls).socket :=
  ⟨dataSent_steps calls adapter, fun _ _ => taken_le_of_mem_steps calls adapter,
    (adapter.after calls).handed_process⟩

end MqttAdapter

/-! ## An engine that answers -/

/-- An engine that sends back what it receives. -/
structure EchoEngine where
  outbox : List UInt8
  deriving DecidableEq, Repr

namespace EchoEngine

/-- Ask for two bytes at a time until there are none, at most so many times. -/
def gather (engine : EchoEngine) : Nat → Session EchoEngine
  | 0 => .done engine
  | times + 1 => .receive 2 fun bytes =>
    if bytes = [] then .done engine else gather ⟨engine.outbox ++ bytes⟩ times

instance : MqttEngine EchoEngine where
  init _ _ engine := engine
  reinit _ := ⟨[]⟩
  sync engine := .send engine.outbox fun taken => gather ⟨engine.outbox.drop taken⟩ 8

end EchoEngine

namespace MqttAdapter

/-- An adapter on socket 5 that echoes. -/
def echoFive : MqttAdapter EchoEngine := ⟨⟨[]⟩, some 5, none, none⟩

/-- Data received over socket 5. -/
def threeBytes : Frame := .ofHeader .socketReceive (0, 5, (), ()) [1, 2, 3]

/-- Three bytes are echoed in two frames, as there is room, with none lost or repeated. -/
theorem bytes_intact_echoed :
    let calls := [.process threeBytes 1000, .process .empty 10, .process .empty 1000]
    (echoFive.steps calls).filterMap MqttStep.request =
        [.send sendFrameId 5 [1, 2], .send sendFrameId 5 [3]] ∧
      ((echoFive.steps calls).map MqttStep.out).flatMap Frame.dataSent = [1, 2, 3] ∧
      (echoFive.process threeBytes 1000).calls.flatMap EngineCall.handed = [1, 2, 3] := by
  intro calls
  obtain ⟨hsent, -⟩ := bytes_intact echoFive calls
  obtain ⟨-, -, hhanded⟩ := bytes_intact echoFive []
  have haccepted : ((echoFive.steps calls).flatMap MqttStep.calls).flatMap EngineCall.accepted =
      [1, 2, 3] := by decide +kernel
  have hdata : threeBytes.dataFor echoFive.socket = [1, 2, 3] := by decide +kernel
  have hdrained : .receive 2 [] ∈ (echoFive.process threeBytes 1000).calls := by decide +kernel
  exact ⟨by decide +kernel, hsent.trans haccepted,
    ((hhanded threeBytes 1000).2 2 Nat.two_pos hdrained).trans hdata⟩

end MqttAdapter

end CellStation
