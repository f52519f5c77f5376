import CellStation.Monitor
import CellStation.Keeper
import CellStation.Mqtt.Adapter

/-!
# What the components ask for

The monitor, the keeper and the adapter are each given a space, and each asks for it with
its own arithmetic. Every request made within a space fits into it
(`Monitor.wireSize_le_of_takeTurn`, `Keeper.wireSize_le_of_takeTurn`,
`MqttAdapter.wireSize_le_of_process`). Without room the adapter makes no request, and its
engine sends nothing (`MqttAdapter.process_without_room`).

`Keeper.Turn` lists what a keeper can do in its turn; only the adapter sends data. The program
stops in a turn of a keeper that would ask for a socket when the reading of the next attempt has no
room in a word (`Keeper.nextRequest_eq_error_iff`).
-/

namespace CellStation

namespace Request

/-- Bytes of a request on the wire : those of its layout with its tail. -/
theorem wireSize_eq (request : Request) :
    request.wireSize =
      match request with
      | .command _ _ value => Layout.atCommand.wireSizeOf value.length
      | .create _ _ => Layout.socketCreate.wireSizeOf 0
      | .connect _ _ _ host => Layout.socketConnect.wireSizeOf host.length
      | .close _ _ => Layout.socketClose.wireSizeOf 0
      | .send _ _ bytes => Layout.socketSend.wireSizeOf bytes.length := by
  cases request <;> exact Frame.wireSize_ofHeader _ _

end Request

namespace Monitor

/-- The request of a turn, and the monitor after it. A turn in which the program stops makes no
request and changes nothing. -/
def takeTurn (monitor : Monitor) (now : Millis) (space : Nat) : Option Request × Monitor :=
  match monitor.nextRequest now space with
  | .ok turn => turn
  | .error _ => (none, monitor)

theorem takeTurn_of_ok {monitor : Monitor} {now : Millis} {space : Nat}
    {turn : Option Request × Monitor} (h : monitor.nextRequest now space = .ok turn) :
    monitor.takeTurn now space = turn := by
  rw [takeTurn, h]

/-- A request of a turn is one that the monitor makes. -/
theorem nextRequest_of_takeTurn {monitor : Monitor} {now : Millis} {space : Nat}
    {request : Request} (h : (monitor.takeTurn now space).1 = some request) :
    ∃ next, monitor.nextRequest now space = .ok (some request, next) := by
  unfold takeTurn at h
  split at h
  · rename_i turn hturn
    exact ⟨turn.2, by rw [hturn, ← h]⟩
  · cases h

/-- A monitor sends commands, each within the space. -/
theorem command_of_nextRequest {monitor next : Monitor} {now : Millis} {space : Nat}
    {request : Request} (h : monitor.nextRequest now space = .ok (some request, next)) :
    ∃ id command value, request = .command id command value ∧
      Layout.atCommand.wireSizeOf value.length ≤ space := by
  unfold nextRequest at h
  split at h
  · cases h
  rename_i hroom
  have hone : Layout.atCommand.wireSizeOf 1 ≤ space := Nat.le_of_not_lt hroom
  split at h
  · cases h
    exact ⟨_, _, _, rfl, hone⟩
  · split at h
    · cases h
    · rename_i apn _ _ hapn
      cases h
      refine ⟨_, _, _, rfl, ?_⟩
      rw [Text.length_toBytes]
      exact Nat.le_of_not_lt hapn
  · split at h
    · cases h
    · obtain ⟨nextDue, -, h⟩ := bind_eq_ok_iff.mp h
      cases h
      refine ⟨_, _, _, rfl, ?_⟩
      simp only [Layout.wireSizeOf, List.length_nil] at hone ⊢
      omega

theorem wireSize_le_of_takeTurn {monitor : Monitor} {now : Millis} {space : Nat}
    {request : Request} (h : (monitor.takeTurn now space).1 = some request) :
    request.wireSize ≤ space := by
  obtain ⟨next, hnext⟩ := nextRequest_of_takeTurn h
  obtain ⟨id, command, value, rfl, hfits⟩ := command_of_nextRequest hnext
  rw [Request.wireSize_eq]
  exact hfits

/-- A monitor sends no data. -/
theorem takeTurn_ne_send {monitor : Monitor} {now : Millis} {space : Nat} {id socket : UInt8}
    {bytes : List UInt8} : (monitor.takeTurn now space).1 ≠ some (.send id socket bytes) := by
  intro h
  obtain ⟨next, hnext⟩ := nextRequest_of_takeTurn h
  obtain ⟨_, _, _, heq, -⟩ := command_of_nextRequest hnext
  cases heq

end Monitor

namespace Keeper

/-- What a keeper can do in its turn, within a space. -/
inductive Turn (now : Millis) (space : Nat) (keeper : Keeper) : Option Request → Keeper → Prop where
  | rest : Turn now space keeper none keeper
  /-- There is no socket to connect or to close. -/
  | giveUp (hphase : keeper.phase = .connect ∨ keeper.phase = .close)
    (hsocket : keeper.socketId = none) :
    Turn now space keeper none { keeper with phase := .ready }
  | create (hphase : keeper.phase = .ready) (hsocket : keeper.socketId = none)
    (hup : keeper.networkUp = true) (hdue : keeper.nextRetry < now)
    (hroom : Layout.socketCreate.wireSizeOf 0 ≤ space) (nextRetry : Millis)
    (hsum : nextRetry.toNat = now.toNat + keeper.retryInterval.toNat) :
    Turn now space keeper (some (.create createFrameId keeper.protocol))
      { keeper with nextRetry, phase := .createWait }
  | connect (socket : UInt8) (hphase : keeper.phase = .connect)
    (hsocket : keeper.socketId = some socket)
    (hroom : Layout.socketConnect.wireSizeOf (Text.size keeper.host) ≤ space) :
    Turn now space keeper
      (some (.connect requestFrameId socket keeper.port (Text.toBytes keeper.host)))
      { keeper with phase := .connectWait }
  | close (socket : UInt8) (hphase : keeper.phase = .close)
    (hsocket : keeper.socketId = some socket)
    (hroom : Layout.socketClose.wireSizeOf 0 ≤ space) :
    Turn now space keeper (some (.close requestFrameId socket)) { keeper with phase := .closeWait }

theorem turn_of_nextRequest {keeper next : Keeper} {now : Millis} {space : Nat}
    {request : Option Request} (h : keeper.nextRequest now space = .ok (request, next)) :
    Turn now space keeper request next := by
  rcases keeper with ⟨host, port, protocol, retryInterval, networkUp, nextRetry, socketId, phase⟩
  cases phase with
  | ready =>
    cases socketId with
    | none =>
      simp only [nextRequest] at h
      split at h
      · rename_i hready
        obtain ⟨retry, hsum, h⟩ := bind_eq_ok_iff.mp h
        cases h
        exact .create rfl rfl hready.1 hready.2.2 hready.2.1 retry (Millis.later_eq_ok_iff.mp hsum)
      · cases h
        exact .rest
    | some socket =>
      cases h
      exact .rest
  | connect =>
    cases socketId with
    | none =>
      cases h
      exact .giveUp (.inl rfl) rfl
    | some socket =>
      simp only [nextRequest] at h
      split at h
      · rename_i hroom
        cases h
        exact .connect socket rfl rfl hroom
      · cases h
        exact .rest
  | close =>
    cases socketId with
    | none =>
      cases h
      exact .giveUp (.inr rfl) rfl
    | some socket =>
      simp only [nextRequest] at h
      split at h
      · rename_i hroom
        cases h
        exact .close socket rfl rfl hroom
      · cases h
        exact .rest
  | createWait | connectWait | closeWait =>
    cases socketId <;>
    · cases h
      exact .rest

/-- The program stops in a turn that would ask for a socket, if no later attempt could be made. -/
theorem nextRequest_eq_error_iff {keeper : Keeper} {now : Millis} {space : Nat} {stop : Overflow} :
    keeper.nextRequest now space = .error stop ↔
      keeper.phase = .ready ∧ keeper.socketId = none ∧ keeper.networkUp = true ∧
        Layout.socketCreate.wireSizeOf 0 ≤ space ∧ keeper.nextRetry < now ∧
        UInt64.size ≤ now.toNat + keeper.retryInterval.toNat := by
  rcases keeper with ⟨host, port, protocol, retryInterval, networkUp, nextRetry, socketId, phase⟩
  cases phase with
  | ready =>
    cases socketId with
    | none =>
      simp only [nextRequest, true_and]
      split
      · rename_i hready
        rw [bind_pure_eq_error_iff, Millis.later_eq_error_iff]
        exact ⟨fun hsum => ⟨hready.1, hready.2.1, hready.2.2, hsum⟩, fun h => h.2.2.2⟩
      · rename_i hrests
        exact iff_of_false nofun fun h => hrests ⟨h.1, h.2.1, h.2.2.1⟩
    | some socket => exact iff_of_false nofun nofun
  | connect | close =>
    refine iff_of_false ?_ nofun
    cases socketId with
    | none => nofun
    | some socket =>
      simp only [nextRequest]
      split <;> nofun
  | createWait | connectWait | closeWait => cases socketId <;> exact iff_of_false nofun nofun

/-- The request of a turn, and the keeper after it. A turn in which the program stops makes no
request and changes nothing. -/
def takeTurn (keeper : Keeper) (now : Millis) (space : Nat) : Option Request × Keeper :=
  match keeper.nextRequest now space with
  | .ok turn => turn
  | .error _ => (none, keeper)

theorem takeTurn_of_ok {keeper : Keeper} {now : Millis} {space : Nat}
    {turn : Option Request × Keeper} (h : keeper.nextRequest now space = .ok turn) :
    keeper.takeTurn now space = turn := by
  rw [takeTurn, h]

theorem turn_takeTurn (keeper : Keeper) (now : Millis) (space : Nat) :
    Turn now space keeper (keeper.takeTurn now space).1 (keeper.takeTurn now space).2 := by
  unfold takeTurn
  split
  · rename_i hturn
    exact turn_of_nextRequest hturn
  · exact .rest

theorem wireSize_le_of_takeTurn {keeper : Keeper} {now : Millis} {space : Nat}
    {request : Request} (h : (keeper.takeTurn now space).1 = some request) :
    request.wireSize ≤ space := by
  have hturn := keeper.turn_takeTurn now space
  rw [h] at hturn
  generalize (keeper.takeTurn now space).2 = next at hturn
  rw [Request.wireSize_eq]
  cases hturn with
  | create _ _ _ _ hroom => exact hroom
  | connect socket _ _ hroom =>
    simp only [Text.length_toBytes]
    exact hroom
  | close socket _ _ hroom => exact hroom

/-- A keeper sends no data. -/
theorem takeTurn_ne_send {keeper : Keeper} {now : Millis} {space : Nat} {id socket : UInt8}
    {bytes : List UInt8} : (keeper.takeTurn now space).1 ≠ some (.send id socket bytes) := by
  intro h
  have hturn := keeper.turn_takeTurn now space
  rw [h] at hturn
  cases hturn

end Keeper

namespace Session

variable {α : Type}

/-- What a step sends it takes from the room. -/
theorem room_run : ∀ (session : Session α) (window : Window),
    (session.run window).2.1.sent.length + (session.run window).2.1.room =
      window.sent.length + window.room
  | .done _, _ => rfl
  | .send bytes next, window => by
    have hrest := room_run (next (window.send bytes).1) (window.send bytes).2
    have hsame : ((send bytes next).run window).2.1 =
        ((next (window.send bytes).1).run (window.send bytes).2).2.1 := rfl
    have htaken : (bytes.take window.room).length ≤ window.room := List.length_take_le _ _
    rw [hsame, hrest]
    simp only [Window.send, List.length_append]
    omega
  | .receive size next, window => room_run (next (window.receive size).1) (window.receive size).2
  | .publish _ next, window => room_run next window

/-- Without room nothing is sent. -/
theorem taken_of_room_zero : ∀ (session : Session α) {window : Window} {bytes : List UInt8}
    {taken : Nat}, window.room = 0 → .send bytes taken ∈ (session.run window).2.2 → taken = 0
  | .done _, _, _, _, _, h => by simp [run] at h
  | .send offered next, window, bytes, taken, hroom, h => by
    rcases List.mem_cons.mp h with heq | hrest
    · obtain ⟨rfl, rfl⟩ := EngineCall.send.inj heq
      simp [hroom]
    · refine taken_of_room_zero (next _) ?_ hrest
      simp [hroom]
  | .receive size next, window, bytes, taken, hroom, h => by
    rcases List.mem_cons.mp h with heq | hrest
    · cases heq
    · refine taken_of_room_zero (next _) ?_ hrest
      exact hroom
  | .publish message next, window, bytes, taken, hroom, h => by
    rcases List.mem_cons.mp h with heq | hrest
    · cases heq
    · exact taken_of_room_zero next hroom hrest

end Session

namespace MqttAdapter

variable {ε : Type} [MqttEngine ε]

/-- What the engine sends goes over the socket that is bound, and fits. -/
theorem fits_of_request_sync {adapter : MqttAdapter ε} {frame : Inbound} {space : Nat}
    {request : Request} (h : (adapter.sync frame space).request = some request) :
    ∃ socket bytes, request = .send sendFrameId socket bytes ∧ adapter.socket = some socket ∧
      bytes ≠ [] ∧ bytes.length ≤ capacity space := by
  have hroom := (MqttEngine.sync adapter.engine).room_run (adapter.window frame space)
  simp only [sync] at h
  split at h
  · rename_i socket byte bytes hsocket hsent
    refine ⟨socket, byte :: bytes, (Option.some.inj h).symm, hsocket, List.cons_ne_nil _ _, ?_⟩
    rw [hsent] at hroom
    simp only [window, hsocket, Option.isSome_some, if_true, List.length_nil] at hroom
    omega
  · cases h

theorem wireSize_le_of_sync {adapter : MqttAdapter ε} {frame : Inbound} {space : Nat}
    {request : Request} (h : (adapter.sync frame space).request = some request) :
    request.wireSize ≤ space := by
  obtain ⟨socket, bytes, rfl, -, hsome, hfits⟩ := fits_of_request_sync h
  have hpos : 0 < bytes.length := List.length_pos_iff.mpr hsome
  rw [Request.wireSize_eq]
  simp only [capacity, Layout.wireSizeOf] at hfits ⊢
  omega

theorem wireSize_le_of_process {adapter : MqttAdapter ε} {frame : Frame} {space : Nat}
    {request : Request} (h : (adapter.process frame space).request = some request) :
    request.wireSize ≤ space := by
  unfold process at h
  split at h
  · rename_i socket settled hsettle
    obtain rfl := Option.some.inj h
    rw [Request.wireSize_eq]
    unfold settleClose at hsettle
    split at hsettle
    · cases hsettle
    split at hsettle
    · cases hsettle
    split at hsettle
    · rename_i hroom
      exact hroom
    · cases hsettle
  · exact wireSize_le_of_sync h

/-- Without room no request is made, and the engine sends nothing. -/
theorem process_without_room (adapter : MqttAdapter ε) (frame : Frame) :
    (adapter.process frame 0).request = none ∧
      ∀ bytes taken, .send bytes taken ∈ (adapter.process frame 0).calls → taken = 0 := by
  constructor
  · rcases h : (adapter.process frame 0).request with _ | request
    · rfl
    · have hfits := wireSize_le_of_process h
      simp [Request.wireSize, Frame.wireSize, frameOverhead] at hfits
  · intro bytes taken h
    unfold process at h
    split at h
    · cases h
    · rename_i settled hsettle
      refine Session.taken_of_room_zero _ ?_ h
      simp [window, capacity]

end MqttAdapter

end CellStation
