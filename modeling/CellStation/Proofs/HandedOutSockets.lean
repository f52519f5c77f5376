import CellStation.Proofs.KeeperRuns

/-!
# Sockets that a keeper hands out

What a keeper hands out is told by the calls made on it alone, whatever they are and in
whatever order they come. A socket is handed out exactly when the modem assigned it in answer
to a create request, then connected it, and no call has ended it or taken it out of use since
(`socket_eq_some_iff_handedOut`).

A socket taken out of use is being closed. It stays so until a frame says that it is
connected : then it is handed out again, and the close is lost (`handed_out_again_iff`).
-/

namespace CellStation.Keeper

/-! ## The calls behind a state -/

/-- A create request has been made, and no frame has answered it. -/
def Waiting (new : Keeper) : List Call → Prop :=
  Since (fun before call => ∃ protocol, (new.after before).made call =
    some (.create createFrameId protocol)) fun _ call => ¬ call.AnswersCreate

/-- The socket was assigned in answer to a create request, and no frame has ended it. -/
def Held (socket : UInt8) (new : Keeper) : List Call → Prop :=
  Since (fun before call => Waiting new before ∧ Assigns socket (new.after before) call)
    fun _ call => ¬ call.Ends socket

/-- The socket was held when a frame said, for the last time, that it is connected, and no call
has ended it or taken it out of use since. -/
def HandedOut (socket : UInt8) (new : Keeper) : List Call → Prop :=
  Since (fun before call => Held socket new before ∧ call.Connects socket)
    fun _ call => ¬ call.Ends socket ∧ ¬ call.Connects socket ∧ ¬ call.Leaves socket

variable {config : SocketConfig} {new : Keeper} {calls : List Call} {socket : UInt8}

theorem paired_of_ofConfig (h : Keeper.ofConfig config = .ok new) : new.Paired := by
  intro _
  exact (ofConfig_eq_ok h).2

theorem phase_eq_createWait_iff (h : Keeper.ofConfig config = .ok new) :
    (new.after calls).phase = .createWait ↔ Waiting new calls := by
  induction calls using List.reverseRecOn with
  | nil => simp [Keeper.after, (ofConfig_eq_ok h).1, Waiting, not_since_nil]
  | append_singleton calls call ih =>
    rw [after_concat, (follows_answer ((paired_of_ofConfig h).after calls) call).waits, ih, Waiting,
      since_concat]

theorem socketId_eq_some_iff_held (h : Keeper.ofConfig config = .ok new) :
    (new.after calls).socketId = some socket ↔ Held socket new calls := by
  induction calls using List.reverseRecOn with
  | nil => simp [Keeper.after, (ofConfig_eq_ok h).2, Held, not_since_nil]
  | append_singleton calls call ih =>
    have hassigns : Assigns socket (new.after calls) call → Waiting new calls := fun hcall =>
      (phase_eq_createWait_iff h).mp hcall.phase
    rw [after_concat, (follows_answer ((paired_of_ofConfig h).after calls) call).holds, ih, Held,
      since_concat]
    exact or_congr_left ⟨fun hcall => ⟨hassigns hcall, hcall⟩, And.right⟩

/-- What a keeper hands out. In every run of a keeper it hands a socket out exactly when a
create request was made, the modem then assigned the socket while the request waited, then a
frame said that the socket is connected, no frame since the assignment has said that it is not
connected or that it was closed, and since the latest frame that said it is connected neither
has connecting it failed nor was it to be closed. -/
theorem socket_eq_some_iff_handedOut (h : Keeper.ofConfig config = .ok new) :
    (new.after calls).socket = some socket ↔ HandedOut socket new calls := by
  induction calls using List.reverseRecOn with
  | nil => simp [Keeper.after, Keeper.socket, (ofConfig_eq_ok h).2, HandedOut, not_since_nil]
  | append_singleton calls call ih =>
    have hfollows := follows_answer ((paired_of_ofConfig h).after calls) call
    have hheld : HandedOut socket new calls → Held socket new calls := fun hcalls =>
      (socketId_eq_some_iff_held h).mp (socketId_of_socket (ih.mpr hcalls))
    rw [after_concat, hfollows.handsOut, ih, socketId_eq_some_iff_held h, HandedOut, since_concat]
    constructor
    · rintro (hconnects | ⟨hcalls, hends, hleaves⟩)
      · exact .inl hconnects
      · -- A frame that connects it once more begins anew.
        by_cases hconnects : call.Connects socket
        · exact .inl ⟨hheld hcalls, hconnects⟩
        · exact .inr ⟨hcalls, hends, hconnects, hleaves⟩
    · rintro (hconnects | ⟨hcalls, hends, -, hleaves⟩)
      · exact .inl hconnects
      · exact .inr ⟨hcalls, hends, hleaves⟩

/-- A keeper of a socket to a broker, before any call. -/
def brokerKeeper : Keeper where
  host := "broker.local"
  port := 1883
  protocol := .tcp
  retryInterval := 3000
  networkUp := false
  nextRetry := 0
  socketId := none
  phase := .ready

theorem ofConfig_broker :
    Keeper.ofConfig { host := "broker.local", port := 1883, protocol := .tcp } =
      .ok brokerKeeper := rfl

/-- A frame that says that socket 5 is connected. -/
def connectedFive : Call := .incoming (.ofHeader .socketStatus (5, SocketState.connected, ()) [])

/-- The network comes up, and the modem assigns socket 5 and connects it. -/
def connecting : List Call :=
  [.incoming (.ofHeader .modemStatus (ModemStatusCode.registered, ()) []), .turn 1000 1000,
   .incoming (.ofHeader .socketCreateResponse (createFrameId, 5, CreateStatus.ok, ()) []),
   .turn 1010 1000, connectedFive]

/-- Socket 5 is handed out once it is connected, and so are all the calls behind it. -/
theorem socket_eq_some_iff_handedOut_connecting :
    (brokerKeeper.after connecting).socket = some 5 ∧ HandedOut 5 brokerKeeper connecting := by
  have hsocket : (brokerKeeper.after connecting).socket = some 5 := by decide +kernel
  exact ⟨hsocket, (socket_eq_some_iff_handedOut ofConfig_broker).mp hsocket⟩

/-! ## Sockets taken out of use -/

/-- A socket that was taken out of use, because connecting it failed or because it is to be
closed, is handed out again without having been assigned again exactly when no frame has ended
it and, after that, a frame has said that it is connected and it has not been taken out of use
since. -/
theorem handed_out_again_iff (h : Keeper.ofConfig config = .ok new) {before later : List Call}
    {leave : Call} (hbefore : (new.after before).socket = some socket)
    (hleave : leave.Leaves socket)
    (hassign : ∀ seen next rest, later = seen ++ next :: rest →
      ¬ Assigns socket (new.after (before ++ leave :: seen)) next) :
    (new.after (before ++ leave :: later)).socket = some socket ↔
      (∀ call ∈ later, ¬ call.Ends socket) ∧
        Since (fun _ call => call.Connects socket) (fun _ call => ¬ call.Leaves socket) later := by
  have hpaired := (paired_of_ofConfig h).after before
  have hfollows := follows_answer hpaired leave
  obtain ⟨hends, hconnects⟩ := hleave.spares
  have hheld : (new.after (before ++ [leave])).socketId = some socket := by
    rw [after_concat, hfollows.holds]
    exact .inr ⟨socketId_of_socket hbefore, hends⟩
  have hout : (new.after (before ++ [leave])).socket ≠ some socket := by
    rw [after_concat, ne_eq, hfollows.handsOut]
    rintro (⟨-, hcall⟩ | ⟨-, -, hcall⟩)
    · exact hconnects hcall
    · exact hcall hleave
  have hpaired' := (paired_of_ofConfig h).after (before ++ [leave])
  have hsplit : before ++ leave :: later = before ++ [leave] ++ later := by simp
  rw [hsplit, after_append]
  constructor
  · intro hsocket
    have hlasting := lasting_of_socketId hpaired'
      (fun seen next rest hlater => by
        rw [← after_append]
        simpa using hassign seen next rest hlater) (socketId_of_socket hsocket)
    refine ⟨hlasting, ?_⟩
    rcases ((after_of_lasting hpaired' hheld hlasting).2.mp hsocket) with ⟨hin, -⟩ | hagain
    · exact absurd hin hout
    · exact hagain
  · rintro ⟨hlasting, hagain⟩
    exact (after_of_lasting hpaired' hheld hlasting).2.mpr (.inr hagain)

/-- The close of socket 5 is asked for and sent. Socket 5 is handed out again once a frame
says that it is connected. -/
theorem handed_out_again_iff_connecting :
    (brokerKeeper.after connecting).socket = some 5 ∧
      (brokerKeeper.after (connecting ++ .reconnect :: [.turn 1020 1000])).socket ≠ some 5 ∧
      (brokerKeeper.after (connecting ++ .reconnect :: [.turn 1020 1000, connectedFive])).socket =
        some 5 := by
  have hsocket : (brokerKeeper.after connecting).socket = some 5 := by decide +kernel
  have hleave : Call.Leaves 5 .reconnect := trivial
  have hassign : ∀ {later : List Call}, (∀ call ∈ later, ¬ call.AnswersCreate) →
      ∀ seen next rest, later = seen ++ next :: rest →
        ¬ Assigns 5 (brokerKeeper.after (connecting ++ .reconnect :: seen)) next := by
    rintro later hlater seen next rest rfl hassigns
    exact hlater next (by simp) hassigns.answersCreate
  have hturn : ¬ Call.AnswersCreate (.turn 1020 1000) := id
  have hconnected : ¬ connectedFive.AnswersCreate := id
  refine ⟨hsocket, ?_, ?_⟩
  · rw [ne_eq, handed_out_again_iff ofConfig_broker hsocket hleave (hassign (by simpa using hturn))]
    rintro ⟨-, seen, first, rest, hsplit, hconnects, -⟩
    obtain rfl : first = .turn 1020 1000 := by
      have hfirst : first ∈ [Call.turn 1020 1000] := by simp [hsplit]
      simpa using hfirst
    exact hconnects
  · rw [handed_out_again_iff ofConfig_broker hsocket hleave
      (hassign (by simpa using ⟨hturn, hconnected⟩))]
    have hturn : ¬ Call.Ends 5 (.turn 1020 1000) := id
    have hconnected : ¬ Call.Ends 5 connectedFive := fun hends => hends.2 rfl
    exact ⟨by simpa using ⟨hturn, hconnected⟩, [.turn 1020 1000], connectedFive, [], rfl, rfl,
      by simp⟩

/-- A close is lost, whether the keeper was asked for it or the user of the socket has started
it : socket 5 is not assigned again, and is handed out again as soon as a frame says that it is
connected. -/
theorem close_lost :
    (brokerKeeper.after connecting).socket = some 5 ∧ ¬ connectedFive.AnswersCreate ∧
      Call.Leaves 5 .reconnect ∧
      (brokerKeeper.after (connecting ++ [.reconnect])).socket = none ∧
      (brokerKeeper.after (connecting ++ [.reconnect, connectedFive])).socket = some 5 ∧
      Call.Leaves 5 (.closeStarted 5) ∧
      (brokerKeeper.after (connecting ++ [.closeStarted 5])).socket = none ∧
      (brokerKeeper.after (connecting ++ [.closeStarted 5, connectedFive])).socket = some 5 :=
  ⟨by decide +kernel, id, trivial, by decide +kernel, by decide +kernel, rfl, by decide +kernel,
    by decide +kernel⟩

end CellStation.Keeper
