import CellStation.Keeper.Outgoing
import CellStation.Proofs.HandedOutSockets
import CellStation.Proofs.SocketCreation

/-!
# Phase and socket

The phase of a keeper and the socket it holds are kept apart, and every frame and every call
may change one of them, both or none. They agree all the same : a keeper that waits for a socket
holds none (`Keeper.Paired`), and one that connects or closes a socket holds it
(`Keeper.Rests`). So there is always a socket to connect or to close, and a turn that makes no
request changes nothing.

The socket held is the one assigned last (`Keeper.latestAssigned_of_socketId`). A create response
that the keeper does not wait for assigns nothing, even if it says that a socket was created.
A keeper comes to connect a socket by an assignment alone, and leaves it by asking, so each
assignment leads to one connect request at most (`Keeper.connects_le_one`).
-/

namespace CellStation

/-- The request asks for a socket to be connected. -/
def Request.isConnect : Request → Bool
  | connect .. => true
  | _ => false

namespace Keeper

/-- The socket was assigned by one of the calls, and none has been assigned since. -/
def LatestAssigned (socket : UInt8) (new : Keeper) : List Call → Prop :=
  Since (fun before call => Assigns socket (new.after before) call)
    fun before call => ∀ other, ¬ Assigns other (new.after before) call

/-- No call assigns a socket. -/
def AssignsNone (keeper : Keeper) (calls : List Call) : Prop :=
  ∀ seen next rest, calls = seen ++ next :: rest →
    ∀ socket, ¬ Assigns socket (keeper.after seen) next

/-- How many connect requests a keeper makes as it is called. -/
def connects (keeper : Keeper) : List Call → Nat
  | [] => 0
  | call :: calls =>
    (if (keeper.made call).any Request.isConnect then 1 else 0) +
      (keeper.answer call).connects calls

variable {config : SocketConfig} {new keeper : Keeper} {call : Call} {calls : List Call}
  {socket : UInt8}

/-! ## One call -/

/-- A keeper that connects or closes a socket holds it. -/
theorem Rests.socketId_ne_none (h : keeper.Rests)
    (hphase : keeper.phase ∈ [.connect, .connectWait, .close, .closeWait]) :
    keeper.socketId ≠ none := by
  intro hnone
  rcases h hnone with hready | hwaits
  · simp [hready] at hphase
  · simp [hwaits] at hphase

/-- A request to connect or to close a socket is for the socket held. -/
theorem socketId_of_made {id : UInt8} {port : UInt16} {host : List UInt8}
    (h : keeper.made call = some (.connect id socket port host) ∨
      keeper.made call = some (.close id socket)) :
    keeper.socketId = some socket := by
  cases call with
  | turn now space =>
    have hturn := keeper.turn_takeTurn now space
    simp only [made] at h
    generalize (keeper.takeTurn now space).1 = request at h hturn
    generalize (keeper.takeTurn now space).2 = next at hturn
    cases hturn with
    | connect held _ hheld =>
      simp only [Option.some.injEq, Request.connect.injEq, reduceCtorEq, or_false] at h
      rw [hheld, h.2.1]
    | close held _ hheld =>
      simp only [Option.some.injEq, Request.close.injEq, reduceCtorEq, false_or] at h
      rw [hheld, h.2]
    | _ => simp at h
  | _ => simp [made] at h

/-- A connect request is made by a keeper that is to connect, and which then waits. -/
theorem phase_of_connects (h : (keeper.made call).any Request.isConnect = true) :
    keeper.phase = .connect ∧ (keeper.answer call).phase = .connectWait := by
  cases call with
  | turn now space =>
    have hturn := keeper.turn_takeTurn now space
    simp only [made, answer] at h ⊢
    generalize (keeper.takeTurn now space).1 = request at h hturn
    generalize (keeper.takeTurn now space).2 = next at hturn ⊢
    cases hturn with
    | connect held hphase => exact ⟨hphase, rfl⟩
    | _ => simp [Request.isConnect] at h
  | _ => simp [made] at h

/-- A keeper comes to connect a socket by an assignment alone. -/
theorem phase_answer_ne_connect (h : keeper.phase ≠ .connect)
    (hassign : ∀ socket, ¬ Assigns socket keeper call) : (keeper.answer call).phase ≠ .connect := by
  cases call with
  | incoming frame =>
    simp only [Assigns] at hassign
    cases hin : frame.inbound <;> simp only [answer, onIncoming, hin] <;> grind
  | turn now space =>
    have hturn := keeper.turn_takeTurn now space
    simp only [answer]
    generalize (keeper.takeTurn now space).1 = request at hturn
    generalize (keeper.takeTurn now space).2 = next at hturn ⊢
    cases hturn with
    | rest => exact h
    | _ => simp
  | reconnect =>
    simp only [answer, reconnect]
    grind
  | closeStarted socket =>
    simp only [answer, closeStarted]
    grind

/-- A turn that makes no request leaves the keeper and the frame as they are, if there is a socket
to connect or to close. -/
theorem fill_of_not_made (h : keeper.Rests) {now : Millis} {space : Nat} {out : Frame}
    {turn : FilledTurn Keeper} (hfill : keeper.fill now space out = .ok turn)
    (hmade : turn.made = false) : turn.state = keeper ∧ turn.out = out := by
  rw [fill_eq] at hfill
  rcases hnext : keeper.nextRequest now space with stop | ⟨request, next⟩
  · rw [hnext] at hfill
    cases hfill
  · rw [hnext] at hfill
    obtain rfl := Except.ok.inj hfill
    cases turn_of_nextRequest hnext with
    | rest => exact ⟨rfl, rfl⟩
    | giveUp hphase hnone =>
      refine absurd hnone (h.socketId_ne_none ?_)
      rcases hphase with hphase | hphase <;> simp [hphase]
    | _ => cases hmade

/-! ## Runs -/

/-- The socket held is the one assigned last. -/
theorem latestAssigned_of_socketId (h : Keeper.ofConfig config = .ok new)
    (hheld : (new.after calls).socketId = some socket) : LatestAssigned socket new calls := by
  induction calls using List.reverseRecOn with
  | nil => simp [Keeper.after, (ofConfig_eq_ok h).2] at hheld
  | append_singleton calls call ih =>
    have hpaired := (paired_of_ofConfig h).after calls
    rw [after_concat, (follows_answer hpaired call).holds] at hheld
    rw [LatestAssigned, since_concat]
    rcases hheld with hassigns | ⟨hbefore, -⟩
    · exact .inl hassigns
    · -- A keeper that is assigned a socket held none before.
      refine .inr ⟨ih hbefore, fun other hother => ?_⟩
      rw [hpaired hother.phase] at hbefore
      cases hbefore

theorem assignsNone_cons (h : keeper.AssignsNone (call :: calls)) :
    (∀ socket, ¬ Assigns socket keeper call) ∧ (keeper.answer call).AssignsNone calls := by
  refine ⟨h [] call calls rfl, fun seen next rest hsplit => ?_⟩
  exact h (call :: seen) next rest (by rw [hsplit, List.cons_append])

/-- A keeper that is not to connect a socket asks for none to be connected until it is assigned
one. -/
theorem connects_eq_zero : ∀ {calls : List Call} {keeper : Keeper}, keeper.phase ≠ .connect →
    keeper.AssignsNone calls → keeper.connects calls = 0
  | [], _, _, _ => rfl
  | call :: calls, keeper, hphase, hassign => by
    obtain ⟨hcall, hrest⟩ := assignsNone_cons hassign
    have hquiet : ¬ (keeper.made call).any Request.isConnect = true := fun hmade =>
      hphase (phase_of_connects hmade).1
    rw [connects, if_neg hquiet, connects_eq_zero (phase_answer_ne_connect hphase hcall) hrest]

/-- Until it is assigned a socket, a keeper makes one connect request at most. -/
theorem connects_le_one : ∀ {calls : List Call} {keeper : Keeper}, keeper.AssignsNone calls →
    keeper.connects calls ≤ 1
  | [], _, _ => Nat.zero_le 1
  | call :: calls, keeper, hassign => by
    obtain ⟨-, hrest⟩ := assignsNone_cons hassign
    rw [connects]
    split
    · rename_i hmade
      have hwaits : (keeper.answer call).phase ≠ .connect := by
        simp [(phase_of_connects hmade).2]
      exact Nat.le_of_eq (congrArg (1 + ·) (connects_eq_zero hwaits hrest))
    · rw [Nat.zero_add]
      exact connects_le_one hrest

/-- Phase and socket agree. In every run of a keeper it holds no socket while it waits for one,
and holds one while it connects or closes it. Each request to connect or to close a socket is for
the socket assigned last, and from one assignment to the next a single connect request is made at
most. A turn that returns without a request leaves the keeper, and the frame to be filled, as they
are. -/
theorem phase_and_socket_agree (h : Keeper.ofConfig config = .ok new) :
    (∀ calls, ((new.after calls).phase = .createWait → (new.after calls).socketId = none) ∧
      ((new.after calls).phase ∈ [.connect, .connectWait, .close, .closeWait] →
        (new.after calls).socketId ≠ none)) ∧
    (∀ calls call id socket port host,
      (new.after calls).made call = some (.connect id socket port host) ∨
        (new.after calls).made call = some (.close id socket) → LatestAssigned socket new calls) ∧
    (∀ before later, (new.after before).AssignsNone later →
      (new.after before).connects later ≤ 1) ∧
    ∀ calls now space out turn, (new.after calls).fill now space out = .ok turn →
      turn.made = false → turn.state = new.after calls ∧ turn.out = out := by
  have hpaired := paired_of_ofConfig h
  have hrests : new.Rests := fun _ => .inl (ofConfig_eq_ok h).1
  refine ⟨fun calls => ⟨hpaired.after calls, (hrests.after calls).socketId_ne_none⟩, ?_, ?_, ?_⟩
  · intro calls call id socket port host hmade
    exact latestAssigned_of_socketId h (socketId_of_made hmade)
  · intro before later hlater
    exact connects_le_one hlater
  · intro calls now space out turn hfill hmade
    exact fill_of_not_made (hrests.after calls) hfill hmade

/-- A frame that says that a socket was created, in answer to a create request of a keeper. -/
def createdSocket (socket : UInt8) : Call :=
  .incoming (.ofHeader .socketCreateResponse (createFrameId, socket, CreateStatus.ok, ()) [])

/-- Socket 5 is assigned, and then a frame that answers nothing says that socket 7 was created. -/
def createdTwice : List Call :=
  [.incoming (.ofHeader .modemStatus (ModemStatusCode.registered, ()) []), .turn 1000 1000,
   createdSocket 5, createdSocket 7]

/-- Socket 5 is the one assigned last, and it is connected once. Without room for the request the
turn leaves all as it is. -/
theorem phase_and_socket_agree_createdTwice :
    (brokerKeeper.after createdTwice).made (.turn 1010 1000) =
        some (.connect requestFrameId 5 1883 (Text.toBytes "broker.local")) ∧
      LatestAssigned 5 brokerKeeper createdTwice ∧
      (brokerKeeper.after createdTwice).connects [.turn 1010 1000, .turn 1020 1000] ≤ 1 ∧
      ∃ turn, (brokerKeeper.after createdTwice).fill 1010 21 .empty = .ok turn ∧
        turn.made = false ∧ turn.state = brokerKeeper.after createdTwice ∧ turn.out = .empty := by
  have hmade : (brokerKeeper.after createdTwice).made (.turn 1010 1000) =
      some (.connect requestFrameId 5 1883 (Text.toBytes "broker.local")) := by decide +kernel
  have hnone : (brokerKeeper.after createdTwice).AssignsNone
      [.turn 1010 1000, .turn 1020 1000] := by
    rintro seen next rest hsplit socket hassigns
    have hnext : next ∈ [Call.turn 1010 1000, .turn 1020 1000] := by simp [hsplit]
    simp only [List.mem_cons, List.not_mem_nil, or_false] at hnext
    rcases hnext with rfl | rfl <;> exact hassigns
  have hcramped : (brokerKeeper.after createdTwice).fill 1010 21 .empty =
      .ok ⟨brokerKeeper.after createdTwice, false, .empty⟩ := by decide +kernel
  obtain ⟨-, hnames, honce, hrest⟩ := phase_and_socket_agree ofConfig_broker
  obtain ⟨hstate, hout⟩ := hrest _ _ _ _ _ hcramped rfl
  exact ⟨hmade, hnames _ _ _ _ _ _ (.inl hmade), honce _ _ hnone, _, hcramped, rfl, hstate, hout⟩

/-- The latest frame that says that a socket was created names socket 7, and has the id of the
create request. The keeper had its answer already, and connects socket 5. -/
theorem unawaited_response_ignored :
    createdTwice.getLast? = some (createdSocket 7) ∧
      (Frame.ofHeader .socketCreateResponse (createFrameId, 7, CreateStatus.ok, ()) []).inbound =
        .created createFrameId 7 .ok ∧
      (brokerKeeper.after createdTwice).made (.turn 1010 1000) =
        some (.connect requestFrameId 5 1883 (Text.toBytes "broker.local")) :=
  ⟨rfl, rfl, by decide +kernel⟩

end Keeper

end CellStation
