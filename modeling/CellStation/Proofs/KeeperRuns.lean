import CellStation.Proofs.Since
import CellStation.Proofs.SocketHistory
import Mathlib.Data.List.Induction

/-!
# Runs of a keeper

A keeper handles frames, takes turns, and is told to reconnect or that a socket is being
closed. Each of these is a `Keeper.Call`, in any order. What holds of every run holds up to where
the program stops, since such a turn changes nothing (`Keeper.takeTurn`). `Keeper.Follows` says
what one call comes to for the create request that waits, the socket that is held and the socket
that is handed out, whatever the phase, and `Keeper.networkUp_answer` what it tells of the
network.

A socket that is held and does not end stays held, and is handed out as long as it is in use
(`Keeper.after_of_lasting`).
-/

namespace CellStation

namespace Inbound

/-- The frame says that connecting a socket has failed. -/
def Refuses (socket : UInt8) : Inbound → Prop
  | .connecting which status => which = socket ∧ status ≠ .started
  | _ => False

/-- Whether a frame says that the modem is registered, if it tells of that. Every event is
taken to do so, and so is an answer to the association query. -/
def registered? : Inbound → Option Bool
  | .event code => some (code = .registered)
  | .reply _ command status [association] =>
    if command = Query.association.command ∧ status = .ok then some (association = 0) else none
  | _ => none

end Inbound

namespace Keeper

/-- A new keeper has heard nothing of the network, and may ask for a socket at once. -/
theorem fields_of_ofConfig {config : SocketConfig} {keeper : Keeper}
    (h : ofConfig config = .ok keeper) :
    keeper.networkUp = false ∧ keeper.nextRetry = 0 ∧
      keeper.retryInterval = config.retryInterval.lowMillis := by
  unfold ofConfig at h
  split at h
  · cases h
  split at h
  · cases h
  obtain rfl := Except.ok.inj h
  exact ⟨rfl, rfl, rfl⟩

/-! ## Calls -/

/-- What is asked of a keeper. -/
inductive Call where
  | incoming (frame : Frame)
  | turn (now : Millis) (space : Nat)
  | reconnect
  | closeStarted (socket : UInt8)
  deriving DecidableEq, Repr

/-- The request that a call makes. -/
def made (keeper : Keeper) : Call → Option Request
  | .turn now space => (keeper.takeTurn now space).1
  | _ => none

/-- The keeper after a call. -/
def answer (keeper : Keeper) : Call → Keeper
  | .incoming frame => keeper.onIncoming frame
  | .turn now space => (keeper.takeTurn now space).2
  | .reconnect => keeper.reconnect
  | .closeStarted socket => keeper.closeStarted socket

/-- The keeper after calls. -/
def after (keeper : Keeper) (calls : List Call) : Keeper := calls.foldl answer keeper

theorem after_append (keeper : Keeper) (calls later : List Call) :
    keeper.after (calls ++ later) = (keeper.after calls).after later :=
  List.foldl_append

theorem after_concat (keeper : Keeper) (calls : List Call) (call : Call) :
    keeper.after (calls ++ [call]) = (keeper.after calls).answer call :=
  after_append keeper calls [call]

/-- The call assigns a socket to the keeper : the modem answers the create request that the
keeper waits for. -/
def Assigns (socket : UInt8) (keeper : Keeper) : Call → Prop
  | .incoming frame =>
    keeper.phase = .createWait ∧ frame.inbound = .created createFrameId socket .ok
  | _ => False

namespace Call

/-- The call is a frame that says that a socket is connected. -/
def Connects (socket : UInt8) : Call → Prop
  | .incoming frame => frame.inbound = .socketState socket .connected
  | _ => False

/-- The call is a frame that says that a socket is not connected, or has been closed. -/
def Ends (socket : UInt8) : Call → Prop
  | .incoming frame => frame.inbound.Ends socket
  | _ => False

/-- The call takes a socket out of use : connecting it has failed, or it is to be closed, or
its user is closing it. -/
def Leaves (socket : UInt8) : Call → Prop
  | .incoming frame => frame.inbound.Refuses socket
  | .turn _ _ => False
  | .reconnect => True
  | .closeStarted which => which = socket

/-- The call is a frame that answers a create request of the keeper. -/
def AnswersCreate : Call → Prop
  | .incoming frame => frame.inbound.AnswersCreate
  | _ => False

end Call

variable {keeper : Keeper} {call : Call} {socket : UInt8}

theorem Assigns.phase (h : Assigns socket keeper call) : keeper.phase = .createWait := by
  cases call with
  | incoming frame => exact h.1
  | _ => exact h.elim

theorem Assigns.answersCreate (h : Assigns socket keeper call) : call.AnswersCreate := by
  cases call with
  | incoming frame =>
    simp only [Call.AnswersCreate, h.2, Inbound.AnswersCreate]
  | _ => exact h.elim

/-- A call that takes a socket out of use neither ends nor connects it. -/
theorem Call.Leaves.spares (h : call.Leaves socket) :
    ¬ call.Ends socket ∧ ¬ call.Connects socket := by
  cases call with
  | incoming frame =>
    cases hin : frame.inbound <;>
      simp_all [Call.Leaves, Call.Ends, Call.Connects, Inbound.Refuses, Inbound.Ends]
  | _ => exact ⟨id, id⟩

theorem socketId_of_socket (h : keeper.socket = some socket) : keeper.socketId = some socket := by
  unfold Keeper.socket at h
  split at h
  · exact h
  · cases h

/-- While a create request waits for its answer no socket is held. -/
def Paired (keeper : Keeper) : Prop := keeper.phase = .createWait → keeper.socketId = none

/-- What a call comes to, told by what it says. -/
structure Follows (keeper : Keeper) (call : Call) (next : Keeper) : Prop where
  paired : next.Paired
  /-- A create request waits from when it is made until it is answered. -/
  waits : next.phase = .createWait ↔
    (∃ protocol, keeper.made call = some (.create createFrameId protocol)) ∨
      (keeper.phase = .createWait ∧ ¬ call.AnswersCreate)
  /-- A socket is held from when it is assigned until it has ended. -/
  holds : ∀ socket, next.socketId = some socket ↔
    Assigns socket keeper call ∨ (keeper.socketId = some socket ∧ ¬ call.Ends socket)
  /-- A held socket is handed out from when it is connected until it ends or leaves use. -/
  handsOut : ∀ socket, next.socket = some socket ↔
    (keeper.socketId = some socket ∧ call.Connects socket) ∨
      (keeper.socket = some socket ∧ ¬ call.Ends socket ∧ ¬ call.Leaves socket)

theorem follows_onIncoming (h : keeper.Paired) (frame : Frame) :
    Follows keeper (.incoming frame) (keeper.onIncoming frame) := by
  unfold Paired at h
  constructor
  · cases hin : frame.inbound <;> simp only [Paired, onIncoming, hin] <;> grind
  · cases hin : frame.inbound <;>
      simp only [made, Call.AnswersCreate, Inbound.AnswersCreate, onIncoming, hin] <;> grind
  · intro socket
    cases hin : frame.inbound <;>
      simp only [Assigns, Call.Ends, Inbound.Ends, onIncoming, hin] <;> grind
  · intro socket
    cases hin : frame.inbound <;>
      simp only [Keeper.socket, Call.Connects, Call.Ends, Inbound.Ends, Call.Leaves,
        Inbound.Refuses, onIncoming, hin] <;> grind

/-- A turn leaves the socket held and the socket handed out as they are. A create request
waits after it if the turn makes one, or if one has waited before. -/
theorem Turn.fields {now : Millis} {space : Nat} {request : Option Request} {next : Keeper}
    (h : Turn now space keeper request next) :
    next.socketId = keeper.socketId ∧ next.socket = keeper.socket ∧
      (next.phase = .createWait ↔
        (∃ protocol, request = some (.create createFrameId protocol)) ∨
          keeper.phase = .createWait) ∧
      (next.phase = .createWait → keeper.phase = .createWait ∨ keeper.socketId = none) := by
  cases h with
  | rest => simp +contextual
  | giveUp hphase hsocket =>
    rcases hphase with hphase | hphase <;> simp [Keeper.socket, hphase, hsocket]
  | create hphase hsocket => simp [Keeper.socket, hphase, hsocket]
  | connect socket hphase hsocket => simp [Keeper.socket, hphase]
  | close socket hphase hsocket => simp [Keeper.socket, hphase]

theorem follows_takeTurn (h : keeper.Paired) (now : Millis) (space : Nat) :
    Follows keeper (.turn now space) (keeper.takeTurn now space).2 := by
  obtain ⟨hid, hsocket, hwaits, hpaired⟩ := (keeper.turn_takeTurn now space).fields
  constructor
  · intro hnext
    exact hid.trans ((hpaired hnext).elim h id)
  · simpa only [made, Call.AnswersCreate, not_false_eq_true, and_true] using hwaits
  · intro socket
    simp only [hid, Assigns, Call.Ends, not_false_eq_true, and_true, false_or]
  · intro socket
    simp only [hsocket, Call.Connects, Call.Ends, Call.Leaves, not_false_eq_true, and_true,
      and_false, false_or]

theorem follows_reconnect (h : keeper.Paired) : Follows keeper .reconnect keeper.reconnect := by
  unfold Paired at h
  constructor
  · simp only [Paired, Keeper.reconnect]
    grind
  · simp only [made, Call.AnswersCreate, Keeper.reconnect]
    grind
  · intro socket
    simp only [Assigns, Call.Ends, Keeper.reconnect]
    grind
  · intro socket
    simp only [Keeper.socket, Call.Connects, Call.Ends, Call.Leaves, Keeper.reconnect]
    grind

theorem follows_closeStarted (h : keeper.Paired) (socket : UInt8) :
    Follows keeper (.closeStarted socket) (keeper.closeStarted socket) := by
  unfold Paired at h
  constructor
  · simp only [Paired, Keeper.closeStarted]
    grind
  · simp only [made, Call.AnswersCreate, Keeper.closeStarted]
    grind
  · intro other
    simp only [Assigns, Call.Ends, Keeper.closeStarted]
    grind
  · intro other
    simp only [Keeper.socket, Call.Connects, Call.Ends, Call.Leaves, Keeper.closeStarted]
    grind

theorem follows_answer (h : keeper.Paired) (call : Call) :
    Follows keeper call (keeper.answer call) :=
  match call with
  | .incoming frame => follows_onIncoming h frame
  | .turn now space => follows_takeTurn h now space
  | .reconnect => follows_reconnect h
  | .closeStarted socket => follows_closeStarted h socket

/-! ## The network -/

/-- What a call tells of the network. -/
def Call.registered? : Call → Option Bool
  | .incoming frame => frame.inbound.registered?
  | _ => none

theorem Turn.networkUp {keeper next : Keeper} {now : Millis} {space : Nat}
    {request : Option Request} (h : Turn now space keeper request next) :
    next.networkUp = keeper.networkUp := by
  cases h <;> rfl

theorem networkUp_answer (keeper : Keeper) (call : Call) :
    (keeper.answer call).networkUp = call.registered?.getD keeper.networkUp := by
  cases call with
  | incoming frame =>
    cases hin : frame.inbound with
    | reply id command status value =>
      rcases value with _ | ⟨code, _ | ⟨next, rest⟩⟩ <;>
        simp only [answer, onIncoming, Call.registered?, Inbound.registered?, hin] <;> grind
    | _ =>
      simp only [answer, onIncoming, Call.registered?, Inbound.registered?, hin]
      grind
  | turn now space => exact (keeper.turn_takeTurn now space).networkUp
  | reconnect =>
    simp only [answer, reconnect]
    split <;> rfl
  | closeStarted socket =>
    simp only [answer, closeStarted]
    split <;> rfl

/-! ## Runs -/

theorem Paired.after (h : keeper.Paired) (calls : List Call) : (keeper.after calls).Paired :=
  calls.foldlRecOn Keeper.answer h fun _ hpaired call _ => (follows_answer hpaired call).paired

/-- A socket is handed out after calls that have not ended it : it was before them and no call
has taken it out of use, or it has been connected in them and not taken out of use since. -/
def InUse (socket : UInt8) (before : Prop) (calls : List Call) : Prop :=
  (before ∧ ∀ call ∈ calls, ¬ call.Leaves socket) ∨
    Since (fun _ call => call.Connects socket) (fun _ call => ¬ call.Leaves socket) calls

/-- A socket that is held without having been assigned again has not ended. -/
theorem lasting_of_socketId (h : keeper.Paired) {calls : List Call}
    (hassign : ∀ seen next rest, calls = seen ++ next :: rest →
      ¬ Assigns socket (keeper.after seen) next)
    (hheld : (keeper.after calls).socketId = some socket) :
    ∀ call ∈ calls, ¬ call.Ends socket := by
  induction calls using List.reverseRecOn with
  | nil => simp
  | append_singleton calls call ih =>
    obtain ⟨hcalls, hcall⟩ := forall_split_concat.mp hassign
    rw [after_concat, (follows_answer (h.after calls) call).holds] at hheld
    -- The last call did not assign it, so it was held before.
    obtain ⟨hbefore, hends⟩ := hheld.resolve_left hcall
    simp only [List.forall_mem_append, List.forall_mem_singleton]
    exact ⟨ih hcalls hbefore, hends⟩

/-- A socket that does not end is held, and handed out as long as it is in use. -/
theorem after_of_lasting (h : keeper.Paired) (hheld : keeper.socketId = some socket)
    {calls : List Call} (hlasting : ∀ call ∈ calls, ¬ call.Ends socket) :
    (keeper.after calls).socketId = some socket ∧
      ((keeper.after calls).socket = some socket ↔
        InUse socket (keeper.socket = some socket) calls) := by
  induction calls using List.reverseRecOn with
  | nil => simp [Keeper.after, hheld, InUse, not_since_nil]
  | append_singleton calls call ih =>
    simp only [List.forall_mem_append, List.forall_mem_singleton] at hlasting
    obtain ⟨hid, huse⟩ := ih hlasting.1
    have hfollows := follows_answer (h.after calls) call
    rw [after_concat, hfollows.holds, hfollows.handsOut, huse]
    refine ⟨.inr ⟨hid, hlasting.2⟩, ?_⟩
    simp only [InUse, since_concat, List.forall_mem_append, List.forall_mem_singleton]
    grind

end Keeper

end CellStation
