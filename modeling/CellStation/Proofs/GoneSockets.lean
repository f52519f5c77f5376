import CellStation.Proofs.HandedOutSockets
import CellStation.Proofs.ScriptedRadio

/-!
# Sockets that are gone

The keeper and the adapter each read off a frame that a socket is gone. The keeper forgets the
socket that it holds. The adapter lets go of the socket that it is bound to, and drops the
close of a socket that still waits to be sent.

The adapter goes by one rule for both (`MqttAdapter.unbinds_iff`, `MqttAdapter.dropsClose_iff`).
The keeper goes by a narrower one (`Keeper.forgets_iff`) : to the adapter every answer to a
close request says that the socket is gone, to the keeper only one of success. On all other
frames the two agree (`Keeper.forgets_iff_unbinds`). A keeper that waits for the answer waits
on when it tells of a failure (`Keeper.waits_on_failed_close`).
-/

namespace CellStation

/-- The frame answers a request to close a socket, and tells of a failure. -/
def Inbound.FailsClose (socket : UInt8) : Inbound → Prop
  | .closed which status => which = socket ∧ status ≠ .ok
  | _ => False

theorem Inbound.Ends.not_failsClose {frame : Inbound} {socket : UInt8} (h : frame.Ends socket) :
    ¬ frame.FailsClose socket := by
  cases frame with
  | closed which status => exact fun hfails => hfails.2 h.2
  | _ => exact id

/-! ## The adapter -/

namespace MqttAdapter

variable {ε : Type} {adapter : MqttAdapter ε} {socket : UInt8}

/-- To the adapter a socket is gone when a frame ends it, or when closing it has failed. -/
theorem isGone_iff {frame : Inbound} :
    isGone frame socket = true ↔ frame.Ends socket ∨ frame.FailsClose socket := by
  cases frame with
  | socketState which state => simp [isGone, Inbound.Ends, Inbound.FailsClose]
  | closed which status =>
    simp only [isGone, decide_eq_true_eq, Inbound.Ends, Inbound.FailsClose, ← and_or_left,
      eq_or_ne, and_true]
  | _ => simp [isGone, Inbound.Ends, Inbound.FailsClose]

/-- Unless a frame tells what became of data, only a socket that is gone is let go of. -/
theorem release_eq {frame : Inbound} (h : adapter.socket = some socket)
    (hframe : ∀ id status, frame ≠ .delivery id status) :
    adapter.release frame =
      if isGone frame socket then { adapter with socket := none } else adapter := by
  rw [release, h]
  cases frame with
  | delivery id status => exact absurd rfl (hframe id status)
  | _ => rfl

/-- Unless a frame tells what became of data, no other close is to be sent. -/
theorem pendingClose_release {frame : Inbound} (hframe : ∀ id status, frame ≠ .delivery id status) :
    (adapter.release frame).pendingClose = adapter.pendingClose := by
  cases hsocket : adapter.socket with
  | none => simp only [release, hsocket]
  | some bound =>
    rw [release_eq hsocket hframe]
    split
    · rfl
    · rfl

variable [MqttEngine ε]

/-- Once the engine takes its step no close is sent. -/
theorem request_sync_ne_close (adapter : MqttAdapter ε) (frame : Inbound) (space : Nat)
    (id : UInt8) : (adapter.sync frame space).request ≠ some (.close id socket) := by
  intro hclose
  obtain ⟨_, _, hsend, -⟩ := fits_of_request_sync hclose
  cases hsend

variable {frame : Frame}

theorem unbinds_iff (h : adapter.socket = some socket)
    (hframe : ∀ id status, frame.inbound ≠ .delivery id status) (space : Nat) :
    (adapter.process frame space).adapter.socket = none ↔ isGone frame.inbound socket = true := by
  rw [(adapter.socket_process frame space).1, release_eq h hframe]
  split
  · rename_i hgone
    exact iff_of_true rfl hgone
  · rename_i hkept
    exact iff_of_false (by simp [h]) hkept

end MqttAdapter

/-- The step drops the close of a socket : it waits no longer, and has not been sent. -/
structure MqttStep.DropsClose {ε : Type} (step : MqttStep ε) (socket : UInt8) : Prop where
  settled : step.adapter.pendingClose = none
  unsent : ∀ id, step.request ≠ some (.close id socket)

namespace MqttAdapter

variable {ε : Type} [MqttEngine ε] {adapter : MqttAdapter ε} {socket : UInt8} {frame : Frame}

theorem dropsClose_iff (h : adapter.pendingClose = some socket)
    (hframe : ∀ id status, frame.inbound ≠ .delivery id status) (space : Nat) :
    (adapter.process frame space).DropsClose socket ↔ isGone frame.inbound socket = true := by
  have hpending := (adapter.pendingClose_release hframe).trans h
  by_cases hgone : isGone frame.inbound socket = true
  · refine iff_of_true ?_ hgone
    simp only [process, settleClose, hpending, if_pos hgone]
    exact ⟨rfl, request_sync_ne_close _ _ _⟩
  · refine iff_of_false ?_ hgone
    by_cases hroom : Layout.socketClose.wireSizeOf 0 ≤ space
    · -- The close is sent.
      simp only [process, settleClose, hpending, if_neg hgone, if_pos hroom]
      exact fun hdrops => hdrops.unsent sendFrameId rfl
    · -- The close goes on waiting.
      simp only [process, settleClose, hpending, if_neg hgone, if_neg hroom]
      intro hdrops
      have hsettled : (adapter.release frame.inbound).pendingClose = none := hdrops.settled
      rw [hpending] at hsettled
      cases hsettled

end MqttAdapter

/-! ## The keeper -/

namespace Keeper

variable {ε : Type} [MqttEngine ε] {keeper : Keeper} {bound pending : MqttAdapter ε}
  {socket : UInt8} {frame : Frame}

/-- A keeper that does not wait for a socket forgets the one it holds when a frame ends it. -/
theorem forgets_iff (h : keeper.socketId = some socket) (hphase : keeper.phase ≠ .createWait)
    (frame : Frame) : (keeper.onIncoming frame).socketId = none ↔ frame.inbound.Ends socket := by
  have hfollows := follows_onIncoming (fun hwaits => absurd hwaits hphase) frame
  have hassigns : ∀ other, ¬ Assigns other keeper (.incoming frame) :=
    fun other hassigns => hphase hassigns.phase
  simp [Option.eq_none_iff_forall_ne_some, hfollows.holds, hassigns, h, Call.Ends]

/-- When a socket is gone. Unless a frame tells what became of data, an adapter that is bound
to a socket lets go of it exactly when an adapter that has yet to close the socket drops the
close. A keeper that holds the socket forgets it exactly then too, but for a frame that tells
that closing it has failed. So of the answers that the adapter takes for the end of the socket,
a keeper that waits for the close to be answered stops waiting on those of success only. -/
theorem forgets_iff_unbinds (hkeeper : keeper.socketId = some socket)
    (hphase : keeper.phase ≠ .createWait) (hbound : bound.socket = some socket)
    (hpending : pending.pendingClose = some socket)
    (hframe : ∀ id status, frame.inbound ≠ .delivery id status) (space space' : Nat) :
    ((keeper.onIncoming frame).socketId = none ↔
        (bound.process frame space).adapter.socket = none ∧ ¬ frame.inbound.FailsClose socket) ∧
      ((bound.process frame space).adapter.socket = none ↔
        (pending.process frame space').DropsClose socket) ∧
      ∀ status, frame.inbound = .closed socket status → keeper.phase = .closeWait →
        (bound.process frame space).adapter.socket = none ∧
          ((keeper.onIncoming frame).phase ≠ .closeWait ↔ status = .ok) := by
  have hunbinds := bound.unbinds_iff hbound hframe space
  have hdrops := pending.dropsClose_iff hpending hframe space'
  refine ⟨?_, hunbinds.trans hdrops.symm, ?_⟩
  · rw [forgets_iff hkeeper hphase, hunbinds, MqttAdapter.isGone_iff]
    constructor
    · exact fun hends => ⟨.inl hends, hends.not_failsClose⟩
    · rintro ⟨hends | hfails, hspares⟩
      · exact hends
      · exact absurd hfails hspares
  · intro status hclosed hwaits
    refine ⟨hunbinds.mpr (by simp [hclosed, MqttAdapter.isGone]), ?_⟩
    simp only [onIncoming, hclosed, hkeeper, true_and]
    split
    · rename_i hok
      exact iff_of_true (by simp) hok
    · rename_i hfailed
      exact iff_of_false (fun hleaves => hleaves hwaits) hfailed

/-- The user of socket 5 is closing it. -/
def closingFive : List Call := connecting ++ [.closeStarted 5]

/-- An answer to the request to close socket 5. -/
def closedFive (status : CloseStatus) : Frame :=
  .ofHeader .socketCloseResponse (sendFrameId, 5, status, ()) []

/-- An adapter bound to socket 5. -/
def boundFive : MqttAdapter OutboxEngine := ⟨⟨[]⟩, some 5, none, none⟩

/-- An adapter that has given up socket 5 and has yet to close it. -/
def pendingFive : MqttAdapter OutboxEngine := ⟨⟨[]⟩, none, some 5, none⟩

/-- The answer that socket 5 has been closed ends it for the keeper and for the adapter. -/
theorem forgets_iff_unbinds_closed :
    ((brokerKeeper.after closingFive).onIncoming (closedFive .ok)).socketId = none ∧
      (boundFive.process (closedFive .ok) 0).adapter.socket = none ∧
      (pendingFive.process (closedFive .ok) 1000).DropsClose 5 ∧
      ((brokerKeeper.after closingFive).onIncoming (closedFive .ok)).phase ≠ .closeWait := by
  have hkeeper : (brokerKeeper.after closingFive).socketId = some 5 := by decide +kernel
  have hwaits : (brokerKeeper.after closingFive).phase = .closeWait := by decide +kernel
  have hclosed : (closedFive .ok).inbound = .closed 5 .ok := by decide +kernel
  have hphase : (brokerKeeper.after closingFive).phase ≠ .createWait := by simp [hwaits]
  have hframe : ∀ id status, (closedFive .ok).inbound ≠ .delivery id status := by simp [hclosed]
  have hbound : boundFive.socket = some 5 := rfl
  have hpending : pendingFive.pendingClose = some 5 := rfl
  obtain ⟨hforgets, hdrops, hleaves⟩ :=
    forgets_iff_unbinds hkeeper hphase hbound hpending hframe 0 1000
  obtain ⟨hunbound, hleft⟩ := hleaves .ok hclosed hwaits
  refine ⟨hforgets.mpr ⟨hunbound, ?_⟩, hunbound, hdrops.mp hunbound, hleft.mpr rfl⟩
  simp [hclosed, Inbound.FailsClose]

/-- A keeper waits on. The answer that there is no socket 5 to close ends it for the adapter,
bound or yet to close it; the keeper holds it as before, and makes no request however late. -/
theorem waits_on_failed_close :
    (brokerKeeper.after closingFive).phase = .closeWait ∧
      (brokerKeeper.after closingFive).socketId = some 5 ∧
      (boundFive.process (closedFive ⟨0x20⟩) 0).adapter.socket = none ∧
      (pendingFive.process (closedFive ⟨0x20⟩) 1000).DropsClose 5 ∧
      (brokerKeeper.after closingFive).onIncoming (closedFive ⟨0x20⟩) =
        brokerKeeper.after closingFive ∧
      ∀ now space, (brokerKeeper.after closingFive).nextRequest now space =
        .ok (none, brokerKeeper.after closingFive) := by
  have hwaits : (brokerKeeper.after closingFive).phase = .closeWait := by decide +kernel
  have hgone : MqttAdapter.isGone (closedFive ⟨0x20⟩).inbound 5 = true := by decide +kernel
  have hframe : ∀ id status, (closedFive ⟨0x20⟩).inbound ≠ .delivery id status := by
    have hclosed : (closedFive ⟨0x20⟩).inbound = .closed 5 ⟨0x20⟩ := by decide +kernel
    simp [hclosed]
  refine ⟨hwaits, by decide +kernel, (MqttAdapter.unbinds_iff rfl hframe 0).mpr hgone,
    (MqttAdapter.dropsClose_iff rfl hframe 1000).mpr hgone, by decide +kernel, fun now space => ?_⟩
  simp only [nextRequest, hwaits]

end Keeper

end CellStation
