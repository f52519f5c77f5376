import CellStation.Mqtt.Adapter
import CellStation.Proofs.ComponentRequests

/-!
# Runs of an adapter

An adapter handles frames, is bound to sockets, and is asked what it has given up. Each of these
is a `MqttAdapter.Call`, in any order. The engine is any one : what it sends and asks for in a
step may depend on all that it was answered before.

What a frame comes to is one of two things (`MqttAdapter.Processed`) : the close that waits is
sent, or the engine takes its step. An engine moves bytes through a window, and what it sends,
what it is handed and what is left add up (`Session.sent_run`, `Session.unread_run`).
-/

namespace CellStation

/-! ## Calls of an engine -/

namespace EngineCall

/-- The bytes of a send call that were accepted, by the count it was answered with. -/
def accepted : EngineCall → List UInt8
  | send bytes taken => bytes.take taken
  | _ => []

/-- The bytes that a receive call was answered with. -/
def handed : EngineCall → List UInt8
  | receive _ bytes => bytes
  | _ => []

end EngineCall

namespace Session

variable {α : Type}

/-- What has been sent grows by what the send calls were told to be accepted. -/
theorem sent_run : ∀ (session : Session α) (window : Window),
    (session.run window).2.1.sent =
      window.sent ++ (session.run window).2.2.flatMap EngineCall.accepted
  | .done _, window => (List.append_nil window.sent).symm
  | .send bytes next, window => by
    have hrest := sent_run (next (window.send bytes).1) (window.send bytes).2
    have htaken : bytes.take (window.send bytes).1 = bytes.take window.room := by
      simp [Window.send]
    simp only [run, List.flatMap_cons, EngineCall.accepted, htaken]
    rw [hrest, ← List.append_assoc]
    rfl
  | .receive size next, window => sent_run (next (window.receive size).1) (window.receive size).2
  | .publish _ next, window => sent_run next window

/-- What was to be received is what the receive calls were handed, and what is left. -/
theorem unread_run : ∀ (session : Session α) (window : Window),
    window.unread =
      (session.run window).2.2.flatMap EngineCall.handed ++ (session.run window).2.1.unread
  | .done _, _ => rfl
  | .send bytes next, window => unread_run (next (window.send bytes).1) (window.send bytes).2
  | .receive size next, window => by
    have hrest := unread_run (next (window.receive size).1) (window.receive size).2
    simp only [run, List.flatMap_cons, EngineCall.handed, List.append_assoc, ← hrest]
    exact (List.take_append_drop size window.unread).symm
  | .publish _ next, window => unread_run next window

/-- Where nothing is to be received, nothing is handed out, and nothing is left. -/
theorem handed_of_unread_nil (session : Session α) {window : Window} (h : window.unread = []) :
    (session.run window).2.2.flatMap EngineCall.handed = [] ∧
      (session.run window).2.1.unread = [] :=
  List.append_eq_nil_iff.mp ((session.unread_run window).symm.trans h)

/-- Once a call that asks for bytes has been handed none, there are none left. -/
theorem unread_run_of_drained : ∀ (session : Session α) {window : Window} {size : Nat}, 0 < size →
    .receive size [] ∈ (session.run window).2.2 → (session.run window).2.1.unread = []
  | .done _, _, _, _, h => by simp [run] at h
  | .send bytes next, window, _, hsize, h =>
    unread_run_of_drained (next (window.send bytes).1) hsize
      ((List.mem_cons.mp h).resolve_left nofun)
  | .receive asked next, window, size, hsize, h => by
    rcases List.mem_cons.mp h with heq | hrest
    · obtain ⟨rfl, hnone⟩ := EngineCall.receive.inj heq
      have hempty : window.unread = [] :=
        (List.take_eq_nil_iff.mp hnone.symm).resolve_left (Nat.ne_of_gt hsize)
      have hnext : (window.receive size).2.unread = [] := by
        simp [Window.receive, hempty]
      exact (handed_of_unread_nil (next (window.receive size).1) hnext).2
    · exact unread_run_of_drained (next (window.receive asked).1) hsize hrest
  | .publish _ next, window, _, hsize, h =>
    unread_run_of_drained next hsize ((List.mem_cons.mp h).resolve_left nofun)

/-- No more of the bytes offered is accepted than there is. -/
theorem taken_le_length : ∀ (session : Session α) {window : Window} {bytes : List UInt8}
    {taken : Nat}, .send bytes taken ∈ (session.run window).2.2 → taken ≤ bytes.length
  | .done _, _, _, _, h => by simp [run] at h
  | .send offered next, window, bytes, taken, h => by
    rcases List.mem_cons.mp h with heq | hrest
    · obtain ⟨rfl, rfl⟩ := EngineCall.send.inj heq
      exact List.length_take_le' _ _
    · exact taken_le_length (next _) hrest
  | .receive _ next, _, _, _, h =>
    taken_le_length (next _) ((List.mem_cons.mp h).resolve_left nofun)
  | .publish _ next, _, _, _, h => taken_le_length next ((List.mem_cons.mp h).resolve_left nofun)

end Session

namespace MqttAdapter

/-! ## One frame -/

section Frames

variable {ε : Type} {adapter : MqttAdapter ε}

theorem release_of_unbound {frame : Inbound} (h : adapter.socket = none) :
    adapter.release frame = adapter := by
  simp only [release, h]

/-- A frame changes an adapter only by letting go of its socket. -/
theorem release_eq_or_unbound (adapter : MqttAdapter ε) (frame : Inbound) :
    adapter.release frame = adapter ∨ (adapter.release frame).socket = none := by
  unfold release
  split
  · exact .inl rfl
  · split
    · split
      · exact .inr rfl
      · exact .inl rfl
    · split
      · exact .inr rfl
      · exact .inl rfl

/-- Without a socket there is nothing to be moved. -/
theorem window_of_unbound (h : adapter.socket = none) (frame : Inbound)
    (space : Nat) : adapter.window frame space = ⟨0, [], []⟩ := by
  cases frame <;> simp [window, received, h]

variable [MqttEngine ε]

/-- Without a socket no request is made. -/
theorem request_sync_of_unbound (h : adapter.socket = none) (frame : Inbound) (space : Nat) :
    (adapter.sync frame space).request = none := by
  refine Option.eq_none_iff_forall_ne_some.mpr fun request hrequest => ?_
  obtain ⟨socket, bytes, -, hbound, -⟩ := fits_of_request_sync hrequest
  cases h.symm.trans hbound

/-- What a frame comes to, within a space. -/
inductive Processed (frame : Inbound) (space : Nat) (adapter : MqttAdapter ε) :
    MqttStep ε → Prop where
  /-- The close that waits is sent. -/
  | closes (socket : UInt8) (hpending : (adapter.release frame).pendingClose = some socket)
    (hkept : isGone frame socket = false) (hroom : Layout.socketClose.wireSizeOf 0 ≤ space) :
    Processed frame space adapter
      { adapter := { adapter.release frame with pendingClose := none }
        request := some (.close sendFrameId socket)
        synced := false
        calls := [] }
  /-- The socket is gone, and its close is dropped. -/
  | drops (socket : UInt8) (hpending : (adapter.release frame).pendingClose = some socket)
    (hgone : isGone frame socket = true) :
    Processed frame space adapter
      (sync { adapter.release frame with pendingClose := none } frame space)
  /-- No close waits, or it waits on. -/
  | syncs (hwaits : ∀ socket ∈ (adapter.release frame).pendingClose,
      isGone frame socket = false ∧ space < Layout.socketClose.wireSizeOf 0) :
    Processed frame space adapter ((adapter.release frame).sync frame space)

theorem processed_process (adapter : MqttAdapter ε) (frame : Frame) (space : Nat) :
    Processed frame.inbound space adapter (adapter.process frame space) := by
  cases hpending : (adapter.release frame.inbound).pendingClose with
  | none =>
    simp only [process, settleClose, hpending]
    exact .syncs fun socket hsocket => by simp [hpending] at hsocket
  | some socket =>
    simp only [process, settleClose, hpending]
    by_cases hgone : isGone frame.inbound socket = true
    · simp only [if_pos hgone]
      exact .drops socket hpending hgone
    · have hkept := eq_false_of_ne_true hgone
      by_cases hroom : Layout.socketClose.wireSizeOf 0 ≤ space
      · simp only [if_neg hgone, if_pos hroom]
        exact .closes socket hpending hkept hroom
      · simp only [if_neg hgone, if_neg hroom]
        refine .syncs fun other hother => ?_
        obtain rfl := Option.some.inj (hpending.symm.trans hother)
        exact ⟨hkept, Nat.lt_of_not_le hroom⟩

end Frames

/-! ## Runs -/

/-- What is asked of an adapter. -/
inductive Call where
  | process (frame : Frame) (space : Nat)
  | useSocket (socket : Option UInt8)
  | takeAbandoned
  deriving DecidableEq, Repr

variable {ε : Type} [MqttEngine ε]

/-- The step that a call has the adapter take. -/
def step? (adapter : MqttAdapter ε) : Call → Option (MqttStep ε)
  | .process frame space => some (adapter.process frame space)
  | _ => none

/-- The adapter after a call. -/
def answer (adapter : MqttAdapter ε) : Call → MqttAdapter ε
  | .process frame space => (adapter.process frame space).adapter
  | .useSocket socket => adapter.useSocket socket
  | .takeAbandoned => adapter.takeAbandoned.2

/-- The adapter after calls. -/
def after (adapter : MqttAdapter ε) (calls : List Call) : MqttAdapter ε :=
  calls.foldl answer adapter

theorem after_append (adapter : MqttAdapter ε) (calls later : List Call) :
    adapter.after (calls ++ later) = (adapter.after calls).after later :=
  List.foldl_append

theorem after_concat (adapter : MqttAdapter ε) (calls : List Call) (call : Call) :
    adapter.after (calls ++ [call]) = (adapter.after calls).answer call :=
  after_append adapter calls [call]

/-- The steps taken in calls, in order. -/
def steps (adapter : MqttAdapter ε) : List Call → List (MqttStep ε)
  | [] => []
  | call :: calls => (adapter.step? call).toList ++ (adapter.answer call).steps calls

theorem steps_concat (adapter : MqttAdapter ε) (calls : List Call) (call : Call) :
    adapter.steps (calls ++ [call]) =
      adapter.steps calls ++ ((adapter.after calls).step? call).toList := by
  induction calls generalizing adapter with
  | nil => simp [steps, after]
  | cons first calls ih =>
    rw [List.cons_append, steps, ih, steps, List.append_assoc]
    rfl

end MqttAdapter

end CellStation
