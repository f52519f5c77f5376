import CellStation.Proofs.AdapterRuns
import CellStation.Proofs.ScriptedRadio
import Mathlib.Data.List.Induction

/-!
# A failed send closes its socket once

A send that has failed makes an adapter give up its socket. From then on the calls alone tell
what the adapter knows of it (`MqttAdapter.GivenUp`) : the socket is to be closed as long as there
was no room for that and no frame has shown that it is gone, and its owner is to be told as long
as it has not asked. So the close is sent once, by the first call that has room for it, or not at
all if the socket is gone by then (`MqttAdapter.closed_once_after_failure`).
-/

namespace CellStation

/-- The frame shows that a socket is gone : it is not connected, or a request to close it has
been answered. -/
def Inbound.TellsGone (socket : UInt8) : Inbound → Prop
  | .socketState which state => which = socket ∧ state ≠ .connected
  | .closed which _ => which = socket
  | _ => False

namespace MqttAdapter

variable {ε : Type} {adapter : MqttAdapter ε} {socket : UInt8}

theorem isGone_iff_tellsGone {frame : Inbound} :
    isGone frame socket = true ↔ frame.TellsGone socket := by
  cases frame <;> simp [isGone, Inbound.TellsGone]

/-- What a frame lets go of, it lets go of once. -/
theorem release_release (adapter : MqttAdapter ε) (frame : Inbound) :
    (adapter.release frame).release frame = adapter.release frame := by
  rcases adapter.release_eq_or_unbound frame with hsame | hunbound
  · rw [hsame, hsame]
  · exact release_of_unbound hunbound

/-- A send has failed : the socket is given up, and its close waits. -/
theorem release_of_failure {status : DeliveryStatus} (h : adapter.socket = some socket)
    (hstatus : status ≠ .ok) :
    adapter.release (.delivery sendFrameId status) =
      { adapter with
        socket := none
        pendingClose := some socket
        abandoned := some socket } := by
  simp only [release, h]
  exact if_pos ⟨trivial, hstatus⟩

/-! ## One call -/

/-- The close of a socket waits on through a call : there is no room for it, and no frame shows
that the socket is gone. -/
def Call.Spares (socket : UInt8) : Call → Prop
  | .process frame space => space < 7 ∧ ¬ frame.inbound.TellsGone socket
  | _ => True

/-- What an adapter knows of a socket that it has given up, after calls. -/
structure GivenUp (socket : UInt8) (calls : List Call) (adapter : MqttAdapter ε) : Prop where
  unbound : adapter.socket = none
  pending : ∀ other, adapter.pendingClose = some other ↔
    other = socket ∧ ∀ call ∈ calls, call.Spares socket
  abandoned : adapter.abandoned = if .takeAbandoned ∈ calls then none else some socket

theorem givenUp_of_failure {status : DeliveryStatus} (h : adapter.socket = some socket)
    (hstatus : status ≠ .ok) :
    GivenUp socket [] (adapter.release (.delivery sendFrameId status)) := by
  rw [release_of_failure h hstatus]
  exact ⟨rfl, by simp [eq_comm], rfl⟩

/-- The owner is told once. -/
theorem GivenUp.takeAbandoned {calls : List Call} (h : GivenUp socket calls adapter) :
    GivenUp socket (calls ++ [.takeAbandoned]) adapter.takeAbandoned.2 where
  unbound := h.unbound
  pending other := by
    have hspares : Call.takeAbandoned.Spares socket := trivial
    simp only [List.forall_mem_append, List.forall_mem_singleton, hspares, and_true]
    exact h.pending other
  abandoned := by simp [MqttAdapter.takeAbandoned]

variable [MqttEngine ε]

theorem process_release (adapter : MqttAdapter ε) (frame : Frame) (space : Nat) :
    (adapter.release frame.inbound).process frame space = adapter.process frame space := by
  simp only [process, release_release]

namespace GivenUp

variable {calls : List Call}

/-- The close is sent when it still waits, there is room, and the socket is not gone. Nothing
else is sent. -/
theorem request_eq_some_iff (h : GivenUp socket calls adapter) (frame : Frame) (space : Nat)
    (request : Request) :
    (adapter.process frame space).request = some request ↔
      request = .close sendFrameId socket ∧ (∀ call ∈ calls, call.Spares socket) ∧
        7 ≤ space ∧ ¬ frame.inbound.TellsGone socket := by
  have hprocessed := adapter.processed_process frame space
  rw [← isGone_iff_tellsGone]
  generalize adapter.process frame space = step at hprocessed ⊢
  cases hprocessed with
  | closes closed hpending hkept hroom =>
    rw [release_of_unbound h.unbound, h.pending] at hpending
    obtain ⟨rfl, hspared⟩ := hpending
    constructor
    · rintro ⟨⟩
      exact ⟨rfl, hspared, hroom, by simp [hkept]⟩
    · rintro ⟨rfl, -⟩
      rfl
  | drops closed hpending hgone =>
    rw [release_of_unbound h.unbound] at hpending ⊢
    obtain ⟨rfl, -⟩ := (h.pending closed).mp hpending
    have hnone : ({ adapter with pendingClose := none }.sync frame.inbound space).request = none :=
      request_sync_of_unbound h.unbound frame.inbound space
    rw [hnone]
    exact iff_of_false nofun fun ⟨_, _, _, hkept⟩ => hkept hgone
  | syncs hwaits =>
    rw [release_of_unbound h.unbound] at hwaits ⊢
    rw [request_sync_of_unbound h.unbound]
    refine iff_of_false nofun fun ⟨_, hspared, hroom, _⟩ => ?_
    have hshort : space < 7 := (hwaits socket ((h.pending socket).mpr ⟨rfl, hspared⟩)).2
    exact Nat.not_lt_of_le hroom hshort

/-- A frame leaves what is known as it is, but for the close that waits. -/
theorem process (h : GivenUp socket calls adapter) (frame : Frame) (space : Nat) :
    GivenUp socket (calls ++ [.process frame space]) (adapter.process frame space).adapter := by
  have hspares : (∀ call ∈ calls ++ [.process frame space], call.Spares socket) ↔
      (∀ call ∈ calls, call.Spares socket) ∧ space < 7 ∧ ¬ isGone frame.inbound socket = true := by
    rw [List.forall_mem_append, List.forall_mem_singleton, Call.Spares, isGone_iff_tellsGone]
  have habandoned : adapter.abandoned =
      if .takeAbandoned ∈ calls ++ [.process frame space] then none else some socket := by
    simpa using h.abandoned
  have hprocessed := adapter.processed_process frame space
  generalize adapter.process frame space = step at hprocessed ⊢
  cases hprocessed with
  | closes closed hpending hkept hroom =>
    rw [release_of_unbound h.unbound]
    refine ⟨h.unbound, fun other => iff_of_false nofun ?_, habandoned⟩
    rintro ⟨-, hspared⟩
    exact Nat.not_lt_of_le hroom (hspares.mp hspared).2.1
  | drops closed hpending hgone =>
    rw [release_of_unbound h.unbound] at hpending ⊢
    obtain ⟨rfl, -⟩ := (h.pending closed).mp hpending
    refine ⟨h.unbound, fun other => iff_of_false nofun ?_, habandoned⟩
    rintro ⟨-, hspared⟩
    exact (hspares.mp hspared).2.2 hgone
  | syncs hwaits =>
    rw [release_of_unbound h.unbound] at hwaits ⊢
    refine ⟨h.unbound, fun other => (h.pending other).trans (and_congr_right ?_), habandoned⟩
    rintro rfl
    rw [hspares]
    refine ⟨fun hspared => ?_, And.left⟩
    obtain ⟨hkept, hshort⟩ := hwaits other ((h.pending other).mpr ⟨rfl, hspared⟩)
    exact ⟨hspared, hshort, by simp [hkept]⟩

theorem answer (h : GivenUp socket calls adapter) :
    ∀ call : Call, (∀ which, .useSocket which ≠ call) →
      GivenUp socket (calls ++ [call]) (adapter.answer call)
  | .process frame space, _ => h.process frame space
  | .takeAbandoned, _ => h.takeAbandoned
  | .useSocket which, hcall => absurd rfl (hcall which)

/-- What is known of the socket after more calls. -/
theorem after (h : GivenUp socket calls adapter) {later : List Call}
    (hlater : ∀ which, .useSocket which ∉ later) :
    GivenUp socket (calls ++ later) (adapter.after later) := by
  induction later using List.reverseRecOn with
  | nil =>
    rw [List.append_nil]
    exact h
  | append_singleton later call ih =>
    have hbefore : ∀ which, .useSocket which ∉ later :=
      fun which hwhich => hlater which (List.mem_append_left _ hwhich)
    have hcall : ∀ which, .useSocket which ≠ call :=
      fun which heq => hlater which (by simp [heq])
    rw [after_concat, ← List.append_assoc]
    exact (ih hbefore).answer call hcall

end GivenUp

/-! ## Runs -/

/-- The requests made in calls, in order. -/
def requests (adapter : MqttAdapter ε) (calls : List Call) : List Request :=
  (adapter.steps calls).filterMap MqttStep.request

theorem requests_concat (adapter : MqttAdapter ε) (calls : List Call) (frame : Frame)
    (space : Nat) : adapter.requests (calls ++ [.process frame space]) =
      adapter.requests calls ++ ((adapter.after calls).process frame space).request.toList := by
  rw [requests, steps_concat, List.filterMap_append]
  cases hrequest : ((adapter.after calls).process frame space).request <;>
    simp [requests, step?, hrequest]

/-- Nothing is sent while the close waits, and nothing but the close at any time. -/
theorem GivenUp.requests (h : GivenUp socket [] adapter) {calls : List Call}
    (hcalls : ∀ which, .useSocket which ∉ calls) :
    ((∀ call ∈ calls, call.Spares socket) → adapter.requests calls = []) ∧
      (adapter.requests calls = [] ∨ adapter.requests calls = [.close sendFrameId socket]) := by
  induction calls using List.reverseRecOn with
  | nil => exact ⟨fun _ => rfl, .inl rfl⟩
  | append_singleton calls call ih =>
    have hbefore : ∀ which, .useSocket which ∉ calls :=
      fun which hwhich => hcalls which (List.mem_append_left _ hwhich)
    obtain ⟨hwaits, honce⟩ := ih hbefore
    rw [List.forall_mem_append, List.forall_mem_singleton]
    cases call with
    | process frame space =>
      rw [requests_concat]
      have hsends := (h.after hbefore).request_eq_some_iff frame space
      cases hrequest : ((adapter.after calls).process frame space).request with
      | none =>
        rw [Option.toList_none, List.append_nil]
        exact ⟨fun hspared => hwaits hspared.1, honce⟩
      | some request =>
        obtain ⟨rfl, hspared, hroom, -⟩ := (hsends request).mp hrequest
        rw [hwaits hspared]
        exact ⟨fun hlast => absurd hlast.2.1 (Nat.not_lt_of_le hroom), .inr rfl⟩
    | takeAbandoned =>
      have hsame : adapter.requests (calls ++ [.takeAbandoned]) = adapter.requests calls := by
        simp [MqttAdapter.requests, steps_concat, step?]
      rw [hsame]
      exact ⟨fun hspared => hwaits hspared.1, honce⟩
    | useSocket which =>
      exact absurd (List.mem_append_right calls (List.mem_singleton_self _)) (hcalls which)

/-- A failed send closes its socket once. Once an adapter bound to a socket is told that a send
has failed, whatever frames come and however much room there is, it sends nothing but the close
of that socket, at most once, until it is bound again. The close is sent in the call that tells
of the failure or in a later one : the first with room for it, unless by then a frame has shown
that the socket is gone. The first to ask is told that the socket was given up, and no other. -/
theorem closed_once_after_failure {failed : Frame} {status : DeliveryStatus}
    (hbound : adapter.socket = some socket)
    (hfailed : failed.inbound = .delivery sendFrameId status) (hstatus : status ≠ .ok)
    (space : Nat) {later : List Call} (hlater : ∀ which, .useSocket which ∉ later) :
    (adapter.requests (.process failed space :: later) = [] ∨
      adapter.requests (.process failed space :: later) = [.close sendFrameId socket]) ∧
    (∀ seen frame room rest request,
      .process failed space :: later = seen ++ .process frame room :: rest →
      (((adapter.after seen).process frame room).request = some request ↔
        request = .close sendFrameId socket ∧ (∀ call ∈ seen, call.Spares socket) ∧
          7 ≤ room ∧ ¬ frame.inbound.TellsGone socket)) ∧
    ∀ seen rest, .process failed space :: later = seen ++ .takeAbandoned :: rest →
      ((adapter.after seen).takeAbandoned).1 =
        if .takeAbandoned ∈ seen then none else some socket := by
  have hgiven := givenUp_of_failure hbound hstatus
  rw [← hfailed] at hgiven
  have hcalls : ∀ which, .useSocket which ∉ Call.process failed space :: later :=
    fun which hwhich => hlater which ((List.mem_cons.mp hwhich).resolve_left nofun)
  -- The frame is handled alike by the adapter and by the adapter that has given up the socket.
  have hsame (seen : List Call) :
      (adapter.release failed.inbound).after (.process failed space :: seen) =
        adapter.after (.process failed space :: seen) :=
    congrArg (fun step => step.adapter.after seen) (adapter.process_release failed space)
  have hknown {seen rest : List Call} (hsplit : Call.process failed space :: later = seen ++ rest) :
      GivenUp socket seen ((adapter.release failed.inbound).after seen) :=
    hgiven.after fun which hwhich => hcalls which (hsplit ▸ List.mem_append_left _ hwhich)
  refine ⟨?_, fun seen frame room rest request hsplit => ?_, fun seen rest hsplit => ?_⟩
  · have hsteps : (adapter.release failed.inbound).requests (.process failed space :: later) =
        adapter.requests (.process failed space :: later) := by
      simp only [requests, steps, step?, answer, process_release]
    rw [← hsteps]
    exact (hgiven.requests hcalls).2
  · have hsends := (hknown hsplit).request_eq_some_iff frame room request
    cases seen with
    | nil =>
      obtain ⟨hfirst, -⟩ := List.cons.inj hsplit
      obtain ⟨rfl, rfl⟩ := Call.process.inj hfirst
      exact (process_release adapter failed space) ▸ hsends
    | cons first seen =>
      obtain ⟨rfl, -⟩ := List.cons.inj hsplit
      rwa [hsame] at hsends
  · have htold := (hknown hsplit).abandoned
    cases seen with
    | nil => cases hsplit
    | cons first seen =>
      obtain ⟨rfl, -⟩ := List.cons.inj hsplit
      rwa [hsame] at htold

/-- An adapter that sends over socket 5. -/
def sendingFive : MqttAdapter OutboxEngine := ⟨⟨[1, 2, 3]⟩, some 5, none, none⟩

/-- Data could not be delivered, as the network failed. -/
def undelivered : Frame := .ofHeader .transmitStatus (sendFrameId, ⟨0x21⟩, ()) []

/-- The connection of socket 5 is lost. -/
def lostFive : Frame := .ofHeader .socketStatus (5, ⟨0x07⟩, ()) []

/-- There is room for the close in the third call, and no byte to spare. -/
def waiting : List Call := [.takeAbandoned, .process .empty 6, .process .empty 7, .takeAbandoned]

/-- While there is no room the close waits, and the socket is reported once. The close is sent
as soon as there is room; if the socket is gone by then, it is not sent at all. -/
theorem closed_once_after_failure_waiting :
    let failure := Call.process undelivered 6
    sendingFive.requests (failure :: waiting) = [.close sendFrameId 5] ∧
      ((sendingFive.after (failure :: waiting.take 2)).process .empty 7).request =
        some (.close sendFrameId 5) ∧
      (sendingFive.after [failure]).takeAbandoned.1 = some 5 ∧
      (sendingFive.after (failure :: waiting.take 3)).takeAbandoned.1 = none ∧
      sendingFive.requests [failure, .process lostFive 1000, .process .empty 1000] = [] := by
  have hbound : sendingFive.socket = some 5 := rfl
  have hfailed : undelivered.inbound = .delivery sendFrameId ⟨0x21⟩ := by decide +kernel
  have hstatus : (⟨0x21⟩ : DeliveryStatus) ≠ DeliveryStatus.ok := by decide
  have hwaiting : ∀ which, .useSocket which ∉ waiting := by simp [waiting]
  have hspares : ∀ frame : Frame, isGone frame.inbound 5 = false → ¬ frame.inbound.TellsGone 5 := by
    intro frame hkept htells
    rw [← isGone_iff_tellsGone, hkept] at htells
    cases htells
  have hearlier : ∀ call ∈ Call.process undelivered 6 :: waiting.take 2, call.Spares 5 := by
    have hundelivered := hspares undelivered (by decide +kernel)
    have hempty := hspares .empty (by decide +kernel)
    simp [waiting, Call.Spares, hundelivered, hempty]
  obtain ⟨honce, hsends, htold⟩ :=
    closed_once_after_failure hbound hfailed hstatus 6 hwaiting
  have hsent := (hsends (.process undelivered 6 :: waiting.take 2) .empty 7 _ _ rfl).mpr
    ⟨rfl, hearlier, Nat.le_refl 7, hspares .empty (by decide +kernel)⟩
  refine ⟨honce.resolve_left (by decide +kernel), hsent, ?_, ?_, by decide +kernel⟩
  · exact htold [.process undelivered 6] (waiting.drop 1) rfl
  · exact htold (.process undelivered 6 :: waiting.take 3) [] rfl

end MqttAdapter

end CellStation
