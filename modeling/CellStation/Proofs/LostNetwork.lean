import CellStation.Proofs.HandedOutSockets
import CellStation.Proofs.SocketCreation

/-!
# A socket that outlives the network

A keeper asks for a socket only while the network is up, but that is all the network matters
for. A frame that says the network is lost changes what the keeper knows of the network and
nothing else (`answer_of_lost`). So the socket handed out stays as it is, and a keeper whose
network is down goes on handing a socket out exactly as long as it is held and in use
(`down_with_socket_iff`). A modem that starts anew has forgotten the socket and sends no frame
that ends it; the keeper keeps it all the same (`lost_network_keeps_socket`).
-/

namespace CellStation.Keeper

variable {config : SocketConfig} {new keeper : Keeper} {calls : List Call} {call : Call}
  {socket : UInt8}

/-- A frame that says that the network is lost changes nothing else. -/
theorem answer_of_lost (h : call.registered? = some false) :
    keeper.answer call = { keeper with networkUp := false } := by
  cases call with
  | incoming frame =>
    cases hin : frame.inbound with
    | event code =>
      simp only [Call.registered?, Inbound.registered?, hin, Option.some.injEq] at h
      simp only [answer, onIncoming, hin, h]
    | reply id command status value =>
      rcases value with _ | ⟨association, _ | ⟨next, rest⟩⟩ <;>
        simp only [Call.registered?, Inbound.registered?, hin] at h
      · cases h
      · split at h
        · rename_i hquery
          simp only [Option.some.injEq] at h
          simp only [answer, onIncoming, hin, if_pos hquery, h]
        · cases h
      · cases h
    | _ =>
      simp only [Call.registered?, Inbound.registered?, hin] at h
      cases h
  | _ => cases h

/-- A held socket was assigned by one of the calls, and none has ended it since. -/
theorem assigned_of_held (h : Held socket new calls) :
    ∃ before assign later, calls = before ++ assign :: later ∧
      Assigns socket (new.after before) assign ∧ ∀ call ∈ later, ¬ call.Ends socket := by
  obtain ⟨before, assign, later, rfl, ⟨-, hassigns⟩, hkeeps⟩ := h
  refine ⟨before, assign, later, rfl, hassigns, fun call hcall => ?_⟩
  obtain ⟨seen, rest, rfl⟩ := List.append_of_mem hcall
  exact hkeeps seen call rest rfl

/-- A call has connected the socket, and none has taken it out of use since. -/
def ConnectedInUse (socket : UInt8) : List Call → Prop :=
  Since (fun _ call => call.Connects socket) fun _ call => ¬ call.Leaves socket

/-- A socket that has been assigned and has not ended is handed out while connected and in use. -/
theorem socket_of_assigned (h : Keeper.ofConfig config = .ok new) {before later : List Call}
    {assign : Call} (hassigns : Assigns socket (new.after before) assign)
    (hlasting : ∀ call ∈ later, ¬ call.Ends socket) :
    (new.after (before ++ assign :: later)).socket = some socket ↔ ConnectedInUse socket later := by
  have hpaired := (paired_of_ofConfig h).after before
  have hfollows := follows_answer hpaired assign
  have hnone : (new.after before).socketId ≠ some socket := by
    rw [hpaired hassigns.phase]
    exact (Option.some_ne_none socket).symm
  have hheld : (new.after (before ++ [assign])).socketId = some socket := by
    rw [after_concat, hfollows.holds]
    exact .inl hassigns
  have hout : (new.after (before ++ [assign])).socket ≠ some socket := by
    rw [after_concat, ne_eq, hfollows.handsOut]
    rintro (⟨hbefore, -⟩ | ⟨hbefore, -⟩)
    · exact hnone hbefore
    · exact hnone (socketId_of_socket hbefore)
  have huse := (after_of_lasting ((paired_of_ofConfig h).after (before ++ [assign])) hheld
    hlasting).2
  rw [show before ++ assign :: later = before ++ [assign] ++ later by simp, after_append, huse,
    InUse]
  exact ⟨fun hcases => hcases.resolve_left fun hbefore => hout hbefore.1, .inr⟩

/-- A lost network and the socket have nothing to do with each other. In every run of a keeper,
the network is down while a socket is handed out exactly when the latest frame that tells of
the network, if there is any, does not say that the modem is registered, and the modem assigned
the socket, no frame has ended it since, and it has been connected and not been taken out of
use since. A frame that says that the network is lost leaves all but the network as it is. -/
theorem lost_network_keeps_socket (h : Keeper.ofConfig config = .ok new) :
    ((new.after calls).networkUp = false ∧ (new.after calls).socket = some socket ↔
      ¬ SaidRegistered calls ∧
        ∃ before assign later, calls = before ++ assign :: later ∧
          Assigns socket (new.after before) assign ∧ (∀ call ∈ later, ¬ call.Ends socket) ∧
          ConnectedInUse socket later) ∧
    ∀ lost : Call, lost.registered? = some false →
      new.after (calls ++ [lost]) = { new.after calls with networkUp := false } := by
  have hnetwork := networkUp_after_iff (fields_of_ofConfig h).1 calls
  refine ⟨?_, fun lost hlost => by rw [after_concat, answer_of_lost hlost]⟩
  rw [← hnetwork, Bool.not_eq_true]
  refine and_congr_right fun _ => ?_
  constructor
  · intro hsocket
    obtain ⟨before, assign, later, rfl, hassigns, hlasting⟩ :=
      assigned_of_held ((socketId_eq_some_iff_held h).mp (socketId_of_socket hsocket))
    exact ⟨before, assign, later, rfl, hassigns, hlasting,
      (socket_of_assigned h hassigns hlasting).mp hsocket⟩
  · rintro ⟨before, assign, later, rfl, hassigns, hlasting, huse⟩
    exact (socket_of_assigned h hassigns hlasting).mpr huse

/-- A frame that tells of an event. -/
def tells (code : ModemStatusCode) : Call := .incoming (.ofHeader .modemStatus (code, ()) [])

/-- Socket 5 is connected, and then the modem is not registered any more. -/
theorem lost_network_keeps_socket_connecting :
    Keeper.ofConfig { host := "broker.local", port := 1883, protocol := .tcp } =
        .ok brokerKeeper ∧
      (tells .unregistered).registered? = some false ∧
      brokerKeeper.after (connecting ++ [tells .unregistered]) =
        { brokerKeeper.after connecting with networkUp := false } ∧
      (brokerKeeper.after (connecting ++ [tells .unregistered])).socket = some 5 ∧
      ¬ SaidRegistered (connecting ++ [tells .unregistered]) := by
  have hlost : (tells .unregistered).registered? = some false := by decide +kernel
  have hboth : (brokerKeeper.after (connecting ++ [tells .unregistered])).networkUp = false ∧
      (brokerKeeper.after (connecting ++ [tells .unregistered])).socket = some 5 := by
    decide +kernel
  have hafter := (@lost_network_keeps_socket _ _ connecting 5 ofConfig_broker).2 _ hlost
  exact ⟨ofConfig_broker, hlost, hafter, hboth.2,
    ((lost_network_keeps_socket ofConfig_broker).1.mp hboth).1⟩

/-- Socket 5 is connected, and is handed out still when the modem says that it has started
anew, was reset by its watchdog, or is not registered any more. The keeper then does nothing
to have it closed. -/
theorem socket_outlives_network :
    (brokerKeeper.after connecting).socket = some 5 ∧
      ((brokerKeeper.after (connecting ++ [tells .powerUp])).networkUp = false ∧
        (brokerKeeper.after (connecting ++ [tells .powerUp])).socket = some 5) ∧
      ((brokerKeeper.after (connecting ++ [tells .watchdogReset])).networkUp = false ∧
        (brokerKeeper.after (connecting ++ [tells .watchdogReset])).socket = some 5) ∧
      ((brokerKeeper.after (connecting ++ [tells .unregistered])).networkUp = false ∧
        (brokerKeeper.after (connecting ++ [tells .unregistered])).socket = some 5) ∧
      (brokerKeeper.after (connecting ++ [tells .unregistered])).made (.turn 100000 1000) =
        none := by
  decide +kernel

end CellStation.Keeper
