import CellStation.Proofs.HandedOutSockets
import CellStation.Proofs.MonitorRuns
import CellStation.Proofs.QueryFacts

/-!
# The state of the network

The monitor and the keeper each read the state of the network off the frames : the monitor an
association (`Inbound.association?`), the keeper whether the modem is registered
(`Inbound.registered?`). Where a frame tells of an association the two agree on what it says.
They differ on the events that tell of none. The monitor leaves the association as it is, the
keeper takes the network for down (`Keeper.networkUp_iff_connected`), although the modem is
registered as before (`Keeper.down_while_connected`).
-/

namespace CellStation

namespace Inbound

/-- The association that a frame tells of : one that an event names, or the answer to a poll. -/
def association? : Inbound → Option AssociationStatus
  | .event code => Monitor.associationAfter? code
  | .reply id command status [association] =>
    if id = Monitor.pollId .association ∧ command = Query.association.command ∧ status = .ok then
      some ⟨association⟩
    else none
  | _ => none

/-- The frame is an event that tells of no association. -/
def IsOtherEvent : Inbound → Prop
  | .event code => Monitor.associationAfter? code = none
  | _ => False

/-- If the frame answers the association query, it carries the frame id of its polls. -/
def AnswersPoll : Inbound → Prop
  | .reply id command _ _ =>
    command = Query.association.command → id = Monitor.pollId .association
  | _ => True

instance : DecidablePred AnswersPoll
  | .reply id command _ _ =>
    inferInstanceAs
      (Decidable (command = Query.association.command → id = Monitor.pollId .association))
  | .event _ | .created _ _ _ | .connecting _ _ | .closed _ _ | .socketState _ _
  | .delivery _ _ | .data _ _ | .other => inferInstanceAs (Decidable True)

variable {frame : Inbound}

theorem association?_reply_eq_none {id : UInt8} {command : Command} {status : AtStatus}
    (h : ¬ (id = Monitor.pollId .association ∧ command = Query.association.command ∧ status = .ok))
    (value : List UInt8) : (reply id command status value).association? = none := by
  rcases value with _ | ⟨code, _ | ⟨next, rest⟩⟩
  · rfl
  · exact if_neg h
  · rfl

theorem associationAfter?_eq_connected {code : ModemStatusCode} {association : AssociationStatus}
    (h : Monitor.associationAfter? code = some association) :
    association = .connected ↔ code = .registered := by
  unfold Monitor.associationAfter? at h
  split at h
  · rename_i hstart
    obtain rfl := Option.some.inj h
    rcases hstart with rfl | rfl <;> decide
  split at h
  · rename_i hregistered
    obtain rfl := Option.some.inj h
    exact iff_of_true rfl hregistered
  split at h
  · rename_i hunregistered
    obtain rfl := Option.some.inj h
    subst hunregistered
    decide
  split at h
  · rename_i hupdate
    obtain rfl := Option.some.inj h
    subst hupdate
    decide
  · cases h

theorem IsOtherEvent.association?_eq_none (h : frame.IsOtherEvent) : frame.association? = none := by
  cases frame with
  | event code => exact h
  | _ => exact h.elim

/-- A frame that tells of an association says so to the keeper too. -/
theorem registered?_of_association {association : AssociationStatus}
    (h : frame.association? = some association) :
    frame.registered? = some (decide (association = .connected)) := by
  unfold association? at h
  split at h
  · simp only [registered?, associationAfter?_eq_connected h]
  · rename_i code
    split at h
    · rename_i hanswer
      obtain rfl := Option.some.inj h
      have hcode : (⟨code⟩ : AssociationStatus) = AssociationStatus.connected ↔ code = 0 :=
        ⟨congrArg Code.raw, congrArg Code.mk⟩
      simp only [registered?, if_pos hanswer.2, hcode]
    · cases h
  · cases h

/-- Of the frames that tell of no association, the keeper reads the events only. -/
theorem registered?_of_none (hanswer : frame.AnswersPoll) (h : frame.association? = none) :
    (frame.IsOtherEvent ∧ frame.registered? = some false) ∨
      (¬ frame.IsOtherEvent ∧ frame.registered? = none) := by
  cases frame with
  | event code =>
    refine .inl ⟨h, ?_⟩
    have hne : code ≠ .registered := by
      rintro rfl
      cases h
    simp [registered?, hne]
  | reply id command status value =>
    refine .inr ⟨fun hother => hother, ?_⟩
    rcases value with _ | ⟨code, _ | ⟨next, rest⟩⟩
    · rfl
    · refine if_neg fun hreply => ?_
      rw [association?, if_pos ⟨hanswer hreply.1, hreply⟩] at h
      cases h
    · rfl
  | _ => exact .inr ⟨fun hother => hother, rfl⟩

end Inbound

/-! ## The monitor -/

namespace Monitor

variable {monitor : Monitor}

/-- The association is polled as long as it has been, and it is what the frames tell. -/
theorem association_onIncoming (h : (monitor.slot .association).enabled = true) (now : Millis)
    (frame : Frame) :
    ((monitor.onIncoming now frame).slot .association).enabled = true ∧
      (monitor.onIncoming now frame).status.association =
        frame.inbound.association?.getD monitor.status.association := by
  cases hin : frame.inbound with
  | reply id command status value =>
    have hreads := monitor.reads_onReply now id command status value
    simp only [onIncoming, hin]
    generalize monitor.onReply now id command status value = next at hreads ⊢
    cases hreads with
    | ignored hignored =>
      rw [Inbound.association?_reply_eq_none fun hanswer =>
        hignored .association h hanswer.1 hanswer.2.1 hanswer.2.2]
      exact ⟨h, rfl⟩
    | taken query henabled hid hcommand hstatus =>
      by_cases hquery : query = .association
      · subst hquery
        rw [slot_setSlot]
        rcases value with _ | ⟨code, _ | ⟨next, rest⟩⟩
        · exact ⟨rfl, rfl⟩
        · rw [Inbound.association?, if_pos ⟨hid, hcommand, hstatus⟩]
          exact ⟨rfl, rfl⟩
        · exact ⟨rfl, rfl⟩
      · rw [slot_setSlot_of_ne _ _ hquery, Inbound.association?_reply_eq_none fun hanswer =>
          hquery (pollId_injective (hid.symm.trans hanswer.1))]
        exact ⟨h, Query.fact_apply_of_ne hquery monitor.status value now⟩
  | event code =>
    simp only [onIncoming, hin, enabled_onEvent]
    exact ⟨h, rfl⟩
  | _ =>
    simp only [onIncoming, hin]
    exact ⟨h, rfl⟩

end Monitor

/-! ## Both -/

namespace Keeper

/-- An event that tells of no association has come, and no frame since that tells of one. -/
def Misled : List (Millis × Frame) → Prop :=
  Since (fun _ heard => heard.2.inbound.IsOtherEvent)
    fun _ heard => heard.2.inbound.association? = none

theorem misled_concat {frames : List (Millis × Frame)} {heard : Millis × Frame} :
    Misled (frames ++ [heard]) ↔ heard.2.inbound.IsOtherEvent ∨
      (Misled frames ∧ heard.2.inbound.association? = none) :=
  since_concat

/-- What a keeper and a monitor make of the same frames. -/
structure Hears (frames : List (Millis × Frame)) (keeper : Keeper) (monitor : Monitor) : Prop where
  polled : (monitor.slot .association).enabled = true
  agree : keeper.networkUp = true ↔
    monitor.status.association = .connected ∧ ¬ Misled frames

theorem Hears.concat {frames : List (Millis × Frame)} {keeper : Keeper} {monitor : Monitor}
    (h : Hears frames keeper monitor) {now : Millis} {frame : Frame}
    (hanswer : frame.inbound.AnswersPoll) :
    Hears (frames ++ [(now, frame)]) (keeper.onIncoming frame) (monitor.onIncoming now frame) := by
  obtain ⟨hpolled, hassociation⟩ := Monitor.association_onIncoming h.polled now frame
  have hup : (keeper.onIncoming frame).networkUp =
      frame.inbound.registered?.getD keeper.networkUp := networkUp_answer keeper (.incoming frame)
  refine ⟨hpolled, ?_⟩
  rw [hup, hassociation, misled_concat]
  cases htold : frame.inbound.association? with
  | some association =>
    have hevent : ¬ frame.inbound.IsOtherEvent := fun hevent => by
      rw [hevent.association?_eq_none] at htold
      cases htold
    simp [Inbound.registered?_of_association htold, hevent]
  | none =>
    rcases Inbound.registered?_of_none hanswer htold with ⟨hevent, hdown⟩ | ⟨hevent, hkept⟩
    · simp [hdown, hevent]
    · simpa [hkept, hevent] using h.agree

theorem hears {socketConfig : SocketConfig} {monitorConfig : MonitorConfig}
    {keeper : Keeper} {monitor : Monitor} {frames : List (Millis × Frame)}
    (hkeeper : Keeper.ofConfig socketConfig = .ok keeper)
    (hmonitor : Monitor.ofConfig monitorConfig = .ok monitor)
    (hanswers : ∀ heard ∈ frames, heard.2.inbound.AnswersPoll) :
    Hears frames (keeper.after (frames.map fun heard => .incoming heard.2))
      (monitor.after (frames.map fun heard => .incoming heard.1 heard.2)) := by
  induction frames using List.reverseRecOn with
  | nil =>
    refine ⟨(Monitor.ofConfig_eq_ok hmonitor).1 .association, ?_⟩
    have hdown : ¬ keeper.networkUp = true := by simp [(fields_of_ofConfig hkeeper).1]
    have hstart : monitor.status.association ≠ .connected := by
      rw [Monitor.status_of_ofConfig hmonitor]
      decide
    exact iff_of_false hdown fun hconnected => hstart hconnected.1
  | append_singleton frames heard ih =>
    simp only [List.forall_mem_append, List.forall_mem_singleton] at hanswers
    simp only [List.map_append, List.map_cons, List.map_nil, after_concat, Monitor.after_concat]
    exact (ih hanswers.1).concat hanswers.2

/-- When the two agree. A new keeper and a new monitor are given the same frames, in which
answers to the association query carry the frame id of its polls. Then the keeper takes the
network for up exactly when the monitor shows the modem as connected and no event that tells
of no association has come since the frame that told of it. -/
theorem networkUp_iff_connected {socketConfig : SocketConfig} {monitorConfig : MonitorConfig}
    {keeper : Keeper} {monitor : Monitor} {frames : List (Millis × Frame)}
    (hkeeper : Keeper.ofConfig socketConfig = .ok keeper)
    (hmonitor : Monitor.ofConfig monitorConfig = .ok monitor)
    (hanswers : ∀ heard ∈ frames, heard.2.inbound.AnswersPoll) :
    (keeper.after (frames.map fun heard => .incoming heard.2)).networkUp = true ↔
      (monitor.after (frames.map fun heard => .incoming heard.1 heard.2)).status.association =
        .connected ∧ ¬ Misled frames :=
  (hears hkeeper hmonitor hanswers).agree

/-- A frame that tells of an event. -/
def eventFrame (code : ModemStatusCode) : Frame := .ofHeader .modemStatus (code, ()) []

/-- A frame that answers a poll of the association. -/
def associationFrame (association : AssociationStatus) : Frame :=
  .ofHeader .atCommandResponse
    (Monitor.pollId .association, Query.association.command, AtStatus.ok, ()) [association.raw]

/-- The modem is registered, and starts an update; then a poll is answered. -/
def polledAgain : List (Millis × Frame) :=
  [(1000, eventFrame .registered), (1010, eventFrame ⟨0x38⟩), (1020, associationFrame .connected)]

/-- The keeper takes the network for up again once the poll has been answered. -/
theorem networkUp_iff_connected_polledAgain :
    (brokerKeeper.after (polledAgain.map fun heard => .incoming heard.2)).networkUp = true ∧
      ¬ Misled polledAgain := by
  have hmonitor : Monitor.ofConfig {} = .ok (.fresh 10000) := by decide +kernel
  have hup : (brokerKeeper.after (polledAgain.map fun heard => .incoming heard.2)).networkUp =
      true := by decide +kernel
  have hanswers : ∀ heard ∈ polledAgain, heard.2.inbound.AnswersPoll := by decide +kernel
  exact ⟨hup, ((networkUp_iff_connected ofConfig_broker hmonitor hanswers).mp hup).2⟩

/-- The modem is registered, and a manager connects to it. -/
def managed : List (Millis × Frame) :=
  [(1000, eventFrame .registered), (1010, eventFrame ⟨0x0E⟩)]

/-- The keeper takes the network for down on an event that tells nothing of it, and the monitor
shows the modem as connected. -/
theorem down_while_connected :
    Keeper.ofConfig { host := "broker.local", port := 1883, protocol := .tcp } =
        .ok brokerKeeper ∧
      Monitor.ofConfig {} = .ok (.fresh 10000) ∧
      (∀ heard ∈ managed, heard.2.inbound.AnswersPoll) ∧
      (brokerKeeper.after (managed.map fun heard => .incoming heard.2)).networkUp = false ∧
      ((Monitor.fresh 10000).after
        (managed.map fun heard => .incoming heard.1 heard.2)).status.association = .connected := by
  exact ⟨ofConfig_broker, by decide +kernel, by decide +kernel, by decide +kernel,
    by decide +kernel⟩

end Keeper

end CellStation
