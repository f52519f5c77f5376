import CellStation.Monitor

/-!
# The frame a monitor fills

A monitor is handed a frame to fill, which may hold what another component left in it. In its
turn it takes out the value that waits, and lays out the write of it in the frame. A name for
which there is no room is put back. If no value waits, the poll of the slot that is the most
overdue is laid out. A turn that makes no request leaves the frame as it is. What the frame holds
in the end is the request of `Monitor.nextRequest`, if it makes one (`Monitor.fill_eq`).
-/

namespace CellStation.Monitor

/-- Fill the frame `out` with the write that waits or the poll that is due, if it fits into `space`
bytes on the wire. -/
def fill (monitor : Monitor) (now : Millis) (space : Nat) (out : Frame) :
    Except Overflow (FilledTurn Monitor) :=
  if space < Layout.atCommand.wireSizeOf 1 then .ok ⟨monitor, false, out⟩
  else
    match monitor.pendingCarrier with
    | some profile =>
      let taken := { monitor with pendingCarrier := none }
      .ok ⟨taken.forcePoll .carrierProfile, true,
        (out.reuse .atCommand (writeFrameId, Query.carrierProfile.command, ()) 1).withTail
          .atCommand [profile.raw]⟩
    | none =>
      match monitor.pendingApn with
      | some apn =>
        let taken := { monitor with pendingApn := none }
        if space < Layout.atCommand.wireSizeOf (Text.size apn) then
          .ok ⟨{ taken with pendingApn := some apn }, false, out⟩
        else
          .ok ⟨taken.forcePoll .requestedApn, true,
            (out.reuse .atCommand (writeFrameId, Query.requestedApn.command, ())
              (Text.size apn)).withTail .atCommand (Text.toBytes apn)⟩
      | none =>
        match monitor.mostOverdue? now with
        | none => .ok ⟨monitor, false, out⟩
        | some query => do
          let out := out.reuse .atCommand (pollId query, query.command, ()) 0
          let nextDue ← now.later monitor.pollInterval
          return ⟨monitor.setSlot query { monitor.slot query with nextDue }, true, out⟩

/-- The frame holds the request of the turn, whatever it held before. -/
theorem fill_eq (monitor : Monitor) (now : Millis) (space : Nat) (out : Frame) :
    monitor.fill now space out =
      (monitor.nextRequest now space).map (FilledTurn.ofRequest out) := by
  rcases monitor with ⟨interval, slots, status, carrier, apn⟩
  simp only [fill, nextRequest, Frame.reuse_eq]
  split
  · rfl
  cases carrier with
  | some profile =>
    have hlaid : Frame.withTail .atCommand [profile.raw]
        (.setup .atCommand (writeFrameId, Query.carrierProfile.command, ()) 1) =
          .ofHeader .atCommand (writeFrameId, Query.carrierProfile.command, ()) [profile.raw] :=
      Frame.withTail_setup _ [profile.raw]
    simp only [hlaid]
    rfl
  | none =>
    cases apn with
    | some apn =>
      simp only [← Text.length_toBytes apn, Frame.withTail_setup]
      split <;> rfl
    | none =>
      cases hquery : Monitor.mostOverdue? ⟨interval, slots, status, none, none⟩ now with
      | none => rfl
      | some query => cases now.later interval <;> rfl

end CellStation.Monitor
