import CellStation.Proofs.ConfigChecks
import CellStation.Proofs.DueSlots
import CellStation.Proofs.LostNetwork

/-!
# Deadlines without room

A slot that is polled is put off to the reading of the clock plus the poll interval, and a create
request puts the next one off to the reading plus the retry interval. Both sums have to be words
of 64 bits, and no check of a configuration bounds the intervals. The program stops at a sum that
has no room (`Monitor.stops_iff`, `Keeper.stops_iff`). While the clock stands below `2 ^ 63` this
can happen with an interval of more than `2 ^ 63` milliseconds, and with no other.

Where the program goes on, a create request is never due again at the reading of the last one. A
slot that has just been polled is, exactly if the poll interval is shorter than a millisecond, of
which the monitor keeps nothing (`Station.stops_or_due_again_iff`).
-/

namespace CellStation

/-! ## Sums without room -/

namespace Millis

variable {now interval : Millis}

/-- The last reading below `2 ^ 63`. -/
def lastEarly : Millis := .ofNat (2 ^ 63 - 1)

/-- Before `2 ^ 63` a sum has no room only with an interval longer than that. -/
theorem lt_of_no_room (hnow : now.toNat < 2 ^ 63)
    (hsum : UInt64.size ≤ now.toNat + interval.toNat) : 2 ^ 63 < interval.toNat := by
  have hsize : UInt64.size = 2 ^ 64 := rfl
  omega

/-- With such an interval the sum has no room at the last of these readings. -/
theorem no_room_of_lt (hlong : 2 ^ 63 < interval.toNat) :
    lastEarly.toNat < 2 ^ 63 ∧ UInt64.size ≤ lastEarly.toNat + interval.toNat := by
  have hsize : UInt64.size = 2 ^ 64 := rfl
  have hlast : lastEarly.toNat = 2 ^ 63 - 1 := by decide
  omega

end Millis

/-! ## Polls -/

namespace Monitor

variable {monitor new : Monitor} {config : MonitorConfig} {now : Millis} {space : Nat}
  {query : Query}

/-- The program stops in a turn of the monitor. -/
def Stops (monitor : Monitor) (now : Millis) (space : Nat) : Prop :=
  ∃ stop, monitor.nextRequest now space = .error stop

/-- The turn is one to poll in : there is room, no value waits to be written, and a slot is due. -/
structure PollsNext (monitor : Monitor) (now : Millis) (space : Nat) : Prop where
  room : 9 ≤ space
  idle : ∀ setting : Setting, setting.waiting monitor = none
  due : ∃ query, monitor.mostOverdue? now = some query

/-- A slot is polled, and is due again at the same reading. -/
def PollsAgain (monitor : Monitor) (now : Millis) : Prop :=
  ∃ space query, monitor.made (.turn now space) = some (pollOf query) ∧
    (monitor.answer (.turn now space)).isDue now query = true

/-- The program stops in a turn to poll in, if the slot could not be due again. -/
theorem stops_iff :
    monitor.Stops now space ↔
      monitor.PollsNext now space ∧ UInt64.size ≤ now.toNat + monitor.pollInterval.toNat := by
  constructor
  · rintro ⟨stop, hstop⟩
    obtain ⟨hroom, hcarrier, hapn, hdue, hsum⟩ := nextRequest_eq_error_iff.mp hstop
    refine ⟨⟨hroom, fun setting => ?_, hdue⟩, hsum⟩
    cases setting <;> simp [Setting.waiting, hcarrier, hapn]
  · rintro ⟨⟨hroom, hidle, hdue⟩, hsum⟩
    have hcarrier := Option.map_eq_none_iff.mp (hidle .carrierProfile)
    have hapn := Option.map_eq_none_iff.mp (hidle .apn)
    exact ⟨⟨⟩, nextRequest_eq_error_iff.mpr ⟨hroom, hcarrier, hapn, hdue, hsum⟩⟩

/-- A turn to poll in polls a slot, if the slot can be due again. -/
theorem PollsNext.exists_poll (h : monitor.PollsNext now space)
    (hsum : now.toNat + monitor.pollInterval.toNat < UInt64.size) :
    ∃ query, monitor.made (.turn now space) = some (pollOf query) := by
  obtain ⟨query, hquery⟩ := h.due
  exact ⟨query, by rw [made_of_idle h.idle hsum h.room, hquery, Option.map_some]⟩

/-- A slot that is polled is due again at the same reading if it is not put off at all. -/
theorem isDue_of_poll_iff (hpoll : monitor.made (.turn now space) = some (pollOf query)) :
    (monitor.answer (.turn now space)).isDue now query = true ↔ monitor.pollInterval.toNat = 0 := by
  obtain ⟨hoverdue, nextDue, hsum, hanswer⟩ := turn_of_poll hpoll
  have henabled := (isDue_iff.mp (mostOverdue?_eq_some hoverdue).1).1
  rw [hanswer, isDue_iff, slot_setSlot, UInt64.le_iff_toNat_le]
  constructor
  · rintro ⟨-, hle⟩
    have hle : nextDue.toNat ≤ now.toNat := hle
    omega
  · intro hzero
    exact ⟨henabled, by show nextDue.toNat ≤ now.toNat; omega⟩

/-- A slot that is due is due still when one is to be read back at once. -/
theorem isDue_forcePoll {other : Query} (h : monitor.isDue now other = true) :
    (monitor.forcePoll query).isDue now other = true := by
  rw [isDue_iff] at h ⊢
  by_cases hother : query = other
  · subst hother
    rw [forcePoll, slot_setSlot]
    exact ⟨rfl, UInt64.zero_le⟩
  · rwa [forcePoll, slot_setSlot_of_ne _ _ hother]

/-- With every slot due and nothing to write, the next turn is one to poll in. -/
theorem pollsNext_of_idle (hdue : ∀ query, monitor.isDue now query = true)
    (hcarrier : monitor.pendingCarrier = none) (hapn : monitor.pendingApn = none) :
    monitor.PollsNext now 100 := by
  have hsome : monitor.mostOverdue? now ≠ none := by
    rw [Ne, mostOverdue?_eq_none_iff]
    exact List.ne_nil_of_mem (List.mem_filter.mpr ⟨Query.mem_all .association, hdue .association⟩)
  refine ⟨by decide, fun setting => ?_, Option.ne_none_iff_exists'.mp hsome⟩
  cases setting <;> simp [Setting.waiting, hcarrier, hapn]

/-- With every slot due and no carrier profile to write, the next turn is one to poll in, or the
one after it, once the access point name is written. -/
theorem pollsNext_of_carrier_written (hdue : ∀ query, monitor.isDue now query = true)
    (hcarrier : monitor.pendingCarrier = none)
    (hfits : ∀ apn ∈ monitor.pendingApn, Text.size apn ≤ maxApnBytes) :
    ∃ calls, (∀ call ∈ calls, call = .turn now 100) ∧ (monitor.after calls).PollsNext now 100 := by
  cases hapn : monitor.pendingApn with
  | none => exact ⟨[], by simp, pollsNext_of_idle hdue hcarrier hapn⟩
  | some apn =>
    have hone : ¬ 100 < Layout.atCommand.wireSizeOf 1 := by decide
    have hroom : ¬ 100 < Layout.atCommand.wireSizeOf (Text.size apn) := by
      have hsize := hfits apn hapn
      simp only [maxApnBytes, Layout.wireSizeOf, Layout.headerSize, frameOverhead] at hsize ⊢
      omega
    have hwritten : monitor.answer (.turn now 100) =
        { monitor with pendingApn := none }.forcePoll .requestedApn := by
      simp only [answer, takeTurn, nextRequest, if_neg hone, hcarrier, hapn, if_neg hroom]
    have hnext : ∀ query, (monitor.answer (.turn now 100)).isDue now query = true := by
      intro query
      have hstill : { monitor with pendingApn := none }.isDue now query = true := hdue query
      rw [hwritten]
      exact isDue_forcePoll hstill
    have hpolls := pollsNext_of_idle hnext (by rw [hwritten]; exact hcarrier)
      (by rw [hwritten]; rfl)
    exact ⟨[.turn now 100], by simp, hpolls⟩

/-- The monitor of a configuration comes to a turn to poll in at any reading. -/
theorem exists_pollsNext (h : ofConfig config = .ok new) (now : Millis) :
    ∃ calls, (∀ call ∈ calls, call = .turn now 100) ∧ (new.after calls).PollsNext now 100 := by
  obtain ⟨henabled, -, hapn, hsizes⟩ := ofConfig_eq_ok h
  have hdue : ∀ query, new.isDue now query = true := by
    intro query
    rw [isDue_iff, UInt64.le_iff_toNat_le, nextDue_of_ofConfig h]
    exact ⟨henabled query, Nat.zero_le _⟩
  have hfits : ∀ apn ∈ new.pendingApn, Text.size apn ≤ maxApnBytes := by
    intro apn hmem
    have hsize := hsizes apn (hapn ▸ hmem)
    simp only [apnFits, Bool.and_eq_true, decide_eq_true_eq] at hsize
    exact hsize.2
  cases hcarrier : new.pendingCarrier with
  | none => exact pollsNext_of_carrier_written hdue hcarrier hfits
  | some profile =>
    have hone : ¬ 100 < Layout.atCommand.wireSizeOf 1 := by decide
    have hwritten : new.answer (.turn now 100) =
        { new with pendingCarrier := none }.forcePoll .carrierProfile := by
      simp only [answer, takeTurn, nextRequest, if_neg hone, hcarrier]
    have hnext : ∀ query, (new.answer (.turn now 100)).isDue now query = true := by
      intro query
      have hstill : { new with pendingCarrier := none }.isDue now query = true := hdue query
      rw [hwritten]
      exact isDue_forcePoll hstill
    obtain ⟨calls, hcalls, hpolls⟩ := pollsNext_of_carrier_written hnext
      (by rw [hwritten]; rfl) (by rw [hwritten]; exact hfits)
    exact ⟨.turn now 100 :: calls, by simpa using hcalls, hpolls⟩

/-- Every reading of the clock in the calls is below `2 ^ 63`. -/
def ReadsBelow (calls : List Call) : Prop :=
  ∀ call ∈ calls, ∀ reading ∈ call.reading?, reading.toNat < 2 ^ 63

theorem readsBelow_of_turns {calls : List Call} (h : ∀ call ∈ calls, call = .turn now 100)
    (hnow : now.toNat < 2 ^ 63) : ReadsBelow calls := by
  intro call hcall reading hreading
  rw [h call hcall] at hreading
  obtain rfl := Option.some.inj hreading
  exact hnow

/-- The interval of a run is the configured one. -/
theorem pollInterval_after_ofConfig (h : ofConfig config = .ok new) (calls : List Call) :
    (new.after calls).pollInterval = config.pollInterval.clampedMillis :=
  (pollInterval_after new calls).trans (pollInterval_of_ofConfig h)

/-- The program stops in some run with readings below `2 ^ 63`, if the interval is longer than
`2 ^ 63` milliseconds. -/
theorem exists_stops_iff (h : ofConfig config = .ok new) :
    (∃ calls now space, ReadsBelow calls ∧ now.toNat < 2 ^ 63 ∧
        (new.after calls).Stops now space) ↔
      2 ^ 63 < config.pollInterval.clampedMillis.toNat := by
  constructor
  · rintro ⟨calls, now, space, -, hnow, hstops⟩
    obtain ⟨-, hsum⟩ := stops_iff.mp hstops
    rw [pollInterval_after_ofConfig h] at hsum
    exact Millis.lt_of_no_room hnow hsum
  · intro hlong
    obtain ⟨hearly, hsum⟩ := Millis.no_room_of_lt hlong
    obtain ⟨calls, hcalls, hpolls⟩ := exists_pollsNext h .lastEarly
    rw [← pollInterval_after_ofConfig h calls] at hsum
    exact ⟨calls, _, 100, readsBelow_of_turns hcalls hearly, hearly,
      stops_iff.mpr ⟨hpolls, hsum⟩⟩

/-- In some run with readings below `2 ^ 63` a slot that is polled is due again at the same
reading, if nothing is kept of the interval. -/
theorem exists_pollsAgain_iff (h : ofConfig config = .ok new) :
    (∃ calls now, ReadsBelow calls ∧ now.toNat < 2 ^ 63 ∧ (new.after calls).PollsAgain now) ↔
      config.pollInterval.clampedMillis.toNat = 0 := by
  constructor
  · rintro ⟨calls, now, -, -, space, query, hpoll, hdue⟩
    rw [← pollInterval_after_ofConfig h calls]
    exact (isDue_of_poll_iff hpoll).mp hdue
  · intro hzero
    obtain ⟨calls, hcalls, hpolls⟩ := exists_pollsNext h 0
    have hkept := congrArg UInt64.toNat (pollInterval_after_ofConfig h calls)
    obtain ⟨query, hpoll⟩ := hpolls.exists_poll (by rw [hkept, hzero]; decide)
    exact ⟨calls, 0, readsBelow_of_turns hcalls (by decide), by decide, 100, query, hpoll,
      (isDue_of_poll_iff hpoll).mpr (hkept.trans hzero)⟩

end Monitor

/-! ## Create requests -/

namespace Keeper

variable {keeper new : Keeper} {config : SocketConfig} {now : Millis} {space : Nat}

/-- The reading of the clock at a call. -/
def Call.reading? : Call → Option Millis
  | .turn now _ => some now
  | _ => none

/-- Every reading of the clock in the calls is below `2 ^ 63`. -/
def ReadsBelow (calls : List Call) : Prop :=
  ∀ call ∈ calls, ∀ reading ∈ call.reading?, reading.toNat < 2 ^ 63

/-- The program stops in a turn of the keeper. -/
def Stops (keeper : Keeper) (now : Millis) (space : Nat) : Prop :=
  ∃ stop, keeper.nextRequest now space = .error stop

/-- The turn is one to ask for a socket in : none is held or waited for, the network is up, there
is room, and the last attempt is long enough ago. -/
structure CreatesNext (keeper : Keeper) (now : Millis) (space : Nat) : Prop where
  phase : keeper.phase = .ready
  socketId : keeper.socketId = none
  networkUp : keeper.networkUp = true
  room : 7 ≤ space
  due : keeper.nextRetry < now

/-- The program stops in a turn to ask for a socket in, if no later attempt could be made. -/
theorem stops_iff :
    keeper.Stops now space ↔
      keeper.CreatesNext now space ∧ UInt64.size ≤ now.toNat + keeper.retryInterval.toNat := by
  constructor
  · rintro ⟨stop, hstop⟩
    obtain ⟨hphase, hsocket, hup, hroom, hdue, hsum⟩ := nextRequest_eq_error_iff.mp hstop
    exact ⟨⟨hphase, hsocket, hup, hroom, hdue⟩, hsum⟩
  · rintro ⟨⟨hphase, hsocket, hup, hroom, hdue⟩, hsum⟩
    exact ⟨⟨⟩, nextRequest_eq_error_iff.mpr ⟨hphase, hsocket, hup, hroom, hdue, hsum⟩⟩

/-- No create request may be made at the reading of the last one. -/
theorem nextRetry_of_creates (h : keeper.Creates (.turn now space)) :
    ¬ (keeper.answer (.turn now space)).nextRetry < now := by
  obtain ⟨id, protocol, hmade⟩ := h
  have hcreated : keeper.createdAt? (.turn now space) = some now := by
    simp only [createdAt?, hmade]
  obtain ⟨-, ⟨hnone, -⟩ | ⟨made, hsome, -, hnext⟩⟩ := keeper.nextRetry_answer (.turn now space)
  · rw [hcreated] at hnone
    cases hnone
  · obtain rfl := Option.some.inj (hcreated.symm.trans hsome)
    rw [UInt64.lt_iff_toNat_lt, hnext]
    omega

/-- The interval of a run is the configured one. -/
theorem retryInterval_after_ofConfig (h : ofConfig config = .ok new) (calls : List Call) :
    (new.after calls).retryInterval = config.retryInterval.lowMillis :=
  calls.foldlRecOn (motive := fun reached => reached.retryInterval = config.retryInterval.lowMillis)
    answer (fields_of_ofConfig h).2.2
    fun reached hreached call _ => (reached.nextRetry_answer call).1.trans hreached

/-- Once the network is up a new keeper comes to ask for a socket at any reading but zero. -/
theorem createsNext_of_registered (h : ofConfig config = .ok new) (hnow : 0 < now) :
    (new.after [tells .registered]).CreatesNext now 7 := by
  have hanswer : new.after [tells .registered] = { new with networkUp := true } := rfl
  obtain ⟨hphase, hsocket⟩ := ofConfig_eq_ok h
  obtain ⟨-, hretry, -⟩ := fields_of_ofConfig h
  rw [hanswer]
  exact ⟨hphase, hsocket, rfl, Nat.le_refl 7, hretry ▸ hnow⟩

/-- The program stops in some run with readings below `2 ^ 63`, if the interval is longer than
`2 ^ 63` milliseconds. -/
theorem exists_stops_iff (h : ofConfig config = .ok new) :
    (∃ calls now space, ReadsBelow calls ∧ now.toNat < 2 ^ 63 ∧
        (new.after calls).Stops now space) ↔
      2 ^ 63 < config.retryInterval.lowMillis.toNat := by
  constructor
  · rintro ⟨calls, now, space, -, hnow, hstops⟩
    obtain ⟨-, hsum⟩ := stops_iff.mp hstops
    rw [retryInterval_after_ofConfig h] at hsum
    exact Millis.lt_of_no_room hnow hsum
  · intro hlong
    obtain ⟨hearly, hsum⟩ := Millis.no_room_of_lt hlong
    have hcreates := createsNext_of_registered h (show 0 < Millis.lastEarly by decide)
    rw [← retryInterval_after_ofConfig h [tells .registered]] at hsum
    refine ⟨[tells .registered], _, 7, fun call hcall reading hreading => ?_, hearly,
      stops_iff.mpr ⟨hcreates, hsum⟩⟩
    obtain rfl := List.mem_singleton.mp hcall
    cases hreading

end Keeper

namespace Station

variable {ρ ε δ : Type} {config : Config} {radio : ρ} {display : δ} {station : Station ρ ε δ}

/-- Deadlines have no room exactly with intervals that no check refuses. Take a configuration that
passes the checks and of which a station is built. In any run the program stops in a turn of the
monitor exactly when a slot is to be polled and the reading and the poll interval come to `2 ^ 64`
or more; so while the clock stands below `2 ^ 63` it happens if the interval is longer than
`2 ^ 63` milliseconds, and not otherwise. The same holds of the create requests of the keeper and
its retry interval. A slot that is polled is due again at the same reading exactly if the poll
interval is shorter than a millisecond; no create request is. -/
theorem stops_or_due_again_iff (h : ofConfig config radio display = .ok station) :
    ((∀ calls now space, (station.monitor.after calls).Stops now space ↔
        (station.monitor.after calls).PollsNext now space ∧
          UInt64.size ≤ now.toNat + config.monitor.pollInterval.clampedMillis.toNat) ∧
      ((∃ calls now space, Monitor.ReadsBelow calls ∧ now.toNat < 2 ^ 63 ∧
          (station.monitor.after calls).Stops now space) ↔
        2 ^ 63 < config.monitor.pollInterval.clampedMillis.toNat) ∧
      (∀ calls now space query,
        (station.monitor.after calls).made (.turn now space) = some (Monitor.pollOf query) →
          (((station.monitor.after calls).answer (.turn now space)).isDue now query = true ↔
            config.monitor.pollInterval.clampedMillis.toNat = 0)) ∧
      ((∃ calls now, Monitor.ReadsBelow calls ∧ now.toNat < 2 ^ 63 ∧
          (station.monitor.after calls).PollsAgain now) ↔
        config.monitor.pollInterval.clampedMillis.toNat = 0)) ∧
    ∀ keeper ∈ station.keeper, ∃ socket ∈ config.socket,
      (∀ calls now space, (keeper.after calls).Stops now space ↔
        (keeper.after calls).CreatesNext now space ∧
          UInt64.size ≤ now.toNat + socket.retryInterval.lowMillis.toNat) ∧
      ((∃ calls now space, Keeper.ReadsBelow calls ∧ now.toNat < 2 ^ 63 ∧
          (keeper.after calls).Stops now space) ↔
        2 ^ 63 < socket.retryInterval.lowMillis.toNat) ∧
      ∀ calls now space, (keeper.after calls).Creates (.turn now space) →
        ¬ ((keeper.after calls).answer (.turn now space)).nextRetry < now := by
  obtain ⟨-, hmonitor, hkeeper⟩ := parts_of_ofConfig h
  refine ⟨⟨fun calls now space => ?_, Monitor.exists_stops_iff hmonitor,
    fun calls now space query hpoll => ?_, Monitor.exists_pollsAgain_iff hmonitor⟩,
    fun keeper hkept => ?_⟩
  · rw [← Monitor.pollInterval_after_ofConfig hmonitor calls]
    exact Monitor.stops_iff
  · rw [← Monitor.pollInterval_after_ofConfig hmonitor calls]
    exact Monitor.isDue_of_poll_iff hpoll
  · obtain ⟨socket, hsocket, hmade⟩ := hkeeper keeper hkept
    refine ⟨socket, hsocket, fun calls now space => ?_, Keeper.exists_stops_iff hmade,
      fun _ _ _ hcreates => Keeper.nextRetry_of_creates hcreates⟩
    rw [← Keeper.retryInterval_after_ofConfig hmade calls]
    exact Keeper.stops_iff

/-- Facts are polled and sockets are asked for at these intervals. -/
def withIntervals (poll retry : Duration) : Config where
  monitor := { pollInterval := poll }
  socket := some { host := "broker.local", port := 1883, protocol := .tcp, retryInterval := retry }

/-- The station with a poll interval that is not zero. -/
theorem ofConfig_withIntervals (radio : ρ) (display : δ) {poll : Duration} (hpoll : poll.nanos ≠ 0)
    (retry : Duration) :
    (withIntervals poll retry).validate = .ok () ∧
      ofConfig (ε := ε) (withIntervals poll retry) radio display =
        .ok ⟨"BLUB Station", radio, display, .fresh poll.clampedMillis,
          some { Keeper.brokerKeeper with retryInterval := retry.lowMillis }, none, 0⟩ := by
  have hfault : (withIntervals poll retry).monitor.fault? = none := if_neg hpoll
  have hvalid : (withIntervals poll retry).validate = .ok () := by
    refine Config.validate_eq_ok_iff.mpr ⟨by rfl, hfault, ?_, by rfl, by rfl⟩
    rintro _ ⟨⟩
    rfl
  exact ⟨hvalid, ofConfig_of_sections hvalid (if_neg hpoll) rfl rfl⟩

/-- A poll interval of `2 ^ 63` milliseconds is short enough, and long enough too, and a retry
interval that is one millisecond longer is not. -/
theorem stops_or_due_again_iff_boundary :
    ∃ (station : Station NullRadio OutboxEngine NullDisplay) (keeper : Keeper),
      ofConfig (withIntervals (.ofMillis 0x8000000000000000) (.ofMillis 0x8000000000000001))
          NullRadio.mk NullDisplay.mk = .ok station ∧
        station.keeper = some keeper ∧
        (¬ ∃ calls now space, Monitor.ReadsBelow calls ∧ now.toNat < 2 ^ 63 ∧
          (station.monitor.after calls).Stops now space) ∧
        (¬ ∃ calls now, Monitor.ReadsBelow calls ∧ now.toNat < 2 ^ 63 ∧
          (station.monitor.after calls).PollsAgain now) ∧
        ∃ calls now space, Keeper.ReadsBelow calls ∧ now.toNat < 2 ^ 63 ∧
          (keeper.after calls).Stops now space := by
  have hpoll : (Duration.ofMillis 0x8000000000000000).nanos ≠ 0 := by decide
  obtain ⟨-, hbuilt⟩ := ofConfig_withIntervals (ε := OutboxEngine) NullRadio.mk NullDisplay.mk
    hpoll (.ofMillis 0x8000000000000001)
  obtain ⟨⟨-, hstops, -, hagain⟩, hkeeper⟩ := stops_or_due_again_iff hbuilt
  obtain ⟨socket, hsocket, -, hcreates, -⟩ := hkeeper _ rfl
  obtain rfl := Option.some.inj hsocket
  exact ⟨_, _, hbuilt, rfl, fun h => absurd (hstops.mp h) (by decide),
    fun h => absurd (hagain.mp h) (by decide), hcreates.mpr (by decide)⟩

/-- With intervals of `2 ^ 64 - 1` milliseconds, which the checks accept, the program stops with
the clock at 1000 where the first slot is to be polled, and where a socket is to be asked for. With
a poll interval of half a millisecond, which they accept as well, the slot that is polled at
reading 1000 is due again at this reading. -/
theorem accepted_intervals_stop :
    (withIntervals (.ofMillis 0xFFFFFFFFFFFFFFFF) (.ofMillis 0xFFFFFFFFFFFFFFFF)).validate =
        .ok () ∧
      (∃ (station : Station NullRadio OutboxEngine NullDisplay) (keeper : Keeper),
        ofConfig (withIntervals (.ofMillis 0xFFFFFFFFFFFFFFFF) (.ofMillis 0xFFFFFFFFFFFFFFFF))
            NullRadio.mk NullDisplay.mk = .ok station ∧
          station.keeper = some keeper ∧
          station.monitor.Stops 1000 100 ∧
          (keeper.after [Keeper.tells .registered]).Stops 1000 7) ∧
      (withIntervals ⟨500000, by decide⟩ (.ofMillis 3000)).validate = .ok () ∧
      ∃ station : Station NullRadio OutboxEngine NullDisplay,
        ofConfig (withIntervals ⟨500000, by decide⟩ (.ofMillis 3000)) NullRadio.mk
            NullDisplay.mk = .ok station ∧
          station.monitor.PollsAgain 1000 := by
  have hlong : (Duration.ofMillis 0xFFFFFFFFFFFFFFFF).nanos ≠ 0 := by decide
  have hshort : (⟨500000, by decide⟩ : Duration).nanos ≠ 0 := by decide
  obtain ⟨hvalid, hbuilt⟩ := ofConfig_withIntervals (ε := OutboxEngine) NullRadio.mk NullDisplay.mk
    hlong (.ofMillis 0xFFFFFFFFFFFFFFFF)
  obtain ⟨hvalid', hbuilt'⟩ := ofConfig_withIntervals (ε := OutboxEngine) NullRadio.mk
    NullDisplay.mk hshort (.ofMillis 3000)
  exact ⟨hvalid, ⟨_, _, hbuilt, rfl, ⟨⟨⟩, by decide +kernel⟩, ⟨⟩, by decide +kernel⟩, hvalid', _,
    hbuilt', 100, .carrierProfile, by decide +kernel, by decide +kernel⟩

end Station

end CellStation
