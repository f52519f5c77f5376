import CellStation.Monitor
import CellStation.Proofs.QueryFacts
import CellStation.Proofs.TextFields

/-!
# Steps of a monitor

What a monitor can do with a reply is one of two things (`Monitor.Reads`) : it takes the value
for the slot that the frame id names, or leaves everything as it is. What it can do in its turn
is one of four (`Monitor.Turn`) : it rests, writes one of the two values that wait, or polls the
slot that is the most overdue (`Monitor.mostOverdue?_eq_some`). The program stops in a turn that
would poll a slot when the reading at which the slot is due next has no room in a word
(`Monitor.nextRequest_eq_error_iff`).
-/

namespace CellStation

namespace Query

theorem ofIndex?_index (query : Query) : ofIndex? query.index = some query := by
  cases query <;> rfl

theorem index_injective {query other : Query} (h : query.index = other.index) : query = other := by
  have hquery := query.ofIndex?_index
  rw [h, other.ofIndex?_index] at hquery
  exact (Option.some.inj hquery).symm

theorem ofIndex?_eq_some_iff {index : Nat} {query : Query} :
    ofIndex? index = some query ↔ index = query.index := by
  constructor
  · intro h
    have hlt := (List.getElem?_eq_some_iff.mp h).1
    have hnodup : all.Nodup := by decide
    exact (List.getElem?_inj hlt hnodup).mp (h.trans query.ofIndex?_index.symm)
  · rintro rfl
    exact query.ofIndex?_index

end Query

namespace Monitor

/-! ## The poll table -/

@[simp] theorem slot_setSlot (monitor : Monitor) (query : Query) (slot : Slot) :
    (monitor.setSlot query slot).slot query = slot := by
  simp [Monitor.slot, setSlot]

theorem slot_setSlot_of_ne (monitor : Monitor) {query other : Query} (slot : Slot)
    (h : query ≠ other) : (monitor.setSlot query slot).slot other = monitor.slot other := by
  have hindex : (query.index : Nat) ≠ other.index := fun heq =>
    h (Query.index_injective (Fin.ext heq))
  simp [Monitor.slot, setSlot, Vector.getElem_set_ne _ _ hindex]

/-- An event neither settles a slot nor has a settled one polled again. -/
@[simp] theorem enabled_onEvent (monitor : Monitor) (code : ModemStatusCode) (query : Query) :
    ((monitor.onEvent code).slot query).enabled = (monitor.slot query).enabled := by
  simp [Monitor.slot, onEvent]

/-- The frame id of a poll names the slot polled, and no other does. -/
theorem queryOfId?_eq_some_iff {id : UInt8} {query : Query} :
    queryOfId? id = some query ↔ id = pollId query := by
  have hindex := query.index.isLt
  have hid := id.toNat_lt
  have hpoll : (pollId query).toNat = 128 + query.index := by
    simp only [pollId, pollIdBase, UInt8.toNat_add, UInt8.toNat_ofNat', UInt8.reduceToNat]
    omega
  rw [← UInt8.toNat_inj, hpoll, queryOfId?]
  split
  · rename_i hle
    rw [Query.ofIndex?_eq_some_iff, UInt8.toNat_sub_of_le _ _ hle]
    have hbase : (128 : UInt8).toNat ≤ id.toNat := hle
    simp only [pollIdBase, UInt8.reduceToNat] at hbase ⊢
    omega
  · rename_i hlt
    have hbase : ¬ (128 : UInt8).toNat ≤ id.toNat := hlt
    simp only [UInt8.reduceToNat] at hbase
    simp only [reduceCtorEq, false_iff]
    omega

theorem pollId_injective {query other : Query} (h : pollId query = pollId other) :
    query = other := by
  have hquery := queryOfId?_eq_some_iff.mpr h
  rw [queryOfId?_eq_some_iff.mpr rfl] at hquery
  exact Option.some.inj hquery

theorem enabled_fresh (pollInterval : Millis) (query : Query) :
    ((fresh pollInterval).slot query).enabled = true := by
  simp [slot, fresh]

/-- A new monitor polls every slot, and writes what it is configured to write. -/
theorem ofConfig_eq_ok {config : MonitorConfig} {monitor : Monitor}
    (h : ofConfig config = .ok monitor) :
    (∀ query, (monitor.slot query).enabled = true) ∧
      monitor.pendingCarrier = config.carrierProfile.map (⟨·⟩) ∧
      monitor.pendingApn = config.apn ∧ ∀ apn ∈ config.apn, apnFits apn = true := by
  rcases config with ⟨interval, carrier, apn⟩
  cases apn with
  | none =>
    cases carrier <;>
    · simp only [ofConfig] at h
      split at h
      · cases h
      obtain rfl := Except.ok.inj h
      exact ⟨enabled_fresh interval.clampedMillis, rfl, rfl, nofun⟩
  | some apn =>
    cases carrier <;>
    · simp only [ofConfig] at h
      split at h
      · cases h
      split at h
      · rename_i hfits
        have hkept : Text.cut apn maxApnBytes = apn := by
          simp only [apnFits, Bool.and_eq_true, decide_eq_true_eq] at hfits
          exact Text.cut_of_le hfits.2
        obtain rfl := Except.ok.inj h
        refine ⟨enabled_fresh interval.clampedMillis, rfl, congrArg some hkept, ?_⟩
        rintro _ ⟨⟩
        exact hfits
      · cases h

/-! ## The most overdue slot -/

theorem isDue_iff {monitor : Monitor} {now : Millis} {query : Query} :
    monitor.isDue now query = true ↔
      (monitor.slot query).enabled = true ∧ (monitor.slot query).nextDue ≤ now := by
  simp [isDue]

/-- The slot that is polled is due, and no slot that is due is more overdue. -/
theorem mostOverdue?_eq_some {monitor : Monitor} {now : Millis} {query : Query}
    (h : monitor.mostOverdue? now = some query) :
    monitor.isDue now query = true ∧ ∀ other, monitor.isDue now other = true →
      (monitor.slot query).nextDue ≤ (monitor.slot other).nextDue := by
  unfold mostOverdue? at h
  refine ⟨(List.mem_filter.mp (List.minOn?_mem h)).2, fun other hdue => ?_⟩
  have hmem : other ∈ Query.all.filter (monitor.isDue now) :=
    List.mem_filter.mpr ⟨other.mem_all, hdue⟩
  have hle := List.apply_get_minOn?_le_of_mem (f := fun query => (monitor.slot query).nextDue) hmem
  rwa [Option.get_of_eq_some _ h] at hle

/-! ## Replies -/

/-- What a monitor can do with a reply. -/
inductive Reads (now : Millis) (id : UInt8) (command : Command) (status : AtStatus)
    (value : List UInt8) (monitor : Monitor) : Monitor → Prop where
  | ignored (h : ∀ query, (monitor.slot query).enabled = true → id = pollId query →
      command = query.command → status ≠ .ok) :
    Reads now id command status value monitor monitor
  | taken (query : Query) (henabled : (monitor.slot query).enabled = true) (hid : id = pollId query)
    (hcommand : command = query.command) (hstatus : status = .ok) :
    Reads now id command status value monitor
      ({ monitor with status := (query.apply monitor.status value now).1 }.setSlot query
        { monitor.slot query with enabled := !(query.apply monitor.status value now).2 })

theorem reads_onReply (monitor : Monitor) (now : Millis) (id : UInt8) (command : Command)
    (status : AtStatus) (value : List UInt8) :
    Reads now id command status value monitor (monitor.onReply now id command status value) := by
  unfold onReply
  split
  · rename_i hnone
    refine .ignored fun query _ hid => ?_
    rw [queryOfId?_eq_some_iff.mpr hid] at hnone
    cases hnone
  · rename_i query hsome
    have hid := queryOfId?_eq_some_iff.mp hsome
    by_cases h : (monitor.slot query).enabled ∧ command = query.command ∧ status = .ok
    · simp only [if_pos h]
      exact .taken query h.1 hid h.2.1 h.2.2
    · simp only [if_neg h]
      refine .ignored fun other henabled hother hcommand hstatus => h ?_
      obtain rfl : query = other :=
        Option.some.inj (hsome.symm.trans (queryOfId?_eq_some_iff.mpr hother))
      exact ⟨henabled, hcommand, hstatus⟩

/-- A frame leaves the values that wait to be written as they are. -/
theorem pending_onIncoming (monitor : Monitor) (now : Millis) (frame : Frame) :
    (monitor.onIncoming now frame).pendingCarrier = monitor.pendingCarrier ∧
      (monitor.onIncoming now frame).pendingApn = monitor.pendingApn := by
  unfold onIncoming
  split
  · rename_i id command status value _
    have hreads := monitor.reads_onReply now id command status value
    generalize monitor.onReply now id command status value = next at hreads ⊢
    cases hreads <;> exact ⟨rfl, rfl⟩
  · exact ⟨rfl, rfl⟩
  · exact ⟨rfl, rfl⟩

/-! ## Turns -/

/-- What a monitor can do in its turn. -/
inductive Turn (now : Millis) (monitor : Monitor) : Option Request → Monitor → Prop where
  | rest : Turn now monitor none monitor
  | writeCarrier (profile : CarrierProfile) (hpending : monitor.pendingCarrier = some profile) :
    Turn now monitor (some (.command writeFrameId Query.carrierProfile.command [profile.raw]))
      ({ monitor with pendingCarrier := none }.forcePoll .carrierProfile)
  | writeApn (apn : String) (hcarrier : monitor.pendingCarrier = none)
    (hpending : monitor.pendingApn = some apn) :
    Turn now monitor (some (.command writeFrameId Query.requestedApn.command (Text.toBytes apn)))
      ({ monitor with pendingApn := none }.forcePoll .requestedApn)
  | poll (query : Query) (hcarrier : monitor.pendingCarrier = none)
    (hapn : monitor.pendingApn = none) (hdue : monitor.mostOverdue? now = some query)
    (nextDue : Millis) (hsum : nextDue.toNat = now.toNat + monitor.pollInterval.toNat) :
    Turn now monitor (some (.command (pollId query) query.command []))
      (monitor.setSlot query { monitor.slot query with nextDue })

theorem turn_of_nextRequest {monitor next : Monitor} {now : Millis} {space : Nat}
    {request : Option Request} (h : monitor.nextRequest now space = .ok (request, next)) :
    Turn now monitor request next := by
  unfold nextRequest at h
  split at h
  · obtain ⟨rfl, rfl⟩ := Prod.mk.inj (Except.ok.inj h)
    exact .rest
  split at h
  · rename_i profile hcarrier
    obtain ⟨rfl, rfl⟩ := Prod.mk.inj (Except.ok.inj h)
    exact .writeCarrier profile hcarrier
  · rename_i apn hcarrier hapn
    split at h
    · obtain ⟨rfl, rfl⟩ := Prod.mk.inj (Except.ok.inj h)
      exact .rest
    · obtain ⟨rfl, rfl⟩ := Prod.mk.inj (Except.ok.inj h)
      exact .writeApn apn hcarrier hapn
  · rename_i hcarrier hapn
    split at h
    · obtain ⟨rfl, rfl⟩ := Prod.mk.inj (Except.ok.inj h)
      exact .rest
    · rename_i query hdue
      obtain ⟨nextDue, hsum, h⟩ := bind_eq_ok_iff.mp h
      obtain ⟨rfl, rfl⟩ := Prod.mk.inj (Except.ok.inj h)
      exact .poll query hcarrier hapn hdue nextDue (Millis.later_eq_ok_iff.mp hsum)

/-- The program stops in a turn that would poll a slot, if the slot could not be due again. -/
theorem nextRequest_eq_error_iff {monitor : Monitor} {now : Millis} {space : Nat}
    {stop : Overflow} :
    monitor.nextRequest now space = .error stop ↔
      Layout.atCommand.wireSizeOf 1 ≤ space ∧ monitor.pendingCarrier = none ∧
        monitor.pendingApn = none ∧ (∃ query, monitor.mostOverdue? now = some query) ∧
        UInt64.size ≤ now.toNat + monitor.pollInterval.toNat := by
  unfold nextRequest
  split
  · rename_i hcramped
    exact iff_of_false nofun fun h => Nat.not_le_of_lt hcramped h.1
  rename_i hroom
  split
  · rename_i hcarrier
    exact iff_of_false nofun fun h => Option.some_ne_none _ (hcarrier.symm.trans h.2.1)
  · rename_i hapn
    refine iff_of_false ?_ fun h => Option.some_ne_none _ (hapn.symm.trans h.2.2.1)
    split <;> nofun
  · rename_i hcarrier hapn
    split
    · rename_i hnone
      refine iff_of_false nofun ?_
      rintro ⟨-, -, -, ⟨query, hquery⟩, -⟩
      exact Option.some_ne_none _ (hquery.symm.trans hnone)
    · rename_i query hquery
      rw [bind_pure_eq_error_iff, Millis.later_eq_error_iff]
      exact ⟨fun hsum => ⟨Nat.le_of_not_lt hroom, hcarrier, hapn, ⟨query, hquery⟩, hsum⟩,
        fun h => h.2.2.2.2⟩

end Monitor

end CellStation
