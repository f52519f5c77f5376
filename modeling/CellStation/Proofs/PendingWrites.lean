import CellStation.Proofs.PollSchedule
import CellStation.Proofs.SettingViews
import CellStation.Proofs.Since

/-!
# Writes go first

A setting that is configured waits to be written (`Setting.Pending`). No slot is polled while a
setting waits, and the carrier profile goes before the access point name. What is written is the
value configured last, and it is written once. The slot that reads the value back is then the most
overdue one, so that it is the next to be polled, or the carrier profile is
(`Monitor.writes_first_once_latest`).
-/

namespace CellStation

open Monitor (Call)

/-! ## The first of the most overdue slots -/

/-- The least item of a list stands no later than one that is least among those behind it. -/
theorem mem_of_minOn? {α : Type} {f : α → Millis} {front back : List α} {item least : α}
    (h : (front ++ item :: back).minOn? f = some least) (hle : ∀ later ∈ back, f item ≤ f later) :
    least ∈ front ++ [item] := by
  have hsplit : front ++ item :: back = (front ++ [item]) ++ back := by simp
  obtain ⟨early, hearly⟩ := Option.isSome_iff_exists.mp
    (List.isSome_minOn?_of_mem (f := f) (List.mem_concat_self : item ∈ front ++ [item]))
  have hmem := List.minOn?_mem hearly
  rw [hsplit, List.minOn?_append, hearly] at h
  cases hback : back.minOn? f with
  | none =>
    rw [hback] at h
    obtain rfl := Option.some.inj h
    exact hmem
  | some late =>
    have hitem := List.apply_get_minOn?_le_of_mem (f := f)
      (List.mem_concat_self : item ∈ front ++ [item])
    rw [Option.get_of_eq_some _ hearly] at hitem
    have hfirst : minOn f early late = early :=
      minOn_eq_left (UInt64.le_trans hitem (hle late (List.minOn?_mem hback)))
    rw [hback, Option.merge, hfirst] at h
    obtain rfl := Option.some.inj h
    exact hmem

namespace Monitor

variable {query other : Query} {monitor : Monitor} {now : Millis}

/-- Of the slots that are the most overdue the first in the table is polled. -/
theorem index_le_of_mostOverdue? (h : monitor.mostOverdue? now = some query)
    (hdue : monitor.isDue now other = true)
    (hle : (monitor.slot other).nextDue ≤ (monitor.slot query).nextDue) :
    query.index ≤ other.index := by
  obtain ⟨-, hleast⟩ := mostOverdue?_eq_some h
  obtain ⟨front, back, hall⟩ := List.append_of_mem other.mem_all
  have hordered : Query.all.Pairwise fun first second => first.index < second.index := by decide
  rw [mostOverdue?, hall, List.filter_append, List.filter_cons_of_pos hdue] at h
  rw [hall] at hordered
  have hmem := mem_of_minOn? h fun later hlater =>
    UInt64.le_trans hle (hleast later (List.mem_filter.mp hlater).2)
  rcases List.mem_append.mp hmem with hfront | hsame
  · exact Nat.le_of_lt ((List.pairwise_append.mp hordered).2.2 query (List.mem_filter.mp hfront).1
      other List.mem_cons_self)
  · exact Nat.le_of_eq (by rw [List.mem_singleton.mp hsame])

end Monitor

/-! ## What waits to be written -/

/-- What a configuration asks for, as calls on a monitor that is asked for nothing. -/
def MonitorConfig.calls (config : MonitorConfig) : List Call :=
  (config.carrierProfile.map fun raw => .configureCarrier ⟨raw⟩).toList ++
    (config.apn.map .configureApn).toList

theorem Monitor.eq_after_of_ofConfig {config : MonitorConfig} {monitor : Monitor}
    (h : ofConfig config = .ok monitor) :
    monitor = (fresh config.pollInterval.clampedMillis).after config.calls := by
  rcases config with ⟨interval, carrier, apn⟩
  cases carrier <;> cases apn <;>
  · simp only [ofConfig] at h
    grind [MonitorConfig.calls, after, answer]

namespace Setting

variable {setting other : Setting} {value : List UInt8} {monitor : Monitor} {call : Call}

/-- The request that writes a value. -/
def write (setting : Setting) (value : List UInt8) : Request :=
  .command writeFrameId setting.query.command value

/-- The value that a call configures, cut to what the modem accepts. -/
def configured? : Setting → Call → Option (List UInt8)
  | carrierProfile, .configureCarrier profile => some [profile.raw]
  | apn, .configureApn name => some (Text.toBytes (Text.cut name maxApnBytes))
  | _, _ => none

/-- A call neither configures a setting nor writes it. -/
def Spared (setting : Setting) (monitor : Monitor) (call : Call) : Prop :=
  setting.configured? call = none ∧ ∀ value, monitor.made call ≠ some (setting.write value)

/-- In a run of the monitor of a configuration, a value was configured, and since then the setting
has neither been configured again nor been written. -/
def Pending (setting : Setting) (value : List UInt8) (config : MonitorConfig)
    (calls : List Call) : Prop :=
  Since (fun _ call => setting.configured? call = some value)
    (fun before call =>
      setting.Spared ((Monitor.fresh config.pollInterval.clampedMillis).after before) call)
    (config.calls ++ calls)

theorem write_inj {written : List UInt8} :
    setting.write value = other.write written ↔ setting = other ∧ value = written := by
  simp only [write, Request.command.injEq, query_command_inj, true_and]

theorem pollOf_ne_write (query : Query) : Monitor.pollOf query ≠ setting.write value := by
  intro h
  exact Monitor.pollId_ne_writeFrameId query (Request.command.inj h).1

@[simp] theorem configured?_turn (setting : Setting) (now : Millis) (space : Nat) :
    setting.configured? (.turn now space) = none := by
  cases setting <;> rfl

@[simp] theorem configured?_incoming (setting : Setting) (now : Millis) (frame : Frame) :
    setting.configured? (.incoming now frame) = none := by
  cases setting <;> rfl

/-- After a turn a setting waits as before, unless it has been written. -/
theorem waiting_turn_iff {now : Millis} {space : Nat} :
    setting.waiting (monitor.answer (.turn now space)) = some value ↔
      setting.waiting monitor = some value ∧
        ∀ written, monitor.made (.turn now space) ≠ some (setting.write written) := by
  have hturn := monitor.turn_made now space
  generalize monitor.made (.turn now space) = request at hturn ⊢
  generalize monitor.answer (.turn now space) = next at hturn ⊢
  cases hturn with
  | rest => simp
  | writeCarrier profile hpending =>
    have hwrite : Request.command writeFrameId Query.carrierProfile.command [profile.raw] =
        carrierProfile.write [profile.raw] := rfl
    cases setting <;> simp [hwrite, write_inj, waiting, Monitor.forcePoll, Monitor.setSlot]
  | writeApn apn hcarrier hpending =>
    have hwrite : Request.command writeFrameId Query.requestedApn.command (Text.toBytes apn) =
        Setting.apn.write (Text.toBytes apn) := rfl
    cases setting <;> simp [hwrite, write_inj, waiting, Monitor.forcePoll, Monitor.setSlot]
  | poll query hcarrier hapn hdue nextDue =>
    have hkept : setting.waiting (monitor.setSlot query
        { monitor.slot query with nextDue }) =
        setting.waiting monitor := by cases setting <;> rfl
    have hpoll : ∀ written, some (Request.command (Monitor.pollId query) query.command []) ≠
        some (setting.write written) :=
      fun written heq => pollOf_ne_write query (Option.some.inj heq)
    rw [hkept, and_iff_left hpoll]

/-- What waits after a call has just been configured, or has waited and is spared. -/
theorem waiting_answer_iff :
    setting.waiting (monitor.answer call) = some value ↔
      setting.configured? call = some value ∨
        (setting.waiting monitor = some value ∧ setting.Spared monitor call) := by
  cases call with
  | incoming now frame =>
    have hwaiting := setting.waiting_onIncoming monitor now frame
    simp [Monitor.answer, hwaiting, Spared, Monitor.made]
  | turn now space => simp [waiting_turn_iff, Spared]
  | configureCarrier profile =>
    cases setting <;>
      simp [Monitor.answer, Monitor.configureCarrier, waiting, configured?, Spared, Monitor.made]
  | configureApn name =>
    cases setting <;>
      simp [Monitor.answer, Monitor.configureApn, waiting, configured?, Spared, Monitor.made]

/-- What waits to be written is told by the calls made. -/
theorem waiting_eq_some_iff_pending {config : MonitorConfig} {new : Monitor}
    (h : Monitor.ofConfig config = .ok new) {calls : List Call} :
    setting.waiting (new.after calls) = some value ↔ setting.Pending value config calls := by
  rw [Monitor.eq_after_of_ofConfig h, ← Monitor.after_append, Pending]
  induction config.calls ++ calls using List.reverseRecOn with
  | nil =>
    refine iff_of_false ?_ not_since_nil
    cases setting <;> exact nofun
  | append_singleton calls call ih =>
    rw [Monitor.after_concat, waiting_answer_iff, ih, since_concat]

/-! ## What a turn sends -/

section Turn

variable {now : Millis} {space : Nat}

/-- A carrier profile that waits is written as soon as there is room for one byte. -/
theorem made_of_pendingCarrier {profile : CarrierProfile}
    (h : monitor.pendingCarrier = some profile)
    (hroom : Layout.atCommand.wireSizeOf 1 ≤ space) :
    monitor.made (.turn now space) = some (carrierProfile.write [profile.raw]) := by
  simp only [Monitor.made, Monitor.takeTurn, Monitor.nextRequest,
    if_neg (Nat.not_lt_of_le hroom), h]
  rfl

/-- A name that waits is written once no carrier profile waits and there is room for it. -/
theorem made_of_pendingApn {name : String} (hcarrier : monitor.pendingCarrier = none)
    (h : monitor.pendingApn = some name) (hroom : Layout.atCommand.wireSizeOf 1 ≤ space) :
    monitor.made (.turn now space) =
      if Layout.atCommand.wireSizeOf (Text.toBytes name).length ≤ space then
        some (apn.write (Text.toBytes name))
      else none := by
  simp only [Monitor.made, Monitor.takeTurn, Monitor.nextRequest,
    if_neg (Nat.not_lt_of_le hroom), hcarrier, h, Text.length_toBytes]
  by_cases hfits : Layout.atCommand.wireSizeOf (Text.size name) ≤ space
  · rw [if_neg (Nat.not_lt_of_le hfits), if_pos hfits]
    rfl
  · rw [if_pos (Nat.lt_of_not_le hfits), if_neg hfits]

/-- What a turn sends : the write of a setting that waits, which is to be read back at once, or
a poll while none waits. -/
theorem of_made_turn {request : Request} (h : monitor.made (.turn now space) = some request) :
    (∃ (setting : Setting) (value : List UInt8), request = setting.write value ∧
        setting.waiting monitor = some value ∧
        (monitor.answer (.turn now space)).slot setting.query = ⟨true, 0⟩) ∨
      ∃ query, request = Monitor.pollOf query ∧
        ∀ setting : Setting, setting.waiting monitor = none := by
  have hturn := monitor.turn_made now space
  rw [h] at hturn
  generalize monitor.answer (.turn now space) = next at hturn ⊢
  cases hturn with
  | writeCarrier profile hpending =>
    exact .inl ⟨carrierProfile, [profile.raw], rfl, by rw [waiting, hpending]; rfl,
      Monitor.slot_setSlot _ _ _⟩
  | writeApn name hcarrier hpending =>
    exact .inl ⟨apn, Text.toBytes name, rfl, by rw [waiting, hpending]; rfl,
      Monitor.slot_setSlot _ _ _⟩
  | poll query hcarrier hapn =>
    refine .inr ⟨query, rfl, fun setting => ?_⟩
    cases setting with
    | carrierProfile => rw [waiting, hcarrier]; rfl
    | apn => rw [waiting, hapn]; rfl

/-- A value that is written has waited, and is to be read back at once. -/
theorem of_made_write (h : monitor.made (.turn now space) = some (setting.write value)) :
    setting.waiting monitor = some value ∧
      (monitor.answer (.turn now space)).slot setting.query = ⟨true, 0⟩ := by
  rcases of_made_turn h with ⟨written, told, heq, hwaits⟩ | ⟨query, heq, -⟩
  · obtain ⟨rfl, rfl⟩ := write_inj.mp heq
    exact hwaits
  · exact absurd heq.symm (pollOf_ne_write query)

/-- Nothing is polled while a setting waits. -/
theorem waiting_of_made_poll {query : Query}
    (h : monitor.made (.turn now space) = some (Monitor.pollOf query)) (setting : Setting) :
    setting.waiting monitor = none := by
  rcases of_made_turn h with ⟨written, value, heq, -⟩ | ⟨polled, -, hnone⟩
  · exact absurd heq (pollOf_ne_write query)
  · exact hnone setting

/-- What is sent with the frame id of writes writes a setting. -/
theorem eq_write_of_made {command : Command}
    (h : monitor.made (.turn now space) = some (.command writeFrameId command value)) :
    ∃ setting : Setting, Request.command writeFrameId command value = setting.write value := by
  rcases of_made_turn h with ⟨setting, written, heq, -⟩ | ⟨query, heq, -⟩
  · obtain ⟨-, -, rfl⟩ := Request.command.inj heq
    exact ⟨setting, heq⟩
  · exact absurd (Request.command.inj heq).1.symm (Monitor.pollId_ne_writeFrameId query)

/-- When a value is written. -/
theorem made_write_iff :
    monitor.made (.turn now space) = some (setting.write value) ↔
      setting.waiting monitor = some value ∧ Layout.atCommand.wireSizeOf 1 ≤ space ∧
        (setting = apn → carrierProfile.waiting monitor = none ∧
          Layout.atCommand.wireSizeOf value.length ≤ space) := by
  constructor
  · intro h
    obtain ⟨hwaits, -⟩ := of_made_write h
    have hroom : Layout.atCommand.wireSizeOf 1 ≤ space := by
      by_contra hroom
      simp [Monitor.made, Monitor.takeTurn, Monitor.nextRequest, Nat.lt_of_not_le hroom] at h
    refine ⟨hwaits, hroom, ?_⟩
    rintro rfl
    obtain ⟨name, hname, rfl⟩ := Option.map_eq_some_iff.mp hwaits
    have hcarrier : monitor.pendingCarrier = none := by
      by_contra hsome
      obtain ⟨profile, hprofile⟩ := Option.ne_none_iff_exists'.mp hsome
      rw [made_of_pendingCarrier hprofile hroom, Option.some.injEq, write_inj] at h
      cases h.1
    rw [made_of_pendingApn hcarrier hname hroom] at h
    refine ⟨by rw [waiting, hcarrier]; rfl, ?_⟩
    by_contra hlong
    rw [if_neg hlong] at h
    cases h
  · rintro ⟨hwaits, hroom, hapn⟩
    cases setting with
    | carrierProfile =>
      obtain ⟨profile, hprofile, rfl⟩ := Option.map_eq_some_iff.mp hwaits
      exact made_of_pendingCarrier hprofile hroom
    | apn =>
      obtain ⟨name, hname, rfl⟩ := Option.map_eq_some_iff.mp hwaits
      obtain ⟨hcarrier, hfits⟩ := hapn rfl
      rw [made_of_pendingApn (Option.map_eq_none_iff.mp hcarrier) hname hroom, if_pos hfits]

end Turn

/-! ## What comes after a write -/

/-- The slots of the settings stand first in the table. -/
theorem eq_of_index_le {query : Query} (h : query.index ≤ setting.query.index) :
    query = .carrierProfile ∨ query = setting.query := by
  revert h
  cases setting <;> cases query <;> decide

/-- Until the slot of a value that is to be read back has had its turn, only the carrier profile
is polled before it. -/
theorem polled_of_forced {query : Query} {now : Millis} {space : Nat}
    (h : monitor.slot setting.query = ⟨true, 0⟩) {calls : List Call}
    (hpoll : (monitor.after calls).made (.turn now space) = some (Monitor.pollOf query)) :
    query = .carrierProfile ∨ query = setting.query ∨
      ∃ seen call later, calls = seen ++ call :: later ∧
        Monitor.Serves setting.query (monitor.after seen) call := by
  have hwaits : Monitor.Waits setting.query 0 monitor :=
    ⟨by rw [h], by rw [h]; exact UInt64.le_refl 0⟩
  rcases hwaits.after calls with hserved | hlast
  · exact .inr (.inr hserved)
  · have hready := (Monitor.turn_of_poll hpoll).1
    -- A slot that is due at zero is among the most overdue, so only the table decides.
    have hfirst := Monitor.index_le_of_mostOverdue? hready
      (Monitor.isDue_iff.mpr ⟨hlast.enabled, UInt64.le_trans hlast.due UInt64.zero_le⟩)
      (UInt64.le_trans hlast.due UInt64.zero_le)
    exact (eq_of_index_le hfirst).imp_right .inl

/-- Between two writes of a setting the value of the second was configured. -/
theorem configured_of_pending {config : MonitorConfig} {new : Monitor}
    (h : Monitor.ofConfig config = .ok new) {before between : List Call} {now : Millis}
    {space : Nat} {written : List UInt8}
    (hfirst : (new.after before).made (.turn now space) = some (setting.write written))
    (hpending : setting.Pending value config (before ++ .turn now space :: between)) :
    ∃ call ∈ between, setting.configured? call = some value := by
  rw [Pending, ← List.append_assoc] at hpending
  have hwritten : ¬ setting.Spared
      ((Monitor.fresh config.pollInterval.clampedMillis).after (config.calls ++ before))
        (.turn now space) := by
    rw [Monitor.after_append, ← Monitor.eq_after_of_ofConfig h]
    exact fun hspared => hspared.2 written hfirst
  rcases begins_of_since hpending hwritten with hturn | ⟨seen, call, rest, rfl, hcall⟩
  · rw [configured?_turn] at hturn
    cases hturn
  · exact ⟨call, List.mem_append_right _ List.mem_cons_self, hcall⟩

end Setting

namespace Monitor

/-- A turn that makes no request changes nothing. -/
theorem answer_of_made_none {monitor : Monitor} {now : Millis} {space : Nat}
    (h : monitor.made (.turn now space) = none) : monitor.answer (.turn now space) = monitor := by
  have hturn := monitor.turn_made now space
  rw [h] at hturn
  generalize monitor.answer (.turn now space) = next at hturn ⊢
  cases hturn with
  | rest => rfl

/-- Writes go first, are made once, and carry the latest value. In any run of the monitor of a
configuration nothing is polled while a setting is pending. A value is written exactly when it is
pending and fits, and for the access point name when no carrier profile is pending, and nothing
else is sent with the frame id of writes. Between two writes of a setting the value of the second
has been configured. Once a value is written its slot is the most overdue one, and until this
slot is polled or settled by a reply no poll goes before it but that of the carrier profile. And
a turn in place that makes no request leaves the monitor as it is, with the values that wait, and
the frame that was to be filled. -/
theorem writes_first_once_latest {config : MonitorConfig} {new : Monitor}
    (h : ofConfig config = .ok new) (calls : List Call) (now : Millis) (space : Nat) :
    (∀ query, (new.after calls).made (.turn now space) = some (pollOf query) →
      ∀ (setting : Setting) (value : List UInt8), ¬ setting.Pending value config calls) ∧
    (∀ (setting : Setting) (value : List UInt8),
      (new.after calls).made (.turn now space) = some (setting.write value) ↔
        setting.Pending value config calls ∧ Layout.atCommand.wireSizeOf 1 ≤ space ∧
          (setting = .apn → (∀ code, ¬ Setting.carrierProfile.Pending code config calls) ∧
            Layout.atCommand.wireSizeOf value.length ≤ space)) ∧
    (∀ command value,
      (new.after calls).made (.turn now space) = some (.command writeFrameId command value) →
        ∃ setting : Setting, Request.command writeFrameId command value = setting.write value) ∧
    (∀ (setting : Setting) (value written : List UInt8) (before between : List Call)
      (first : Millis) (room : Nat), calls = before ++ .turn first room :: between →
      (new.after before).made (.turn first room) = some (setting.write written) →
      (new.after calls).made (.turn now space) = some (setting.write value) →
        ∃ call ∈ between, setting.configured? call = some value) ∧
    (∀ (setting : Setting) (value : List UInt8),
      (new.after calls).made (.turn now space) = some (setting.write value) →
        ((new.after calls).answer (.turn now space)).slot setting.query = ⟨true, 0⟩ ∧
        ∀ (between : List Call) (later : Millis) (room : Nat) (query : Query),
          (((new.after calls).answer (.turn now space)).after between).made (.turn later room) =
            some (pollOf query) →
          query = .carrierProfile ∨ query = setting.query ∨
            ∃ seen call rest, between = seen ++ call :: rest ∧
              Serves setting.query (((new.after calls).answer (.turn now space)).after seen) call) ∧
    (∀ (out : Frame) (turn : FilledTurn Monitor),
      (new.after calls).fill now space out = .ok turn →
        turn.made = ((new.after calls).made (.turn now space)).isSome ∧
          (turn.made = false → turn.state = new.after calls ∧ turn.out = out)) := by
  have hwaiting : ∀ (setting : Setting) (value : List UInt8),
      setting.waiting (new.after calls) = some value ↔ setting.Pending value config calls :=
    fun setting value => setting.waiting_eq_some_iff_pending h
  have hidle : ∀ setting : Setting, setting.waiting (new.after calls) = none ↔
      ∀ value, ¬ setting.Pending value config calls := fun setting => by
    simp only [← hwaiting, Option.eq_none_iff_forall_ne_some]
  refine ⟨?_, ?_, ?_, ?_, ?_, ?_⟩
  · intro query hpoll setting
    exact (hidle setting).mp (Setting.waiting_of_made_poll hpoll setting)
  · intro setting value
    rw [Setting.made_write_iff, hwaiting, hidle]
  · intro command value
    exact Setting.eq_write_of_made
  · rintro setting value written before between first room rfl hfirst hsecond
    have hpending := (hwaiting setting value).mp (Setting.of_made_write hsecond).1
    exact Setting.configured_of_pending h hfirst hpending
  · intro setting value hwrite
    have hforced := (Setting.of_made_write hwrite).2
    exact ⟨hforced, fun between later room query => Setting.polled_of_forced hforced⟩
  · intro out turn hturn
    obtain rfl := eq_of_fill hturn
    refine ⟨rfl, fun hmade => ?_⟩
    have hnone := Option.not_isSome_iff_eq_none.mp (Bool.eq_false_iff.mp hmade)
    exact ⟨answer_of_made_none hnone, by rw [hnone]; rfl⟩

/-- Two names are configured after the first poll. -/
def renamed : List Call :=
  [.turn 1000 100, .configureApn "broadband", .configureApn "hologram"]

/-- The later name is pending. It waits for room, while the frame that was to be filled keeps what
it held, is written instead of a poll, and is read back next. -/
theorem writes_first_once_latest_renamed :
    Setting.apn.Pending (Text.toBytes "hologram") {} renamed ∧
      ¬ Setting.apn.Pending (Text.toBytes "broadband") {} renamed ∧
      (∃ turn, ((fresh 10000).after renamed).fill 2000 15 ⟨0x40, [75, 1]⟩ = .ok turn ∧
        turn.state = (fresh 10000).after renamed ∧ turn.out = ⟨0x40, [75, 1]⟩) ∧
      (((fresh 10000).after renamed).answer (.turn 2000 100)).slot .requestedApn = ⟨true, 0⟩ := by
  have hnew : ofConfig {} = .ok (fresh 10000) := by decide +kernel
  have hwrite : ((fresh 10000).after renamed).made (.turn 2000 100) =
      some (Setting.apn.write (Text.toBytes "hologram")) := by decide +kernel
  have hshort : ∃ turn, ((fresh 10000).after renamed).fill 2000 15 ⟨0x40, [75, 1]⟩ = .ok turn ∧
      turn.made = false := ⟨_, rfl, by decide +kernel⟩
  obtain ⟨-, hwrites, -, -, hforced, -⟩ := writes_first_once_latest hnew renamed 2000 100
  obtain ⟨-, -, -, -, -, hrests⟩ := writes_first_once_latest hnew renamed 2000 15
  obtain ⟨hpending, -, hapn⟩ := (hwrites .apn _).mp hwrite
  obtain ⟨turn, hturn, hmade⟩ := hshort
  have hkept := (hrests _ turn hturn).2 hmade
  refine ⟨hpending, fun hother => ?_, ⟨turn, hturn, hkept⟩, (hforced .apn _ hwrite).1⟩
  have hfits : Layout.atCommand.wireSizeOf (Text.toBytes "broadband").length ≤ 100 := by
    decide +kernel
  have hwritten := (hwrites .apn _).mpr ⟨hother, by decide, fun _ => ⟨(hapn rfl).1, hfits⟩⟩
  rw [hwrite] at hwritten
  exact absurd hwritten (by decide +kernel)

end Monitor

end CellStation
