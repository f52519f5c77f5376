import CellStation.Proofs.BringUpEdges
import CellStation.Proofs.LineLog

/-!
# What the bring-up keeps to

A modem that is polled keeps to the edges of the bring-up whatever its line does : the rate
last asked for belongs to the state, the escape text is preceded by silence, and a command
goes out only after the answer to the text before it. All of this is read off the log of the
run (`LogEntry.Lawful`).

`Modem.InStep` ties the log to the state of the modem. One poll keeps it (`InStep.poll`), so
every run does, and `bringUp_safe` reads the properties off it.
-/

namespace CellStation

namespace LogEntry

/-! ## Lawful logs -/

/-- An entry writes one of the texts. -/
def Writes (texts : List (List UInt8)) (entry : LogEntry) : Prop :=
  ∃ text ∈ texts, entry.order? = some (.say text)

/-- With the line at a rate, one of the questions was written; it is the latest of them, and
what came in since ends with the answer. -/
def HeardSince (questions : List (List UInt8)) (baud : UInt32) (log : List LogEntry)
    (answer : List UInt8) : Prop :=
  ∃ before question since, log = before ++ question :: since ∧ question.Writes questions ∧
    rateIn before = some baud ∧ (∀ entry ∈ since, ¬ entry.Writes questions) ∧
    answer <:+ heardIn since

theorem HeardSince.of_suffix {questions : List (List UInt8)} {baud : UInt32}
    {log : List LogEntry} {answer heard : List UInt8} (h : HeardSince questions baud log heard)
    (hsuffix : answer <:+ heard) : HeardSince questions baud log answer := by
  obtain ⟨before, question, since, hlog, hwrites, hrate, hlatest, hheard⟩ := h
  exact ⟨before, question, since, hlog, hwrites, hrate, hlatest, hsuffix.trans hheard⟩

/-- Entries that carry out no order add what they heard. -/
theorem HeardSince.append_quiet {questions : List (List UInt8)} {baud : UInt32}
    {log later : List LogEntry} {heard : List UInt8} (h : HeardSince questions baud log heard)
    (hquiet : ∀ entry ∈ later, entry.order? = none) :
    HeardSince questions baud (log ++ later) (heard ++ heardIn later) := by
  obtain ⟨before, question, since, rfl, hwrites, hrate, hlatest, front, hheard⟩ := h
  refine ⟨before, question, since ++ later, by simp, hwrites, hrate, ?_, front, ?_⟩
  · intro entry hentry
    rcases List.mem_append.mp hentry with hold | hnew
    · exact hlatest entry hold
    · rintro ⟨text, -, horder⟩
      rw [hquiet entry hnew] at horder
      cases horder
  · rw [heardIn_append, ← hheard, List.append_assoc]

/-- An entry stands to those before it as the bring-up has it. -/
structure Lawful (before : List LogEntry) (entry : LogEntry) : Prop where
  /-- The escape text follows more than 1100 milliseconds after every earlier order. -/
  spaced : entry.order? = some (.say escapeText) →
    ∀ earlier ∈ before, earlier.order?.isSome →
      earlier.now.toNat + 1100 < entry.now.toNat
  /-- The command for the faster rate follows the answer to the latest escape text. -/
  fastRate : entry.order? = some (.say fastRateCommand) →
    HeardSince [escapeText] commandBaud before okReply
  /-- The command for API mode follows the answer to the latest escape text or probe. -/
  apiMode : entry.order? = some (.say apiModeCommand) →
    HeardSince [escapeText, probeCommand] apiBaud before okReply

/-- Every entry stands to those before it as the bring-up has it. -/
def AllLawful (log : List LogEntry) : Prop :=
  ∀ before entry later, log = before ++ entry :: later → entry.Lawful before

theorem AllLawful.append {log new : List LogEntry} (h : AllLawful log)
    (hnew : ∀ before entry later, new = before ++ entry :: later →
      entry.Lawful (log ++ before)) : AllLawful (log ++ new) := by
  intro before entry later hsplit
  rcases List.append_eq_append_iff.mp hsplit with ⟨more, rfl, hmore⟩ | ⟨more, rfl, hmore⟩
  · exact hnew more entry later hmore
  · cases more with
    | nil => simpa using hnew [] entry later hmore.symm
    | cons first more =>
      obtain ⟨rfl, -⟩ := List.cons.inj hmore
      exact h before entry more rfl

theorem Lawful.of_quiet {before : List LogEntry} {entry : LogEntry} (h : entry.order? = none) :
    entry.Lawful before where
  spaced horder := by rw [h] at horder; cases horder
  fastRate horder := by rw [h] at horder; cases horder
  apiMode horder := by rw [h] at horder; cases horder

theorem AllLawful.append_quiet {log new : List LogEntry} (h : AllLawful log)
    (hquiet : ∀ entry ∈ new, entry.order? = none) : AllLawful (log ++ new) :=
  h.append fun before entry later hsplit => .of_quiet (hquiet entry (by simp [hsplit]))

end LogEntry

namespace Modem

open LogEntry (stamp rateIn HeardSince AllLawful)
open Radio (Call answer after received)

variable {σ : Type}

/-! ## The log and the state -/

/-- The log of a run that has come to a modem at a reading. -/
structure InStep (clock : Millis) (log : List LogEntry) (modem : Modem σ) : Prop where
  lawful : AllLawful log
  rate : rateIn log = modem.state.rate?
  /-- No order was carried out after the last change of state. -/
  settled : ∀ entry ∈ log, entry.order?.isSome →
    modem.state ≠ .start ∧ entry.now ≤ modem.since
  since_le : modem.state ≠ .start → modem.since ≤ clock
  heard : modem.state.questions ≠ [] → ∀ baud, modem.state.rate? = some baud →
    HeardSince modem.state.questions baud log modem.inBuf
  short : modem.inBuf.length ≤ bufferCapacity
  idle : modem.outBuf = .empty bufferCapacity

theorem inStep_ofLink (link : σ) (start clock : Millis) :
    InStep clock [] (ofLink link start) where
  lawful before entry later h := by simp at h
  rate := rfl
  settled entry h := by simp at h
  since_le h := absurd rfl h
  heard h := absurd rfl h
  short := Nat.zero_le _
  idle := rfl

theorem newest_suffix (count : Nat) (bytes : List UInt8) : newest count bytes <:+ bytes :=
  List.drop_suffix _ _

theorem length_newest_le (count : Nat) (bytes : List UInt8) :
    (newest count bytes).length ≤ count := by
  rw [newest, List.length_drop]
  omega

/-- The orders of the calls that a poll makes are those that were due. -/
theorem filterMap_order {asked said room : List LinkCall} {orders : List LineOrder}
    (hasked : ∀ call ∈ asked, call.order? = none)
    (hsaid : said.map LinkCall.order? = orders.map some)
    (hroom : ∀ call ∈ room, call.order? = none) :
    (asked ++ said ++ room).filterMap LinkCall.order? = orders := by
  have hquiet : ∀ calls : List LinkCall, (∀ call ∈ calls, call.order? = none) →
      calls.filterMap LinkCall.order? = [] := fun calls h => List.filterMap_eq_nil_iff.mpr h
  have hmiddle : said.filterMap LinkCall.order? = orders := by
    have hid : said.filterMap LinkCall.order? = (said.map LinkCall.order?).filterMap id := by
      rw [List.filterMap_map]
      rfl
    rw [hid, hsaid]
    simp
  rw [List.filterMap_append, List.filterMap_append, hquiet _ hasked, hquiet _ hroom, hmiddle]
  simp

/-- What an edge says is lawful after what the line was asked before. -/
theorem InStep.lawful_said {clock now : Millis} {log asked : List LogEntry} {modem : Modem σ}
    {heard : List UInt8} {transition : Transition} {said : List LinkCall}
    (h : InStep clock log modem) (hclock : clock ≤ now)
    (hedge : LinkState.Edge (now.since modem.since) heard modem.state transition)
    (hquiet : ∀ entry ∈ asked, entry.order? = none)
    (hanswer : ∀ baud, modem.state.questions ≠ [] → modem.state.rate? = some baud →
      HeardSince modem.state.questions baud (log ++ asked) heard)
    (hsaid : said.map LinkCall.order? = transition.orders.map some) :
    ∀ before entry later, stamp now said = before ++ entry :: later →
      entry.Lawful (log ++ asked ++ before) := by
  intro before entry later hsplit
  obtain ⟨hnow, hcall⟩ := LogEntry.mem_stamp.mp
    (show entry ∈ stamp now said by rw [hsplit]; simp)
  have horder : ∀ text, entry.order? = some (.say text) → .say text ∈ transition.orders := by
    intro text htext
    have hmem : entry.order? ∈ transition.orders.map some := hsaid ▸ List.mem_map_of_mem hcall
    simpa [htext] using hmem
  -- An order that goes out alone has no order of the same poll before it.
  have halone : ∀ text, transition.orders = [.say text] → before = [] := by
    intro text hone
    have hlength := congrArg List.length hsaid
    have hsizes := congrArg List.length hsplit
    simp only [hone, List.length_map, List.length_singleton] at hlength
    simp only [stamp, List.length_map, hlength, List.length_append, List.length_cons] at hsizes
    exact List.length_eq_zero_iff.mp (by omega)
  refine ⟨fun htext => ?_, fun htext => ?_, fun htext => ?_⟩
  · obtain ⟨hone, hsilence⟩ := hedge.of_escape (horder _ htext)
    rw [halone _ hone, List.append_nil]
    intro earlier hearlier hsome
    rcases List.mem_append.mp hearlier with hold | hnew
    · obtain ⟨hne, hle⟩ := h.settled earlier hold hsome
      have hlong := (Millis.lt_since_iff (UInt64.le_trans (h.since_le hne) hclock)).mp hsilence
      have hle := UInt64.le_iff_toNat_le.mp hle
      have hguard : guardMillis.toNat = 1100 := rfl
      rw [hnow]
      omega
    · rw [hquiet earlier hnew] at hsome
      cases hsome
  · obtain ⟨hone, hstate, hanswered⟩ := hedge.of_fastRate (horder _ htext)
    rw [halone _ hone, List.append_nil]
    rw [hstate] at hanswer
    exact (hanswer commandBaud (by simp [LinkState.questions]) rfl).of_suffix
      (LinkState.suffix_of_answered hanswered)
  · obtain ⟨hone, hstate, hanswered⟩ := hedge.of_apiMode (horder _ htext)
    rw [halone _ hone, List.append_nil]
    rw [hstate] at hanswer
    exact (hanswer apiBaud (by simp [LinkState.questions]) rfl).of_suffix
      (LinkState.suffix_of_answered hanswered)

/-- After an edge that puts a question, nothing was heard since. -/
theorem heardSince_said {now elapsed : Millis} {log asked : List LogEntry} {heard : List UInt8}
    {state : LinkState} {transition : Transition} {said : List LinkCall} {baud : UInt32}
    (hedge : LinkState.Edge elapsed heard state transition)
    (hquestion : transition.next.questions ≠ [])
    (hsaid : said.map LinkCall.order? = transition.orders.map some)
    (hrate : rateIn log = some baud) (hlog : log = asked ++ stamp now said) :
    transition.forgets = true ∧ HeardSince transition.next.questions baud log [] := by
  obtain ⟨first, text, htext, horders, hforgets⟩ := hedge.question_next hquestion
  rw [horders, List.map_append] at hsaid
  obtain ⟨opening, last, rfl, -, hlast⟩ := List.map_eq_append_iff.mp hsaid
  obtain ⟨call, rfl, hcall⟩ := List.map_eq_singleton_iff.mp hlast
  have hsplit : log = (asked ++ stamp now opening) ++ [⟨now, call⟩] := by simp [hlog, stamp]
  refine ⟨hforgets, _, ⟨now, call⟩, [], hsplit, ⟨text, htext, hcall⟩, ?_, by simp,
    List.nil_suffix⟩
  have hnone : rateIn [(⟨now, call⟩ : LogEntry)] = none := by
    simp [rateIn, LogEntry.order?, hcall, LineOrder.baud?]
  rw [hsplit, LogEntry.rateIn_append, hnone] at hrate
  exact hrate

variable [SerialLink σ]

/-- What a question has been answered with when the line has been asked for what has arrived. -/
theorem InStep.heard_asked {clock : Millis} {log : List LogEntry} {modem : Modem σ}
    (h : InStep clock log modem) (now : Millis) {asked : List LinkCall}
    (hasked : ∀ call ∈ asked, call.order? = none)
    (hbuf : modem.fillInput.inBuf =
      newest bufferCapacity (modem.inBuf ++ LinkCall.heardIn asked)) :
    ∀ baud, modem.state.questions ≠ [] → modem.state.rate? = some baud →
      HeardSince modem.state.questions baud (log ++ stamp now asked) modem.fillInput.inBuf := by
  intro baud hquestion hbaud
  have hheard := h.heard hquestion baud hbaud
  refine (hheard.append_quiet (LogEntry.quiet_stamp now hasked)).of_suffix ?_
  rw [hbuf, LogEntry.heardIn_stamp]
  exact newest_suffix _ _

/-- What a modem in step does in a poll that makes no transition. -/
theorem InStep.poll_of_none (hlaw : SerialLink.ReadsWithin σ) {clock now : Millis}
    {log : List LogEntry} {modem : Modem σ} (h : InStep clock log modem) (hclock : clock ≤ now)
    (hdue : modem.fillInput.due now = none) :
    InStep now (log ++ stamp now (modem.lineCalls now)) (modem.poll now).2 := by
  have hidle : modem.outBuf.size = 0 := by rw [h.idle]; rfl
  obtain ⟨asked, said, room, hcalls, hasked, hbuf, hsaid, hroom, -, hwaiting⟩ :=
    exists_lineCalls hlaw now hidle h.short
  obtain ⟨hstate, hsince, hqueue, hlength, hinBuf⟩ := poll_fields now hidle
  rw [advance_of_none hdue] at hstate hsince hlength hinBuf hwaiting
  rw [state_fillInput] at hstate hinBuf hwaiting
  rw [since_fillInput] at hsince
  obtain rfl : said = [] := by simpa [dueOrders, hdue] using hsaid
  rw [List.append_nil] at hcalls
  have hquiet : ∀ call ∈ modem.lineCalls now, call.order? = none := by
    intro call hcall
    rw [hcalls] at hcall
    rcases List.mem_append.mp hcall with hcall | hcall
    · exact hasked call hcall
    · exact hroom call hcall
  refine ⟨h.lawful.append_quiet (LogEntry.quiet_stamp now hquiet), ?_, ?_, ?_, ?_, ?_, ?_⟩
  · rw [LogEntry.rateIn_append, LogEntry.rateIn_stamp, List.filterMap_eq_nil_iff.mpr hquiet,
      hstate, h.rate]
    rfl
  · intro entry hentry horder
    rw [hstate, hsince]
    rcases List.mem_append.mp hentry with hold | hnew
    · exact h.settled entry hold horder
    · rw [LogEntry.quiet_stamp now hquiet entry hnew] at horder
      cases horder
  · rw [hstate, hsince]
    exact fun hne => UInt64.le_trans (h.since_le hne) hclock
  · rw [hstate]
    intro hquestion baud hrate
    have hne : modem.state ≠ .apiMode := by
      intro hmode
      rw [hmode] at hquestion
      exact hquestion rfl
    rw [hinBuf hne, hcalls, hwaiting hne, List.append_nil]
    exact h.heard_asked now hasked hbuf baud hquestion hrate
  · refine Nat.le_trans hlength ?_
    rw [hbuf]
    exact length_newest_le _ _
  · rw [hqueue, h.idle]

/-- What a modem in step does in a poll that goes along an edge. -/
theorem InStep.poll_of_some (hlaw : SerialLink.ReadsWithin σ) {clock now : Millis}
    {log : List LogEntry} {modem : Modem σ} (h : InStep clock log modem) (hclock : clock ≤ now)
    {transition : Transition} (hdue : modem.fillInput.due now = some transition) :
    InStep now (log ++ stamp now (modem.lineCalls now)) (modem.poll now).2 := by
  have hidle : modem.outBuf.size = 0 := by rw [h.idle]; rfl
  obtain ⟨asked, said, room, hcalls, hasked, hbuf, hsaid, hroom, -, hwaiting⟩ :=
    exists_lineCalls hlaw now hidle h.short
  obtain ⟨hstate, hsince, hqueue, hlength, hinBuf⟩ := poll_fields now hidle
  rw [advance_of_some hdue] at hstate hsince hlength hinBuf hwaiting
  simp only at hstate hsince hlength hinBuf hwaiting
  have horders : modem.fillInput.dueOrders now = transition.orders := by rw [dueOrders, hdue]; rfl
  rw [horders] at hsaid
  have hedge := LinkState.step_eq_some_iff.mp hdue
  rw [state_fillInput, since_fillInput] at hedge
  have hquiet := LogEntry.quiet_stamp now hasked
  have hentries : log ++ stamp now (modem.lineCalls now) =
      log ++ stamp now asked ++ stamp now said ++ stamp now room := by
    simp [hcalls]
  have hrate : rateIn (log ++ stamp now (modem.lineCalls now)) = transition.next.rate? := by
    rw [LogEntry.rateIn_append, LogEntry.rateIn_stamp, hcalls,
      filterMap_order hasked hsaid hroom, h.rate, hedge.rate_next]
  refine ⟨?_, hrate.trans (congrArg LinkState.rate? hstate.symm), ?_, ?_, ?_, ?_, ?_⟩
  · rw [hentries]
    refine ((h.lawful.append_quiet hquiet).append ?_).append_quiet
      (LogEntry.quiet_stamp now hroom)
    exact h.lawful_said hclock hedge hquiet (h.heard_asked now hasked hbuf) hsaid
  · intro entry hentry horder
    rw [hstate, hsince]
    refine ⟨hedge.next_ne_start, ?_⟩
    rcases List.mem_append.mp hentry with hold | hnew
    · obtain ⟨hne, hle⟩ := h.settled entry hold horder
      exact UInt64.le_trans hle (UInt64.le_trans (h.since_le hne) hclock)
    · rw [(LogEntry.mem_stamp.mp hnew).1]
      exact UInt64.le_refl _
  · rw [hsince]
    exact fun _ => UInt64.le_refl _
  · rw [hstate]
    intro hquestion baud hbaud
    have hne := hedge.ne_apiMode_of_question hquestion
    have hend : log ++ stamp now (modem.lineCalls now) =
        log ++ stamp now asked ++ stamp now said := by
      rw [hentries, hwaiting hne]
      simp [stamp]
    obtain ⟨hforgets, hheard⟩ :=
      heardSince_said hedge hquestion hsaid (hrate.trans hbaud) hend
    rw [hinBuf hne, if_pos hforgets]
    exact hheard
  · refine Nat.le_trans hlength ?_
    split
    · exact Nat.zero_le _
    · rw [hbuf]
      exact length_newest_le _ _
  · rw [hqueue, h.idle]

theorem InStep.poll (hlaw : SerialLink.ReadsWithin σ) {clock now : Millis}
    {log : List LogEntry} {modem : Modem σ} (h : InStep clock log modem) (hclock : clock ≤ now) :
    InStep now (log ++ stamp now (modem.lineCalls now)) (modem.poll now).2 := by
  rcases hdue : modem.fillInput.due now with _ | transition
  · exact h.poll_of_none hlaw hclock hdue
  · exact h.poll_of_some hlaw hclock hdue

/-- Every run of polls keeps a modem in step, if the clock does not go back. -/
theorem InStep.after (hlaw : SerialLink.ReadsWithin σ) : ∀ (readings : List Millis)
    {clock : Millis} {log : List LogEntry} {modem : Modem σ}, InStep clock log modem →
      (clock :: readings).Pairwise (· ≤ ·) →
      ∃ last, InStep last (log ++ Modem.log readings modem)
        (Radio.after (polls readings) modem)
  | [], clock, log, modem, h, _ => by
    refine ⟨clock, ?_⟩
    rw [Modem.log, List.append_nil]
    exact h
  | now :: readings, clock, log, modem, h, hclock => by
    obtain ⟨hfirst, hrest⟩ := List.pairwise_cons.mp hclock
    obtain ⟨last, hlast⟩ := InStep.after hlaw readings (h.poll hlaw (hfirst now (by simp))) hrest
    refine ⟨last, ?_⟩
    rw [Modem.log, ← List.append_assoc]
    exact hlast

/-- API mode is entered on both answers to the command for it. -/
theorem InStep.enters (hlaw : SerialLink.ReadsWithin σ) {clock now : Millis}
    {log : List LogEntry} {modem : Modem σ} (h : InStep clock log modem)
    (hbefore : modem.state ≠ .apiMode) (hafter : (modem.poll now).2.state = .apiMode) :
    HeardSince [apiModeCommand] apiBaud (log ++ stamp now (modem.lineCalls now))
      (okReply ++ okReply) := by
  have hidle : modem.outBuf.size = 0 := by rw [h.idle]; rfl
  obtain ⟨asked, said, room, hcalls, hasked, hbuf, hsaid, hroom, hsilent, -⟩ :=
    exists_lineCalls hlaw now hidle h.short
  have hstate := (poll_fields now hidle).1
  rw [hafter] at hstate
  rcases hdue : modem.fillInput.due now with _ | transition
  · rw [advance_of_none hdue, state_fillInput] at hstate
    exact absurd hstate.symm hbefore
  rw [advance_of_some hdue] at hstate
  obtain ⟨hfrom, hanswered, rfl⟩ := step_apiMode hdue hstate.symm
  rw [state_fillInput] at hfrom
  obtain rfl : said = [] := by simpa [dueOrders, hdue] using hsaid
  have hheard := h.heard_asked now hasked hbuf apiBaud
  rw [hfrom] at hheard
  have hmore := (hheard (by simp [LinkState.questions]) rfl).append_quiet
    (LogEntry.quiet_stamp now hroom)
  rw [LogEntry.heardIn_stamp, hsilent, List.append_nil, List.append_assoc,
    ← LogEntry.stamp_append] at hmore
  rw [hcalls, List.append_nil]
  exact hmore.of_suffix (LinkState.suffix_of_answered hanswered)

/-! ## Runs of a new modem -/

/-- What the bring-up of a new modem keeps to in a run of polls. -/
structure SafeRun (fresh : Modem σ) (readings : List Millis) : Prop where
  /-- The line rate last asked for is that of the state. -/
  rate : rateIn (log readings fresh) = (after (polls readings) fresh).state.rate?
  /-- The escape text follows on silence, and each command on the answer before it. -/
  lawful : ∀ before entry later, log readings fresh = before ++ entry :: later →
    entry.Lawful before
  /-- The poll that enters API mode has heard both answers to the latest command for it. -/
  enters : ∀ earlier now later, readings = earlier ++ now :: later →
    (after (polls earlier) fresh).state ≠ .apiMode →
    (after (polls (earlier ++ [now])) fresh).state = .apiMode →
    HeardSince [apiModeCommand] apiBaud (log (earlier ++ [now]) fresh) (okReply ++ okReply)
  /-- Before API mode no frame is handed out, and none is taken. -/
  waiting : (after (polls readings) fresh).state ≠ .apiMode →
    received (polls readings) fresh = [] ∧
    (∀ now, ((after (polls readings) fresh).poll now).1 = none) ∧
    (after (polls readings) fresh).space = 0 ∧
    (∀ frame, (after (polls readings) fresh).enqueue frame = after (polls readings) fresh) ∧
    (after (polls readings) fresh).outBuf.toList = []
  /-- API mode is never left. -/
  stays : (after (polls readings) fresh).state = .apiMode →
    ∀ later, (after (polls later) (after (polls readings) fresh)).state = .apiMode

/-- The bring-up is safe in every run of polls with a clock that does not go back, whatever the
line answers and whichever of its calls fail. -/
theorem bringUp_safe (hlaw : SerialLink.ReadsWithin σ) (link : σ) (start : Millis)
    (readings : List Millis) (hclock : readings.Pairwise (· ≤ ·)) :
    SafeRun (ofLink link start) readings := by
  have hrun : ∀ readings : List Millis, readings.Pairwise (· ≤ ·) →
      ∃ last, InStep last (log readings (ofLink link start))
        (after (polls readings) (ofLink link start)) := by
    intro readings hclock
    have hzero : ∀ now ∈ readings, (0 : Millis) ≤ now := fun now _ =>
      UInt64.le_iff_toNat_le.mpr (Nat.zero_le _)
    exact InStep.after hlaw readings (inStep_ofLink link start 0)
      (List.pairwise_cons.mpr ⟨hzero, hclock⟩)
  obtain ⟨last, hend⟩ := hrun readings hclock
  refine ⟨hend.rate, hend.lawful, ?_, fun hwaiting => ?_, fun hmode later =>
    state_after (polls later) hmode⟩
  · rintro earlier now later rfl hbefore hafter
    obtain ⟨clock, hstep⟩ := hrun earlier (List.pairwise_append.mp hclock).1
    rw [log_append, log, log, List.append_nil]
    rw [polls, List.map_append, Radio.after_append] at hafter
    exact hstep.enters hlaw hbefore hafter
  · obtain ⟨hreceived, -, -⟩ := after_of_waiting hwaiting
    refine ⟨hreceived, fun now => poll_of_waiting now hwaiting, ?_, fun frame => ?_, ?_⟩
    · rw [space, if_neg hwaiting]
    · rw [enqueue, if_neg hwaiting]
    · rw [hend.idle, Ring.toList_empty]

/-- A bring-up over a line whose modem answers every command, up to the poll after API mode
is entered. -/
theorem bringUp_safe_paced :
    let line : PacedLine := ⟨[[0], [0], okReply, [0], okReply, okReply ++ okReply]⟩
    let readings : List Millis := [0, 1101, 1102, 1203, 1204, 1205, 1206]
    SerialLink.ReadsWithin PacedLine ∧ readings.Pairwise (· ≤ ·) ∧
      (after (polls readings) (ofLink line 0)).state = .apiMode ∧
      SafeRun (ofLink line 0) readings := by
  intro line readings
  have hclock : readings.Pairwise (· ≤ ·) := by decide
  exact ⟨PacedLine.readsWithin, hclock, by decide +kernel,
    bringUp_safe PacedLine.readsWithin line 0 readings hclock⟩

end Modem

end CellStation
