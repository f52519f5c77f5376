import CellStation.Proofs.BringUpEdges
import CellStation.Proofs.Deframing
import CellStation.Proofs.Recording

/-!
# The log of a run

A modem that is polled makes calls on its line. `Modem.lineCalls` are the calls of one poll,
and `Modem.log` are those of a run of polls, each with the reading of its poll.

A poll asks for what has arrived, carries out the orders of the bring-up that are due
(`Modem.dueOrders`), and in API mode writes what is queued (`lineCalls_eq`). With nothing queued
it therefore writes and changes the rate for the bring-up only (`exists_lineCalls`).
-/

namespace CellStation

/-- A call on the line, with the reading of the poll that made it. -/
structure LogEntry where
  now : Millis
  call : LinkCall
  deriving DecidableEq, Repr

namespace LogEntry

/-- The order that an entry carries out. -/
def order? (entry : LogEntry) : Option LineOrder := entry.call.order?

/-- The line rate last asked for. -/
def rateIn (log : List LogEntry) : Option UInt32 :=
  (log.filterMap fun entry => entry.order?.bind LineOrder.baud?).getLast?

/-- The bytes that came in over the line, in order. -/
def heardIn (log : List LogEntry) : List UInt8 := LinkCall.heardIn (log.map call)

@[simp] theorem heardIn_append (log later : List LogEntry) :
    heardIn (log ++ later) = heardIn log ++ heardIn later := by
  simp [heardIn]

theorem rateIn_append (log later : List LogEntry) :
    rateIn (log ++ later) = (rateIn later).or (rateIn log) := by
  simp [rateIn, List.getLast?_append]

/-- Calls made in one poll. -/
def stamp (now : Millis) (calls : List LinkCall) : List LogEntry := calls.map (mk now)

@[simp] theorem stamp_append (now : Millis) (calls later : List LinkCall) :
    stamp now (calls ++ later) = stamp now calls ++ stamp now later :=
  List.map_append

@[simp] theorem heardIn_stamp (now : Millis) (calls : List LinkCall) :
    heardIn (stamp now calls) = LinkCall.heardIn calls := by
  simp [heardIn, stamp, Function.comp_def]

theorem mem_stamp {now : Millis} {calls : List LinkCall} {entry : LogEntry} :
    entry ∈ stamp now calls ↔ entry.now = now ∧ entry.call ∈ calls := by
  rcases entry with ⟨reading, call⟩
  simp only [stamp, List.mem_map, mk.injEq]
  constructor
  · rintro ⟨other, hmem, rfl, rfl⟩
    exact ⟨rfl, hmem⟩
  · rintro ⟨rfl, hmem⟩
    exact ⟨call, hmem, rfl, rfl⟩

theorem quiet_stamp (now : Millis) {calls : List LinkCall}
    (h : ∀ call ∈ calls, call.order? = none) : ∀ entry ∈ stamp now calls, entry.order? = none :=
  fun entry hentry => h entry.call (mem_stamp.mp hentry).2

/-- The rate asked for in one poll is the last of its orders. -/
theorem rateIn_stamp (now : Millis) (calls : List LinkCall) :
    rateIn (stamp now calls) =
      ((calls.filterMap LinkCall.order?).filterMap LineOrder.baud?).getLast? := by
  rw [rateIn, stamp, List.filterMap_map, List.filterMap_filterMap]
  rfl

end LogEntry

namespace Modem

open LinkCall (sentIn heardIn)
open Radio (Call answer after received)

variable {σ : Type} [SerialLink σ]

/-! ## The calls of a run -/

/-- The modem with a record of its line on which nothing stands. -/
def record (modem : Modem σ) : Modem (Recorded σ) :=
  ⟨.ofLine modem.link, modem.state, modem.since, modem.inBuf, modem.outBuf⟩

/-- The calls that a poll makes on the line, in order. -/
def lineCalls (now : Millis) (modem : Modem σ) : List LinkCall :=
  (modem.record.poll now).2.link.calls

/-- Polls at clock readings. -/
def polls (readings : List Millis) : List Call := readings.map .poll

/-- The calls that polls make on the line, each with the reading of its poll. -/
def log : List Millis → Modem σ → List LogEntry
  | [], _ => []
  | now :: readings, modem =>
    LogEntry.stamp now (modem.lineCalls now) ++ log readings (modem.poll now).2

theorem log_append : ∀ (readings later : List Millis) (modem : Modem σ),
    log (readings ++ later) modem =
      log readings modem ++ log later (after (polls readings) modem)
  | [], _, _ => rfl
  | now :: readings, later, modem => by
    rw [List.cons_append, log, log, log_append readings later, List.append_assoc]
    rfl

/-! ## Orders that are due -/

/-- The transition that a modem makes at a reading. -/
def due (now : Millis) (modem : Modem σ) : Option Transition :=
  modem.state.step (now.since modem.since) modem.inBuf

/-- The orders that a modem carries out at a reading. -/
def dueOrders (now : Millis) (modem : Modem σ) : List LineOrder :=
  ((modem.due now).map Transition.orders).getD []

theorem advance_of_none {modem : Modem σ} {now : Millis} (h : modem.due now = none) :
    modem.advance now = modem := by
  rw [due] at h
  simp only [advance, h]

theorem advance_of_some {modem : Modem σ} {now : Millis} {transition : Transition}
    (h : modem.due now = some transition) :
    modem.advance now =
      { modem with
        link := transition.orders.foldl carryOut modem.link
        state := transition.next
        since := now
        inBuf := if transition.forgets then [] else modem.inBuf } := by
  rw [due] at h
  simp only [advance, h]

theorem extends_carryOut : ∀ (orders : List LineOrder) (link : Recorded σ),
    ∃ said, link.Extends (orders.foldl carryOut link) said ∧
      said.map LinkCall.order? = orders.map some
  | [], link => ⟨[], .refl link, rfl⟩
  | order :: orders, link => by
    obtain ⟨said, hsaid, horders⟩ := extends_carryOut orders (carryOut link order)
    cases order with
    | setBaud baud =>
      have hfirst : link.Extends (carryOut link (.setBaud baud))
        [.setBaud baud (SerialLink.setBaud baud link).1.toOption] := rfl
      exact ⟨_, hfirst.trans hsaid, by simp [horders, LinkCall.order?]⟩
    | say text =>
      exact ⟨_, (Recorded.extends_write text link).trans hsaid,
        by simp [horders, LinkCall.order?]⟩

/-- On a recorded line : the orders that are due are carried out, in their order. -/
theorem extends_advance (modem : Modem (Recorded σ)) (now : Millis) :
    ∃ said, modem.link.Extends (modem.advance now).link said ∧
      said.map LinkCall.order? = (modem.dueOrders now).map some := by
  rcases h : modem.due now with _ | transition
  · rw [advance_of_none h, dueOrders, h]
    exact ⟨[], .refl _, rfl⟩
  · rw [advance_of_some h, dueOrders, h]
    exact extends_carryOut transition.orders modem.link

/-! ## What has arrived -/

/-- The calls with which a poll asks for what has arrived. -/
def asked (modem : Modem σ) : List LinkCall := modem.record.hear.2.calls

theorem order?_of_mem_asked {modem : Modem σ} :
    ∀ call ∈ modem.asked, call.order? = none := by
  obtain ⟨asked, hasked, hquiet, -⟩ := modem.record.extends_hear
  rw [Modem.asked, show modem.record.hear.2.calls = asked from hasked]
  exact hquiet

/-- What a poll reads goes behind what the input buffer holds, and the oldest bytes give way. -/
theorem inBuf_fillInput_asked (hlaw : SerialLink.ReadsWithin σ) {modem : Modem σ}
    (hshort : modem.inBuf.length ≤ bufferCapacity) :
    modem.fillInput.inBuf = newest bufferCapacity (modem.inBuf ++ heardIn modem.asked) := by
  obtain ⟨asked, hasked, -, hheard⟩ := modem.record.extends_hear
  have hforget : modem.fillInput.inBuf = modem.record.fillInput.inBuf :=
    congrArg inBuf (fillInput_forget modem.record)
  rw [Modem.asked, show modem.record.hear.2.calls = asked from hasked, hheard hlaw, hforget]
  exact inBuf_fillInput hshort

/-! ## A poll with nothing queued -/

/-- With nothing queued, draining asks for room and does no more. -/
theorem drainOutput_of_idle {modem : Modem σ} (hidle : modem.outBuf.size = 0) :
    modem.drainOutput = { modem with link := (SerialLink.writable modem.link).2 } := by
  rcases hroom : SerialLink.writable modem.link with ⟨writable, link⟩
  simp [drainOutput, hroom, hidle]

/-- A poll of a modem with nothing queued, its frame apart : filling and a step of the
bring-up, and in API mode a question to the line. -/
theorem poll_of_idle {modem : Modem σ} (now : Millis) (hidle : modem.outBuf.size = 0) :
    (modem.poll now).2 =
      if (modem.fillInput.advance now).state = .apiMode then
        { modem.fillInput.advance now with
          link := (SerialLink.writable (modem.fillInput.advance now).link).2
          inBuf := (Frame.decode maxPayload (modem.fillInput.advance now).inBuf).2 }
      else modem.fillInput.advance now := by
  have hidle' : (modem.fillInput.advance now).outBuf.size = 0 := by
    rwa [outBuf_advance, outBuf_fillInput]
  rw [poll]
  simp only
  split
  · rw [drainOutput_of_idle hidle', takeFrame_eq]
  · rfl

/-- What a poll with nothing queued leaves : the state is that of the step, and so is the
text unless frames are taken from it. -/
theorem poll_fields {modem : Modem σ} (now : Millis) (hidle : modem.outBuf.size = 0) :
    (modem.poll now).2.state = (modem.fillInput.advance now).state ∧
      (modem.poll now).2.since = (modem.fillInput.advance now).since ∧
      (modem.poll now).2.outBuf = modem.outBuf ∧
      (modem.poll now).2.inBuf.length ≤ (modem.fillInput.advance now).inBuf.length ∧
      ((modem.fillInput.advance now).state ≠ .apiMode →
        (modem.poll now).2.inBuf = (modem.fillInput.advance now).inBuf) := by
  have hqueue : (modem.fillInput.advance now).outBuf = modem.outBuf := by
    rw [outBuf_advance, outBuf_fillInput]
  rw [poll_of_idle now hidle]
  split
  · rename_i hstate
    exact ⟨rfl, rfl, hqueue, Frame.length_decode_le _ _, fun h => absurd hstate h⟩
  · exact ⟨rfl, rfl, hqueue, Nat.le_refl _, fun _ => rfl⟩

/-! ## The calls of a poll -/

/-- The calls of a poll : asking for what has arrived, the orders that are due, and in API mode
draining the output buffer. Only the first bring anything in, and with nothing queued the last
carry out no order. -/
theorem lineCalls_eq (modem : Modem σ) (now : Millis) :
    ∃ said drained, modem.lineCalls now = modem.asked ++ said ++ drained ∧
      said.map LinkCall.order? = (modem.fillInput.dueOrders now).map some ∧
      heardIn drained = [] ∧
      (modem.outBuf.size = 0 → ∀ call ∈ drained, call.order? = none) ∧
      ((modem.fillInput.advance now).state ≠ .apiMode → drained = []) := by
  have hforget : modem.record.fillInput.forget = modem.fillInput :=
    (fillInput_forget modem.record).symm
  have hadvance : (modem.record.fillInput.advance now).forget = modem.fillInput.advance now := by
    rw [← advance_forget, hforget]
  have hstate : (modem.record.fillInput.advance now).state =
      (modem.fillInput.advance now).state := congrArg state hadvance
  obtain ⟨said, hsaid, horders⟩ := modem.record.fillInput.extends_advance now
  have hdue : said.map LinkCall.order? = (modem.fillInput.dueOrders now).map some := by
    rw [← hforget]
    exact horders
  rw [link_fillInput] at hsaid
  by_cases hmode : (modem.fillInput.advance now).state = .apiMode
  · obtain ⟨drained, hdrained, hsilent, -⟩ :=
      (modem.record.fillInput.advance now).extends_drainOutput
    refine ⟨said, drained, ?_, hdue, hsilent, fun hidle => ?_, fun h => absurd hmode h⟩
    · simp only [lineCalls, poll, if_pos (hstate.trans hmode), takeFrame_eq]
      rw [hdrained, hsaid]
      rfl
    · have hroom := Recorded.extends_writable (modem.record.fillInput.advance now).link
      rw [Recorded.Extends, drainOutput_of_idle, hroom] at hdrained
      · simp [← List.append_cancel_left hdrained, LinkCall.order?]
      · rw [outBuf_advance, outBuf_fillInput]
        exact hidle
  · refine ⟨said, [], ?_, hdue, rfl, by simp, fun _ => rfl⟩
    simp only [lineCalls, poll, if_neg (hstate ▸ hmode)]
    rw [hsaid, List.append_nil]
    rfl

/-- The calls of a poll with nothing queued : asking for what has arrived, the orders that
are due, and in API mode asking for room. What was heard goes into the input buffer. -/
theorem exists_lineCalls (hlaw : SerialLink.ReadsWithin σ) {modem : Modem σ} (now : Millis)
    (hidle : modem.outBuf.size = 0) (hshort : modem.inBuf.length ≤ bufferCapacity) :
    ∃ asked said room, modem.lineCalls now = asked ++ said ++ room ∧
      (∀ call ∈ asked, call.order? = none) ∧
      modem.fillInput.inBuf = newest bufferCapacity (modem.inBuf ++ heardIn asked) ∧
      said.map LinkCall.order? = (modem.fillInput.dueOrders now).map some ∧
      (∀ call ∈ room, call.order? = none) ∧ heardIn room = [] ∧
      ((modem.fillInput.advance now).state ≠ .apiMode → room = []) := by
  obtain ⟨said, drained, hcalls, hsaid, hsilent, hquiet, hwaiting⟩ := modem.lineCalls_eq now
  exact ⟨modem.asked, said, drained, hcalls, order?_of_mem_asked,
    inBuf_fillInput_asked hlaw hshort, hsaid, hquiet hidle, hsilent, hwaiting⟩

end Modem

end CellStation
