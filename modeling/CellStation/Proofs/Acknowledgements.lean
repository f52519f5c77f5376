import CellStation.Proofs.BringUpSafety
import CellStation.Proofs.Since

/-!
# Acknowledgements in pieces

In three of its states the bring-up awaits an acknowledgement (`LinkState.awaits?`). What it
looks at is the end of the text read so far, once in every poll. So it does not matter how
the text was cut into reads, nor what came before the acknowledgement; but it matters that
some poll stops reading where the acknowledgement ends (`Modem.StopsAt`).

`Modem.acknowledged_iff_stopsAt` says that this is all that matters while the timeout has not
passed. An acknowledgement with more text behind it, read in one piece, is not recognised
(`Modem.acknowledgement_overrun`).
-/

namespace CellStation

namespace LinkState

/-- How many answers in a row a state awaits, and the state they lead to. -/
def awaits? : LinkState → Option (Nat × LinkState)
  | expectOk9600 => some (1, switching)
  | expectOk115200 => some (1, expectApi)
  | expectApi => some (2, apiMode)
  | _ => none

variable {state next : LinkState} {count : Nat} {elapsed : Millis} {heard : List UInt8}

theorem ne_apiMode_of_awaits (h : state.awaits? = some (count, next)) : state ≠ .apiMode := by
  rintro rfl
  cases h

theorem next_ne_of_awaits (h : state.awaits? = some (count, next)) : next ≠ state := by
  cases state <;> cases h <;> simp

/-- The acknowledgement is far shorter than the input buffer. -/
theorem length_replies_of_awaits (h : state.awaits? = some (count, next)) :
    (List.replicate count okReply).flatten.length ≤ bufferCapacity := by
  cases state <;> cases h <;> decide

/-- Nothing is no acknowledgement. -/
theorem answered_nil_of_awaits (h : state.awaits? = some (count, next)) :
    answered count [] = false := by
  cases state <;> cases h <;> decide

/-- On the acknowledgement the next state is entered, however long it took. -/
theorem step_of_answered (h : state.awaits? = some (count, next))
    (hanswer : answered count heard = true) :
    ∃ orders, state.step elapsed heard = some ⟨orders, true, next⟩ := by
  cases state with
  | expectOk9600 =>
    cases h
    exact ⟨_, step_eq_some_iff.mpr (.answered9600 hanswer)⟩
  | expectOk115200 =>
    cases h
    exact ⟨_, step_eq_some_iff.mpr (.answered115200 hanswer)⟩
  | expectApi =>
    cases h
    exact ⟨_, step_eq_some_iff.mpr (.answeredApi hanswer)⟩
  | _ => cases h

/-- Without it nothing happens before the timeout. -/
theorem step_of_unanswered (h : state.awaits? = some (count, next))
    (hanswer : answered count heard = false) (htimely : elapsed ≤ replyTimeoutMillis) :
    state.step elapsed heard = none := by
  have hearly := UInt64.not_lt.mpr htimely
  cases state <;> cases h <;> simp [step, hanswer, hearly]

end LinkState

namespace Modem

open LinkState (answered)
open Radio (Call after)

/-! ## The newest bytes -/

/-- Bytes that have given way before are not missed later. -/
theorem newest_newest_append (size : Nat) (bytes more : List UInt8) :
    newest size (newest size bytes ++ more) = newest size (bytes ++ more) := by
  have hdrop : newest size bytes ++ more = (bytes ++ more).drop (bytes.length - size) :=
    (List.drop_append_of_le_length (Nat.sub_le _ _)).symm
  rw [hdrop, newest, newest, List.drop_drop, List.length_drop, List.length_append]
  congr 1
  omega

/-- What bytes end with is seen in the newest of them. -/
theorem suffix_newest_iff {reply : List UInt8} {size : Nat} (h : reply.length ≤ size)
    (bytes : List UInt8) : reply <:+ newest size bytes ↔ reply <:+ bytes := by
  constructor
  · exact fun hsuffix => hsuffix.trans (newest_suffix _ _)
  · intro hsuffix
    refine List.suffix_of_suffix_length_le hsuffix (newest_suffix _ _) ?_
    have hlength := hsuffix.length_le
    rw [newest, List.length_drop]
    omega

theorem answered_newest {count size : Nat}
    (h : (List.replicate count okReply).flatten.length ≤ size) (bytes : List UInt8) :
    answered count (newest size bytes) = answered count bytes := by
  rw [Bool.eq_iff_iff, answered, answered, List.isSuffixOf_iff_suffix, List.isSuffixOf_iff_suffix]
  exact suffix_newest_iff h bytes

variable {σ : Type} [SerialLink σ]

/-! ## What polls read -/

/-- The bytes that polls read, in order. -/
def readOver : List Millis → Modem σ → List UInt8
  | [], _ => []
  | now :: readings, modem => modem.hear.1 ++ readOver readings (modem.poll now).2

theorem readOver_concat : ∀ (readings : List Millis) (now : Millis) (modem : Modem σ),
    readOver (readings ++ [now]) modem =
      readOver readings modem ++ (after (polls readings) modem).hear.1
  | [], _, _ => by simp [readOver, polls, after]
  | first :: readings, now, modem => by
    rw [List.cons_append, readOver, readOver, readOver_concat readings now, List.append_assoc]
    rfl

theorem after_polls_concat (readings : List Millis) (now : Millis) (modem : Modem σ) :
    after (polls (readings ++ [now])) modem = ((after (polls readings) modem).poll now).2 := by
  rw [polls, List.map_append]
  exact Radio.after_concat _ _ _

/-- At the end of one of the polls, what had been read so far ended with the answers. -/
def StopsAt (count : Nat) (readings : List Millis) (modem : Modem σ) : Prop :=
  ∃ earlier now later, readings = earlier ++ now :: later ∧
    answered count (readOver (earlier ++ [now]) modem) = true

/-- One of the polls led from the state in which the modem was at first to the next. -/
def Acknowledged (next : LinkState) (readings : List Millis) (modem : Modem σ) : Prop :=
  ∃ earlier now later, readings = earlier ++ now :: later ∧
    (after (polls earlier) modem).state = modem.state ∧
    (after (polls (earlier ++ [now])) modem).state = next

variable {modem : Modem σ} {next : LinkState} {count : Nat} {readings : List Millis}
  {now : Millis}

theorem not_stopsAt_nil : ¬ StopsAt count [] modem := by
  rintro ⟨earlier, now, later, hsplit, -⟩
  simp at hsplit

theorem StopsAt.append (h : StopsAt count readings modem) (later : List Millis) :
    StopsAt count (readings ++ later) modem := by
  obtain ⟨earlier, first, rest, rfl, hanswer⟩ := h
  exact ⟨earlier, first, rest ++ later, by simp, hanswer⟩

theorem stopsAt_concat :
    StopsAt count (readings ++ [now]) modem ↔
      StopsAt count readings modem ∨
        answered count (readOver (readings ++ [now]) modem) = true := by
  constructor
  · rintro ⟨earlier, first, later, hsplit, hanswer⟩
    rcases split_concat hsplit with ⟨rfl, rfl, -⟩ | ⟨rest, rfl, rfl⟩
    · exact .inr hanswer
    · exact .inl ⟨earlier, first, rest, rfl, hanswer⟩
  · rintro (hstops | hanswer)
    · exact hstops.append [now]
    · exact ⟨readings, now, [], rfl, hanswer⟩

theorem Acknowledged.append (h : Acknowledged next readings modem) (later : List Millis) :
    Acknowledged next (readings ++ later) modem := by
  obtain ⟨earlier, first, rest, rfl, hedge⟩ := h
  exact ⟨earlier, first, rest ++ later, by simp, hedge⟩

/-! ## Waiting for an acknowledgement -/

/-- Over polls, nothing but text has come in. -/
structure StillWaits (readings : List Millis) (modem : Modem σ) : Prop where
  state : (after (polls readings) modem).state = modem.state
  since : (after (polls readings) modem).since = modem.since
  text : (after (polls readings) modem).inBuf = newest bufferCapacity (readOver readings modem)

namespace StillWaits

theorem nil (hempty : modem.inBuf = []) : StillWaits [] modem where
  state := rfl
  since := rfl
  text := hempty.trans (newest_of_le (Nat.zero_le _)).symm

/-- What one more poll looks at is the end of all that was read. -/
theorem inBuf_fillInput (h : StillWaits readings modem) (now : Millis) :
    (after (polls readings) modem).fillInput.inBuf =
      newest bufferCapacity (readOver (readings ++ [now]) modem) := by
  have hshort : (after (polls readings) modem).inBuf.length ≤ bufferCapacity := by
    rw [h.text]
    exact length_newest_le _ _
  rw [Modem.inBuf_fillInput hshort, h.text, readOver_concat, newest_newest_append]

/-- One more poll steps on a text that ends with the answers just if all that was read does. -/
theorem due_eq (h : StillWaits readings modem)
    (hawaits : modem.state.awaits? = some (count, next)) (now : Millis) :
    ∃ heard, (after (polls readings) modem).fillInput.due now =
        modem.state.step (now.since modem.since) heard ∧
      answered count heard = answered count (readOver (readings ++ [now]) modem) := by
  refine ⟨_, ?_, answered_newest (LinkState.length_replies_of_awaits hawaits) _⟩
  rw [due, state_fillInput, since_fillInput, h.inBuf_fillInput now, h.state, h.since]

/-- A poll that stops behind the acknowledgement enters the next state. -/
theorem state_of_answered (h : StillWaits readings modem)
    (hawaits : modem.state.awaits? = some (count, next))
    (hanswer : answered count (readOver (readings ++ [now]) modem) = true) :
    (after (polls (readings ++ [now])) modem).state = next := by
  obtain ⟨heard, hdue, hsame⟩ := h.due_eq hawaits now
  obtain ⟨orders, hstep⟩ := LinkState.step_of_answered hawaits (hsame.trans hanswer)
  rw [after_polls_concat, state_poll, advance_of_some (hdue.trans hstep)]

/-- A poll that stops elsewhere adds to the text. -/
theorem concat (h : StillWaits readings modem)
    (hawaits : modem.state.awaits? = some (count, next))
    (hanswer : answered count (readOver (readings ++ [now]) modem) = false)
    (htimely : now.since modem.since ≤ replyTimeoutMillis) :
    StillWaits (readings ++ [now]) modem := by
  obtain ⟨heard, hdue, hsame⟩ := h.due_eq hawaits now
  have hrest := advance_of_none
    (hdue.trans (LinkState.step_of_unanswered hawaits (hsame.trans hanswer) htimely))
  have hstate : (after (polls readings) modem).fillInput.state ≠ .apiMode := by
    rw [state_fillInput, h.state]
    exact LinkState.ne_apiMode_of_awaits hawaits
  have hpoll : ((after (polls readings) modem).poll now).2 =
      (after (polls readings) modem).fillInput := by
    simp only [poll, hrest, if_neg hstate]
  constructor
  · rw [after_polls_concat, hpoll, state_fillInput, h.state]
  · rw [after_polls_concat, hpoll, since_fillInput, h.since]
  · rw [after_polls_concat, hpoll, h.inBuf_fillInput now]

end StillWaits

/-- While the timeout has not passed, a modem waits until the first poll that stops behind the
acknowledgement, and that poll enters the next state. -/
theorem stillWaits_or_acknowledged (hawaits : modem.state.awaits? = some (count, next))
    (hempty : modem.inBuf = [])
    (htimely : ∀ now ∈ readings, now.since modem.since ≤ replyTimeoutMillis) :
    (¬ StopsAt count readings modem ∧ StillWaits readings modem) ∨
      (StopsAt count readings modem ∧ Acknowledged next readings modem) := by
  induction readings using List.reverseRecOn with
  | nil => exact .inl ⟨not_stopsAt_nil, .nil hempty⟩
  | append_singleton readings now ih =>
    obtain ⟨hbefore, hnow⟩ := List.forall_mem_append.mp htimely
    rcases ih hbefore with ⟨hnever, hwaits⟩ | ⟨hstops, hedge⟩
    · cases hanswer : answered count (readOver (readings ++ [now]) modem) with
      | true =>
        have hedge : Acknowledged next (readings ++ [now]) modem :=
          ⟨readings, now, [], rfl, hwaits.state, hwaits.state_of_answered hawaits hanswer⟩
        exact .inr ⟨stopsAt_concat.mpr (.inr hanswer), hedge⟩
      | false =>
        refine .inl ⟨?_, hwaits.concat hawaits hanswer (hnow now (by simp))⟩
        simp [stopsAt_concat, hnever, hanswer]
    · exact .inr ⟨hstops.append [now], hedge.append [now]⟩

/-- The next state is entered by a poll that stops behind the acknowledgement only. -/
theorem Acknowledged.stopsAt (h : Acknowledged next readings modem)
    (hawaits : modem.state.awaits? = some (count, next)) (hempty : modem.inBuf = [])
    (htimely : ∀ now ∈ readings, now.since modem.since ≤ replyTimeoutMillis) :
    StopsAt count readings modem := by
  obtain ⟨earlier, now, later, hsplit, -, hnext⟩ := h
  rw [← List.singleton_append, ← List.append_assoc] at hsplit
  subst hsplit
  rcases stillWaits_or_acknowledged hawaits hempty (List.forall_mem_append.mp htimely).1 with
    ⟨-, hwaits⟩ | ⟨hstops, -⟩
  · exact absurd (hnext.symm.trans hwaits.state) (LinkState.next_ne_of_awaits hawaits)
  · exact hstops.append later

/-- A run whose text ends with the answers stops there with its last poll. -/
theorem stopsAt_of_suffix (hawaits : modem.state.awaits? = some (count, next))
    (h : (List.replicate count okReply).flatten <:+ readOver readings modem) :
    StopsAt count readings modem := by
  have hanswer : answered count (readOver readings modem) = true :=
    List.isSuffixOf_iff_suffix.mpr h
  rcases List.eq_nil_or_concat readings with rfl | ⟨earlier, now, rfl⟩
  · rw [readOver, LinkState.answered_nil_of_awaits hawaits] at hanswer
    cases hanswer
  · rw [List.concat_eq_append] at hanswer ⊢
    exact stopsAt_concat.mpr (.inr hanswer)

/-- What makes an acknowledgement heard before the timeout, for a modem that awaits it and has
read nothing yet : one of the polls stops reading where it ends, whatever came before and
however the text was cut. Such a poll enters the next state; without one the modem waits on. A
text that ends with the acknowledgement is always heard, and API mode once entered is kept. -/
theorem acknowledged_iff_stopsAt (hawaits : modem.state.awaits? = some (count, next))
    (hempty : modem.inBuf = [])
    (htimely : ∀ now ∈ readings, now.since modem.since ≤ replyTimeoutMillis) :
    (Acknowledged next readings modem ↔ StopsAt count readings modem) ∧
    (¬ StopsAt count readings modem → (after (polls readings) modem).state = modem.state) ∧
    ((List.replicate count okReply).flatten <:+ readOver readings modem →
      Acknowledged next readings modem) ∧
    (next = .apiMode →
      ((after (polls readings) modem).state = .apiMode ↔ StopsAt count readings modem)) := by
  have hwait := stillWaits_or_acknowledged hawaits hempty htimely
  have hhears : StopsAt count readings modem → Acknowledged next readings modem :=
    fun hstops => (hwait.resolve_left fun hnever => hnever.1 hstops).2
  have hstays : ¬ StopsAt count readings modem →
      (after (polls readings) modem).state = modem.state :=
    fun hnever => (hwait.resolve_right fun hedge => hnever hedge.1).2.state
  refine ⟨⟨fun hedge => hedge.stopsAt hawaits hempty htimely, hhears⟩, hstays,
    fun hsuffix => hhears (stopsAt_of_suffix hawaits hsuffix), ?_⟩
  rintro rfl
  constructor
  · intro hmode
    by_contra hnever
    exact LinkState.ne_apiMode_of_awaits hawaits ((hstays hnever).symm.trans hmode)
  · intro hstops
    obtain ⟨earlier, now, later, rfl, -, henters⟩ := hhears hstops
    rw [← List.singleton_append, ← List.append_assoc, polls, List.map_append, Radio.after_append]
    exact state_after _ henters

/-- Both answers in three pieces, with text before them and with a line end behind them. -/
theorem acknowledged_iff_stopsAt_pieces :
    let line : PacedLine := ⟨[[0x2B, 0x4F], [0x4B, 0x0D, 0x4F, 0x4B], [0x0D], [0x0A]]⟩
    let modem : Modem PacedLine := { ofLink line 1000 with state := .expectApi }
    let readings : List Millis := [1100, 1200, 2000, 2500]
    modem.state.awaits? = some (2, .apiMode) ∧ modem.inBuf = [] ∧
      (∀ now ∈ readings, now.since modem.since ≤ replyTimeoutMillis) ∧
      StopsAt 2 readings modem ∧ Acknowledged .apiMode readings modem ∧
      (after (polls readings) modem).state = .apiMode := by
  intro line modem readings
  have hawaits : modem.state.awaits? = some (2, .apiMode) := rfl
  have htimely : ∀ now ∈ readings, now.since modem.since ≤ replyTimeoutMillis := by
    intro now hnow
    simp only [readings, List.mem_cons, List.not_mem_nil, or_false] at hnow
    rcases hnow with rfl | rfl | rfl | rfl <;> decide
  have hstops : StopsAt 2 readings modem := ⟨[1100, 1200], 2000, [2500], rfl, by decide +kernel⟩
  obtain ⟨hiff, -, -, hmode⟩ := acknowledged_iff_stopsAt hawaits rfl htimely
  exact ⟨hawaits, rfl, htimely, hstops, hiff.mpr hstops, (hmode rfl).mpr hstops⟩

/-- The same text that leads to API mode in two reads does not in one : both answers with a line
end behind them. -/
theorem acknowledgement_overrun :
    let answers := okReply ++ okReply
    let modem (pieces : List (List UInt8)) : Modem PacedLine :=
      { ofLink ⟨pieces⟩ 1000 with state := .expectApi }
    let readings : List Millis := [1100, 1200]
    let split := modem [answers, [0x0A]]
    let whole := modem [answers ++ [0x0A]]
    (split.inBuf = [] ∧ whole.inBuf = [] ∧
      ∀ now ∈ readings, now.since split.since ≤ replyTimeoutMillis ∧
        now.since whole.since ≤ replyTimeoutMillis) ∧
    readOver readings split = answers ++ [0x0A] ∧ readOver readings whole = answers ++ [0x0A] ∧
    (after (polls readings) split).state = .apiMode ∧
    (after (polls readings) whole).state = .expectApi := by
  refine ⟨⟨rfl, rfl, fun now hnow => ?_⟩, ?_⟩
  · simp only [List.mem_cons, List.not_mem_nil, or_false] at hnow
    rcases hnow with rfl | rfl <;> decide
  · decide +kernel

end Modem

end CellStation
