import CellStation.Proofs.BringUpEdges
import CellStation.Proofs.LineRecord
import CellStation.Proofs.RadioRuns
import CellStation.Radio.Modem

/-!
# Runs of a modem

What one call does to a modem, part by part : the line calls that filling the input buffer
and draining the output buffer make, and what they leave of both buffers. In API mode the
bring-up has nothing left to do, so a poll is filling, draining and taking a frame
(`poll_of_apiMode`), and no call leaves API mode (`state_answer`). Before API mode nothing
is handed out or taken (`answer_of_waiting`).

`Modem.BringUp` is a run of a new modem up to the poll that enters API mode, and
`BringUp.entered` the modem at the moment it is entered. Both buffers are empty then.
-/

namespace CellStation.Modem

open LinkCall (sentIn heardIn)
open Radio (Call answer admits after received admitted)

variable {σ : Type}

theorem takeFrame_eq (modem : Modem σ) :
    modem.takeFrame = ((Frame.decode maxPayload modem.inBuf).1,
      { modem with inBuf := (Frame.decode maxPayload modem.inBuf).2 }) := rfl

theorem space_of_apiMode {modem : Modem σ} (h : modem.state = .apiMode) :
    modem.space = modem.outBuf.available := by
  rw [space, if_pos h]

/-- Queueing concerns the output buffer only. -/
theorem enqueue_eq (frame : Frame) (modem : Modem σ) :
    ∃ outBuf, modem.enqueue frame = { modem with outBuf } := by
  unfold enqueue
  split
  · split
    · exact ⟨_, rfl⟩
    · exact ⟨_, rfl⟩
  · exact ⟨_, rfl⟩

variable [SerialLink σ]

/-! ## Filling the input buffer -/

theorem newest_of_le {count : Nat} {bytes : List UInt8} (h : bytes.length ≤ count) :
    newest count bytes = bytes := by
  rw [newest, Nat.sub_eq_zero_of_le h, List.drop_zero]

/-- Ask the line for what has arrived : the bytes it hands over, and the line after. -/
def hear (modem : Modem σ) : List UInt8 × σ :=
  match SerialLink.available modem.link with
  | (.error _, link) => ([], link)
  | (.ok available, link) =>
    if modem.wanted available = 0 then ([], link)
    else
      match SerialLink.read (modem.wanted available) link with
      | (.error _, link) => ([], link)
      | (.ok bytes, link) => (bytes.take (modem.wanted available), link)

/-- Filling concerns the line and the input buffer only. The bytes handed over go behind
those in the buffer, of which the newest are kept. -/
theorem fillInput_eq (modem : Modem σ) :
    ∃ inBuf, modem.fillInput = { modem with link := modem.hear.2, inBuf } ∧
      (modem.inBuf.length ≤ bufferCapacity →
        inBuf = newest bufferCapacity (modem.inBuf ++ modem.hear.1)) := by
  rcases hask : SerialLink.available modem.link with ⟨_ | available, asked⟩
  · simp only [fillInput, hear, hask]
    exact ⟨_, rfl, fun h => by simp [newest_of_le h]⟩
  by_cases hwant : modem.wanted available = 0
  · simp only [fillInput, hear, hask, hwant, if_true]
    exact ⟨_, rfl, fun h => by simp [newest_of_le h]⟩
  rcases hread : SerialLink.read (modem.wanted available) asked with ⟨_ | bytes, line⟩
  · simp only [fillInput, hear, hask, hwant, if_false, hread]
    exact ⟨_, rfl, fun h => by simp [newest_of_le h]⟩
  · simp only [fillInput, hear, hask, hwant, if_false, hread]
    exact ⟨_, rfl, fun _ => rfl⟩

@[simp] theorem link_fillInput (modem : Modem σ) : modem.fillInput.link = modem.hear.2 := by
  obtain ⟨inBuf, h, -⟩ := modem.fillInput_eq
  rw [h]

@[simp] theorem state_fillInput (modem : Modem σ) : modem.fillInput.state = modem.state := by
  obtain ⟨inBuf, h, -⟩ := modem.fillInput_eq
  rw [h]

@[simp] theorem since_fillInput (modem : Modem σ) : modem.fillInput.since = modem.since := by
  obtain ⟨inBuf, h, -⟩ := modem.fillInput_eq
  rw [h]

@[simp] theorem outBuf_fillInput (modem : Modem σ) : modem.fillInput.outBuf = modem.outBuf := by
  obtain ⟨inBuf, h, -⟩ := modem.fillInput_eq
  rw [h]

theorem inBuf_fillInput {modem : Modem σ} (hshort : modem.inBuf.length ≤ bufferCapacity) :
    modem.fillInput.inBuf = newest bufferCapacity (modem.inBuf ++ modem.hear.1) := by
  obtain ⟨inBuf, hfill, hnewest⟩ := modem.fillInput_eq
  rw [congrArg Modem.inBuf hfill]
  exact hnewest hshort

/-- In API mode no more is read than fits into the buffer. -/
theorem length_hear {modem : Modem σ} (h : modem.state = .apiMode) :
    modem.hear.1.length ≤ bufferCapacity - modem.inBuf.length := by
  unfold hear
  split
  · simp
  · rename_i available link _
    have hwant : modem.wanted available ≤ bufferCapacity - modem.inBuf.length := by
      rw [wanted, if_pos h]
      exact Nat.min_le_right _ _
    split
    · simp
    · split
      · simp
      · simp only [List.length_take]
        omega

/-- On a recorded line : the bytes handed over are those of the calls made, and none of
these calls carries out an order. -/
theorem extends_hear (modem : Modem (Recorded σ)) :
    ∃ later, modem.link.Extends modem.hear.2 later ∧ (∀ call ∈ later, call.order? = none) ∧
      (SerialLink.ReadsWithin σ → heardIn later = modem.hear.1) := by
  have hasked := Recorded.extends_available modem.link
  unfold hear
  split
  · rename_i h
    rw [h] at hasked
    exact ⟨_, hasked, by simp [LinkCall.order?], fun _ => rfl⟩
  · rename_i available link h
    rw [h] at hasked
    split
    · exact ⟨_, hasked, by simp [LinkCall.order?], fun _ => rfl⟩
    · have hread := hasked.trans (Recorded.extends_read (modem.wanted available) link)
      split
      · rename_i h
        rw [h] at hread
        exact ⟨_, hread, by simp [LinkCall.order?], fun _ => rfl⟩
      · rename_i bytes line h
        rw [h] at hread
        refine ⟨_, hread, by simp [LinkCall.order?], fun hlaw => ?_⟩
        have hsize := Recorded.readsWithin hlaw _ _ _ (congrArg Prod.fst h)
        simp [LinkCall.heard, Except.toOption, List.take_of_length_le hsize]

/-! ## Draining the output buffer -/

/-- Draining concerns the line and the output buffer only, which keeps its size. -/
theorem drainOutput_eq (modem : Modem σ) :
    ∃ link outBuf, modem.drainOutput = { modem with link, outBuf } ∧
      outBuf.capacity = modem.outBuf.capacity := by
  rcases hroom : SerialLink.writable modem.link with ⟨writable, link⟩
  by_cases hcount : min writable modem.outBuf.size = 0
  · simp only [drainOutput, hroom, hcount, if_true]
    exact ⟨_, _, rfl, rfl⟩
  rcases hwrite : SerialLink.write (modem.outBuf.front.take (min writable modem.outBuf.size)) link
    with ⟨_ | written, line⟩
  · simp only [drainOutput, hroom, hcount, if_false, hwrite]
    exact ⟨_, _, rfl, rfl⟩
  · simp only [drainOutput, hroom, hcount, if_false, hwrite]
    exact ⟨_, _, rfl, Ring.capacity_consume _ _⟩

@[simp] theorem state_drainOutput (modem : Modem σ) : modem.drainOutput.state = modem.state := by
  obtain ⟨link, outBuf, h, -⟩ := modem.drainOutput_eq
  rw [h]

@[simp] theorem since_drainOutput (modem : Modem σ) : modem.drainOutput.since = modem.since := by
  obtain ⟨link, outBuf, h, -⟩ := modem.drainOutput_eq
  rw [h]

@[simp] theorem inBuf_drainOutput (modem : Modem σ) : modem.drainOutput.inBuf = modem.inBuf := by
  obtain ⟨link, outBuf, h, -⟩ := modem.drainOutput_eq
  rw [h]

@[simp] theorem capacity_drainOutput (modem : Modem σ) :
    modem.drainOutput.outBuf.capacity = modem.outBuf.capacity := by
  obtain ⟨link, outBuf, h, hcap⟩ := modem.drainOutput_eq
  rw [h, hcap]

/-- On a recorded line : nothing is read, and the bytes the line took are the oldest that
were queued. -/
theorem extends_drainOutput (modem : Modem (Recorded σ)) :
    ∃ later, modem.link.Extends modem.drainOutput.link later ∧ heardIn later = [] ∧
      modem.drainOutput.outBuf.capacity = modem.outBuf.capacity ∧
      (SerialLink.WritesWithin σ →
        sentIn later ++ modem.drainOutput.outBuf.toList = modem.outBuf.toList) := by
  have hasked := Recorded.extends_writable modem.link
  rcases hroom : SerialLink.writable modem.link with ⟨writable, link⟩
  rw [hroom] at hasked
  by_cases hcount : min writable modem.outBuf.size = 0
  · simp only [drainOutput, hroom, hcount, if_true]
    exact ⟨_, hasked, rfl, trivial, fun _ => rfl⟩
  have hwrote := hasked.trans
    (Recorded.extends_write (modem.outBuf.front.take (min writable modem.outBuf.size)) link)
  rcases hwrite : SerialLink.write (modem.outBuf.front.take (min writable modem.outBuf.size)) link
    with ⟨_ | written, line⟩
  · rw [hwrite] at hwrote
    simp only [drainOutput, hroom, hcount, if_false, hwrite]
    exact ⟨_, hwrote, rfl, trivial, fun _ => rfl⟩
  · rw [hwrite] at hwrote
    simp only [drainOutput, hroom, hcount, if_false, hwrite]
    refine ⟨_, hwrote, rfl, by simp, fun hlaw => ?_⟩
    have hwithin := Recorded.writesWithin hlaw _ _ _ (congrArg Prod.fst hwrite)
    simp [LinkCall.sent, Except.toOption, Ring.take_take_front _ hwithin, Ring.toList_consume]

/-! ## One call -/

theorem advance_of_apiMode {modem : Modem σ} (now : Millis) (h : modem.state = .apiMode) :
    modem.advance now = modem := by
  rw [advance, h]
  rfl

@[simp] theorem outBuf_advance (modem : Modem σ) (now : Millis) :
    (modem.advance now).outBuf = modem.outBuf := by
  unfold advance
  split <;> rfl

/-- A poll changes the state as the bring-up has it. -/
theorem state_poll (modem : Modem σ) (now : Millis) :
    (modem.poll now).2.state = (modem.fillInput.advance now).state := by
  rw [poll]
  split
  · rw [takeFrame_eq]
    exact state_drainOutput _
  · rfl

theorem since_poll (modem : Modem σ) (now : Millis) :
    (modem.poll now).2.since = (modem.fillInput.advance now).since := by
  rw [poll]
  split
  · rw [takeFrame_eq]
    exact since_drainOutput _
  · rfl

/-- A poll in API mode is filling, draining and taking a frame. -/
theorem poll_of_apiMode {modem : Modem σ} (now : Millis) (h : modem.state = .apiMode) :
    modem.poll now = modem.fillInput.drainOutput.takeFrame := by
  have hfill : modem.fillInput.state = .apiMode := by rw [state_fillInput, h]
  rw [poll]
  simp only [advance_of_apiMode now hfill, hfill, if_true]

/-- API mode is never left. -/
theorem state_answer {modem : Modem σ} (call : Call) (h : modem.state = .apiMode) :
    (answer call modem).2.state = .apiMode := by
  cases call with
  | poll now =>
    show (modem.poll now).2.state = .apiMode
    rw [poll_of_apiMode now h, takeFrame_eq]
    simpa using h
  | enqueue frame =>
    obtain ⟨outBuf, heq⟩ := enqueue_eq frame modem
    show (modem.enqueue frame).state = .apiMode
    rw [heq]
    exact h

theorem state_after : ∀ (calls : List Call) {modem : Modem σ}, modem.state = .apiMode →
    (after calls modem).state = .apiMode
  | [], _, h => h
  | call :: calls, _, h => state_after calls (state_answer call h)

/-- A call that does not lead to API mode hands out nothing, takes nothing and queues
nothing. -/
theorem answer_of_waiting {modem : Modem σ} {call : Call}
    (h : (answer call modem).2.state ≠ .apiMode) :
    (answer call modem).1 = none ∧ admits modem call = none ∧
      (answer call modem).2.outBuf = modem.outBuf := by
  have hwaiting : modem.state ≠ .apiMode := fun hstate => h (state_answer call hstate)
  cases call with
  | poll now =>
    have hpoll : modem.poll now = (none, modem.fillInput.advance now) := by
      simp only [poll]
      split
      · rename_i hstate
        refine absurd ?_ h
        show (modem.poll now).2.state = .apiMode
        simp [poll, hstate, takeFrame_eq]
      · rfl
    refine ⟨congrArg Prod.fst hpoll, rfl, ?_⟩
    show (modem.poll now).2.outBuf = modem.outBuf
    rw [hpoll]
    simp
  | enqueue frame =>
    have hspace : modem.space = 0 := by rw [space, if_neg hwaiting]
    have hdropped : modem.enqueue frame = modem := by rw [enqueue, if_neg hwaiting]
    refine ⟨rfl, if_neg ?_, congrArg outBuf hdropped⟩
    show ¬ frame.wireSize ≤ modem.space
    rw [hspace, Frame.wireSize, frameOverhead]
    omega

/-- As long as API mode is not reached, nothing is handed out, taken or queued. -/
theorem after_of_waiting : ∀ {calls : List Call} {modem : Modem σ},
    (after calls modem).state ≠ .apiMode →
      received calls modem = [] ∧ admitted calls modem = [] ∧
        (after calls modem).outBuf = modem.outBuf
  | [], _, _ => ⟨rfl, rfl, rfl⟩
  | call :: calls, modem, h => by
    have hcall : (answer call modem).2.state ≠ .apiMode := fun hstate =>
      h (state_after calls hstate)
    obtain ⟨hframe, hadmits, hbuf⟩ := answer_of_waiting hcall
    have hrest : (after calls (answer call modem).2).state ≠ .apiMode := h
    obtain ⟨hreceived, hadmitted, hafter⟩ := after_of_waiting hrest
    exact ⟨by simp [received, hframe, hreceived], by simp [admitted, hadmits, hadmitted],
      hafter.trans hbuf⟩

/-! ## Entering API mode -/

/-- API mode is entered on both answers only, and the text is forgotten then. -/
theorem step_apiMode {state : LinkState} {elapsed : Millis} {heard : List UInt8}
    {transition : Transition} (h : state.step elapsed heard = some transition)
    (hnext : transition.next = .apiMode) :
    state = .expectApi ∧ LinkState.answered 2 heard = true ∧ transition = ⟨[], true, .apiMode⟩ := by
  cases LinkState.step_eq_some_iff.mp h with
  | answeredApi hanswer => exact ⟨rfl, hanswer, rfl⟩
  | _ => cases hnext

theorem inBuf_advance {modem : Modem σ} {now : Millis} (hwaiting : modem.state ≠ .apiMode)
    (henters : (modem.advance now).state = .apiMode) : (modem.advance now).inBuf = [] := by
  unfold advance at henters ⊢
  split at henters
  · exact absurd henters hwaiting
  · rename_i transition hstep
    obtain ⟨-, -, rfl⟩ := step_apiMode hstep henters
    rfl

/-- A poll begun before API mode hands out no frame, not even the one that enters it. -/
theorem poll_of_waiting {modem : Modem σ} (now : Millis) (h : modem.state ≠ .apiMode) :
    (modem.poll now).1 = none := by
  have hfill : modem.fillInput.state ≠ .apiMode := by rwa [state_fillInput]
  rw [poll]
  split
  · rename_i henters
    rw [takeFrame_eq, inBuf_drainOutput, inBuf_advance hfill henters]
    rfl
  · rfl

/-- A run of a new modem up to the poll that enters API mode. -/
structure BringUp (σ : Type) [SerialLink σ] where
  link : σ
  start : Millis
  /-- The calls before API mode. -/
  calls : List Call
  /-- The reading at the poll that enters API mode. -/
  now : Millis
  waiting : (after calls (ofLink link start)).state ≠ .apiMode
  enters : ((after calls (ofLink link start)).fillInput.advance now).state = .apiMode

namespace BringUp

/-- The new modem. -/
def fresh (up : BringUp σ) : Modem σ := ofLink up.link up.start

/-- The modem at the moment API mode is entered. -/
def entered (up : BringUp σ) : Modem σ := (after up.calls up.fresh).fillInput.advance up.now

/-- The modem after the poll that enters API mode. -/
def ready (up : BringUp σ) : Modem σ := up.entered.drainOutput.takeFrame.2

/-- The whole run, with `calls` made in API mode. -/
def run (up : BringUp σ) (calls : List Call) : List Call := up.calls ++ .poll up.now :: calls

theorem state_entered (up : BringUp σ) : up.entered.state = .apiMode := up.enters

theorem inBuf_entered (up : BringUp σ) : up.entered.inBuf = [] := by
  refine inBuf_advance ?_ up.enters
  rw [state_fillInput]
  exact up.waiting

theorem outBuf_entered (up : BringUp σ) : up.entered.outBuf = .empty bufferCapacity := by
  rw [entered, outBuf_advance, outBuf_fillInput]
  exact (after_of_waiting up.waiting).2.2

/-- The poll that enters API mode hands out nothing. -/
theorem poll_now (up : BringUp σ) :
    (after up.calls up.fresh).poll up.now = (none, up.ready) := by
  have henters := up.enters
  have hpoll : (after up.calls up.fresh).poll up.now = up.entered.drainOutput.takeFrame := by
    rw [poll, entered, fresh]
    simp only [henters, if_true]
  rw [hpoll, ready, takeFrame_eq, inBuf_drainOutput, inBuf_entered]
  rfl

theorem state_ready (up : BringUp σ) : up.ready.state = .apiMode := by
  rw [ready, takeFrame_eq]
  exact (state_drainOutput _).trans up.state_entered

theorem inBuf_ready (up : BringUp σ) : up.ready.inBuf = [] := by
  rw [ready, takeFrame_eq, inBuf_drainOutput, inBuf_entered]
  rfl

theorem after_run (up : BringUp σ) (calls : List Call) :
    after (up.run calls) up.fresh = after calls up.ready := by
  have hpoll : answer (.poll up.now) (after up.calls up.fresh) = (none, up.ready) := up.poll_now
  rw [run, Radio.after_append, after, hpoll]

/-- All frames are handed out in API mode. -/
theorem received_run (up : BringUp σ) (calls : List Call) :
    received (up.run calls) up.fresh = received calls up.ready := by
  have hpoll : answer (.poll up.now) (after up.calls up.fresh) = (none, up.ready) := up.poll_now
  have hbefore : received up.calls up.fresh = [] := (after_of_waiting up.waiting).1
  rw [run, Radio.received_append, hbefore, received, hpoll]
  rfl

/-- All frames are taken in API mode. -/
theorem admitted_run (up : BringUp σ) (calls : List Call) :
    admitted (up.run calls) up.fresh = admitted calls up.ready := by
  have hpoll : answer (.poll up.now) (after up.calls up.fresh) = (none, up.ready) := up.poll_now
  have hbefore : admitted up.calls up.fresh = [] := (after_of_waiting up.waiting).2.1
  rw [run, Radio.admitted_append, hbefore, admitted, hpoll]
  rfl

/-- A bring-up over a line whose modem answers every command. In API mode a frame comes in
two pieces, the second with the delimiter of one more. -/
def paced : BringUp (Recorded PacedLine) where
  link := .ofLine ⟨[[0], [0], okReply, [0], okReply, okReply ++ okReply,
    [0x7E, 0x00], [0x02, 0x8A, 0x00, 0x75, 0x7E]]⟩
  start := 0
  calls := [.poll 0, .poll 1101, .poll 1102, .poll 1203, .poll 1204]
  now := 1205
  waiting := by decide +kernel
  enters := by decide +kernel

end BringUp

end CellStation.Modem
