import CellStation.Proofs.ModemRuns

/-!
# A record changes nothing

What a modem does is read off a recorded line. The record is only kept : a modem on a
recorded line, with the record forgotten, is the modem on the line itself, after every run
and with the same frames handed out (`after_forget`). So what is proved of recorded lines
holds of every line.
-/

namespace CellStation

namespace Recorded

variable {σ : Type} (line : Recorded σ)

@[simp] theorem line_note (call : LinkCall) (inner : σ) : (line.note call inner).line = inner := rfl

variable [SerialLink σ]

theorem available_eq : SerialLink.available line = ((SerialLink.available line.line).1,
    line.note (.available (SerialLink.available line.line).1.toOption)
      (SerialLink.available line.line).2) := rfl

theorem read_eq (size : Nat) : SerialLink.read size line = ((SerialLink.read size line.line).1,
    line.note (.read size (SerialLink.read size line.line).1.toOption)
      (SerialLink.read size line.line).2) := rfl

theorem write_eq (bytes : List UInt8) : SerialLink.write bytes line =
    ((SerialLink.write bytes line.line).1,
      line.note (.write bytes (SerialLink.write bytes line.line).1.toOption)
        (SerialLink.write bytes line.line).2) := rfl

theorem writable_eq : SerialLink.writable line = ((SerialLink.writable line.line).1,
    line.note (.writable (SerialLink.writable line.line).1)
      (SerialLink.writable line.line).2) := rfl

end Recorded

namespace Modem

open Radio (Call answer after received)

variable {σ : Type} [SerialLink σ]

/-- The modem without the record of its line. -/
def forget (modem : Modem (Recorded σ)) : Modem σ :=
  ⟨modem.link.line, modem.state, modem.since, modem.inBuf, modem.outBuf⟩

theorem carryOut_forget : ∀ (orders : List LineOrder) (link : Recorded σ),
    (orders.foldl carryOut link).line = orders.foldl carryOut link.line
  | [], _ => rfl
  | order :: orders, link => by
    rw [List.foldl_cons, List.foldl_cons, carryOut_forget orders]
    cases order <;> rfl

theorem fillInput_forget (modem : Modem (Recorded σ)) :
    modem.forget.fillInput = modem.fillInput.forget := by
  have hlink : modem.forget.link = modem.link.line := rfl
  have hwanted : modem.forget.wanted = modem.wanted := rfl
  rcases hask : SerialLink.available modem.link.line with ⟨_ | available, asked⟩
  · simp only [fillInput, hlink, Recorded.available_eq, hask]
    rfl
  by_cases hwant : modem.wanted available = 0
  · simp only [fillInput, hlink, Recorded.available_eq, hask, hwanted, hwant, if_true]
    rfl
  rcases hread : SerialLink.read (modem.wanted available) asked with ⟨_ | bytes, line⟩
  · simp only [fillInput, hlink, Recorded.available_eq, hask, hwanted, hwant, if_false,
      Recorded.read_eq, Recorded.line_note, hread]
    rfl
  · simp only [fillInput, hlink, Recorded.available_eq, hask, hwanted, hwant, if_false,
      Recorded.read_eq, Recorded.line_note, hread]
    simp only [forget, Recorded.line_note]

theorem drainOutput_forget (modem : Modem (Recorded σ)) :
    modem.forget.drainOutput = modem.drainOutput.forget := by
  have hlink : modem.forget.link = modem.link.line := rfl
  have hqueue : modem.forget.outBuf = modem.outBuf := rfl
  rcases hroom : SerialLink.writable modem.link.line with ⟨writable, asked⟩
  by_cases hcount : min writable modem.outBuf.size = 0
  · simp only [drainOutput, hlink, hqueue, Recorded.writable_eq, hroom, hcount, if_true]
    rfl
  rcases hwrite : SerialLink.write (modem.outBuf.front.take (min writable modem.outBuf.size)) asked
    with ⟨_ | written, line⟩
  · simp only [drainOutput, hlink, hqueue, Recorded.writable_eq, hroom, hcount, if_false,
      Recorded.write_eq, Recorded.line_note, hwrite]
    rfl
  · simp only [drainOutput, hlink, hqueue, Recorded.writable_eq, hroom, hcount, if_false,
      Recorded.write_eq, Recorded.line_note, hwrite]
    simp only [forget, Recorded.line_note]

theorem advance_forget (modem : Modem (Recorded σ)) (now : Millis) :
    modem.forget.advance now = (modem.advance now).forget := by
  have hstep : modem.forget.state.step (now.since modem.forget.since) modem.forget.inBuf =
      modem.state.step (now.since modem.since) modem.inBuf := rfl
  unfold advance
  rw [hstep]
  split
  · rfl
  · simp only [forget, carryOut_forget]

theorem poll_forget (modem : Modem (Recorded σ)) (now : Millis) :
    modem.forget.poll now = ((modem.poll now).1, (modem.poll now).2.forget) := by
  have hstate : ∀ modem : Modem (Recorded σ), modem.forget.state = modem.state := fun _ => rfl
  simp only [poll, fillInput_forget, advance_forget, hstate]
  split
  · rw [drainOutput_forget]
    rfl
  · rfl

theorem answer_forget (modem : Modem (Recorded σ)) (call : Call) :
    answer call modem.forget = ((answer call modem).1, (answer call modem).2.forget) := by
  cases call with
  | poll now => exact modem.poll_forget now
  | enqueue frame =>
    refine Prod.ext rfl ?_
    show modem.forget.enqueue frame = (modem.enqueue frame).forget
    unfold enqueue
    simp only [show modem.forget.state = modem.state from rfl]
    split
    · split <;> rfl
    · rfl

/-- A record of the line changes nothing : the frames handed out are the same, and so is the
modem but for the record. -/
theorem after_forget : ∀ (calls : List Call) (modem : Modem (Recorded σ)),
    received calls modem.forget = received calls modem ∧
      after calls modem.forget = (after calls modem).forget
  | [], _ => ⟨rfl, rfl⟩
  | call :: calls, modem => by
    obtain ⟨hreceived, hafter⟩ := after_forget calls (answer call modem).2
    simp only [received, after, answer_forget, hreceived, hafter]
    exact ⟨trivial, trivial⟩

end Modem

end CellStation
