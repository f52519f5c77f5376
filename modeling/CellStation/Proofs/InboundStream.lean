import CellStation.Proofs.Deframing
import CellStation.Proofs.ModemRuns

/-!
# The stream from the modem

In API mode a poll reads what there is room for and takes at most one frame, so frames
that have arrived may wait for later polls. The buffer never holds more than its capacity,
and no more is read than fits : the rule by which the oldest text gives way before API mode
never applies (`fillInput_of_apiMode`). So a poll is one call of `Frame.decode` on the
bytes held back followed by those it read (`poll_inBuf`), and the polls of a run are a
reader at work on the stream (`yields_after`).

`inbound_stream` says that nothing is lost or seen twice on the way : the frames handed out
so far, followed by those still in the buffer, are the frames of all bytes read in API mode.
-/

namespace CellStation.Modem

open LinkCall (sentIn heardIn)
open Radio (Call answer admits after received admitted)

variable {σ : Type} [SerialLink σ]

/-- In API mode every byte read goes behind those held back. -/
theorem fillInput_of_apiMode {modem : Modem σ} (hstate : modem.state = .apiMode)
    (hbuf : modem.inBuf.length ≤ bufferCapacity) :
    modem.fillInput.inBuf = modem.inBuf ++ modem.hear.1 := by
  have hroom := length_hear hstate
  rw [inBuf_fillInput hbuf, newest_of_le]
  rw [List.length_append]
  omega

/-- A poll in API mode on a recorded line : the reader is given the bytes held back and then
those read, and nothing else. -/
theorem poll_inBuf (hlaw : SerialLink.ReadsWithin σ) {modem : Modem (Recorded σ)} (now : Millis)
    (hstate : modem.state = .apiMode) (hbuf : modem.inBuf.length ≤ bufferCapacity) :
    ∃ later, modem.link.Extends (modem.poll now).2.link later ∧
      Frame.decode maxPayload (modem.inBuf ++ heardIn later) =
        ((modem.poll now).1, (modem.poll now).2.inBuf) ∧
      (modem.poll now).2.inBuf.length ≤ bufferCapacity := by
  obtain ⟨heard, hheard, -, hbytes⟩ := modem.extends_hear
  obtain ⟨drained, hdrained, hsilent, -⟩ := modem.fillInput.extends_drainOutput
  rw [link_fillInput] at hdrained
  have hfill := fillInput_of_apiMode hstate hbuf
  have hroom := length_hear hstate
  rw [poll_of_apiMode now hstate, takeFrame_eq, inBuf_drainOutput, hfill]
  refine ⟨_, hheard.trans hdrained, ?_, ?_⟩
  · rw [LinkCall.heardIn_append, hsilent, List.append_nil, hbytes hlaw]
  · have hshort := Frame.length_decode_le maxPayload (modem.inBuf ++ modem.hear.1)
    rw [List.length_append] at hshort
    simp only
    omega

/-- A call in API mode on a recorded line is a reader at work on the bytes it reads. -/
theorem yields_answer (hlaw : SerialLink.ReadsWithin σ) {modem : Modem (Recorded σ)} (call : Call)
    (hstate : modem.state = .apiMode) (hbuf : modem.inBuf.length ≤ bufferCapacity) :
    ∃ later, modem.link.Extends (answer call modem).2.link later ∧
      (answer call modem).2.inBuf.length ≤ bufferCapacity ∧
      Frame.Yields maxPayload (modem.inBuf ++ heardIn later) (answer call modem).1.toList
        (answer call modem).2.inBuf := by
  cases call with
  | poll now =>
    obtain ⟨later, hlater, hdecode, hshort⟩ := poll_inBuf hlaw now hstate hbuf
    refine ⟨later, hlater, hshort, ?_⟩
    have hyields := Frame.yields_decode maxPayload (modem.inBuf ++ heardIn later)
    rwa [hdecode] at hyields
  | enqueue frame =>
    obtain ⟨outBuf, heq⟩ := enqueue_eq frame modem
    have hanswer : answer (.enqueue frame) modem = (none, { modem with outBuf }) :=
      congrArg (Prod.mk none) heq
    rw [hanswer]
    refine ⟨[], .refl _, hbuf, ?_⟩
    rw [LinkCall.heardIn_nil, List.append_nil]
    exact .refl maxPayload modem.inBuf

/-- Any calls in API mode on a recorded line are a reader at work on the bytes they read. -/
theorem yields_after (hlaw : SerialLink.ReadsWithin σ) :
    ∀ (calls : List Call) {modem : Modem (Recorded σ)}, modem.state = .apiMode →
      modem.inBuf.length ≤ bufferCapacity →
      ∃ later, modem.link.Extends (after calls modem).link later ∧
        (after calls modem).inBuf.length ≤ bufferCapacity ∧
        Frame.Yields maxPayload (modem.inBuf ++ heardIn later) (received calls modem)
          (after calls modem).inBuf
  | [], modem, _, hbuf => by
    refine ⟨[], .refl _, hbuf, ?_⟩
    rw [LinkCall.heardIn_nil, List.append_nil]
    exact .refl maxPayload modem.inBuf
  | call :: calls, modem, hstate, hbuf => by
    obtain ⟨now, hnow, hshort, hyields⟩ := yields_answer hlaw call hstate hbuf
    obtain ⟨later, hlater, hbuf', hyields'⟩ :=
      yields_after hlaw calls (state_answer call hstate) hshort
    refine ⟨now ++ later, hnow.trans hlater, hbuf', ?_⟩
    rw [LinkCall.heardIn_append, ← List.append_assoc]
    exact (hyields.append (heardIn later)).trans hyields'

/-- After any run of a modem over any line : the frames handed out so far, followed by those
that the bytes held back give, are the frames of all bytes read since API mode was entered,
and the same bytes are left. The next poll gives the reader the bytes held back and then
those it reads, each once. -/
theorem inbound_stream (hlaw : SerialLink.ReadsWithin σ) (up : BringUp (Recorded σ))
    (calls : List Call) :
    let modem := after (up.run calls) up.fresh
    let held := Frame.decodeAll maxPayload modem.inBuf
    (∃ later, up.entered.link.Extends modem.link later ∧
      (received (up.run calls) up.fresh ++ held.1, held.2) =
        Frame.decodeAll maxPayload (heardIn later)) ∧
    ∀ now, ∃ later, modem.link.Extends (modem.poll now).2.link later ∧
      Frame.decode maxPayload (modem.inBuf ++ heardIn later) =
        ((modem.poll now).1, (modem.poll now).2.inBuf) := by
  intro modem held
  obtain ⟨drained, hdrained, hsilent, -⟩ := up.entered.extends_drainOutput
  have hready : up.ready.inBuf = [] := up.inBuf_ready
  have hroom : up.ready.inBuf.length ≤ bufferCapacity := by simp [hready]
  obtain ⟨later, hlater, hbuf, hyields⟩ := yields_after hlaw calls up.state_ready hroom
  have hstate : modem.state = .apiMode := by
    rw [show modem = _ from up.after_run calls]
    exact state_after calls up.state_ready
  rw [← up.after_run] at hlater hbuf hyields
  rw [← up.received_run, hready, List.nil_append] at hyields
  refine ⟨⟨drained ++ later, hdrained.trans hlater, ?_⟩, fun now => ?_⟩
  · rw [LinkCall.heardIn_append, hsilent, List.nil_append]
    exact hyields.decodeAll_eq
  · obtain ⟨read, hread, hdecode, -⟩ := poll_inBuf hlaw now hstate hbuf
    exact ⟨read, hread, hdecode⟩

/-- A frame that comes in two pieces, the second with a delimiter behind it. -/
theorem inbound_stream_paced :
    let calls : List Call := [.poll 1206, .poll 1207]
    let modem := after (BringUp.paced.run calls) BringUp.paced.fresh
    SerialLink.ReadsWithin PacedLine ∧
      modem.inBuf = [0x7E] ∧
      ∃ later, BringUp.paced.entered.link.Extends modem.link later ∧
        ([⟨0x8A, [0x00]⟩] ++ (Frame.decodeAll maxPayload modem.inBuf).1,
          (Frame.decodeAll maxPayload modem.inBuf).2) =
            Frame.decodeAll maxPayload (heardIn later) := by
  intro calls modem
  have hreceived : received (BringUp.paced.run calls) BringUp.paced.fresh = [⟨0x8A, [0x00]⟩] := by
    decide +kernel
  obtain ⟨hstream, -⟩ := inbound_stream PacedLine.readsWithin BringUp.paced calls
  rw [hreceived] at hstream
  exact ⟨PacedLine.readsWithin, by decide +kernel, hstream⟩

end CellStation.Modem
