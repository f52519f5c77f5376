import CellStation.Proofs.Framing
import CellStation.Proofs.ModemRuns

/-!
# The stream to the modem

A modem takes the frames for which it has room, whole, and drops every other
(`enqueue_of_le`, `enqueue_of_lt`). What it has taken is written bit by bit : as much as the
line reports to have room for, from the front of the queue, as often as it is polled. A
write may fail or accept less than it was offered; what was not accepted stays queued.

`outbound_stream` says that nothing is lost, doubled or torn on the way : what the line has
accepted in API mode, followed by what is still queued, is what the frames taken are
written as, in their order.
-/

namespace CellStation.Modem

open LinkCall (sentIn heardIn)
open Radio (Call answer admits after received admitted)

variable {σ : Type}

/-! ## Queueing a frame -/

/-- A frame for which there is room is within the limit of the codec. -/
theorem payloadSize_le_of_space {modem : Modem σ} {frame : Frame}
    (hcap : modem.outBuf.capacity = bufferCapacity) (h : frame.wireSize ≤ modem.space) :
    frame.payloadSize ≤ maxPayload := by
  have hspace : modem.space ≤ bufferCapacity := by
    rw [space]
    split
    · rw [Ring.available_eq, hcap]
      exact Nat.sub_le _ _
    · exact Nat.zero_le _
  simp only [Frame.wireSize, bufferCapacity] at h hspace
  simp only [Frame.payloadSize]
  omega

/-- A frame for which there is room is queued whole, behind what was queued. -/
theorem enqueue_of_le {modem : Modem σ} {frame : Frame} (hstate : modem.state = .apiMode)
    (hcap : modem.outBuf.capacity = bufferCapacity) (h : frame.wireSize ≤ modem.space) :
    ∃ outBuf, modem.enqueue frame = { modem with outBuf } ∧ outBuf.capacity = bufferCapacity ∧
      outBuf.toList = modem.outBuf.toList ++ frame.toWire := by
  have hsize := payloadSize_le_of_space hcap h
  have hroom : frame.toWire.length ≤ modem.outBuf.available := by
    rwa [Frame.length_toWire, ← space_of_apiMode hstate]
  refine ⟨modem.outBuf.fill frame.toWire, ?_, ?_, Ring.toList_fill _ _ hroom⟩
  · rw [enqueue, if_pos hstate, Frame.encode_of_le hsize]
    simp only [Ring.pushAll?, if_pos hroom, Option.getD_some]
  · rw [Ring.capacity_fill, hcap]

/-- A frame for which there is no room changes nothing. -/
theorem enqueue_of_lt {modem : Modem σ} {frame : Frame} (h : modem.space < frame.wireSize) :
    modem.enqueue frame = modem := by
  unfold enqueue
  split
  · rename_i hstate
    rw [space_of_apiMode hstate] at h
    split
    · rfl
    · rename_i wire hwire
      obtain ⟨-, rfl⟩ := Frame.encode_eq_ok hwire
      have hroom : ¬ frame.toWire.length ≤ modem.outBuf.available := by
        rw [Frame.length_toWire]
        omega
      simp only [Ring.pushAll?, if_neg hroom, Option.getD_none]
  · rfl

/-- A frame that is queued takes its size from the room. -/
theorem space_enqueue {modem : Modem σ} {frame : Frame} (hstate : modem.state = .apiMode)
    (hcap : modem.outBuf.capacity = bufferCapacity) (h : frame.wireSize ≤ modem.space) :
    (modem.enqueue frame).space + frame.wireSize = modem.space := by
  obtain ⟨outBuf, heq, hcap', hlist⟩ := enqueue_of_le hstate hcap h
  have hbefore : modem.space = bufferCapacity - modem.outBuf.toList.length := by
    rw [space_of_apiMode hstate, Ring.available_eq, hcap]
  have hafter : (modem.enqueue frame).space =
      bufferCapacity - (modem.outBuf.toList.length + frame.wireSize) := by
    have hstate' : (modem.enqueue frame).state = .apiMode := by rw [heq, hstate]
    rw [space_of_apiMode hstate', heq, Ring.available_eq, hcap', hlist, List.length_append,
      Frame.length_toWire]
  omega

/-! ## The stream -/

variable [SerialLink σ]

/-- A call in API mode on a recorded line : what the line takes during it, followed by what is
queued after it, is what was queued before it and the frame taken, if any. -/
theorem extends_answer (hlaw : SerialLink.WritesWithin σ) {modem : Modem (Recorded σ)}
    (call : Call) (hstate : modem.state = .apiMode)
    (hcap : modem.outBuf.capacity = bufferCapacity) :
    ∃ later, modem.link.Extends (answer call modem).2.link later ∧
      (answer call modem).2.outBuf.capacity = bufferCapacity ∧
      sentIn later ++ (answer call modem).2.outBuf.toList =
        modem.outBuf.toList ++ (admits modem call).toList.flatMap Frame.toWire := by
  cases call with
  | poll now =>
    have hpoll : answer (.poll now) modem = modem.fillInput.drainOutput.takeFrame :=
      poll_of_apiMode now hstate
    obtain ⟨heard, hheard, hquiet, -⟩ := modem.extends_hear
    obtain ⟨drained, hdrained, -, hkept, hsent⟩ := modem.fillInput.extends_drainOutput
    rw [link_fillInput] at hdrained
    rw [outBuf_fillInput] at hkept hsent
    rw [hpoll, takeFrame_eq]
    refine ⟨_, hheard.trans hdrained, hkept.trans hcap, ?_⟩
    rw [LinkCall.sentIn_append, LinkCall.sentIn_of_quiet hquiet, List.nil_append, hsent hlaw]
    simp [admits]
  | enqueue frame =>
    show ∃ later, modem.link.Extends (modem.enqueue frame).link later ∧
      (modem.enqueue frame).outBuf.capacity = bufferCapacity ∧
      sentIn later ++ (modem.enqueue frame).outBuf.toList = _
    by_cases hfits : frame.wireSize ≤ modem.space
    · have hadmits : admits modem (.enqueue frame) = some frame := if_pos hfits
      obtain ⟨outBuf, heq, hcap', hlist⟩ := enqueue_of_le hstate hcap hfits
      rw [heq, hadmits]
      exact ⟨[], .refl _, hcap', by simp [hlist]⟩
    · have hadmits : admits modem (.enqueue frame) = none := if_neg hfits
      rw [enqueue_of_lt (Nat.lt_of_not_le hfits), hadmits]
      exact ⟨[], .refl _, hcap, by simp⟩

theorem payloadSize_of_admits {modem : Modem σ} {call : Call} {frame : Frame}
    (hcap : modem.outBuf.capacity = bufferCapacity) (h : frame ∈ (admits modem call).toList) :
    frame.payloadSize ≤ maxPayload := by
  cases call with
  | poll now => simp [admits] at h
  | enqueue given =>
    by_cases hfits : given.wireSize ≤ modem.space
    · have hadmits : admits modem (.enqueue given) = some given := if_pos hfits
      obtain rfl : frame = given := by simpa [hadmits] using h
      exact payloadSize_le_of_space hcap hfits
    · have hadmits : admits modem (.enqueue given) = none := if_neg hfits
      simp [hadmits] at h

/-- Any calls in API mode on a recorded line. All frames taken are within the limit of the
codec, and the line takes what they are written as, up to what is still queued. -/
theorem extends_after (hlaw : SerialLink.WritesWithin σ) :
    ∀ (calls : List Call) {modem : Modem (Recorded σ)}, modem.state = .apiMode →
      modem.outBuf.capacity = bufferCapacity →
      ∃ later, modem.link.Extends (after calls modem).link later ∧
        (after calls modem).outBuf.capacity = bufferCapacity ∧
        (∀ frame ∈ admitted calls modem, frame.payloadSize ≤ maxPayload) ∧
        sentIn later ++ (after calls modem).outBuf.toList =
          modem.outBuf.toList ++ (admitted calls modem).flatMap Frame.toWire
  | [], _, _, hcap => ⟨[], .refl _, hcap, by simp [admitted], by simp [after, admitted]⟩
  | call :: calls, modem, hstate, hcap => by
    obtain ⟨now, hnow, hkept, hsent⟩ := extends_answer hlaw call hstate hcap
    obtain ⟨later, hlater, hcap', hsizes, hsent'⟩ :=
      extends_after hlaw calls (state_answer call hstate) hkept
    refine ⟨now ++ later, hnow.trans hlater, hcap', ?_, ?_⟩
    · intro frame hframe
      rcases List.mem_append.mp hframe with h | h
      · exact payloadSize_of_admits hcap h
      · exact hsizes frame h
    · rw [after, LinkCall.sentIn_append, List.append_assoc, hsent', ← List.append_assoc, hsent,
        admitted, List.flatMap_append, List.append_assoc]

/-- After any run of a modem over any line : the bytes the line has accepted since API mode
was entered, followed by those queued, are the encodings of the frames for which there was
room when they came, in their order. One more such frame takes its size from the room; one
for which there is no room changes nothing. -/
theorem outbound_stream (hlaw : SerialLink.WritesWithin σ) (up : BringUp (Recorded σ))
    (calls : List Call) :
    let modem := after (up.run calls) up.fresh
    (∃ later, up.entered.link.Extends modem.link later ∧
      Frame.encodeAll maxPayload (admitted (up.run calls) up.fresh) =
        .ok (sentIn later ++ modem.outBuf.toList)) ∧
    ∀ frame : Frame,
      (frame.wireSize ≤ modem.space →
        (modem.enqueue frame).space + frame.wireSize = modem.space) ∧
      (modem.space < frame.wireSize → modem.enqueue frame = modem) := by
  intro modem
  have hempty : up.entered.outBuf = .empty bufferCapacity := up.outBuf_entered
  obtain ⟨drained, hdrained, -, hkept, hsent⟩ := up.entered.extends_drainOutput
  rw [hempty, Ring.capacity_empty] at hkept
  rw [hempty, Ring.toList_empty] at hsent
  have hready : up.ready.outBuf.capacity = bufferCapacity := hkept
  obtain ⟨later, hlater, hcap, hsizes, hsent'⟩ := extends_after hlaw calls up.state_ready hready
  rw [← up.after_run] at hlater hcap hsent'
  have hstate : modem.state = .apiMode := by
    rw [show modem = _ from up.after_run calls]
    exact state_after calls up.state_ready
  refine ⟨⟨drained ++ later, hdrained.trans hlater, ?_⟩, fun frame => ⟨?_, ?_⟩⟩
  · rw [up.admitted_run, Frame.encodeAll_of_le hsizes, LinkCall.sentIn_append, List.append_assoc,
      hsent', ← List.append_assoc, show up.ready.outBuf = up.entered.drainOutput.outBuf from rfl,
      hsent hlaw, List.nil_append]
  · exact space_enqueue hstate hcap
  · exact enqueue_of_lt

/-- A frame of eight bytes, polled once over a line that accepts four at a time, with a frame
that is too long and one more that fits. -/
theorem outbound_stream_paced :
    let first : Frame := ⟨0x08, [0x01, 0x4E, 0x4A]⟩
    let long : Frame := ⟨0x44, List.replicate 1537 0⟩
    let calls : List Call := [.enqueue first, .poll 1206, .enqueue long, .enqueue first]
    let modem := after (BringUp.paced.run calls) BringUp.paced.fresh
    SerialLink.WritesWithin PacedLine ∧
      (∃ later, BringUp.paced.entered.link.Extends modem.link later ∧
        Frame.encodeAll maxPayload [first, first] =
          .ok (sentIn later ++ modem.outBuf.toList)) := by
  intro first long calls modem
  have hadmitted : admitted (BringUp.paced.run calls) BringUp.paced.fresh = [first, first] := by
    decide +kernel
  obtain ⟨hstream, -⟩ := outbound_stream PacedLine.writesWithin BringUp.paced calls
  rw [hadmitted] at hstream
  exact ⟨PacedLine.writesWithin, hstream⟩

end CellStation.Modem
