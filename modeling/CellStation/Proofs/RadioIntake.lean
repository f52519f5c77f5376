import CellStation.Proofs.OutboundStream

/-!
# What a radio takes in

`Radio.Intake` is a radio that takes every frame for which it has room : the frame goes
behind the stream to the modem, and its size is taken from the space. Frames that fit then
all go into the stream (`Intake.stream_enqueues`, `Intake.space_enqueues`). A modem is such a
radio, whatever state it is in (`Modem.intake`) : before API mode it has no room at all.
-/

namespace CellStation

open Radio (Call answer after enqueues Fits)

/-- How a radio takes in every frame for which it has room. -/
structure Radio.Intake (ρ : Type) [Radio ρ] where
  /-- What holds of the radio whatever calls are made on it. -/
  sound : ρ → Prop
  /-- The bytes for the modem, sent already or waiting to be sent. -/
  stream : ρ → List UInt8
  sound_answer {radio : ρ} (call : Call) (h : sound radio) : sound (answer call radio).2
  stream_enqueue {radio : ρ} {frame : Frame} (h : sound radio)
    (hfits : frame.wireSize ≤ Radio.space radio) :
    stream (Radio.enqueue frame radio) = stream radio ++ frame.toWire
  space_enqueue {radio : ρ} {frame : Frame} (h : sound radio)
    (hfits : frame.wireSize ≤ Radio.space radio) :
    Radio.space (Radio.enqueue frame radio) + frame.wireSize = Radio.space radio

namespace Radio.Intake

variable {ρ : Type} [Radio ρ]

theorem sound_after (intake : Intake ρ) : ∀ (calls : List Call) {radio : ρ}, intake.sound radio →
    intake.sound (after calls radio)
  | [], _, h => h
  | call :: calls, _, h => sound_after intake calls (intake.sound_answer call h)

/-- Frames that fit make the stream longer by what they are written as. -/
theorem stream_enqueues (intake : Intake ρ) : ∀ {frames : List Frame} {radio : ρ},
    intake.sound radio → Fits frames radio →
    intake.stream (after (enqueues frames) radio) =
      intake.stream radio ++ frames.flatMap Frame.toWire
  | [], _, _, _ => (List.append_nil _).symm
  | frame :: frames, radio, h, hfits => by
    have hrest := stream_enqueues intake (intake.sound_answer (.enqueue frame) h) hfits.2
    rw [List.flatMap_cons, ← List.append_assoc, ← intake.stream_enqueue h hfits.1]
    exact hrest

/-- Frames that fit take their sizes from the space. -/
theorem space_enqueues (intake : Intake ρ) : ∀ {frames : List Frame} {radio : ρ},
    intake.sound radio → Fits frames radio →
    Radio.space (after (enqueues frames) radio) + (frames.map Frame.wireSize).sum =
      Radio.space radio
  | [], _, _, _ => rfl
  | frame :: frames, radio, h, hfits => by
    have hrest : Radio.space (after (enqueues frames) (Radio.enqueue frame radio)) + _ =
        Radio.space (Radio.enqueue frame radio) :=
      space_enqueues intake (intake.sound_answer (.enqueue frame) h) hfits.2
    rw [List.map_cons, List.sum_cons, ← intake.space_enqueue h hfits.1, ← hrest,
      Nat.add_assoc, Nat.add_comm frame.wireSize]
    rfl

end Radio.Intake

namespace Modem

open LinkCall (sentIn)

variable {σ : Type}

/-- Only in API mode is there room for a frame. -/
theorem apiMode_of_fits {modem : Modem σ} {frame : Frame} (h : frame.wireSize ≤ modem.space) :
    modem.state = .apiMode := by
  by_contra hwaiting
  rw [space, if_neg hwaiting, Frame.wireSize, frameOverhead] at h
  omega

variable [SerialLink σ]

/-- Frames given to a modem make no call on the line. -/
theorem link_enqueues : ∀ (frames : List Frame) (modem : Modem σ),
    (after (enqueues frames) modem).link = modem.link
  | [], _ => rfl
  | frame :: frames, modem => by
    obtain ⟨outBuf, heq⟩ := enqueue_eq frame modem
    have hrest := link_enqueues frames (modem.enqueue frame)
    rw [heq] at hrest
    show (after (enqueues frames) (modem.enqueue frame)).link = _
    rw [heq]
    exact hrest

/-- The output buffer keeps its size. -/
theorem capacity_answer (modem : Modem σ) (call : Call) :
    (answer call modem).2.outBuf.capacity = modem.outBuf.capacity := by
  cases call with
  | poll now =>
    show (modem.poll now).2.outBuf.capacity = _
    simp only [poll]
    split
    · rw [takeFrame_eq]
      simp
    · simp
  | enqueue frame =>
    show (modem.enqueue frame).outBuf.capacity = _
    unfold enqueue
    split
    · split
      · rfl
      · simp only [Ring.pushAll?]
        split <;> simp
    · rfl

/-- A modem takes in what it has room for. The stream is what the line has accepted,
followed by what is queued. -/
def intake : Radio.Intake (Modem (Recorded σ)) where
  sound modem := modem.outBuf.capacity = bufferCapacity
  stream modem := sentIn modem.link.calls ++ modem.outBuf.toList
  sound_answer call h := (capacity_answer _ call).trans h
  stream_enqueue {modem frame} h hfits := by
    obtain ⟨outBuf, heq, -, hlist⟩ := enqueue_of_le (apiMode_of_fits hfits) h hfits
    show sentIn (modem.enqueue frame).link.calls ++ (modem.enqueue frame).outBuf.toList = _
    rw [heq, hlist, List.append_assoc]
  space_enqueue h hfits := space_enqueue (apiMode_of_fits hfits) h hfits

end Modem

end CellStation
