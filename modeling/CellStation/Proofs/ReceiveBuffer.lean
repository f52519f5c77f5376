import CellStation.Proofs.Acknowledgements
import CellStation.Proofs.Resynchronisation

/-!
# The receive buffer

The input buffer holds one frame of the largest size and never more. A poll reads into it,
lets the bring-up look at it, and in API mode takes a frame out of it.

In API mode as much is read as there is room for, and a reader that gives no frame waits for
at least one more byte (`Frame.length_of_decode_none`), so there is room again for the next
poll. Before, all is read that has arrived and the oldest bytes give way. What the buffer then
holds are the newest bytes of the text read since it was last cleared (`Modem.textAfter`), and
as the answers awaited are short, the bring-up does what it would do with the whole text
(`LinkState.step_newest`). `Modem.receive_buffer` says this of every run, whatever the line
reports and however its calls fail.
-/

namespace CellStation

open LinkCall (heardIn)
open Radio (Call answer after)

/-- The bring-up sees in the newest bytes of a text all that it looks for. -/
theorem LinkState.step_newest (state : LinkState) (elapsed : Millis) (text : List UInt8) :
    state.step elapsed (Modem.newest bufferCapacity text) = state.step elapsed text := by
  have hone : answered 1 (Modem.newest bufferCapacity text) = answered 1 text :=
    Modem.answered_newest (by decide) text
  have htwo : answered 2 (Modem.newest bufferCapacity text) = answered 2 text :=
    Modem.answered_newest (by decide) text
  cases state <;> simp only [step, hone, htwo]

namespace Modem

variable {σ : Type} [SerialLink σ]

/-! ## What one call does to the buffer -/

/-- What is read in a poll is read before anything else is done. -/
theorem heardIn_lineCalls (modem : Modem σ) (now : Millis) :
    heardIn (modem.lineCalls now) = heardIn modem.asked := by
  obtain ⟨said, drained, hcalls, hsaid, hsilent, -, -⟩ := modem.lineCalls_eq now
  rw [hcalls, LinkCall.heardIn_append, LinkCall.heardIn_append, hsilent,
    LinkCall.heardIn_of_orders hsaid, List.append_nil, List.append_nil]

/-- If something has arrived and there is room for it, the line is asked for it. -/
theorem read_mem_hear {modem : Modem (Recorded σ)} {available : Nat}
    (hask : (SerialLink.available modem.link).1 = .ok available)
    (hwant : modem.wanted available ≠ 0) :
    ∃ answer, .read (modem.wanted available) answer ∈ modem.hear.2.calls := by
  rcases hasked : SerialLink.available modem.link with ⟨reply, link⟩
  obtain rfl : reply = .ok available := by rw [← hask, hasked]
  have hline : modem.hear.2 = (SerialLink.read (modem.wanted available) link).2 := by
    simp only [hear, hasked, if_neg hwant]
    split <;> rename_i hread <;> rw [hread]
  refine ⟨(SerialLink.read (modem.wanted available) link).1.toOption, ?_⟩
  rw [hline, Recorded.extends_read]
  exact List.mem_append_right _ List.mem_cons_self

theorem inBuf_poll (modem : Modem σ) (now : Millis) :
    (modem.poll now).2.inBuf =
      if (modem.fillInput.advance now).state = .apiMode then
        (Frame.decode maxPayload (modem.fillInput.advance now).inBuf).2
      else (modem.fillInput.advance now).inBuf := by
  rw [poll]
  split
  · rw [takeFrame_eq, inBuf_drainOutput]
  · rfl

/-- A poll clears the input buffer if the transition that is due forgets the text. -/
def clears (now : Millis) (modem : Modem σ) : Bool :=
  (modem.fillInput.due now).any Transition.forgets

theorem inBuf_advance_fillInput (modem : Modem σ) (now : Millis) :
    (modem.fillInput.advance now).inBuf =
      if modem.clears now then [] else modem.fillInput.inBuf := by
  cases hdue : modem.fillInput.due now with
  | none => simp [advance_of_none hdue, clears, hdue]
  | some transition => simp [advance_of_some hdue, clears, hdue]

variable {modem : Modem σ}

/-- However much was read, no more is kept than the buffer holds. -/
theorem length_fillInput_le (hshort : modem.inBuf.length ≤ bufferCapacity) :
    modem.fillInput.inBuf.length ≤ bufferCapacity := by
  rw [inBuf_fillInput hshort]
  exact length_newest_le _ _

/-- In API mode a poll leaves room for at least one byte. -/
theorem length_decode_lt_capacity {bytes : List UInt8} (h : bytes.length ≤ bufferCapacity) :
    (Frame.decode maxPayload bytes).2.length < bufferCapacity := by
  rcases hdecode : Frame.decode maxPayload bytes with ⟨_ | frame, rest⟩
  · exact Frame.length_of_decode_none hdecode
  · have hshort := Frame.length_decode_lt hdecode
    simp only
    omega

/-! ## The text read -/

/-- The text read since the input buffer was last cleared : each poll of a run adds what it reads
to `text`, or clears it. -/
def textAfter : List Call → Modem σ → List UInt8 → List UInt8
  | [], _, text => text
  | .poll now :: calls, modem, text =>
    textAfter calls (modem.poll now).2
      (if modem.clears now then [] else text ++ heardIn (modem.lineCalls now))
  | .enqueue frame :: calls, modem, text => textAfter calls (modem.enqueue frame) text

/-- The input buffer of a modem that has read `text` since it was last cleared. -/
structure Buffers (text : List UInt8) (modem : Modem σ) : Prop where
  bounded : modem.inBuf.length ≤ bufferCapacity
  roomy : modem.state = .apiMode → modem.inBuf.length < bufferCapacity
  newest : modem.state ≠ .apiMode → modem.inBuf = newest bufferCapacity text

namespace Buffers

variable {text : List UInt8}

theorem poll (hlaw : SerialLink.ReadsWithin σ) (h : Buffers text modem) (now : Millis) :
    Buffers (if modem.clears now then [] else text ++ heardIn (modem.lineCalls now))
      (modem.poll now).2 := by
  have hfill := length_fillInput_le h.bounded
  have hheld : (modem.fillInput.advance now).inBuf.length ≤ bufferCapacity := by
    rw [inBuf_advance_fillInput]
    split
    · exact Nat.zero_le _
    · exact hfill
  have hpoll := modem.inBuf_poll now
  rw [← state_poll] at hpoll
  by_cases hstate : (modem.poll now).2.state = .apiMode
  · rw [if_pos hstate] at hpoll
    have hroom : (modem.poll now).2.inBuf.length < bufferCapacity := by
      rw [hpoll]
      exact length_decode_lt_capacity hheld
    exact ⟨Nat.le_of_lt hroom, fun _ => hroom, fun hwaiting => absurd hstate hwaiting⟩
  · have hbefore : modem.state ≠ .apiMode := fun hmode => hstate (state_answer (.poll now) hmode)
    rw [if_neg hstate] at hpoll
    refine ⟨hpoll ▸ hheld, fun hmode => absurd hmode hstate, fun _ => ?_⟩
    rw [hpoll, inBuf_advance_fillInput, inBuf_fillInput_asked hlaw h.bounded, h.newest hbefore,
      newest_newest_append, heardIn_lineCalls]
    split <;> rfl

omit [SerialLink σ] in
theorem enqueue (h : Buffers text modem) (frame : Frame) : Buffers text (modem.enqueue frame) := by
  obtain ⟨outBuf, heq⟩ := enqueue_eq frame modem
  rw [heq]
  exact ⟨h.bounded, h.roomy, h.newest⟩

/-- Every run keeps the buffer so. -/
theorem after (hlaw : SerialLink.ReadsWithin σ) : ∀ (calls : List Call) {modem : Modem σ}
    {text : List UInt8}, Buffers text modem →
      Buffers (textAfter calls modem text) (after calls modem)
  | [], _, _, h => h
  | .poll now :: calls, _, _, h => after hlaw calls (h.poll hlaw now)
  | .enqueue frame :: calls, _, _, h => after hlaw calls (h.enqueue frame)

end Buffers

/-! ## What holds in every run -/

/-- What the input buffer of a modem keeps to that has read `text` since it was last cleared. -/
structure SoundInput (text : List UInt8) (modem : Modem σ) : Prop where
  /-- The buffer holds no more than its capacity. -/
  bounded : modem.inBuf.length ≤ bufferCapacity
  /-- In API mode there is room for one more byte. -/
  roomy : modem.state = .apiMode → modem.inBuf.length ≤ bufferCapacity - 1
  /-- So the next poll with bytes available asks the line for one at least, and for no more than
  fit. -/
  asks : modem.state = .apiMode → ∀ now available,
    (SerialLink.available modem.link).1 = .ok available → 0 < available →
    ∃ size answer, .read size answer ∈ modem.lineCalls now ∧ 0 < size ∧
      modem.inBuf.length + size ≤ bufferCapacity
  /-- Before, the buffer holds as much of the end of the text as it can. -/
  newest : modem.state ≠ .apiMode →
    modem.inBuf <:+ text ∧ modem.inBuf.length = min text.length bufferCapacity
  /-- So the next poll finds in the buffer whatever the whole text ends with. -/
  matching : modem.state ≠ .apiMode → ∀ now (reply : List UInt8), reply.length ≤ bufferCapacity →
    (reply <:+ modem.fillInput.inBuf ↔ reply <:+ text ++ heardIn (modem.lineCalls now))
  /-- And the bring-up goes on as it would with the whole text. -/
  faithful : modem.state ≠ .apiMode → ∀ now,
    modem.fillInput.due now =
      modem.state.step (now.since modem.since) (text ++ heardIn (modem.lineCalls now))

omit [SerialLink σ] in
/-- With room for a byte, a byte that is available is wanted. -/
theorem wanted_of_roomy {available : Nat} (hstate : modem.state = .apiMode)
    (hroom : modem.inBuf.length < bufferCapacity) (hsome : 0 < available) :
    0 < modem.wanted available ∧ modem.inBuf.length + modem.wanted available ≤ bufferCapacity := by
  rw [wanted, if_pos hstate]
  omega

theorem Buffers.soundInput (hlaw : SerialLink.ReadsWithin σ) {text : List UInt8}
    (h : Buffers text modem) : SoundInput text modem := by
  have hfill : modem.state ≠ .apiMode → ∀ now, modem.fillInput.inBuf =
      Modem.newest bufferCapacity (text ++ heardIn (modem.lineCalls now)) := by
    intro hwaiting now
    rw [inBuf_fillInput_asked hlaw h.bounded, h.newest hwaiting, newest_newest_append,
      heardIn_lineCalls]
  refine ⟨h.bounded, fun hmode => Nat.le_sub_one_of_lt (h.roomy hmode), ?_, ?_, ?_, ?_⟩
  · intro hmode now available hask hsome
    obtain ⟨hpos, hfits⟩ := wanted_of_roomy hmode (h.roomy hmode) hsome
    obtain ⟨said, drained, hcalls, -⟩ := modem.lineCalls_eq now
    obtain ⟨answer, hread⟩ :=
      read_mem_hear (show (SerialLink.available modem.record.link).1 = .ok available from hask)
        (Nat.ne_of_gt hpos)
    refine ⟨_, answer, ?_, hpos, hfits⟩
    rw [hcalls, List.append_assoc]
    exact List.mem_append_left _ hread
  · intro hwaiting
    rw [h.newest hwaiting]
    refine ⟨newest_suffix _ _, ?_⟩
    rw [Modem.newest, List.length_drop]
    omega
  · intro hwaiting now reply hshort
    rw [hfill hwaiting now]
    exact suffix_newest_iff hshort _
  · intro hwaiting now
    rw [due, state_fillInput, since_fillInput, hfill hwaiting now, LinkState.step_newest]

/-- In every run of a new modem, over any line, the input buffer keeps to its bounds and holds
the end of the text read since it was last cleared. -/
theorem receive_buffer (hlaw : SerialLink.ReadsWithin σ) (link : σ) (start : Millis)
    (calls : List Call) :
    SoundInput (textAfter calls (ofLink link start) []) (after calls (ofLink link start)) := by
  have hfresh : Buffers [] (ofLink link start) :=
    ⟨Nat.zero_le _, fun _ => Nat.succ_pos _, fun _ => rfl⟩
  exact (hfresh.after hlaw calls).soundInput hlaw

/-- A bring-up whose first answer comes in two pieces, stopped between them, and in API mode
with a part of a frame. -/
theorem receive_buffer_pieces :
    let line : PacedLine := ⟨[[0], [0], [0x4F, 0x4B], [0x0D], [0], okReply, okReply ++ okReply,
      [0x7E, 0x00], [0x02, 0x8A]]⟩
    let begun : List Call := [.poll 0, .poll 1101, .poll 1102]
    let early := after begun (ofLink line 0)
    let rest : List Call := [.poll 1103, .poll 1204, .poll 1205, .poll 1206, .poll 1207]
    let late := after (begun ++ rest) (ofLink line 0)
    SerialLink.ReadsWithin PacedLine ∧
      (early.state = .expectOk9600 ∧ textAfter begun (ofLink line 0) [] = [0x4F, 0x4B] ∧
        early.inBuf <:+ [0x4F, 0x4B] ∧ early.inBuf.length = 2 ∧
        early.fillInput.due 1103 =
          early.state.step (Millis.since 1103 early.since) [0x4F, 0x4B, 0x0D]) ∧
      late.state = .apiMode ∧ late.inBuf = [0x7E, 0x00] ∧
      ∃ size answer, .read size answer ∈ late.lineCalls 1208 ∧ 0 < size ∧
        late.inBuf.length + size ≤ bufferCapacity := by
  intro line begun early rest late
  have hearly : SoundInput (textAfter begun (ofLink line 0) []) early :=
    receive_buffer PacedLine.readsWithin line 0 begun
  have hlate : SoundInput (textAfter (begun ++ rest) (ofLink line 0) []) late :=
    receive_buffer PacedLine.readsWithin line 0 (begun ++ rest)
  have htext : textAfter begun (ofLink line 0) [] = [0x4F, 0x4B] := by decide +kernel
  have hheard : heardIn (early.lineCalls 1103) = [0x0D] := by decide +kernel
  have hstate : early.state = .expectOk9600 := by decide +kernel
  have hwaiting : early.state ≠ .apiMode := by simp [hstate]
  have hmode : late.state = .apiMode := by decide +kernel
  have hline : late.link = ⟨[[0x02, 0x8A]]⟩ := by decide +kernel
  have havailable : (SerialLink.available late.link).1 = .ok 2 := by
    rw [hline]
    rfl
  obtain ⟨hsuffix, hlength⟩ := hearly.newest hwaiting
  have hdue := hearly.faithful hwaiting 1103
  rw [htext] at hsuffix hlength hdue
  rw [hheard] at hdue
  exact ⟨PacedLine.readsWithin, ⟨hstate, htext, hsuffix, hlength, hdue⟩, hmode,
    by decide +kernel, hlate.asks hmode 1208 2 havailable (by decide)⟩

end Modem

end CellStation
