import CellStation.Proofs.Deframing
import Mathlib.Algebra.Ring.Nat

/-!
# What is written is read back

A payload may hold delimiters, even whole frames. The reader still never starts inside a
frame that was written : at the delimiter the judgement is `accept`, and it takes the frame
whole (`scan_toWire`). On a part of a frame the judgement is `wait`, as one that is not would
stand when the rest comes (`scan_part`). A stream of frames followed by a part of one more
is therefore read as these frames, and the part is kept (`decodeAll_encodeAll`).

The length word has 16 bits and counts the type byte, so all this is for payloads of at
most 65534 bytes.
-/

namespace CellStation.Frame

/-! ## Writing into a buffer -/

/-- Write one frame behind what the buffer holds. -/
def encodeInto (limit : Nat) (buffer : List UInt8) (frame : Frame) : Except Error (List UInt8) :=
  (encode limit frame).map (buffer ++ ·)

/-- Write frames into an empty buffer, one after the other. -/
def encodeAll (limit : Nat) (frames : List Frame) : Except Error (List UInt8) :=
  frames.foldlM (encodeInto limit) []

theorem encode_of_le {limit : Nat} {frame : Frame} (h : frame.payloadSize ≤ limit) :
    encode limit frame = .ok frame.toWire := by
  rw [encode, if_neg (by omega)]

theorem encode_eq_ok {limit : Nat} {frame : Frame} {wire : List UInt8}
    (h : encode limit frame = .ok wire) : frame.payloadSize ≤ limit ∧ wire = frame.toWire := by
  unfold encode at h
  split at h
  · cases h
  · exact ⟨by omega, (Except.ok.inj h).symm⟩

theorem foldlM_encodeInto {limit : Nat} :
    ∀ (frames : List Frame) (buffer : List UInt8),
      (∀ frame ∈ frames, frame.payloadSize ≤ limit) →
      frames.foldlM (encodeInto limit) buffer = .ok (buffer ++ frames.flatMap toWire)
  | [], buffer, _ => by simp [pure, Except.pure]
  | frame :: frames, buffer, h => by
    have hfirst : encodeInto limit buffer frame = .ok (buffer ++ frame.toWire) := by
      rw [encodeInto, encode_of_le (h frame (by simp))]
      rfl
    rw [List.foldlM_cons, hfirst]
    refine (foldlM_encodeInto frames _ fun other hother => h other (by simp [hother])).trans ?_
    simp

theorem encodeAll_of_le {limit : Nat} {frames : List Frame}
    (h : ∀ frame ∈ frames, frame.payloadSize ≤ limit) :
    encodeAll limit frames = .ok (frames.flatMap toWire) :=
  foldlM_encodeInto frames [] h

@[simp] theorem length_toWire (frame : Frame) : frame.toWire.length = frame.wireSize := by
  simp only [toWire, wireSize, frameOverhead, List.length_append, List.length_cons,
    BigEndian.length_write, List.length_nil]
  omega

theorem length_flatMap_toWire (frames : List Frame) :
    (frames.flatMap toWire).length = (frames.map wireSize).sum := by
  simp [List.length_flatMap]

/-! ## Reading back -/

theorem byteSum_concat (bytes : List UInt8) (b : UInt8) :
    byteSum (bytes ++ [b]) = byteSum bytes + b := by
  simp [byteSum]

/-- Type, payload and checksum : what stands behind the length word. -/
def body (frame : Frame) : List UInt8 :=
  frame.kind :: (frame.payload ++ [checksum frame.kind frame.payload])

theorem length_body (frame : Frame) : frame.body.length = frame.payloadSize + 2 := by
  simp [body, payloadSize]

theorem byteSum_body (frame : Frame) : byteSum frame.body = 0xFF := by
  rw [body, ← List.cons_append, byteSum_concat, checksum, UInt8.add_comm, UInt8.sub_add_cancel]

/-- The length word counts type and payload, as far as it can. -/
theorem exists_word_toWire (frame : Frame) :
    ∃ high low, frame.toWire = startDelimiter :: high :: low :: frame.body ∧
      high.toNat * 256 + low.toNat = (frame.payloadSize + 1) % 65536 := by
  refine ⟨_, _, rfl, ?_⟩
  have hread := BigEndian.read_write 2 (frame.payloadSize + 1)
  simpa [BigEndian.write, BigEndian.read] using hread

/-- The bytes of a frame that fits the codec are judged to be that frame. -/
theorem scan_toWire {limit : Nat} {frame : Frame} (hlimit : frame.payloadSize ≤ limit)
    (hword : frame.payloadSize ≤ 65534) (more : List UInt8) :
    scan limit (frame.toWire ++ more) = .accept frame more := by
  obtain ⟨high, low, hwire, hlength⟩ := frame.exists_word_toWire
  rw [Nat.mod_eq_of_lt (by omega)] at hlength
  have hsize : (frame.payload ++ [checksum frame.kind frame.payload]).length =
      frame.payloadSize + 1 := by simp [payloadSize]
  have hsum : byteSum (frame.kind :: (frame.payload ++ [checksum frame.kind frame.payload])) =
      0xFF := frame.byteSum_body
  simp only [hwire, List.cons_append, scan_of_word, hlength]
  rw [if_neg (by omega), body, List.cons_append, scanBody_of_eq _ hsize, if_pos hsum,
    Nat.add_sub_cancel, List.take_left' (show frame.payload.length = frame.payloadSize from rfl)]

/-- A part of a frame leaves the judgement open. -/
theorem scan_part {limit : Nat} {frame : Frame} {part tail : List UInt8}
    (h : scan limit (part ++ tail) = .accept frame []) (htail : tail ≠ []) :
    scan limit part = .wait := by
  have happend := @scan_append limit part tail
  cases hpart : scan limit part with
  | wait => rfl
  | reject =>
    rw [happend (by simp [hpart]), hpart] at h
    cases h
  | accept first rest =>
    rw [happend (by simp [hpart]), hpart] at h
    obtain ⟨-, hrest⟩ := Scan.accept.inj h
    exact absurd (List.append_eq_nil_iff.mp hrest).2 htail

/-- Frames as they are written, with bytes behind them that leave the judgement open. -/
theorem decodeAll_flatMap_toWire {limit : Nat} (hlimit : limit ≤ 65534) {part : List UInt8}
    (hpart : scan limit part = .wait) :
    ∀ frames : List Frame, (∀ frame ∈ frames, frame.payloadSize ≤ limit) →
      decodeAll limit (frames.flatMap toWire ++ part) = (frames, part)
  | [], _ => decodeAll_of_none (decode_of_scan_wait hpart)
  | frame :: frames, hframes => by
    have hframe := hframes frame (by simp)
    have hscan := scan_toWire hframe (by omega) (frames.flatMap toWire ++ part)
    have hothers := decodeAll_flatMap_toWire hlimit hpart frames fun other hother =>
      hframes other (by simp [hother])
    rw [List.flatMap_cons, List.append_assoc, decodeAll_of_some (decode_of_scan_accept hscan),
      hothers]

/-- Frames written one after the other, with a proper part of one more behind them, are read
back as they were, in their order; the part is left. They take the sum of their sizes. -/
theorem decodeAll_encodeAll {limit : Nat} (hlimit : limit ≤ 65534) {frames : List Frame}
    (hframes : ∀ frame ∈ frames, frame.payloadSize ≤ limit) {next : Frame}
    {wire part : List UInt8} (hnext : encode limit next = .ok wire) (hpart : part <+: wire)
    (hproper : part ≠ wire) :
    ∃ bytes, encodeAll limit frames = .ok bytes ∧ bytes.length = (frames.map wireSize).sum ∧
      decodeAll limit (bytes ++ part) = (frames, part) := by
  refine ⟨_, encodeAll_of_le hframes, length_flatMap_toWire frames, ?_⟩
  obtain ⟨hsize, rfl⟩ := encode_eq_ok hnext
  obtain ⟨tail, htail⟩ := hpart
  have hscan := scan_toWire hsize (by omega) []
  rw [List.append_nil, ← htail] at hscan
  refine decodeAll_flatMap_toWire hlimit (scan_part hscan ?_) frames hframes
  rintro rfl
  exact hproper (by simpa using htail)

/-- A frame whose payload is a whole frame, that frame itself, and half of it. -/
theorem decodeAll_encodeAll_nested :
    let inner : Frame := ⟨0x8A, [0x03]⟩
    let outer : Frame := ⟨0x10, inner.toWire⟩
    (∀ frame ∈ [outer, inner], frame.payloadSize ≤ 16) ∧ encode 16 inner = .ok inner.toWire ∧
      [0x7E, 0x00, 0x02] <+: inner.toWire ∧ [0x7E, 0x00, 0x02] ≠ inner.toWire ∧
      ∃ bytes, encodeAll 16 [outer, inner] = .ok bytes ∧ bytes.length = 17 ∧
        decodeAll 16 (bytes ++ [0x7E, 0x00, 0x02]) = ([outer, inner], [0x7E, 0x00, 0x02]) := by
  intro inner outer
  have hframes : ∀ frame ∈ [outer, inner], frame.payloadSize ≤ 16 := by decide
  have hpart : [0x7E, 0x00, 0x02] <+: inner.toWire := by decide
  have hproper : [0x7E, 0x00, 0x02] ≠ inner.toWire := by decide
  have hencode : encode 16 inner = .ok inner.toWire := rfl
  exact ⟨hframes, rfl, hpart, hproper,
    decodeAll_encodeAll (by decide) hframes hencode hpart hproper⟩

end CellStation.Frame
