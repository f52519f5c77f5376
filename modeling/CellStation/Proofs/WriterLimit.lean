import CellStation.Proofs.Resynchronisation

/-!
# The limit of the writer

A codec refuses the frames whose payload is above its limit, and no others. A frame that is
refused leaves the output buffer as it is (`append_of_lt`), any other is put behind what the
buffer holds, whole (`append_of_le`).

The limit is free, but the length word is not : it counts payload and type in two bytes. What
was written for a payload of more than 65534 bytes says another length than it has, and the
reader takes no frame of that size, wherever it looks for one (`payloadSize_le_of_decode`). So
a codec reads back exactly the frames up to that size, and `append_within_limit` says this of
everything a codec writes.
-/

namespace CellStation.Frame

variable {limit : Nat} {frame : Frame} {src rest : List UInt8}

/-- Write a frame behind what an output buffer holds : the answer, and the buffer after it. -/
def append (limit : Nat) (frame : Frame) (buffer : List UInt8) : Except Error Unit × List UInt8 :=
  match encode limit frame with
  | .error cause => (.error cause, buffer)
  | .ok wire => (.ok (), buffer ++ wire)

theorem append_of_lt (h : limit < frame.payloadSize) (buffer : List UInt8) :
    append limit frame buffer = (.error (.tooBig frame limit), buffer) := by
  simp only [append, encode, if_pos h]

theorem append_of_le (h : frame.payloadSize ≤ limit) (buffer : List UInt8) :
    append limit frame buffer = (.ok (), buffer ++ frame.toWire) := by
  simp only [append, encode_of_le h]

/-- No frame that is read is longer than a length word can say. -/
theorem payloadSize_le_of_decode (h : decode limit src = (some frame, rest)) :
    frame.payloadSize ≤ 65534 := by
  obtain ⟨offset, -, hscan⟩ := exists_offset_of_decode h
  exact payloadSize_le_of_scan hscan

/-- What was written for a frame within the limit is read as that frame, exactly if a length
word can say its size. -/
theorem decode_toWire_iff (hlimit : frame.payloadSize ≤ limit) :
    (decode limit frame.toWire).1 = some frame ↔ frame.payloadSize ≤ 65534 := by
  constructor
  · intro hread
    exact payloadSize_le_of_decode (Prod.ext hread rfl)
  · intro hword
    have hscan := scan_toWire hlimit hword []
    rw [List.append_nil] at hscan
    rw [decode_of_scan_accept hscan]

/-- A frame is refused exactly if its payload is above the limit, and then the buffer is as
before. Any other frame puts its size on the wire behind what the buffer held, and these bytes
alone are read as the frame by a codec of the same limit, exactly if its payload has at most
65534 bytes. -/
theorem append_within_limit (limit : Nat) (frame : Frame) (buffer : List UInt8) :
    ((append limit frame buffer).1 = .error (.tooBig frame limit) ↔ limit < frame.payloadSize) ∧
    ((append limit frame buffer).1 = .ok () ↔ frame.payloadSize ≤ limit) ∧
    (limit < frame.payloadSize → (append limit frame buffer).2 = buffer) ∧
    (frame.payloadSize ≤ limit →
      ∃ wire, (append limit frame buffer).2 = buffer ++ wire ∧ wire.length = frame.wireSize ∧
        ((decode limit wire).1 = some frame ↔ frame.payloadSize ≤ 65534) ∧
        ((decode limit wire).1 = some frame → (decode limit wire).2 = [])) := by
  rcases Nat.lt_or_ge limit frame.payloadSize with hbig | hfits
  · simp only [append_of_lt hbig, hbig, reduceCtorEq, Nat.not_le_of_lt hbig,
      false_implies, implies_true, and_true]
  · refine ⟨?_, ?_, fun hbig => absurd hbig (Nat.not_lt_of_le hfits), fun _ => ?_⟩
    · simp only [append_of_le hfits, reduceCtorEq, Nat.not_lt_of_le hfits]
    · simp only [append_of_le hfits, hfits]
    · refine ⟨frame.toWire, ?_, length_toWire frame, decode_toWire_iff hfits, fun hread => ?_⟩
      · rw [append_of_le hfits]
      · have hscan := scan_toWire hfits ((decode_toWire_iff hfits).mp hread) []
        rw [List.append_nil] at hscan
        rw [decode_of_scan_accept hscan]

/-- A payload one byte above the limit, and one that is within the limit of its codec but one
byte above what a length word can say. -/
theorem append_within_limit_wrapped :
    let short : Frame := ⟨0x44, [0, 0, 0, 0, 0]⟩
    let long : Frame := ⟨0x44, List.replicate 65535 0⟩
    append 4 short [0x7E] = (.error (.tooBig short 4), [0x7E]) ∧
      ∃ wire, (append 70000 long [0x7E]).2 = [0x7E] ++ wire ∧ wire.length = 65540 ∧
        (decode 70000 wire).1 ≠ some long := by
  intro short long
  obtain ⟨hrefused, -, hkept, -⟩ := append_within_limit 4 short [0x7E]
  have hbig : 4 < short.payloadSize := by decide
  have hsize : long.payloadSize = 65535 := List.length_replicate
  obtain ⟨wire, hwire, hlength, hread, -⟩ :=
    (append_within_limit 70000 long [0x7E]).2.2.2 (by omega)
  refine ⟨Prod.ext (hrefused.mpr hbig) (hkept hbig), wire, hwire, ?_, fun hsame => ?_⟩
  · rw [hlength, wireSize, frameOverhead, show long.payload.length = 65535 from hsize]
  · have hword := hread.mp hsame
    omega

end CellStation.Frame
