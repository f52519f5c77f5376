import CellStation.Proofs.Framing
import Mathlib.Data.List.Induction

/-!
# Where the reader starts again

After noise, or inside a frame that was damaged, the reader looks for the next place at which
a frame may start. Whether it gives an offset up is told by the bytes of the buffer alone :
`Rejected limit src offset` says that there is no delimiter, or a length that no frame has, or a
whole frame whose bytes do not sum up. Candidates may overlap. The reader takes the first
offset that is not rejected (`FirstKept`), whatever starts before it.

`scan_of_rejected`, `scan_of_whole` and `scan_of_part` say what `Frame.scan` makes of an
offset, and `eq_toWire_of_scan` that a frame is read only from the bytes it is written as.
`decode_resynchronises` puts them together : a call gives up exactly the bytes before the first
offset that is kept, and there takes a whole frame or waits for the rest of one.
-/

namespace CellStation.Frame

/-! ## Offsets -/

/-- The length word of a frame that starts at an offset, if all of it is there. -/
def lengthAt? (src : List UInt8) (offset : Nat) : Option Nat :=
  match src[offset + 1]?, src[offset + 2]? with
  | some high, some low => some (high.toNat * 256 + low.toNat)
  | _, _ => none

/-- Type, payload and checksum of a frame that starts at an offset. -/
def bodyAt (src : List UInt8) (offset length : Nat) : List UInt8 :=
  (src.drop (offset + 3)).take (length + 1)

/-- The frame that starts at an offset. -/
def frameAt (src : List UInt8) (offset length : Nat) : Frame :=
  ⟨src.getD (offset + 3) 0, (src.drop (offset + 4)).take (length - 1)⟩

/-- No frame starts at an offset : there is no delimiter, or a length word that is zero or
above the limit, or all bytes of a frame are there and do not sum to `0xFF`. -/
def Rejected (limit : Nat) (src : List UInt8) (offset : Nat) : Prop :=
  src[offset]? ≠ some startDelimiter ∨
    ∃ length ∈ lengthAt? src offset, (length = 0 ∨ limit < length - 1) ∨
      (offset + (length + 4) ≤ src.length ∧
        ((bodyAt src offset length).map UInt8.toNat).sum % 256 ≠ 0xFF)

instance (limit : Nat) (src : List UInt8) (offset : Nat) : Decidable (Rejected limit src offset) :=
  inferInstanceAs (Decidable (_ ∨ _))

/-- The first offset of a buffer that is not rejected. -/
structure FirstKept (limit : Nat) (src : List UInt8) (offset : Nat) : Prop where
  lt_length : offset < src.length
  kept : ¬ Rejected limit src offset
  first : ∀ earlier < offset, Rejected limit src earlier

variable {limit offset length : Nat} {src : List UInt8}

/-- A delimiter with a length word behind it. -/
theorem drop_of_word (hfirst : src[offset]? = some startDelimiter)
    (hlength : lengthAt? src offset = some length) :
    ∃ high low, src.drop offset = startDelimiter :: high :: low :: src.drop (offset + 3) ∧
      high.toNat * 256 + low.toNat = length := by
  unfold lengthAt? at hlength
  split at hlength
  · rename_i high low hhigh hlow
    refine ⟨high, low, ?_, Option.some.inj hlength⟩
    rw [List.drop_eq_getElem?_toList_append, hfirst, List.drop_eq_getElem?_toList_append, hhigh,
      List.drop_eq_getElem?_toList_append, hlow]
    rfl
  · cases hlength

theorem length_lt_of_no_word (hlength : lengthAt? src offset = none) :
    src.length < offset + 3 := by
  by_contra hlong
  have hhigh := List.getElem?_eq_getElem (show offset + 1 < src.length by omega)
  have hlow := List.getElem?_eq_getElem (show offset + 2 < src.length by omega)
  simp [lengthAt?, hhigh, hlow] at hlength

/-! ## Judgements -/

theorem toNat_byteSum (bytes : List UInt8) :
    (byteSum bytes).toNat = (bytes.map UInt8.toNat).sum % 256 := by
  induction bytes using List.reverseRecOn with
  | nil => rfl
  | append_singleton bytes byte ih =>
    rw [byteSum_concat, UInt8.toNat_add, ih]
    simp

theorem byteSum_eq_iff (bytes : List UInt8) :
    byteSum bytes = 0xFF ↔ (bytes.map UInt8.toNat).sum % 256 = 0xFF := by
  rw [← toNat_byteSum, ← UInt8.toNat_inj]
  rfl

/-- All of a body is there. -/
theorem scanBody_of_whole (hwhole : offset + (length + 4) ≤ src.length) :
    scanBody length (src.drop (offset + 3)) =
      if ((bodyAt src offset length).map UInt8.toNat).sum % 256 = 0xFF then
        .accept (frameAt src offset length) (src.drop (offset + (length + 4)))
      else .reject := by
  have hcons : src.drop (offset + 3) = src[offset + 3] :: src.drop (offset + 4) :=
    List.drop_eq_getElem_cons (by omega)
  have hdata : length ≤ (src.drop (offset + 4)).length := by
    rw [List.length_drop]
    omega
  have hkind : src.getD (offset + 3) 0 = src[offset + 3] := by
    rw [List.getD_eq_getElem?_getD, List.getElem?_eq_getElem (by omega), Option.getD_some]
  simp only [bodyAt, frameAt, hkind, hcons, scanBody_of_lt _ hdata, List.take_succ_cons,
    List.drop_drop, ← byteSum_eq_iff]
  rw [show offset + 4 + length = offset + (length + 4) by omega]

/-- A rejected offset is judged so. -/
theorem scan_of_rejected (hlt : offset < src.length) (h : Rejected limit src offset) :
    scan limit (src.drop offset) = .reject := by
  by_cases hfirst : src[offset]? = some startDelimiter
  · obtain ⟨length, hlength, hbad⟩ := h.resolve_left (not_not_intro hfirst)
    obtain ⟨high, low, hdrop, rfl⟩ := drop_of_word hfirst hlength
    rw [hdrop, scan_of_word]
    split
    · rfl
    · obtain ⟨hwhole, hsum⟩ := hbad.resolve_left ‹_›
      rw [scanBody_of_whole hwhole, if_neg hsum]
  · rw [List.drop_eq_getElem_cons hlt]
    refine scan_of_ne (fun hdelimiter => hfirst ?_) _
    rw [List.getElem?_eq_getElem hlt, hdelimiter]

/-- An offset that is kept starts a frame, if all of it is there. -/
theorem scan_of_whole (h : ¬ Rejected limit src offset)
    (hlength : lengthAt? src offset = some length)
    (hwhole : offset + (length + 4) ≤ src.length) :
    scan limit (src.drop offset) =
      .accept (frameAt src offset length) (src.drop (offset + (length + 4))) := by
  obtain ⟨hfirst, hgood⟩ := not_or.mp h
  have hgood := fun hbad => hgood ⟨length, hlength, hbad⟩
  obtain ⟨high, low, hdrop, rfl⟩ := drop_of_word (not_not.mp hfirst) hlength
  rw [hdrop, scan_of_word, if_neg fun hbad => hgood (.inl hbad), scanBody_of_whole hwhole, if_pos]
  by_contra hsum
  exact hgood (.inr ⟨hwhole, hsum⟩)

theorem length_of_scanBody_wait {body : List UInt8} (h : scanBody length body = .wait) :
    body.length ≤ length := by
  match body with
  | [] => exact Nat.zero_le _
  | kind :: data =>
    by_contra hlong
    rw [scanBody_of_lt kind (Nat.le_of_lt_succ (Nat.lt_of_not_le hlong))] at h
    split at h <;> cases h

/-- What is waited for is a frame of which at least one byte is missing. -/
theorem length_of_scan_wait {bytes : List UInt8} (h : scan limit bytes = .wait) :
    bytes.length < limit + 5 := by
  match bytes with
  | [] | [_] | [_, _] =>
    simp only [List.length_cons, List.length_nil]
    omega
  | first :: high :: low :: body =>
    by_cases hfirst : first = startDelimiter
    · subst hfirst
      rw [scan_of_word] at h
      split at h
      · cases h
      have hshort := length_of_scanBody_wait h
      simp only [List.length_cons]
      omega
    · simp [scan_of_ne hfirst] at h

/-- An offset that is kept is waited at, if a part of the frame is missing. Then fewer bytes are
there than the largest frame has. -/
theorem scan_of_part (hlt : offset < src.length) (h : ¬ Rejected limit src offset)
    (hpart : ∀ length, lengthAt? src offset = some length → src.length < offset + (length + 4)) :
    scan limit (src.drop offset) = .wait ∧ (src.drop offset).length < limit + 5 := by
  suffices hwait : scan limit (src.drop offset) = .wait from ⟨hwait, length_of_scan_wait hwait⟩
  obtain ⟨hfirst, hgood⟩ := not_or.mp h
  have hfirst := not_not.mp hfirst
  cases hlength : lengthAt? src offset with
  | some length =>
    have hshort := hpart length hlength
    have hgood : ¬ (length = 0 ∨ limit < length - 1) := fun hbad =>
      hgood ⟨length, hlength, .inl hbad⟩
    obtain ⟨high, low, hdrop, rfl⟩ := drop_of_word hfirst hlength
    rw [hdrop, scan_of_word, if_neg hgood, scanBody_of_le]
    rw [List.length_drop]
    omega
  | none =>
    have hshort := length_lt_of_no_word hlength
    rw [List.drop_eq_getElem?_toList_append, hfirst]
    match hrest : src.drop (offset + 1) with
    | [] | [high] => simp [scan]
    | high :: low :: body =>
      have hlong := congrArg List.length hrest
      simp only [List.length_drop, List.length_cons] at hlong
      omega

/-! ## Frames as they are written -/

/-- Bytes that sum up end with the checksum of those before. -/
theorem eq_checksum {kind check : UInt8} {payload : List UInt8}
    (h : byteSum (kind :: (payload ++ [check])) = 0xFF) : check = checksum kind payload := by
  rw [← List.cons_append, byteSum_concat] at h
  rw [checksum, ← h, UInt8.add_comm, UInt8.add_sub_cancel]

/-- A body that is judged to be that of a frame is type, payload and checksum of the frame. -/
theorem eq_body_of_scanBody {body rest : List UInt8} {frame : Frame} (hpos : 0 < length)
    (h : scanBody length body = .accept frame rest) :
    body = frame.body ++ rest ∧ frame.payloadSize + 1 = length := by
  obtain ⟨size, rfl⟩ : ∃ size, length = size + 1 := ⟨length - 1, by omega⟩
  match body with
  | [] => simp [scanBody] at h
  | kind :: data =>
    rcases Nat.lt_or_ge data.length (size + 1) with hshort | hdata
    · rw [scanBody_of_le hshort] at h
      cases h
    rw [scanBody_of_lt kind hdata] at h
    split at h
    · rename_i hsum
      cases h
      have hlast : data.take (size + 1) = data.take size ++ [data[size]] :=
        List.take_succ_eq_append_getElem hdata
      rw [hlast] at hsum
      rw [Frame.body, List.cons_append, Nat.add_sub_cancel, ← eq_checksum hsum, ← hlast,
        List.take_append_drop]
      refine ⟨rfl, ?_⟩
      simp only [payloadSize, List.length_take]
      omega
    · cases h

/-- What is judged to be a frame has a length word that is the size of the frame. -/
theorem exists_word_of_scan {bytes rest : List UInt8} {frame : Frame}
    (h : scan limit bytes = .accept frame rest) :
    ∃ high low, bytes = startDelimiter :: high :: low :: (frame.body ++ rest) ∧
      high.toNat * 256 + low.toNat = frame.payloadSize + 1 ∧ frame.payloadSize ≤ limit := by
  match bytes with
  | [] => simp [scan] at h
  | [first] | [first, high] =>
    by_cases hfirst : first = startDelimiter <;> simp [scan, hfirst] at h
  | first :: high :: low :: body =>
    by_cases hfirst : first = startDelimiter
    · subst hfirst
      rw [scan_of_word] at h
      split at h
      · cases h
      obtain ⟨rfl, hsize⟩ := eq_body_of_scanBody (by omega) h
      exact ⟨high, low, rfl, hsize.symm, by omega⟩
    · simp [scan_of_ne hfirst] at h

/-- What is judged to be a frame is a frame within the limit, as it is written. -/
theorem eq_toWire_of_scan {bytes rest : List UInt8} {frame : Frame}
    (h : scan limit bytes = .accept frame rest) :
    bytes = frame.toWire ++ rest ∧ frame.payloadSize ≤ limit := by
  obtain ⟨high, low, rfl, hlength, hlimit⟩ := exists_word_of_scan h
  have hword : BigEndian.write 2 (frame.payloadSize + 1) = [high, low] := by
    rw [← hlength]
    simpa [BigEndian.read] using BigEndian.write_read [high, low]
  refine ⟨?_, hlimit⟩
  rw [toWire, hword]
  simp [body]

/-- A length word counts no more than 65534 bytes of payload. -/
theorem payloadSize_le_of_scan {bytes rest : List UInt8} {frame : Frame}
    (h : scan limit bytes = .accept frame rest) : frame.payloadSize ≤ 65534 := by
  obtain ⟨high, low, -, hlength, -⟩ := exists_word_of_scan h
  have hhigh := high.toNat_lt
  have hlow := low.toNat_lt
  omega

/-! ## Reading -/

/-- Rejected offsets are given up. -/
theorem decode_of_rejected : ∀ {offset : Nat}, offset ≤ src.length →
    (∀ earlier < offset, Rejected limit src earlier) →
      decode limit src = decode limit (src.drop offset)
  | 0, _, _ => rfl
  | offset + 1, hle, h => by
    have hscan := scan_of_rejected hle (h offset (Nat.lt_succ_self _))
    rw [decode_of_rejected (Nat.le_of_succ_le hle) fun earlier hlt =>
      h earlier (Nat.lt_succ_of_lt hlt)]
    rw [List.drop_eq_getElem_cons hle] at hscan ⊢
    exact decode_of_scan_reject hscan

/-- A call that gives a frame has given up every offset before that of the frame. -/
theorem exists_offset_of_decode {frame : Frame} {rest : List UInt8} :
    ∀ {src : List UInt8}, decode limit src = (some frame, rest) →
      ∃ offset, (∀ earlier < offset, scan limit (src.drop earlier) = .reject) ∧
        scan limit (src.drop offset) = .accept frame rest
  | [], h => by simp [decode] at h
  | first :: src, h => by
    cases hscan : scan limit (first :: src) with
    | reject =>
      rw [decode_of_scan_reject hscan] at h
      obtain ⟨offset, hskip, haccept⟩ := exists_offset_of_decode h
      refine ⟨offset + 1, fun earlier hlt => ?_, haccept⟩
      cases earlier with
      | zero => exact hscan
      | succ earlier => exact hskip earlier (Nat.lt_of_succ_lt_succ hlt)
    | wait =>
      rw [decode_of_scan_wait hscan] at h
      cases h
    | accept other after =>
      rw [decode_of_scan_accept hscan] at h
      cases h
      exact ⟨0, fun _ hlt => absurd hlt (Nat.not_lt_zero _), hscan⟩

/-- A call that gives no frame leaves less than a largest frame. -/
theorem length_of_decode_none {rest : List UInt8} :
    ∀ {src : List UInt8}, decode limit src = (none, rest) → rest.length < limit + 5
  | [], h => by
    obtain rfl : [] = rest := congrArg Prod.snd h
    exact Nat.succ_pos _
  | first :: src, h => by
    cases hscan : scan limit (first :: src) with
    | reject =>
      rw [decode_of_scan_reject hscan] at h
      exact length_of_decode_none h
    | wait =>
      rw [decode_of_scan_wait hscan] at h
      obtain rfl : first :: src = rest := congrArg Prod.snd h
      exact length_of_scan_wait hscan
    | accept frame after =>
      rw [decode_of_scan_accept hscan] at h
      cases h

theorem FirstKept.decode (h : FirstKept limit src offset) :
    decode limit src = decode limit (src.drop offset) :=
  decode_of_rejected (Nat.le_of_lt h.lt_length) h.first

/-- What a call comes to. If every offset is rejected, the buffer is emptied and no frame comes.
Otherwise let `offset` be the first one that is kept. If all of a frame is there, it is handed
out, the bytes behind it are left, and it is within the limit and was read from the bytes it is
written as. If not, no frame comes, and the bytes from the offset on are left, fewer than the
largest frame has. -/
theorem decode_resynchronises (limit : Nat) (src : List UInt8) :
    ((∀ offset < src.length, Rejected limit src offset) → decode limit src = (none, [])) ∧
    ∀ offset, FirstKept limit src offset →
      (∀ length, lengthAt? src offset = some length → offset + (length + 4) ≤ src.length →
        ∃ frame, decode limit src = (some frame, src.drop (offset + (length + 4))) ∧
          src[offset + 3]? = some frame.kind ∧
          frame.payload = (src.drop (offset + 4)).take (length - 1) ∧
          frame.payloadSize ≤ limit ∧
          encode limit frame = .ok ((src.drop offset).take (length + 4))) ∧
      ((∀ length, lengthAt? src offset = some length → src.length < offset + (length + 4)) →
        decode limit src = (none, src.drop offset) ∧ (src.drop offset).length < limit + 5) := by
  refine ⟨fun hall => ?_, fun offset hfirst => ⟨fun length hlength hwhole => ?_, fun hpart => ?_⟩⟩
  · rw [decode_of_rejected (Nat.le_refl _) hall, List.drop_length]
    rfl
  · have hscan := scan_of_whole hfirst.kept hlength hwhole
    obtain ⟨hwire, hlimit⟩ := eq_toWire_of_scan hscan
    have hsize : (frameAt src offset length).wireSize = length + 4 := by
      have hlengths := congrArg List.length hwire
      simp only [List.length_drop, List.length_append, length_toWire] at hlengths
      omega
    have hkind : offset + 3 < src.length := by omega
    refine ⟨frameAt src offset length, ?_, ?_, rfl, hlimit, ?_⟩
    · rw [hfirst.decode, decode_of_scan_accept hscan]
    · simp [frameAt, hkind]
    · rw [encode_of_le hlimit, hwire, List.take_left' ((length_toWire _).trans hsize)]
  · obtain ⟨hscan, hshort⟩ := scan_of_part hfirst.lt_length hfirst.kept hpart
    exact ⟨by rw [hfirst.decode, decode_of_scan_wait hscan], hshort⟩

/-- A damaged frame with a whole one in its payload, the same with a part of one, and noise. -/
theorem decode_resynchronises_damaged :
    let damaged : List UInt8 :=
      [0x7E, 0x00, 0x08, 0x10, 0x7E, 0x00, 0x02, 0x8A, 0x03, 0x72, 0x00, 0x00]
    let cutOff : List UInt8 := [0x7E, 0x00, 0x04, 0x10, 0x7E, 0x00, 0x02, 0x00]
    let noise : List UInt8 := [0x7E, 0x00, 0x00, 0x10]
    FirstKept 16 damaged 4 ∧ decode 16 damaged = (some ⟨0x8A, [0x03]⟩, [0x00, 0x00]) ∧
      FirstKept 16 cutOff 4 ∧ decode 16 cutOff = (none, [0x7E, 0x00, 0x02, 0x00]) ∧
      (∀ offset < noise.length, Rejected 16 noise offset) ∧ decode 16 noise = (none, []) := by
  intro damaged cutOff noise
  have hdamaged : FirstKept 16 damaged 4 := ⟨by decide, by decide +kernel, by decide +kernel⟩
  have hcutOff : FirstKept 16 cutOff 4 := ⟨by decide, by decide +kernel, by decide +kernel⟩
  have hnoise : ∀ offset < noise.length, Rejected 16 noise offset := by decide +kernel
  obtain ⟨frame, hframe, hkind, hpayload, -⟩ :=
    ((decode_resynchronises 16 damaged).2 4 hdamaged).1 2 (by decide) (by decide)
  obtain ⟨kind, payload⟩ := frame
  obtain rfl : 0x8A = kind := Option.some.inj hkind
  obtain rfl : payload = [0x03] := hpayload
  have hpart : ∀ length, lengthAt? cutOff 4 = some length → cutOff.length < 4 + (length + 4) := by
    intro length hlength
    obtain rfl : 2 = length := Option.some.inj hlength
    decide
  exact ⟨hdamaged, hframe, hcutOff, (((decode_resynchronises 16 cutOff).2 4 hcutOff).2 hpart).1,
    hnoise, (decode_resynchronises 16 noise).1 hnoise⟩

end CellStation.Frame
