import CellStation.Proofs.Resynchronisation

/-!
# Noise and damage

A frame is found behind noise, and a damaged frame costs no more than its delimiter.

Noise may hold delimiters, and what seems to start at one may reach over the frame behind it
and further. The reader waits for all of it, so it finds the frame only when enough has come
after it. With one byte less behind the frame than the largest frame has, everything that
starts in the noise is there, and is rejected unless it sums up
(`rejected_of_not_startsFrame`). So the frame is read exactly if no frame starts in the noise
(`decode_after_noise_iff`).

One byte that is changed behind the length word changes the sum, whatever else the frame holds
(`byteSum_set_eq_iff`), and the reader goes on behind the delimiter, where the payload may hold
frames of its own (`decode_damaged_iff`).
-/

namespace CellStation.Frame

variable {limit offset : Nat} {src rest : List UInt8} {frame : Frame}

/-- A call does not make bytes : a frame and what is left were there before. -/
theorem wireSize_le_of_decode (h : decode limit src = (some frame, rest)) :
    frame.wireSize + rest.length ≤ src.length := by
  obtain ⟨offset, -, hscan⟩ := exists_offset_of_decode h
  have hlengths := congrArg List.length (eq_toWire_of_scan hscan).1
  simp only [List.length_drop, List.length_append, length_toWire] at hlengths
  omega

/-! ## Noise -/

/-- A whole frame starts at an offset : there is a delimiter, a length word of at least one and
within the limit, and all bytes of a frame, which sum to `0xFF`. -/
def StartsFrame (limit : Nat) (src : List UInt8) (offset : Nat) : Prop :=
  src[offset]? = some startDelimiter ∧
    ∃ length ∈ lengthAt? src offset, 0 < length ∧ length - 1 ≤ limit ∧
      offset + (length + 4) ≤ src.length ∧
      ((bodyAt src offset length).map UInt8.toNat).sum % 256 = 0xFF

instance (limit : Nat) (src : List UInt8) (offset : Nat) :
    Decidable (StartsFrame limit src offset) :=
  inferInstanceAs (Decidable (_ ∧ _))

/-- Where a whole frame starts, the reader takes one. -/
theorem StartsFrame.scan_ne_reject (h : StartsFrame limit src offset) :
    scan limit (src.drop offset) ≠ .reject := by
  obtain ⟨hfirst, length, hlength, hpos, hle, hwhole, hsum⟩ := h
  have hkept : ¬ Rejected limit src offset := by
    rintro (hne | ⟨other, hother, hbad⟩)
    · exact hne hfirst
    · obtain rfl : length = other := Option.some.inj (hlength.symm.trans hother)
      rcases hbad with hbad | ⟨-, hdiffers⟩
      · omega
      · exact hdiffers hsum
  rw [scan_of_whole hkept hlength hwhole]
  simp

/-- With room for the largest frame, it is told at once that none starts at an offset. -/
theorem rejected_of_not_startsFrame (hroom : offset + (limit + 5) ≤ src.length)
    (h : ¬ StartsFrame limit src offset) : Rejected limit src offset := by
  by_contra hkept
  obtain ⟨hfirst, hgood⟩ := not_or.mp hkept
  cases hlength : lengthAt? src offset with
  | none =>
    have hshort := length_lt_of_no_word hlength
    omega
  | some length =>
    have hgood := fun hbad => hgood ⟨length, hlength, hbad⟩
    have hbounds : ¬ (length = 0 ∨ limit < length - 1) := fun hbad => hgood (.inl hbad)
    have hwhole : offset + (length + 4) ≤ src.length := by omega
    refine h ⟨not_not.mp hfirst, length, hlength, by omega, by omega, hwhole, ?_⟩
    by_contra hsum
    exact hgood (.inr ⟨hwhole, hsum⟩)

/-- A frame is read from behind noise, and what follows it is left, exactly if no frame starts
in the noise. At least all but one of the bytes of a largest frame must follow; then it does
not matter what in the noise looks like the start of a frame, or how far it reaches. -/
theorem decode_after_noise_iff (hlimit : limit ≤ 65534) (hframe : frame.payloadSize ≤ limit)
    (hrest : limit + 4 ≤ rest.length) (noise : List UInt8) :
    ∃ wire, encode limit frame = .ok wire ∧
      (decode limit (noise ++ wire ++ rest) = (some frame, rest) ↔
        ∀ offset < noise.length, ¬ StartsFrame limit (noise ++ wire ++ rest) offset) := by
  have hlength : (noise ++ frame.toWire ++ rest).length =
      noise.length + frame.wireSize + rest.length := by
    simp [Nat.add_assoc]
  have hsize : 5 ≤ frame.wireSize := Nat.le_add_left _ _
  refine ⟨frame.toWire, encode_of_le hframe, fun hdecode offset hlt hstarts => ?_, fun hnone => ?_⟩
  · -- Frame and rest take so many bytes that the reader has given up the noise, no less.
    obtain ⟨start, hskip, hscan⟩ := exists_offset_of_decode hdecode
    have hlengths := congrArg List.length (eq_toWire_of_scan hscan).1
    rw [List.length_drop, hlength, List.length_append, length_toWire] at hlengths
    exact hstarts.scan_ne_reject (hskip offset (by omega))
  · have hrejected : ∀ offset < noise.length,
        Rejected limit (noise ++ frame.toWire ++ rest) offset := fun offset hlt =>
      rejected_of_not_startsFrame (by omega) (hnone offset hlt)
    rw [decode_of_rejected (by omega) hrejected, List.append_assoc, List.drop_left]
    exact decode_of_scan_accept (scan_toWire hframe (by omega) rest)

/-- Noise with two delimiters. What seems to start at the first ends in the frame, what seems to
start at the second behind it. -/
theorem decode_after_noise_iff_overlapping :
    let frame : Frame := ⟨0x8A, [0x03]⟩
    let noise : List UInt8 := [0x7E, 0x00, 0x02, 0x7E, 0x00, 0x09]
    let rest : List UInt8 := List.replicate 20 0x00
    frame.payloadSize ≤ 16 ∧ 16 + 4 ≤ rest.length ∧
      ∃ wire, encode 16 frame = .ok wire ∧
        (∀ offset < noise.length, ¬ StartsFrame 16 (noise ++ wire ++ rest) offset) ∧
        decode 16 (noise ++ wire ++ rest) = (some frame, rest) := by
  intro frame noise rest
  have hframe : frame.payloadSize ≤ 16 := by decide
  have hrest : 16 + 4 ≤ rest.length := by decide
  obtain ⟨wire, hwire, hiff⟩ := decode_after_noise_iff (by decide) hframe hrest noise
  obtain rfl : frame.toWire = wire := Except.ok.inj hwire
  have hnone : ∀ offset < noise.length,
      ¬ StartsFrame 16 (noise ++ frame.toWire ++ rest) offset := by decide +kernel
  exact ⟨hframe, hrest, _, hwire, hnone, hiff.mpr hnone⟩

/-! ## Damage -/

theorem byteSum_append (bytes more : List UInt8) :
    byteSum (bytes ++ more) = byteSum bytes + byteSum more := by
  induction more using List.reverseRecOn with
  | nil => simp [byteSum]
  | append_singleton more byte ih =>
    rw [← List.append_assoc, byteSum_concat, ih, byteSum_concat, UInt8.add_assoc]

/-- The sum tells every change of one byte. -/
theorem byteSum_set_eq_iff {bytes : List UInt8} {index : Nat} (h : index < bytes.length)
    (byte : UInt8) : byteSum (bytes.set index byte) = byteSum bytes ↔ byte = bytes[index] := by
  have hsum : ∀ middle : UInt8,
      byteSum (bytes.take index ++ middle :: bytes.drop (index + 1)) =
        byteSum (bytes.take index) + byteSum (bytes.drop (index + 1)) + middle := by
    intro middle
    rw [← List.singleton_append, byteSum_append, byteSum_append,
      UInt8.add_comm (byteSum [middle]), ← UInt8.add_assoc]
    simp [byteSum]
  have hset : bytes.set index byte = bytes.take index ++ byte :: bytes.drop (index + 1) := by
    rw [List.set_eq_take_append_cons_drop, if_pos h]
  have hsame : bytes.take index ++ bytes[index] :: bytes.drop (index + 1) = bytes := by
    rw [← List.drop_eq_getElem_cons h, List.take_append_drop]
  have hkept := hsum bytes[index]
  rw [hsame] at hkept
  rw [hset, hsum, hkept]
  exact UInt8.add_right_inj _

/-- Bytes that do not sum up are rejected, whatever the limit. -/
theorem scan_of_sum_ne {high low : UInt8} {body : List UInt8}
    (hlength : body.length = high.toNat * 256 + low.toNat + 1) (hsum : byteSum body ≠ 0xFF)
    (more : List UInt8) :
    scan limit (startDelimiter :: high :: low :: (body ++ more)) = .reject := by
  rw [scan_of_word]
  split
  · rfl
  · obtain ⟨kind, data, rfl⟩ := List.exists_cons_of_length_eq_add_one hlength
    rw [List.cons_append, scanBody_of_eq kind (Nat.succ.inj hlength), if_neg hsum]

/-- A frame with another byte behind its length word is rejected. -/
theorem scan_damaged (hword : frame.payloadSize ≤ 65534) {index : Nat} (hchecked : 3 ≤ index)
    (hindex : index < frame.toWire.length) {byte : UInt8} (hbyte : byte ≠ frame.toWire[index])
    (more : List UInt8) : scan limit (frame.toWire.set index byte ++ more) = .reject := by
  obtain ⟨high, low, hwire, hlength⟩ := frame.exists_word_toWire
  rw [Nat.mod_eq_of_lt (by omega)] at hlength
  obtain ⟨place, rfl⟩ : ∃ place, index = place + 3 := ⟨index - 3, by omega⟩
  have hplace : place < frame.body.length := by
    simp only [hwire, List.length_cons] at hindex
    omega
  have hsize : (frame.body.set place byte).length = high.toNat * 256 + low.toNat + 1 := by
    rw [List.length_set, length_body, hlength]
  have hsum : byteSum (frame.body.set place byte) ≠ 0xFF := by
    rw [← frame.byteSum_body, ne_eq, byteSum_set_eq_iff hplace]
    simpa only [hwire, List.getElem_cons_succ] using hbyte
  rw [hwire]
  exact scan_of_sum_ne hsize hsum more

/-- Without its delimiter a frame is not there any more. -/
theorem decode_tail_ne (more : List UInt8) :
    decode limit (frame.toWire ++ more).tail ≠ (some frame, more) := by
  intro htaken
  have hfits := wireSize_le_of_decode htaken
  rw [List.length_tail, List.length_append, length_toWire] at hfits
  have hsize : 5 ≤ frame.wireSize := Nat.le_add_left _ _
  omega

/-- A byte of a frame behind its length word is replaced, and any bytes follow. The reader then
does what it does without the delimiter of the frame, exactly if the byte is another one than
before. -/
theorem decode_damaged_iff (hlimit : limit ≤ 65534) (hframe : frame.payloadSize ≤ limit) :
    ∃ wire, encode limit frame = .ok wire ∧
      ∀ (index : Nat) (hindex : index < wire.length) (byte : UInt8) (more : List UInt8), 3 ≤ index →
        let damaged := wire.set index byte ++ more
        damaged.head? = some startDelimiter ∧
          (decode limit damaged = decode limit damaged.tail ↔ byte ≠ wire[index]) := by
  refine ⟨frame.toWire, encode_of_le hframe, fun index hindex byte more hchecked => ?_⟩
  intro damaged
  have hfirst : damaged = startDelimiter :: damaged.tail := by
    obtain ⟨rest, rfl⟩ : ∃ rest, index = rest + 1 := ⟨index - 1, by omega⟩
    rfl
  refine ⟨congrArg List.head? hfirst, ?_, ?_⟩
  · rintro hsame rfl
    have hwhole : damaged = frame.toWire ++ more := by simp only [damaged, List.set_getElem_self]
    rw [hwhole, decode_of_scan_accept (scan_toWire hframe (by omega) more)] at hsame
    exact decode_tail_ne more hsame.symm
  · intro hbyte
    have hscan : scan limit damaged = .reject := scan_damaged (by omega) hchecked hindex hbyte more
    rw [hfirst] at hscan ⊢
    exact decode_of_scan_reject hscan

/-- A frame that carries another one, with its checksum damaged : the inner frame is read. -/
theorem decode_damaged_iff_nested :
    let inner : Frame := ⟨0x8A, [0x03]⟩
    let outer : Frame := ⟨0x10, inner.toWire⟩
    outer.payloadSize ≤ 16 ∧ ∃ wire, encode 16 outer = .ok wire ∧
      let damaged := wire.set 10 0x00
      decode 16 damaged = decode 16 damaged.tail ∧ (decode 16 damaged).1 = some inner := by
  intro inner outer
  obtain ⟨wire, hwire, hdamaged⟩ :=
    decode_damaged_iff (show 16 ≤ 65534 by decide) (show outer.payloadSize ≤ 16 by decide)
  obtain rfl : outer.toWire = wire := Except.ok.inj hwire
  have hreader := ((hdamaged 10 (by decide) 0x00 [] (by decide)).2.mpr (by decide))
  rw [List.append_nil] at hreader
  exact ⟨by decide, _, hwire, hreader, by decide +kernel⟩

end CellStation.Frame
