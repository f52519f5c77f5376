import CellStation.Layout

/-!
# Frames are laid out and read back

A frame that is filled with a header and a tail reads back as these, whatever it held before,
and as no other layout (`Frame.refill_reads_back`).

Conversely, every byte of a payload belongs to one field of the header or to the tail
(`Header.places`), so that a frame which was read is laid out again as it was. Six layouts have
a byte without meaning in their header (`Layout.reservedByte?`). It alone is not kept, and
becomes zero (`Frame.read_writes_back`).
-/

namespace CellStation

/-! ## The places of fields -/

namespace Header

/-- What the fields of a header hold, with the offsets of their first bytes. -/
def places : List Field → List (Nat × FieldKind)
  | [] => []
  | field :: fields =>
    (0, field.kind) :: (places fields).map fun place => (field.kind.width + place.1, place.2)

variable {field : Field} {fields : List Field} {offset : Nat} {kind : FieldKind}

theorem mem_places_cons :
    (offset, kind) ∈ places (field :: fields) ↔
      (offset = 0 ∧ kind = field.kind) ∨
        ∃ later, (later, kind) ∈ places fields ∧ field.kind.width + later = offset := by
  simp [places]

/-- Within the first field nothing else is found. -/
theorem mem_places_of_lt (h : offset < field.kind.width) :
    (offset, kind) ∈ places (field :: fields) ↔ offset = 0 ∧ kind = field.kind := by
  rw [mem_places_cons]
  refine or_iff_left ?_
  rintro ⟨later, -, hoffset⟩
  omega

/-- Behind the first field the others are found. -/
theorem mem_places_of_width (hpos : 0 < kind.width) (later : Nat) :
    (field.kind.width + later, kind) ∈ places (field :: fields) ↔
      (later, kind) ∈ places fields := by
  rw [mem_places_cons]
  constructor
  · rintro (⟨hzero, rfl⟩ | ⟨other, hmem, hoffset⟩)
    · omega
    · obtain rfl : other = later := by omega
      exact hmem
  · exact fun hmem => .inr ⟨later, hmem, rfl⟩

/-- The bytes of one field, written as they were read. -/
theorem getElem?_write_read_field (kind : FieldKind) {bytes : List UInt8}
    (h : kind.width ≤ bytes.length) (hlt : offset < kind.width) :
    (kind.write (kind.read bytes))[offset]? =
      if offset = 0 ∧ FieldKind.reserved = kind then some 0 else bytes[offset]? := by
  by_cases hkind : kind = .reserved
  · subst hkind
    obtain rfl : offset = 0 := Nat.lt_one_iff.mp hlt
    rfl
  · rw [if_neg fun hreserved => hkind hreserved.2.symm, FieldKind.write_read kind bytes hkind h,
      List.getElem?_take_of_lt hlt]

/-- Bytes that are read as a header and written again are kept, but for those without meaning,
which become zero. -/
theorem getElem?_write_read : ∀ (fields : List Field) {bytes : List UInt8},
    width fields ≤ bytes.length → ∀ offset,
    (write fields (read fields bytes) ++ bytes.drop (width fields))[offset]? =
      if (offset, .reserved) ∈ places fields then some 0 else bytes[offset]?
  | [], bytes, _, offset => by simp [write, width, places]
  | field :: fields, bytes, h, offset => by
    rw [width] at h
    rw [read, write, width, List.append_assoc]
    have hfield := FieldKind.length_write field.kind (field.kind.read bytes)
    rcases Nat.lt_or_ge offset field.kind.width with hlt | hge
    · rw [List.getElem?_append_left (hfield ▸ hlt),
        getElem?_write_read_field field.kind (Nat.le_of_add_right_le h) hlt]
      simp only [mem_places_of_lt hlt]
    · obtain ⟨later, rfl⟩ := Nat.exists_eq_add_of_le hge
      have hroom : width fields ≤ (bytes.drop field.kind.width).length := by
        rw [List.length_drop]
        omega
      have hreserved : 0 < FieldKind.reserved.width := Nat.one_pos
      rw [List.getElem?_append_right (by omega), hfield, Nat.add_sub_cancel_left,
        ← List.drop_drop, getElem?_write_read fields hroom later, List.getElem?_drop]
      simp only [mem_places_of_width hreserved]

end Header

/-! ## Laid out and read back -/

/-- The offset of the byte without meaning that a header has. -/
def Layout.reservedByte? : Layout → Option Nat
  | transmitSms => some 1
  | receiveIp => some 9
  | socketSend => some 2
  | socketSendTo => some 8
  | socketReceive => some 2
  | socketReceiveFrom => some 8
  | _ => none

theorem Layout.mem_places_reserved {layout : Layout} {offset : Nat} :
    (offset, .reserved) ∈ Header.places layout.fields ↔ layout.reservedByte? = some offset := by
  cases layout <;> simp [Header.places, FieldKind.width, reservedByte?, @eq_comm _ offset]

/-- A code has a meaning. -/
theorem Layout.reservedByte?_ne_code {layout : Layout} {offset : Nat} {set : CodeSet}
    (h : (offset, .code set) ∈ Header.places layout.fields) :
    layout.reservedByte? ≠ some offset := by
  revert h
  cases layout <;> simp [Header.places, FieldKind.width, reservedByte?]
  omega

namespace Frame

variable {layout : Layout}

/-- A frame that is used again, filled with a header and a tail. -/
def refill (layout : Layout) (header : Header layout.fields) (tail : List UInt8) (frame : Frame) :
    Frame :=
  (frame.reuse layout header tail.length).withTail layout tail

/-- What is laid out reads back. A frame that is filled with a header and a tail is the frame of
these, whatever it held before. It has the size that its layout gives it, reads as its layout with
exactly this header and this tail, and as no other. The codes in the header may be any bytes. -/
theorem refill_reads_back (layout : Layout) (header : Header layout.fields) (tail : List UInt8)
    (frame : Frame) :
    frame.refill layout header tail = ofHeader layout header tail ∧
      (frame.refill layout header tail).payloadSize = layout.headerSize + tail.length ∧
      (frame.refill layout header tail).wireSize = layout.wireSizeOf tail.length ∧
      (frame.refill layout header tail).decodeAs? layout = some (header, tail) ∧
      ∀ other, other ≠ layout → (frame.refill layout header tail).decodeAs? other = none := by
  have hfilled : frame.refill layout header tail = ofHeader layout header tail := by
    rw [refill, reuse_eq, withTail_setup]
  have hread := decodeAs?_ofHeader header tail
  rw [hfilled]
  refine ⟨rfl, ?_, wireSize_ofHeader header tail, hread, fun other hother => ?_⟩
  · simp [payloadSize, ofHeader]
  · exact decodeAs?_of_ne hread hother.symm

/-- A position south of the equator. -/
def southernFix : Header (Layout.fields .gnssOneShot) :=
  (⟨0⟩, 800000000, -338688197, 1512092955, 58000, 9, ())

/-- A frame that held data before is filled with a position and one more byte. -/
theorem refill_reads_back_southernFix :
    (Frame.refill .gnssOneShot southernFix [7] ⟨0x44, List.replicate 40 0xAA⟩).payload =
        [0x00, 0x2F, 0xAF, 0x08, 0x00, 0xEB, 0xD0, 0x07, 0x3B, 0x5A, 0x20, 0xB5, 0x1B, 0x00, 0x00,
         0xE2, 0x90, 0x09, 7] ∧
      (Frame.refill .gnssOneShot southernFix [7] ⟨0x44, List.replicate 40 0xAA⟩).decodeAs?
        .gnssOneShot = some (southernFix, [7]) ∧
      (Frame.refill .gnssOneShot southernFix [7] ⟨0x44, List.replicate 40 0xAA⟩).decodeAs?
        .gnssNmea = none := by
  obtain ⟨-, -, -, hread, hother⟩ :=
    refill_reads_back .gnssOneShot southernFix [7] ⟨0x44, List.replicate 40 0xAA⟩
  exact ⟨by decide +kernel, hread, hother .gnssNmea (by decide)⟩

variable {frame : Frame} {header : Header layout.fields} {tail : List UInt8}

/-- A frame reads as a layout when it has the type and room for the header. -/
theorem decodeAs?_eq_some (h : frame.decodeAs? layout = some (header, tail)) :
    frame.kind = layout.kind ∧ layout.headerSize ≤ frame.payload.length ∧
      header = Header.read layout.fields frame.payload ∧
      tail = frame.payload.drop layout.headerSize := by
  unfold decodeAs? at h
  split at h
  · rename_i hlayout
    obtain ⟨rfl, rfl⟩ := Prod.mk.inj (Option.some.inj h)
    exact ⟨hlayout.1, hlayout.2, rfl, rfl⟩
  · cases h

/-- A byte of a frame that was read and is laid out again. -/
theorem getElem?_of_decodeAs? (h : frame.decodeAs? layout = some (header, tail)) (offset : Nat) :
    (ofHeader layout header tail).payload[offset]? =
      if layout.reservedByte? = some offset then some 0 else frame.payload[offset]? := by
  obtain ⟨-, hsize, rfl, rfl⟩ := decodeAs?_eq_some h
  rw [← Layout.width_fields] at hsize
  have hbyte := Header.getElem?_write_read layout.fields hsize offset
  rw [Layout.width_fields] at hbyte
  rw [ofHeader, Layout.headerBytes_eq, hbyte]
  simp only [Layout.mem_places_reserved]

/-- What is read is laid out again as it was. Let a frame read as a layout, with a header and a
tail. The frame of these has the same type and as many bytes of payload, and every byte is the
same but for the one without meaning, which is zero. So it is the same frame where the layout has
no such byte, and a code is kept whether or not it is in the book of its set. -/
theorem read_writes_back (h : frame.decodeAs? layout = some (header, tail)) :
    (ofHeader layout header tail).kind = frame.kind ∧
      (ofHeader layout header tail).payload.length = frame.payload.length ∧
      (∀ offset, layout.reservedByte? ≠ some offset →
        (ofHeader layout header tail).payload[offset]? = frame.payload[offset]?) ∧
      (∀ offset, layout.reservedByte? = some offset →
        (ofHeader layout header tail).payload[offset]? = some 0) ∧
      (layout.reservedByte? = none → ofHeader layout header tail = frame) ∧
      ∀ offset set, (offset, .code set) ∈ Header.places layout.fields →
        (ofHeader layout header tail).payload[offset]? = frame.payload[offset]? := by
  have hbyte := getElem?_of_decodeAs? h
  have hkept : ∀ offset, layout.reservedByte? ≠ some offset →
      (ofHeader layout header tail).payload[offset]? = frame.payload[offset]? :=
    fun offset hoffset => (hbyte offset).trans (if_neg hoffset)
  obtain ⟨hkind, hsize, -, htail⟩ := decodeAs?_eq_some h
  refine ⟨hkind.symm, ?_, hkept, fun offset hoffset => (hbyte offset).trans (if_pos hoffset),
    fun hnone => ?_, fun offset set hcode => hkept offset (Layout.reservedByte?_ne_code hcode)⟩
  · simp only [ofHeader, htail, Layout.headerBytes_eq, List.length_append, Header.length_write,
      Layout.width_fields, List.length_drop]
    omega
  · have hpayload : (ofHeader layout header tail).payload = frame.payload :=
      List.ext_getElem? fun offset => hkept offset (by simp [hnone])
    obtain ⟨kind, payload⟩ := frame
    exact (Frame.mk.injEq ..).mpr ⟨hkind.symm, hpayload⟩

/-- Data received from an address, over a protocol that no book lists. The last byte of the
header has no meaning. -/
def receivedOddly : Frame := ⟨0xB0, [10, 0, 0, 1, 0x1F, 0x90, 0, 80, 0x55, 0xAA, 1, 2]⟩

theorem read_writes_back_receivedOddly :
    documented? (CodeSet.book .ipProtocol) 0x55 = none ∧
      receivedOddly.decodeAs? .receiveIp =
        some ((⟨10, 0, 0, 1⟩, 8080, 80, ⟨0x55⟩, (), ()), [1, 2]) ∧
      (ofHeader .receiveIp (⟨10, 0, 0, 1⟩, 8080, 80, ⟨0x55⟩, (), ()) [1, 2]).payload[8]? =
        some 0x55 ∧
      (ofHeader .receiveIp (⟨10, 0, 0, 1⟩, 8080, 80, ⟨0x55⟩, (), ()) [1, 2]).payload[9]? =
        some 0 := by
  have hread : receivedOddly.decodeAs? .receiveIp =
      some ((⟨10, 0, 0, 1⟩, 8080, 80, ⟨0x55⟩, (), ()), [1, 2]) := rfl
  obtain ⟨-, -, -, hreserved, -, hcodes⟩ := read_writes_back hread
  exact ⟨by decide, hread, hcodes 8 .ipProtocol (by decide), hreserved 9 rfl⟩

end Frame

end CellStation
