/-!
# Bytes as text

`Text.ofBytes` reads bytes as UTF-8. What is not UTF-8 is read as replacement
characters : one for each longest run of bytes that begins a character and cannot be
completed, and one for each byte that begins none. `Text.toBytes` writes text, and text is
read back from its bytes (`ofBytes_toBytes`).
-/

namespace CellStation.Text

/-- The bytes of a text. -/
def toBytes (text : String) : List UInt8 := text.toByteArray.data.toList

/-- Bytes of a text. -/
def size (text : String) : Nat := text.utf8ByteSize

/-- What stands for bytes that are not text. -/
def replacement : Char := '\uFFFD'

/-- The bytes that may follow a lead byte : how many, and the range of the first of them.
All others are in the range `0x80` to `0xBF`. -/
def continuations (lead : UInt8) : Nat × UInt8 × UInt8 :=
  if lead < 0xC2 then (0, 0, 0)
  else if lead < 0xE0 then (1, 0x80, 0xBF)
  else if lead = 0xE0 then (2, 0xA0, 0xBF)
  else if lead = 0xED then (2, 0x80, 0x9F)
  else if lead < 0xF0 then (2, 0x80, 0xBF)
  else if lead = 0xF0 then (3, 0x90, 0xBF)
  else if lead < 0xF4 then (3, 0x80, 0xBF)
  else if lead = 0xF4 then (3, 0x80, 0x8F)
  else (0, 0, 0)

/-- How many of at most `count` bytes at the front are in the range, where only the first
is held to `low` and `high`. -/
def runLength : Nat → UInt8 → UInt8 → List UInt8 → Nat
  | count + 1, low, high, byte :: rest =>
    if low ≤ byte ∧ byte ≤ high then 1 + runLength count 0x80 0xBF rest else 0
  | _, _, _, _ => 0

/-- How many bytes behind `lead` still belong to the character it begins. -/
def continued (lead : UInt8) (rest : List UInt8) : Nat :=
  let (count, low, high) := continuations lead
  runLength count low high rest

/-- The characters of bytes read as UTF-8. -/
def decode : List UInt8 → List Char
  | [] => []
  | lead :: rest =>
    match (lead :: rest.take 3).toByteArray.utf8DecodeChar? 0 with
    | some char => char :: decode (rest.drop (char.utf8Size - 1))
    | none => replacement :: decode (rest.drop (continued lead rest))
termination_by bytes => bytes.length
decreasing_by
  all_goals
    simp only [List.length_drop, List.length_cons]
    omega

/-- The text of bytes. -/
def ofBytes (bytes : List UInt8) : String := String.ofList (decode bytes)

/-! ## Laws -/

/-- A character is read from its bytes, whatever follows them. -/
theorem decode_append_char (char : Char) (rest : List UInt8) :
    decode (String.utf8EncodeChar char ++ rest) = char :: decode rest := by
  have hlen := String.length_utf8EncodeChar char
  have hpos := char.utf8Size_pos
  have hle := char.utf8Size_le_four
  match henc : String.utf8EncodeChar char with
  | [] => rw [henc] at hlen; simp at hlen; omega
  | lead :: more =>
    rw [henc] at hlen
    simp only [List.length_cons] at hlen
    have hread : (lead :: (more ++ rest).take 3).toByteArray.utf8DecodeChar? 0 = some char := by
      have hsplit : lead :: (more ++ rest).take 3 =
          String.utf8EncodeChar char ++ rest.take (3 - more.length) := by
        rw [henc, List.take_append, List.take_of_length_le (by omega : more.length ≤ 3)]
        rfl
      rw [hsplit, List.toByteArray_append, ByteArray.utf8DecodeChar?_utf8EncodeChar_append]
    rw [List.cons_append, decode, hread]
    simp only
    rw [List.drop_left' (by omega)]

theorem decode_encode (chars : List Char) :
    decode (chars.flatMap String.utf8EncodeChar) = chars := by
  induction chars with
  | nil => simp [decode]
  | cons char chars ih => rw [List.flatMap_cons, decode_append_char, ih]

theorem toBytes_eq (text : String) : toBytes text = text.toList.flatMap String.utf8EncodeChar := by
  rw [toBytes, ← String.utf8Encode_toList, List.utf8Encode]
  simp

/-- Text is read back from its bytes. -/
theorem ofBytes_toBytes (text : String) : ofBytes (toBytes text) = text := by
  rw [ofBytes, toBytes_eq, decode_encode, String.ofList_toList]

theorem length_toBytes (text : String) : (toBytes text).length = size text := by
  simp [toBytes, size]

end CellStation.Text
