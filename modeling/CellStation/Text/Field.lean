import CellStation.Text.Utf8

/-!
# Text fields

Texts of limited size. A reply is read into a field of which one byte is kept for a
terminator (`Text.field`), and a name is cut to what the modem accepts without splitting
a character (`Text.cut`).
-/

namespace CellStation.Text

/-- The bytes of a reply that a field of `size` bytes takes : all but one of the size,
up to the first NUL. -/
def fieldBytes (bytes : List UInt8) (size : Nat) : List UInt8 :=
  (bytes.take (size - 1)).takeWhile (· ≠ 0)

/-- The text of a reply in a field of `size` bytes. -/
def field (bytes : List UInt8) (size : Nat) : String := ofBytes (fieldBytes bytes size)

/-- The longest run of characters at the front that takes at most `limit` bytes. -/
def cutChars : Nat → List Char → List Char
  | _, [] => []
  | limit, char :: rest =>
    if char.utf8Size ≤ limit then char :: cutChars (limit - char.utf8Size) rest else []

/-- The longest beginning of a text that takes at most `limit` bytes. -/
def cut (text : String) (limit : Nat) : String := String.ofList (cutChars limit text.toList)

end CellStation.Text
