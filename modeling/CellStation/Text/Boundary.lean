import CellStation.Text.Field

/-!
# Character boundaries

Where a text may be cut is told from its bytes : each character begins with a byte of its own
kind and goes on with bytes of another. A text that is too long is cut at the last place
within the limit where a character begins, which is looked for backwards from the limit
(`Text.cutBack?`). An answer is given only if there is such a place and the bytes before it
are a text.
-/

namespace CellStation.Text

/-- The byte goes on with a character and begins none. -/
def isContinuation (byte : UInt8) : Bool := 0x80 ≤ byte && byte < 0xC0

/-- A character begins at an index of the bytes of texts, or the bytes end there. -/
def isBoundaryOf (bytes : List UInt8) (index : Nat) : Bool :=
  match bytes[index]? with
  | some byte => !isContinuation byte
  | none => index == bytes.length

/-- A character of the text begins at an index, or the text ends there. -/
def isBoundary (text : String) (index : Nat) : Bool := isBoundaryOf (toBytes text) index

/-- The last boundary that is not behind an index. -/
def boundaryFrom? (text : String) : Nat → Option Nat
  | 0 => if isBoundary text 0 then some 0 else none
  | index + 1 =>
    if isBoundary text (index + 1) then some (index + 1) else boundaryFrom? text index

/-- The text before a boundary. -/
def before? (text : String) (index : Nat) : Option String :=
  if isBoundary text index then String.fromUTF8? (text.toByteArray.extract 0 index) else none

/-- Cut a text of more than `limit` bytes at the last boundary within them. -/
def cutBack? (text : String) (limit : Nat) : Option String :=
  if size text ≤ limit then some text else (boundaryFrom? text limit).bind (before? text)

end CellStation.Text
