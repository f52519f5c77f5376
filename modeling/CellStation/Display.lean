/-!
# Displays

A display shows lines of text.
-/

namespace CellStation

/-- What the station asks of a display with state `δ`. -/
class Display (δ : Type) where
  /-- Show a text on a line. -/
  setLine : Nat → String → δ → δ

/-- A display that shows nothing. -/
structure NullDisplay where
  deriving DecidableEq, Repr

instance : Display NullDisplay where
  setLine _ _ display := display

/-- A display that keeps its lines. -/
structure LineDisplay where
  lines : List String
  deriving DecidableEq, Repr

namespace LineDisplay

/-- A display without lines. -/
def empty : LineDisplay := ⟨[]⟩

/-- The text of a line, if there is such a line. -/
def line? (display : LineDisplay) (index : Nat) : Option String := display.lines[index]?

/-- Put a text on a line; lines before it that do not exist yet are empty. -/
def setLine (index : Nat) (text : String) (display : LineDisplay) : LineDisplay :=
  let missing := index + 1 - display.lines.length
  ⟨(display.lines ++ List.replicate missing "").set index text⟩

instance : Display LineDisplay := ⟨setLine⟩

end LineDisplay

end CellStation
