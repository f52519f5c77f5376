import CellStation.Clock
import CellStation.Frame

/-!
# Radios

A radio hands out the frames that the modem sends and takes the frames meant for it.
`Radio ρ` says what the station asks of a radio whose state is `ρ`.
-/

namespace CellStation

/-- What the station asks of a radio with state `ρ`. -/
class Radio (ρ : Type) where
  /-- Do the work that is due at a clock reading, and hand out one inbound frame. -/
  poll : Millis → ρ → Option Frame × ρ
  /-- Take a frame for sending; one that cannot be sent is dropped. -/
  enqueue : Frame → ρ → ρ
  /-- Bytes on the wire that can be taken now. -/
  space : ρ → Nat
  /-- The radio is up and has sent all it was given. -/
  isReady : ρ → Bool
  /-- The state of the radio, for display. -/
  stateText : ρ → String

/-- The radio of a board without a modem : never ready, and no frame ever comes. -/
structure NullRadio where
  deriving DecidableEq, Repr

instance : Radio NullRadio where
  poll _ radio := (none, radio)
  enqueue _ radio := radio
  space _ := 0
  isReady _ := false
  stateText _ := "NO_RADIO"

end CellStation
