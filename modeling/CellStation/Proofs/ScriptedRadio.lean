import CellStation.Radio
import CellStation.Mqtt.Session

/-!
# A radio and an engine to play runs with

The radio answers each poll with what comes next in its script, and takes frames as long as
its room lasts. The engine sends what it holds as soon as there is room for it.
-/

namespace CellStation

/-- A radio with what its polls are going to answer. -/
structure ScriptedRadio where
  answers : List (Option Frame)
  room : Nat
  /-- The frames taken, in order. -/
  sent : List Frame
  deriving DecidableEq, Repr

instance : Radio ScriptedRadio where
  poll _ radio := (radio.answers.headD none, { radio with answers := radio.answers.tail })
  enqueue frame radio :=
    if frame.wireSize ≤ radio.room then
      { radio with room := radio.room - frame.wireSize, sent := radio.sent ++ [frame] }
    else radio
  space := ScriptedRadio.room
  isReady _ := true
  stateText _ := "API_MODE"

/-- An engine with the bytes it wants to send. -/
structure OutboxEngine where
  outbox : List UInt8
  deriving DecidableEq, Repr

instance : MqttEngine OutboxEngine where
  init _ _ engine := engine
  reinit engine := engine
  sync engine := .send engine.outbox fun taken => .done ⟨engine.outbox.drop taken⟩

end CellStation
