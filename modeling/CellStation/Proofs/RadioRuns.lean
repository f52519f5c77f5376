import CellStation.Radio

/-!
# Runs of a radio

A radio is polled and given frames in any order, for as long as one likes. `Radio.after` is
the radio that such calls leave, `Radio.received` are the frames they handed out, and
`Radio.admitted` the frames given to the radio for which it had room at that moment.
`Radio.Fits` says of frames given one after the other that there is room for each.
-/

namespace CellStation.Radio

/-- A call on a radio. -/
inductive Call where
  | poll (now : Millis)
  | enqueue (frame : Frame)
  deriving DecidableEq, Repr

variable {ρ : Type} [Radio ρ]

/-- Make one call : the frame handed out, and the radio after it. -/
def answer : Call → ρ → Option Frame × ρ
  | .poll now, radio => poll now radio
  | .enqueue frame, radio => (none, enqueue frame radio)

/-- The frame a call gives to a radio, if the radio has room for it. -/
def admits (radio : ρ) : Call → Option Frame
  | .poll _ => none
  | .enqueue frame => if frame.wireSize ≤ space radio then some frame else none

/-- The radio after calls. -/
def after : List Call → ρ → ρ
  | [], radio => radio
  | call :: calls, radio => after calls (answer call radio).2

/-- The frames that calls hand out, in order. -/
def received : List Call → ρ → List Frame
  | [], _ => []
  | call :: calls, radio => (answer call radio).1.toList ++ received calls (answer call radio).2

/-- The frames given to the radio for which it had room, in order. -/
def admitted : List Call → ρ → List Frame
  | [], _ => []
  | call :: calls, radio => (admits radio call).toList ++ admitted calls (answer call radio).2

theorem after_append : ∀ (calls later : List Call) (radio : ρ),
    after (calls ++ later) radio = after later (after calls radio)
  | [], _, _ => rfl
  | _ :: calls, later, _ => after_append calls later _

theorem after_concat (calls : List Call) (call : Call) (radio : ρ) :
    after (calls ++ [call]) radio = (answer call (after calls radio)).2 :=
  after_append calls [call] radio

theorem received_append : ∀ (calls later : List Call) (radio : ρ),
    received (calls ++ later) radio = received calls radio ++ received later (after calls radio)
  | [], _, _ => rfl
  | _ :: calls, later, _ => by
    simp only [List.cons_append, received, after, received_append calls later, List.append_assoc]

theorem admitted_append : ∀ (calls later : List Call) (radio : ρ),
    admitted (calls ++ later) radio = admitted calls radio ++ admitted later (after calls radio)
  | [], _, _ => rfl
  | _ :: calls, later, _ => by
    simp only [List.cons_append, admitted, after, admitted_append calls later, List.append_assoc]

/-- Polls give the radio nothing. -/
theorem admitted_polls : ∀ (readings : List Millis) (radio : ρ),
    admitted (readings.map .poll) radio = []
  | [], _ => rfl
  | now :: readings, radio => admitted_polls readings (answer (.poll now) radio).2

/-! ## Frames that fit -/

/-- The calls that give frames to a radio. -/
def enqueues (frames : List Frame) : List Call := frames.map .enqueue

/-- Each frame is within the space that the radio has when the frame is given to it. -/
def Fits : List Frame → ρ → Prop
  | [], _ => True
  | frame :: frames, radio => frame.wireSize ≤ space radio ∧ Fits frames (enqueue frame radio)

theorem after_enqueues_append (frames later : List Frame) (radio : ρ) :
    after (enqueues (frames ++ later)) radio =
      after (enqueues later) (after (enqueues frames) radio) := by
  rw [enqueues, List.map_append, after_append]
  rfl

theorem fits_append : ∀ {frames later : List Frame} {radio : ρ},
    Fits (frames ++ later) radio ↔ Fits frames radio ∧ Fits later (after (enqueues frames) radio)
  | [], _, _ => ⟨fun h => ⟨trivial, h⟩, And.right⟩
  | frame :: frames, later, radio => by
    rw [List.cons_append, Fits, Fits, fits_append, and_assoc]
    rfl

end CellStation.Radio
