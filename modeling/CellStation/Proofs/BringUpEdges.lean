import CellStation.Radio.Handshake

/-!
# Edges of the bring-up

The bring-up is a machine of eight states with ten edges. `LinkState.Edge` names them, with
what each asks of the time spent and the text heard; a step is taken exactly along an edge
(`LinkState.step_eq_some_iff`).

Each state belongs to a line rate (`LinkState.rate?`), and in three of them the answer to a
text is awaited (`LinkState.questions`). What is said on an edge tells which edge it is.
-/

namespace CellStation

namespace LineOrder

/-- The rate that an order asks for. -/
def baud? : LineOrder → Option UInt32
  | .setBaud baud => some baud
  | .say _ => none

end LineOrder

namespace LinkState

theorem suffix_of_answered {count : Nat} {heard : List UInt8} (h : answered count heard = true) :
    (List.replicate count okReply).flatten <:+ heard :=
  List.isSuffixOf_iff_suffix.mp h

/-! ## Edges -/

/-- The edges of the bring-up, from a state in which `elapsed` milliseconds were spent and
`heard` was heard. -/
inductive Edge (elapsed : Millis) (heard : List UInt8) : LinkState → Transition → Prop where
  | begin : Edge elapsed heard .start ⟨[.setBaud commandBaud], false, .guard9600⟩
  | escape9600 (hsilence : guardMillis < elapsed) :
    Edge elapsed heard .guard9600 ⟨[.say escapeText], true, .expectOk9600⟩
  | answered9600 (hanswer : answered 1 heard = true) :
    Edge elapsed heard .expectOk9600 ⟨[.say fastRateCommand], true, .switching⟩
  | unanswered9600 (hanswer : answered 1 heard = false) (hlong : replyTimeoutMillis < elapsed) :
    Edge elapsed heard .expectOk9600 ⟨[.setBaud apiBaud], false, .guard115200⟩
  | settled (hlong : settleMillis < elapsed) :
    Edge elapsed heard .switching ⟨[.setBaud apiBaud, .say probeCommand], true, .expectOk115200⟩
  | escape115200 (hsilence : guardMillis < elapsed) :
    Edge elapsed heard .guard115200 ⟨[.say escapeText], true, .expectOk115200⟩
  | answered115200 (hanswer : answered 1 heard = true) :
    Edge elapsed heard .expectOk115200 ⟨[.say apiModeCommand], true, .expectApi⟩
  | unanswered115200 (hanswer : answered 1 heard = false) (hlong : replyTimeoutMillis < elapsed) :
    Edge elapsed heard .expectOk115200 ⟨[.setBaud commandBaud], false, .guard9600⟩
  | answeredApi (hanswer : answered 2 heard = true) :
    Edge elapsed heard .expectApi ⟨[], true, .apiMode⟩
  | unansweredApi (hanswer : answered 2 heard = false) (hlong : replyTimeoutMillis < elapsed) :
    Edge elapsed heard .expectApi ⟨[], false, .guard115200⟩

variable {state : LinkState} {elapsed : Millis} {heard : List UInt8} {transition : Transition}

/-- A step is taken exactly along an edge. -/
theorem step_eq_some_iff :
    state.step elapsed heard = some transition ↔ Edge elapsed heard state transition := by
  constructor
  · intro h
    cases state <;> grind [step, Edge]
  · intro h
    cases h <;> simp_all [step]

/-- The rate at which the line is in a state. -/
def rate? : LinkState → Option UInt32
  | start => none
  | guard9600 | expectOk9600 | switching => some commandBaud
  | guard115200 | expectOk115200 | expectApi | apiMode => some apiBaud

/-- The texts of which the last one sent is the one whose answer is awaited. -/
def questions : LinkState → List (List UInt8)
  | expectOk9600 => [escapeText]
  | expectOk115200 => [escapeText, probeCommand]
  | expectApi => [apiModeCommand]
  | _ => []

namespace Edge

theorem next_ne_start (h : Edge elapsed heard state transition) : transition.next ≠ .start := by
  cases h <;> simp

/-- The orders of an edge leave the line at the rate of the next state. -/
theorem rate_next (h : Edge elapsed heard state transition) :
    transition.next.rate? =
      (transition.orders.filterMap LineOrder.baud?).getLast?.or state.rate? := by
  cases h <;> rfl

/-- Where an answer is awaited, its question was put last and the text heard before is
forgotten. -/
theorem question_next (h : Edge elapsed heard state transition)
    (hnext : transition.next.questions ≠ []) :
    ∃ first, ∃ text ∈ transition.next.questions,
      transition.orders = first ++ [.say text] ∧ transition.forgets = true := by
  cases h with
  | escape9600 => exact ⟨[], escapeText, by simp [questions], rfl, rfl⟩
  | settled => exact ⟨[.setBaud apiBaud], probeCommand, by simp [questions], rfl, rfl⟩
  | escape115200 => exact ⟨[], escapeText, by simp [questions], rfl, rfl⟩
  | answered115200 => exact ⟨[], apiModeCommand, by simp [questions], rfl, rfl⟩
  | _ => exact absurd rfl hnext

theorem ne_apiMode_of_question (h : Edge elapsed heard state transition)
    (hnext : transition.next.questions ≠ []) : transition.next ≠ .apiMode := by
  cases h <;> simp_all [questions]

/-- The escape text is all that is said, and it is said after silence. -/
theorem of_escape (h : Edge elapsed heard state transition)
    (hwrites : .say escapeText ∈ transition.orders) :
    transition.orders = [.say escapeText] ∧ guardMillis < elapsed := by
  cases h with
  | escape9600 hsilence => exact ⟨rfl, hsilence⟩
  | escape115200 hsilence => exact ⟨rfl, hsilence⟩
  | _ => exact absurd hwrites (by decide)

/-- The rate is changed on the answer to the escape text. -/
theorem of_fastRate (h : Edge elapsed heard state transition)
    (hwrites : .say fastRateCommand ∈ transition.orders) :
    transition.orders = [.say fastRateCommand] ∧ state = .expectOk9600 ∧
      answered 1 heard = true := by
  cases h with
  | answered9600 hanswer => exact ⟨rfl, rfl, hanswer⟩
  | _ => exact absurd hwrites (by decide)

/-- API mode is asked for on the answer to the escape text or to the probe. -/
theorem of_apiMode (h : Edge elapsed heard state transition)
    (hwrites : .say apiModeCommand ∈ transition.orders) :
    transition.orders = [.say apiModeCommand] ∧ state = .expectOk115200 ∧
      answered 1 heard = true := by
  cases h with
  | answered115200 hanswer => exact ⟨rfl, rfl, hanswer⟩
  | _ => exact absurd hwrites (by decide)

end Edge

end LinkState

end CellStation
