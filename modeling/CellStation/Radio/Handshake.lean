import CellStation.Clock

/-!
# Modem bring-up

A modem is found at an unknown line rate, reading text or frames. It is brought to the
faster rate and into API mode by a dialogue of text commands, each answered by `OK`.
Command mode is entered by the escape text, which must be preceded by silence.

The dialogue is a machine without side effects. `LinkState.step` looks at the state, the
time spent in it and the text heard, and names the orders to carry out on the line and
the next state. A rate at which no answer comes is given up for the other one.
-/

namespace CellStation

/-- The line rate of a modem as delivered. -/
def commandBaud : UInt32 := 9600

/-- The line rate once the modem is configured. -/
def apiBaud : UInt32 := 115200

/-- Silence kept before the escape text. -/
def guardMillis : Millis := 1100

/-- Longest wait for an answer. -/
def replyTimeoutMillis : Millis := 1500

/-- Time a modem takes to change its rate. -/
def settleMillis : Millis := 100

/-- How far the bring-up has come. -/
inductive LinkState where
  /-- Nothing has been done. -/
  | start
  /-- Keeping silence at 9600 before the escape text. -/
  | guard9600
  /-- Waiting for the answer to the escape text at 9600. -/
  | expectOk9600
  /-- Waiting for the modem to change to 115200. -/
  | switching
  /-- Keeping silence at 115200 before the escape text. -/
  | guard115200
  /-- Waiting for the answer to a command at 115200. -/
  | expectOk115200
  /-- Waiting for both answers to the change to API mode. -/
  | expectApi
  /-- Frames can be exchanged. -/
  | apiMode
  deriving DecidableEq, Repr

/-- An order to the serial line. -/
inductive LineOrder where
  | setBaud (baud : UInt32)
  | say (text : List UInt8)
  deriving DecidableEq, Repr

/-- A change of state with the orders that go with it. -/
structure Transition where
  orders : List LineOrder
  /-- The text heard so far is forgotten. -/
  forgets : Bool
  next : LinkState
  deriving DecidableEq, Repr

/-- The bytes of a text of ASCII characters. -/
def ascii (text : List Char) : List UInt8 := text.map Char.toUInt8

/-- The text that enters command mode. -/
def escapeText : List UInt8 := ascii ['+', '+', '+']

/-- The answer to a command carried out. -/
def okReply : List UInt8 := ascii ['O', 'K', '\r']

/-- The command that changes the rate to 115200 and leaves command mode. -/
def fastRateCommand : List UInt8 := ascii ['A', 'T', 'B', 'D', '7', ',', 'A', 'C', '\r']

/-- The command that does nothing but get an answer. -/
def probeCommand : List UInt8 := ascii ['A', 'T', '\r']

/-- The two commands that set API mode and leave command mode. -/
def apiModeCommand : List UInt8 := ascii ['A', 'T', 'A', 'P', '1', ',', 'C', 'N', '\r']

namespace LinkState

/-- The state, for display. -/
def text : LinkState → String
  | start => "START"
  | guard9600 => "INIT_9600_DELAY_PLUSPLUSPLUS"
  | expectOk9600 => "INIT_9600_EXPECT_OK"
  | switching => "INIT_SWITCH_TO_115200"
  | guard115200 => "INIT_115200_DELAY_PLUSPLUSPLUS"
  | expectOk115200 => "INIT_115200_EXPECT_OK"
  | expectApi => "INIT_API_EXPECT_OKOK"
  | apiMode => "API_MODE"

/-- The text heard ends with `count` answers in a row. -/
def answered (count : Nat) (heard : List UInt8) : Bool :=
  (List.replicate count okReply).flatten.isSuffixOf heard

/-- What happens in a state after `elapsed` milliseconds, with the text `heard`. -/
def step (state : LinkState) (elapsed : Millis) (heard : List UInt8) : Option Transition :=
  match state with
  | start => some ⟨[.setBaud commandBaud], false, guard9600⟩
  | guard9600 =>
    if guardMillis < elapsed then some ⟨[.say escapeText], true, expectOk9600⟩ else none
  | expectOk9600 =>
    if answered 1 heard then some ⟨[.say fastRateCommand], true, switching⟩
    else if replyTimeoutMillis < elapsed then some ⟨[.setBaud apiBaud], false, guard115200⟩
    else none
  | switching =>
    if settleMillis < elapsed then
      some ⟨[.setBaud apiBaud, .say probeCommand], true, expectOk115200⟩
    else none
  | guard115200 =>
    if guardMillis < elapsed then some ⟨[.say escapeText], true, expectOk115200⟩ else none
  | expectOk115200 =>
    if answered 1 heard then some ⟨[.say apiModeCommand], true, expectApi⟩
    else if replyTimeoutMillis < elapsed then some ⟨[.setBaud commandBaud], false, guard9600⟩
    else none
  | expectApi =>
    if answered 2 heard then some ⟨[], true, apiMode⟩
    else if replyTimeoutMillis < elapsed then some ⟨[], false, guard115200⟩
    else none
  | apiMode => none

end LinkState

end CellStation
