import CellStation.Frame.Codec
import CellStation.Radio
import CellStation.Radio.Handshake
import CellStation.Ring
import CellStation.Serial.Link

/-!
# The modem radio

A modem on a serial line. Each poll reads what has arrived, lets the bring-up take a step,
and in API mode writes queued bytes and takes one frame out of what was read. Every poll
does a bounded amount of work : one read, one step, one write, one frame.

Both buffers hold one frame of the largest size. In API mode no byte is read that would
not fit; before, only text is read, and the oldest of it gives way. Failures of the line
are passed over : the bring-up repeats what got no answer, and bytes that were not
written stay queued.
-/

namespace CellStation

/-- A modem on a serial line with state `σ`. -/
structure Modem (σ : Type) where
  link : σ
  state : LinkState
  /-- The clock reading at the last change of state. -/
  since : Millis
  inBuf : List UInt8
  outBuf : Ring

namespace Modem

variable {σ : Type}

/-- A modem of which nothing is known. -/
def ofLink (link : σ) (now : Millis) : Modem σ where
  link := link
  state := .start
  since := now
  inBuf := []
  outBuf := .empty bufferCapacity

/-- Bytes that can be queued for sending. -/
def space (modem : Modem σ) : Nat :=
  if modem.state = .apiMode then modem.outBuf.available else 0

/-- In API mode with nothing left to send. -/
def isReady (modem : Modem σ) : Bool :=
  modem.state = .apiMode && modem.outBuf.isEmpty

/-- Queue a frame. It is dropped before API mode, and when it does not fit. -/
def enqueue (frame : Frame) (modem : Modem σ) : Modem σ :=
  if modem.state = .apiMode then
    match Frame.encode maxPayload frame with
    | .error _ => modem
    | .ok bytes => { modem with outBuf := (modem.outBuf.pushAll? bytes).getD modem.outBuf }
  else modem

/-- The last `count` bytes. -/
def newest (count : Nat) (bytes : List UInt8) : List UInt8 :=
  bytes.drop (bytes.length - count)

variable [SerialLink σ]

/-- Carry out one order of the bring-up. -/
def carryOut (link : σ) : LineOrder → σ
  | .setBaud baud => (SerialLink.setBaud baud link).2
  | .say text => (SerialLink.write text link).2

/-- Bytes to ask the line for. -/
def wanted (modem : Modem σ) (available : Nat) : Nat :=
  if modem.state = .apiMode then min available (bufferCapacity - modem.inBuf.length)
  else available

/-- Read what has arrived. -/
def fillInput (modem : Modem σ) : Modem σ :=
  match SerialLink.available modem.link with
  | (.error _, link) => { modem with link }
  | (.ok available, link) =>
    let want := modem.wanted available
    if want = 0 then { modem with link }
    else
      match SerialLink.read want link with
      | (.error _, link) => { modem with link }
      | (.ok bytes, link) =>
        { modem with link, inBuf := newest bufferCapacity (modem.inBuf ++ bytes.take want) }

/-- Let the bring-up take a step. -/
def advance (now : Millis) (modem : Modem σ) : Modem σ :=
  match modem.state.step (now.since modem.since) modem.inBuf with
  | none => modem
  | some transition =>
    { modem with
      link := transition.orders.foldl carryOut modem.link
      state := transition.next
      since := now
      inBuf := if transition.forgets then [] else modem.inBuf }

/-- Write queued bytes, as many as the line takes from the front of the queue. -/
def drainOutput (modem : Modem σ) : Modem σ :=
  match SerialLink.writable modem.link with
  | (writable, link) =>
    let count := min writable modem.outBuf.size
    if count = 0 then { modem with link }
    else
      match SerialLink.write (modem.outBuf.front.take count) link with
      | (.error _, link) => { modem with link }
      | (.ok written, link) => { modem with link, outBuf := modem.outBuf.consume written }

/-- Take one frame out of what was read. -/
def takeFrame (modem : Modem σ) : Option Frame × Modem σ :=
  match Frame.decode maxPayload modem.inBuf with
  | (frame, rest) => (frame, { modem with inBuf := rest })

/-- One poll. -/
def poll (now : Millis) (modem : Modem σ) : Option Frame × Modem σ :=
  let modem := modem.fillInput.advance now
  if modem.state = .apiMode then modem.drainOutput.takeFrame else (none, modem)

instance : Radio (Modem σ) where
  poll := poll
  enqueue := enqueue
  space := space
  isReady := isReady
  stateText modem := modem.state.text

end Modem

end CellStation
