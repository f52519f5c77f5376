import CellStation.Error

/-!
# Serial lines

A serial line moves bytes to and from the modem. `SerialLink σ` says what can be asked of
a line whose own state is `σ`; each call returns its answer and the state after it, so a
line may answer as it likes and differently each time. Calls return promptly : reading
returns what has arrived, writing accepts what fits.

`Recorded σ` is a line that also keeps the calls made on it, in order.
-/

namespace CellStation

/-- What can be asked of a serial line with state `σ`. -/
class SerialLink (σ : Type) where
  /-- Change the line rate. -/
  setBaud : UInt32 → σ → Except Error Unit × σ
  /-- Bytes that have arrived and wait to be read. -/
  available : σ → Except Error Nat × σ
  /-- Read up to the given number of waiting bytes. -/
  read : Nat → σ → Except Error (List UInt8) × σ
  /-- Write bytes; the answer says how many were accepted. -/
  write : List UInt8 → σ → Except Error Nat × σ
  /-- Bytes that can be written right now. -/
  writable : σ → Nat × σ

/-- A call on a serial line, with its answer. A failed call has no answer. -/
inductive LinkCall where
  | setBaud (baud : UInt32) (answer : Option Unit)
  | available (answer : Option Nat)
  | read (size : Nat) (answer : Option (List UInt8))
  | write (bytes : List UInt8) (answer : Option Nat)
  | writable (answer : Nat)
  deriving DecidableEq, Repr

/-- A serial line with the calls made on it so far. -/
structure Recorded (σ : Type) where
  line : σ
  calls : List LinkCall

namespace Recorded

variable {σ : Type}

/-- A line on which no call has been made. -/
def ofLine (line : σ) : Recorded σ := ⟨line, []⟩

/-- Keep one more call. -/
def note (recorded : Recorded σ) (call : LinkCall) (line : σ) : Recorded σ :=
  ⟨line, recorded.calls ++ [call]⟩

instance [SerialLink σ] : SerialLink (Recorded σ) where
  setBaud baud recorded :=
    let (answer, line) := SerialLink.setBaud baud recorded.line
    (answer, recorded.note (.setBaud baud answer.toOption) line)
  available recorded :=
    let (answer, line) := SerialLink.available recorded.line
    (answer, recorded.note (.available answer.toOption) line)
  read size recorded :=
    let (answer, line) := SerialLink.read size recorded.line
    (answer, recorded.note (.read size answer.toOption) line)
  write bytes recorded :=
    let (answer, line) := SerialLink.write bytes recorded.line
    (answer, recorded.note (.write bytes answer.toOption) line)
  writable recorded :=
    let (answer, line) := SerialLink.writable recorded.line
    (answer, recorded.note (.writable answer) line)

end Recorded

end CellStation
