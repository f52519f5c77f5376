import CellStation.Radio.Handshake
import CellStation.Serial.Link

/-!
# What went over a line

A `Recorded` line keeps the calls made on it. Read off such a record are the bytes that went
out, each write counted up to where the line accepted it (`LinkCall.sentIn`), the bytes that
came in (`LinkCall.heardIn`), and the orders that the calls carry out (`LinkCall.order?`).

A line may fail any call and move as few bytes as it likes. `SerialLink.WritesWithin` and
`SerialLink.ReadsWithin` are all that is asked of it : no write accepts more than it was
offered, and no read returns more than was asked for.
-/

namespace CellStation

namespace SerialLink

variable (σ : Type) [SerialLink σ]

/-- A write accepts no more bytes than it is offered. -/
def WritesWithin : Prop :=
  ∀ (bytes : List UInt8) (line : σ) (count : Nat),
    (SerialLink.write bytes line).1 = .ok count → count ≤ bytes.length

/-- A read returns no more bytes than were asked for. -/
def ReadsWithin : Prop :=
  ∀ (size : Nat) (line : σ) (bytes : List UInt8),
    (SerialLink.read size line).1 = .ok bytes → bytes.length ≤ size

end SerialLink

namespace LinkCall

/-- The bytes that a call took from the host : the front of those offered. -/
def sent : LinkCall → List UInt8
  | .write bytes (some count) => bytes.take count
  | _ => []

/-- The bytes that a call brought to the host. -/
def heard : LinkCall → List UInt8
  | .read _ (some bytes) => bytes
  | _ => []

/-- The order that a call carries out, whether it succeeds or not. -/
def order? : LinkCall → Option LineOrder
  | .setBaud baud _ => some (.setBaud baud)
  | .write text _ => some (.say text)
  | _ => none

/-- The bytes that went out over the line, in order. -/
def sentIn (calls : List LinkCall) : List UInt8 := calls.flatMap sent

/-- The bytes that came in over the line, in order. -/
def heardIn (calls : List LinkCall) : List UInt8 := calls.flatMap heard

@[simp] theorem sentIn_nil : sentIn [] = [] := rfl

@[simp] theorem heardIn_nil : heardIn [] = [] := rfl

@[simp] theorem sentIn_cons (call : LinkCall) (calls : List LinkCall) :
    sentIn (call :: calls) = call.sent ++ sentIn calls := by
  simp [sentIn]

@[simp] theorem heardIn_cons (call : LinkCall) (calls : List LinkCall) :
    heardIn (call :: calls) = call.heard ++ heardIn calls := by
  simp [heardIn]

@[simp] theorem sentIn_append (calls later : List LinkCall) :
    sentIn (calls ++ later) = sentIn calls ++ sentIn later := by
  simp [sentIn]

@[simp] theorem heardIn_append (calls later : List LinkCall) :
    heardIn (calls ++ later) = heardIn calls ++ heardIn later := by
  simp [heardIn]

/-- Calls that carry out no order send nothing. -/
theorem sentIn_of_quiet {calls : List LinkCall} (h : ∀ call ∈ calls, call.order? = none) :
    sentIn calls = [] := by
  rw [sentIn, List.flatMap_eq_nil_iff]
  intro call hcall
  have horder := h call hcall
  cases call with
  | write bytes answer => simp [order?] at horder
  | _ => rfl

/-- Calls that carry out orders bring nothing in. -/
theorem heardIn_of_orders {calls : List LinkCall} {orders : List LineOrder}
    (h : calls.map order? = orders.map some) : heardIn calls = [] := by
  rw [heardIn, List.flatMap_eq_nil_iff]
  intro call hcall
  have hmem : call.order? ∈ orders.map some := h ▸ List.mem_map_of_mem hcall
  obtain ⟨order, -, horder⟩ := List.mem_map.mp hmem
  cases call with
  | read size answer => simp [order?] at horder
  | _ => rfl

end LinkCall

namespace Recorded

variable {σ : Type}

/-- The calls `later`, made on the line `before`, have left `after`. -/
def Extends (before after : Recorded σ) (later : List LinkCall) : Prop :=
  after.calls = before.calls ++ later

theorem Extends.refl (line : Recorded σ) : line.Extends line [] := (List.append_nil _).symm

theorem Extends.trans {first second third : Recorded σ} {calls later : List LinkCall}
    (h : first.Extends second calls) (h' : second.Extends third later) :
    first.Extends third (calls ++ later) := by
  rw [Extends, h', h, List.append_assoc]

variable [SerialLink σ]

theorem extends_available (line : Recorded σ) :
    line.Extends (SerialLink.available line).2
      [.available (SerialLink.available line).1.toOption] := rfl

theorem extends_read (size : Nat) (line : Recorded σ) :
    line.Extends (SerialLink.read size line).2
      [.read size (SerialLink.read size line).1.toOption] := rfl

theorem extends_write (bytes : List UInt8) (line : Recorded σ) :
    line.Extends (SerialLink.write bytes line).2
      [.write bytes (SerialLink.write bytes line).1.toOption] := rfl

theorem extends_writable (line : Recorded σ) :
    line.Extends (SerialLink.writable line).2 [.writable (SerialLink.writable line).1] := rfl

theorem writesWithin (h : SerialLink.WritesWithin σ) : SerialLink.WritesWithin (Recorded σ) :=
  fun bytes line count hcount => h bytes line.line count hcount

theorem readsWithin (h : SerialLink.ReadsWithin σ) : SerialLink.ReadsWithin (Recorded σ) :=
  fun size line bytes hbytes => h size line.line bytes hbytes

end Recorded

/-- A line that hands over one piece of a script at each read, and accepts at most four bytes
at each write. -/
structure PacedLine where
  script : List (List UInt8)
  deriving DecidableEq, Repr

namespace PacedLine

instance : SerialLink PacedLine where
  setBaud _ line := (.ok (), line)
  available line := (.ok (line.script.headD []).length, line)
  read size line := (.ok ((line.script.headD []).take size), ⟨line.script.tail⟩)
  write bytes line := (.ok (min bytes.length 4), line)
  writable line := (64, line)

theorem writesWithin : SerialLink.WritesWithin PacedLine := by
  intro bytes line count h
  obtain rfl : min bytes.length 4 = count := Except.ok.inj h
  exact Nat.min_le_left _ _

theorem readsWithin : SerialLink.ReadsWithin PacedLine := by
  intro size line bytes h
  obtain rfl : (line.script.headD []).take size = bytes := Except.ok.inj h
  exact List.length_take_le _ _

end PacedLine

end CellStation
