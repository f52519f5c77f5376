import CellStation.Layout

/-!
# Failures

What can go wrong when a station is set up, when a frame is written and when the serial
line is used, each as a cause. The wording of every cause is in `Error.message`. Steps that can
fail are taken apart by `bind_eq_ok_iff`.
-/

namespace CellStation

/-- Why a configuration is refused. -/
inductive ConfigError where
  /-- The serial device has no path. -/
  | devicePathEmpty
  /-- No byte may be written per poll. -/
  | writeChunkZero
  /-- The status would be polled without pause. -/
  | pollIntervalZero
  /-- The access point name is empty or longer than the modem accepts. -/
  | apnSize (bytes : Nat)
  /-- The socket has no host. -/
  | hostEmpty
  /-- The socket has no port. -/
  | portZero
  /-- A buffer of the messaging engine has no room. -/
  | buffersZero
  /-- The station would tick without pause. -/
  | tickIntervalZero
  /-- A monitor was asked to poll without pause. -/
  | monitorIntervalZero
  /-- A monitor was given an access point name that is empty or too long. -/
  | monitorApnSize (bytes : Nat)
  /-- The host does not fit into one frame. -/
  | hostTooLong (bytes : Nat)
  /-- A messaging engine was given a buffer without room. -/
  | engineBuffersZero
  /-- The serial device cannot be opened. -/
  | deviceNotOpened (path reason : String)
  deriving DecidableEq, Repr

namespace ConfigError

/-- The wording of a refusal. -/
def message : ConfigError → String
  | devicePathEmpty => "Serial device path is empty"
  | writeChunkZero => "Serial write chunk must be nonzero"
  | pollIntervalZero => "Poll interval must be nonzero"
  | apnSize bytes => s!"APN must be 1-{maxApnBytes} bytes (got {bytes})"
  | hostEmpty => "Socket host is empty"
  | portZero => "Socket port must be nonzero"
  | buffersZero => "MQTT buffers must be nonzero"
  | tickIntervalZero => "Tick interval must be nonzero"
  | monitorIntervalZero => "Status poll interval must be positive"
  | monitorApnSize bytes => s!"Bad APN length: {bytes}"
  | hostTooLong bytes => s!"Socket host too long: {bytes}"
  | engineBuffersZero => "MQTT buffer sizes must be positive"
  | deviceNotOpened path reason => s!"Failed to open {path}: {reason}"

end ConfigError

/-- What can go wrong. -/
inductive Error where
  /-- Bytes could not be read or written. -/
  | transfer (reason : String)
  /-- The serial port refused an order. -/
  | serial (reason : String)
  /-- The configuration file is not the expected JSON. -/
  | json
  /-- A frame's payload exceeds the limit of the codec. -/
  | tooBig (frame : Frame) (limit : Nat)
  /-- The configuration asks for something the stack cannot do. -/
  | config (cause : ConfigError)
  deriving DecidableEq, Repr

namespace Error

/-- The wording of a failure. -/
def message : Error → String
  | transfer reason => s!"IO error: {reason}"
  | serial reason => s!"Serial port error: {reason}"
  | json => "Config file error"
  | tooBig frame limit =>
    s!"Frame error: Outgoing {frame.describe} too big ({frame.payloadSize} > {limit})"
  | config cause => s!"Configuration error: {cause.message}"

end Error

/-! ## Steps that can fail -/

/-- Two steps give a result if the first gives one, and the second one from it. -/
theorem bind_eq_ok_iff {ε α β : Type} {first : Except ε α} {second : α → Except ε β}
    {result : β} :
    first >>= second = .ok result ↔ ∃ middle, first = .ok middle ∧ second middle = .ok result := by
  cases first with
  | error cause => exact ⟨nofun, nofun⟩
  | ok middle =>
    constructor
    · exact fun h => ⟨middle, rfl, h⟩
    · rintro ⟨_, hmiddle, h⟩
      exact Except.ok.inj hmiddle ▸ h

theorem bind_eq_error_iff {ε α β : Type} {first : Except ε α} {second : α → Except ε β}
    {cause : ε} :
    first >>= second = .error cause ↔
      first = .error cause ∨ ∃ middle, first = .ok middle ∧ second middle = .error cause := by
  cases first with
  | error reason =>
    constructor
    · exact fun h => .inl (congrArg Except.error (Except.error.inj h))
    · rintro (h | ⟨middle, h, -⟩)
      · exact congrArg Except.error (Except.error.inj h)
      · cases h
  | ok middle =>
    constructor
    · exact fun h => .inr ⟨middle, rfl, h⟩
    · rintro (h | ⟨_, hmiddle, h⟩)
      · cases h
      · exact Except.ok.inj hmiddle ▸ h

/-- A step that only names the result does not fail. -/
theorem bind_pure_eq_error_iff {ε α β : Type} {first : Except ε α} {name : α → β} {cause : ε} :
    (first >>= fun middle => pure (name middle)) = .error cause ↔ first = .error cause := by
  rw [bind_eq_error_iff]
  refine or_iff_left ?_
  rintro ⟨_, -, ⟨⟩⟩

theorem exists_bind_eq_ok {ε α β : Type} {first : Except ε α} {second : α → Except ε β} :
    (∃ result, first >>= second = .ok result) ↔
      ∃ middle, first = .ok middle ∧ ∃ result, second middle = .ok result := by
  simp only [bind_eq_ok_iff]
  rw [exists_comm]
  simp only [exists_and_left]

end CellStation
