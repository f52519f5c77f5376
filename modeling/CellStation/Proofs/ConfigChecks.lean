import CellStation.Proofs.ScriptedRadio
import CellStation.Proofs.StationRuns
import Mathlib.Control.Monad.Basic

/-!
# Checks and construction

A configuration is checked section by section, and every component checks its own section once
more when it is built from it. The monitor and the adapter refuse exactly the sections that the
checks refuse (`Monitor.exists_ofConfig_iff`, `MqttAdapter.exists_ofConfig_iff`). The keeper
does not : it also refuses a host that does not fit into one frame, which no check of the section
looks for (`Keeper.ofConfig_eq_error_iff`). So a configuration that passes the checks builds a
station unless its host is too long (`Station.builds_iff`).
-/

namespace CellStation

/-! ## Sections -/

/-- A configuration passes the checks if each of its sections does. -/
theorem Config.validate_eq_ok_iff {config : Config} :
    config.validate = .ok () ↔
      config.serial.fault? = none ∧ config.monitor.fault? = none ∧
        (∀ socket ∈ config.socket, socket.fault? = none) ∧ config.mqtt.fault? = none ∧
        config.station.fault? = none := by
  have hfault : config.validate = .ok () ↔ config.fault? = none := by
    rw [validate]
    split <;> simp [*]
  simp only [hfault, fault?, Option.orElse_eq_orElse, Option.orElse_eq_or, Option.or_eq_none_iff,
    Option.bind_eq_none_iff, Option.mem_def]

/-- A monitor refuses the sections that the checks refuse. -/
theorem Monitor.exists_ofConfig_iff (config : MonitorConfig) :
    (∃ monitor, ofConfig config = .ok monitor) ↔ config.fault? = none := by
  unfold ofConfig MonitorConfig.fault?
  split
  · exact ⟨nofun, nofun⟩
  · cases config.apn with
    | none => exact ⟨fun _ => rfl, fun _ => ⟨_, rfl⟩⟩
    | some apn =>
      by_cases hfits : apnFits apn = true
      · simp [hfits]
      · simp [hfits]

/-- An adapter refuses the sections that the checks refuse. -/
theorem MqttAdapter.exists_ofConfig_iff {ε : Type} [MqttEngine ε] (engine : ε)
    (config : MqttConfig) :
    (∃ adapter, ofConfig engine config = .ok adapter) ↔ config.fault? = none := by
  unfold ofConfig MqttConfig.fault?
  split
  · exact ⟨nofun, nofun⟩
  · exact ⟨fun _ => rfl, fun _ => ⟨_, rfl⟩⟩

/-- A section that passes the checks has a host. -/
theorem SocketConfig.host_ne_empty {config : SocketConfig} (h : config.fault? = none) :
    config.host ≠ "" := by
  intro hempty
  rw [fault?, if_pos hempty] at h
  cases h

namespace Keeper

/-- A keeper refuses a host that is missing or does not fit into one frame. -/
theorem exists_ofConfig_iff (config : SocketConfig) :
    (∃ keeper, ofConfig config = .ok keeper) ↔
      config.host ≠ "" ∧ Text.size config.host ≤ maxHostBytes := by
  unfold ofConfig
  split
  · simp [*]
  split
  · rename_i hlong
    exact ⟨nofun, fun hfits => absurd hfits.2 (Nat.not_le_of_lt hlong)⟩
  · rename_i hhost hfits
    exact ⟨fun _ => ⟨hhost, Nat.le_of_not_lt hfits⟩, fun _ => ⟨_, rfl⟩⟩

/-- Of the sections that pass the checks a keeper refuses those whose host is too long. -/
theorem ofConfig_eq_error_iff {config : SocketConfig} (h : config.fault? = none) {cause : Error} :
    ofConfig config = .error cause ↔
      maxHostBytes < Text.size config.host ∧
        cause = .config (.hostTooLong (Text.size config.host)) := by
  rw [ofConfig, if_neg (SocketConfig.host_ne_empty h)]
  split
  · rename_i hlong
    simp [hlong, eq_comm]
  · rename_i hfits
    simp [hfits]

end Keeper

namespace Station

variable {ρ ε δ : Type}

/-- The station without an engine needs the monitor, and the keeper if a socket is to be kept. -/
theorem exists_ofConfig_iff (config : Config) (radio : ρ) (display : δ) :
    (∃ station : Station ρ ε δ, ofConfig config radio display = .ok station) ↔
      config.validate = .ok () ∧ (∃ monitor, Monitor.ofConfig config.monitor = .ok monitor) ∧
        ∀ socket ∈ config.socket, ∃ keeper, Keeper.ofConfig socket = .ok keeper := by
  have hkeeper : (∃ keeper, config.socket.mapM Keeper.ofConfig = .ok keeper) ↔
      ∀ socket ∈ config.socket, ∃ keeper, Keeper.ofConfig socket = .ok keeper := by
    cases config.socket with
    | none => exact ⟨fun _ => nofun, fun _ => ⟨none, rfl⟩⟩
    | some socket =>
      simp only [Option.mapM_some, Option.mem_def, Option.some.injEq, forall_eq']
      cases Keeper.ofConfig socket with
      | error cause => exact ⟨nofun, nofun⟩
      | ok keeper => exact ⟨fun _ => ⟨keeper, rfl⟩, fun _ => ⟨some keeper, rfl⟩⟩
  simp only [ofConfig, exists_bind_eq_ok]
  constructor
  · rintro ⟨⟨⟩, hvalid, monitor, hmonitor, keeper, hmade, -⟩
    exact ⟨hvalid, ⟨monitor, hmonitor⟩, hkeeper.mp ⟨keeper, hmade⟩⟩
  · rintro ⟨hvalid, ⟨monitor, hmonitor⟩, hmade⟩
    obtain ⟨keeper, hmade⟩ := hkeeper.mpr hmade
    exact ⟨(), hvalid, monitor, hmonitor, keeper, hmade, _, rfl⟩

variable [MqttEngine ε]

/-- The station of a configuration with a messaging engine over the kept socket. -/
def build (config : Config) (radio : ρ) (display : δ) (engine : ε) :
    Except Error (Station ρ ε δ) := do
  let station ← ofConfig config radio display
  station.withMqtt engine config

/-- The engine needs the adapter, whatever the station. -/
theorem exists_withMqtt_iff (station : Station ρ ε δ) (engine : ε) (config : Config) :
    (∃ next, station.withMqtt engine config = .ok next) ↔
      ∃ adapter, MqttAdapter.ofConfig engine config.mqtt = .ok adapter := by
  unfold withMqtt
  rw [exists_bind_eq_ok]
  exact exists_congr fun adapter => and_iff_left ⟨_, rfl⟩

/-- Checks and construction agree but for the length of the host. A station with a messaging
engine is built from a configuration, over any radio, display and engine, exactly when the
configuration passes the checks and its host, if it has one, fits into one frame. Of a
configuration that passes the checks the monitor and the adapter refuse nothing, and the keeper
nothing but a host that is too long. -/
theorem builds_iff (config : Config) (radio : ρ) (display : δ) (engine : ε) :
    ((∃ station, build config radio display engine = .ok station) ↔
      config.validate = .ok () ∧
        ∀ socket ∈ config.socket, Text.size socket.host ≤ Keeper.maxHostBytes) ∧
    (config.validate = .ok () →
      (∃ monitor, Monitor.ofConfig config.monitor = .ok monitor) ∧
        (∃ adapter, MqttAdapter.ofConfig engine config.mqtt = .ok adapter) ∧
        ∀ socket ∈ config.socket, ∀ cause, Keeper.ofConfig socket = .error cause ↔
          Keeper.maxHostBytes < Text.size socket.host ∧
            cause = .config (.hostTooLong (Text.size socket.host))) := by
  have hparts : config.validate = .ok () →
      (∃ monitor, Monitor.ofConfig config.monitor = .ok monitor) ∧
        (∃ adapter, MqttAdapter.ofConfig engine config.mqtt = .ok adapter) ∧
        ∀ socket ∈ config.socket, socket.fault? = none := by
    intro hvalid
    obtain ⟨-, hmonitor, hsocket, hmqtt, -⟩ := Config.validate_eq_ok_iff.mp hvalid
    exact ⟨(Monitor.exists_ofConfig_iff _).mpr hmonitor,
      (MqttAdapter.exists_ofConfig_iff engine _).mpr hmqtt, hsocket⟩
  constructor
  · simp only [build, exists_bind_eq_ok, exists_withMqtt_iff, exists_and_right, exists_ofConfig_iff,
      Keeper.exists_ofConfig_iff]
    constructor
    · rintro ⟨⟨hvalid, -, hhost⟩, -⟩
      exact ⟨hvalid, fun socket hsocket => (hhost socket hsocket).2⟩
    · rintro ⟨hvalid, hfits⟩
      obtain ⟨hmonitor, hadapter, hsocket⟩ := hparts hvalid
      refine ⟨⟨hvalid, hmonitor, fun socket hmem => ⟨?_, hfits socket hmem⟩⟩, hadapter⟩
      exact SocketConfig.host_ne_empty (hsocket socket hmem)
  · intro hvalid
    obtain ⟨hmonitor, hadapter, hsocket⟩ := hparts hvalid
    exact ⟨hmonitor, hadapter, fun socket hmem cause =>
      Keeper.ofConfig_eq_error_iff (hsocket socket hmem)⟩

/-- A socket to a host with a name of so many letters. -/
def hostOf (letters : Nat) : SocketConfig :=
  { host := String.ofList (List.replicate letters 'a'), port := 1883, protocol := .tcp }

/-- The longest host that fits has 1531 bytes. With one byte more the configuration passes the
checks, and builds nothing. -/
theorem builds_iff_longest :
    (∃ station, build { socket := some (hostOf 1531) } NullRadio.mk NullDisplay.mk
        (⟨[]⟩ : OutboxEngine) = .ok station) ∧
      ({ socket := some (hostOf 1532) } : Config).validate = .ok () ∧
      (¬ ∃ station, build { socket := some (hostOf 1532) } NullRadio.mk NullDisplay.mk
        (⟨[]⟩ : OutboxEngine) = .ok station) ∧
      Keeper.ofConfig (hostOf 1532) = .error (.config (.hostTooLong 1532)) := by
  have hvalid : ({ socket := some (hostOf 1531) } : Config).validate = .ok () := by decide +kernel
  have hlong : ({ socket := some (hostOf 1532) } : Config).validate = .ok () := by decide +kernel
  have hfits : Text.size (hostOf 1531).host ≤ Keeper.maxHostBytes := by decide +kernel
  have hsize : Text.size (hostOf 1532).host = 1532 := by decide +kernel
  have hover : Keeper.maxHostBytes < Text.size (hostOf 1532).host := by rw [hsize]; decide
  obtain ⟨hlongest, -⟩ := builds_iff { socket := some (hostOf 1531) } NullRadio.mk NullDisplay.mk
    (⟨[]⟩ : OutboxEngine)
  obtain ⟨hlonger, hparts⟩ := builds_iff { socket := some (hostOf 1532) } NullRadio.mk
    NullDisplay.mk (⟨[]⟩ : OutboxEngine)
  obtain ⟨-, -, hkeeper⟩ := hparts hlong
  refine ⟨hlongest.mpr ⟨hvalid, ?_⟩, hlong, fun hbuilt => ?_, ?_⟩
  · intro socket hmem
    exact Option.mem_some.mp hmem ▸ hfits
  · exact Nat.not_le_of_lt hover ((hlonger.mp hbuilt).2 _ (Option.mem_some_self _))
  · exact (hkeeper _ (Option.mem_some_self _) _).mpr ⟨hover, by rw [hsize]⟩

/-- A configuration with a host of 1532 bytes passes the checks, and no station comes of it. -/
theorem long_host_passes_checks :
    ({ socket := some (hostOf 1532) } : Config).validate = .ok () ∧
      ¬ ∃ station : Station NullRadio OutboxEngine NullDisplay,
        ofConfig { socket := some (hostOf 1532) } NullRadio.mk NullDisplay.mk = .ok station := by
  have hrefused : Keeper.ofConfig (hostOf 1532) = .error (.config (.hostTooLong 1532)) := by
    decide +kernel
  refine ⟨by decide +kernel, fun hbuilt => ?_⟩
  obtain ⟨-, -, hkeeper⟩ := (exists_ofConfig_iff _ _ _).mp hbuilt
  obtain ⟨keeper, hmade⟩ := hkeeper _ rfl
  rw [hrefused] at hmade
  cases hmade

end Station

end CellStation
