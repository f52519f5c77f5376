import CellStation.Proofs.SettingViews
import CellStation.Proofs.Since

/-!
# Values read back

A value that the monitor sends to be set is to be read back : its slot is polled again, and
settled by the next answer. But answers carry no more than the frame id of the slot, so the
answer to a poll sent before the value was sent is taken for the value read back as well. If it
tells another value, this is what stays shown (`Setting.Masked`, `Setting.value_masked`). In
every other case the snapshot ends up showing what the modem keeps
(`Setting.shown_eq_kept_iff`).
-/

namespace CellStation

namespace Setting

variable {setting : Setting}

/-- A polled slot waits for answers to polls sent before the last value was sent, and after
those for answers that tell this value. Whether an older value masks it is told by the first of
them. A settled slot shows the value that is kept unless an older one masks it. -/
structure View.Awaits (view : View) (masked : Prop) : Prop where
  polled : view.polled = true → ∃ older count,
    view.coming = older ++ List.replicate count view.kept ∧
      (masked ↔ ∃ first ∈ older.head?, first ≠ view.kept)
  settled : view.polled = false → (view.shown = view.kept ↔ ¬ masked)

theorem View.Awaits.step {view next : View} {masked : Prop} {written : Option (List UInt8)}
    (h : view.Awaits masked) (hstep : view.Step written next) :
    next.Awaits ((∃ value ∈ written, ∃ first ∈ view.coming.head?, first ≠ value) ∨
      (masked ∧ written = none)) := by
  cases hstep with
  | rest => simpa using h
  | asked =>
    suffices hasked : View.Awaits { view with coming := view.coming ++ [view.kept] } masked by
      simpa using hasked
    refine ⟨fun hpolled => ?_, h.settled⟩
    obtain ⟨older, count, hcoming, hmasked⟩ := h.polled hpolled
    refine ⟨older, count + 1, ?_, hmasked⟩
    rw [hcoming, List.append_assoc, List.replicate_succ']
  | wrote value =>
    -- Every answer still to come was asked for before this value was sent.
    exact ⟨fun _ => ⟨view.coming, 0, by simp, by simp⟩, nofun⟩
  | told value coming hfirst =>
    refine ⟨nofun, fun _ => ?_⟩
    simp only [Option.mem_def, reduceCtorEq, false_and, exists_false, and_true, false_or]
    cases hpolled : view.polled with
    | false => exact h.settled hpolled
    | true =>
      obtain ⟨older, count, hcoming, hmasked⟩ := h.polled hpolled
      rw [hmasked, if_pos rfl]
      cases older with
      | nil =>
        rw [hcoming, List.nil_append] at hfirst
        have hvalue : value = view.kept :=
          List.eq_of_mem_replicate (hfirst ▸ List.mem_cons_self)
        simpa using hvalue
      | cons first older =>
        rw [hcoming, List.cons_append] at hfirst
        obtain rfl := (List.cons.inj hfirst).1
        simp

/-- The value that was sent last is masked by an older one : when it was sent, polls sent
before had not been answered, and the first answer to come tells another value. -/
def Masked (setting : Setting) (start : Exchange) : List Move → Prop :=
  Since
    (fun before move => ∃ value ∈ setting.writes? (start.after before) move,
      ∃ first ∈ (setting.view (start.after before)).coming.head?, first ≠ value)
    fun before move => setting.writes? (start.after before) move = none

variable {config : MonitorConfig} {monitor : Monitor} {settings : Settings}

theorem sound_start (hconfig : Monitor.ofConfig config = .ok monitor)
    (hapn : ∀ apn ∈ config.apn, 0 ∉ Text.toBytes apn)
    (hsettings : ∀ setting : Setting, setting.Admits (settings setting)) :
    Sound (.start monitor settings) := by
  obtain ⟨-, hcarrier, hname, hfits⟩ := Monitor.ofConfig_eq_ok hconfig
  refine ⟨fun setting value hvalue => ?_, fun setting value hvalue => ?_, hsettings⟩
  · cases setting with
    | carrierProfile =>
      obtain ⟨profile, -, rfl⟩ := Option.map_eq_some_iff.mp hvalue
      exact ⟨⟨_, rfl⟩, List.cons_ne_nil _ _⟩
    | apn =>
      obtain ⟨text, htext, rfl⟩ := Option.map_eq_some_iff.mp hvalue
      rw [Exchange.start, hname] at htext
      let name : ApnName := ⟨text, hfits text htext, hapn text htext⟩
      exact ⟨name.admits, name.toBytes_ne_nil⟩
  · simp [view, Exchange.start, answers] at hvalue

theorem awaits_after (setting : Setting) (hconfig : Monitor.ofConfig config = .ok monitor)
    (hsound : Sound (.start monitor settings)) (moves : List Move) :
    (setting.view ((Exchange.start monitor settings).after moves)).Awaits
      (setting.Masked (.start monitor settings) moves) := by
  induction moves using List.reverseRecOn with
  | nil =>
    have hpolled := (Monitor.ofConfig_eq_ok hconfig).1 setting.query
    refine ⟨fun _ => ⟨[], 0, rfl, ?_⟩, fun h => ?_⟩
    · simp [Masked, not_since_nil]
    · exact absurd (hpolled.symm.trans h) nofun
  | append_singleton moves move ih =>
    rw [Exchange.after_concat, Masked, since_concat]
    exact ih.step (setting.step_view (hsound.after moves) move)

/-- Whether a value is read back. Let a monitor and a modem start with nothing on its way
between them, and let anything happen. Once a setting is settled and no value for it is on its
way to the modem, the snapshot shows what the modem keeps exactly when the value that was sent
last is not masked by an older one. -/
theorem shown_eq_kept_iff (hconfig : Monitor.ofConfig config = .ok monitor)
    (hapn : ∀ apn ∈ config.apn, 0 ∉ Text.toBytes apn)
    (hsettings : ∀ setting : Setting, setting.Admits (settings setting)) {moves : List Move}
    (hsettled : (((Exchange.start monitor settings).after moves).monitor.slot
      setting.query).enabled = false)
    (hsent : ∀ request ∈ ((Exchange.start monitor settings).after moves).requests,
      setting.sets? request = none) :
    setting.shown ((Exchange.start monitor settings).after moves).monitor.status =
        ((Exchange.start monitor settings).after moves).settings setting ↔
      ¬ setting.Masked (.start monitor settings) moves := by
  have hawaits := setting.awaits_after hconfig (sound_start hconfig hapn hsettings) moves
  rw [← hawaits.settled hsettled, view, kept_of_unset hsent]

/-- An access point name to ask for. -/
def hologram : ApnName := ⟨"hologram", by decide +kernel, by decide +kernel⟩

/-- A modem that has been set up for another access point. -/
def broadband : Settings
  | .carrierProfile => [0]
  | .apn => Text.toBytes "broadband"

theorem admits_broadband (setting : Setting) : setting.Admits (broadband setting) := by
  cases setting with
  | carrierProfile => exact ⟨_, rfl⟩
  | apn => exact ⟨"broadband", rfl, by decide +kernel, by decide +kernel⟩

/-- The name is sent before the first poll, and read back. -/
def readBack : List Move :=
  [.configureApn hologram, .turn 1000 1000, .turn 1000 1000, .turn 1000 1000, .take none,
   .take none, .take none, .deliver 1010, .deliver 1010]

/-- A name that is sent before the first poll is not masked. -/
theorem shown_eq_kept_iff_readBack :
    apn.shown ((Exchange.start (.fresh 10000) broadband).after readBack).monitor.status =
        Text.toBytes "hologram" ∧
      ¬ apn.Masked (.start (.fresh 10000) broadband) readBack := by
  have hconfig : Monitor.ofConfig {} = .ok (.fresh 10000) := by decide +kernel
  have hsettled : (((Exchange.start (.fresh 10000) broadband).after readBack).monitor.slot
      apn.query).enabled = false := by decide +kernel
  have hsent : ∀ request ∈ ((Exchange.start (.fresh 10000) broadband).after readBack).requests,
      apn.sets? request = none := by decide +kernel
  have hkept : apn.shown ((Exchange.start (.fresh 10000) broadband).after readBack).monitor.status =
      ((Exchange.start (.fresh 10000) broadband).after readBack).settings apn := by decide +kernel
  refine ⟨by decide +kernel, ?_⟩
  exact (shown_eq_kept_iff hconfig nofun admits_broadband hsettled hsent).mp hkept

/-- The name is configured after the first polls, and the answers come after it is sent. -/
def overtaken : List Move :=
  [.turn 1000 1000, .turn 1000 1000, .configureApn hologram, .turn 1000 1000, .take none,
   .take none, .take none, .deliver 1010, .deliver 1010]

/-- The carrier profile is configured after the first poll, and the answer comes after it is
sent. -/
def overtakenCarrier : List Move :=
  [.turn 1000 1000, .configureCarrier ⟨2⟩, .turn 1000 1000, .take none, .take none, .deliver 1010]

/-- An older answer masks a value. The settled slot shows what the modem kept before, nothing
waits and nothing is on its way, and the modem keeps what was sent. -/
theorem value_masked :
    (∃ reached, (Exchange.start (.fresh 10000) broadband).after overtaken = reached ∧
      (reached.monitor.slot .requestedApn).enabled = false ∧
      reached.monitor.pendingApn = none ∧ reached.requests = [] ∧ reached.frames = [] ∧
      reached.monitor.status.requestedApn = "broadband" ∧
      reached.settings .apn = Text.toBytes "hologram") ∧
    ∃ reached, (Exchange.start (.fresh 10000) broadband).after overtakenCarrier = reached ∧
      (reached.monitor.slot .carrierProfile).enabled = false ∧
      reached.monitor.pendingCarrier = none ∧ reached.requests = [] ∧ reached.frames = [] ∧
      reached.monitor.status.carrierProfile = ⟨0⟩ ∧
      reached.settings .carrierProfile = [2] := by
  refine ⟨⟨_, rfl, ?_⟩, _, rfl, ?_⟩
  · decide +kernel
  · decide +kernel

end Setting

end CellStation
