import CellStation.Proofs.MonitorRuns
import Mathlib.Logic.Function.Basic

/-!
# A modem that keeps settings

The monitor reads two facts that it also writes, the carrier profile and the access point name
(`Setting`). The modem here keeps them. It takes the requests of the monitor in the order sent :
a value is kept, and a request without one is answered with the value kept. It answers other
commands in any way or not at all. Its frames reach the monitor in the order sent, after any
delay.

An `Exchange` is the monitor, the modem, and what is on its way between them. A `Move` is
what can happen next : the settings are configured, the monitor takes its turn, the modem takes
a request, or the monitor handles a frame.
-/

namespace CellStation

/-! ## Settings -/

/-- A fact that the monitor reads and also writes. -/
inductive Setting where
  | carrierProfile
  | apn
  deriving DecidableEq, Repr

/-- An access point name that can be asked for : of a size that the modem accepts, without
NUL. -/
structure ApnName where
  text : String
  fits : apnFits text = true
  noNul : 0 ∉ Text.toBytes text

namespace Setting

/-- The query that reads the fact. -/
def query : Setting → Query
  | carrierProfile => .carrierProfile
  | apn => .requestedApn

/-- The setting that a command names. -/
def ofCommand? (command : Command) : Option Setting :=
  if command = Query.carrierProfile.command then some carrierProfile
  else if command = Query.requestedApn.command then some apn
  else none

/-- The values of a setting, in bytes : one byte, or a name without NUL of a size that the
modem accepts. -/
def Admits : Setting → List UInt8 → Prop
  | carrierProfile, value => ∃ raw, value = [raw]
  | apn, value => ∃ name, value = Text.toBytes name ∧ Text.size name ≤ maxApnBytes ∧ 0 ∉ value

/-- What the snapshot shows, in the bytes of a reply. -/
def shown : Setting → Status → List UInt8
  | carrierProfile, status => [status.carrierProfile.raw]
  | apn, status => Text.toBytes status.requestedApn

/-- The value that waits to be written. -/
def waiting : Setting → Monitor → Option (List UInt8)
  | carrierProfile, monitor => monitor.pendingCarrier.map fun profile => [profile.raw]
  | apn, monitor => monitor.pendingApn.map Text.toBytes

/-- The poll that reads the fact. -/
def poll (setting : Setting) : Request :=
  .command (Monitor.pollId setting.query) setting.query.command []

/-- The value that a request sets. -/
def sets? (setting : Setting) : Request → Option (List UInt8)
  | .command _ command value =>
    if command = setting.query.command ∧ value ≠ [] then some value else none
  | _ => none

/-- The value that a frame tells in answer to a poll. -/
def told? (setting : Setting) (frame : Frame) : Option (List UInt8) :=
  match frame.inbound with
  | .reply id command status value =>
    if id = Monitor.pollId setting.query ∧ command = setting.query.command ∧ status = .ok then
      some value
    else none
  | _ => none

variable {setting : Setting}

theorem ofCommand?_eq_some_iff {command : Command} :
    ofCommand? command = some setting ↔ command = setting.query.command := by
  have hne : Query.carrierProfile.command ≠ Query.requestedApn.command := by decide
  unfold ofCommand?
  cases setting <;> simp only [query] <;> split <;> grind

theorem query_command_inj {other : Setting} :
    other.query.command = setting.query.command ↔ other = setting := by
  rw [← ofCommand?_eq_some_iff, ofCommand?_eq_some_iff.mpr rfl, Option.some.injEq]

theorem query_injective {other : Setting} (h : other.query = setting.query) : other = setting :=
  query_command_inj.mp (congrArg Query.command h)

/-- A request without a value sets nothing. -/
theorem sets?_ask (setting : Setting) (id : UInt8) (command : Command) :
    setting.sets? (.command id command []) = none := by
  simp [sets?]

theorem sets?_write (setting written : Setting) (value : List UInt8) :
    setting.sets? (.command writeFrameId written.query.command value) =
      if written = setting ∧ value ≠ [] then some value else none := by
  simp only [sets?, query_command_inj]

/-- A reply to a poll of the setting is shown as it is, and settles it. -/
theorem apply_of_admits {value : List UInt8} (h : setting.Admits value) (status : Status)
    (now : Millis) :
    setting.shown (setting.query.apply status value now).1 = value ∧
      (setting.query.apply status value now).2 = true := by
  cases setting with
  | carrierProfile =>
    obtain ⟨raw, rfl⟩ := h
    exact ⟨rfl, rfl⟩
  | apn =>
    obtain ⟨name, rfl, hle, hnul⟩ := h
    exact ⟨congrArg Text.toBytes (Text.field_toBytes (Nat.lt_succ_of_le hle) hnul), rfl⟩

/-- A reply to another poll changes nothing that is shown of the setting. -/
theorem shown_apply_of_ne {query : Query} (h : query ≠ setting.query) (status : Status)
    (value : List UInt8) (now : Millis) :
    setting.shown (query.apply status value now).1 = setting.shown status := by
  have hfact := Query.fact_apply_of_ne h status value now
  cases setting with
  | carrierProfile => exact congrArg (fun profile : CarrierProfile => [profile.raw]) hfact
  | apn => exact congrArg Text.toBytes hfact

end Setting

namespace ApnName

variable (name : ApnName)

theorem size_le : Text.size name.text ≤ maxApnBytes := by
  have hfits := name.fits
  simp only [apnFits, Bool.and_eq_true, decide_eq_true_eq] at hfits
  exact hfits.2

theorem toBytes_ne_nil : Text.toBytes name.text ≠ [] := by
  have hfits := name.fits
  simp only [apnFits, Bool.and_eq_true, decide_eq_true_eq] at hfits
  apply List.ne_nil_of_length_pos
  rw [Text.length_toBytes]
  exact hfits.1

theorem admits : Setting.apn.Admits (Text.toBytes name.text) :=
  ⟨name.text, rfl, name.size_le, name.noNul⟩

end ApnName

/-! ## The modem -/

/-- The values that a modem keeps. -/
abbrev Settings := Setting → List UInt8

/-- The answer to a command. -/
def Frame.ofReply (id : UInt8) (command : Command) (status : AtStatus) (value : List UInt8) :
    Frame := .ofHeader .atCommandResponse (id, command, status, ()) value

/-- Take a request. A setting is set, or told; other commands have the given answer. -/
def Settings.take (settings : Settings) (answer : Option (AtStatus × List UInt8)) :
    Request → Settings × Option Frame
  | .command id command value =>
    match Setting.ofCommand? command with
    | none => (settings, answer.map fun (status, told) => .ofReply id command status told)
    | some setting =>
      if value = [] then (settings, some (.ofReply id command .ok (settings setting)))
      else (Function.update settings setting value, none)
  | _ => (settings, none)

namespace Setting

theorem told?_ofReply (setting : Setting) (id : UInt8) (command : Command) (status : AtStatus)
    (value : List UInt8) :
    setting.told? (.ofReply id command status value) =
      if id = Monitor.pollId setting.query ∧ command = setting.query.command ∧ status = .ok then
        some value
      else none := by
  have hinbound : (Frame.ofReply id command status value).inbound =
      .reply id command status value := by
    simp only [Frame.inbound, Frame.ofReply, Frame.decodeAs?_ofHeader]
  rw [told?, hinbound]

/-- What a request makes of a setting, and what its answer tells of it. -/
theorem take_eq (setting : Setting) (settings : Settings)
    (answer : Option (AtStatus × List UInt8)) (request : Request) :
    (settings.take answer request).1 setting =
        (setting.sets? request).getD (settings setting) ∧
      (settings.take answer request).2.toList.filterMap setting.told? =
        if request = setting.poll then [settings setting] else [] := by
  cases request with
  | command id command value =>
    cases hnamed : ofCommand? command with
    | none =>
      have hne : command ≠ setting.query.command := by
        rw [ne_eq, ← ofCommand?_eq_some_iff, hnamed]
        exact nofun
      have htold : ∀ status told, setting.told? (.ofReply id command status told) = none := by
        intro status told
        rw [told?_ofReply, if_neg fun h => hne h.2.1]
      refine ⟨?_, ?_⟩
      · simp [Settings.take, hnamed, sets?, hne]
      · cases answer <;> simp [Settings.take, hnamed, poll, hne, htold]
    | some named =>
      obtain rfl := ofCommand?_eq_some_iff.mp hnamed
      by_cases hvalue : value = []
      · subst hvalue
        refine ⟨by simp [Settings.take, hnamed, sets?], ?_⟩
        simp only [Settings.take, hnamed, if_pos, Option.toList_some, List.filterMap_cons,
          List.filterMap_nil, told?_ofReply, query_command_inj, poll, Request.command.injEq,
          and_true]
        split <;> grind
      · refine ⟨?_, by simp [Settings.take, hnamed, hvalue, poll]⟩
        simp only [Settings.take, hnamed, sets?, query_command_inj, ne_eq, hvalue,
          not_false_eq_true, and_true]
        grind
  | _ => simp [Settings.take, sets?, poll]

end Setting

/-! ## The exchange -/

/-- A monitor and a modem, and what is on its way between them, the oldest first. -/
structure Exchange where
  monitor : Monitor
  requests : List Request
  settings : Settings
  frames : List Frame

/-- What can happen next. -/
inductive Move where
  | configureCarrier (profile : CarrierProfile)
  | configureApn (name : ApnName)
  /-- The monitor takes its turn. -/
  | turn (now : Millis) (space : Nat)
  /-- The modem takes a request; if it is about no setting it has the given answer. -/
  | take (answer : Option (AtStatus × List UInt8))
  /-- The oldest frame on its way reaches the monitor. -/
  | deliver (now : Millis)
  /-- A frame that is no reply reaches the monitor. -/
  | unasked (now : Millis) (frame : Frame)
    (h : ∀ id command status value, frame.inbound ≠ .reply id command status value)

namespace Exchange

/-- A monitor and a modem with nothing on its way between them. -/
def start (monitor : Monitor) (settings : Settings) : Exchange := ⟨monitor, [], settings, []⟩

/-- The exchange after a move. -/
def step (exchange : Exchange) : Move → Exchange
  | .configureCarrier profile =>
    { exchange with monitor := exchange.monitor.configureCarrier profile }
  | .configureApn name => { exchange with monitor := exchange.monitor.configureApn name.text }
  | .turn now space =>
    let (request, monitor) := exchange.monitor.takeTurn now space
    { exchange with monitor, requests := exchange.requests ++ request.toList }
  | .take answer =>
    match exchange.requests with
    | [] => exchange
    | request :: requests =>
      let (settings, frame) := exchange.settings.take answer request
      { exchange with requests, settings, frames := exchange.frames ++ frame.toList }
  | .deliver now =>
    match exchange.frames with
    | [] => exchange
    | frame :: frames =>
      { exchange with monitor := exchange.monitor.onIncoming now frame, frames }
  | .unasked now frame _ => { exchange with monitor := exchange.monitor.onIncoming now frame }

/-- The exchange after moves. -/
def after (exchange : Exchange) (moves : List Move) : Exchange := moves.foldl step exchange

theorem after_concat (exchange : Exchange) (moves : List Move) (move : Move) :
    exchange.after (moves ++ [move]) = (exchange.after moves).step move :=
  List.foldl_append

end Exchange

end CellStation
