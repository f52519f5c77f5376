import CellStation.Config
import CellStation.Request
import CellStation.Status.Query

/-!
# Status monitor

The monitor keeps a snapshot of the modem's status fresh. Every query has a slot in a
poll table; a slot is polled again one poll interval after it was last polled. A slot
whose fact is settled is no longer polled. An event of the modem makes every slot due.

The monitor also writes the carrier profile and the access point name. A write goes
before any poll and makes the slot that reads the value back the next to be polled.
Polls are answered by their frame id, `pollIdBase` plus the place of the slot.
-/

namespace CellStation

/-- The frame id of the first slot's polls. -/
def pollIdBase : UInt8 := 128

/-- The frame id of writes, which are not answered. -/
def writeFrameId : UInt8 := 0

/-- A slot of the poll table. -/
structure Slot where
  enabled : Bool
  /-- The clock reading at which the next poll is due. -/
  nextDue : Millis
  deriving DecidableEq, Repr

/-- The snapshot, the poll table and the writes that wait. -/
structure Monitor where
  /-- Time between two polls of a slot. It is 0 where less than a millisecond is configured. -/
  pollInterval : Millis
  slots : Vector Slot 15
  status : Status
  pendingCarrier : Option CarrierProfile
  pendingApn : Option String
  deriving DecidableEq, Repr

namespace Monitor

/-! ## The poll table -/

/-- The slot of a query. -/
def slot (monitor : Monitor) (query : Query) : Slot := monitor.slots[query.index]

/-- Replace the slot of a query. -/
def setSlot (monitor : Monitor) (query : Query) (slot : Slot) : Monitor :=
  { monitor with slots := monitor.slots.set query.index slot }

/-- Make the slot of a query the most overdue one. -/
def forcePoll (monitor : Monitor) (query : Query) : Monitor :=
  monitor.setSlot query ⟨true, 0⟩

/-- The slot of a query may be polled at a clock reading. -/
def isDue (monitor : Monitor) (now : Millis) (query : Query) : Bool :=
  (monitor.slot query).enabled && (monitor.slot query).nextDue ≤ now

/-- The query to poll : the most overdue one, of several the first in the table. -/
def mostOverdue? (monitor : Monitor) (now : Millis) : Option Query :=
  (Query.all.filter (monitor.isDue now)).minOn? fun query => (monitor.slot query).nextDue

/-! ## Configuration -/

/-- Have a carrier profile written. -/
def configureCarrier (monitor : Monitor) (profile : CarrierProfile) : Monitor :=
  { monitor with pendingCarrier := some profile }

/-- Have an access point name written, cut to what the modem accepts. -/
def configureApn (monitor : Monitor) (apn : String) : Monitor :=
  { monitor with pendingApn := some (Text.cut apn maxApnBytes) }

/-- A monitor that knows nothing and has every slot due. -/
def fresh (pollInterval : Millis) : Monitor where
  pollInterval := pollInterval
  slots := .replicate 15 ⟨true, 0⟩
  status := .initial
  pendingCarrier := none
  pendingApn := none

/-- The monitor of a configuration. -/
def ofConfig (config : MonitorConfig) : Except Error Monitor :=
  if config.pollInterval.nanos = 0 then .error (.config .monitorIntervalZero)
  else
    let monitor := fresh config.pollInterval.clampedMillis
    let monitor :=
      match config.carrierProfile with
      | some raw => monitor.configureCarrier ⟨raw⟩
      | none => monitor
    match config.apn with
    | some apn =>
      if apnFits apn then .ok (monitor.configureApn apn)
      else .error (.config (.monitorApnSize (Text.size apn)))
    | none => .ok monitor

/-! ## Inbound frames -/

/-- The association that an event of the modem tells of. -/
def associationAfter? (code : ModemStatusCode) : Option AssociationStatus :=
  if code = .powerUp ∨ code = .watchdogReset then some .initializing
  else if code = .registered then some .connected
  else if code = .unregistered then some .registering
  else if code = .updateApplying then some .firmwareUpdate
  else none

/-- Take note of an event, and make every slot due one interval earlier. -/
def onEvent (monitor : Monitor) (code : ModemStatusCode) : Monitor :=
  { monitor with
    status :=
      { monitor.status with
        association := (associationAfter? code).getD monitor.status.association }
    slots := monitor.slots.map fun slot =>
      { slot with nextDue := slot.nextDue.since monitor.pollInterval } }

/-- The query that is polled with a frame id. -/
def queryOfId? (id : UInt8) : Option Query :=
  if pollIdBase ≤ id then Query.ofIndex? (id - pollIdBase).toNat else none

/-- Take the value of a reply, if it answers a slot that is still polled. -/
def onReply (monitor : Monitor) (now : Millis) (id : UInt8) (command : Command)
    (status : AtStatus) (value : List UInt8) : Monitor :=
  match queryOfId? id with
  | none => monitor
  | some query =>
    let slot := monitor.slot query
    if slot.enabled ∧ command = query.command ∧ status = .ok then
      let (snapshot, settled) := query.apply monitor.status value now
      { monitor with status := snapshot }.setSlot query
        { slot with enabled := !settled }
    else monitor

/-- Handle a frame from the modem. -/
def onIncoming (monitor : Monitor) (now : Millis) (frame : Frame) : Monitor :=
  match frame.inbound with
  | .reply id command status value => monitor.onReply now id command status value
  | .event code => monitor.onEvent code
  | _ => monitor

/-! ## Outbound requests -/

/-- The frame id of a slot's polls. -/
def pollId (query : Query) : UInt8 := pollIdBase + UInt8.ofNat query.index

/-- The write that waits, or the poll that is due, and the monitor after it. Nothing is
sent that does not fit into `space` bytes; room for the value of one byte is asked in any
case. The program stops where a slot would be due next beyond the last reading that the clock
can have. -/
def nextRequest (monitor : Monitor) (now : Millis) (space : Nat) :
    Except Overflow (Option Request × Monitor) :=
  if space < Layout.atCommand.wireSizeOf 1 then .ok (none, monitor)
  else
    match monitor.pendingCarrier, monitor.pendingApn with
    | some profile, _ =>
      .ok (some (.command writeFrameId Query.carrierProfile.command [profile.raw]),
        { monitor with pendingCarrier := none }.forcePoll .carrierProfile)
    | none, some apn =>
      if space < Layout.atCommand.wireSizeOf (Text.size apn) then .ok (none, monitor)
      else
        .ok (some (.command writeFrameId Query.requestedApn.command (Text.toBytes apn)),
          { monitor with pendingApn := none }.forcePoll .requestedApn)
    | none, none =>
      match monitor.mostOverdue? now with
      | none => .ok (none, monitor)
      | some query => do
        let nextDue ← now.later monitor.pollInterval
        return (some (.command (pollId query) query.command []),
          monitor.setSlot query { monitor.slot query with nextDue })

end Monitor

end CellStation
