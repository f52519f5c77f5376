import CellStation.Clock
import CellStation.Code
import CellStation.Ipv4
import CellStation.Signal

/-!
# Modem status

A snapshot of what is known of the modem and its network.
-/

namespace CellStation

/-- Seconds from the Unix epoch to 2000-01-01 UTC, from which the network counts. -/
def networkEpoch : Nat := 946684800

/-- What is known of the modem and its network. -/
structure Status where
  hardwareVersion : UInt16
  firmwareVersion : UInt32
  iccid : String
  imei : String
  imsi : String
  carrierProfile : CarrierProfile
  association : AssociationStatus
  networkOperator : String
  requestedApn : String
  operatingApn : String
  /-- Seconds since 2000-01-01 UTC as the network reported them; zero before any report. -/
  networkTime : UInt32
  /-- The clock reading when the network time was reported. -/
  networkTimeAt : Millis
  technology : Technology
  /-- Received power in dBm. -/
  power : Signal
  /-- Received quality in dB. -/
  quality : Signal
  ipAddress : Ipv4
  deriving DecidableEq, Repr

namespace Status

/-- The snapshot before any report. -/
def initial : Status where
  hardwareVersion := 0
  firmwareVersion := 0
  iccid := ""
  imei := ""
  imsi := ""
  carrierProfile := .unknownProfile
  association := .initializing
  networkOperator := ""
  requestedApn := ""
  operatingApn := ""
  networkTime := 0
  networkTimeAt := 0
  technology := .unknownTech
  power := .zero
  quality := .zero
  ipAddress := .unspecified

/-- The text of a code, where a code that no book lists has the text `unlisted`. -/
def textOr (unlisted : String) (book : List CodeEntry) (raw : Nat) : String :=
  match documented? book raw with
  | some entry => entry.text
  | none => unlisted

/-- The carrier profile, for display. -/
def carrierText (status : Status) : String :=
  textOr "UNKNOWN_PROFILE" CodeSet.carrierProfile.book status.carrierProfile.raw.toNat

/-- The association, for display. -/
def associationText (status : Status) : String :=
  textOr "UNKNOWN_ASSOC" CodeSet.associationStatus.book status.association.raw.toNat

/-- The technology, for display. -/
def technologyText (status : Status) : String :=
  textOr "UNKNOWN_TECH" Technology.book status.technology.raw.toNat

/-- The reported network time in milliseconds since the Unix epoch. -/
def unixMillis? (status : Status) : Option Int :=
  if status.networkTime = 0 then none
  else some ((networkEpoch + status.networkTime.toNat) * 1000)

/-- The network time carried on to a clock reading. The time passed since the report is
taken as a signed number of 64 bits. -/
def unixMillisAt? (status : Status) (now : Millis) : Option Int :=
  status.unixMillis?.map fun base =>
    base + (now.since status.networkTimeAt).toInt64.toInt

/-- Seconds of network time less seconds of the local clock at the report. -/
def networkTimeOffset (status : Status) : Int :=
  status.networkTime.toNat - (status.networkTimeAt / 1000).toNat

end Status

end CellStation
