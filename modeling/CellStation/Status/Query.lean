import CellStation.BigEndian
import CellStation.Inbound
import CellStation.Status
import CellStation.Text.Field

/-!
# Status queries

A fact of the status is asked for by one AT command. `Query.apply` puts the value of a
reply into the snapshot and tells whether the fact is settled for the session, so that it
need not be asked for again. A value of a wrong length changes nothing.
-/

namespace CellStation

/-- Bytes of the identity of the SIM card, with a terminator. -/
def iccidSize : Nat := 21

/-- Bytes of the identity of the modem, with a terminator. -/
def imeiSize : Nat := 16

/-- Bytes of the identity of the subscriber, with a terminator. -/
def imsiSize : Nat := 16

/-- Bytes of the name of the network operator, with a terminator. -/
def operatorSize : Nat := 16

/-- Bytes of the name of an access point, with a terminator. -/
def apnSize : Nat := 50

/-- A fact that is asked for by one command. -/
inductive Query where
  | carrierProfile
  | requestedApn
  | hardwareVersion
  | firmwareVersion
  | iccid
  | imei
  | imsi
  | association
  | operator
  | networkTime
  | operatingApn
  | technology
  | quality
  | power
  | ipAddress
  deriving DecidableEq, Repr

namespace Query

/-- Every query, in the order of the poll table. -/
def all : List Query :=
  [.carrierProfile, .requestedApn, .hardwareVersion, .firmwareVersion, .iccid, .imei, .imsi,
   .association, .operator, .networkTime, .operatingApn, .technology, .quality, .power,
   .ipAddress]

/-- The place of a query in the poll table. -/
def index : Query → Fin 15
  | carrierProfile => 0
  | requestedApn => 1
  | hardwareVersion => 2
  | firmwareVersion => 3
  | iccid => 4
  | imei => 5
  | imsi => 6
  | association => 7
  | operator => 8
  | networkTime => 9
  | operatingApn => 10
  | technology => 11
  | quality => 12
  | power => 13
  | ipAddress => 14

/-- The query at a place of the poll table. -/
def ofIndex? (index : Nat) : Option Query := all[index]?

/-- The name of a query. -/
def name : Query → String
  | carrierProfile => "CarrierProfile"
  | requestedApn => "RequestedApn"
  | hardwareVersion => "HardwareVersion"
  | firmwareVersion => "FirmwareVersion"
  | iccid => "Iccid"
  | imei => "Imei"
  | imsi => "Imsi"
  | association => "Association"
  | operator => "Operator"
  | networkTime => "NetworkTime"
  | operatingApn => "OperatingApn"
  | technology => "Technology"
  | quality => "Quality"
  | power => "Power"
  | ipAddress => "IpAddress"

/-- The command that asks for a fact. -/
def command : Query → Command
  | carrierProfile => .ofLetters 'C' 'P'
  | requestedApn => .ofLetters 'A' 'N'
  | hardwareVersion => .ofLetters 'H' 'V'
  | firmwareVersion => .ofLetters 'V' 'R'
  | iccid => .ofLetters 'S' '#'
  | imei => .ofLetters 'I' 'M'
  | imsi => .ofLetters 'I' 'I'
  | association => .ofLetters 'A' 'I'
  | operator => .ofLetters 'M' 'N'
  | networkTime => .ofLetters 'D' 'T'
  | operatingApn => .ofLetters 'O' 'A'
  | technology => .ofLetters 'O' 'T'
  | quality => .ofLetters 'S' 'Q'
  | power => .ofLetters 'S' 'W'
  | ipAddress => .ofLetters 'M' 'Y'

/-- The number in a value of two bytes. -/
def word (a b : UInt8) : UInt16 := UInt16.ofNat (BigEndian.read [a, b])

/-- The number in a value of four bytes. -/
def long (a b c d : UInt8) : UInt32 := UInt32.ofNat (BigEndian.read [a, b, c, d])

/-- Put the value of a reply that came at a clock reading into the snapshot. The answer is
true when the fact is settled for the session. -/
def apply (query : Query) (status : Status) (value : List UInt8) (now : Millis) :
    Status × Bool :=
  match query with
  | carrierProfile =>
    match value with
    | [code] => ({ status with carrierProfile := ⟨code⟩ }, true)
    | _ => (status, false)
  | requestedApn => ({ status with requestedApn := Text.field value apnSize }, true)
  | hardwareVersion =>
    match value with
    | [a, b] => ({ status with hardwareVersion := word a b }, true)
    | _ => (status, false)
  | firmwareVersion =>
    match value with
    | [a, b, c, d] => ({ status with firmwareVersion := long a b c d }, true)
    | _ => (status, false)
  | iccid =>
    let text := Text.field value iccidSize
    ({ status with iccid := text }, text ≠ "")
  | imei =>
    let text := Text.field value imeiSize
    ({ status with imei := text }, text ≠ "")
  | imsi =>
    let text := Text.field value imsiSize
    ({ status with imsi := text }, text ≠ "")
  | association =>
    match value with
    | [code] => ({ status with association := ⟨code⟩ }, false)
    | _ => (status, false)
  | operator => ({ status with networkOperator := Text.field value operatorSize }, false)
  | networkTime =>
    match value with
    | [a, b, c, d] =>
      ({ status with networkTime := long a b c d, networkTimeAt := now }, false)
    | _ => (status, false)
  | operatingApn => ({ status with operatingApn := Text.field value apnSize }, false)
  | technology =>
    match value with
    | [a, b] => ({ status with technology := ⟨word a b⟩ }, false)
    | _ => (status, false)
  | quality =>
    match value with
    | [a, b] => ({ status with quality := .ofTenthsBelow (word a b) }, false)
    | _ => (status, false)
  | power =>
    match value with
    | [a, b] => ({ status with power := .ofTenthsBelow (word a b) }, false)
    | _ => (status, false)
  | ipAddress =>
    match value with
    | [a, b, c, d] => ({ status with ipAddress := ⟨a, b, c, d⟩ }, false)
    | _ => (status, false)

end Query

end CellStation
