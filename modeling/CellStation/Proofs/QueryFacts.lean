import CellStation.Status.Query
import Mathlib.Data.List.Nodup

/-!
# The facts that queries read

Every query reads one fact of the snapshot (`Query.fact`), and the facts are all that the
snapshot holds (`Query.eq_of_facts`). A reply to it touches no other fact
(`Query.fact_apply_of_ne`) and sets its own to what the value tells (`Query.fact_apply`), which
is nothing for a value of a wrong size (`Query.told_of_ne`). Five queries read the identity of
the modem and of its SIM card (`Query.identities`), three of them as a text.
-/

namespace CellStation

namespace Query

/-- What a query asks for. -/
def Fact : Query → Type
  | carrierProfile => CarrierProfile
  | requestedApn => String
  | hardwareVersion => UInt16
  | firmwareVersion => UInt32
  | iccid => String
  | imei => String
  | imsi => String
  | association => AssociationStatus
  | operator => String
  | networkTime => UInt32 × Millis
  | operatingApn => String
  | technology => Technology
  | quality => Signal
  | power => Signal
  | ipAddress => Ipv4

/-- The fact that a query reads, in a snapshot. -/
def fact : (query : Query) → Status → query.Fact
  | carrierProfile => Status.carrierProfile
  | requestedApn => Status.requestedApn
  | hardwareVersion => Status.hardwareVersion
  | firmwareVersion => Status.firmwareVersion
  | iccid => Status.iccid
  | imei => Status.imei
  | imsi => Status.imsi
  | association => Status.association
  | operator => Status.networkOperator
  | networkTime => fun status => (status.networkTime, status.networkTimeAt)
  | operatingApn => Status.operatingApn
  | technology => Status.technology
  | quality => Status.quality
  | power => Status.power
  | ipAddress => Status.ipAddress

/-- A reply to one query leaves the facts of the others as they are. -/
theorem fact_apply_of_ne {query other : Query} (h : query ≠ other) (status : Status)
    (value : List UInt8) (now : Millis) :
    other.fact (query.apply status value now).1 = other.fact status := by
  -- A reply is ignored for its length, or sets the one field.
  cases query <;> simp only [apply] <;> try split
  all_goals
    cases other <;> first
      | rfl
      | exact absurd rfl h

/-! ## What a value tells -/

/-- Bytes of a reply to a query, where the query asks for a fixed number of them. -/
def replySize? : Query → Option Nat
  | carrierProfile | association => some 1
  | hardwareVersion | technology | quality | power => some 2
  | firmwareVersion | networkTime | ipAddress => some 4
  | requestedApn | iccid | imei | imsi | operator | operatingApn => none

/-- The fact that the value of a reply tells, unless the value has another size. -/
def told (query : Query) (value : List UInt8) (now : Millis) : Option query.Fact :=
  match query, value with
  | carrierProfile, [code] => some (⟨code⟩ : CarrierProfile)
  | requestedApn, text => some (Text.field text apnSize)
  | hardwareVersion, [a, b] => some (word a b)
  | firmwareVersion, [a, b, c, d] => some (long a b c d)
  | iccid, text => some (Text.field text iccidSize)
  | imei, text => some (Text.field text imeiSize)
  | imsi, text => some (Text.field text imsiSize)
  | association, [code] => some (⟨code⟩ : AssociationStatus)
  | operator, text => some (Text.field text operatorSize)
  | networkTime, [a, b, c, d] => some (long a b c d, now)
  | operatingApn, text => some (Text.field text apnSize)
  | technology, [a, b] => some (⟨word a b⟩ : Technology)
  | quality, [a, b] => some (Signal.ofTenthsBelow (word a b))
  | power, [a, b] => some (Signal.ofTenthsBelow (word a b))
  | ipAddress, [a, b, c, d] => some (⟨a, b, c, d⟩ : Ipv4)
  | _, _ => none

/-- The value of a reply settles the fact for the session : a number that is told once, or a
text of identity that is not empty. -/
def settles (query : Query) (value : List UInt8) : Bool :=
  match query with
  | carrierProfile | requestedApn | hardwareVersion | firmwareVersion => (query.told value 0).isSome
  | iccid => Text.field value iccidSize ≠ ""
  | imei => Text.field value imeiSize ≠ ""
  | imsi => Text.field value imsiSize ≠ ""
  | association | operator | networkTime | operatingApn | technology | quality | power
  | ipAddress => false

/-- A reply sets the fact that its query reads to what the value tells. -/
theorem fact_apply (query : Query) (status : Status) (value : List UInt8) (now : Millis) :
    query.fact (query.apply status value now).1 =
      (query.told value now).getD (query.fact status) := by
  rcases value with _ | ⟨a, _ | ⟨b, _ | ⟨c, _ | ⟨d, _ | ⟨e, rest⟩⟩⟩⟩⟩ <;> cases query <;> rfl

theorem settled_apply (query : Query) (status : Status) (value : List UInt8) (now : Millis) :
    (query.apply status value now).2 = query.settles value := by
  rcases value with _ | ⟨a, _ | ⟨b, _ | ⟨c, _ | ⟨d, _ | ⟨e, rest⟩⟩⟩⟩⟩ <;> cases query <;> rfl

/-- A value of another size than the one asked for tells nothing and settles nothing. -/
theorem told_of_ne {query : Query} {value : List UInt8} {size : Nat}
    (hsize : query.replySize? = some size) (hne : value.length ≠ size) (now : Millis) :
    query.told value now = none ∧ query.settles value = false := by
  rcases value with _ | ⟨a, _ | ⟨b, _ | ⟨c, _ | ⟨d, _ | ⟨e, rest⟩⟩⟩⟩⟩ <;> cases query <;>
    first
    | exact ⟨rfl, rfl⟩
    | exact absurd (Option.some.inj hsize) hne
    | cases hsize

/-- The facts are all that a snapshot holds. -/
theorem eq_of_facts {status next : Status}
    (h : ∀ query : Query, query.fact status = query.fact next) : status = next := by
  obtain ⟨htime, hat⟩ := Prod.mk.inj (h networkTime)
  cases status
  cases next
  rw [Status.mk.injEq]
  exact ⟨h hardwareVersion, h firmwareVersion, h iccid, h imei, h imsi, h carrierProfile,
    h association, h operator, h requestedApn, h operatingApn, htime, hat, h technology, h power,
    h quality, h ipAddress⟩

/-! ## The table -/

theorem mem_all (query : Query) : query ∈ all := by
  cases query <;> decide

theorem command_injective {query other : Query} (h : query.command = other.command) :
    query = other := by
  have hnodup : (all.map command).Nodup := by decide
  exact List.inj_on_of_nodup_map hnodup query.mem_all other.mem_all h

/-! ## Identities -/

/-- The queries that read the identity of the modem and of its SIM card. -/
def identities : List Query := [hardwareVersion, firmwareVersion, iccid, imei, imsi]

/-- An event of the modem tells nothing of an identity. -/
theorem fact_identity_event {query : Query} (h : query ∈ identities) (status : Status)
    (association : AssociationStatus) :
    query.fact { status with association } = query.fact status := by
  simp only [identities, List.mem_cons, List.not_mem_nil, or_false] at h
  rcases h with rfl | rfl | rfl | rfl | rfl <;> rfl

/-- An identity is not a value that the monitor writes. -/
theorem identity_ne_setting {query : Query} (h : query ∈ identities) :
    carrierProfile ≠ query ∧ requestedApn ≠ query := by
  constructor
  · rintro rfl
    revert h
    decide
  · rintro rfl
    revert h
    decide

end Query

end CellStation
