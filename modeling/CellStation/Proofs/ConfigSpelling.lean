import CellStation.Config.File
import CellStation.Proofs.JsonText
import Mathlib.Data.List.Nodup
import Mathlib.Data.Option.Basic

/-!
# Spellings of a configuration

A configuration is written with every field given, and read from more than that : from objects
whose members stand in another order, that have members of other names besides, and that leave
out fields with the value they have when not given. The spellings of a record are described by
its fields alone (`Json.Spells`), without the reader. Every spelling is read as the record it
spells, section by section, and so every spelling of a configuration is read as the configuration
(`Config.ofJson?_of_spells`), from any text that it has (`Config.every_spelling_reads_back`). The
durations of the configuration are whole milliseconds, as nothing else of them is written.
-/

namespace CellStation

namespace Json

/-! ## Records -/

/-- A field of a record that has its values. -/
structure Field where
  name : String
  /-- The values by which the field is given. -/
  Means : Json → Prop
  /-- The field has the value that it has when it is not given. -/
  MayOmit : Prop

/-- The fields in order, each given by a member or left out. -/
inductive Given : List Field → List (Option String × Json) → Prop where
  | nil : Given [] []
  | give {field : Field} {fields : List Field} {json : Json}
    {members : List (Option String × Json)} (h : field.Means json) (rest : Given fields members) :
    Given (field :: fields) ((some field.name, json) :: members)
  | leftOut {field : Field} {fields : List Field} {members : List (Option String × Json)}
    (h : field.MayOmit) (rest : Given fields members) : Given (field :: fields) members

/-- A member whose name is that of no field. -/
def IsUnknown (fields : List Field) (member : Option String × Json) : Prop :=
  ∃ name, member.1 = some name ∧ ∀ field ∈ fields, field.name ≠ name

/-- An object spells a record : its members are those that give the fields and unknown ones, in
any order. -/
inductive Spells (fields : List Field) : Json → Prop where
  | intro {given unknown members : List (Option String × Json)} (hgiven : Given fields given)
    (hunknown : ∀ member ∈ unknown, IsUnknown fields member)
    (horder : members.Perm (given ++ unknown)) : Spells fields (.obj members)

variable {fields : List Field} {field : Field} {given members unknown : List (Option String × Json)}
  {name : String} {json : Json}

/-- A spelling may stand backwards. -/
theorem Spells.backwards (hgiven : Given fields given)
    (hunknown : ∀ member ∈ unknown, IsUnknown fields member) :
    Spells fields (.obj (given ++ unknown).reverse) :=
  ⟨hgiven, hunknown, List.reverse_perm _⟩

/-- The names of the members that give fields are names of the fields, in order. -/
theorem Given.names_sublist (h : Given fields members) :
    (members.map (·.1)).Sublist ((fields.map Field.name).map some) := by
  induction h with
  | nil => exact .slnil
  | give _ _ ih => exact ih.cons_cons _
  | leftOut _ _ ih => exact ih.cons _

/-- Among the members that give fields, a field has a member that says what it means, or has no
member and may be left out. -/
theorem Given.mem_or_omitted (h : Given fields members) (hnames : (fields.map Field.name).Nodup)
    (hfield : field ∈ fields) :
    (∃ json, field.Means json ∧ (some field.name, json) ∈ members) ∨
      field.MayOmit ∧ ∀ member ∈ members, member.1 ≠ some field.name := by
  induction h with
  | nil => cases hfield
  | @give first fields json members hmeans rest ih =>
    obtain ⟨hfirst, hnames⟩ := List.nodup_cons.mp hnames
    rcases List.mem_cons.mp hfield with rfl | hfield
    · exact .inl ⟨json, hmeans, List.mem_cons_self⟩
    · rcases ih hnames hfield with ⟨json, hmeans, hmem⟩ | ⟨homit, hnone⟩
      · exact .inl ⟨json, hmeans, List.mem_cons_of_mem _ hmem⟩
      · refine .inr ⟨homit, List.forall_mem_cons.mpr ⟨fun hname => hfirst ?_, hnone⟩⟩
        exact List.mem_map.mpr ⟨field, hfield, (Option.some.inj hname).symm⟩
  | @leftOut first fields members homit rest ih =>
    obtain ⟨hfirst, hnames⟩ := List.nodup_cons.mp hnames
    rcases List.mem_cons.mp hfield with rfl | hfield
    · refine .inr ⟨homit, fun member hmem hname => hfirst ?_⟩
      have hlisted := rest.names_sublist.subset (List.mem_map_of_mem hmem)
      rw [hname] at hlisted
      exact List.mem_map_of_injective (Option.some_injective _) |>.mp hlisted
    · exact ih hnames hfield

/-- The value of a name that stands once. -/
theorem member?_of_mem (hcount : members.countP (·.1 == some name) ≤ 1)
    (hmem : (some name, json) ∈ members) : (Json.obj members).member? name = some json := by
  induction members with
  | nil => cases hmem
  | cons member members ih =>
    rw [List.countP_cons] at hcount
    by_cases hname : member.1 = some name
    · rcases List.mem_cons.mp hmem with rfl | hlater
      · simp [member?]
      · have hpositive : 0 < members.countP (·.1 == some name) :=
          List.countP_pos_iff.mpr ⟨_, hlater, by simp⟩
        simp only [hname, beq_self_eq_true, if_true] at hcount
        omega
    · have hlater : (some name, json) ∈ members :=
        (List.mem_cons.mp hmem).resolve_left fun hsame => hname (hsame ▸ rfl)
      have hfound := ih (by omega) hlater
      simpa [member?, List.find?_cons, hname] using hfound

theorem member?_eq_none (h : ∀ member ∈ members, member.1 ≠ some name) :
    (Json.obj members).member? name = none := by
  simpa [member?] using h

/-- No field stands twice in a spelling. -/
theorem Given.countP_le (h : Given fields members) (hnames : (fields.map Field.name).Nodup)
    (name : String) : members.countP (·.1 == some name) ≤ 1 := by
  have hnodup : (members.map (·.1)).Nodup :=
    h.names_sublist.nodup (hnames.map (Option.some_injective _))
  have hcount := List.nodup_iff_count_le_one.mp hnodup (some name)
  rwa [List.count, List.countP_map] at hcount

theorem Given.isNone_eq_false (h : Given fields members) {member : Option String × Json}
    (hmem : member ∈ members) : member.1.isNone = false := by
  have hlisted := h.names_sublist.subset (List.mem_map_of_mem hmem)
  obtain ⟨name, -, hname⟩ := List.mem_map.mp hlisted
  rw [← hname]
  rfl

theorem IsUnknown.isNone_eq_false {member : Option String × Json} (h : IsUnknown fields member) :
    member.1.isNone = false := by
  obtain ⟨name, hname, -⟩ := h
  rw [hname]
  rfl

theorem IsUnknown.name_ne {member : Option String × Json} (h : IsUnknown fields member)
    (hfield : field ∈ fields) : member.1 ≠ some field.name := by
  obtain ⟨name, hname, hnone⟩ := h
  intro hsame
  exact hnone field hfield (Option.some.inj (hsame.symm.trans hname))

section

variable (hnames : (fields.map Field.name).Nodup) (hgiven : Given fields given)
  (hunknown : ∀ member ∈ unknown, IsUnknown fields member)
  (horder : members.Perm (given ++ unknown)) (hfield : field ∈ fields)

include hnames hgiven hunknown horder hfield

theorem countP_spelling_le : members.countP (·.1 == some field.name) ≤ 1 := by
  have hzero : unknown.countP (·.1 == some field.name) = 0 :=
    List.countP_eq_zero.mpr fun member hmem => by simpa using (hunknown member hmem).name_ne hfield
  rw [horder.countP_eq, List.countP_append, hzero]
  exact hgiven.countP_le hnames field.name

/-- A field is found in a spelling with a value that means it, or is not found and may be left
out. -/
theorem elim_member? :
    ((Json.obj members).member? field.name).elim field.MayOmit field.Means := by
  rcases hgiven.mem_or_omitted hnames hfield with ⟨json, hmeans, hmem⟩ | ⟨homit, hnone⟩
  · have hcount := countP_spelling_le hnames hgiven hunknown horder hfield
    have hmem := horder.mem_iff.mpr (List.mem_append_left unknown hmem)
    rwa [member?_of_mem hcount hmem]
  · have hnone : ∀ member ∈ members, member.1 ≠ some field.name := by
      intro member hmem
      rcases List.mem_append.mp (horder.mem_iff.mp hmem) with hmem | hmem
      · exact hnone member hmem
      · exact (hunknown member hmem).name_ne hfield
    rwa [member?_eq_none hnone]

end

/-- A spelling of a record is read as the values of its fields : for each field a value that means
it, or none where it may be left out. -/
theorem fields?_of_spells {names : List String} (hfields : fields.map Field.name = names)
    (hnames : names.Nodup) (h : Spells fields json) :
    ∃ values, json.fields? names = some values ∧
      List.Forall₂ (fun field value => value.elim field.MayOmit field.Means) fields values := by
  subst hfields
  obtain @⟨given, unknown, members, hgiven, hunknown, horder⟩ := h
  have hnamed : ∀ member ∈ members, member.1.isNone = false := by
    intro member hmem
    rcases List.mem_append.mp (horder.mem_iff.mp hmem) with hmem | hmem
    · exact hgiven.isNone_eq_false hmem
    · exact (hunknown member hmem).isNone_eq_false
  refine ⟨(fields.map Field.name).map (Json.obj members).member?, ?_, ?_⟩
  · rw [fields?, if_neg]
    simp only [Bool.or_eq_true, List.any_eq_true, decide_eq_true_eq, List.mem_map, not_or,
      not_exists, not_and]
    refine ⟨fun member hmem => by simp [hnamed member hmem], ?_⟩
    rintro _ ⟨field, hfield, rfl⟩
    exact Nat.not_lt_of_le (countP_spelling_le hnames hgiven hunknown horder hfield)
  · rw [List.map_map, List.forall₂_map_right_iff, List.forall₂_same]
    exact fun field hfield => elim_member? hnames hgiven hunknown horder hfield

/-! ## Values of fields -/

variable {α : Type} {read : Json → Option α} {value : α} {Means : Json → Prop}
  {given : Option Json}

theorem orDefault?_eq_some {default : α} (h : given.elim (value = default) Means)
    (hread : ∀ json, Means json → read json = some value) :
    orDefault? read default given = some value := by
  cases given with
  | none => exact congrArg some h.symm
  | some json => exact hread json h

theorem orDefault?_of_eq {default : α} (h : given.elim (value = default) (· = json))
    (hread : read json = some value) : orDefault? read default given = some value :=
  orDefault?_eq_some h fun _ hgiven => hgiven ▸ hread

theorem required?_of_eq (h : given.elim False (· = json)) (hread : read json = some value) :
    required? read given = some value := by
  cases given with
  | none => exact h.elim
  | some json => exact (congrArg read h).trans hread

theorem text?_ofText (text : String) : (ofText text).text? = some text := rfl

theorem uint8?_ofNat (n : UInt8) : (ofNat n.toNat).uint8? = some n := by
  simp [uint8?, ofNat, natBelow?, n.toNat_lt]

theorem uint16?_ofNat (n : UInt16) : (ofNat n.toNat).uint16? = some n := by
  simp [uint16?, ofNat, natBelow?, n.toNat_lt]

theorem uint64?_ofNat (n : UInt64) : (ofNat n.toNat).uint64? = some n := by
  simp [uint64?, ofNat, natBelow?, n.toNat_lt]

theorem nullable?_of_ne_null (h : json ≠ .null) :
    nullable? read json = (read json).map some := by
  cases json with
  | null => exact absurd rfl h
  | _ => rfl

theorem nullable?_ofOption {write : α → Json} (h : ∀ value, read (write value) = some value)
    (hnull : ∀ value, write value ≠ .null) (value : Option α) :
    nullable? read (ofOption write value) = some value := by
  cases value with
  | none => rfl
  | some value => rw [ofOption, nullable?_of_ne_null (hnull value), h value, Option.map_some]

/-- A value spells a record, or is null where there is none. -/
def SpellsOption (fields : α → List Field) : Option α → Json → Prop
  | none, json => json = .null
  | some value, json => Spells (fields value) json

theorem nullable?_of_spellsOption {fields : α → List Field} {value : Option α}
    (hread : ∀ given ∈ value, ∀ json, Spells (fields given) json → read json = some given)
    (h : SpellsOption fields value json) : nullable? read json = some value := by
  cases value with
  | none => exact h ▸ rfl
  | some value =>
    have hobject : json ≠ .null := by
      rintro rfl
      cases h
    rw [nullable?_of_ne_null hobject, hread value rfl json h, Option.map_some]

end Json

/-! ## Sections -/

/-- A duration of whole milliseconds, as many as a word counts. -/
def Duration.IsWhole (duration : Duration) : Prop := ∃ count, duration = .ofMillis count

/-- A duration is read back from its milliseconds if it has no more to it. -/
theorem Duration.ofJson?_toJson {duration : Duration} (h : duration.IsWhole) :
    ofJson? duration.toJson = some duration := by
  obtain ⟨count, rfl⟩ := h
  rw [ofJson?, toJson, lowMillis_ofMillis, Json.uint64?_ofNat, Option.map_some]

@[simp] theorem Duration.wellFormed_toJson (duration : Duration) : duration.toJson.WellFormed := by
  simp [toJson]

/-- A protocol is read back from its name. -/
theorem Transport.ofJson?_toJson (protocol : Transport) :
    ofJson? protocol.toJson = some protocol := by
  cases protocol <;> rfl

namespace SerialConfig

/-- The fields of the section. -/
def fields (config : SerialConfig) : List Json.Field :=
  let default : SerialConfig := {}
  [⟨"device", (· = .ofText config.device), config.device = default.device⟩,
   ⟨"write_chunk", (· = .ofNat config.writeChunk.toNat), config.writeChunk = default.writeChunk⟩]

theorem spells_toJson (config : SerialConfig) : Json.Spells config.fields config.toJson :=
  ⟨.give rfl (.give rfl .nil), List.forall_mem_nil _, .refl _⟩

theorem wellFormed_toJson (config : SerialConfig) : config.toJson.WellFormed :=
  Json.wellFormed_ofMembers (by simp)

theorem ofJson?_of_spells {config : SerialConfig} {json : Json}
    (h : Json.Spells config.fields json) : ofJson? json = some config := by
  have hnames : config.fields.map Json.Field.name = ["device", "write_chunk"] := rfl
  obtain ⟨values, hvalues, hfields⟩ := Json.fields?_of_spells hnames (by decide) h
  obtain _ | ⟨hdevice, _ | ⟨hchunk, _ | _⟩⟩ := hfields
  have hdevice := Json.orDefault?_of_eq hdevice (Json.text?_ofText config.device)
  have hchunk := Json.orDefault?_of_eq hchunk (Json.uint64?_ofNat config.writeChunk)
  simp only [ofJson?, hvalues, hdevice, hchunk, Option.bind_eq_bind, Option.bind_some, pure]

end SerialConfig

namespace MonitorConfig

/-- The fields of the section. -/
def fields (config : MonitorConfig) : List Json.Field :=
  let default : MonitorConfig := {}
  [⟨"poll_interval", (· = config.pollInterval.toJson),
     config.pollInterval = default.pollInterval⟩,
   ⟨"carrier_profile", (· = .ofOption (fun raw => .ofNat raw.toNat) config.carrierProfile),
     config.carrierProfile = default.carrierProfile⟩,
   ⟨"apn", (· = .ofOption .ofText config.apn), config.apn = default.apn⟩]

theorem spells_toJson (config : MonitorConfig) : Json.Spells config.fields config.toJson :=
  ⟨.give rfl (.give rfl (.give rfl .nil)), List.forall_mem_nil _, .refl _⟩

theorem wellFormed_toJson (config : MonitorConfig) : config.toJson.WellFormed :=
  Json.wellFormed_ofMembers (by simp)

theorem ofJson?_of_spells {config : MonitorConfig} (hwhole : config.pollInterval.IsWhole)
    {json : Json} (h : Json.Spells config.fields json) : ofJson? json = some config := by
  have hnames : config.fields.map Json.Field.name = ["poll_interval", "carrier_profile", "apn"] :=
    rfl
  obtain ⟨values, hvalues, hfields⟩ := Json.fields?_of_spells hnames (by decide) h
  obtain _ | ⟨hinterval, _ | ⟨hcarrier, _ | ⟨hapn, _ | _⟩⟩⟩ := hfields
  have hinterval := Json.orDefault?_of_eq hinterval (Duration.ofJson?_toJson hwhole)
  have hcarrier := Json.orDefault?_of_eq hcarrier
    (Json.nullable?_ofOption Json.uint8?_ofNat nofun config.carrierProfile)
  have hapn := Json.orDefault?_of_eq hapn
    (Json.nullable?_ofOption Json.text?_ofText nofun config.apn)
  simp only [ofJson?, hvalues, hinterval, hcarrier, hapn, Option.bind_eq_bind, Option.bind_some,
    pure]

end MonitorConfig

namespace SocketConfig

/-- The fields of the section. The destination is not left out. -/
def fields (config : SocketConfig) : List Json.Field :=
  [⟨"host", (· = .ofText config.host), False⟩,
   ⟨"port", (· = .ofNat config.port.toNat), False⟩,
   ⟨"protocol", (· = config.protocol.toJson), False⟩,
   ⟨"retry_interval", (· = config.retryInterval.toJson),
     config.retryInterval = defaultRetryInterval⟩]

theorem spells_toJson (config : SocketConfig) : Json.Spells config.fields config.toJson :=
  ⟨.give rfl (.give rfl (.give rfl (.give rfl .nil))), List.forall_mem_nil _, .refl _⟩

theorem wellFormed_toJson (config : SocketConfig) : config.toJson.WellFormed :=
  Json.wellFormed_ofMembers (by simp [Transport.toJson])

theorem ofJson?_of_spells {config : SocketConfig} (hwhole : config.retryInterval.IsWhole)
    {json : Json} (h : Json.Spells config.fields json) : ofJson? json = some config := by
  have hnames : config.fields.map Json.Field.name =
      ["host", "port", "protocol", "retry_interval"] := rfl
  obtain ⟨values, hvalues, hfields⟩ := Json.fields?_of_spells hnames (by decide) h
  obtain _ | ⟨hhost, _ | ⟨hport, _ | ⟨hprotocol, _ | ⟨hretry, _ | _⟩⟩⟩⟩ := hfields
  have hhost := Json.required?_of_eq hhost (Json.text?_ofText config.host)
  have hport := Json.required?_of_eq hport (Json.uint16?_ofNat config.port)
  have hprotocol := Json.required?_of_eq hprotocol config.protocol.ofJson?_toJson
  have hretry := Json.orDefault?_of_eq hretry (Duration.ofJson?_toJson hwhole)
  simp only [ofJson?, hvalues, hhost, hport, hprotocol, hretry, Option.bind_eq_bind,
    Option.bind_some, pure]

end SocketConfig

namespace MqttConfig

/-- The fields of the section. -/
def fields (config : MqttConfig) : List Json.Field :=
  let default : MqttConfig := {}
  [⟨"tx_buffer", (· = .ofNat config.txBuffer.toNat), config.txBuffer = default.txBuffer⟩,
   ⟨"rx_buffer", (· = .ofNat config.rxBuffer.toNat), config.rxBuffer = default.rxBuffer⟩]

theorem spells_toJson (config : MqttConfig) : Json.Spells config.fields config.toJson :=
  ⟨.give rfl (.give rfl .nil), List.forall_mem_nil _, .refl _⟩

theorem wellFormed_toJson (config : MqttConfig) : config.toJson.WellFormed :=
  Json.wellFormed_ofMembers (by simp)

theorem ofJson?_of_spells {config : MqttConfig} {json : Json}
    (h : Json.Spells config.fields json) : ofJson? json = some config := by
  have hnames : config.fields.map Json.Field.name = ["tx_buffer", "rx_buffer"] := rfl
  obtain ⟨values, hvalues, hfields⟩ := Json.fields?_of_spells hnames (by decide) h
  obtain _ | ⟨htx, _ | ⟨hrx, _ | _⟩⟩ := hfields
  have htx := Json.orDefault?_of_eq htx (Json.uint64?_ofNat config.txBuffer)
  have hrx := Json.orDefault?_of_eq hrx (Json.uint64?_ofNat config.rxBuffer)
  simp only [ofJson?, hvalues, htx, hrx, Option.bind_eq_bind, Option.bind_some, pure]

end MqttConfig

namespace StationConfig

/-- The fields of the section. -/
def fields (config : StationConfig) : List Json.Field :=
  let default : StationConfig := {}
  [⟨"tick_interval", (· = config.tickInterval.toJson),
     config.tickInterval = default.tickInterval⟩,
   ⟨"slow_tick", (· = config.slowTick.toJson), config.slowTick = default.slowTick⟩,
   ⟨"name", (· = .ofText config.name), config.name = default.name⟩]

theorem spells_toJson (config : StationConfig) : Json.Spells config.fields config.toJson :=
  ⟨.give rfl (.give rfl (.give rfl .nil)), List.forall_mem_nil _, .refl _⟩

theorem wellFormed_toJson (config : StationConfig) : config.toJson.WellFormed :=
  Json.wellFormed_ofMembers (by simp)

theorem ofJson?_of_spells {config : StationConfig} (htickWhole : config.tickInterval.IsWhole)
    (hslowWhole : config.slowTick.IsWhole) {json : Json} (h : Json.Spells config.fields json) :
    ofJson? json = some config := by
  have hnames : config.fields.map Json.Field.name = ["tick_interval", "slow_tick", "name"] := rfl
  obtain ⟨values, hvalues, hfields⟩ := Json.fields?_of_spells hnames (by decide) h
  obtain _ | ⟨htick, _ | ⟨hslow, _ | ⟨hname, _ | _⟩⟩⟩ := hfields
  have htick := Json.orDefault?_of_eq htick (Duration.ofJson?_toJson htickWhole)
  have hslow := Json.orDefault?_of_eq hslow (Duration.ofJson?_toJson hslowWhole)
  have hname := Json.orDefault?_of_eq hname (Json.text?_ofText config.name)
  simp only [ofJson?, hvalues, htick, hslow, hname, Option.bind_eq_bind, Option.bind_some, pure]

end StationConfig

/-! ## Configurations -/

namespace Config

/-- The sections, each spelled in its turn. A section may be left out if every field of it has
the value that it has when not given. -/
def fields (config : Config) : List Json.Field :=
  [⟨"serial", Json.Spells config.serial.fields, config.serial = {}⟩,
   ⟨"monitor", Json.Spells config.monitor.fields, config.monitor = {}⟩,
   ⟨"socket", Json.SpellsOption SocketConfig.fields config.socket, config.socket = none⟩,
   ⟨"mqtt", Json.Spells config.mqtt.fields, config.mqtt = {}⟩,
   ⟨"station", Json.Spells config.station.fields, config.station = {}⟩]

/-- A value spells a configuration. -/
def Spells (config : Config) (json : Json) : Prop := Json.Spells config.fields json

/-- A configuration is written as one of its spellings. -/
theorem spells_toJson (config : Config) : config.Spells config.toJson := by
  have hsocket : Json.SpellsOption SocketConfig.fields config.socket
      (.ofOption SocketConfig.toJson config.socket) := by
    cases config.socket with
    | none => rfl
    | some socket => exact socket.spells_toJson
  exact ⟨.give config.serial.spells_toJson (.give config.monitor.spells_toJson (.give hsocket
    (.give config.mqtt.spells_toJson (.give config.station.spells_toJson .nil)))),
    List.forall_mem_nil _, .refl _⟩

/-- A configuration has a text. -/
theorem wellFormed_toJson (config : Config) : config.toJson.WellFormed :=
  Json.wellFormed_ofMembers (by
    simp [config.serial.wellFormed_toJson, config.monitor.wellFormed_toJson,
      SocketConfig.wellFormed_toJson, config.mqtt.wellFormed_toJson,
      config.station.wellFormed_toJson])

/-- The durations of a configuration are whole milliseconds. -/
structure WholeMillis (config : Config) : Prop where
  pollInterval : config.monitor.pollInterval.IsWhole
  retryInterval : ∀ socket ∈ config.socket, socket.retryInterval.IsWhole
  tickInterval : config.station.tickInterval.IsWhole
  slowTick : config.station.slowTick.IsWhole

/-- A spelling of a configuration is read as the configuration. -/
theorem ofJson?_of_spells {config : Config} (hwhole : config.WholeMillis) {json : Json}
    (h : config.Spells json) : ofJson? json = some config := by
  have hnames : config.fields.map Json.Field.name =
      ["serial", "monitor", "socket", "mqtt", "station"] := rfl
  obtain ⟨values, hvalues, hfields⟩ := Json.fields?_of_spells hnames (by decide) h
  obtain _ | ⟨hserial, _ | ⟨hmonitor, _ | ⟨hsocket, _ | ⟨hmqtt, _ | ⟨hstation, _ | _⟩⟩⟩⟩⟩ := hfields
  have hserial := Json.orDefault?_eq_some hserial fun _ => SerialConfig.ofJson?_of_spells
  have hmonitor := Json.orDefault?_eq_some hmonitor fun _ =>
    MonitorConfig.ofJson?_of_spells hwhole.pollInterval
  have hsocket := Json.orDefault?_eq_some hsocket fun _ =>
    Json.nullable?_of_spellsOption fun socket hsocket _ =>
      SocketConfig.ofJson?_of_spells (hwhole.retryInterval socket hsocket)
  have hmqtt := Json.orDefault?_eq_some hmqtt fun _ => MqttConfig.ofJson?_of_spells
  have hstation := Json.orDefault?_eq_some hstation fun _ =>
    StationConfig.ofJson?_of_spells hwhole.tickInterval hwhole.slowTick
  simp only [ofJson?, hvalues, hserial, hmonitor, hsocket, hmqtt, hstation, Option.bind_eq_bind,
    Option.bind_some, pure]

/-- No value spells two configurations. -/
theorem eq_of_spells {config other : Config} (hwhole : config.WholeMillis)
    (hwhole' : other.WholeMillis) {json : Json} (h : config.Spells json)
    (hother : other.Spells json) : config = other :=
  Option.some.inj ((ofJson?_of_spells hwhole h).symm.trans (ofJson?_of_spells hwhole' hother))

/-! ## Files -/

/-- A text of a spelling is read as the configuration. -/
theorem parse_of_spells {config : Config} (hwhole : config.WholeMillis) {json : Json}
    (h : config.Spells json) {text : String} (htext : Json.parse? text = some json) :
    parse text.toUTF8 = .ok config := by
  have hcontents : String.fromUTF8? text.toUTF8 = some text := dif_pos text.isValidUTF8
  simp only [parse, hcontents, htext, Option.bind_some, ofJson?_of_spells hwhole h]

/-- Every spelling of a configuration is read as the configuration. Let its durations be whole
milliseconds. What is written is read back.
So is each spelling, that is each value that has in every section the fields in any order and
besides members of any other names and values, and that leaves out any fields with the value they
have when not given, but never the host, the port or the protocol of a socket : from the text
that it is written with, and from every text that is a text of it. A configuration that passes
the checks is loaded from it. -/
theorem every_spelling_reads_back (config : Config) (hwhole : config.WholeMillis) :
    parse config.toJson.render.toUTF8 = .ok config ∧
      ∀ json, config.Spells json →
        (json.WellFormed → parse json.render.toUTF8 = .ok config) ∧
          ∀ text, Json.parse? text = some json →
            parse text.toUTF8 = .ok config ∧
              (config.validate = .ok () → load text.toUTF8 = .ok config) := by
  refine ⟨parse_of_spells hwhole config.spells_toJson
    (Json.parse?_render config.wellFormed_toJson),
    fun json hspells => ⟨fun hjson => parse_of_spells hwhole hspells (Json.parse?_render hjson),
      fun text htext => ?_⟩⟩
  have hparse := parse_of_spells hwhole hspells htext
  exact ⟨hparse, fun hvalid => bind_eq_ok_iff.mpr
    ⟨config, hparse, bind_eq_ok_iff.mpr ⟨(), hvalid, rfl⟩⟩⟩

example : parse "\x7b \"station\" :\r\n\x7b\"name\":\"\\ud83d\\ude00\\/\" \x7d\t\x7d".toUTF8 =
    .ok { station := { name := "😀/" } } := by decide +kernel

/-- A socket is kept to a server, and the name of the station takes an escape. -/
def surveyor : Config where
  serial := { device := "/dev/ttyACM1" }
  socket := some { host := "broker.local", port := 8883, protocol := .tls }
  station := { name := "\u00DCber\n" }

/-- A spelling with every section backwards, unknown members, and the defaults left out. -/
def surveyorSpelling : Json :=
  .obj
    [(some "notes", .arr [.real "-1.5e3", .str none, .obj [(none, .int true 0)]]),
     (some "station", .obj [(some "Name", .null), (some "name", .ofText "\u00DCber\n")]),
     (some "socket", .obj
       [(some "retry", .bool true), (some "protocol", .ofText "tls"), (some "port", .ofNat 8883),
        (some "host", .ofText "broker.local")]),
     (some "serial", .obj [(some "device", .ofText "/dev/ttyACM1")])]

theorem spells_surveyorSpelling : surveyor.Spells surveyorSpelling := by
  have hserial : Json.Spells surveyor.serial.fields
      (.obj [(some "device", .ofText "/dev/ttyACM1")]) :=
    ⟨.give rfl (.leftOut rfl .nil), List.forall_mem_nil _, .refl _⟩
  have hsocket : Json.SpellsOption SocketConfig.fields surveyor.socket (.obj
      [(some "retry", .bool true), (some "protocol", .ofText "tls"), (some "port", .ofNat 8883),
       (some "host", .ofText "broker.local")]) := by
    have hunknown : ∀ member ∈ [(some "retry", Json.bool true)],
        Json.IsUnknown (SocketConfig.fields
          { host := "broker.local", port := 8883, protocol := .tls }) member := by
      rw [List.forall_mem_singleton]
      exact ⟨"retry", rfl, by simp [SocketConfig.fields]⟩
    have hbackwards := Json.Spells.backwards
      (.give rfl (.give rfl (.give rfl (.leftOut rfl .nil)))) hunknown
    exact hbackwards
  have hstation : Json.Spells surveyor.station.fields
      (.obj [(some "Name", .null), (some "name", .ofText "\u00DCber\n")]) := by
    have hunknown : ∀ member ∈ [(some "Name", Json.null)],
        Json.IsUnknown surveyor.station.fields member := by
      rw [List.forall_mem_singleton]
      exact ⟨"Name", rfl, by simp [StationConfig.fields]⟩
    have hbackwards := Json.Spells.backwards (.leftOut rfl (.leftOut rfl (.give rfl .nil))) hunknown
    exact hbackwards
  have hunknown : ∀ member ∈ [(some "notes",
      Json.arr [.real "-1.5e3", .str none, .obj [(none, .int true 0)]])],
        Json.IsUnknown surveyor.fields member := by
    rw [List.forall_mem_singleton]
    exact ⟨"notes", rfl, by simp [fields]⟩
  have hbackwards := Json.Spells.backwards (.give hserial (.leftOut rfl (.give hsocket (.leftOut rfl
    (.give hstation .nil))))) hunknown
  exact hbackwards

theorem wellFormed_surveyorSpelling : surveyorSpelling.WellFormed := by
  have hdigit {c : Char} (h : c.isDigit = true) : Json.IsDigits [c] := by simp [Json.IsDigits, h]
  have hreal : Json.IsReal "-1.5e3" := by
    refine ⟨true, ['1'], ['.', '5'], ['e', '3'], ⟨hdigit rfl, nofun⟩, .inr ⟨['5'], hdigit rfl, rfl⟩,
      .inr ⟨'e', [], ['3'], .inl rfl, .inl rfl, hdigit rfl, rfl⟩, by simp, rfl⟩
  simp [surveyorSpelling, Json.WellFormed.real hreal]

/-- The text of that spelling. -/
def surveyorText : String :=
  "\x7b\"notes\":[-1.5e3,\"\\ud800\",\x7b\"\\ud800\":-0\x7d]," ++
  "\"station\":\x7b\"Name\":null,\"name\":\"\u00DCber\\u000a\"\x7d," ++
  "\"socket\":\x7b\"retry\":true,\"protocol\":\"tls\",\"port\":8883," ++
  "\"host\":\"broker.local\"\x7d,\"serial\":\x7b\"device\":\"/dev/ttyACM1\"\x7d\x7d"

theorem wholeMillis_surveyor : surveyor.WholeMillis where
  pollInterval := ⟨10000, rfl⟩
  retryInterval := by
    rintro socket ⟨⟩
    exact ⟨3000, rfl⟩
  tickInterval := ⟨5, rfl⟩
  slowTick := ⟨5, rfl⟩

theorem every_spelling_reads_back_backwards :
    surveyor.WholeMillis ∧ surveyor.Spells surveyorSpelling ∧ surveyorSpelling.WellFormed ∧
      surveyorSpelling.render = surveyorText ∧ parse surveyorText.toUTF8 = .ok surveyor ∧
      load surveyorText.toUTF8 = .ok surveyor := by
  have hrender : surveyorSpelling.render = surveyorText := by decide +kernel
  have htext : Json.parse? surveyorText = some surveyorSpelling :=
    hrender ▸ Json.parse?_render wellFormed_surveyorSpelling
  have hvalid : surveyor.validate = .ok () := by decide +kernel
  obtain ⟨-, hspelling⟩ := every_spelling_reads_back surveyor wholeMillis_surveyor
  obtain ⟨hread, htexts⟩ := hspelling _ spells_surveyorSpelling
  exact ⟨wholeMillis_surveyor, spells_surveyorSpelling, wellFormed_surveyorSpelling, hrender,
    hrender ▸ hread wellFormed_surveyorSpelling, (htexts _ htext).2 hvalid⟩

end Config

end CellStation
