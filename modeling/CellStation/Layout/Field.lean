import CellStation.BigEndian
import CellStation.Code
import CellStation.Ipv4

/-!
# Header fields

A payload header is a list of fields of fixed width. Each `FieldKind` says what a field
holds, how wide it is, and how its value is read and written. A list of fields then has
one reader and one writer for the whole header, and the reader undoes the writer whatever
bytes follow (`Header.read_write_append`). A writer may also put down fields of a header by
their names, in an order of its own (`Header.put`).
-/

namespace CellStation

/-- What a header field holds. -/
inductive FieldKind where
  /-- One unsigned byte. -/
  | byte
  /-- An unsigned number of two bytes. -/
  | word
  /-- An unsigned number of four bytes. -/
  | long
  /-- A signed number of four bytes. -/
  | signed
  /-- An internet address. -/
  | address
  /-- A run of bytes. -/
  | octets (count : Nat)
  /-- A code byte. -/
  | code (set : CodeSet)
  /-- A byte without meaning, zero when written. -/
  | reserved
  deriving DecidableEq, Repr

namespace FieldKind

/-- The values of a field. -/
@[reducible] def Value : FieldKind → Type
  | byte => UInt8
  | word => UInt16
  | long => UInt32
  | signed => Int32
  | address => Ipv4
  | octets count => Vector UInt8 count
  | code set => Code set
  | reserved => Unit

/-- Bytes a field takes. -/
def width : FieldKind → Nat
  | byte => 1
  | word => 2
  | long => 4
  | signed => 4
  | address => 4
  | octets count => count
  | code _ => 1
  | reserved => 1

/-- The value at the front of `bytes`; bytes that are missing count as zero. -/
def read : (kind : FieldKind) → List UInt8 → kind.Value
  | byte, bytes => bytes.getD 0 0
  | word, bytes => UInt16.ofNat (BigEndian.read (bytes.take 2))
  | long, bytes => UInt32.ofNat (BigEndian.read (bytes.take 4))
  | signed, bytes => (UInt32.ofNat (BigEndian.read (bytes.take 4))).toInt32
  | address, bytes => ⟨bytes.getD 0 0, bytes.getD 1 0, bytes.getD 2 0, bytes.getD 3 0⟩
  | octets _, bytes => Vector.ofFn fun i => bytes.getD i 0
  | code _, bytes => ⟨bytes.getD 0 0⟩
  | reserved, _ => ()

/-- The bytes of a value. -/
def write : (kind : FieldKind) → kind.Value → List UInt8
  | byte, value => [value]
  | word, value => BigEndian.write 2 value.toNat
  | long, value => BigEndian.write 4 value.toNat
  | signed, value => BigEndian.write 4 value.toUInt32.toNat
  | address, value => value.toBytes
  | octets _, value => value.toList
  | code _, value => [value.raw]
  | reserved, _ => [0]

@[simp] theorem length_write (kind : FieldKind) (value : kind.Value) :
    (kind.write value).length = kind.width := by
  cases kind <;> simp [write, width, Ipv4.toBytes]

/-- A value is read back from its bytes, whatever follows them. -/
theorem read_write_append (kind : FieldKind) (value : kind.Value) (rest : List UInt8) :
    kind.read (kind.write value ++ rest) = value := by
  cases kind with
  | byte => rfl
  | word =>
    have h : (BigEndian.write 2 value.toNat ++ rest).take 2 = BigEndian.write 2 value.toNat := by
      rw [List.take_append_of_le_length (by simp), List.take_of_length_le (by simp)]
    simp only [read, write, h, BigEndian.read_write]
    apply UInt16.toNat_inj.mp
    have := value.toNat_lt
    simp
  | long =>
    have h : (BigEndian.write 4 value.toNat ++ rest).take 4 = BigEndian.write 4 value.toNat := by
      rw [List.take_append_of_le_length (by simp), List.take_of_length_le (by simp)]
    simp only [read, write, h, BigEndian.read_write]
    apply UInt32.toNat_inj.mp
    have := value.toNat_lt
    simp
  | signed =>
    have h : (BigEndian.write 4 value.toUInt32.toNat ++ rest).take 4 =
        BigEndian.write 4 value.toUInt32.toNat := by
      rw [List.take_append_of_le_length (by simp), List.take_of_length_le (by simp)]
    simp only [read, write, h, BigEndian.read_write]
    have back : UInt32.ofNat (value.toUInt32.toNat % Nat.pow 256 4) = value.toUInt32 := by
      apply UInt32.toNat_inj.mp
      have := value.toUInt32.toNat_lt
      simp
    rw [back]
    simp
  | address => rfl
  | octets count =>
    apply Vector.ext
    intro i hi
    simp [read, write, List.getElem?_append_left]
  | code set => rfl
  | reserved => rfl

/-- The bytes of a field are written back as they were, unless they have no meaning. -/
theorem write_read (kind : FieldKind) (bytes : List UInt8) (hkind : kind ≠ .reserved)
    (h : kind.width ≤ bytes.length) : kind.write (kind.read bytes) = bytes.take kind.width := by
  have hnum : ∀ width, width ≤ bytes.length →
      BigEndian.write width (BigEndian.read (bytes.take width)) = bytes.take width := by
    intro width hw
    have := BigEndian.write_read (bytes.take width)
    rwa [List.length_take_of_le hw] at this
  have hlt : ∀ width, width ≤ bytes.length →
      BigEndian.read (bytes.take width) < Nat.pow 256 width := by
    intro width hw
    have := BigEndian.read_lt (bytes.take width)
    rwa [List.length_take_of_le hw] at this
  cases kind with
  | byte =>
    obtain ⟨b, rest, rfl⟩ := List.exists_cons_of_length_pos (show 0 < bytes.length from h)
    rfl
  | word =>
    have := hlt 2 h
    have hnat : (UInt16.ofNat (BigEndian.read (bytes.take 2))).toNat =
        BigEndian.read (bytes.take 2) := by
      simp
      omega
    simp only [write, read, hnat, width]
    exact hnum 2 h
  | long =>
    have := hlt 4 h
    have hnat : (UInt32.ofNat (BigEndian.read (bytes.take 4))).toNat =
        BigEndian.read (bytes.take 4) := by
      simp
      omega
    simp only [write, read, hnat, width]
    exact hnum 4 h
  | signed =>
    have := hlt 4 h
    have hnat : (UInt32.ofNat (BigEndian.read (bytes.take 4))).toInt32.toUInt32.toNat =
        BigEndian.read (bytes.take 4) := by
      simp
      omega
    simp only [write, read, hnat, width]
    exact hnum 4 h
  | address =>
    match bytes, h with
    | a :: b :: c :: d :: rest, _ => rfl
  | octets count =>
    apply List.ext_getElem
    · simp only [width] at h
      simp [write, width]
      omega
    · intro i h1 h2
      simp [write, read] at h1 ⊢
      have : i < bytes.length := by
        simp only [width] at h
        omega
      simp [this]
  | code set =>
    obtain ⟨b, rest, rfl⟩ := List.exists_cons_of_length_pos (show 0 < bytes.length from h)
    rfl
  | reserved => exact absurd rfl hkind

end FieldKind

/-- The names of fields. -/
inductive FieldName where
  | frameId
  | id
  | command
  | status
  | phoneNumber
  | sourceIp
  | destIp
  | remoteIp
  | sourcePort
  | destPort
  | remotePort
  | protocol
  | options
  | tlsProfile
  | interface
  | component
  | flags
  | oneshotTimeout
  | lockTime
  | latitude
  | longitude
  | altitude
  | satellites
  | socket
  | listenSocket
  | clientSocket
  | option
  | addressType
  /-- A byte that no field of the program holds. -/
  | unused
  deriving DecidableEq, Repr

/-- A field of a header. -/
structure Field where
  name : FieldName
  kind : FieldKind
  deriving DecidableEq, Repr

/-- The values of a list of fields, in order. -/
@[reducible] def Header : List Field → Type
  | [] => Unit
  | field :: fields => field.kind.Value × Header fields

namespace Header

/-- Bytes the fields take together. -/
def width : List Field → Nat
  | [] => 0
  | field :: fields => field.kind.width + width fields

/-- The values at the front of `bytes`. -/
def read : (fields : List Field) → List UInt8 → Header fields
  | [], _ => ()
  | field :: fields, bytes => (field.kind.read bytes, read fields (bytes.drop field.kind.width))

/-- The bytes of the values. -/
def write : (fields : List Field) → Header fields → List UInt8
  | [], _ => []
  | field :: fields, (value, values) => field.kind.write value ++ write fields values

@[simp] theorem length_write (fields : List Field) (values : Header fields) :
    (write fields values).length = width fields := by
  induction fields with
  | nil => rfl
  | cons field fields ih => simp [write, width, ih]

theorem read_write_append (fields : List Field) (values : Header fields) (rest : List UInt8) :
    read fields (write fields values ++ rest) = values := by
  induction fields with
  | nil => rfl
  | cons field fields ih =>
    obtain ⟨value, values⟩ := values
    simp only [read, write, List.append_assoc, FieldKind.read_write_append]
    rw [List.drop_left' (FieldKind.length_write _ _), ih]

/-- The value of a field, if the header has the field. -/
def get? (wanted : Field) : (fields : List Field) → Header fields → Option wanted.kind.Value
  | [], _ => none
  | field :: fields, (value, values) =>
    if h : field = wanted then some (h ▸ value) else get? wanted fields values

/-- The bytes of the `written` fields of a header, in their order. -/
def put (written fields : List Field) (values : Header fields) : List UInt8 :=
  written.flatMap fun field => ((get? field fields values).map field.kind.write).getD []

/-- A field that is not put down does not matter. -/
theorem put_cons_of_notMem {written fields : List Field} {field : Field}
    (h : field ∉ written) (value : field.kind.Value) (values : Header fields) :
    put written (field :: fields) (value, values) = put written fields values := by
  induction written with
  | nil => rfl
  | cons first written ih =>
    obtain ⟨hne, hmem⟩ := not_or.mp (mt List.mem_cons.mpr h)
    have hget : get? first (field :: fields) (value, values) = get? first fields values :=
      dif_neg hne
    simp only [put, List.flatMap_cons, hget] at ih ⊢
    rw [ih hmem]

/-- A header whose fields are put down in the order in which it has them. -/
theorem put_self {fields : List Field} (hnodup : fields.Nodup) (values : Header fields) :
    put fields fields values = write fields values := by
  induction fields with
  | nil => rfl
  | cons field fields ih =>
    obtain ⟨value, values⟩ := values
    obtain ⟨hnew, hnodup⟩ := List.nodup_cons.mp hnodup
    have hfirst : get? field (field :: fields) (value, values) = some value := dif_pos rfl
    have hlater := put_cons_of_notMem hnew value values
    rw [put, List.flatMap_cons, hfirst, ← put, hlater, ih hnodup]
    rfl

end Header

end CellStation
