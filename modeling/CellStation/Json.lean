/-!
# JSON values

JSON values as far as a configuration needs them told apart. A number written without
fraction and exponent is an integer with a sign, so that `-0` is not `0`; any other number
keeps its spelling. The text of a string is missing when an escape names half a surrogate
pair without the other half : the string is well formed but stands for no text.
-/

namespace CellStation

/-- A JSON value. -/
inductive Json where
  | null
  | bool (value : Bool)
  | int (negative : Bool) (magnitude : Nat)
  | real (spelling : String)
  | str (text : Option String)
  | arr (items : List Json)
  | obj (members : List (Option String × Json))
  deriving Inhabited

namespace Json

/-! ## Writing values -/

/-- A string. -/
def ofText (text : String) : Json := .str (some text)

/-- A natural number. -/
def ofNat (n : Nat) : Json := .int false n

/-- An integer. -/
def ofInt : Int → Json
  | .ofNat n => .int false n
  | .negSucc n => .int true (n + 1)

/-- A value, or null. -/
def ofOption {α : Type} (write : α → Json) : Option α → Json
  | some value => write value
  | none => .null

/-- An object with named members. -/
def ofMembers (members : List (String × Json)) : Json :=
  .obj (members.map fun (name, value) => (some name, value))

/-! ## Reading values -/

/-- The text of a string. -/
def text? : Json → Option String
  | .str text => text
  | _ => none

/-- A natural number below a bound. -/
def natBelow? (bound : Nat) : Json → Option Nat
  | .int false n => if n < bound then some n else none
  | _ => none

/-- A number of 8 bits. -/
def uint8? (json : Json) : Option UInt8 := (json.natBelow? UInt8.size).map UInt8.ofNat

/-- A number of 16 bits. -/
def uint16? (json : Json) : Option UInt16 := (json.natBelow? UInt16.size).map UInt16.ofNat

/-- A number of 64 bits. -/
def uint64? (json : Json) : Option UInt64 := (json.natBelow? UInt64.size).map UInt64.ofNat

/-- A value or null. -/
def nullable? {α : Type} (read : Json → Option α) : Json → Option (Option α)
  | .null => some none
  | json => (read json).map some

/-- A field that may be missing. -/
def orDefault? {α : Type} (read : Json → Option α) (default : α) : Option Json → Option α
  | some json => read json
  | none => some default

/-- A field that must be there. -/
def required? {α : Type} (read : Json → Option α) : Option Json → Option α
  | some json => read json
  | none => none

/-- The value of a member. -/
def member? (json : Json) (name : String) : Option Json :=
  match json with
  | .obj members => (members.find? (·.1 == some name)).map (·.2)
  | _ => none

/-- The values of the named fields of a record, each where it is given. A record is an
object, in which the fields may stand in any order and other names mean nothing, but no
field may stand twice; or it is an array of the first fields in order. -/
def fields? (names : List String) : Json → Option (List (Option Json))
  | .obj members =>
    if members.any (·.1.isNone) || names.any (fun name => 1 < members.countP (·.1 == some name))
    then none
    else some (names.map (Json.obj members).member?)
  | .arr items =>
    if items.length ≤ names.length then
      some (items.map some ++ List.replicate (names.length - items.length) none)
    else none
  | _ => none

end Json

end CellStation
