import CellStation.Json

/-!
# Writing JSON

Values are written without blanks. In strings the quote, the backslash and the control
characters are escaped, and nothing else.
-/

namespace CellStation.Json

/-- A hexadecimal digit. -/
def hexChar (n : Nat) : Char :=
  if n < 10 then Char.ofNat ('0'.toNat + n) else Char.ofNat ('a'.toNat + (n - 10))

/-- A character within a string. -/
def quotedChar (c : Char) : List Char :=
  if c = '"' then ['\\', '"']
  else if c = '\\' then ['\\', '\\']
  else if c.toNat < 0x20 then
    ['\\', 'u', '0', '0', hexChar (c.toNat / 16), hexChar (c.toNat % 16)]
  else [c]

/-- A string. One that stands for no text is written as half a surrogate pair. -/
def quoted : Option String → String
  | some text => String.ofList ('"' :: text.toList.flatMap quotedChar ++ ['"'])
  | none => "\"\\ud800\""

mutual

/-- A value as text. -/
def render : Json → String
  | .null => "null"
  | .bool value => if value then "true" else "false"
  | .int negative magnitude => (if negative then "-" else "") ++ toString magnitude
  | .real spelling => spelling
  | .str text => quoted text
  | .arr items => "[" ++ ",".intercalate (renderItems items) ++ "]"
  | .obj members => "\x7b" ++ ",".intercalate (renderMembers members) ++ "\x7d"

/-- The items of an array as texts. -/
def renderItems : List Json → List String
  | [] => []
  | item :: items => render item :: renderItems items

/-- The members of an object as texts. -/
def renderMembers : List (Option String × Json) → List String
  | [] => []
  | (key, value) :: members => (quoted key ++ ":" ++ render value) :: renderMembers members

end

end CellStation.Json
