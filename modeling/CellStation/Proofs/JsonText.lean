import CellStation.Json.Printer
import CellStation.Json.Reader
import Mathlib.Data.List.TakeDrop

/-!
# The text of a value

What is written is read back. A string is read back from its escapes (`token?_quoted`) and a
number from its digits (`number?_append`), as long as nothing follows that would continue the
number. So the text of a value is read as the tokens of the value (`tokens?_render`), and its
tokens as the value (`value?_tokens`); together they give `parse?_render`.
-/

namespace CellStation.Json

/-! ## Strings -/

/-- The unit that a written character is read as. -/
def unitOf (c : Char) : Char ⊕ Nat := if c.toNat < 0x20 then .inr c.toNat else .inl c

theorem hexWord?_hexChar {n : Nat} (h : n < 0x20) :
    hexWord? '0' '0' (hexChar (n / 16)) (hexChar (n % 16)) = some n := by
  revert n
  decide

theorem stringUnits?_quotedChar (c : Char) (rest : List Char) :
    stringUnits? (quotedChar c ++ rest) =
      (stringUnits? rest).map fun (units, rest) => (unitOf c :: units, rest) := by
  rw [Option.map_eq_bind, Function.comp_def]
  unfold quotedChar
  split
  · subst_vars
    simp [stringUnits?, escaped?, unitOf]
  split
  · subst_vars
    simp [stringUnits?, escaped?, unitOf]
  split
  · rename_i hcontrol
    simp [stringUnits?, hexWord?_hexChar hcontrol, unitOf, hcontrol]
  · rename_i hbackslash hcontrol
    simp [stringUnits?, unitOf, hbackslash, hcontrol]

theorem stringUnits?_quoted (chars rest : List Char) :
    stringUnits? (chars.flatMap quotedChar ++ '"' :: rest) = some (chars.map unitOf, rest) := by
  induction chars with
  | nil => rfl
  | cons c chars ih =>
    rw [List.flatMap_cons, List.append_assoc, stringUnits?_quotedChar, ih]
    rfl

/-- A unit that is no half of a surrogate pair is a character. -/
theorem joinUnits?_inr {unit : Nat} (h : unit < 0xD800) (units : List (Char ⊕ Nat)) :
    joinUnits? (.inr unit :: units) = (joinUnits? units).map (Char.ofNat unit :: ·) := by
  have hhigh : isHigh unit = false := by simp [isHigh]; omega
  have hlow : isLow unit = false := by simp [isLow]; omega
  match units with
  | [] | .inl _ :: _ | .inr _ :: _ => simp [joinUnits?, hhigh, hlow]

theorem joinUnits?_unitOf (chars : List Char) : joinUnits? (chars.map unitOf) = some chars := by
  induction chars with
  | nil => rfl
  | cons c chars ih =>
    rw [List.map_cons, unitOf]
    split
    · rw [joinUnits?_inr (by omega), ih, Char.ofNat_toNat]
      rfl
    · rw [joinUnits?, ih]
      rfl

/-- A string is read back, also one that stands for no text. -/
theorem token?_quoted (text : Option String) (rest : List Char) :
    token? ((quoted text).toList ++ rest) = some (.str text, rest) := by
  cases text with
  | none => rfl
  | some text =>
    simp only [quoted, String.toList_ofList, List.cons_append, List.append_assoc, List.nil_append,
      token?, stringUnits?_quoted, Option.map_some, joinUnits?_unitOf, String.ofList_toList]

/-! ## Numbers -/

/-- What may stand behind a number without being read as more of it. -/
def Delimited (rest : List Char) : Prop :=
  ∀ c ∈ rest.head?, c.isDigit = false ∧ c ≠ '.' ∧ c ≠ 'e' ∧ c ≠ 'E'

/-- At least one decimal digit. -/
def IsDigits (digits : List Char) : Prop := digits ≠ [] ∧ ∀ c ∈ digits, c.isDigit = true

/-- Digits without a leading zero. -/
def IsWhole (whole : List Char) : Prop :=
  IsDigits whole ∧ (whole.head? = some '0' → whole = ['0'])

/-- Nothing, or a point and digits. -/
def IsFraction (fraction : List Char) : Prop :=
  fraction = [] ∨ ∃ digits, IsDigits digits ∧ fraction = '.' :: digits

/-- Nothing, or the letter e, a sign where one is given, and digits. -/
def IsExponent (exponent : List Char) : Prop :=
  exponent = [] ∨ ∃ e sign digits, (e = 'e' ∨ e = 'E') ∧ (sign = [] ∨ sign = ['+'] ∨ sign = ['-']) ∧
    IsDigits digits ∧ exponent = e :: (sign ++ digits)

/-- The spelling of a number with a fraction or an exponent. -/
def IsReal (spelling : String) : Prop :=
  ∃ (negative : Bool) (whole fraction exponent : List Char),
    IsWhole whole ∧ IsFraction fraction ∧ IsExponent exponent ∧
    ¬ (fraction = [] ∧ exponent = []) ∧
    spelling = String.ofList ((if negative then ['-'] else []) ++ whole ++ fraction ++ exponent)

theorem digits?_append {digits rest : List Char} (h : IsDigits digits)
    (hrest : ∀ c ∈ rest.head?, c.isDigit = false) :
    digits? (digits ++ rest) = some (digits, rest) := by
  obtain ⟨hnonempty, hdigits⟩ := h
  have hspan : (digits ++ rest).span Char.isDigit = (digits, rest) := by
    rw [List.span_eq_takeWhile_dropWhile, List.takeWhile_append_of_pos hdigits,
      List.dropWhile_append_of_pos hdigits]
    cases rest with
    | nil => simp
    | cons c rest => simp [hrest c rfl]
  rw [digits?, hspan]
  cases digits with
  | nil => exact absurd rfl hnonempty
  | cons c digits => rfl

theorem whole?_append {whole rest : List Char} (h : IsWhole whole)
    (hrest : ∀ c ∈ rest.head?, c.isDigit = false) :
    whole? (whole ++ rest) = some (whole, rest) := by
  obtain ⟨hdigits, hzero⟩ := h
  cases whole with
  | nil => exact absurd rfl hdigits.1
  | cons c whole =>
    by_cases hc : c = '0'
    · obtain rfl := hc
      rw [List.cons_eq_cons.mp (hzero rfl) |>.2]
      rfl
    · have hfall : whole? (c :: whole ++ rest) = digits? (c :: whole ++ rest) := by
        simp [whole?, hc]
      rw [hfall, digits?_append hdigits hrest]

theorem fraction?_append {fraction rest : List Char} (h : IsFraction fraction)
    (hrest : ∀ c ∈ rest.head?, c.isDigit = false ∧ c ≠ '.') :
    fraction? (fraction ++ rest) = some (fraction, rest) := by
  rcases h with rfl | ⟨digits, hdigits, rfl⟩
  · cases rest with
    | nil => rfl
    | cons c rest => simp [fraction?, (hrest c rfl).2]
  · rw [List.cons_append, fraction?, digits?_append hdigits fun c hc => (hrest c hc).1]
    rfl

theorem exponent?_append {exponent rest : List Char} (h : IsExponent exponent)
    (hrest : Delimited rest) : exponent? (exponent ++ rest) = some (exponent, rest) := by
  rcases h with rfl | ⟨e, sign, digits, he, hsign, hdigits, rfl⟩
  · cases rest with
    | nil => rfl
    | cons c rest =>
      obtain ⟨-, -, hlower, hupper⟩ := hrest c rfl
      simp [exponent?, hlower, hupper]
  · have hread : digits? (digits ++ rest) = some (digits, rest) :=
      digits?_append hdigits fun c hc => (hrest c hc).1
    rcases hsign with rfl | rfl | rfl
    · obtain ⟨c, more, rfl⟩ := List.exists_cons_of_ne_nil hdigits.1
      have hdigit : c.isDigit = true := hdigits.2 c List.mem_cons_self
      have hplus : c ≠ '+' := by rintro rfl; cases hdigit
      have hminus : c ≠ '-' := by rintro rfl; cases hdigit
      simp only [List.nil_append, List.cons_append] at hread ⊢
      simp [exponent?, he, hplus, hminus, hread]
    · simp [exponent?, he, hread]
    · simp [exponent?, he, hread]

/-- What a number is read as. -/
def numberOf (negative : Bool) (whole fraction exponent : List Char) : Json :=
  if fraction = [] ∧ exponent = [] then .int negative (decimal whole)
  else .real (String.ofList ((if negative then ['-'] else []) ++ whole ++ fraction ++ exponent))

/-- A number is read back from its parts. -/
theorem number?_append (negative : Bool) {whole fraction exponent rest : List Char}
    (hwhole : IsWhole whole) (hfraction : IsFraction fraction) (hexponent : IsExponent exponent)
    (hrest : Delimited rest) :
    number? negative (whole ++ (fraction ++ (exponent ++ rest))) =
      some (numberOf negative whole fraction exponent, rest) := by
  have hexponentHead : ∀ c ∈ (exponent ++ rest).head?, c.isDigit = false ∧ c ≠ '.' := by
    rcases hexponent with rfl | ⟨e, sign, digits, he, -, -, rfl⟩
    · exact fun c hc => ⟨(hrest c hc).1, (hrest c hc).2.1⟩
    · rintro c ⟨⟩
      rcases he with rfl | rfl <;> decide
  have hfractionHead : ∀ c ∈ (fraction ++ (exponent ++ rest)).head?, c.isDigit = false := by
    rcases hfraction with rfl | ⟨digits, -, rfl⟩
    · exact fun c hc => (hexponentHead c hc).1
    · rintro c ⟨⟩
      rfl
  rw [number?, whole?_append hwhole hfractionHead]
  simp only [Option.bind_eq_bind, Option.bind_some, fraction?_append hfraction hexponentHead,
    exponent?_append hexponent hrest]
  by_cases hinteger : fraction = [] ∧ exponent = []
  · obtain ⟨rfl, rfl⟩ := hinteger
    rfl
  · simp [numberOf, hinteger]

theorem token?_digits {c : Char} (h : c.isDigit = true) (chars : List Char) :
    token? (c :: chars) =
      (number? false (c :: chars)).map fun (value, rest) => (.scalar value, rest) := by
  rw [token?]
  -- the other tokens do not begin with a digit
  all_goals
    intro rest hchars
    obtain rfl := (List.cons.inj hchars).1
    exact absurd h (by decide)

theorem decimal_toDigits (n : Nat) : decimal (Nat.toDigits 10 n) = n := by
  have hfold := Nat.ofDigitChars_ten_toDigits (n := n)
  rw [Nat.ofDigitChars_eq_foldl] at hfold
  simpa only [decimal, Nat.mul_comm] using hfold

/-- A number is written without leading zeros. -/
theorem isWhole_toDigits (n : Nat) : IsWhole (Nat.toDigits 10 n) := by
  refine ⟨⟨Nat.toDigits_ne_nil, fun c hc =>
    Nat.isDigit_of_mem_toDigits (by decide) (by decide) hc⟩, ?_⟩
  induction n using Nat.strongRecOn with
  | ind n ih =>
    by_cases hsmall : n < 10
    · rw [Nat.toDigits_of_lt_base hsmall]
      exact fun hzero => congrArg (fun c => [c]) (Option.some.inj hzero)
    · obtain ⟨c, digits, hdigits⟩ := List.exists_cons_of_ne_nil (Nat.toDigits_ne_nil (b := 10))
      rw [Nat.toDigits_of_base_le (by decide) (Nat.le_of_not_lt hsmall), hdigits]
      intro hzero
      -- the digits of `n / 10` would be a zero
      have hquotient := decimal_toDigits (n / 10)
      rw [ih (n / 10) (by omega) (hdigits ▸ hzero)] at hquotient
      have hnone : n / 10 = 0 := hquotient.symm
      omega

/-- A number without its sign begins with a digit, and is read back. -/
theorem token?_number (negative : Bool) {whole fraction exponent rest : List Char}
    (hwhole : IsWhole whole) (hfraction : IsFraction fraction) (hexponent : IsExponent exponent)
    (hrest : Delimited rest) :
    token? ((if negative then ['-'] else []) ++ whole ++ fraction ++ exponent ++ rest) =
      some (.scalar (numberOf negative whole fraction exponent), rest) := by
  have hread := number?_append negative hwhole hfraction hexponent hrest
  cases negative with
  | true => simp [token?, hread]
  | false =>
    obtain ⟨c, digits, rfl⟩ := List.exists_cons_of_ne_nil hwhole.1.1
    have hdigit : c.isDigit = true := hwhole.1.2 c List.mem_cons_self
    rw [List.cons_append] at hread
    simp [token?_digits hdigit, hread]

/-! ## Tokens -/

mutual

/-- The tokens of a value. -/
def tokens : Json → List Token
  | .arr items => .openArray :: itemTokens items
  | .obj members => .openObject :: memberTokens members
  | .str text => [.str text]
  | scalar => [.scalar scalar]

/-- The tokens of the items of an array, up to its end. -/
def itemTokens : List Json → List Token
  | [] => [.closeArray]
  | [item] => tokens item ++ [.closeArray]
  | item :: items => tokens item ++ .comma :: itemTokens items

/-- The tokens of the members of an object, up to its end. -/
def memberTokens : List (Option String × Json) → List Token
  | [] => [.closeObject]
  | [(key, value)] => .str key :: .colon :: (tokens value ++ [.closeObject])
  | (key, value) :: members =>
    .str key :: .colon :: (tokens value ++ .comma :: memberTokens members)

end

/-- A value that has a text : every number with a fraction or an exponent is spelled as one. -/
inductive WellFormed : Json → Prop where
  | null : WellFormed .null
  | bool (value : Bool) : WellFormed (.bool value)
  | int (negative : Bool) (magnitude : Nat) : WellFormed (.int negative magnitude)
  | real {spelling : String} (h : IsReal spelling) : WellFormed (.real spelling)
  | str (text : Option String) : WellFormed (.str text)
  | arr {items : List Json} (h : ∀ item ∈ items, WellFormed item) : WellFormed (.arr items)
  | obj {members : List (Option String × Json)} (h : ∀ member ∈ members, WellFormed member.2) :
    WellFormed (.obj members)

attribute [simp] WellFormed.null WellFormed.bool WellFormed.int WellFormed.str

@[simp] theorem wellFormed_arr_iff {items : List Json} :
    (arr items).WellFormed ↔ ∀ item ∈ items, item.WellFormed :=
  ⟨fun h => by cases h; assumption, .arr⟩

@[simp] theorem wellFormed_obj_iff {members : List (Option String × Json)} :
    (obj members).WellFormed ↔ ∀ member ∈ members, member.2.WellFormed :=
  ⟨fun h => by cases h; assumption, .obj⟩

@[simp] theorem wellFormed_ofText (text : String) : (ofText text).WellFormed := .str _

@[simp] theorem wellFormed_ofNat (n : Nat) : (ofNat n).WellFormed := .int _ _

@[simp] theorem wellFormed_ofOption {α : Type} {write : α → Json} (value : Option α)
    (h : ∀ value, (write value).WellFormed) : (ofOption write value).WellFormed := by
  cases value with
  | none => exact .null
  | some value => exact h value

theorem wellFormed_ofMembers {members : List (String × Json)}
    (h : ∀ member ∈ members, member.2.WellFormed) : (ofMembers members).WellFormed := by
  refine .obj fun member hmem => ?_
  obtain ⟨named, hnamed, rfl⟩ := List.mem_map.mp hmem
  exact h named hnamed

/-- A text is read as tokens, whatever stands behind it and is no more of a number. -/
structure Lexes (chars : List Char) (tokens : List Token) : Prop where
  length_le : tokens.length ≤ chars.length
  read : ∀ fuel rest, Delimited rest →
    tokens? (fuel + tokens.length) (chars ++ rest) = (tokens? fuel rest).map (tokens ++ ·)

theorem tokens?_cons {c : Char} {chars rest : List Char} {token : Token}
    (hblank : isBlank c = false) (htoken : token? (c :: chars) = some (token, rest)) (fuel : Nat) :
    tokens? (fuel + 1) (c :: chars) = (tokens? fuel rest).map (token :: ·) := by
  have hfront : (c :: chars).dropWhile isBlank = c :: chars := by simp [hblank]
  rw [tokens?, hfront]
  simp only [htoken, Option.bind_eq_bind, Option.bind_some, Option.map_eq_bind]
  rfl

namespace Lexes

variable {chars more : List Char} {read others : List Token}

/-- A text that is one token, as long as it does not go on. -/
theorem single {c : Char} {token : Token} (hblank : isBlank c = false)
    (h : ∀ rest, Delimited rest → token? (c :: chars ++ rest) = some (token, rest)) :
    Lexes (c :: chars) [token] where
  length_le := by simp
  read fuel rest hrest := tokens?_cons hblank (h rest hrest) fuel

/-- One character that is a token, whatever follows it. -/
theorem cons {c : Char} {token : Token} (hblank : isBlank c = false)
    (htoken : ∀ rest, token? (c :: rest) = some (token, rest)) (h : Lexes more others) :
    Lexes (c :: more) (token :: others) where
  length_le := Nat.succ_le_succ h.length_le
  read fuel rest hrest := by
    rw [List.length_cons, ← Nat.add_assoc, List.cons_append, tokens?_cons hblank (htoken _),
      h.read fuel rest hrest, Option.map_map]
    rfl

theorem append (h : Lexes chars read) (hmore : Lexes more others)
    (hdelimited : ∀ rest, Delimited (more ++ rest)) : Lexes (chars ++ more) (read ++ others) where
  length_le := by
    simpa only [List.length_append] using Nat.add_le_add h.length_le hmore.length_le
  read fuel rest hrest := by
    rw [List.length_append, Nat.add_comm read.length, ← Nat.add_assoc, List.append_assoc,
      h.read _ _ (hdelimited rest), hmore.read fuel rest hrest, Option.map_map]
    simp [Function.comp_def]

end Lexes

/-- Punctuation ends a number. -/
theorem delimited_cons {c : Char} (h : c.isDigit = false ∧ c ≠ '.' ∧ c ≠ 'e' ∧ c ≠ 'E')
    (rest : List Char) : Delimited (c :: rest) := by
  rintro _ ⟨⟩
  exact h

/-- The text of a string is one token. -/
theorem lexes_quoted (text : Option String) : Lexes (quoted text).toList [.str text] := by
  have hread := token?_quoted text
  obtain ⟨chars, hchars⟩ : ∃ chars, (quoted text).toList = '"' :: chars := by
    cases text with
    | none => exact ⟨_, rfl⟩
    | some text => exact ⟨_, String.toList_ofList⟩
  rw [hchars] at hread ⊢
  exact Lexes.single rfl fun rest _ => hread rest

/-- The text of a number is one token. -/
theorem lexes_number (negative : Bool) {whole fraction exponent : List Char}
    (hwhole : IsWhole whole) (hfraction : IsFraction fraction) (hexponent : IsExponent exponent) :
    Lexes ((if negative then ['-'] else []) ++ whole ++ fraction ++ exponent)
      [.scalar (numberOf negative whole fraction exponent)] := by
  have hread (rest : List Char) (hrest : Delimited rest) :=
    token?_number negative hwhole hfraction hexponent hrest
  obtain ⟨c, chars, hchars, hblank⟩ : ∃ c chars, (if negative then ['-'] else []) ++ whole ++
      fraction ++ exponent = c :: chars ∧ isBlank c = false := by
    cases negative with
    | true => exact ⟨'-', _, rfl, rfl⟩
    | false =>
      obtain ⟨c, digits, rfl⟩ := List.exists_cons_of_ne_nil hwhole.1.1
      have hdigit : c.isDigit = true := hwhole.1.2 c List.mem_cons_self
      refine ⟨c, _, rfl, ?_⟩
      cases hc : isBlank c with
      | false => rfl
      | true =>
        simp only [isBlank, Bool.or_eq_true, decide_eq_true_eq] at hc
        rcases hc with ((rfl | rfl) | rfl) | rfl <;> exact absurd hdigit (by decide)
  rw [hchars] at hread ⊢
  exact Lexes.single hblank hread

theorem lexes_int (negative : Bool) (magnitude : Nat) :
    Lexes (render (.int negative magnitude)).toList [.scalar (.int negative magnitude)] := by
  have hfraction : IsFraction [] := .inl rfl
  have hexponent : IsExponent [] := .inl rfl
  have hlexes := lexes_number negative (isWhole_toDigits magnitude) hfraction hexponent
  have hnumber : numberOf negative (Nat.toDigits 10 magnitude) [] [] = .int negative magnitude :=
    congrArg (Json.int negative) (decimal_toDigits magnitude)
  rw [hnumber, List.append_nil, List.append_nil] at hlexes
  rw [render, Nat.toString_eq_ofList_toDigits, String.toList_append, String.toList_ofList]
  cases negative <;> exact hlexes

/-- The text of the items of an array is read as their tokens, if that of each item is. -/
theorem lexes_items {items : List Json}
    (h : ∀ item ∈ items, Lexes item.render.toList item.tokens) :
    Lexes ((",".intercalate (renderItems items)).toList ++ [']']) (itemTokens items) := by
  induction items with
  | nil => exact Lexes.single rfl fun rest _ => rfl
  | cons item items ih =>
    have hitem := h item List.mem_cons_self
    have hclose : Lexes [']'] [.closeArray] := Lexes.single rfl fun rest _ => rfl
    cases items with
    | nil =>
      rw [renderItems, renderItems, String.intercalate_singleton, itemTokens]
      exact hitem.append hclose fun rest => delimited_cons (by decide) rest
    | cons next items =>
      have hitems := ih fun item hmem => h item (List.mem_cons_of_mem _ hmem)
      have htokens : itemTokens (item :: next :: items) =
          item.tokens ++ .comma :: itemTokens (next :: items) := rfl
      rw [renderItems, renderItems, String.intercalate_cons_cons, ← renderItems, htokens,
        String.toList_append, String.toList_append, List.append_assoc, List.append_assoc]
      exact hitem.append (hitems.cons rfl fun rest => rfl) fun rest =>
        delimited_cons (by decide) _

/-- The text of the members of an object is read as their tokens, if that of each value is. -/
theorem lexes_members {members : List (Option String × Json)}
    (h : ∀ member ∈ members, Lexes member.2.render.toList member.2.tokens) :
    Lexes ((",".intercalate (renderMembers members)).toList ++ ['\x7d'])
      (memberTokens members) := by
  induction members with
  | nil => exact Lexes.single rfl fun rest _ => rfl
  | cons member members ih =>
    obtain ⟨key, value⟩ := member
    have hvalue := h (key, value) List.mem_cons_self
    have hclose : Lexes ['\x7d'] [.closeObject] := Lexes.single rfl fun rest _ => rfl
    -- what stands behind the key is delimited by its colon
    have hmember {more : List Char} {others : List Token} (hmore : Lexes more others)
        (hdelimited : ∀ rest, Delimited (more ++ rest)) :
        Lexes ((quoted key ++ ":" ++ value.render).toList ++ more)
          (.str key :: .colon :: (value.tokens ++ others)) := by
      rw [String.toList_append, String.toList_append, List.append_assoc, List.append_assoc]
      have htail := (hvalue.append hmore hdelimited).cons (c := ':') rfl fun rest => rfl
      exact (lexes_quoted key).append htail fun rest => delimited_cons (by decide) _
    cases members with
    | nil =>
      rw [renderMembers, renderMembers, String.intercalate_singleton, memberTokens]
      exact hmember hclose fun rest => delimited_cons (by decide) rest
    | cons next members =>
      have hmembers := ih fun member hmem => h member (List.mem_cons_of_mem _ hmem)
      have htokens : memberTokens ((key, value) :: next :: members) =
          .str key :: .colon :: (value.tokens ++ .comma :: memberTokens (next :: members)) := rfl
      rw [renderMembers, renderMembers, String.intercalate_cons_cons, ← renderMembers, htokens,
        String.toList_append, String.toList_append, List.append_assoc, List.append_assoc]
      exact hmember (hmembers.cons rfl fun rest => rfl) fun rest => delimited_cons (by decide) _

/-- The text of a value is read as the tokens of the value. -/
theorem lexes_render {json : Json} (h : json.WellFormed) :
    Lexes json.render.toList json.tokens := by
  induction h with
  | null => exact Lexes.single rfl fun rest _ => rfl
  | bool value => cases value <;> exact Lexes.single rfl fun rest _ => rfl
  | int negative magnitude => exact lexes_int negative magnitude
  | real h =>
    obtain ⟨negative, whole, fraction, exponent, hwhole, hfraction, hexponent, hreal, rfl⟩ := h
    have hlexes := lexes_number negative hwhole hfraction hexponent
    rw [numberOf, if_neg hreal] at hlexes
    rw [render, String.toList_ofList]
    exact hlexes
  | str text => exact lexes_quoted text
  | arr h ih =>
    rw [render, String.toList_append, String.toList_append, List.append_assoc]
    exact (lexes_items ih).cons rfl fun rest => rfl
  | obj h ih =>
    rw [render, String.toList_append, String.toList_append, List.append_assoc]
    exact (lexes_members ih).cons rfl fun rest => rfl

/-! ## Values -/

/-- The tokens of a value are read as the value, with fuel for twice as many tokens. -/
def Reads (json : Json) : Prop :=
  ∀ fuel rest, 2 * json.tokens.length ≤ fuel →
    value? fuel (json.tokens ++ rest) = some (json, rest)

/-- A value begins with a token that does not close an array. -/
theorem exists_tokens_eq (json : Json) :
    ∃ token more, json.tokens = token :: more ∧ token ≠ .closeArray := by
  cases json <;> exact ⟨_, _, rfl, nofun⟩

theorem items?_itemTokens {items : List Json} (hitems : items ≠ [])
    (h : ∀ item ∈ items, item.Reads) :
    ∀ fuel rest, 2 * (itemTokens items).length ≤ fuel →
      items? fuel (itemTokens items ++ rest) = some (items, rest) := by
  induction items with
  | nil => exact absurd rfl hitems
  | cons item items ih =>
    intro fuel rest hfuel
    have hitem := h item List.mem_cons_self
    cases items with
    | nil =>
      simp only [itemTokens, List.length_append, List.length_singleton] at hfuel
      obtain ⟨fuel, rfl⟩ : ∃ less, fuel = less + 1 := ⟨fuel - 1, by omega⟩
      rw [itemTokens, List.append_assoc, items?, hitem fuel _ (by omega)]
      rfl
    | cons next items =>
      have htokens : itemTokens (item :: next :: items) =
          item.tokens ++ .comma :: itemTokens (next :: items) := rfl
      simp only [htokens, List.length_append, List.length_cons] at hfuel
      obtain ⟨fuel, rfl⟩ : ∃ less, fuel = less + 1 := ⟨fuel - 1, by omega⟩
      have hrest := ih (by simp) (fun item hmem => h item (List.mem_cons_of_mem _ hmem)) fuel rest
        (by omega)
      rw [htokens, List.append_assoc, items?, hitem fuel _ (by omega)]
      simp only [List.cons_append, hrest, Option.map_some]

theorem members?_memberTokens {members : List (Option String × Json)} (hmembers : members ≠ [])
    (h : ∀ member ∈ members, member.2.Reads) :
    ∀ fuel rest, 2 * (memberTokens members).length ≤ fuel →
      members? fuel (memberTokens members ++ rest) = some (members, rest) := by
  induction members with
  | nil => exact absurd rfl hmembers
  | cons member members ih =>
    obtain ⟨key, value⟩ := member
    intro fuel rest hfuel
    have hvalue : value.Reads := h (key, value) List.mem_cons_self
    cases members with
    | nil =>
      simp only [memberTokens, List.length_append, List.length_cons, List.length_nil] at hfuel
      obtain ⟨fuel, rfl⟩ : ∃ less, fuel = less + 1 := ⟨fuel - 1, by omega⟩
      rw [memberTokens, List.cons_append, List.cons_append, List.append_assoc, members?]
      simp only [hvalue fuel _ (by omega : 2 * value.tokens.length ≤ fuel), List.cons_append,
        List.nil_append]
    | cons next members =>
      have htokens : memberTokens ((key, value) :: next :: members) =
          .str key :: .colon :: (value.tokens ++ .comma :: memberTokens (next :: members)) := rfl
      simp only [htokens, List.length_append, List.length_cons] at hfuel
      obtain ⟨fuel, rfl⟩ : ∃ less, fuel = less + 1 := ⟨fuel - 1, by omega⟩
      have hrest := ih (by simp) (fun member hmem => h member (List.mem_cons_of_mem _ hmem)) fuel
        rest (by omega)
      rw [htokens, List.cons_append, List.cons_append, List.append_assoc, members?]
      simp only [hvalue fuel _ (by omega : 2 * value.tokens.length ≤ fuel), List.cons_append,
        hrest, Option.map_some]

theorem value?_openArray {tokens : List Token} (fuel : Nat)
    (h : ∀ more, tokens ≠ .closeArray :: more) :
    value? (fuel + 1) (.openArray :: tokens) =
      (items? fuel tokens).map fun (items, rest) => (.arr items, rest) := by
  rw [value?]
  exact h

theorem value?_openObject {tokens : List Token} (fuel : Nat)
    (h : ∀ more, tokens ≠ .closeObject :: more) :
    value? (fuel + 1) (.openObject :: tokens) =
      (members? fuel tokens).map fun (members, rest) => (.obj members, rest) := by
  rw [value?]
  exact h

/-- The tokens of a value are read as the value. -/
theorem reads_of_wellFormed {json : Json} (h : json.WellFormed) : json.Reads := by
  induction h with
  | arr h ih =>
    rename_i items
    intro fuel rest hfuel
    simp only [tokens, List.length_cons] at hfuel
    obtain ⟨fuel, rfl⟩ : ∃ less, fuel = less + 1 := ⟨fuel - 1, by omega⟩
    cases items with
    | nil => rfl
    | cons item items =>
      have hitems := items?_itemTokens (List.cons_ne_nil item items) ih fuel rest (by omega)
      have hopens : ∀ more, itemTokens (item :: items) ++ rest ≠ .closeArray :: more := by
        obtain ⟨token, later, htokens, hother⟩ := exists_tokens_eq item
        intro more hclose
        cases items <;>
        · simp only [itemTokens, htokens, List.cons_append] at hclose
          exact hother (List.cons_eq_cons.mp hclose).1
      rw [tokens, List.cons_append, value?_openArray fuel hopens, hitems]
      rfl
  | obj h ih =>
    rename_i members
    intro fuel rest hfuel
    simp only [tokens, List.length_cons] at hfuel
    obtain ⟨fuel, rfl⟩ : ∃ less, fuel = less + 1 := ⟨fuel - 1, by omega⟩
    cases members with
    | nil => rfl
    | cons member members =>
      have hmembers := members?_memberTokens (List.cons_ne_nil member members) ih fuel rest
        (by omega)
      have hopens : ∀ more, memberTokens (member :: members) ++ rest ≠ .closeObject :: more := by
        cases members <;> exact nofun
      rw [tokens, List.cons_append, value?_openObject fuel hopens, hmembers]
      rfl
  | _ =>
    intro fuel rest hfuel
    obtain ⟨fuel, rfl⟩ : ∃ less, fuel = less + 1 :=
      ⟨fuel - 1, by simp only [tokens, List.length_singleton] at hfuel; omega⟩
    rfl

/-- What is written is read back. -/
theorem parse?_render {json : Json} (h : json.WellFormed) : parse? json.render = some json := by
  obtain ⟨hlength, hlexes⟩ := lexes_render h
  obtain ⟨fuel, hfuel⟩ : ∃ fuel, json.render.toList.length = fuel + json.tokens.length :=
    ⟨json.render.toList.length - json.tokens.length, (Nat.sub_add_cancel hlength).symm⟩
  have htokens : tokens? (json.render.toList.length + 1) json.render.toList = some json.tokens := by
    have hread := hlexes (fuel + 1) [] nofun
    have hend : tokens? (fuel + 1) [] = some [] := rfl
    rwa [List.append_nil, Nat.add_right_comm, ← hfuel, hend, Option.map_some,
      List.append_nil] at hread
  have hvalue := reads_of_wellFormed h (2 * json.tokens.length + 2) [] (by omega)
  rw [List.append_nil] at hvalue
  simp only [parse?, htokens, hvalue, Option.bind_eq_bind, Option.bind_some]
  rfl

end CellStation.Json
