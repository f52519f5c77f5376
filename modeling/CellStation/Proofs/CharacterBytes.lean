import CellStation.Text.Boundary
import Mathlib.Data.List.Basic
import Mathlib.Tactic.SplitIfs

/-!
# The bytes of characters

Which bytes are a character is told by ranges of the bytes (`Text.exists_char_two_iff` and its
like). From them come the two things that texts are read and cut by. Bytes begin a character
exactly as the table of continuations says (`Text.begins_iff`), so that reading replaces a run
of bytes that begins a character and cannot be completed, and no shorter or longer one
(`Text.continued_longest`). And a character begins with a byte that continues none and goes on
with bytes that do (`Text.exists_utf8EncodeChar_eq_cons`).
-/

namespace CellStation.Text

/-! ## Ranges -/

section Ranges

variable {a b c d : UInt8}

theorem exists_char_of_number {n : Nat} (h : n < 0xD800 ∨ 0xDFFF < n ∧ n < 0x110000) :
    ∃ char : Char, char.val.toNat = n := by
  refine ⟨Char.ofNat n, ?_⟩
  have hvalid : n.isValidChar := h
  rw [Char.ofNat, dif_pos hvalid]
  rfl

theorem exists_char_one_iff : (∃ char, String.utf8EncodeChar char = [a]) ↔ a.toNat < 0x80 := by
  constructor
  · rintro ⟨char, henc⟩
    unfold String.utf8EncodeChar at henc
    simp only at henc
    split_ifs at henc <;> simp only [List.cons.injEq, reduceCtorEq, and_true, and_false] at henc
    rw [← henc, UInt8.toNat_ofNat']
    omega
  · intro ha
    obtain ⟨char, hval⟩ := exists_char_of_number (n := a.toNat) (by omega)
    refine ⟨char, ?_⟩
    simp only [String.utf8EncodeChar, hval, UInt8.ofNat_toNat]
    rw [if_pos (by omega)]

theorem exists_char_two_iff :
    (∃ char, String.utf8EncodeChar char = [a, b]) ↔
      (0xC2 ≤ a.toNat ∧ a.toNat < 0xE0) ∧ 0x80 ≤ b.toNat ∧ b.toNat ≤ 0xBF := by
  constructor
  · rintro ⟨char, henc⟩
    unfold String.utf8EncodeChar at henc
    simp only at henc
    split_ifs at henc <;> simp only [List.cons.injEq, reduceCtorEq, and_true, and_false] at henc
    obtain ⟨rfl, rfl⟩ := henc
    simp only [UInt8.toNat_ofNat']
    omega
  · rintro ⟨ha, hb⟩
    obtain ⟨char, hval⟩ := exists_char_of_number
      (n := (a.toNat - 0xC0) * 64 + (b.toNat - 0x80)) (by omega)
    refine ⟨char, ?_⟩
    have ha' : char.val.toNat / 64 % 32 + 192 = a.toNat := by omega
    have hb' : char.val.toNat % 64 + 128 = b.toNat := by omega
    simp only [String.utf8EncodeChar, ha', hb', UInt8.ofNat_toNat]
    rw [if_neg (by omega), if_pos (by omega)]

theorem exists_char_three_iff :
    (∃ char, String.utf8EncodeChar char = [a, b, c]) ↔
      (0xE0 ≤ a.toNat ∧ a.toNat < 0xF0) ∧ (0x80 ≤ b.toNat ∧ b.toNat ≤ 0xBF) ∧
        (0x80 ≤ c.toNat ∧ c.toNat ≤ 0xBF) ∧
        (a.toNat = 0xE0 → 0xA0 ≤ b.toNat) ∧ (a.toNat = 0xED → b.toNat ≤ 0x9F) := by
  constructor
  · rintro ⟨char, henc⟩
    -- The numbers from `0xD800` to `0xDFFF` are no characters.
    have hscalar : char.val.toNat < 0xD800 ∨ 0xDFFF < char.val.toNat ∧ char.val.toNat < 0x110000 :=
      char.valid
    unfold String.utf8EncodeChar at henc
    simp only at henc
    split_ifs at henc <;> simp only [List.cons.injEq, reduceCtorEq, and_true, and_false] at henc
    obtain ⟨rfl, rfl, rfl⟩ := henc
    simp only [UInt8.toNat_ofNat']
    omega
  · rintro ⟨ha, hb, hc, hlow, hhigh⟩
    obtain ⟨char, hval⟩ := exists_char_of_number
      (n := (a.toNat - 0xE0) * 4096 + (b.toNat - 0x80) * 64 + (c.toNat - 0x80)) (by omega)
    refine ⟨char, ?_⟩
    have ha' : char.val.toNat / 4096 % 16 + 224 = a.toNat := by omega
    have hb' : char.val.toNat / 64 % 64 + 128 = b.toNat := by omega
    have hc' : char.val.toNat % 64 + 128 = c.toNat := by omega
    simp only [String.utf8EncodeChar, ha', hb', hc', UInt8.ofNat_toNat]
    rw [if_neg (by omega), if_neg (by omega), if_pos (by omega)]

theorem exists_char_four_iff :
    (∃ char, String.utf8EncodeChar char = [a, b, c, d]) ↔
      (0xF0 ≤ a.toNat ∧ a.toNat ≤ 0xF4) ∧ (0x80 ≤ b.toNat ∧ b.toNat ≤ 0xBF) ∧
        (0x80 ≤ c.toNat ∧ c.toNat ≤ 0xBF) ∧ (0x80 ≤ d.toNat ∧ d.toNat ≤ 0xBF) ∧
        (a.toNat = 0xF0 → 0x90 ≤ b.toNat) ∧ (a.toNat = 0xF4 → b.toNat ≤ 0x8F) := by
  constructor
  · rintro ⟨char, henc⟩
    have hscalar : char.val.toNat < 0xD800 ∨ 0xDFFF < char.val.toNat ∧ char.val.toNat < 0x110000 :=
      char.valid
    unfold String.utf8EncodeChar at henc
    simp only at henc
    split_ifs at henc <;> simp only [List.cons.injEq, reduceCtorEq, and_true, and_false] at henc
    obtain ⟨rfl, rfl, rfl, rfl⟩ := henc
    simp only [UInt8.toNat_ofNat']
    omega
  · rintro ⟨ha, hb, hc, hd, hlow, hhigh⟩
    obtain ⟨char, hval⟩ := exists_char_of_number
      (n := (a.toNat - 0xF0) * 262144 + (b.toNat - 0x80) * 4096 + (c.toNat - 0x80) * 64 +
        (d.toNat - 0x80)) (by omega)
    refine ⟨char, ?_⟩
    have ha' : char.val.toNat / 262144 % 8 + 240 = a.toNat := by omega
    have hb' : char.val.toNat / 4096 % 64 + 128 = b.toNat := by omega
    have hc' : char.val.toNat / 64 % 64 + 128 = c.toNat := by omega
    have hd' : char.val.toNat % 64 + 128 = d.toNat := by omega
    simp only [String.utf8EncodeChar, ha', hb', hc', hd', UInt8.ofNat_toNat]
    rw [if_neg (by omega), if_neg (by omega), if_neg (by omega)]

end Ranges

/-! ## The table of continuations -/

section Table

variable {lead : UInt8} {more : List UInt8}

theorem continuations_eq (lead : UInt8) :
    continuations lead =
      if lead.toNat < 0xC2 then (0, 0, 0)
      else if lead.toNat < 0xE0 then (1, 0x80, 0xBF)
      else if lead.toNat = 0xE0 then (2, 0xA0, 0xBF)
      else if lead.toNat = 0xED then (2, 0x80, 0x9F)
      else if lead.toNat < 0xF0 then (2, 0x80, 0xBF)
      else if lead.toNat = 0xF0 then (3, 0x90, 0xBF)
      else if lead.toNat < 0xF4 then (3, 0x80, 0xBF)
      else if lead.toNat = 0xF4 then (3, 0x80, 0x8F)
      else (0, 0, 0) := by
  simp only [continuations, UInt8.lt_iff_toNat_lt, ← UInt8.toNat_inj, UInt8.reduceToNat]

theorem continuations_eq_zero (h : lead.toNat < 0xC2 ∨ 0xF4 < lead.toNat) :
    continuations lead = (0, 0, 0) := by
  rw [continuations_eq]
  rcases h with hlow | hhigh
  · rw [if_pos hlow]
  · rw [if_neg (by omega), if_neg (by omega), if_neg (by omega), if_neg (by omega),
      if_neg (by omega), if_neg (by omega), if_neg (by omega), if_neg (by omega)]

theorem continuations_eq_one (h : 0xC2 ≤ lead.toNat ∧ lead.toNat < 0xE0) :
    continuations lead = (1, 0x80, 0xBF) := by
  rw [continuations_eq, if_neg (by omega), if_pos h.2]

theorem continuations_eq_two (h : 0xE0 ≤ lead.toNat ∧ lead.toNat < 0xF0) :
    continuations lead =
      (2, if lead.toNat = 0xE0 then 0xA0 else 0x80, if lead.toNat = 0xED then 0x9F else 0xBF) := by
  rw [continuations_eq, if_neg (by omega), if_neg (by omega)]
  by_cases hlow : lead.toNat = 0xE0
  · rw [if_pos hlow, if_pos hlow, if_neg (by omega)]
  · rw [if_neg hlow, if_neg hlow]
    by_cases hhigh : lead.toNat = 0xED
    · rw [if_pos hhigh, if_pos hhigh]
    · rw [if_neg hhigh, if_neg hhigh, if_pos h.2]

theorem continuations_eq_three (h : 0xF0 ≤ lead.toNat ∧ lead.toNat ≤ 0xF4) :
    continuations lead =
      (3, if lead.toNat = 0xF0 then 0x90 else 0x80, if lead.toNat = 0xF4 then 0x8F else 0xBF) := by
  rw [continuations_eq, if_neg (by omega), if_neg (by omega), if_neg (by omega),
    if_neg (by omega), if_neg (by omega)]
  by_cases hlow : lead.toNat = 0xF0
  · rw [if_pos hlow, if_pos hlow, if_neg (by omega)]
  · rw [if_neg hlow, if_neg hlow]
    by_cases hhigh : lead.toNat = 0xF4
    · rw [if_neg (by omega), if_pos hhigh, if_pos hhigh]
    · rw [if_pos (by omega), if_neg hhigh]

/-- What a lead byte may be : one that asks for no others, or for one, two or three. -/
theorem lead_cases (lead : UInt8) :
    (lead.toNat < 0xC2 ∨ 0xF4 < lead.toNat) ∨ (0xC2 ≤ lead.toNat ∧ lead.toNat < 0xE0) ∨
      (0xE0 ≤ lead.toNat ∧ lead.toNat < 0xF0) ∨ (0xF0 ≤ lead.toNat ∧ lead.toNat ≤ 0xF4) := by
  omega

theorem runLength_nil (count : Nat) (low high : UInt8) : runLength count low high [] = 0 := by
  cases count <;> rfl

theorem runLength_zero (low high : UInt8) (bytes : List UInt8) :
    runLength 0 low high bytes = 0 := by
  cases bytes <;> rfl

theorem runLength_take (n : Nat) (bytes : List UInt8) (count : Nat) (low high : UInt8) :
    runLength count low high (bytes.take n) = min n (runLength count low high bytes) := by
  induction bytes generalizing n count low high with
  | nil => rw [List.take_nil, runLength_nil, Nat.min_zero]
  | cons byte bytes ih =>
    cases n with
    | zero => rw [List.take_zero, runLength_nil, Nat.zero_min]
    | succ n =>
      cases count with
      | zero => rw [runLength_zero, runLength_zero, Nat.min_zero]
      | succ count =>
        rw [List.take_succ_cons, runLength, runLength]
        split
        · rw [ih]
          omega
        · rw [Nat.min_zero]

theorem runLength_le (count : Nat) (low high : UInt8) (bytes : List UInt8) :
    runLength count low high bytes ≤ count ∧ runLength count low high bytes ≤ bytes.length := by
  induction bytes generalizing count low high with
  | nil =>
    rw [runLength_nil]
    exact ⟨Nat.zero_le _, Nat.zero_le _⟩
  | cons byte bytes ih =>
    cases count with
    | zero =>
      rw [runLength_zero]
      exact ⟨Nat.zero_le _, Nat.zero_le _⟩
    | succ count =>
      obtain ⟨hcount, hlen⟩ := ih count 0x80 0xBF
      rw [runLength, List.length_cons]
      split <;> omega

/-- All bytes are counted if the first is in its range and all others are counted. -/
theorem runLength_cons_eq_length_iff (count : Nat) (low high byte : UInt8) (bytes : List UInt8) :
    runLength (count + 1) low high (byte :: bytes) = (byte :: bytes).length ↔
      (low.toNat ≤ byte.toNat ∧ byte.toNat ≤ high.toNat) ∧
        runLength count 0x80 0xBF bytes = bytes.length := by
  rw [runLength, List.length_cons]
  simp only [UInt8.le_iff_toNat_le]
  split
  · rw [Nat.add_comm, Nat.add_right_cancel_iff, and_iff_right ‹_›]
  · exact iff_of_false (Nat.succ_ne_zero _).symm fun h => absurd h.1 ‹_›

/-- Bytes that are all counted can be filled up to as many as are asked for. -/
theorem exists_filled {count : Nat} {low high : UInt8} (hrange : low.toNat ≤ high.toNat)
    (h : runLength count low high more = more.length) :
    ∃ rest, (more ++ rest).length = count ∧
      runLength count low high (more ++ rest) = (more ++ rest).length := by
  induction count generalizing low high more with
  | zero =>
    obtain rfl : more = [] := by
      rw [runLength_zero] at h
      exact List.length_eq_zero_iff.mp h.symm
    exact ⟨[], rfl, rfl⟩
  | succ count ih =>
    cases more with
    | nil =>
      have hnil : runLength count 0x80 0xBF [] = ([] : List UInt8).length := runLength_nil _ _ _
      obtain ⟨rest, hlen, hrun⟩ := ih (by decide) hnil
      refine ⟨low :: rest, congrArg Nat.succ hlen, ?_⟩
      rw [List.nil_append, runLength_cons_eq_length_iff]
      exact ⟨⟨Nat.le_refl _, hrange⟩, hrun⟩
    | cons byte more =>
      rw [runLength_cons_eq_length_iff] at h
      obtain ⟨rest, hlen, hrun⟩ := ih (by decide) h.2
      refine ⟨rest, congrArg Nat.succ hlen, ?_⟩
      rw [List.cons_append, runLength_cons_eq_length_iff]
      exact ⟨h.1, hrun⟩

theorem continued_eq (lead : UInt8) (bytes : List UInt8) :
    continued lead bytes =
      runLength (continuations lead).1 (continuations lead).2.1 (continuations lead).2.2 bytes :=
  rfl

/-- The bytes may stand behind a lead byte. -/
structure MayFollow (lead : UInt8) (more : List UInt8) : Prop where
  leads : lead.toNat < 0x80 ∨ (continuations lead).1 ≠ 0
  follow : continued lead more = more.length

/-- Behind the lead byte of a character stand as many bytes as it asks for, in their ranges. -/
theorem mayFollow_of_char {char : Char} (h : String.utf8EncodeChar char = lead :: more) :
    MayFollow lead more ∧ more.length = (continuations lead).1 := by
  have hlen : more.length + 1 ≤ 4 := by
    have hsize := congrArg List.length h
    rw [String.length_utf8EncodeChar, List.length_cons] at hsize
    exact hsize ▸ char.utf8Size_le_four
  match more, h, hlen with
  | [], h, _ =>
    have ha := exists_char_one_iff.mp ⟨char, h⟩
    rw [continuations_eq_zero (by omega)]
    exact ⟨⟨.inl ha, by rw [continued_eq, runLength_nil]; rfl⟩, rfl⟩
  | [b], h, _ =>
    obtain ⟨ha, hb⟩ := exists_char_two_iff.mp ⟨char, h⟩
    have htable := continuations_eq_one ha
    refine ⟨⟨.inr (by simp [htable]), ?_⟩, by rw [htable]; rfl⟩
    rw [continued_eq, htable]
    exact (runLength_cons_eq_length_iff ..).mpr ⟨hb, rfl⟩
  | [b, c], h, _ =>
    obtain ⟨ha, hb, hc, hlow, hhigh⟩ := exists_char_three_iff.mp ⟨char, h⟩
    have htable := continuations_eq_two ha
    refine ⟨⟨.inr (by simp [htable]), ?_⟩, by rw [htable]; rfl⟩
    rw [continued_eq, htable]
    simp only [runLength_cons_eq_length_iff]
    refine ⟨?_, hc, rfl⟩
    split_ifs <;> simp only [UInt8.reduceToNat] <;> omega
  | [b, c, d], h, _ =>
    obtain ⟨ha, hb, hc, hd, hlow, hhigh⟩ := exists_char_four_iff.mp ⟨char, h⟩
    have htable := continuations_eq_three ha
    refine ⟨⟨.inr (by simp [htable]), ?_⟩, by rw [htable]; rfl⟩
    rw [continued_eq, htable]
    simp only [runLength_cons_eq_length_iff]
    refine ⟨?_, hc, hd, rfl⟩
    split_ifs <;> simp only [UInt8.reduceToNat] <;> omega

/-- A lead byte with as many others behind it as it asks for, in their ranges, is a character. -/
theorem MayFollow.exists_char (h : MayFollow lead more)
    (hlen : more.length = (continuations lead).1) :
    ∃ char, String.utf8EncodeChar char = lead :: more := by
  obtain ⟨hleads, hfollow⟩ := h
  rw [continued_eq] at hfollow
  obtain ha | ha | ha | ha := lead_cases lead
  · rw [continuations_eq_zero ha] at hleads hlen
    obtain rfl : more = [] := List.length_eq_zero_iff.mp hlen
    exact exists_char_one_iff.mpr (by simpa using hleads)
  · rw [continuations_eq_one ha] at hfollow hlen
    obtain ⟨b, rfl⟩ := List.length_eq_one_iff.mp hlen
    simp only [runLength_cons_eq_length_iff] at hfollow
    exact exists_char_two_iff.mpr ⟨ha, hfollow.1⟩
  · rw [continuations_eq_two ha] at hfollow hlen
    obtain ⟨b, c, rfl⟩ := List.length_eq_two.mp hlen
    simp only [runLength_cons_eq_length_iff] at hfollow
    obtain ⟨hb, hc, -⟩ := hfollow
    refine exists_char_three_iff.mpr ⟨ha, ?_⟩
    split_ifs at hb <;> simp only [UInt8.reduceToNat] at hb hc <;> omega
  · rw [continuations_eq_three ha] at hfollow hlen
    obtain ⟨b, c, d, rfl⟩ := List.length_eq_three.mp hlen
    simp only [runLength_cons_eq_length_iff] at hfollow
    obtain ⟨hb, hc, hd, -⟩ := hfollow
    refine exists_char_four_iff.mpr ⟨ha, ?_⟩
    split_ifs at hb <;> simp only [UInt8.reduceToNat] at hb hc hd <;> omega

/-! ## What begins a character -/

/-- The bytes are the first of a character, or all of them. -/
def Begins (bytes : List UInt8) : Prop := ∃ char, bytes <+: String.utf8EncodeChar char

/-- The range that a lead byte asks for has a byte in it. -/
theorem continuations_range (lead : UInt8) :
    (continuations lead).2.1.toNat ≤ (continuations lead).2.2.toNat := by
  obtain h | h | h | h := lead_cases lead
  · exact Nat.le_of_eq (by rw [continuations_eq_zero h])
  · rw [continuations_eq_one h]
    decide
  · rw [continuations_eq_two h]
    split_ifs <;> simp only [UInt8.reduceToNat] <;> omega
  · rw [continuations_eq_three h]
    split_ifs <;> simp only [UInt8.reduceToNat] <;> omega

theorem begins_iff : Begins (lead :: more) ↔ MayFollow lead more := by
  constructor
  · rintro ⟨char, rest, henc⟩
    rw [List.cons_append] at henc
    obtain ⟨⟨hleads, hfollow⟩, -⟩ := mayFollow_of_char henc.symm
    refine ⟨hleads, ?_⟩
    have htake := runLength_take more.length (more ++ rest) (continuations lead).1
      (continuations lead).2.1 (continuations lead).2.2
    rw [List.take_left, ← continued_eq, ← continued_eq, hfollow, List.length_append] at htake
    omega
  · rintro ⟨hleads, hfollow⟩
    obtain ⟨rest, hlen, hall⟩ := exists_filled (continuations_range lead) hfollow
    obtain ⟨char, henc⟩ := MayFollow.exists_char ⟨hleads, hall⟩ hlen
    exact ⟨char, rest, henc.symm⟩

theorem continued_le (lead : UInt8) (rest : List UInt8) : continued lead rest ≤ rest.length :=
  (runLength_le _ _ _ rest).2

/-- A lead byte and the bytes counted behind it begin a character, unless the byte begins none,
and with more bytes they begin none. -/
theorem continued_longest (lead : UInt8) (rest : List UInt8) :
    (continued lead rest = 0 ∨ Begins (lead :: rest.take (continued lead rest))) ∧
      ∀ n ≤ rest.length, Begins (lead :: rest.take n) → n ≤ continued lead rest := by
  have htake : ∀ n, continued lead (rest.take n) = min n (continued lead rest) :=
    fun n => runLength_take n rest _ _ _
  have hlen := continued_le lead rest
  have hcount : continued lead rest ≤ (continuations lead).1 := (runLength_le _ _ _ rest).1
  constructor
  · by_cases hnone : continued lead rest = 0
    · exact .inl hnone
    · refine .inr (begins_iff.mpr ⟨.inr (by omega), ?_⟩)
      rw [htake, List.length_take]
      omega
  · intro n hn hbegins
    have hfollow := (begins_iff.mp hbegins).follow
    rw [htake, List.length_take] at hfollow
    omega

/-! ## Where a character begins -/

theorem isContinuation_iff {byte : UInt8} :
    isContinuation byte = true ↔ 0x80 ≤ byte.toNat ∧ byte.toNat ≤ 0xBF := by
  simp only [isContinuation, Bool.and_eq_true, decide_eq_true_eq, UInt8.le_iff_toNat_le,
    UInt8.lt_iff_toNat_lt, UInt8.reduceToNat]
  omega

/-- A character begins with a byte that goes on with none, and goes on with bytes that do. -/
theorem exists_utf8EncodeChar_eq_cons (char : Char) :
    ∃ lead more, String.utf8EncodeChar char = lead :: more ∧ isContinuation lead = false ∧
      ∀ byte ∈ more, isContinuation byte = true := by
  have hlead : ∀ n, n < 0x80 ∨ (0xC0 ≤ n ∧ n < 256) → isContinuation (UInt8.ofNat n) = false := by
    intro n hn
    rw [← Bool.not_eq_true, isContinuation_iff, UInt8.toNat_ofNat']
    omega
  have hmore : ∀ n, isContinuation (UInt8.ofNat (n % 64 + 128)) = true := by
    intro n
    rw [isContinuation_iff, UInt8.toNat_ofNat']
    omega
  unfold String.utf8EncodeChar
  simp only
  split_ifs
  · exact ⟨_, _, rfl, hlead _ (by omega), List.forall_mem_nil _⟩
  all_goals
    refine ⟨_, _, rfl, hlead _ (by omega), ?_⟩
    simp only [List.forall_mem_cons, hmore, true_and]
    exact List.forall_mem_nil _

end Table

end CellStation.Text
