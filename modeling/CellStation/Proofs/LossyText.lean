import CellStation.Proofs.CharacterBytes
import CellStation.Proofs.QueryFacts
import CellStation.Proofs.TextFields

/-!
# Replies as text

A reply is bytes, and may be anything. What a field takes of it is read character by character.
Where no character stands, the longest run of bytes that begins one is replaced, or a single
byte if it begins none (`Text.Stray`). `Text.Reads` says so without the function that reads, and
is met by the characters that are read and by no others (`Text.reads_iff`).

Each character that is read, or put in place of bytes, stands for at least one byte, and only a
NUL is read as a NUL. So a text in a field keeps within its size, has no NUL and is empty only if
nothing was taken. `Text.field_faithful` says this of every reply and size, and that an identity
is settled by every reply that does not begin with a NUL.
-/

namespace CellStation.Text

/-! ## What reading comes to -/

/-- No character stands in front of the bytes, and the run there is what is replaced : as many
bytes as begin a character, or a single one. -/
structure Stray (run rest : List UInt8) : Prop where
  no_char : ∀ char, ¬ String.utf8EncodeChar char <+: run ++ rest
  ne_nil : run ≠ []
  begins : run.length = 1 ∨ Begins run
  longest : ∀ longer, longer <+: run ++ rest → Begins longer → longer.length ≤ run.length

/-- The characters are read off the bytes. -/
inductive Reads : List UInt8 → List Char → Prop
  | nil : Reads [] []
  | char (char : Char) {rest : List UInt8} {chars : List Char} (later : Reads rest chars) :
    Reads (String.utf8EncodeChar char ++ rest) (char :: chars)
  | replaced {run rest : List UInt8} {chars : List Char} (stray : Stray run rest)
    (later : Reads rest chars) : Reads (run ++ rest) (replacement :: chars)

variable {lead : UInt8} {rest bytes : List UInt8} {chars : List Char}

/-- A character that is found stands in front of the bytes. -/
theorem prefix_of_utf8DecodeChar? {char : Char}
    (h : (lead :: rest.take 3).toByteArray.utf8DecodeChar? 0 = some char) :
    String.utf8EncodeChar char <+: lead :: rest := by
  obtain ⟨after, hafter⟩ := ByteArray.exists_of_utf8DecodeChar?_eq_some h
  have hlist := congrArg (fun array => array.data.toList) hafter
  simp only [List.data_toByteArray, ByteArray.data_append, Array.toList_append] at hlist
  have hfront : String.utf8EncodeChar char <+: lead :: rest.take 3 := ⟨_, hlist.symm⟩
  exact hfront.trans (List.cons_prefix_cons.mpr ⟨rfl, List.take_prefix 3 rest⟩)

/-- Where no character stands, none is found, and the bytes that begin one are replaced. -/
theorem decode_of_no_char (h : ∀ char, ¬ String.utf8EncodeChar char <+: lead :: rest) :
    decode (lead :: rest) = replacement :: decode (rest.drop (continued lead rest)) := by
  have hnone : (lead :: rest.take 3).toByteArray.utf8DecodeChar? 0 = none :=
    Option.eq_none_iff_forall_not_mem.mpr fun char hread =>
      h char (prefix_of_utf8DecodeChar? hread)
  rw [decode, hnone]

/-- What is replaced is a stray run of bytes. -/
theorem stray_continued (h : ∀ char, ¬ String.utf8EncodeChar char <+: lead :: rest) :
    Stray (lead :: rest.take (continued lead rest)) (rest.drop (continued lead rest)) := by
  have hwhole : lead :: rest.take (continued lead rest) ++ rest.drop (continued lead rest) =
      lead :: rest := by
    rw [List.cons_append, List.take_append_drop]
  have hlen : (lead :: rest.take (continued lead rest)).length = continued lead rest + 1 := by
    rw [List.length_cons, List.length_take, Nat.min_eq_left (continued_le lead rest)]
  obtain ⟨hbegins, hlongest⟩ := continued_longest lead rest
  constructor
  · rw [hwhole]
    exact h
  · exact List.cons_ne_nil _ _
  · rw [hlen]
    exact hbegins.imp_left (congrArg Nat.succ)
  · intro longer hpre hlonger
    rw [hwhole] at hpre
    rw [hlen]
    cases longer with
    | nil => exact Nat.zero_le _
    | cons first more =>
      obtain ⟨rfl, hmore⟩ := List.cons_prefix_cons.mp hpre
      rw [List.prefix_iff_eq_take.mp hmore] at hlonger
      exact Nat.succ_le_succ (hlongest _ hmore.length_le hlonger)

theorem reads_decode : ∀ bytes : List UInt8, Reads bytes (decode bytes)
  | [] => by
    rw [decode]
    exact .nil
  | lead :: rest => by
    by_cases hchar : ∃ char, String.utf8EncodeChar char <+: lead :: rest
    · obtain ⟨char, after, hafter⟩ := hchar
      have hshorter : after.length < rest.length + 1 := by
        have hlen := congrArg List.length hafter
        have hpos := char.utf8Size_pos
        rw [List.length_append, String.length_utf8EncodeChar, List.length_cons] at hlen
        omega
      rw [← hafter, decode_append_char]
      exact .char char (reads_decode after)
    · have hnone := not_exists.mp hchar
      have hread := Reads.replaced (stray_continued hnone) (reads_decode _)
      rwa [List.cons_append, List.take_append_drop, ← decode_of_no_char hnone] at hread
termination_by bytes => bytes.length

/-- A stray run is the lead byte and all that is counted behind it. -/
theorem Stray.length_eq {more : List UInt8} (h : Stray (lead :: more) rest) :
    continued lead (more ++ rest) = more.length := by
  obtain ⟨hbegins, hlongest⟩ := continued_longest lead (more ++ rest)
  apply Nat.le_antisymm
  · rcases hbegins with hnone | hbegins
    · exact hnone ▸ Nat.zero_le _
    · have hpre : lead :: (more ++ rest).take (continued lead (more ++ rest)) <+:
          lead :: more ++ rest :=
        List.cons_prefix_cons.mpr ⟨rfl, List.take_prefix _ _⟩
      have hlen := h.longest _ hpre hbegins
      rw [List.length_cons, List.length_take,
        Nat.min_eq_left (continued_le lead (more ++ rest)), List.length_cons] at hlen
      omega
  · rcases h.begins with hone | hbegins
    · exact Nat.succ.inj hone ▸ Nat.zero_le _
    · refine hlongest more.length (by rw [List.length_append]; omega) ?_
      rwa [List.take_left]

/-- The characters read off bytes are those that are read, and no others. -/
theorem reads_iff : Reads bytes chars ↔ decode bytes = chars := by
  constructor
  · intro h
    induction h with
    | nil => rw [decode]
    | char char later ih => rw [decode_append_char, ih]
    | @replaced run rest chars stray later ih =>
      obtain ⟨lead, more, rfl⟩ := List.exists_cons_of_ne_nil stray.ne_nil
      have hread : decode (lead :: (more ++ rest)) = _ := decode_of_no_char stray.no_char
      rw [List.cons_append, hread, stray.length_eq, List.drop_left, ih]
  · rintro rfl
    exact reads_decode bytes

theorem Reads.length_le (h : Reads bytes chars) : chars.length ≤ bytes.length := by
  induction h with
  | nil => exact Nat.le_refl 0
  | char char later ih =>
    have hpos := char.utf8Size_pos
    rw [List.length_append, String.length_utf8EncodeChar, List.length_cons]
    omega
  | replaced stray later ih =>
    have hpos := List.length_pos_iff_ne_nil.mpr stray.ne_nil
    rw [List.length_append, List.length_cons]
    omega

/-- A NUL is read only where there is one. -/
theorem Reads.nul_mem (h : Reads bytes chars) (hnul : '\x00' ∈ chars) : 0 ∈ bytes := by
  induction h with
  | nil => cases hnul
  | char char later ih =>
    rcases List.mem_cons.mp hnul with rfl | hlater
    · exact List.mem_append_left _ (by decide)
    · exact List.mem_append_right _ (ih hlater)
  | replaced stray later ih =>
    rcases List.mem_cons.mp hnul with hreplaced | hlater
    · cases hreplaced
    · exact List.mem_append_right _ (ih hlater)

theorem Reads.eq_nil_iff (h : Reads bytes chars) : chars = [] ↔ bytes = [] := by
  cases h with
  | nil => exact iff_of_true rfl rfl
  | char char later =>
    refine iff_of_false (List.cons_ne_nil _ _) fun hnil => ?_
    have hlen := congrArg List.length (List.append_eq_nil_iff.mp hnil).1
    exact absurd (hlen.symm.trans (String.length_utf8EncodeChar char)) char.utf8Size_pos.ne
  | replaced stray later =>
    exact iff_of_false (List.cons_ne_nil _ _) fun hnil =>
      stray.ne_nil (List.append_eq_nil_iff.mp hnil).1

/-! ## What a field takes of a reply -/

/-- The longest beginning of bytes that has no NUL. -/
structure LongestNulFree (bytes part : List UInt8) : Prop where
  beginning : part <+: bytes
  nul_free : 0 ∉ part
  longest : ∀ other, other <+: bytes → 0 ∉ other → other <+: part

theorem longestNulFree_takeWhile (bytes : List UInt8) :
    LongestNulFree bytes (bytes.takeWhile (· ≠ 0)) := by
  constructor
  · exact List.takeWhile_prefix _
  · intro hmem
    simpa using List.mem_takeWhile_imp hmem
  · rintro other ⟨rest, rfl⟩ hnul
    have hall : ∀ byte ∈ other, decide (byte ≠ 0) = true := by
      intro byte hmem
      rw [decide_eq_true_eq]
      rintro rfl
      exact hnul hmem
    rw [List.takeWhile_append_of_pos hall]
    exact List.prefix_append _ _

/-- A field takes nothing if it has no room, or if the reply is empty or begins with a NUL. -/
theorem fieldBytes_eq_nil_iff {limit : Nat} (hroom : 1 < limit) :
    fieldBytes bytes limit = [] ↔ ¬ ∃ first rest, bytes = first :: rest ∧ first ≠ 0 := by
  obtain ⟨room, rfl⟩ := Nat.exists_eq_add_of_lt hroom
  cases bytes with
  | nil => simp [fieldBytes]
  | cons first rest =>
    have hroom : 1 + room + 1 - 1 = room + 1 := by omega
    rw [fieldBytes, hroom, List.take_succ_cons, List.takeWhile_cons]
    by_cases hnul : first = 0 <;> simp [hnul]

theorem toList_field (bytes : List UInt8) (limit : Nat) :
    (field bytes limit).toList = decode (fieldBytes bytes limit) := by
  rw [field, ofBytes, String.toList_ofList]

theorem reads_field (bytes : List UInt8) (limit : Nat) :
    Reads (fieldBytes bytes limit) (field bytes limit).toList :=
  reads_iff.mpr (toList_field bytes limit).symm

theorem field_eq_empty_iff (bytes : List UInt8) (limit : Nat) :
    field bytes limit = "" ↔ fieldBytes bytes limit = [] := by
  rw [← (reads_field bytes limit).eq_nil_iff, String.toList_eq_nil_iff]

theorem length_fieldBytes_le (bytes : List UInt8) (limit : Nat) :
    (fieldBytes bytes limit).length ≤ limit - 1 := by
  have htaken : (fieldBytes bytes limit).length ≤ (bytes.take (limit - 1)).length :=
    (List.takeWhile_prefix _).length_le
  rw [List.length_take] at htaken
  omega

/-- What follows a NUL is not read. -/
theorem field_append_nul (bytes rest : List UInt8) (limit : Nat) :
    field (bytes ++ 0 :: rest) limit = field bytes limit := by
  have hwhile : (bytes ++ 0 :: rest).takeWhile (· ≠ 0) = bytes.takeWhile (· ≠ 0) := by
    rw [List.takeWhile_append]
    split
    · rename_i hall
      rw [List.takeWhile_cons_of_neg (by decide), List.append_nil]
      exact ((List.takeWhile_prefix _).eq_of_length hall).symm
    · rfl
  rw [field, field, fieldBytes, fieldBytes, ← List.take_takeWhile, ← List.take_takeWhile, hwhile]

/-- A text without NUL is read as it is from a field that has room for it. -/
theorem field_toBytes_of_le {text : String} {limit : Nat} (hsize : size text ≤ limit - 1)
    (hnul : 0 ∉ toBytes text) : field (toBytes text) limit = text := by
  cases limit with
  | zero =>
    -- A field of no bytes takes as much as one that has room for the terminator only.
    have hsame : field (toBytes text) 0 = field (toBytes text) 1 := rfl
    rw [hsame, field_toBytes (Nat.lt_succ_of_le hsize) hnul]
  | succ room => exact field_toBytes (Nat.lt_succ_of_le hsize) hnul

/-- The text of a field that takes the bytes of a text is that text. -/
theorem field_eq_of_fieldBytes {text : String} {limit : Nat}
    (h : toBytes text = fieldBytes bytes limit) : field bytes limit = text := by
  rw [field, ← h, ofBytes_toBytes]

/-- An identity that is a text is settled by a reply that begins with a byte other than NUL. -/
theorem settles_iff {query : Query} (h : query ∈ [Query.iccid, .imei, .imsi]) (status : Status)
    (value : List UInt8) (now : Millis) :
    (query.apply status value now).2 = true ↔ ∃ first rest, value = first :: rest ∧ first ≠ 0 := by
  have hfield : ∀ {limit : Nat}, 1 < limit →
      (field value limit ≠ "" ↔ ∃ first rest, value = first :: rest ∧ first ≠ 0) := by
    intro limit hroom
    rw [ne_eq, field_eq_empty_iff, fieldBytes_eq_nil_iff hroom, not_not]
  rw [Query.settled_apply]
  simp only [List.mem_cons, List.not_mem_nil, or_false] at h
  rcases h with rfl | rfl | rfl <;> rw [Query.settles, decide_eq_true_eq, hfield (by decide)]

/-- A field takes of a reply the longest beginning without NUL that leaves room for a terminator,
and holds the text that is read off it : as it is, if it is the bytes of a text, and otherwise
with every stray run replaced. The text has no NUL, keeps within the size, and is empty only if
nothing is taken. So a text that has room comes through whatever follows a NUL behind it, and an
identity is settled by the replies that do not begin with a NUL. -/
theorem field_faithful (bytes : List UInt8) (limit : Nat) :
    LongestNulFree (bytes.take (limit - 1)) (fieldBytes bytes limit) ∧
      Reads (fieldBytes bytes limit) (field bytes limit).toList ∧
      '\x00' ∉ (field bytes limit).toList ∧ (field bytes limit).length ≤ limit - 1 ∧
      (field bytes limit = "" ↔ fieldBytes bytes limit = []) ∧
      (∀ text, toBytes text = fieldBytes bytes limit → field bytes limit = text) ∧
      (∀ text rest, size text ≤ limit - 1 → 0 ∉ toBytes text →
        field (toBytes text) limit = text ∧ field (toBytes text ++ 0 :: rest) limit = text) ∧
      ∀ query ∈ [Query.iccid, .imei, .imsi], ∀ status value now,
        (query.apply status value now).2 = true ↔
          ∃ first rest, value = first :: rest ∧ first ≠ 0 := by
  have hlongest : LongestNulFree (bytes.take (limit - 1)) (fieldBytes bytes limit) :=
    longestNulFree_takeWhile _
  have hreads := reads_field bytes limit
  refine ⟨hlongest, hreads, fun hnul => hlongest.nul_free (hreads.nul_mem hnul), ?_,
    field_eq_empty_iff bytes limit, fun text => field_eq_of_fieldBytes, ?_,
    fun query => settles_iff⟩
  · rw [← String.length_toList]
    exact hreads.length_le.trans (length_fieldBytes_le bytes limit)
  · intro text rest hsize hnul
    rw [field_append_nul, field_toBytes_of_le hsize hnul]
    exact ⟨rfl, rfl⟩

/-- A reply with bytes behind a NUL, a text that fills a field but for the terminator, and an
identity of one byte that is no text. -/
theorem field_faithful_terminated :
    toBytes "ab" = fieldBytes [0x61, 0x62, 0, 0x7A] 4 ∧ field [0x61, 0x62, 0, 0x7A] 4 = "ab" ∧
      (size "abc" ≤ 4 - 1 ∧ 0 ∉ toBytes "abc") ∧ field (toBytes "abc" ++ 0 :: [0xFF]) 4 = "abc" ∧
      Query.imei ∈ [Query.iccid, .imei, .imsi] ∧ (Query.imei.apply .initial [0xFF] 0).2 = true := by
  obtain ⟨-, -, -, -, -, hvalid, hroom, hsettles⟩ :=
    field_faithful [0x61, 0x62, 0, 0x7A] 4
  have hbytes : toBytes "ab" = fieldBytes [0x61, 0x62, 0, 0x7A] 4 := by decide
  have hsize : size "abc" ≤ 4 - 1 := by decide
  have hnul : 0 ∉ toBytes "abc" := by decide
  have hquery : Query.imei ∈ [Query.iccid, .imei, .imsi] := by decide
  exact ⟨hbytes, hvalid _ hbytes, ⟨hsize, hnul⟩, (hroom _ [0xFF] hsize hnul).2, hquery,
    (hsettles _ hquery _ _ _).mpr ⟨0xFF, [], rfl, by decide⟩⟩

-- A character cut at the end of a field is replaced.
example : field [0x61, 0x62, 0xC3, 0xA9] 4 = "ab\uFFFD" := by
  cbv

end CellStation.Text
