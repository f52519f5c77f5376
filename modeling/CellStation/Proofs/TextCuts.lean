import CellStation.Monitor
import CellStation.Proofs.CharacterBytes
import CellStation.Proofs.TextFields

/-!
# Cutting texts

The boundaries of a text are the places where it can be taken apart into two texts
(`Text.isBoundary_iff`). A text is one at its start, so the search backwards from a limit always
ends (`Text.boundaryFrom?_eq_some`), and no character has more than four bytes, so it ends after
three steps at most. What stands before the boundary it ends at are the characters that fit
(`Text.cutBack?_eq`). `Text.keeps_longest_beginning` says this of every text and limit, and of
the access point name that a monitor is given.
-/

namespace CellStation.Text

/-! ## Boundaries -/

theorem isBoundaryOf_append (bytes rest : List UInt8) (index : Nat) :
    isBoundaryOf (bytes ++ rest) (bytes.length + index) = isBoundaryOf rest index := by
  rw [isBoundaryOf, isBoundaryOf, List.getElem?_append_right (Nat.le_add_right _ _),
    Nat.add_sub_cancel_left, List.length_append]
  split
  · rfl
  · rw [Bool.eq_iff_iff, beq_iff_eq, beq_iff_eq, Nat.add_left_cancel_iff]

/-- A character begins at its first byte and at none of its others. -/
theorem isBoundaryOf_char (char : Char) (rest : List UInt8) {index : Nat}
    (h : index < char.utf8Size) :
    isBoundaryOf (String.utf8EncodeChar char ++ rest) index = true ↔ index = 0 := by
  obtain ⟨lead, more, henc, hlead, hmore⟩ := exists_utf8EncodeChar_eq_cons char
  have hlen : index < (lead :: more).length := by
    rwa [← henc, String.length_utf8EncodeChar]
  rw [henc, isBoundaryOf, List.getElem?_append_left hlen, List.getElem?_eq_getElem hlen]
  cases index with
  | zero => simp [hlead]
  | succ index => simp [hmore _ (List.getElem_mem (Nat.lt_of_succ_lt_succ hlen))]

/-- The boundaries of characters in a row are where the row can be split. -/
theorem isBoundaryOf_chars_iff {chars : List Char} {index : Nat} :
    isBoundaryOf (chars.flatMap String.utf8EncodeChar) index = true ↔
      ∃ front back, front ++ back = chars ∧
        (front.flatMap String.utf8EncodeChar).length = index := by
  induction chars generalizing index with
  | nil =>
    rw [List.flatMap_nil, isBoundaryOf, List.getElem?_nil]
    constructor
    · intro h
      exact ⟨[], [], rfl, (beq_iff_eq.mp h).symm⟩
    · rintro ⟨front, back, hsplit, rfl⟩
      rw [(List.append_eq_nil_iff.mp hsplit).1]
      rfl
  | cons char chars ih =>
    rw [List.flatMap_cons]
    rcases Nat.lt_or_ge index char.utf8Size with hinside | hbehind
    · rw [isBoundaryOf_char char _ hinside]
      constructor
      · rintro rfl
        exact ⟨[], char :: chars, rfl, rfl⟩
      · rintro ⟨front, back, hsplit, hlen⟩
        cases front with
        | nil => exact hlen.symm
        | cons first front =>
          obtain rfl : first = char := (List.cons.inj hsplit).1
          rw [List.flatMap_cons, List.length_append, String.length_utf8EncodeChar] at hlen
          omega
    · obtain ⟨more, rfl⟩ := Nat.exists_eq_add_of_le hbehind
      rw [← String.length_utf8EncodeChar, isBoundaryOf_append, ih]
      constructor
      · rintro ⟨front, back, rfl, hlen⟩
        refine ⟨char :: front, back, rfl, ?_⟩
        rw [List.flatMap_cons, List.length_append, hlen]
      · rintro ⟨front, back, hsplit, hlen⟩
        cases front with
        | nil =>
          have hpos := char.utf8Size_pos
          rw [String.length_utf8EncodeChar, List.flatMap_nil, List.length_nil] at hlen
          omega
        | cons first front =>
          obtain ⟨rfl, hrest⟩ := List.cons.inj hsplit
          rw [List.flatMap_cons, List.length_append, Nat.add_left_cancel_iff] at hlen
          exact ⟨front, back, hrest, hlen⟩

/-- A boundary is where a text can be taken apart into two texts. -/
theorem isBoundary_iff {text : String} {index : Nat} :
    isBoundary text index = true ↔ ∃ front back, front ++ back = text ∧ size front = index := by
  rw [isBoundary, toBytes_eq, isBoundaryOf_chars_iff]
  constructor
  · rintro ⟨front, back, hsplit, hlen⟩
    refine ⟨String.ofList front, String.ofList back, ?_, ?_⟩
    · rw [← String.ofList_append, hsplit, String.ofList_toList]
    · rw [← length_toBytes, toBytes_eq, String.toList_ofList, hlen]
  · rintro ⟨front, back, rfl, hsize⟩
    refine ⟨front.toList, back.toList, String.toList_append.symm, ?_⟩
    rw [← toBytes_eq, length_toBytes, hsize]

/-- The search backwards ends at the last boundary. -/
theorem boundaryFrom?_eq_some {text : String} {index stop : Nat}
    (hstop : isBoundary text stop = true) (hle : stop ≤ index)
    (hlast : ∀ other ≤ index, isBoundary text other = true → other ≤ stop) :
    boundaryFrom? text index = some stop := by
  induction index with
  | zero =>
    obtain rfl := Nat.le_zero.mp hle
    rw [boundaryFrom?, if_pos hstop]
  | succ index ih =>
    rw [boundaryFrom?]
    split
    · rename_i hhere
      rw [Nat.le_antisymm (hlast (index + 1) (Nat.le_refl _) hhere) hle]
    · rename_i hhere
      have hne : stop ≠ index + 1 := by
        rintro rfl
        exact hhere hstop
      exact ih (by omega) fun other hother => hlast other (Nat.le_succ_of_le hother)

/-- The text before a boundary is what was there before the text was taken apart. -/
theorem before?_eq_some {text front back : String} (h : front ++ back = text) :
    before? text (size front) = some front := by
  have hboundary : isBoundary text (size front) = true := isBoundary_iff.mpr ⟨front, back, h, rfl⟩
  have hbytes : text.toByteArray.extract 0 (size front) = front.toByteArray := by
    rw [← h, String.toByteArray_append]
    exact ByteArray.extract_append_eq_left front.size_toByteArray.symm
  rw [before?, if_pos hboundary, hbytes, String.fromUTF8?, dif_pos front.isValidUTF8]
  rfl

/-! ## The characters that fit -/

/-- Bytes of characters in a row. -/
def width (chars : List Char) : Nat := (chars.map Char.utf8Size).sum

theorem width_cons (char : Char) (chars : List Char) :
    width (char :: chars) = char.utf8Size + width chars := by
  rw [width, width, List.map_cons, List.sum_cons]

theorem size_eq_width (text : String) : size text = width text.toList := size_eq_sum text

theorem cutChars_prefix (limit : Nat) (chars : List Char) : cutChars limit chars <+: chars := by
  induction chars generalizing limit with
  | nil => exact List.nil_prefix
  | cons char chars ih =>
    rw [cutChars]
    split
    · exact List.cons_prefix_cons.mpr ⟨rfl, ih _⟩
    · exact List.nil_prefix

theorem width_cutChars_le (limit : Nat) (chars : List Char) :
    width (cutChars limit chars) ≤ limit := by
  induction chars generalizing limit with
  | nil => exact Nat.zero_le _
  | cons char chars ih =>
    rw [cutChars]
    split
    · have hrest := ih (limit - char.utf8Size)
      rw [width_cons]
      omega
    · exact Nat.zero_le _

/-- No more characters at the front fit. -/
theorem width_le_cutChars {limit : Nat} {front back : List Char} (h : width front ≤ limit) :
    width front ≤ width (cutChars limit (front ++ back)) := by
  induction front generalizing limit with
  | nil => exact Nat.zero_le _
  | cons char front ih =>
    rw [width_cons] at h ⊢
    rw [List.cons_append, cutChars, if_pos (by omega), width_cons]
    exact Nat.add_le_add_left (ih (by omega)) _

/-- The character that does not fit is all that is missing. -/
theorem min_le_width_cutChars (limit : Nat) (chars : List Char) :
    min limit (width chars) ≤ width (cutChars limit chars) + 3 := by
  induction chars generalizing limit with
  | nil => exact Nat.le_trans (Nat.min_le_right _ _) (Nat.zero_le _)
  | cons char chars ih =>
    rw [cutChars, width_cons]
    split
    · have hrest := ih (limit - char.utf8Size)
      rw [width_cons]
      omega
    · have hchar := char.utf8Size_le_four
      omega

/-! ## The longest beginning -/

/-- What is kept of a text : a beginning that ends on a boundary within the limit, with no other
boundary between. -/
structure LongestWithin (text : String) (limit : Nat) (kept : String) : Prop where
  beginning : toBytes kept <+: toBytes text
  size_le : size kept ≤ limit
  on_boundary : isBoundary text (size kept) = true
  longest : ∀ index ≤ limit, isBoundary text index = true → index ≤ size kept

theorem exists_cut_append (text : String) (limit : Nat) :
    ∃ rest, cut text limit ++ rest = text := by
  obtain ⟨rest, hrest⟩ := cutChars_prefix limit text.toList
  refine ⟨String.ofList rest, ?_⟩
  rw [cut, ← String.ofList_append, hrest, String.ofList_toList]

theorem size_cut (text : String) (limit : Nat) :
    size (cut text limit) = width (cutChars limit text.toList) := by
  rw [size_eq_width, cut, String.toList_ofList]

theorem longestWithin_cut (text : String) (limit : Nat) :
    LongestWithin text limit (cut text limit) := by
  obtain ⟨rest, hrest⟩ := exists_cut_append text limit
  constructor
  · refine ⟨toBytes rest, ?_⟩
    rw [toBytes_eq, toBytes_eq, ← List.flatMap_append, ← String.toList_append, hrest, ← toBytes_eq]
  · rw [size_cut]
    exact width_cutChars_le limit _
  · exact isBoundary_iff.mpr ⟨_, rest, hrest, rfl⟩
  · intro index hindex hboundary
    obtain ⟨front, back, rfl, rfl⟩ := isBoundary_iff.mp hboundary
    rw [size_eq_width] at hindex
    rw [size_cut, String.toList_append, size_eq_width]
    exact width_le_cutChars hindex

theorem min_le_size_cut (text : String) (limit : Nat) :
    min limit (size text) ≤ size (cut text limit) + 3 := by
  rw [size_cut, size_eq_width]
  exact min_le_width_cutChars limit _

/-- The boundary that the search ends at is the end of the characters that fit. -/
theorem boundaryFrom?_eq (text : String) (limit : Nat) :
    boundaryFrom? text limit = some (size (cut text limit)) :=
  have hlongest := longestWithin_cut text limit
  boundaryFrom?_eq_some hlongest.on_boundary hlongest.size_le hlongest.longest

/-- Cutting on the last boundary keeps the characters that fit. -/
theorem cutBack?_eq (text : String) (limit : Nat) :
    cutBack? text limit = some (cut text limit) := by
  unfold cutBack?
  split
  · rename_i hfits
    rw [cut_of_le hfits]
  · obtain ⟨rest, hrest⟩ := exists_cut_append text limit
    rw [boundaryFrom?_eq, Option.bind_some, before?_eq_some hrest]

/-- Of every text the longest beginning within a limit is kept that ends on a character
boundary. The search for it ends there, without passing the start, and in at most three steps
from the limit. A monitor that is given the name of an access point has such a beginning of it
waiting to be written. -/
theorem keeps_longest_beginning (text : String) (limit : Nat) (monitor : Monitor) (apn : String) :
    (∃ kept, cutBack? text limit = some kept ∧ LongestWithin text limit kept ∧
        (kept = text ↔ size text ≤ limit) ∧
        boundaryFrom? text (min limit (size text)) = some (size kept) ∧
        min limit (size text) ≤ size kept + 3) ∧
      ∃ name, cutBack? apn maxApnBytes = some name ∧
        (monitor.configureApn apn).pendingApn = some name ∧
        toBytes name <+: toBytes apn ∧ size name ≤ maxApnBytes ∧
        min maxApnBytes (size apn) ≤ size name + 3 := by
  have hlongest := longestWithin_cut text limit
  have hname := longestWithin_cut apn maxApnBytes
  have hwhole : cut text limit = text ↔ size text ≤ limit :=
    ⟨fun h => h ▸ hlongest.size_le, cut_of_le⟩
  have hsearch : boundaryFrom? text (min limit (size text)) = some (size (cut text limit)) := by
    rw [boundaryFrom?_eq]
    rcases Nat.le_total limit (size text) with hlong | hshort
    · rw [Nat.min_eq_left hlong]
    · rw [Nat.min_eq_right hshort, cut_of_le (Nat.le_refl _), cut_of_le hshort]
  exact ⟨⟨_, cutBack?_eq text limit, hlongest, hwhole, hsearch, min_le_size_cut text limit⟩,
    _, cutBack?_eq apn maxApnBytes, rfl, hname.beginning, hname.size_le,
    min_le_size_cut apn maxApnBytes⟩

-- The limit is inside the second character, and the search goes back to where it begins.
example : cutBack? "héllo" 2 = some "h" ∧ boundaryFrom? "héllo" 2 = some 1 := by
  decide +kernel

end CellStation.Text
