import CellStation.Text.Field
import Mathlib.Algebra.Ring.Nat
import Mathlib.Data.List.TakeWhile

/-!
# Texts that fit

A text within a limit is not cut (`Text.cut_of_le`), and a text without NUL that leaves room
for the terminator of a field is read from its bytes as it is (`Text.field_toBytes`).
-/

namespace CellStation.Text

theorem cutChars_of_le : ∀ {limit : Nat} {chars : List Char},
    (chars.map Char.utf8Size).sum ≤ limit → cutChars limit chars = chars
  | _, [], _ => by simp [cutChars]
  | limit, char :: rest, h => by
    simp only [List.map_cons, List.sum_cons] at h
    rw [cutChars, if_pos (by omega), cutChars_of_le (by omega)]

theorem size_eq_sum (text : String) : size text = (text.toList.map Char.utf8Size).sum := by
  rw [← length_toBytes, toBytes_eq, List.length_flatMap]
  simp only [String.length_utf8EncodeChar]

/-- A text within the limit is not cut. -/
theorem cut_of_le {text : String} {limit : Nat} (h : size text ≤ limit) :
    cut text limit = text := by
  rw [size_eq_sum] at h
  rw [cut, cutChars_of_le h, String.ofList_toList]

/-- A text without NUL that leaves room for the terminator is read as it is. -/
theorem field_toBytes {text : String} {limit : Nat} (hsize : size text < limit)
    (hnul : 0 ∉ toBytes text) : field (toBytes text) limit = text := by
  have hall : (toBytes text).takeWhile (· ≠ 0) = toBytes text := by
    rw [List.takeWhile_eq_self_iff]
    intro byte hmem
    rw [decide_eq_true_eq]
    rintro rfl
    exact hnul hmem
  have hle : (toBytes text).length ≤ limit - 1 := by
    rw [length_toBytes]
    omega
  rw [field, fieldBytes, List.take_of_length_le hle, hall, ofBytes_toBytes]

end CellStation.Text
