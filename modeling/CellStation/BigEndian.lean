/-!
# Big-endian numbers

Numbers on the wire have their most significant byte first. `BigEndian.read` takes
any bytes to their number and `BigEndian.write` a number to a fixed count of bytes.
Reading what was written gives the number back, modulo `Nat.pow 256 width` (`read_write`),
and writing what was read gives the bytes back (`write_read`).
-/

namespace CellStation.BigEndian

/-- The number that bytes stand for, the first byte most significant. -/
def read (bytes : List UInt8) : Nat :=
  bytes.foldl (fun n b => n * 256 + b.toNat) 0

/-- The last `width` base-256 digits of `n`, the most significant first. -/
def write : Nat → Nat → List UInt8
  | 0, _ => []
  | width + 1, n => write width (n / 256) ++ [UInt8.ofNat n]

@[simp] theorem length_write (width n : Nat) : (write width n).length = width := by
  induction width generalizing n with
  | zero => rfl
  | succ width ih => simp [write, ih]

@[simp] theorem read_nil : read [] = 0 := rfl

theorem read_concat (bytes : List UInt8) (b : UInt8) :
    read (bytes ++ [b]) = read bytes * 256 + b.toNat := by
  simp [read]

theorem read_write (width n : Nat) : read (write width n) = n % Nat.pow 256 width := by
  induction width generalizing n with
  | zero => simp [write, Nat.mod_one]
  | succ width ih =>
    have last : (UInt8.ofNat n).toNat = n % 256 := by simp
    have more : Nat.pow 256 (width + 1) = 256 * Nat.pow 256 width := Nat.mul_comm _ _
    rw [write, read_concat, ih, last, more, Nat.mod_mul]
    omega

theorem write_read (bytes : List UInt8) : write bytes.length (read bytes) = bytes := by
  induction h : bytes.length generalizing bytes with
  | zero => rw [List.length_eq_zero_iff.mp h, write]
  | succ k ih =>
    obtain rfl | ⟨front, b, rfl⟩ := List.eq_nil_or_concat bytes
    · simp at h
    have hb := b.toNat_lt
    have hdiv : (read front * 256 + b.toNat) / 256 = read front := by omega
    have hlast : UInt8.ofNat (read front * 256 + b.toNat) = b := by
      apply UInt8.toNat_inj.mp
      have last : (UInt8.ofNat (read front * 256 + b.toNat)).toNat =
        (read front * 256 + b.toNat) % 256 := by simp
      omega
    rw [List.concat_eq_append, read_concat, write, hdiv, hlast, ih front (by simpa using h)]

theorem read_lt (bytes : List UInt8) : read bytes < Nat.pow 256 bytes.length := by
  have h := read_write bytes.length (read bytes)
  rw [write_read] at h
  rw [h]
  exact Nat.mod_lt _ (Nat.pow_pos (by decide))

end CellStation.BigEndian
