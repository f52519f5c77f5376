/-!
# Clock readings and durations

Time is an input : every component is told the readings of one millisecond clock and never
reads it itself. A reading is a word of 64 bits. The sum of a reading and a duration may have
no room in one, and then the program stops (`Millis.later`).

A configuration gives durations to the nanosecond. A component that counts in milliseconds keeps
the whole ones only.
-/

namespace CellStation

/-- A reading of the clock, or a duration, in milliseconds. -/
abbrev Millis := UInt64

/-- The program has stopped at a sum that has no room in 64 bits. -/
structure Overflow where
  deriving DecidableEq, Repr

/-- The wording of the stop. -/
def Overflow.message (_ : Overflow) : String := "attempt to add with overflow"

namespace Millis

/-- The duration from `start` to `now`; none if the clock stands before `start`. -/
def since (now start : Millis) : Millis := if start ≤ now then now - start else 0

theorem toNat_since (now start : Millis) : (now.since start).toNat = now.toNat - start.toNat := by
  rw [since]
  split
  · rename_i h
    exact UInt64.toNat_sub_of_le _ _ h
  · rename_i h
    have hearlier : now.toNat ≤ start.toNat :=
      (Nat.le_total start.toNat now.toNat).resolve_left fun hle =>
        h (UInt64.le_iff_toNat_le.mpr hle)
    exact (Nat.sub_eq_zero_of_le hearlier).symm

/-- Time that has passed is no more than the reading. -/
theorem since_le (now start : Millis) : now.since start ≤ now := by
  rw [UInt64.le_iff_toNat_le, toNat_since]
  exact Nat.sub_le _ _

theorem lt_since_iff {now start duration : Millis} (h : start ≤ now) :
    duration < now.since start ↔ start.toNat + duration.toNat < now.toNat := by
  rw [since, if_pos h, UInt64.lt_iff_toNat_lt, UInt64.toNat_sub_of_le _ _ h]
  have := UInt64.le_iff_toNat_le.mp h
  omega

/-- The reading at which a duration has passed since `now`. -/
def later (now duration : Millis) : Except Overflow Millis :=
  if now.toNat + duration.toNat < UInt64.size then .ok (now + duration) else .error ⟨⟩

variable {now duration due : Millis}

theorem later_eq_ok_iff :
    now.later duration = .ok due ↔ due.toNat = now.toNat + duration.toNat := by
  rw [later]
  split
  · rename_i hroom
    have hsum : (now + duration).toNat = now.toNat + duration.toNat := by
      rw [UInt64.toNat_add, Nat.mod_eq_of_lt hroom]
    rw [Except.ok.injEq, ← UInt64.toNat_inj, hsum, eq_comm]
  · rename_i hfull
    have hdue := due.toNat_lt_size
    exact iff_of_false nofun (by omega)

theorem later_eq_error_iff {stop : Overflow} :
    now.later duration = .error stop ↔ UInt64.size ≤ now.toNat + duration.toNat := by
  rw [later]
  split
  · rename_i hroom
    exact iff_of_false nofun (Nat.not_le_of_lt hroom)
  · rename_i hfull
    exact iff_of_true rfl (Nat.le_of_not_lt hfull)

end Millis

/-- A clock moved by hand. -/
structure ManualClock where
  now : Millis
  deriving DecidableEq, Repr

namespace ManualClock

/-- Put the clock to a reading. -/
def set (_ : ManualClock) (reading : Millis) : ManualClock := ⟨reading⟩

/-- Let time pass. -/
def advance (clock : ManualClock) (duration : Millis) : Except Overflow ManualClock :=
  return ⟨← clock.now.later duration⟩

end ManualClock

/-- A duration : whole seconds, as many as a word of 64 bits counts, and nanoseconds. -/
structure Duration where
  nanos : Nat
  nanos_lt : nanos < UInt64.size * 1000000000
  deriving DecidableEq, Repr

namespace Duration

/-- So many milliseconds. -/
def ofMillis (count : Millis) : Duration :=
  ⟨count.toNat * 1000000, by have := count.toNat_lt_size; omega⟩

/-- The whole milliseconds of a duration. -/
def millis (duration : Duration) : Nat := duration.nanos / 1000000

/-- The whole milliseconds, or the largest word where there are more. -/
def clampedMillis (duration : Duration) : Millis := .ofNat (min duration.millis (UInt64.size - 1))

/-- The whole milliseconds, of more than a word counts the lowest 64 bits. -/
def lowMillis (duration : Duration) : Millis := .ofNat duration.millis

@[simp] theorem millis_ofMillis (count : Millis) : (ofMillis count).millis = count.toNat :=
  Nat.mul_div_cancel _ (by decide)

@[simp] theorem clampedMillis_ofMillis (count : Millis) :
    (ofMillis count).clampedMillis = count := by
  have hcount := count.toNat_lt_size
  rw [clampedMillis, millis_ofMillis, Nat.min_eq_left (by omega), UInt64.ofNat_toNat]

@[simp] theorem lowMillis_ofMillis (count : Millis) : (ofMillis count).lowMillis = count := by
  rw [lowMillis, millis_ofMillis, UInt64.ofNat_toNat]

end Duration

end CellStation
