/-!
# Bounded byte queues

A `Ring` holds at most `capacity` bytes in a circular store of exactly that size. The
oldest byte is at index `head`, and the bytes follow it in order, going round at the end
of the store. `Ring.toList` is the queue as a list, oldest byte first. What does not fit
is refused whole.

The position of the head can be seen : `Ring.front` hands out the oldest bytes up to the
end of the store only.
-/

namespace CellStation

/-- A bounded byte queue in a circular store. -/
structure Ring where
  store : Array UInt8
  head : Nat
  size : Nat
  size_le : size ≤ store.size
  head_lt : 0 < store.size → head < store.size

namespace Ring

/-- An empty queue. -/
def empty (capacity : Nat) : Ring where
  store := Array.replicate capacity 0
  head := 0
  size := 0
  size_le := Nat.zero_le _
  head_lt h := h

/-- Most bytes the queue can hold. -/
def capacity (ring : Ring) : Nat := ring.store.size

/-- Bytes that can still be pushed. -/
def available (ring : Ring) : Nat := ring.capacity - ring.size

/-- No byte is queued. -/
def isEmpty (ring : Ring) : Bool := ring.size == 0

/-- The oldest bytes, up to the end of the store. -/
def front (ring : Ring) : List UInt8 :=
  (ring.store.extract ring.head (ring.head + ring.size)).toList

/-- The byte `offset` places behind the head, going round at the end of the store. -/
def byteAt (ring : Ring) (offset : Nat) : UInt8 :=
  ring.store.getD ((ring.head + offset) % ring.capacity) 0

/-- The queued bytes, oldest first. -/
def toList (ring : Ring) : List UInt8 := (List.range ring.size).map ring.byteAt

/-- Write one byte behind the newest. -/
def put (ring : Ring) (byte : UInt8) (room : ring.size < ring.capacity) : Ring where
  store := ring.store.setIfInBounds ((ring.head + ring.size) % ring.capacity) byte
  head := ring.head
  size := ring.size + 1
  size_le := by rw [Array.size_setIfInBounds]; exact room
  head_lt h := by simpa using ring.head_lt (by simpa using h)

/-- Append one byte, unless the queue is full. -/
def push? (ring : Ring) (byte : UInt8) : Option Ring :=
  if room : ring.size < ring.capacity then some (ring.put byte room) else none

/-- Append bytes as long as there is room. -/
def fill : Ring → List UInt8 → Ring
  | ring, [] => ring
  | ring, byte :: bytes =>
    if room : ring.size < ring.capacity then (ring.put byte room).fill bytes else ring

/-- Append all bytes, or none if they do not fit. -/
def pushAll? (ring : Ring) (bytes : List UInt8) : Option Ring :=
  if bytes.length ≤ ring.available then some (ring.fill bytes) else none

/-- The oldest byte. -/
def peek? (ring : Ring) : Option UInt8 :=
  if ring.size = 0 then none else ring.store[ring.head]?

/-- Drop `count` bytes that are queued. The head moves on, round the store. -/
def advance (ring : Ring) (count : Nat) : Ring where
  store := ring.store
  head := (ring.head + count) % ring.capacity
  size := ring.size - count
  size_le := Nat.le_trans (Nat.sub_le _ _) ring.size_le
  head_lt h := Nat.mod_lt _ h

/-- Take the oldest byte off the queue. -/
def pop? (ring : Ring) : Option (UInt8 × Ring) :=
  ring.peek?.map fun byte => (byte, ring.advance 1)

/-- Drop every byte; the head goes back to the start of the store. -/
def clear (ring : Ring) : Ring where
  store := ring.store
  head := 0
  size := 0
  size_le := Nat.zero_le _
  head_lt h := h

/-- Drop up to `count` of the oldest bytes. An emptied queue starts afresh. -/
def consume (ring : Ring) (count : Nat) : Ring :=
  if ring.size ≤ count then ring.clear else ring.advance count

/-! ## The queue as a list -/

/-- Going round the store at most once. -/
theorem mod_of_lt_double {n capacity : Nat} (h : n < 2 * capacity) :
    n % capacity = if n < capacity then n else n - capacity := by
  split
  · exact Nat.mod_eq_of_lt ‹_›
  · rw [Nat.mod_eq_sub_mod (by omega), Nat.mod_eq_of_lt (by omega)]

@[simp] theorem length_toList (ring : Ring) : ring.toList.length = ring.size := by
  simp [toList]

@[simp] theorem toList_empty (capacity : Nat) : (empty capacity).toList = [] := rfl

@[simp] theorem toList_clear (ring : Ring) : ring.clear.toList = [] := rfl

theorem toList_put (ring : Ring) (byte : UInt8) (room : ring.size < ring.capacity) :
    (ring.put byte room).toList = ring.toList ++ [byte] := by
  have hcap : (ring.put byte room).capacity = ring.capacity := by simp [put, capacity]
  have hlast : (ring.put byte room).byteAt ring.size = byte := by
    have hlt : (ring.head + ring.size) % ring.capacity < ring.store.size :=
      Nat.mod_lt _ (by omega)
    simp [byteAt, hcap]
    simp [put, hlt]
  have hold : ∀ i ∈ List.range ring.size, (ring.put byte room).byteAt i = ring.byteAt i := by
    intro i hi
    have hi : i < ring.size := List.mem_range.mp hi
    have hne : (ring.head + ring.size) % ring.capacity ≠ (ring.head + i) % ring.capacity := by
      have hhead : ring.head < ring.capacity :=
        ring.head_lt (by simp only [capacity] at room; omega)
      rw [mod_of_lt_double (by omega), mod_of_lt_double (by omega)]
      split <;> split <;> omega
    simp [byteAt, hcap]
    simp [put, hne]
  rw [toList, toList, show (ring.put byte room).size = ring.size + 1 from rfl, List.range_succ,
    List.map_append, List.map_congr_left hold]
  simp [hlast]

@[simp] theorem capacity_put (ring : Ring) (byte : UInt8) (room : ring.size < ring.capacity) :
    (ring.put byte room).capacity = ring.capacity := by
  simp [put, capacity]

@[simp] theorem capacity_empty (capacity : Nat) : (empty capacity).capacity = capacity := by
  simp [empty, Ring.capacity]

@[simp] theorem capacity_fill (ring : Ring) (bytes : List UInt8) :
    (ring.fill bytes).capacity = ring.capacity := by
  induction bytes generalizing ring with
  | nil => rfl
  | cons byte bytes ih =>
    unfold fill
    split
    · rw [ih, capacity_put]
    · rfl

@[simp] theorem capacity_consume (ring : Ring) (count : Nat) :
    (ring.consume count).capacity = ring.capacity := by
  unfold consume
  split <;> rfl

/-- What is free is what the queued bytes leave. -/
theorem available_eq (ring : Ring) : ring.available = ring.capacity - ring.toList.length := by
  rw [length_toList, available]

theorem toList_push? (ring : Ring) (byte : UInt8) :
    (ring.push? byte).map toList =
      if ring.size < ring.capacity then some (ring.toList ++ [byte]) else none := by
  unfold push?
  split <;> simp_all [toList_put]

theorem toList_fill (ring : Ring) (bytes : List UInt8) :
    bytes.length ≤ ring.available → (ring.fill bytes).toList = ring.toList ++ bytes := by
  intro h
  induction bytes generalizing ring with
  | nil => simp [fill]
  | cons byte bytes ih =>
    simp only [available, List.length_cons] at h ih
    have room : ring.size < ring.capacity := by omega
    rw [fill, dif_pos room, ih _ (by rw [capacity_put]; simp only [put]; omega), toList_put]
    simp

theorem toList_pushAll? (ring : Ring) (bytes : List UInt8) :
    (ring.pushAll? bytes).map toList =
      if bytes.length ≤ ring.available then some (ring.toList ++ bytes) else none := by
  unfold pushAll?
  split
  · simp [toList_fill, *]
  · rfl

theorem toList_advance (ring : Ring) (count : Nat) :
    (ring.advance count).toList = ring.toList.drop count := by
  apply List.ext_getElem?
  intro i
  simp only [toList, advance, List.getElem?_drop, List.getElem?_map]
  by_cases h : count + i < ring.size
  · rw [List.getElem?_range h, List.getElem?_range (show i < ring.size - count by omega)]
    simp [byteAt, capacity, Nat.add_assoc]
  · simp [h, show ¬ i < ring.size - count by omega]

theorem toList_consume (ring : Ring) (count : Nat) :
    (ring.consume count).toList = ring.toList.drop count := by
  unfold consume
  split
  · rw [toList_clear, List.drop_of_length_le (by simpa)]
  · exact toList_advance ring count

/-- The front is the queue up to the end of the store. -/
theorem front_eq_take (ring : Ring) :
    ring.front = ring.toList.take (ring.capacity - ring.head) := by
  apply List.ext_getElem?
  intro i
  have hsize := ring.size_le
  simp only [front, toList, List.getElem?_take, List.getElem?_map, Array.getElem?_toList,
    Array.getElem?_extract, capacity]
  by_cases hi : i < ring.size
  · by_cases hend : i < ring.store.size - ring.head
    · have hlt : ring.head + i < ring.store.size := by omega
      rw [List.getElem?_range hi]
      simp [byteAt, capacity, Nat.mod_eq_of_lt hlt, hlt, hend]
      omega
    · simp [hend]
      omega
  · simp [hi]
    omega

/-- Bytes taken off a part of the front are the oldest of the queue. -/
theorem take_take_front (ring : Ring) {offered taken : Nat}
    (h : taken ≤ (ring.front.take offered).length) :
    (ring.front.take offered).take taken = ring.toList.take taken := by
  rw [front_eq_take, List.take_take, List.length_take] at h
  have hall : min (min taken offered) (ring.capacity - ring.head) = taken := by omega
  rw [front_eq_take, List.take_take, List.take_take, hall]

theorem peek?_eq_head? (ring : Ring) : ring.peek? = ring.toList.head? := by
  unfold peek?
  split
  · simp [toList, *]
  · have hhead : ring.head < ring.store.size := ring.head_lt (by have := ring.size_le; omega)
    obtain ⟨n, hn⟩ : ∃ n, ring.size = n + 1 := ⟨ring.size - 1, by omega⟩
    simp [toList, hn, List.range_succ_eq_map, byteAt, capacity, Nat.mod_eq_of_lt hhead, hhead]

/-- The oldest byte is the one taken off. -/
theorem toList_pop? (ring : Ring) :
    ring.pop?.map (fun popped => popped.1 :: popped.2.toList) = ring.toList.head?.map
      fun byte => byte :: ring.toList.tail := by
  rw [pop?, peek?_eq_head?]
  cases ring.toList.head? <;> simp [toList_advance]

end Ring

end CellStation
