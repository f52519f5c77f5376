import CellStation.Ring
import Mathlib.Data.List.Basic

/-!
# Rings and bounded lists

A queue is asked to take bytes, to hand out its oldest and to drop them. Each of these is a
`Ring.Call`, in any order. A `BoundedList` answers them from a list, to which nothing is
appended that does not fit. A ring answers them from its store, and stands for the list of the
bytes in it (`Ring.StandsFor`).

The replies differ in one place only (`Ring.Reply.Meets`) : a front is what lies in the store
without a break, and may be a part of the list. When it is handed out and consumed, either the
queue is empty and starts afresh, or the head has come round to the start of the store, and the
rest lies there without a break. So a queue is emptied in at most two rounds
(`Ring.length_fronts_le`). `Ring.replies_meet_list` says this of every run.
-/

namespace CellStation

namespace Ring

/-! ## Calls -/

/-- What is asked of a queue. -/
inductive Call where
  | push (byte : UInt8)
  | pushAll (bytes : List UInt8)
  | pop
  | peek
  | front
  | consume (count : Nat)
  | clear
  deriving DecidableEq, Repr

/-- What a queue replies. -/
inductive Reply where
  /-- The bytes were appended, or refused. -/
  | appended (fits : Bool)
  /-- The oldest byte, if there is one. -/
  | oldest (byte : Option UInt8)
  /-- The oldest bytes. -/
  | front (bytes : List UInt8)
  | done
  deriving DecidableEq, Repr

/-- The reply of a ring to a call, and the ring behind it. -/
def call (ring : Ring) : Call → Reply × Ring
  | .push byte => (.appended (ring.push? byte).isSome, (ring.push? byte).getD ring)
  | .pushAll bytes => (.appended (ring.pushAll? bytes).isSome, (ring.pushAll? bytes).getD ring)
  | .pop => (.oldest (ring.pop?.map Prod.fst), (ring.pop?.map Prod.snd).getD ring)
  | .peek => (.oldest ring.peek?, ring)
  | .front => (.front ring.front, ring)
  | .consume count => (.done, ring.consume count)
  | .clear => (.done, ring.clear)

end Ring

/-- A list of at most `capacity` bytes. -/
structure BoundedList (capacity : Nat) where
  bytes : List UInt8
  length_le : bytes.length ≤ capacity

namespace BoundedList

variable {capacity : Nat}

/-- No bytes. -/
def empty : BoundedList capacity := ⟨[], Nat.zero_le _⟩

/-- Append all bytes, or none if they do not fit. -/
def append (list : BoundedList capacity) (bytes : List UInt8) : Ring.Reply × BoundedList capacity :=
  if fits : (list.bytes ++ bytes).length ≤ capacity then
    (.appended true, ⟨list.bytes ++ bytes, fits⟩)
  else (.appended false, list)

/-- Drop up to `count` of the first bytes. -/
def drop (list : BoundedList capacity) (count : Nat) : BoundedList capacity :=
  ⟨list.bytes.drop count, by
    rw [List.length_drop]
    exact Nat.le_trans (Nat.sub_le _ _) list.length_le⟩

@[simp] theorem bytes_drop (list : BoundedList capacity) (count : Nat) :
    (list.drop count).bytes = list.bytes.drop count := rfl

/-- The reply of a list to a call, and the list behind it. -/
def call (list : BoundedList capacity) : Ring.Call → Ring.Reply × BoundedList capacity
  | .push byte => list.append [byte]
  | .pushAll bytes => list.append bytes
  | .pop => (.oldest list.bytes.head?, list.drop 1)
  | .peek => (.oldest list.bytes.head?, list)
  | .front => (.front list.bytes, list)
  | .consume count => (.done, list.drop count)
  | .clear => (.done, empty)

end BoundedList

namespace Ring

/-- The replies to calls in a row, and the queue behind them. -/
def run {σ : Type} (call : σ → Call → Reply × σ) : σ → List Call → List Reply × σ
  | queue, [] => ([], queue)
  | queue, next :: calls =>
    ((call queue next).1 :: (run call (call queue next).2 calls).1,
      (run call (call queue next).2 calls).2)

/-- A reply is as good as the reply of a list : a front may be a part of the list, if there is
something in it when there is something in the list. -/
inductive Reply.Meets : Reply → Reply → Prop
  | same (reply : Reply) : Meets reply reply
  | front {run bytes : List UInt8} (first : run <+: bytes) (some : bytes ≠ [] → run ≠ []) :
    Meets (.front run) (.front bytes)

variable {ring : Ring} {capacity : Nat} {list : BoundedList capacity}

/-! ## What the calls leave -/

/-- A ring of the capacity holds the bytes of a list, in order. -/
structure StandsFor (ring : Ring) (list : BoundedList capacity) : Prop where
  capacity_eq : ring.capacity = capacity
  toList_eq : ring.toList = list.bytes

theorem standsFor_empty (capacity : Nat) :
    (empty capacity).StandsFor (BoundedList.empty : BoundedList capacity) :=
  ⟨capacity_empty capacity, rfl⟩

/-- One byte is pushed as a row of one byte is. -/
theorem push?_eq_pushAll? (ring : Ring) (byte : UInt8) :
    ring.push? byte = ring.pushAll? [byte] := by
  by_cases room : ring.size < ring.capacity
  · have hfits : [byte].length ≤ ring.available := by
      rw [List.length_singleton, available]
      omega
    rw [push?, pushAll?, dif_pos room, if_pos hfits, fill, dif_pos room, fill]
  · have hfull : ¬ [byte].length ≤ ring.available := by
      rw [List.length_singleton, available]
      omega
    rw [push?, pushAll?, dif_neg room, if_neg hfull]

theorem StandsFor.append (h : ring.StandsFor list) (bytes : List UInt8) :
    (Reply.appended (ring.pushAll? bytes).isSome).Meets (list.append bytes).1 ∧
      ((ring.pushAll? bytes).getD ring).StandsFor (list.append bytes).2 := by
  have hroom : bytes.length ≤ ring.available ↔ (list.bytes ++ bytes).length ≤ capacity := by
    have hbound := list.length_le
    rw [available_eq, h.capacity_eq, h.toList_eq, List.length_append]
    omega
  by_cases hfits : bytes.length ≤ ring.available
  · rw [pushAll?, if_pos hfits, BoundedList.append, dif_pos (hroom.mp hfits)]
    refine ⟨.same _, ?_, ?_⟩
    · exact (capacity_fill ring bytes).trans h.capacity_eq
    · exact (toList_fill ring bytes hfits).trans (by rw [h.toList_eq])
  · rw [pushAll?, if_neg hfits, BoundedList.append, dif_neg fun hlist => hfits (hroom.mpr hlist)]
    exact ⟨.same _, h⟩

theorem StandsFor.pop (h : ring.StandsFor list) :
    ring.pop?.map Prod.fst = list.bytes.head? ∧
      ((ring.pop?.map Prod.snd).getD ring).StandsFor (list.drop 1) := by
  have hpeek : ring.peek? = list.bytes.head? := by rw [peek?_eq_head?, h.toList_eq]
  cases hhead : list.bytes.head? with
  | none =>
    have hnil : list.bytes = [] := List.head?_eq_none_iff.mp hhead
    rw [pop?, hpeek, hhead]
    refine ⟨rfl, h.capacity_eq, ?_⟩
    exact h.toList_eq.trans (by rw [BoundedList.bytes_drop, hnil, List.drop_nil])
  | some byte =>
    rw [pop?, hpeek, hhead]
    refine ⟨rfl, h.capacity_eq, ?_⟩
    exact (toList_advance ring 1).trans (by rw [h.toList_eq, BoundedList.bytes_drop])

theorem StandsFor.consume (h : ring.StandsFor list) (count : Nat) :
    (ring.consume count).StandsFor (list.drop count) :=
  ⟨(capacity_consume ring count).trans h.capacity_eq,
    (toList_consume ring count).trans (by rw [h.toList_eq, BoundedList.bytes_drop])⟩

/-! ## Fronts -/

theorem length_front (ring : Ring) :
    ring.front.length = min (ring.capacity - ring.head) ring.size := by
  rw [front_eq_take, List.length_take, length_toList]

/-- There is something in the front of a queue that is not empty. -/
theorem front_ne_nil (h : ring.size ≠ 0) : ring.front ≠ [] := by
  have hle := ring.size_le
  have hhead : ring.head < ring.store.size := ring.head_lt (by omega)
  rw [← List.length_pos_iff_ne_nil, length_front, capacity]
  omega

theorem front_prefix (ring : Ring) : ring.front <+: ring.toList := by
  rw [front_eq_take]
  exact List.take_prefix _ _

theorem StandsFor.front (h : ring.StandsFor list) :
    (Reply.front ring.front).Meets (.front list.bytes) := by
  rw [← h.toList_eq]
  refine .front ring.front_prefix fun hbytes => front_ne_nil fun hempty => hbytes ?_
  rw [← List.length_eq_zero_iff, length_toList, hempty]

theorem size_consume (ring : Ring) (count : Nat) :
    (ring.consume count).size = ring.size - count := by
  rw [← length_toList, toList_consume, List.length_drop, length_toList]

/-- The fronts of a queue that is asked for its front, and told to drop it, until it is empty. -/
def fronts (ring : Ring) : List (List UInt8) :=
  if ring.size = 0 then [] else ring.front :: (ring.consume ring.front.length).fronts
termination_by ring.size
decreasing_by
  rename_i h
  have hfront := List.length_pos_iff_ne_nil.mpr (front_ne_nil h)
  rw [size_consume]
  omega

/-- The fronts are the whole queue, in order. -/
theorem flatten_fronts (ring : Ring) : ring.fronts.flatten = ring.toList := by
  induction ring using fronts.induct with
  | case1 ring h =>
    rw [fronts, if_pos h, List.flatten_nil, ← List.length_eq_zero_iff.mp (by rw [length_toList, h])]
  | case2 ring h ih =>
    obtain ⟨rest, hrest⟩ := ring.front_prefix
    rw [fronts, if_neg h, List.flatten_cons, ih, toList_consume, ← hrest, List.drop_left]

/-- Once a front is consumed, nothing is left, or the rest begins where the store does. -/
theorem head_consume_front (ring : Ring) : (ring.consume ring.front.length).head = 0 := by
  unfold Ring.consume
  split
  · rfl
  · rename_i hmore
    have hhead : ring.head < ring.store.size := ring.head_lt (by have := ring.size_le; omega)
    have hround : ring.head + ring.front.length = ring.capacity := by
      rw [length_front, capacity] at hmore ⊢
      omega
    exact (congrArg (· % ring.capacity) hround).trans (Nat.mod_self _)

/-- What begins where the store does is handed out at once. -/
theorem length_fronts_of_head {ring : Ring} (h : ring.head = 0) : ring.fronts.length ≤ 1 := by
  by_cases hempty : ring.size = 0
  · rw [fronts, if_pos hempty]
    exact Nat.zero_le 1
  · have hall : (ring.consume ring.front.length).size = 0 := by
      have hle := ring.size_le
      rw [size_consume, length_front, h, capacity]
      omega
    rw [fronts, if_neg hempty, fronts, if_pos hall]
    exact Nat.le_refl 1

/-- A queue is emptied in at most two rounds. -/
theorem length_fronts_le (ring : Ring) : ring.fronts.length ≤ 2 := by
  by_cases hempty : ring.size = 0
  · rw [fronts, if_pos hempty]
    exact Nat.zero_le 2
  · rw [fronts, if_neg hempty, List.length_cons]
    exact Nat.succ_le_succ (length_fronts_of_head ring.head_consume_front)

/-! ## Runs -/

/-- One call : the reply meets that of the list, and the ring goes on standing for it. -/
theorem StandsFor.call (h : ring.StandsFor list) (next : Call) :
    (ring.call next).1.Meets (list.call next).1 ∧
      (ring.call next).2.StandsFor (list.call next).2 := by
  cases next with
  | push byte =>
    rw [Ring.call, push?_eq_pushAll?]
    exact h.append [byte]
  | pushAll bytes => exact h.append bytes
  | pop =>
    obtain ⟨hbyte, hrest⟩ := h.pop
    rw [Ring.call, hbyte]
    exact ⟨.same _, hrest⟩
  | peek =>
    rw [Ring.call, peek?_eq_head?, h.toList_eq]
    exact ⟨.same _, h⟩
  | front => exact ⟨h.front, h⟩
  | consume count => exact ⟨.same _, h.consume count⟩
  | clear => exact ⟨.same _, h.capacity_eq, toList_clear ring⟩

theorem StandsFor.run (h : ring.StandsFor list) (calls : List Call) :
    List.Forall₂ Reply.Meets (run Ring.call ring calls).1 (run BoundedList.call list calls).1 ∧
      (run Ring.call ring calls).2.StandsFor (run BoundedList.call list calls).2 := by
  induction calls generalizing ring list with
  | nil => exact ⟨.nil, h⟩
  | cons next calls ih =>
    obtain ⟨hreply, hnext⟩ := h.call next
    obtain ⟨hreplies, hlast⟩ := ih hnext
    exact ⟨.cons hreply hreplies, hlast⟩

/-- A new ring replies to any calls as a bounded list does, fronts apart, and holds the bytes of
that list in a store of the given size. What it holds and what is free make up its capacity, and
its fronts give all it holds in at most two rounds. -/
theorem replies_meet_list (capacity : Nat) (calls : List Call) :
    let kept := run Ring.call (empty capacity) calls
    let list := run BoundedList.call (BoundedList.empty : BoundedList capacity) calls
    List.Forall₂ Reply.Meets kept.1 list.1 ∧
      kept.2.toList = list.2.bytes ∧ kept.2.store.size = capacity ∧
      kept.2.size = list.2.bytes.length ∧ kept.2.size + kept.2.available = capacity ∧
      kept.2.fronts.flatten = list.2.bytes ∧ kept.2.fronts.length ≤ 2 := by
  intro kept list
  obtain ⟨hreplies, hkept⟩ := (standsFor_empty capacity).run calls
  have hsize : kept.2.size = list.2.bytes.length := by
    rw [← length_toList]
    exact congrArg List.length hkept.toList_eq
  have hroom : kept.2.size + kept.2.available = capacity := by
    have hbound := list.2.length_le
    have hcap : kept.2.capacity = capacity := hkept.capacity_eq
    rw [available, hcap]
    omega
  exact ⟨hreplies, hkept.toList_eq, hkept.capacity_eq, hsize, hroom,
    (flatten_fronts _).trans hkept.toList_eq, length_fronts_le _⟩

-- The bytes go round the end of the store, and the front is a part of them.
example :
    (run Ring.call (empty 4) [.pushAll [1, 2, 3], .consume 2, .pushAll [4, 5, 6], .front]).1 =
      [.appended true, .done, .appended true, .front [3, 4]] := by
  decide

end Ring

end CellStation
