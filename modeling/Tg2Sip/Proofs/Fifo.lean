import Tg2Sip.Lib.Cyclic
import Tg2Sip.Lib.Machine
import Tg2Sip.RingBuffer

/-! The ring buffer as a queue. Both sides compute with indices modulo the word size, and
the results are what they would be with unbounded numbers. -/

namespace Tg2Sip.Voip
open Lib

/-- A queue with a bound. -/
structure Fifo (α : Type) where
  bound : Nat
  samples : List α := []

namespace Fifo
variable {α : Type}

def push (queue : Fifo α) (data : List α) : Fifo α :=
  { queue with samples := queue.samples ++ data.take (queue.bound - queue.samples.length) }

def pop [Zero α] (queue : Fifo α) (count : Nat) : List α × Fifo α :=
  (queue.samples.take count ++ List.replicate (count - queue.samples.length) 0,
    { queue with samples := queue.samples.drop count })

def call [Zero α] (queue : Fifo α) : RingBuffer.Call α → Fifo α × Option (List α)
  | .push data samples => (queue.push ((List.range samples.toNat).map data), none)
  | .pop samples => ((queue.pop samples.toNat).2, some (queue.pop samples.toNat).1)

end Fifo

namespace RingBuffer
variable {α : Type}

/-- The indices are in range, and the sum of two of them and the capacity is a word. -/
structure Sound (ring : RingBuffer α) : Prop where
  positive : 0 < ring.capacity.toNat
  small : ring.capacity.toNat ≤ 2 ^ 63
  head : ring.head.toNat < ring.capacity.toNat
  tail : ring.tail.toNat < ring.capacity.toNat

section Arithmetic
variable {ring other : RingBuffer α} {head tail index : UInt64}

theorem slot_congr (same : other.capacity = ring.capacity) (i : Nat) : other.slot index i = ring.slot index i := by
  simp only [slot, same]

theorem occupied_toNat (small : ring.capacity.toNat ≤ 2 ^ 63) (inside : head.toNat < ring.capacity.toNat)
    (bounded : tail.toNat < ring.capacity.toNat) :
    (ring.occupied head tail).toNat = (head.toNat + ring.capacity.toNat - tail.toNat) % ring.capacity.toNat := by
  unfold occupied
  rw [UInt64.toNat_mod, UInt64.toNat_add, UInt64.toNat_sub]
  congr 1
  omega

/-- The occupancy of a window that starts at the tail and ends at the head is its length. -/
theorem occupied_length (small : ring.capacity.toNat ≤ 2 ^ 63) (inside : tail.toNat < ring.capacity.toNat)
    {length : Nat} (room : length < ring.capacity.toNat)
    (ends : head.toNat = (tail.toNat + length) % ring.capacity.toNat) :
    (ring.occupied head tail).toNat = length := by
  have bounded : head.toNat < ring.capacity.toNat := ends ▸ Nat.mod_lt _ (by omega)
  rw [occupied_toNat small bounded inside, ends, Cyclic.distance inside room]

theorem slot_toNat (small : ring.capacity.toNat ≤ 2 ^ 63) (inside : index.toNat < ring.capacity.toNat) {i : Nat}
    (near : i < ring.capacity.toNat) : ring.slot index i = (index.toNat + i) % ring.capacity.toNat := by
  unfold slot
  rw [UInt64.toNat_mod, UInt64.toNat_add, UInt64.toNat_ofNat_of_lt' (by simp only [UInt64.size]; omega)]
  congr 1
  omega

theorem slot_lt (positive : 0 < ring.capacity.toNat) (i : Nat) : ring.slot index i < ring.capacity.toNat := by
  unfold slot
  rw [UInt64.toNat_mod]
  exact Nat.mod_lt _ positive

theorem advance_toNat {capacity : UInt64} (samples : UInt64) (small : capacity.toNat ≤ 2 ^ 63)
    (inside : index.toNat < capacity.toNat) (near : samples.toNat < capacity.toNat) :
    ((index + samples) % capacity).toNat = (index.toNat + samples.toNat) % capacity.toNat := by
  rw [UInt64.toNat_mod, UInt64.toNat_add]
  congr 1
  omega

theorem accepts_toNat (samples : UInt64) (positive : 0 < ring.capacity.toNat) {length : Nat}
    (counted : (ring.occupied head tail).toNat = length) (room : length < ring.capacity.toNat) :
    (ring.accepts head tail samples).toNat = min samples.toNat (ring.capacity.toNat - 1 - length) := by
  have available : (ring.capacity - 1 - ring.occupied head tail).toNat = ring.capacity.toNat - 1 - length := by
    have word := ring.capacity.toNat_lt
    have one : (1 : UInt64).toNat = 1 := rfl
    rw [UInt64.toNat_sub, UInt64.toNat_sub, counted, one]
    omega
  unfold accepts
  simp only [gt_iff_lt, UInt64.lt_iff_toNat_lt, available]
  split
  next more => rw [available]; omega
  next fits => omega

theorem copies_toNat (samples : UInt64) {length : Nat} (counted : (ring.occupied head tail).toNat = length) :
    (ring.copies head tail samples).toNat = min samples.toNat length := by
  unfold copies
  simp only [UInt64.lt_iff_toNat_lt, counted]
  split
  next fewer => omega
  next all => rw [counted]; omega

end Arithmetic

/-- The samples between the tail and the head. -/
def queued (ring : RingBuffer α) : List α :=
  Cyclic.window ring.buffer ring.capacity.toNat ring.tail.toNat (ring.occupied ring.head ring.tail).toNat

/-- A buffer that holds the samples of a queue. -/
structure Holds (ring : RingBuffer α) (samples : List α) : Prop where
  sound : ring.Sound
  room : samples.length < ring.capacity.toNat
  ends : ring.head.toNat = (ring.tail.toNat + samples.length) % ring.capacity.toNat
  cells : Cyclic.window ring.buffer ring.capacity.toNat ring.tail.toNat samples.length = samples

variable {ring : RingBuffer α} {queue : List α}

theorem Holds.occupied (holds : ring.Holds queue) : (ring.occupied ring.head ring.tail).toNat = queue.length :=
  occupied_length holds.sound.small holds.sound.tail holds.room holds.ends

theorem Holds.queued (holds : ring.Holds queue) : ring.queued = queue := by
  unfold RingBuffer.queued
  rw [holds.occupied, holds.cells]

theorem Sound.holds (sound : ring.Sound) : ring.Holds ring.queued := by
  have counted := occupied_toNat sound.small sound.head sound.tail
  have bounded := Nat.mod_lt (ring.head.toNat + ring.capacity.toNat - ring.tail.toNat) sound.positive
  have length :
      ring.queued.length = (ring.head.toNat + ring.capacity.toNat - ring.tail.toNat) % ring.capacity.toNat := by
    simp [RingBuffer.queued, counted]
  refine ⟨sound, by rw [length]; exact bounded, ?_, ?_⟩
  · rw [length, Nat.add_mod_mod, show ring.tail.toNat + (ring.head.toNat + ring.capacity.toNat - ring.tail.toNat) =
      ring.head.toNat + ring.capacity.toNat by have := sound.tail; omega, Nat.add_mod_right,
        Nat.mod_eq_of_lt sound.head]
  · rw [length, ← counted]
    rfl

theorem holds_new [Zero α] {capacity : UInt64} (positive : 0 < capacity.toNat) (small : capacity.toNat ≤ 2 ^ 63) :
    (new capacity : RingBuffer α).Holds [] :=
  ⟨⟨positive, small, positive, positive⟩, positive, (Nat.zero_mod _).symm, rfl⟩

/-- The loop of `push` appends to the window one sample after the other. -/
theorem Holds.writes (holds : ring.Holds queue) (data : Nat → α) (count : Nat)
    (room : queue.length + count < ring.capacity.toNat) :
    let written := (List.range count).foldl (fun written i => written.write ring.head data i) ring
    written.capacity = ring.capacity ∧ written.head = ring.head ∧ written.tail = ring.tail ∧
      Cyclic.window written.buffer ring.capacity.toNat ring.tail.toNat (queue.length + count) =
          queue ++ (List.range count).map data := by
  induction count with
  | zero => simpa using holds.cells
  | succ count ih =>
    obtain ⟨capacity, head, tail, cells⟩ := ih (by omega)
    rw [List.range_succ, List.foldl_append, List.foldl_cons, List.foldl_nil, List.map_append, List.map_singleton]
    refine ⟨capacity, head, tail, ?_⟩
    have place : ring.slot ring.head count = (ring.tail.toNat + (queue.length + count)) % ring.capacity.toNat := by
      rw [slot_toNat holds.sound.small holds.sound.head (by omega), holds.ends, Nat.mod_add_mod, Nat.add_assoc]
    generalize (List.range count).foldl (fun written i => written.write ring.head data i) ring = written at *
    simp only [write]
    rw [slot_congr capacity, place, ← Nat.add_assoc queue.length, Cyclic.window_extend (by omega), cells,
      List.append_assoc]

theorem Holds.push (holds : ring.Holds queue) (data : Nat → α) (samples : UInt64) :
    (ring.push data samples).Holds
      (queue ++ ((List.range samples.toNat).map data).take (ring.capacity.toNat - 1 - queue.length)) ∧
      (ring.push data samples).capacity = ring.capacity := by
  have accepted := accepts_toNat samples holds.sound.positive holds.occupied holds.room
  have taken : ((List.range samples.toNat).map data).take (ring.capacity.toNat - 1 - queue.length) =
      (List.range (ring.accepts ring.head ring.tail samples).toNat).map data := by
    rw [accepted, ← List.map_take, List.take_range, Nat.min_comm]
  rw [taken]
  unfold RingBuffer.push
  dsimp only
  split
  next none => simpa [none] using holds
  next some =>
    obtain ⟨capacity, head, tail, cells⟩ := holds.writes data (ring.accepts ring.head ring.tail samples).toNat
      (by have := holds.room; omega)
    have advanced := advance_toNat (ring.accepts ring.head ring.tail samples) holds.sound.small
      holds.sound.head (by have := holds.sound.positive; omega)
    generalize (List.range (ring.accepts ring.head ring.tail samples).toNat).foldl _ ring = written at *
    generalize ring.accepts ring.head ring.tail samples = count at *
    have stored : (written.storeHead ring.head count).head.toNat =
        (ring.head.toNat + count.toNat) % ring.capacity.toNat := by
      simp only [storeHead, capacity, advanced]
    have same : (written.storeHead ring.head count).capacity = ring.capacity := capacity
    have kept : (written.storeHead ring.head count).tail = ring.tail := tail
    have inside := Nat.mod_lt (ring.head.toNat + count.toNat) holds.sound.positive
    have room := holds.room
    have longer : (queue ++ (List.range count.toNat).map data).length = queue.length + count.toNat := by simp
    refine ⟨⟨⟨?_, ?_, ?_, ?_⟩, ?_, ?_, ?_⟩, same⟩
    · rw [same]; exact holds.sound.positive
    · rw [same]; exact holds.sound.small
    · rw [stored, same]; exact inside
    · rw [kept, same]; exact holds.sound.tail
    · rw [longer, same]; omega
    · rw [stored, kept, longer, same, holds.ends, Nat.mod_add_mod, Nat.add_assoc]
    · rw [longer, kept, same]; exact cells

theorem Holds.pop [Zero α] (holds : ring.Holds queue) (samples : UInt64) :
    (ring.pop samples).1 = queue.take samples.toNat ++ List.replicate (samples.toNat - queue.length) 0 ∧
      (ring.pop samples).2.Holds (queue.drop samples.toNat) ∧ (ring.pop samples).2.capacity = ring.capacity := by
  have copied := copies_toNat samples holds.occupied
  have near : (ring.copies ring.head ring.tail samples).toNat < ring.capacity.toNat := by have := holds.room; omega
  have advanced := advance_toNat (ring.copies ring.head ring.tail samples) holds.sound.small
    holds.sound.tail near
  have inside := Nat.mod_lt (ring.tail.toNat + (ring.copies ring.head ring.tail samples).toNat) holds.sound.positive
  refine ⟨?_, ⟨⟨holds.sound.positive, holds.sound.small, holds.sound.head, ?_⟩, ?_, ?_, ?_⟩, rfl⟩
  · have read : (List.range (ring.copies ring.head ring.tail samples).toNat).map
        (fun i => ring.buffer (ring.slot ring.tail i)) =
          Cyclic.window ring.buffer ring.capacity.toNat ring.tail.toNat
            (ring.copies ring.head ring.tail samples).toNat := by
      refine List.map_congr_left fun i member => ?_
      rw [slot_toNat holds.sound.small holds.sound.tail (by have := List.mem_range.mp member; omega)]
    simp only [RingBuffer.pop]
    rw [read, copied, ← Cyclic.take_window, holds.cells]
    congr 2
    omega
  · simp only [RingBuffer.pop, storeTail, advanced]
    exact inside
  · have := holds.room
    simp only [RingBuffer.pop, storeTail, List.length_drop]
    omega
  · simp only [RingBuffer.pop, storeTail, advanced, List.length_drop]
    rw [holds.ends, Nat.mod_add_mod, copied]
    congr 1
    omega
  · simp only [RingBuffer.pop, storeTail, advanced, List.length_drop]
    rw [Cyclic.window_mod, copied]
    have rest := congrArg (List.drop (min samples.toNat queue.length)) holds.cells
    rw [Cyclic.drop_window] at rest
    have exact_drop : queue.drop (min samples.toNat queue.length) = queue.drop samples.toNat := by
      by_cases fewer : samples.toNat ≤ queue.length
      · rw [Nat.min_eq_left fewer]
      · rw [Nat.min_eq_right (by omega), List.drop_length, List.drop_eq_nil_of_le (by omega)]
    rw [← exact_drop, ← rest]
    congr 1
    omega

/-- A buffer stands for a queue with one place less than it has slots. -/
structure Refines (ring : RingBuffer α) (queue : Fifo α) : Prop where
  holds : ring.Holds queue.samples
  bound : queue.bound = ring.capacity.toNat - 1

theorem Refines.call [Zero α] {queue : Fifo α} (refines : ring.Refines queue) (next : Call α) :
    (ring.call next).2 = (queue.call next).2 ∧ (ring.call next).1.Refines (queue.call next).1 ∧
      (ring.call next).1.capacity = ring.capacity := by
  cases next with
  | push data samples =>
    obtain ⟨holds, same⟩ := refines.holds.push data samples
    rw [← refines.bound] at holds
    exact ⟨rfl, ⟨holds, refines.bound.trans (congrArg (UInt64.toNat · - 1) same.symm)⟩, same⟩
  | pop samples =>
    obtain ⟨returned, holds, same⟩ := refines.holds.pop samples
    exact ⟨congrArg some returned, ⟨holds, refines.bound⟩, same⟩

/-- Whatever is called in turn, the buffer returns what a queue of at most `capacity - 1` samples
returns, its indices are in range, and its occupancy is the length of the queue. -/
theorem ring_buffer_is_fifo [Zero α] {capacity : UInt64} (positive : 0 < capacity.toNat)
    (small : capacity.toNat ≤ 2 ^ 63) (calls : List (Call α)) :
    let (ring, returned) := perform RingBuffer.call (new capacity) calls
    let (queue, expected) := perform Fifo.call ⟨capacity.toNat - 1, []⟩ calls
    returned = expected ∧ ring.queued = queue.samples ∧ queue.samples.length ≤ capacity.toNat - 1 ∧
      (ring.occupied ring.head ring.tail).toNat = queue.samples.length ∧
        (∀ samples, (ring.accepts ring.head ring.tail samples).toNat =
          min samples.toNat (capacity.toNat - 1 - queue.samples.length)) ∧
          ring.head < capacity ∧ ring.tail < capacity ∧ ∀ index i, ring.slot index i < capacity.toNat := by
  have simulates : Simulates (RingBuffer.call (α := α)) Fifo.call (fun _ _ => True)
      fun ring queue => ring.Refines queue ∧ ring.capacity = capacity := by
    rintro ring queue next ⟨refines, same⟩ -
    obtain ⟨returned, refines, kept⟩ := refines.call next
    exact ⟨returned, refines, kept.trans same⟩
  have started : (new capacity).Refines (⟨capacity.toNat - 1, []⟩ : Fifo α) := ⟨holds_new positive small, rfl⟩
  obtain ⟨returned, ⟨holds, bound⟩, same⟩ := simulates.perform ⟨started, rfl⟩ (admitted_always _ calls)
  generalize (perform RingBuffer.call (new capacity) calls) = left at *
  generalize (perform Fifo.call ⟨capacity.toNat - 1, []⟩ calls) = right at *
  obtain ⟨ring, outputs⟩ := left
  obtain ⟨queue, expected⟩ := right
  subst same
  have room : queue.samples.length < ring.capacity.toNat := holds.room
  refine ⟨returned, holds.queued, Nat.le_sub_one_of_lt room, holds.occupied,
    fun samples => accepts_toNat samples positive holds.occupied room, ?_, ?_, fun index i => slot_lt positive i⟩
  · exact UInt64.lt_iff_toNat_lt.mpr holds.sound.head
  · exact UInt64.lt_iff_toNat_lt.mpr holds.sound.tail

theorem four_slots_hold_three :
    (perform RingBuffer.call (new 4 : RingBuffer Int) [.push (fun i => i + 1) 5, .pop 2, .pop 2]).2 =
    [none, some [1, 2], some [3, 0]] :=
  (ring_buffer_is_fifo (by decide : 0 < (4 : UInt64).toNat) (by decide) _).1.trans (by decide)

end RingBuffer
end Tg2Sip.Voip
