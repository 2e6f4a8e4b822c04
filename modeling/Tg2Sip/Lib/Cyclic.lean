import Mathlib.Data.List.Basic
import Mathlib.Data.Nat.ModEq
import Mathlib.Logic.Function.Basic

/-! Memory that is used in a circle: the cells from some position on, where positions
are counted modulo the capacity. Positions may be unbounded counters. -/

namespace Tg2Sip.Lib.Cyclic

universe u

variable {α : Type u} (memory : Nat → α) (capacity : Nat)

/-- A number of cells from a position on. -/
def window (start length : Nat) : List α := (List.range length).map fun i => memory ((start + i) % capacity)

@[simp] theorem length_window (start length : Nat) : (window memory capacity start length).length = length := by
  simp [window]

theorem window_succ (start length : Nat) : window memory capacity start (length + 1) =
    window memory capacity start length ++ [memory ((start + length) % capacity)] := by
  simp [window, List.range_succ]

@[simp] theorem window_mod (start length : Nat) :
    window memory capacity (start % capacity) length = window memory capacity start length := by
  simp [window]

theorem getElem_window {start length i : Nat} (inside : i < (window memory capacity start length).length) :
    (window memory capacity start length)[i] = memory ((start + i) % capacity) := by
  simp [window]

theorem take_window (start length count : Nat) :
    (window memory capacity start length).take count = window memory capacity start (min count length) := by
  apply List.ext_getElem
  · simp
  · intro i inside _
    rw [List.getElem_take, getElem_window, getElem_window]

theorem drop_window (start length count : Nat) :
    (window memory capacity start length).drop count = window memory capacity (start + count) (length - count) := by
  apply List.ext_getElem
  · simp
  · intro i inside _
    rw [List.getElem_drop, getElem_window, getElem_window, Nat.add_assoc]

variable {memory capacity}

/-- Two positions that are less than a round apart are different cells. -/
theorem apart {first second : Nat} (before : first < second) (near : second < first + capacity) :
    first % capacity ≠ second % capacity := by
  intro same
  have rounds : capacity ∣ second - first := (Nat.modEq_iff_dvd' before.le).mp same
  exact absurd (Nat.le_of_dvd (by omega) rounds) (by omega)

/-- Writing a cell that no position of the window has. -/
theorem window_update {start length slot : Nat} {value : α}
    (outside : ∀ i < length, (start + i) % capacity ≠ slot) :
    window (Function.update memory slot value) capacity start length = window memory capacity start length := by
  apply List.map_congr_left
  intro i inside
  exact Function.update_of_ne (outside i (List.mem_range.mp inside)) value memory

/-- Writing the cell behind a window that is not a full round. -/
theorem window_extend {start length : Nat} {value : α} (room : length < capacity) :
    window (Function.update memory ((start + length) % capacity) value) capacity start (length + 1) =
      window memory capacity start length ++ [value] := by
  rw [window_succ, Function.update_self, window_update]
  intro i inside
  exact apart (by omega) (by omega)

/-- How far a position is ahead of another, when it is less than a round. -/
theorem distance {start length : Nat} (inside : start < capacity) (room : length < capacity) :
    ((start + length) % capacity + capacity - start) % capacity = length := by
  have wrapped : (start + length) % capacity = if start + length < capacity then start + length
      else start + length - capacity := by
    split
    next below => exact Nat.mod_eq_of_lt below
    next above => rw [Nat.mod_eq_sub_mod (by omega), Nat.mod_eq_of_lt (by omega)]
  rw [wrapped]
  split
  next below =>
    rw [show start + length + capacity - start = length + capacity by omega, Nat.add_mod_right, Nat.mod_eq_of_lt room]
  next above => rw [show start + length - capacity + capacity - start = length by omega, Nat.mod_eq_of_lt room]

end Tg2Sip.Lib.Cyclic
