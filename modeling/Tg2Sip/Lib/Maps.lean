import Mathlib.Data.List.Basic
import Mathlib.Logic.Function.Basic

/-! Finite maps in the manner of `std::map`, as partial functions. `emplace` keeps
an entry that is already there; assignment through `operator[]` replaces it. -/

namespace Tg2Sip.Lib

universe u v

abbrev Map (κ : Type u) (ν : Type v) := κ → Option ν

namespace Map
variable {κ : Type u} {ν : Type v} [DecidableEq κ]

def empty : Map κ ν := fun _ => none

def emplace (map : Map κ ν) (key : κ) (value : ν) : Map κ ν :=
  match map key with
  | some _ => map
  | none => Function.update map key (some value)

def assign (map : Map κ ν) (key : κ) (value : ν) : Map κ ν := Function.update map key (some value)

def erase (map : Map κ ν) (key : κ) : Map κ ν := Function.update map key none

omit [DecidableEq κ] in
@[simp] theorem empty_apply (key : κ) : (empty : Map κ ν) key = none := rfl

@[simp] theorem assign_same (map : Map κ ν) (key : κ) (value : ν) : map.assign key value key = some value := by
  simp [assign]

@[simp] theorem assign_other (map : Map κ ν) {key other : κ} (value : ν) (different : other ≠ key) :
    map.assign key value other = map other := by
  simp [assign, different]

@[simp] theorem erase_same (map : Map κ ν) (key : κ) : map.erase key key = none := by
  simp [erase]

@[simp] theorem erase_other (map : Map κ ν) {key other : κ} (different : other ≠ key) :
    map.erase key other = map other := by
  simp [erase, different]

@[simp] theorem emplace_other (map : Map κ ν) {key other : κ} (value : ν) (different : other ≠ key) :
    map.emplace key value other = map other := by
  cases held : map key <;> simp [emplace, held, different]

/-- The only way `emplace` can leave a different value is an entry that was there before. -/
theorem emplace_same (map : Map κ ν) (key : κ) (value : ν) :
    map.emplace key value key = some ((map key).getD value) := by
  cases held : map key <;> simp [emplace, held]

/-- A map stays a part of another when an entry of the other is added. -/
theorem emplace_within {map whole : Map κ ν} {key : κ} {value : ν}
    (within : ∀ other held, map other = some held → whole other = some held) (listed : whole key = some value)
    (other : κ) (held : ν) (found : map.emplace key value other = some held) : whole other = some held := by
  by_cases same : other = key
  · subst same
    rw [emplace_same] at found
    cases old : map other with
    | none => rw [old] at found; exact found ▸ listed
    | some first => rw [old] at found; exact within other held (old.trans found)
  · rw [emplace_other map value same] at found
    exact within other held found

def emplaceAll (map : Map κ ν) (entries : List (κ × ν)) : Map κ ν :=
  entries.foldl (fun map entry => map.emplace entry.1 entry.2) map

@[simp] theorem emplaceAll_nil (map : Map κ ν) : map.emplaceAll [] = map := rfl

theorem emplaceAll_append (map : Map κ ν) (first second : List (κ × ν)) :
    map.emplaceAll (first ++ second) = (map.emplaceAll first).emplaceAll second := List.foldl_append

/-- What was there stays, and else the first entry of a key counts. -/
theorem emplaceAll_cases (map : Map κ ν) (entries : List (κ × ν)) (key : κ) :
    match map.emplaceAll entries key with
    | some value => map key = some value ∨ (key, value) ∈ entries
    | none => map key = none ∧ ∀ value, (key, value) ∉ entries := by
  induction entries generalizing map with
  | nil => cases held : map key <;> simp [held]
  | cons entry entries ih =>
    obtain ⟨other, first⟩ := entry
    have rest := ih (map.emplace other first)
    rw [show map.emplaceAll ((other, first) :: entries) = (map.emplace other first).emplaceAll entries from rfl]
    by_cases same : key = other
    · subst same
      rw [emplace_same] at rest
      split at rest
      next value found =>
        cases held : map key with
        | some old => exact rest.imp (fun same => by simpa [held] using same) (List.mem_cons_of_mem _)
        | none =>
          refine .inr ?_
          rcases rest with now | later
          · rw [held] at now
            cases now
            exact .head _
          · exact List.mem_cons_of_mem _ later
      next => exact absurd rest.1 (by simp)
    · rw [emplace_other _ _ same] at rest
      split at rest <;> simpa [same] using rest

/-- When no key has two values the entries are what the map holds, in whatever order they came. -/
theorem emplaceAll_iff {entries : List (κ × ν)} {key : κ} {value : ν}
    (single : ∀ other, (key, value) ∈ entries → (key, other) ∈ entries → value = other) :
    (empty : Map κ ν).emplaceAll entries key = some value ↔ (key, value) ∈ entries := by
  have found := emplaceAll_cases empty entries key
  split at found
  next other held =>
    have member := found.resolve_left (by simp)
    rw [held, Option.some.injEq]
    constructor
    · rintro rfl
      exact member
    · exact fun here => (single other here member).symm
  next held => simp [held, found.2 value]

end Map
end Tg2Sip.Lib
