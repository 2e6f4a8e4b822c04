import Mathlib.Data.List.Basic

/-! Computations that return or throw, and sequences of steps each of which may throw. -/

namespace Tg2Sip.Lib

universe u
variable {ε α β γ : Type u}

def Returns (computation : Except ε α) : Prop := ∃ value, computation = .ok value

@[simp] theorem returns_ok (value : α) : Returns (.ok value : Except ε α) := ⟨value, rfl⟩

@[simp] theorem returns_pure (value : α) : Returns (pure value : Except ε α) := ⟨value, rfl⟩

@[simp] theorem not_returns_error (thrown : ε) : ¬ Returns (.error thrown : Except ε α) := by
  rintro ⟨value, same⟩
  cases same

theorem ok_of_toOption {computation : Except ε α} {value : α} (found : computation.toOption = some value) :
    computation = .ok value := by
  cases computation <;> cases found
  rfl

/-- A computation that throws ends its caller unless a handler is written out. -/
theorem bind_ok_iff {first : Except ε α} {next : α → Except ε β} {value : β} :
    (first >>= next) = .ok value ↔ ∃ middle, first = .ok middle ∧ next middle = .ok value := by
  cases first with
  | error thrown => simp [bind, Except.bind]
  | ok middle => simp [bind, Except.bind]

theorem returns_bind {first : Except ε α} {next : α → Except ε β} :
    Returns (first >>= next) ↔ ∃ middle, first = .ok middle ∧ Returns (next middle) := by
  cases first with
  | error thrown => simp [bind, Except.bind]
  | ok middle => simp [bind, Except.bind]

theorem returns_bind_pure {first : Except ε α} {next : α → β} :
    Returns (first >>= fun value => pure (next value)) ↔ Returns first := by
  cases first with
  | error thrown => simp [bind, Except.bind]
  | ok middle => simp [bind, Except.bind]

/-- When what the first computation returns does not decide whether the rest returns. -/
theorem returns_bind_const {first : Except ε α} {next : α → Except ε β} {goes : Prop}
    (decides : ∀ value, Returns (next value) ↔ goes) :
    Returns (first >>= next) ↔ Returns first ∧ goes := by
  rw [returns_bind]
  constructor
  · rintro ⟨middle, same, rest⟩
    exact ⟨⟨middle, same⟩, (decides middle).mp rest⟩
  · rintro ⟨⟨middle, same⟩, rest⟩
    exact ⟨middle, same, (decides middle).mpr rest⟩

theorem bind_unit_iff {ε β : Type} {first : Except ε Unit} {next : Unit → Except ε β} {value : β} :
    (first >>= next) = .ok value ↔ first = .ok () ∧ next () = .ok value := by
  rw [bind_ok_iff]
  exact ⟨fun ⟨_, returned, rest⟩ => ⟨returned, rest⟩, fun ⟨returned, rest⟩ => ⟨(), returned, rest⟩⟩

/-- Calls that return nothing, one after the other. -/
theorem forM_ok_iff {ε : Type} {calls : List α} {call : α → Except ε Unit} :
    calls.forM call = .ok () ↔ ∀ element ∈ calls, call element = .ok () := by
  induction calls with
  | nil => simp [pure, Except.pure]
  | cons element calls ih =>
    change (call element >>= fun _ => calls.forM call) = .ok () ↔ _
    rw [bind_unit_iff, List.forall_mem_cons, ih]

section Fold
variable {step : β → α → Except ε β}

theorem foldlM_cons_ok {head : α} {tail : List α} {start final : β} :
    (head :: tail).foldlM step start = .ok final ↔
      ∃ middle, step start head = .ok middle ∧ tail.foldlM step middle = .ok final := by
  rw [List.foldlM_cons, bind_ok_iff]

/-- What every step keeps, the whole sequence keeps. -/
theorem foldlM_invariant {steps : List α} {start final : β} (kept : β → Prop)
    (preserved : ∀ before element after, kept before → step before element = .ok after → kept after)
    (initial : kept start) (ran : steps.foldlM step start = .ok final) : kept final := by
  induction steps generalizing start with
  | nil => cases ran; exact initial
  | cons head tail ih =>
    obtain ⟨middle, first, rest⟩ := foldlM_cons_ok.mp ran
    exact ih (preserved _ _ _ initial first) rest

/-- A view of the state that each step changes in a fixed way is changed by all of them in turn. -/
theorem foldlM_view {steps : List α} {start final : β} (view : β → γ) (change : γ → α → γ)
    (changed : ∀ before element after, step before element = .ok after → view after = change (view before) element)
    (ran : steps.foldlM step start = .ok final) : view final = steps.foldl change (view start) := by
  induction steps generalizing start with
  | nil => cases ran; rfl
  | cons head tail ih =>
    obtain ⟨middle, first, rest⟩ := foldlM_cons_ok.mp ran
    rw [ih rest, changed _ _ _ first, List.foldl_cons]

/-- When a view that no step changes decides which steps return, it decides whether the sequence does. -/
theorem foldlM_returns {steps : List α} {start : β} (view : β → γ) (accepts : γ → α → Prop)
    (fixed : ∀ before element after, step before element = .ok after → view after = view before)
    (decides : ∀ before element, Returns (step before element) ↔ accepts (view before) element) :
    Returns (steps.foldlM step start) ↔ ∀ element ∈ steps, accepts (view start) element := by
  induction steps generalizing start with
  | nil => simp
  | cons head tail ih =>
    rw [List.foldlM_cons, returns_bind, List.forall_mem_cons, ← decides]
    constructor
    · rintro ⟨middle, first, rest⟩
      exact ⟨⟨middle, first⟩, by rw [← fixed _ _ _ first]; exact ih.mp rest⟩
    · rintro ⟨⟨middle, first⟩, rest⟩
      exact ⟨middle, first, ih.mpr (by rw [fixed _ _ _ first]; exact rest)⟩

/-- Steps that always return and keep a view make a sequence that does. -/
theorem foldlM_total {steps : List α} (start : β) (view : β → γ)
    (total : ∀ before, ∀ element ∈ steps, ∃ after, step before element = .ok after ∧ view after = view before) :
    ∃ final, steps.foldlM step start = .ok final ∧ view final = view start := by
  induction steps generalizing start with
  | nil => exact ⟨start, rfl, rfl⟩
  | cons head tail ih =>
    obtain ⟨middle, first, same⟩ := total start head (by simp)
    obtain ⟨final, rest, sameRest⟩ := ih middle fun before element member => total before element (by simp [member])
    exact ⟨final, foldlM_cons_ok.mpr ⟨middle, first, rest⟩, sameRest.trans same⟩

end Fold
end Tg2Sip.Lib
