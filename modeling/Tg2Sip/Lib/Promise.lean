import Tg2Sip.Lib.Throwing

/-! A promise takes one value, and its future never sees another one. -/

namespace Tg2Sip.Lib

variable {α σ ι : Type}

inductive FutureError where
  | promiseAlreadySatisfied
  deriving DecidableEq, Repr

structure Promise (α : Type) where
  value : Option α := none
  deriving DecidableEq, Repr

def Promise.setValue (promise : Promise α) (value : α) : Except FutureError (Promise α) :=
  match promise.value with
  | none => .ok ⟨some value⟩
  | some _ => .error .promiseAlreadySatisfied

theorem Promise.setValue_ok_iff {promise after : Promise α} {value : α} :
    promise.setValue value = .ok after ↔ promise.value = none ∧ after = ⟨some value⟩ := by
  unfold setValue
  split
  next undecided => simp [undecided, eq_comm]
  next decided => simp [decided]

/-- The steps of a machine set its promise to what their inputs decide, and throw for no other reason. -/
structure Decides (step : σ → ι → Except FutureError σ) (promise : σ → Promise α) (decision : ι → Option α) : Prop where
  undecided : ∀ state input, decision input = none →
    ∃ after, step state input = .ok after ∧ promise after = promise state
  decided : ∀ state input value, decision input = some value →
    (step state input).map promise = (promise state).setValue value

namespace Decides
variable {step : σ → ι → Except FutureError σ} {promise : σ → Promise α} {decision : ι → Option α}
  {state after : σ} {input : ι} {value : α}

theorem set (decides : Decides step promise decision) (made : decision input = some value)
    (unset : (promise state).value = none) :
    ∃ after, step state input = .ok after ∧ promise after = ⟨some value⟩ := by
  have same := decides.decided state input value made
  rw [Promise.setValue_ok_iff.mpr ⟨unset, rfl⟩] at same
  cases ran : step state input with
  | error thrown => rw [ran] at same; cases same
  | ok after => rw [ran] at same; exact ⟨after, rfl, Except.ok.inj same⟩

/-- Whatever is decided after the first decision throws. -/
theorem undecided_of_set (decides : Decides step promise decision) (ran : step state input = .ok after)
    (set : (promise state).value = some value) : decision input = none ∧ (promise after).value = some value := by
  cases made : decision input with
  | none =>
    obtain ⟨same, found, kept⟩ := decides.undecided state input made
    rw [ran] at found
    cases found
    exact ⟨rfl, kept ▸ set⟩
  | some other =>
    have again := decides.decided state input other made
    rw [ran] at again
    have unset := (Promise.setValue_ok_iff.mp again.symm).1
    rw [set] at unset
    cases unset

/-- A machine whose promise is set runs through as long as nothing is decided. -/
theorem run_set (decides : Decides step promise decision) (set : (promise state).value = some value) (inputs : List ι) :
    Returns (inputs.foldlM step state) ↔ inputs.filterMap decision = [] := by
  induction inputs generalizing state with
  | nil => simp
  | cons input inputs ih =>
    rw [List.foldlM_cons, returns_bind]
    constructor
    · intro ⟨after, first, rest⟩
      obtain ⟨none, kept⟩ := decides.undecided_of_set first set
      rw [List.filterMap_cons_none none]
      exact (ih kept).mp rest
    · intro undecided
      have none : decision input = none := List.filterMap_eq_nil_iff.mp undecided input (.head _)
      obtain ⟨after, first, same⟩ := decides.undecided state input none
      refine ⟨after, first, (ih (same ▸ set)).mpr ?_⟩
      rwa [List.filterMap_cons_none none] at undecided

/-- A machine runs through as long as no more than one thing is decided. -/
theorem returns_iff (decides : Decides step promise decision) (unset : (promise state).value = none) (inputs : List ι) :
    Returns (inputs.foldlM step state) ↔ (inputs.filterMap decision).length ≤ 1 := by
  induction inputs generalizing state with
  | nil => simp
  | cons input inputs ih =>
    rw [List.foldlM_cons, returns_bind]
    cases made : decision input with
    | none =>
      obtain ⟨after, first, same⟩ := decides.undecided state input made
      rw [List.filterMap_cons_none made, ← ih (same ▸ unset)]
      simp [first]
    | some value =>
      obtain ⟨after, first, set⟩ := decides.set made unset
      rw [List.filterMap_cons_some made, List.length_cons, Nat.le_one_iff_eq_zero_or_eq_one]
      have rest := decides.run_set (by rw [set]) inputs
      simp [first, rest]

/-- What a machine ran through without a throw left the first decision in the promise. -/
theorem value_after (decides : Decides step promise decision) {inputs : List ι}
    (ran : inputs.foldlM step state = .ok after) :
    (promise after).value = ((promise state).value.toList ++ inputs.filterMap decision).head? := by
  induction inputs generalizing state with
  | nil =>
    cases ran
    rw [List.filterMap_nil, List.append_nil]
    cases (promise after).value <;> rfl
  | cons input inputs ih =>
    obtain ⟨middle, first, rest⟩ := foldlM_cons_ok.mp ran
    rw [ih rest]
    cases set : (promise state).value with
    | some value =>
      obtain ⟨none, kept⟩ := decides.undecided_of_set first set
      rw [kept]
      rfl
    | none =>
      cases made : decision input with
      | none =>
        obtain ⟨same, found, kept⟩ := decides.undecided state input made
        rw [first] at found
        cases found
        rw [kept, set, List.filterMap_cons_none made]
      | some value =>
        obtain ⟨same, found, kept⟩ := decides.set made set
        rw [first] at found
        cases found
        rw [kept, List.filterMap_cons_some made]
        rfl

end Decides
end Tg2Sip.Lib
