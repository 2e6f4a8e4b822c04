import Mathlib.Data.List.Basic

/-! Runs of a transition system whose steps emit observations. Safety facts are
proved once here: an invariant of one step, which may mention everything that
was observed so far, is an invariant of every run. -/

namespace Tg2Sip.Lib

universe u v w

variable {σ : Type u} {ω : Type v} {ι : Type w}

/-- The observations of a run are those of its steps, in order. -/
inductive Run (step : σ → List ω → σ → Prop) (start : σ) : List ω → σ → Prop where
  | refl : Run step start [] start
  | tail {past : List ω} {middle : σ} {seen : List ω} {final : σ}
      (before : Run step start past middle) (last : step middle seen final) :
      Run step start (past ++ seen) final

namespace Run
variable {step other : σ → List ω → σ → Prop} {start middle final : σ} {past seen : List ω}

theorem single (moved : step start seen final) : Run step start seen final := by
  simpa using Run.tail .refl moved

theorem trans (first : Run step start past middle) (rest : Run step middle seen final) :
    Run step start (past ++ seen) final := by
  induction rest with
  | refl => simpa using first
  | tail before last ih => simpa only [List.append_assoc] using Run.tail ih last

theorem mono (run : Run step start past final)
    (weaker : ∀ before seen after, step before seen after → other before seen after) :
    Run other start past final := by
  induction run with
  | refl => exact .refl
  | tail before last ih => exact .tail ih (weaker _ _ _ last)

/-- The induction rule for histories: what one step preserves about the state
and all earlier observations, a run preserves. -/
theorem invariant (kept : List ω → σ → Prop) (run : Run step start past final)
    (initial : kept [] start)
    (preserved : ∀ past before seen after, kept past before → step before seen after →
      kept (past ++ seen) after) : kept past final := by
  induction run with
  | refl => exact initial
  | tail before last ih => exact preserved _ _ _ _ ih last

/-- The rule for progress: what is not done takes a step that leaves less to do. -/
theorem finishes (good done : σ → Prop) (remaining : σ → Nat)
    (works : ∀ before, good before → ¬ done before →
      ∃ seen after, step before seen after ∧ good after ∧ remaining after < remaining before)
    (start : σ) (begins : good start) : ∃ past final, Run step start past final ∧ good final ∧ done final := by
  by_cases ended : done start
  · exact ⟨[], start, .refl, begins, ended⟩
  · obtain ⟨seen, after, moved, stays, less⟩ := works start begins ended
    obtain ⟨past, final, run, kept, reached⟩ := finishes good done remaining works after stays
    exact ⟨seen ++ past, final, (single moved).trans run, kept, reached⟩
termination_by remaining start

/-- Invariants of the state alone. -/
theorem state_invariant (kept : σ → Prop) (run : Run step start past final) (initial : kept start)
    (preserved : ∀ before seen after, kept before → step before seen after → kept after) : kept final :=
  run.invariant (fun _ => kept) initial fun _ => preserved

/-- A run can be cut at the step that shows one of its observations. -/
theorem cut (run : Run step start past final) {earlier later : List ω} {obs : ω}
    (split : past = earlier ++ obs :: later) :
    ∃ old before first rest after, Run step start old before ∧ step before (first ++ obs :: rest) after ∧
      earlier = old ++ first := by
  induction run generalizing later with
  | refl => simp at split
  | @tail past middle seen final before last ih =>
    rcases List.append_eq_append_iff.mp split with ⟨first, rfl, rfl⟩ | ⟨inside, rfl, same⟩
    · exact ⟨past, middle, first, later, final, before, last, rfl⟩
    · cases inside with
      | nil => exact ⟨earlier, middle, [], later, final, by simpa using before, by simpa [same] using last, by simp⟩
      | cons other inside => cases same; exact ih rfl

/-- A view of the state that every step changes as its observations say is what all the
observations of a run make of it. -/
theorem view {γ : Type*} (view : σ → γ) (change : γ → ω → γ) (run : Run step start past final)
    (changed : ∀ before seen after, step before seen after → view after = seen.foldl change (view before)) :
    view final = past.foldl change (view start) := by
  induction run with
  | refl => rfl
  | tail before last ih => rw [List.foldl_append, changed _ _ _ last, ih]

end Run

/-- Only what is noticed changes the state of a fold. -/
theorem foldl_noticed {γ : Type*} {change : γ → ω → γ} {notices : ω → Bool} {seen : List ω}
    (idle : ∀ obs ∈ seen, notices obs = false → ∀ state, change state obs = state) (state : γ) :
    seen.foldl change state = (seen.filter notices).foldl change state := by
  induction seen generalizing state with
  | nil => rfl
  | cons obs seen ih =>
    have rest := ih fun other member => idle other (by simp [member])
    rw [List.foldl_cons, List.filter_cons, rest]
    split
    next => rw [List.foldl_cons]
    next unnoticed => rw [idle obs (by simp) (by simpa using unnoticed)]

/-- A labelled step relation without its labels, restricted to the steps that a
condition admits. The condition sees the state before the step and what the step shows. -/
def Restricted (step : ι → σ → List ω → σ → Prop) (allowed : ι → σ → List ω → Prop) :
    σ → List ω → σ → Prop :=
  fun before seen after => ∃ label, allowed label before seen ∧ step label before seen after

theorem Restricted.weaken {step : ι → σ → List ω → σ → Prop} {allowed wider : ι → σ → List ω → Prop}
    (implies : ∀ label before seen, allowed label before seen → wider label before seen)
    {before : σ} {seen : List ω} {after : σ} (moved : Restricted step allowed before seen after) :
    Restricted step wider before seen after := by
  obtain ⟨label, admitted, moved⟩ := moved
  exact ⟨label, implies label before seen admitted, moved⟩

/-- A step function taken along a list of labels, as far as a check admits each step. -/
def execute (next : σ → ι → Option (σ × List ω)) (check : ι → σ → List ω → Bool) : List ι → σ → Option (σ × List ω)
  | [], state => some (state, [])
  | label :: labels, state =>
    match next state label with
    | none => none
    | some (middle, seen) =>
      if check label state seen then (execute next check labels middle).map fun rest => (rest.1, seen ++ rest.2)
      else none

/-- What can be computed is a run. -/
theorem execute_run {next : σ → ι → Option (σ × List ω)} {check : ι → σ → List ω → Bool}
    {allowed : ι → σ → List ω → Prop}
    (sound : ∀ label state seen, check label state seen = true → allowed label state seen) {labels : List ι}
    {start final : σ} {past : List ω} (ran : execute next check labels start = some (final, past)) :
    Run (Restricted (fun label before seen after => next before label = some (after, seen)) allowed) start
      past final := by
  induction labels generalizing start past with
  | nil => cases ran; exact .refl
  | cons label labels ih =>
    unfold execute at ran
    split at ran
    next => cases ran
    next middle seen moved =>
      split at ran
      next admitted =>
        obtain ⟨⟨last, rest⟩, later, same⟩ := Option.map_eq_some_iff.mp ran
        cases same
        exact (Run.single ⟨label, sound _ _ _ admitted, moved⟩).trans (ih later)
      next => cases ran

theorem execute_reaches {next : σ → ι → Option (σ × List ω)} {check : ι → σ → List ω → Bool}
    {allowed : ι → σ → List ω → Prop}
    (sound : ∀ label state seen, check label state seen = true → allowed label state seen) {labels : List ι}
    {start : σ} {found : σ × List ω → Bool} (ran : (execute next check labels start).any found = true) :
    ∃ final past,
      Run (Restricted (fun label before seen after => next before label = some (after, seen)) allowed)
        start past final ∧ found (final, past) = true := by
  obtain ⟨⟨final, past⟩, computed, held⟩ := (Option.any_eq_true _ _).mp ran
  exact ⟨final, past, execute_run sound computed, held⟩

/-- Without a check of the steps. -/
theorem execute_any {next : σ → ι → Option (σ × List ω)} {labels : List ι} {start : σ} {found : σ × List ω → Bool}
    (ran : (execute next (fun _ _ _ => true) labels start).any found = true) : ∃ final past,
      Run (Restricted (fun label before seen after => next before label = some (after, seen)) fun _ _ _ => True)
        start past final ∧ found (final, past) = true :=
  execute_reaches (fun _ _ _ _ => trivial) ran

end Tg2Sip.Lib
