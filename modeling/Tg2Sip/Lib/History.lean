import Tg2Sip.Lib.Run

/-! Histories: runs in which every step is kept with its label and the state that it found. Conditions on a
step may then speak of all the steps before it. -/

namespace Tg2Sip.Lib

universe u v w
variable {σ : Type u} {ω : Type v} {ι : Type w}

/-- A step as a history keeps it. -/
structure Moment (σ : Type u) (ω : Type v) (ι : Type w) where
  label : ι
  before : σ
  seen : List ω

/-- The steps of a labelled step relation with their moments. -/
def Chronicled (step : ι → σ → List ω → σ → Prop) (before : σ) (moments : List (Moment σ ω ι)) (after : σ) : Prop :=
  ∃ label seen, step label before seen after ∧ moments = [⟨label, before, seen⟩]

/-- A law holds of each moment and those before it. -/
def Throughout {α : Type*} (law : List α → α → Prop) (past : List α) : Prop :=
  ∀ earlier moment later, past = earlier ++ moment :: later → law earlier moment

theorem Throughout.nil {α : Type*} {law : List α → α → Prop} : Throughout law [] := by
  simp [Throughout]

theorem Throughout.concat {α : Type*} {law : List α → α → Prop} {past : List α} {moment : α}
    (before : Throughout law past) (new : law past moment) : Throughout law (past ++ [moment]) := by
  intro earlier other later split
  rcases List.append_eq_append_iff.mp split with ⟨rest, rfl, same⟩ | ⟨rest, rfl, same⟩
  · cases rest with
    | nil =>
      cases same
      rwa [List.append_nil]
    | cons => simp at same
  · cases rest with
    | nil =>
      cases same
      rwa [List.append_nil] at new
    | cons first rest =>
      obtain ⟨rfl, _⟩ := List.cons.inj same
      exact before earlier _ rest rfl

theorem Throughout.snoc {α : Type*} {law : List α → α → Prop} {past : List α} {moment : α}
    (lawful : Throughout law (past ++ [moment])) : Throughout law past ∧ law past moment := by
  constructor
  · intro earlier old later split
    exact lawful earlier old (later ++ [moment]) (by simp [split])
  · exact lawful past moment [] rfl

theorem Throughout.and {α : Type*} {law other : List α → α → Prop} {past : List α} (first : Throughout law past)
    (second : Throughout other past) :
    Throughout (fun earlier moment => law earlier moment ∧ other earlier moment) past :=
  fun earlier moment later split => ⟨first earlier moment later split, second earlier moment later split⟩

/-- A law as a test, for the moments after some others. -/
def holdsThroughout {α : Type*} (test : List α → α → Bool) : List α → List α → Bool
  | _, [] => true
  | earlier, moment :: later => test earlier moment && holdsThroughout test (earlier ++ [moment]) later

theorem holdsThroughout_sound {α : Type*} {law : List α → α → Prop} {test : List α → α → Bool}
    (sound : ∀ earlier moment, test earlier moment = true → law earlier moment) {before past : List α}
    (tested : holdsThroughout test before past = true) :
    ∀ earlier moment later, past = earlier ++ moment :: later → law (before ++ earlier) moment := by
  induction past generalizing before with
  | nil => simp
  | cons first past ih =>
    obtain ⟨now, rest⟩ := Bool.and_eq_true_iff.mp tested
    intro earlier moment later split
    cases earlier with
    | nil =>
      obtain ⟨rfl, _⟩ := List.cons.inj split
      rw [List.append_nil]
      exact sound _ _ now
    | cons other earlier =>
      obtain ⟨rfl, same⟩ := List.cons.inj split
      have later := ih rest earlier moment later same
      rwa [List.append_assoc] at later

section Runs
variable {step : ι → σ → List ω → σ → Prop} {start final : σ} {past : List (Moment σ ω ι)}

/-- The induction rule for histories under a law. -/
theorem Run.invariant_throughout (law : List (Moment σ ω ι) → Moment σ ω ι → Prop)
    (kept : List (Moment σ ω ι) → σ → Prop) (run : Run (Chronicled step) start past final)
    (lawful : Throughout law past) (initial : kept [] start)
    (preserved : ∀ past label before seen after, kept past before → law past ⟨label, before, seen⟩ →
      step label before seen after → kept (past ++ [⟨label, before, seen⟩]) after) : kept past final := by
  induction run with
  | refl => exact initial
  | tail before last ih =>
    obtain ⟨label, seen, moved, rfl⟩ := last
    obtain ⟨old, new⟩ := lawful.snoc
    exact preserved _ _ _ _ _ (ih old) new moved

/-- A history whose moments meet a condition is a run under the condition. -/
theorem Run.restricted {allowed : ι → σ → List ω → Prop} (run : Run (Chronicled step) start past final)
    (admitted : ∀ moment ∈ past, allowed moment.label moment.before moment.seen) :
    Run (Restricted step allowed) start (past.flatMap Moment.seen) final := by
  induction run with
  | refl => exact .refl
  | tail before last ih =>
    obtain ⟨label, seen, moved, rfl⟩ := last
    rw [List.flatMap_append, List.flatMap_singleton]
    exact .tail (ih fun moment member => admitted moment (by simp [member]))
      ⟨label, admitted ⟨label, _, seen⟩ (by simp), moved⟩

/-- A step function that also returns its moment. -/
def chronicle (next : σ → ι → Option (σ × List ω)) (state : σ) (label : ι) : Option (σ × List (Moment σ ω ι)) :=
  (next state label).map fun result => (result.1, [⟨label, state, result.2⟩])

theorem chronicle_run {next : σ → ι → Option (σ × List ω)} {labels : List ι} {start : σ}
    {found : σ × List (Moment σ ω ι) → Bool}
    (ran : (execute (chronicle next) (fun _ _ _ => true) labels start).any found = true) : ∃ final past,
      Run (Chronicled fun label before seen after => next before label = some (after, seen)) start past final ∧
        found (final, past) = true := by
  obtain ⟨final, past, reached, held⟩ := execute_any ran
  refine ⟨final, past, reached.mono fun before moments after ⟨label, _, moved⟩ => ?_, held⟩
  obtain ⟨⟨state, seen⟩, computed, same⟩ := Option.map_eq_some_iff.mp moved
  cases same
  exact ⟨label, seen, computed, rfl⟩

end Runs
end Tg2Sip.Lib
