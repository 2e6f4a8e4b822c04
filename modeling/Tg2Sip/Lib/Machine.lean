import Mathlib.Data.List.Basic

/-! Machines that answer each call with an output, and when one stands for another. -/

namespace Tg2Sip.Lib

universe u v w x

variable {σ : Type u} {τ : Type v} {κ : Type w} {ω : Type x}

/-- The state after a list of calls, and what the calls returned. -/
def perform (call : σ → κ → σ × ω) (state : σ) : List κ → σ × List ω
  | [] => (state, [])
  | next :: rest =>
    let (middle, output) := call state next
    let (final, outputs) := perform call middle rest
    (final, output :: outputs)

/-- Each call is admitted in the state it meets. -/
def Admitted (call : σ → κ → σ × ω) (allowed : σ → κ → Prop) (state : σ) : List κ → Prop
  | [] => True
  | next :: rest => allowed state next ∧ Admitted call allowed (call state next).1 rest

variable {call : σ → κ → σ × ω} {answer : τ → κ → τ × ω} {allowed : τ → κ → Prop} {related : σ → τ → Prop}

theorem admitted_always (state : τ) (calls : List κ) : Admitted answer (fun _ _ => True) state calls := by
  induction calls generalizing state with
  | nil => trivial
  | cons next rest ih => exact ⟨trivial, ih _⟩

theorem perform_append (state : σ) (first second : List κ) :
    perform call state (first ++ second) = ((perform call (perform call state first).1 second).1,
      (perform call state first).2 ++ (perform call (perform call state first).1 second).2) := by
  induction first generalizing state with
  | nil => rfl
  | cons next rest ih => simp only [List.cons_append, perform, ih]

theorem length_perform (state : σ) (calls : List κ) : (perform call state calls).2.length = calls.length := by
  induction calls generalizing state with
  | nil => rfl
  | cons next rest ih => simp [perform, ih]

/-- The last call of a list with what it returned. -/
theorem last_performed (call : σ → κ → σ × ω) (state : σ) (calls : List κ) (next : κ) :
    (next, (call (perform call state calls).1 next).2) ∈
      (calls ++ [next]).zip (perform call state (calls ++ [next])).2 := by
  rw [perform_append, List.zip_append (length_perform state calls).symm]
  exact List.mem_append_right _ (.head _)

/-- Machines in related states return the same for an admitted call, and are in related states again. -/
def Simulates (call : σ → κ → σ × ω) (answer : τ → κ → τ × ω) (allowed : τ → κ → Prop)
    (related : σ → τ → Prop) : Prop :=
  ∀ left right next, related left right → allowed right next →
    (call left next).2 = (answer right next).2 ∧ related (call left next).1 (answer right next).1

/-- The same for any number of calls. -/
theorem Simulates.perform (simulates : Simulates call answer allowed related) {left : σ} {right : τ}
    (start : related left right) {calls : List κ} (admitted : Admitted answer allowed right calls) :
    (perform call left calls).2 = (perform answer right calls).2 ∧
      related (perform call left calls).1 (perform answer right calls).1 := by
  induction calls generalizing left right with
  | nil => exact ⟨rfl, start⟩
  | cons next rest ih =>
    obtain ⟨output, middle⟩ := simulates left right next start admitted.1
    obtain ⟨outputs, final⟩ := ih middle admitted.2
    exact ⟨congrArg₂ List.cons output outputs, final⟩

end Tg2Sip.Lib
