import Tg2Sip.Authorization

/-! The promise of `is_ready` over the life of the process. It is written by each state that signs on or fails to. -/

namespace Tg2Sip.Tg
open Lib

/-- Whether a state says that the client is signed on, or that it will not be. -/
def AuthorizationState.decision : AuthorizationState → Option Bool
  | .waitTdlibParameters => none
  | state => some (state = .ready)

def Notice.decision : Notice → Option Bool
  | .authorizationState state => state.decision
  | _ => none

/-- After each of the updates the thread still runs, and the future holds what the first decisive state made of it. -/
def Receiver.Steady {φ : Type} (start : Receiver φ) (updates : List Notice) : Prop :=
  ∀ earlier, earlier <+: updates → ∃ receiver, start.processUpdates earlier = .ok receiver ∧
    receiver.isReady.value = (earlier.filterMap Notice.decision).head?

variable {φ : Type}

private theorem returned {value : Bool} {receiver : Receiver φ} :
    Except.map Receiver.isReady (do let isReady ← receiver.isReady.setValue value; pure { receiver with isReady }) =
      receiver.isReady.setValue value := by
  cases receiver.isReady.setValue value <;> rfl

theorem processUpdate_decides : Decides (@Receiver.processUpdate φ) Receiver.isReady Notice.decision := by
  constructor
  · intro receiver update undecided
    cases update with
    | authorizationState state =>
      cases state with
      | waitTdlibParameters => exact ⟨_, rfl, rfl⟩
      | _ => cases undecided
    | _ => exact ⟨_, rfl, rfl⟩
  · intro receiver update value decided
    cases update with
    | authorizationState state =>
      cases state with
      | waitTdlibParameters => cases decided
      | _ => cases decided; exact returned
    | _ => cases decided

/-- Nothing is thrown on the thread and the future stays as it was first decided, if and only if the states that TDLib
delivers over the life of the process decide at most once. -/
theorem later_states_are_harmless_iff (libParameters setProxy : φ) (updates : List Notice) :
    (Receiver.initial libParameters setProxy).Steady updates ↔ (updates.filterMap Notice.decision).length ≤ 1 := by
  have unset : (Receiver.initial libParameters setProxy).isReady.value = none := rfl
  rw [← processUpdate_decides.returns_iff unset]
  constructor
  · intro steady
    obtain ⟨receiver, ran, _⟩ := steady updates (List.prefix_refl _)
    exact ⟨receiver, ran⟩
  · intro ⟨final, ran⟩ earlier ⟨later, whole⟩
    rw [← whole, List.foldlM_append] at ran
    obtain ⟨receiver, before, _⟩ := bind_ok_iff.mp ran
    refine ⟨receiver, before, ?_⟩
    have value := processUpdate_decides.value_after before
    rwa [unset] at value

/-- A session that is ended from another device. -/
theorem log_out_throws :
    ¬ ∀ (libParameters setProxy : String) (updates : List Notice),
      (Receiver.initial libParameters setProxy).Steady updates := by
  intro always
  have steady := always "setTdlibParameters" "disableProxy"
    [.authorizationState .waitTdlibParameters, .authorizationState .ready, .authorizationState .loggingOut]
  obtain ⟨receiver, ran, _⟩ := steady _ (List.prefix_refl _)
  cases ran

end Tg2Sip.Tg
