import Mathlib.Data.List.Basic

/-! Transition tables read from top to bottom: an event takes the first row that
leaves the current state and whose trigger accepts the event. A trigger is the
event type and the guard of a row together with the actions it then runs. -/

namespace Tg2Sip.Lib.Chart

universe u v w

structure Row (σ : Type u) (ε : Type v) (α : Type w) where
  source : σ
  trigger : ε → Option (List α)
  target : σ

variable {σ : Type u} {ε : Type v} {α : Type w} [DecidableEq σ]

def fire : List (Row σ ε α) → σ → ε → Option (List α × σ)
  | [], _, _ => none
  | row :: rows, state, event =>
    if row.source = state then
      match row.trigger event with
      | some actions => some (actions, row.target)
      | none => fire rows state event
    else fire rows state event

end Tg2Sip.Lib.Chart
