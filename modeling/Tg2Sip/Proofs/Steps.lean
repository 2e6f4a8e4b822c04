import Tg2Sip.Proofs.Routing
import Tg2Sip.System

/-! What one step of the process does to the bridges. Either the gateway thread handled
an event, or nothing happened that a bridge could tell. -/

namespace Tg2Sip
open TdApi Lib

namespace System

/-- The `InternalError` that an event is, while it waits in its queue. -/
def errorOf : GatewayEvent → List InternalEvent
  | .internal event => [event].filter InternalEvent.isError
  | _ => []

theorem pop_cases {before middle : System} {event : GatewayEvent} {caller : Option Sip.CallRef}
    (pop : before.pop = some (event, caller, middle)) :
    (∃ head rest, before.gateway.internalEvents = head :: rest ∧ (event = .internal head ∧ caller = none) ∧
      middle = { before with gateway.internalEvents := rest }) ∨
    (∃ head rest, before.tgEvents = head :: rest ∧ (event = .update head ∧ caller = none) ∧
      middle = { before with tgEvents := rest }) ∨
    (∃ head rest, before.gateway.sip.events = head :: rest ∧ event = .sip head.event ∧ caller = some head.call ∧
      middle = { before with gateway.sip.events := rest }) := by
  unfold System.pop at pop
  dsimp only at pop
  split at pop <;> split at pop <;> cases pop
  next held => exact .inl ⟨_, _, held, ⟨rfl, rfl⟩, rfl⟩
  next held => exact .inr (.inl ⟨_, _, held, ⟨rfl, rfl⟩, rfl⟩)
  next held => exact .inr (.inr ⟨_, _, held, rfl, rfl, rfl⟩)

/-- The gateway thread took an event from the queue whose turn it was. -/
structure Popped (before : System) (event : GatewayEvent) (caller : Option Sip.CallRef) (middle : System) : Prop where
  pop : before.pop = some (event, caller, middle)
  bridges : middle.gateway.bridges = before.gateway.bridges
  counter : middle.gateway.ctxCounter = before.gateway.ctxCounter
  errors : before.gateway.errors = errorOf event ++ middle.gateway.errors
  pool : middle.maxCalls = before.maxCalls
  live : middle.live = before.live
  owner : middle.owner = before.owner

theorem pop_popped {before middle : System} {event : GatewayEvent} {caller : Option Sip.CallRef}
    (pop : before.pop = some (event, caller, middle)) : Popped before event caller middle := by
  rcases pop_cases pop with ⟨head, rest, held, ⟨rfl, rfl⟩, rfl⟩ | ⟨head, rest, held, ⟨rfl, rfl⟩, rfl⟩ |
    ⟨head, rest, held, rfl, rfl, rfl⟩
  · refine ⟨pop, rfl, rfl, ?_, rfl, rfl, rfl⟩
    simp only [World.errors, errorOf, held, List.filter_cons]
    split <;> rfl
  · exact ⟨pop, rfl, rfl, rfl, rfl, rfl, rfl⟩
  · exact ⟨pop, rfl, rfl, rfl, rfl, rfl, rfl⟩

theorem Popped.call {before middle : System} {call : Call} {caller : Option Sip.CallRef}
    (popped : Popped before (.update (.call call)) caller middle) : .call call ∈ before.tgEvents := by
  rcases pop_cases popped.pop with ⟨head, rest, _, ⟨same, _⟩, _⟩ | ⟨head, rest, held, ⟨same, _⟩, _⟩ |
    ⟨head, rest, _, same, _⟩
  · cases same
  · cases same; simp [held]
  · cases same

theorem Popped.sip {before middle : System} {event : Sip.Event} {caller : Option Sip.CallRef}
    (popped : Popped before (.sip event) caller middle) : ∃ queued ∈ before.gateway.sip.events,
      queued.event = event ∧ caller = some queued.call := by
  rcases pop_cases popped.pop with ⟨head, rest, _, ⟨same, _⟩, _⟩ | ⟨head, rest, _, ⟨same, _⟩, _⟩ |
    ⟨head, rest, held, same, called, _⟩
  · cases same
  · cases same
  · cases same; exact ⟨head, by simp [held], rfl, called⟩

/-- A step as the bridges see it. -/
inductive Moved (settings : Settings) (label : Label) (before : System) (seen : List Obs) (after : System) : Prop where
  | idle (bridges : after.gateway.bridges = before.gateway.bridges)
      (counter : after.gateway.ctxCounter = before.gateway.ctxCounter)
      (errors : after.gateway.errors = before.gateway.errors) (quiet : seen.filter Obs.deed = [])
  | handled (env : Env) (event : GatewayEvent) (queued : Option Sip.CallRef) (middle : System)
      (looped : label = .loop env) (popped : Popped before event queued middle)
      (handled : Gateway.Handled settings env middle.gateway event after.gateway seen)

theorem settle_some {system after : System} {queued : Option Sip.CallRef} {gateway : Gateway} {shown seen : List Obs}
    (settled : system.settle queued gateway shown = some (after, seen)) : seen = shown ∧ ∃ live,
      shown.foldlM (pjsua system.maxCalls) system.live = some live ∧
        after = { system with gateway, live, owner := shown.foldl (own queued) system.owner } := by
  obtain ⟨live, folded, same⟩ := Option.map_eq_some_iff.mp settled
  cases same
  exact ⟨rfl, live, folded, rfl⟩

theorem loop_some {settings : Settings} {env : Env} {before after : System} {seen : List Obs}
    (looped : before.loop settings env = some (after, seen)) :
    (before.pop = none ∧ after = { before with turn := before.turn.next } ∧ seen = []) ∨
    ∃ event queued middle gateway, before.pop = some (event, queued, middle) ∧
      middle.gateway.processEvent settings env event = .ok (gateway, seen) ∧
      { middle with turn := before.turn.next }.settle queued gateway seen = some (after, seen) := by
  unfold loop at looped
  split at looped
  next => cases looped
  next =>
    dsimp only at looped
    split at looped
    next empty => cases looped; exact .inl ⟨empty, rfl, rfl⟩
    next event queued middle waiting =>
      split at looped
      next => cases looped
      next gateway shown ran =>
        obtain ⟨rfl, _⟩ := settle_some looped
        exact .inr ⟨event, queued, middle, gateway, waiting, ran, looped⟩

/-- A turn of the loop that finds an event handles it. -/
theorem Step.handled {settings : Settings} {env : Env} {before after middle : System} {seen : List Obs}
    {event : GatewayEvent} {caller : Option Sip.CallRef} (step : Step settings (.loop env) before seen after)
    (taken : before.pop = some (event, caller, middle)) :
    Popped before event caller middle ∧ Gateway.Handled settings env middle.gateway event after.gateway seen := by
  rcases loop_some step with ⟨empty, _, _⟩ | ⟨event, queued, middle, gateway, waiting, ran, settled⟩
  · rw [empty] at taken; cases taken
  · cases waiting.symm.trans taken
    obtain ⟨_, live, _, rfl⟩ := settle_some settled
    exact ⟨pop_popped taken, Gateway.processEvent_handled ran⟩

/-- Every step is one of the two. -/
theorem step_moved {settings : Settings} {label : Label} {before after : System} {seen : List Obs}
    (step : Step settings label before seen after) : Moved settings label before seen after := by
  cases label with
  | tdlib update => cases step; exact .idle rfl rfl rfl rfl
  | incoming id ext =>
    obtain ⟨rfl, live, _, rfl⟩ := settle_some step
    exact .idle rfl rfl rfl rfl
  | callback callback =>
    obtain ⟨rfl, live, _, rfl⟩ := settle_some step
    exact .idle rfl rfl rfl rfl
  | worker blob => cases step; exact .idle rfl rfl (World.errors_emit _ _) rfl
  | signal => cases step; exact .idle rfl rfl rfl rfl
  | loop env =>
    rcases loop_some step with ⟨_, rfl, rfl⟩ | ⟨event, queued, middle, gateway, waiting, ran, settled⟩
    · exact .idle rfl rfl rfl rfl
    · obtain ⟨_, live, _, rfl⟩ := settle_some settled
      exact .handled env event queued middle rfl (pop_popped waiting) (Gateway.processEvent_handled ran)

/-- Who owns which call follows from what is seen and from the call that queued the event. -/
theorem step_owner {settings : Settings} {label : Label} {before after : System} {seen : List Obs}
    (step : Step settings label before seen after) : ∃ caller,
      after.owner = (seen.filter Obs.deed).foldl (own caller) before.owner ∧
        ∀ event queued middle, before.pop = some (event, queued, middle) → (∃ env, label = .loop env) →
          caller = queued := by
  have deeds : ∀ caller owner, seen.foldl (own caller) owner = (seen.filter Obs.deed).foldl (own caller) owner := by
    refine fun caller => foldl_noticed fun obs _ idle owner => ?_
    cases obs with
    | given ctx => cases ctx with
      | none => rfl
      | some ctx => cases idle
    | associated => cases idle
    | _ => rfl
  have apart : ∀ {quiet : Label}, (∀ env, quiet ≠ .loop env) → ∀ event queued middle,
      before.pop = some (event, queued, middle) → (∃ env, quiet = .loop env) → none = queued := by
    rintro quiet other event queued middle _ ⟨env, same⟩
    exact absurd same (other env)
  cases label with
  | tdlib update => cases step; exact ⟨none, rfl, apart (by simp)⟩
  | signal => cases step; exact ⟨none, rfl, apart (by simp)⟩
  | worker blob => cases step; exact ⟨none, rfl, apart (by simp)⟩
  | incoming id ext => obtain ⟨rfl, live, _, rfl⟩ := settle_some step; exact ⟨none, rfl, apart (by simp)⟩
  | callback callback => obtain ⟨rfl, live, _, rfl⟩ := settle_some step; exact ⟨none, rfl, apart (by simp)⟩
  | loop env =>
    rcases loop_some step with ⟨empty, rfl, rfl⟩ | ⟨event, queued, middle, gateway, waiting, ran, settled⟩
    · exact ⟨none, rfl, fun event queued middle waiting => by rw [empty] at waiting; cases waiting⟩
    · have popped := pop_popped waiting
      obtain ⟨_, live, _, rfl⟩ := settle_some settled
      refine ⟨queued, ?_, fun other called rest found _ => ?_⟩
      · rw [← popped.owner, ← deeds]
      · rw [waiting] at found
        cases found
        rfl

/-- pjsua admits everything that is seen of it. -/
theorem step_folded {settings : Settings} {label : Label} {before after : System} {seen : List Obs}
    (step : Step settings label before seen after) :
    seen.foldlM (pjsua before.maxCalls) before.live = some after.live ∧ after.maxCalls = before.maxCalls := by
  cases label with
  | tdlib update => cases step; exact ⟨rfl, rfl⟩
  | incoming id ext => obtain ⟨rfl, live, folded, rfl⟩ := settle_some step; exact ⟨folded, rfl⟩
  | callback callback => obtain ⟨rfl, live, folded, rfl⟩ := settle_some step; exact ⟨folded, rfl⟩
  | worker blob => cases step; exact ⟨rfl, rfl⟩
  | signal => cases step; exact ⟨rfl, rfl⟩
  | loop env =>
    rcases loop_some step with ⟨_, rfl, rfl⟩ | ⟨event, caller, middle, gateway, waiting, ran, settled⟩
    · exact ⟨rfl, rfl⟩
    · have popped := pop_popped waiting
      obtain ⟨_, live, folded, rfl⟩ := settle_some settled
      rw [← popped.pool, ← popped.live]
      exact ⟨folded, rfl⟩

end System
end Tg2Sip
