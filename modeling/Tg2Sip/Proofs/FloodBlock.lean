import Tg2Sip.Proofs.Dialing
import Tg2Sip.Proofs.Steps

/-! The flood block. A dial goes on only when the block is over, so that an error it receives
can only move the block forward; and while the block lasts every dial ends with an error of
its own and asks TDLib for nothing. -/

namespace Tg2Sip
open TdApi Lib StateMachine

namespace Gateway
variable {settings : Settings} {env : Env} {gateway after : Gateway} {event : GatewayEvent}
  {seen : List Obs} {slot : Slot} {final : Deps}

/-- The block moves only while it is over, and then to a later time. -/
theorem Dialed.forward (dialed : Dialed settings env gateway event after seen slot final)
    (clock : env.nowChecked ≤ env.nowFailed) :
    gateway.blockUntil ≤ after.blockUntil := by
  have later : ∀ error, gateway.blockUntil ≤ env.nowChecked →
      gateway.blockUntil ≤ Actions.blocks settings env error gateway.blockUntil := by
    intro error free
    unfold Actions.blocks
    split
    next seconds _ => exact Nat.le_trans (Nat.le_trans free clock) (Nat.le_add_right _ _)
    next => exact Nat.le_refl _
  rw [dialed.after]
  cases dialed.dials with
  | blocked early => exact Nat.le_refl _
  | unfound free lookup looks error refused told => exact later error free
  | nobody free lookup looks prm => exact Nat.le_refl _
  | refused free target lookups cache resolves error refused told => exact later error free
  | created free target lookups cache resolves id created => exact Nat.le_refl _

/-- A dial that was attempted and sent nothing. -/
structure RefusedDial (ctx : CtxId) (before : Gateway) (after : Gateway) : Prop where
  error : ∃ prm, after.internalEvents = before.internalEvents ++ [.internalError ctx prm]
  bridge : ∃ bridge ∈ before.bridges, bridge.ctx.id = ctx ∧ ⟨.fromSip .waitTg, bridge.ctx⟩ ∈ after.bridges
  shared : after.dialing = before.dialing

theorem Dialed.refused (dialed : Dialed settings env gateway event after seen slot final)
    (early : env.nowChecked < gateway.blockUntil) :
    seen = [.action slot.bridge.ctx.id .dialTg] ∧ RefusedDial slot.bridge.ctx.id gateway after := by
  have within : slot.bridge ∈ gateway.bridges := Slot.within dialed.found
  rw [dialed.after, dialed.seen]
  cases dialed.dials with
  | blocked early => exact ⟨rfl, ⟨_, rfl⟩, ⟨slot.bridge, within, rfl, by simp [Deps.internalError]⟩, rfl⟩
  | unfound free | nobody free | refused free | created free => exact absurd early (Nat.not_lt.mpr free)

end Gateway

namespace System
variable {settings : Settings} {label : Label} {before after start : System} {past seen : List Obs}

/-- The clock does not go back while a handler runs. -/
def ClockRuns (label : Label) (_ : System) (_ : List Obs) : Prop :=
  ∀ env, label = .loop env → env.nowChecked ≤ env.nowFailed

/-- In each step one bridge runs `DialTg`, or nothing is done about dials. -/
theorem Step.ranDial (step : Step settings label before seen after) :
    (∃ env event caller middle slot final, label = .loop env ∧ before.pop = some (event, caller, middle) ∧
      Gateway.RanDial settings env middle.gateway event after.gateway seen slot final) ∨
    after.gateway.dialing = before.gateway.dialing ∧ ∀ obs ∈ seen, obs.ofDial = false := by
  cases label with
  | tdlib update => cases step; exact .inr ⟨rfl, by simp⟩
  | incoming id ext => obtain ⟨rfl, live, _, rfl⟩ := settle_some step; exact .inr ⟨rfl, by simp [Obs.ofDial]⟩
  | callback callback => obtain ⟨rfl, live, _, rfl⟩ := settle_some step; exact .inr ⟨rfl, by simp [Obs.ofDial]⟩
  | worker blob =>
    cases step
    refine .inr ⟨?_, by simp [Obs.ofDial]⟩
    simp only [World.emit]
    split <;> rfl
  | signal => cases step; exact .inr ⟨rfl, by simp⟩
  | loop env =>
    rcases loop_some step with ⟨_, rfl, rfl⟩ | ⟨event, caller, middle, gateway, waiting, ran, settled⟩
    · exact .inr ⟨rfl, by simp⟩
    · obtain ⟨_, live, _, rfl⟩ := settle_some settled
      rcases Gateway.processEvent_ranDial ran with ⟨slot, final, dialed⟩ | ⟨same, others⟩
      · exact .inl ⟨env, event, caller, middle, slot, final, rfl, waiting, dialed⟩
      · refine .inr ⟨?_, others⟩
        rcases pop_cases waiting with ⟨_, _, _, _, rfl⟩ | ⟨_, _, _, _, rfl⟩ | ⟨_, _, _, _, _, rfl⟩ <;> exact same

/-- In each step one bridge dials, or nothing is done about dials. -/
theorem Step.dials (step : Step settings label before seen after) :
    (∃ env event caller middle slot final, label = .loop env ∧ before.pop = some (event, caller, middle) ∧
      Gateway.Dialed settings env middle.gateway event after.gateway seen slot final) ∨
    after.gateway.dialing = before.gateway.dialing ∧ ∀ obs ∈ seen, obs.ofDial = false := by
  refine step.ranDial.imp_left ?_
  intro ⟨env, event, caller, middle, slot, final, looped, waiting, dial⟩
  exact ⟨env, event, caller, middle, slot, final, looped, waiting, dial.dialed⟩

/-- A bridge dials because of an event in the queue of the SIP client, and the rest is as before. -/
theorem Popped.dial {env : Env} {event : GatewayEvent} {caller : Option Sip.CallRef} {middle : System}
    {gateway : Gateway} {slot : Slot} {final : Deps} (waiting : before.pop = some (event, caller, middle))
    (dialed : Gateway.Dialed settings env middle.gateway event gateway seen slot final) :
    middle.gateway.bridges = before.gateway.bridges ∧ middle.gateway.internalEvents = before.gateway.internalEvents ∧
      middle.gateway.dialing = before.gateway.dialing := by
  have early := dialed.early
  rcases pop_cases waiting with ⟨_, _, _, ⟨rfl, _⟩, _⟩ | ⟨_, _, _, ⟨rfl, _⟩, _⟩ | ⟨_, _, _, _, _, rfl⟩
  · cases early
  · cases early
  · exact ⟨rfl, rfl, rfl⟩

theorem Step.forward (step : Step settings label before seen after) (clock : ClockRuns label before seen) :
    before.gateway.blockUntil ≤ after.gateway.blockUntil := by
  rcases step.dials with ⟨env, event, caller, middle, slot, final, looped, waiting, dialed⟩ | ⟨same, _⟩
  · have shared := (Popped.dial waiting dialed).2.2
    rw [show before.gateway.blockUntil = middle.gateway.blockUntil from (congrArg Prod.snd shared).symm]
    exact dialed.forward (clock env looped)
  · exact Nat.le_of_eq (congrArg Prod.snd same).symm

theorem Reaches.forward (run : Reaches settings ClockRuns start past after) :
    start.gateway.blockUntil ≤ after.gateway.blockUntil :=
  Run.state_invariant (fun system => start.gateway.blockUntil ≤ system.gateway.blockUntil) run (Nat.le_refl _)
    fun _ _ _ kept ⟨_, clock, step⟩ => Nat.le_trans kept (step.forward clock)

/-- While the block lasts nothing is sent for a dial, and each dial that is attempted is refused. -/
theorem Step.blocked (step : Step settings label before seen after)
    (early : ∀ env, label = .loop env → env.nowChecked < before.gateway.blockUntil) :
    (∀ ctx name function succeeded, .query ctx name function succeeded ∈ seen → function.dials = false) ∧
      ∀ ctx, .action ctx .dialTg ∈ seen → Gateway.RefusedDial ctx before.gateway after.gateway := by
  rcases step.dials with ⟨env, event, caller, middle, slot, final, looped, waiting, dialed⟩ | ⟨_, others⟩
  · obtain ⟨bridges, events, shared⟩ := Popped.dial waiting dialed
    have blocked : middle.gateway.blockUntil = before.gateway.blockUntil := congrArg Prod.snd shared
    obtain ⟨rfl, refused⟩ := dialed.refused (blocked ▸ early env looped)
    refine ⟨fun ctx name function succeeded member => by simp at member, fun ctx member => ?_⟩
    obtain ⟨rfl, _⟩ := Obs.action.inj (List.mem_singleton.mp member)
    exact ⟨events ▸ refused.error, bridges ▸ refused.bridge, refused.shared.trans shared⟩
  · exact ⟨fun ctx name function succeeded member => others _ member, fun ctx member => by cases others _ member⟩

/-- Nothing more is sent after an error object, and if it tells to wait, the block is set to its deadline. -/
theorem Step.received {env : Env} {error : Error} {ctx : CtxId} {function : Function}
    (step : Step settings (.loop env) before seen after) (asked : .query ctx .dialTg function false ∈ seen)
    (answer : Actions.refusal env function = some error) :
    (∃ earlier, seen = earlier ++ [.query ctx .dialTg function false]) ∧
      (Actions.Flood error → ∃ seconds, Actions.penalty settings error = some seconds ∧
        after.gateway.blockUntil = env.nowFailed + nanoseconds seconds) := by
  have set : ∀ error blockUntil, (Actions.Flood error → (Actions.penalty settings error).isSome = true) →
    Actions.Flood error →
      ∃ seconds, Actions.penalty settings error = some seconds ∧
        Actions.blocks settings env error blockUntil = env.nowFailed + nanoseconds seconds := by
    intro error blockUntil told flood
    obtain ⟨seconds, found⟩ := Option.isSome_iff_exists.mp (told flood)
    exact ⟨seconds, found, by simp [Actions.blocks, found]⟩
  rcases step.dials with ⟨_, event, caller, middle, slot, final, looped, waiting, dialed⟩ | ⟨_, others⟩
  · cases looped
    rw [dialed.seen] at asked ⊢
    rw [dialed.after]
    cases dialed.dials with
    | blocked early => simp [Deps.internalError] at asked
    | unfound free lookup looks other refused told =>
      simp [Deps.internalError, Deps.query, Deps.observe] at asked
      obtain ⟨rfl, rfl⟩ := asked
      cases refused.symm.trans answer
      exact ⟨⟨[.action slot.bridge.ctx.id .dialTg], rfl⟩, set error _ told⟩
    | nobody free lookup looks prm => simp [Deps.internalError, Deps.query, Deps.observe] at asked
    | refused free target lookups cache resolves other refused told =>
      simp [Actions.asked] at asked
      obtain ⟨rfl, rfl⟩ := asked
      simp only [Actions.refusal, Actions.errorObject, refused, Option.some.injEq] at answer
      subst answer
      exact ⟨⟨.action slot.bridge.ctx.id .dialTg :: Actions.asked slot.bridge.ctx.id lookups, by simp⟩,
        set other _ told⟩
    | created free target lookups cache resolves id created => simp [Actions.asked] at asked
  · have dials : function.dials = false := others _ asked
    cases function with
    | createCall | importContacts | searchPublicChat => cases dials
    | _ => cases answer

/-- The block never moves back, and from the moment `DialTg` received an error object that tells to wait
until the deadline computed for it, no bridge sends a request for a dial, and each dial that is
attempted ends with one `InternalError` for its own context and changes nothing else. -/
theorem flood_block_is_honoured {env : Env} {error : Error} {ctx : CtxId} {function : Function}
    (reached : Reaches settings ClockRuns start past before) (step : Step settings (.loop env) before seen after)
    (clock : ClockRuns (.loop env) before seen) :
    start.gateway.blockUntil ≤ before.gateway.blockUntil ∧ before.gateway.blockUntil ≤ after.gateway.blockUntil ∧
    (.query ctx .dialTg function false ∈ seen → Actions.refusal env function = some error → Actions.Flood error →
      (∃ earlier, seen = earlier ++ [.query ctx .dialTg function false]) ∧
      ∃ seconds, Actions.penalty settings error = some seconds ∧
        ∀ rest later label shown final, Reaches settings ClockRuns after rest later →
          Step settings label later shown final →
          (∀ now, label = .loop now → now.nowChecked < env.nowFailed + nanoseconds seconds) →
            (∀ ctx name function succeeded, .query ctx name function succeeded ∈ shown → function.dials = false) ∧
              ∀ ctx, .action ctx .dialTg ∈ shown → Gateway.RefusedDial ctx later.gateway final.gateway) := by
  refine ⟨Reaches.forward reached, step.forward clock, fun asked answer flood => ?_⟩
  obtain ⟨last, told⟩ := step.received asked answer
  obtain ⟨seconds, found, deadline⟩ := told flood
  refine ⟨last, seconds, found, fun rest later label shown final run next early => ?_⟩
  refine next.blocked fun now looped => Nat.lt_of_lt_of_le (early now looped) ?_
  rw [← deadline]
  exact Reaches.forward run

/-- `ClockRuns` as a test. -/
private def clockRuns : Label → Bool
  | .loop env => decide (env.nowChecked ≤ env.nowFailed)
  | _ => true

private theorem clockRuns_sound {label : Label} (tested : clockRuns label = true) : ClockRuns label before seen := by
  rintro env rfl
  exact of_decide_eq_true tested

/-- An incoming SIP call on its way to the dial, which is the next turn of the loop. -/
private def ringingCall (id : Sip.CallId) (call : Sip.CallRef) (env : Env) : List Label :=
  [.incoming id "100", .loop env, .loop env, .loop env, .callback ⟨id, call, .state .early⟩, .loop env, .loop env]

private def refusing : Env :=
  { Env.success 42 7 0 with createCall := .error ⟨429, "Too Many Requests: retry after 10"⟩ }

theorem second_dial_is_refused : ∃ before seen after rest later shown final,
    Step { callbackUri := "" } (.loop refusing) before seen after ∧
      Reaches { callbackUri := "" } ClockRuns after rest later ∧
      Step { callbackUri := "" } (.loop (Env.success 42 7 0)) later shown final ∧ .action 2 .dialTg ∈ shown ∧
        Gateway.RefusedDial 2 later.gateway final.gateway := by
  have ran : (execute (System.step { callbackUri := "" }) (fun label _ _ => clockRuns label) (ringingCall 0 0 refusing)
      (System.initial {} 2)).any (fun first => (first.1.step { callbackUri := "" } (.loop refusing)).any fun second =>
        decide (.query 1 .dialTg (.createCall 100 (Actions.protocol { callbackUri := "" } refusing) false)
          false ∈ second.2) &&
        (execute (System.step { callbackUri := "" }) (fun label _ _ => clockRuns label)
          (ringingCall 1 1 (Env.success 42 7 0)) second.1).any
          fun third => (third.1.step { callbackUri := "" } (.loop (Env.success 42 7 0))).any fun last =>
            decide (.action 2 .dialTg ∈ last.2)) = true := by decide +kernel
  obtain ⟨before, past, reached, found⟩ := execute_reaches (fun _ _ _ => clockRuns_sound) ran
  obtain ⟨⟨after, seen⟩, step, found⟩ := (Option.any_eq_true _ _).mp found
  obtain ⟨asked, found⟩ := Bool.and_eq_true_iff.mp found
  obtain ⟨later, rest, run, found⟩ := execute_reaches (fun _ _ _ => clockRuns_sound) found
  obtain ⟨⟨final, shown⟩, next, dialed⟩ := (Option.any_eq_true _ _).mp found
  obtain ⟨_, _, honoured⟩ := flood_block_is_honoured reached step (clockRuns_sound rfl)
  obtain ⟨_, seconds, told, refused⟩ := honoured (of_decide_eq_true asked) rfl (.inl (by decide))
  have forty : Actions.penalty { callbackUri := "" } ⟨429, "Too Many Requests: retry after 10"⟩ = some 40 := by decide
  cases forty.symm.trans told
  refine ⟨before, seen, after, rest, later, shown, final, step, run, next, of_decide_eq_true dialed, ?_⟩
  exact (refused rest later _ shown final run next fun now same => by cases same; decide).2 2 (of_decide_eq_true dialed)

end System
end Tg2Sip
