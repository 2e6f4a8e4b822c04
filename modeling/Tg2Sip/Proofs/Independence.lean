import Tg2Sip.Proofs.Teardown

/-! When the calls of several controllers do not disturb each other. The registry and ntgcalls know a
call by the user it is with, so that two calls with one user share a sink and a session. -/

namespace Tg2Sip.Voip
open Lib TdApi TgCallsController

/-- The next step of a controller works on whatever there is for its user. -/
def Holder.acts (holder : Holder) : Bool :=
  match holder.phase with
  | .starting (.register :: _) => true
  | .stopping _ (.unregister :: _) | .destroying (.unregister :: _) => holder.controller.registered
  | .stopping _ (.stopNtg :: _) | .destroying (.stopNtg :: _) => holder.controller.created
  | _ => false

namespace Sessions
variable {κ : Type} [DecidableEq κ]

/-- No other controller is registered for the user whose sink or session a step works on. -/
def Alone (label : SessionLabel κ) (before : Sessions κ) (_ : List (SessionObs κ)) : Prop :=
  ∀ self holder, label.actor = some self → before.holders self = some holder → holder.acts = true →
    ∀ other next, other ≠ self → before.holders other = some next → next.controller.registered = true →
      next.controller.userId ≠ holder.controller.userId

/-- Each registered controller has the sink of its user, and each session is one with the user of its controller. -/
structure Independent (sessions : Sessions κ) : Prop where
  sink : ∀ self holder, sessions.holders self = some holder → holder.controller.registered = true →
    sessions.runtime.sinks holder.controller.userId = some self
  chat : ∀ self userId, sessions.live self = some userId → ∃ holder, sessions.holders self = some holder ∧
    holder.controller.userId = userId

variable {label : SessionLabel κ} {before after : Sessions κ} {seen : List (SessionObs κ)} {self : κ}

/-- A step by one controller, as far as the others can tell. -/
structure Apart (actor : κ) (before after : Sessions κ) : Prop where
  holder : ∀ other, other ≠ actor → after.holders other = before.holders other
  sink : ∀ other holder, other ≠ actor → before.holders other = some holder → holder.controller.registered = true →
    before.runtime.sinks holder.controller.userId = some other →
      after.runtime.sinks holder.controller.userId = some other
  live : ∀ other holder, other ≠ actor → before.holders other = some holder → holder.controller.registered = true →
    (∀ userId, before.live other = some userId → holder.controller.userId = userId) →
      after.live other = before.live other

/-- One controller takes a step. -/
theorem Independent.next (independent : Independent before) {runtime : Runtime κ} {live : Map κ UserId} (next : Holder)
    (apart : Apart self before ({ before with runtime, live }.put self next.controller next.phase))
    (sink : next.controller.registered = true → runtime.sinks next.controller.userId = some self)
    (own : ∀ userId, live self = some userId → next.controller.userId = userId)
    (others : ∀ other userId, other ≠ self → live other = some userId → before.live other = some userId) :
    Independent ({ before with runtime, live }.put self next.controller next.phase) := by
  constructor
  · intro other holder held registered
    by_cases same : other = self
    · subst same
      simp only [put, Map.assign_same, Option.some.injEq] at held
      subst held
      exact sink registered
    · rw [apart.holder other same] at held
      exact apart.sink other holder same held registered (independent.sink other holder held registered)
  · intro other userId chat
    by_cases same : other = self
    · subst same
      exact ⟨next, by simp [put], own userId chat⟩
    · obtain ⟨holder, held, user⟩ := independent.chat other userId (others other userId same chat)
      exact ⟨holder, (apart.holder other same).trans held, user⟩

theorem Apart.quiet {controller : TgCallsController} {phase : Phase} :
    Apart self before (before.put self controller phase) where
  holder other foreign := by simp [put, foreign]
  sink other holder foreign held registered found := found
  live other holder foreign held registered chat := rfl

theorem Apart.started {controller : TgCallsController} {step : StartStep} {rest : List StartStep} (phase : Phase)
    (held : before.holders self = some ⟨controller, .starting (step :: rest)⟩) (named : label.actor = some self)
    (alone : Alone label before seen) {live : Map κ UserId}
    (sessions : live = if step = .createP2p then before.live.assign self controller.userId else before.live) :
    Apart self before ({ before with runtime := (controller.started self before.runtime step).2, live }.put self
      (controller.started self before.runtime step).1 phase) where
  holder other foreign := by simp [put, foreign]
  sink other holder foreign present registered found := by
    cases step with
    | register =>
      have different := alone self _ named held rfl other holder foreign present registered
      simpa [put, TgCallsController.started, Runtime.register, different] using found
    | _ => exact found
  live other holder foreign present registered chat := by
    simp only [put, sessions]
    split
    · simp [foreign]
    · rfl

theorem Apart.stopped {controller : TgCallsController} {step : StopStep} {rest : List StopStep}
    {phase next : Phase} (held : before.holders self = some ⟨controller, phase⟩)
    (stops : Stops step rest phase next) (named : label.actor = some self) (alone : Alone label before seen)
    {live : Map κ UserId} (sessions : live = if (controller.stopCall step).isSome = true then
      fun other => (before.live other).filter fun chat => chat ≠ controller.userId else before.live) :
    Apart self before ({ before with runtime := (controller.stopped before.runtime step).2, live }.put self
      (controller.stopped before.runtime step).1 next) where
  holder other foreign := by simp [put, foreign]
  sink other holder foreign present registered found := by
    cases step with
    | unregister =>
      cases own : controller.registered with
      | false => simpa [put, TgCallsController.stopped, own] using found
      | true =>
        have acts : Holder.acts ⟨controller, phase⟩ = true := by cases stops <;> exact own
        have different := alone self _ named held acts other holder foreign present registered
        simpa [put, TgCallsController.stopped, own, Runtime.unregister, different] using found
    | _ => exact found
  live other holder foreign present registered chat := by
    simp only [put, sessions]
    split
    next waits =>
      obtain ⟨rfl, created, _⟩ := stopCall_some waits
      have acts : Holder.acts ⟨controller, phase⟩ = true := by cases stops <;> exact created
      have different := alone self _ named held acts other holder foreign present registered
      dsimp only
      cases known : before.live other with
      | none => rfl
      | some userId =>
        rw [← chat userId known]
        exact Option.filter_some_pos (by simpa using different)
    next => rfl

theorem step_apart (step : Step label before seen after) (alone : Alone label before seen)
    (named : label.actor = some self) :
    Apart self before after := by
  have own : ∀ {other}, label.actor = some other → other = self := fun same => Option.some.inj (same.symm.trans named)
  cases step_moves step with
  | constructed other controller absent bare acted | called other controller phase next held calls acted
  | gone other controller startable held bare acted | startFailed other controller step rest call held waits acted
  | stopFailed other controller startable rest held created acted => cases own acted; exact .quiet
  | started other controller step rest live held sessions acted =>
    cases own acted
    exact .started _ held named alone sessions
  | stopped other controller step rest phase next live held stops sessions acted =>
    cases own acted; exact .stopped held stops named alone sessions
  | dispatched | lost => exact ⟨fun _ _ => rfl, fun _ _ _ _ _ found => found, fun _ _ _ _ _ _ => rfl⟩

omit [DecidableEq κ] in
theorem Independent.holds (independent : Independent before) {controller : TgCallsController} {phase : Phase}
    {userId : UserId} (held : before.holders self = some ⟨controller, phase⟩)
    (chat : before.live self = some userId) : controller.userId = userId := by
  obtain ⟨holder, present, user⟩ := independent.chat self userId chat
  rw [held] at present
  cases present
  exact user

theorem Independent.quiet (independent : Independent before) {controller : TgCallsController} {phase next : Phase}
    (held : before.holders self = some ⟨controller, phase⟩) : Independent (before.put self controller next) :=
  independent.next ⟨controller, next⟩ .quiet
    (fun registered => independent.sink self ⟨controller, phase⟩ held registered)
    (fun _ chat => independent.holds held chat) (fun _ _ _ chat => chat)

theorem Independent.step (independent : Independent before) (taken : Step label before seen after)
    (alone : Alone label before seen) :
    Independent after := by
  cases step_moves taken with
  | constructed self controller absent bare named =>
    refine independent.next ⟨controller, .idle true⟩ .quiet (fun registered => ?_) (fun userId chat => ?_)
      (fun _ _ _ chat => chat)
    · exact absurd registered (by simpa [Resource.held] using bare .sink)
    · obtain ⟨holder, present, _⟩ := independent.chat self userId chat
      rw [absent] at present
      cases present
  | called self controller phase next held => exact independent.quiet held
  | gone self controller startable held => exact independent.quiet held
  | startFailed self controller step rest call held => exact independent.quiet held
  | stopFailed self controller startable rest held => exact independent.quiet held
  | started self controller step rest live held sessions named =>
    have sink := independent.sink self _ held
    have apart := Apart.started (.afterStart rest) held named alone sessions
    refine independent.next ⟨(controller.started self before.runtime step).1, .afterStart rest⟩ apart
      (fun registered => ?_) (fun userId chat => ?_) (fun other userId foreign chat => ?_)
    · cases step with
      | register => simp [TgCallsController.started, Runtime.register]
      | _ => exact sink registered
    · rw [started_userId]
      rw [sessions] at chat
      split at chat
      · simpa using chat
      · exact independent.holds held chat
    · rw [sessions] at chat
      split at chat
      · simpa [foreign] using chat
      · exact chat
  | stopped self controller step rest phase next live held stops sessions named =>
    have kept : ∀ other userId, live other = some userId → before.live other = some userId := by
      intro other userId chat
      rw [sessions] at chat
      split at chat
      · exact (Option.filter_eq_some_iff.mp chat).1
      · exact chat
    have sink := independent.sink self _ held
    have apart := Apart.stopped held stops named alone sessions
    refine independent.next ⟨(controller.stopped before.runtime step).1, next⟩ apart (fun registered => ?_)
      (fun userId chat => (stopped_userId step).trans (independent.holds held (kept self userId chat)))
      (fun other userId foreign chat => kept other userId chat)
    cases step with
    | unregister => cases own : controller.registered <;> simp [TgCallsController.stopped, own] at registered
    | _ => exact sink registered
  | dispatched | lost => exact independent

theorem Independent.run {past : List (SessionObs κ)} (reached : Reaches Alone past before) : Independent before := by
  refine reached.state_invariant Independent ⟨by simp, by simp⟩ ?_
  rintro before seen after independent ⟨label, alone, step⟩
  exact independent.step step alone

/-- As long as no controller registers, unregisters or issues `ntg_stop` while another one is registered for the same
user, every callback for the user of a registered controller reaches that controller, and no step
of another controller takes its sink or its session away. -/
theorem registered_controllers_are_independent {past : List (SessionObs κ)} (reached : Reaches Alone past before) :
    ∀ self holder, before.holders self = some holder → holder.controller.registered = true →
      (∀ callback, before.step (.callback holder.controller.userId callback) =
        some (before, [.dispatched holder.controller.userId callback self])) ∧
      ∀ label seen after, Step label before seen after → Alone label before seen → label.actor ≠ some self →
        after.runtime.dispatch holder.controller.userId = some self ∧ after.live self = before.live self := by
  have independent := Independent.run reached
  intro self holder held registered
  have sink := independent.sink self holder held registered
  refine ⟨fun callback => by simp only [Sessions.step, Runtime.dispatch, sink],
    fun label seen after step alone foreign => ?_⟩
  cases actor : label.actor with
  | none =>
    cases step_moves step with
    | dispatched | lost => exact ⟨sink, rfl⟩
    | constructed other controller absent bare named | called other controller phase next held calls named
    | gone other controller startable held bare named | started other controller step rest live held sessions named
    | startFailed other controller step rest call held waits named
    | stopped other controller step rest phase next live held stops sessions named
    | stopFailed other controller startable rest held created named => rw [actor] at named; cases named
  | some other =>
    have apart := step_apart step alone actor
    have different : self ≠ other := fun same => foreign (by rw [actor, same])
    refine ⟨apart.sink self holder different held registered sink,
      apart.live self holder different held registered fun userId chat => ?_⟩
    obtain ⟨known, present, user⟩ := independent.chat self userId chat
    rw [held] at present
    cases present
    exact user

/-- `Alone` as a test, where there are only finitely many controllers. -/
def alone (label : SessionLabel Bool) (before : Sessions Bool) (_ : List (SessionObs Bool)) : Bool :=
  decide (∀ self, label.actor = some self → ((before.holders self).any Holder.acts) = true → ∀ other, other ≠ self →
    ((before.holders other).any fun next => next.controller.registered &&
      (before.holders self).any fun holder => next.controller.userId == holder.controller.userId) = false)

theorem alone_sound {label : SessionLabel Bool} {before : Sessions Bool} {seen : List (SessionObs Bool)}
    (tested : alone label before seen = true) : Alone label before seen := by
  intro self holder named held acts other next foreign present registered same
  have quiet := of_decide_eq_true tested self named (by simp [held, acts]) other foreign
  simp [held, present, registered, same] at quiet

/-- A call with user 42, another call, and the end of the first. -/
private def twoCalls (other : UserId) : List (SessionLabel Bool) :=
  .construct false 42 [] false [] true :: .start false :: (List.replicate 9 (SessionLabel.advance false {}) ++
    .construct true other [] false [] true :: .start true :: (List.replicate 9 (SessionLabel.advance true {}) ++
      .stop false :: List.replicate 5 (SessionLabel.advance false {})))

/-- Two calls with different users: one ends, and the other keeps its sink. -/
theorem other_call_keeps_its_sink : ∃ past, ∃ before : Sessions Bool, Reaches Alone past before ∧ ∃ holder,
    before.holders true = some holder ∧ holder.controller.registered = true ∧ before.live false = none ∧
      ∀ callback, before.step (.callback holder.controller.userId callback) =
        some (before, [.dispatched holder.controller.userId callback true]) := by
  have ran : (execute Sessions.step alone (twoCalls 43) {}).any (fun result =>
      (result.1.holders true).any (fun holder => holder.controller.registered) &&
          result.1.live false == none) = true := by
    decide +kernel
  obtain ⟨before, past, reached, found⟩ := execute_reaches (fun _ _ _ => alone_sound) ran
  obtain ⟨present, ended⟩ := Bool.and_eq_true_iff.mp found
  obtain ⟨holder, held, registered⟩ := (Option.any_eq_true _ _).mp present
  exact ⟨past, before, reached, holder, held, registered, by simpa using ended,
    (registered_controllers_are_independent reached true holder held registered).1⟩

/-- The session of the second call is not stopped. -/
private def unstopped : SessionObs Bool → Bool
  | .ntg true _ .stop _ => false
  | _ => true

/-- Two calls with one user: the first ends, and the second has lost its sink and its session. -/
theorem second_call_is_cut_off : ∃ past, ∃ sessions : Sessions Bool, Reaches Anything past sessions ∧
    (∀ userId succeeded, .ntg true userId .stop succeeded ∉ past) ∧ ∃ holder,
      sessions.holders true = some holder ∧ holder.controller.registered = true ∧ holder.controller.created = true ∧
        sessions.runtime.dispatch holder.controller.userId = none ∧ sessions.live true = none := by
  have ran : (execute Sessions.step (fun _ _ _ => true) (twoCalls 42) {}).any (fun result =>
      (result.1.holders true).any (fun holder => holder.controller.registered && holder.controller.created &&
        result.1.runtime.dispatch holder.controller.userId == none) && result.1.live true == none &&
          result.2.all unstopped) = true := by decide +kernel
  obtain ⟨sessions, past, reached, found⟩ := execute_any ran
  simp only [Bool.and_eq_true, beq_iff_eq] at found
  obtain ⟨⟨present, ended⟩, quiet⟩ := found
  obtain ⟨holder, held, facts⟩ := (Option.any_eq_true _ _).mp present
  simp only [Bool.and_eq_true, beq_iff_eq] at facts
  obtain ⟨⟨registered, created⟩, lost⟩ := facts
  refine ⟨past, sessions, reached, fun userId succeeded shown => ?_, holder, held, registered, created, lost, ended⟩
  cases List.all_eq_true.mp quiet _ shown

end Sessions
end Tg2Sip.Voip
