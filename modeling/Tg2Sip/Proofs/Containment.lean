import Tg2Sip.Proofs.Bridges

/-! Which failures of external calls end the process. Each action catches some of the
exceptions it can meet; the others leave a noexcept function. What is caught becomes an
`InternalError` of the same bridge. -/

namespace Tg2Sip
open TdApi Lib StateMachine

namespace Actions
open Voip

/-- Whether `std::stoi` can read the number of an error message. -/
def readable (error : Error) : Prop :=
  ∀ digits, Text.searchDigitsAfter delayPattern error.message.toList = some digits → Returns (Text.stoi digits)

/-- The user whose call is created, the error object that ends the dial, or nothing when
the lookup named no user. -/
def dialTarget (env : Env) (world : World) (ctx : Context) : Except (Option Error) UserId :=
  if ctx.extUsername ≠ "" then
    match world.cache.usernameCache ctx.extUsername, env.searchPublicChat with
    | some id, _ => .ok id
    | none, .error error => .error (some error)
    | none, .ok chat => if chat.isPrivate = true then .ok chat.id else .error none
  else if ctx.extPhone ≠ "" then
    match world.cache.phoneCache ctx.extPhone, env.importContacts with
    | some id, _ => .ok id
    | none, .error error => .error (some error)
    | none, .ok userIds => if userIds.headD 0 = 0 then .error none else .ok (userIds.headD 0)
  else .ok ctx.userId

/-- The error object that reaches `parse_error`. -/
def dialError (env : Env) (world : World) (ctx : Context) : Option Error :=
  match dialTarget env world ctx with
  | .error error => error
  | .ok _ =>
    match env.createCall with
    | .error error => some error
    | .ok _ => none

/-- `importContacts` is sent and answers with an empty list. -/
def importsNobody (env : Env) (world : World) (ctx : Context) : Prop :=
  ctx.extUsername = "" ∧ ctx.extPhone ≠ "" ∧ world.cache.phoneCache ctx.extPhone = none ∧ env.importContacts = .ok []

/-- The failures that an action meets without a handler for them. -/
inductive Uncaught (settings : Settings) (env : Env) (world : World) (ctx : Context) : Action → Prop where
  | unknownUser (call : Call) (error : Error) (refused : env.getUser = .error error) :
      Uncaught settings env world ctx (.dialSip call)
  | shortKey (call : Call) (state : CallStateReady) (ready : call.state = .ready state)
      (short : state.encryptionKey.length < 256) : Uncaught settings env world ctx (.createTgVoip call)
  | ports (call : Call) (reason : String) (full : env.audioInput = .error reason ∨ env.audioOutput = .error reason) :
      Uncaught settings env world ctx (.createTgVoip call)
  | start (call : Call) (state : CallStateReady) (ready : call.state = .ready state) (step : StartStep)
      (member : step ∈ TgCallsController.startSteps)
      (refused : accepted env ((newController settings call state ctx.userId).startCall step) = false) :
      Uncaught settings env world ctx (.createTgVoip call)
  | stop (controller : TgCallsController) (present : ctx.controller = some controller)
      (refused : accepted env (controller.stopCall .stopNtg) = false) : Uncaught settings env world ctx .cleanUp
  | dtmf (message : Message) (absent : world.sip.calls ctx.sipCallId = none) :
      Uncaught settings env world ctx (.dialDtmf message)
  | nobody (unblocked : world.blockUntil ≤ env.nowChecked) (empty : importsNobody env world ctx) :
      Uncaught settings env world ctx .dialTg
  | delay (unblocked : world.blockUntil ≤ env.nowChecked) (error : Error)
      (received : dialError env world ctx = some error) (unreadable : ¬ readable error) :
      Uncaught settings env world ctx .dialTg

section Returning
variable {settings : Settings} {env : Env} {deps : Deps}

theorem parseError_returns {error : Error} : Returns (parseError settings env error deps) ↔ readable error := by
  unfold parseError readable
  split
  next digits found => rw [returns_bind_pure]; simp [found]
  next missed =>
    refine iff_of_true ?_ (by simp [missed])
    split <;> exact returns_pure _

theorem dialFailed_returns {error : Error} : Returns (dialFailed settings env error deps) ↔ readable error :=
  parseError_returns

theorem dialById_returns {id : UserId} :
    Returns (dialById settings env id deps) ↔ ∀ error, env.createCall = .error error → readable error := by
  unfold dialById
  split
  next error refused => simp [refused, dialFailed_returns]
  next callId created => exact iff_of_true (returns_pure _) (by simp [created])

theorem dialByUsername_returns (named : deps.ctx.extUsername ≠ "") : Returns (dialByUsername settings env deps) ↔
    ∀ error, dialError env deps.toWorld deps.ctx = some error → readable error := by
  unfold dialByUsername
  cases cached : deps.cache.usernameCache deps.ctx.extUsername with
  | some id =>
    simp only [dialById_returns, dialError, dialTarget, named, cached, ne_eq, not_false_iff, if_true]
    cases env.createCall <;> simp
  | none =>
    cases searched : env.searchPublicChat with
    | error error =>
      simp [dialFailed_returns, dialError, dialTarget, named, cached, searched]
    | ok chat =>
      cases isPrivate : chat.isPrivate with
      | true =>
        simp only [dialById_returns, dialError, dialTarget, named, cached, searched, isPrivate, ne_eq,
          not_false_iff, if_true]
        cases env.createCall <;> simp
      | false => simp [dialError, dialTarget, named, cached, searched, isPrivate]

theorem dialByPhone_returns (unnamed : deps.ctx.extUsername = "") (phoned : deps.ctx.extPhone ≠ "") :
    Returns (dialByPhone settings env deps) ↔ ¬ importsNobody env deps.toWorld deps.ctx ∧
      ∀ error, dialError env deps.toWorld deps.ctx = some error → readable error := by
  unfold dialByPhone
  cases cached : deps.cache.phoneCache deps.ctx.extPhone with
  | some id =>
    simp only [dialById_returns, dialError, dialTarget, unnamed, phoned, cached, importsNobody, ne_eq, not_false_iff,
      if_true, if_false, not_true_eq_false]
    cases env.createCall <;> simp
  | none =>
    cases imported : env.importContacts with
    | error error =>
      simp [dialFailed_returns, dialError, dialTarget, unnamed, phoned, cached, imported, importsNobody]
    | ok userIds =>
      cases userIds with
      | nil => simp [importsNobody, unnamed, phoned, cached, imported]
      | cons userId userIds =>
        by_cases unknown : userId = 0
        · simp [dialError, dialTarget, unnamed, phoned, cached, imported, importsNobody, unknown]
        · simp only [dialById_returns, dialError, dialTarget, unnamed, phoned, cached, imported, importsNobody, unknown,
            List.headD_cons, ne_eq, not_false_iff, if_true, if_false, not_true_eq_false]
          cases env.createCall <;> simp

/-- The dial as its target decides it. -/
theorem dialTg_returns : Returns (dialTg settings env deps) ↔
    ¬ Uncaught settings env deps.toWorld deps.ctx .dialTg := by
  by_cases unblocked : deps.blockUntil ≤ env.nowChecked
  · have passed : ¬ deps.blockUntil > env.nowChecked := Nat.not_lt.mpr unblocked
    have caught : (¬ importsNobody env deps.toWorld deps.ctx ∧
        ∀ error, dialError env deps.toWorld deps.ctx = some error → readable error) ↔
        ¬ Uncaught settings env deps.toWorld deps.ctx .dialTg := by
      constructor
      · rintro ⟨somebody, reads⟩ uncaught
        cases uncaught with
        | nobody unblocked empty => exact somebody empty
        | delay unblocked error received unreadable => exact unreadable (reads error received)
      · intro caught
        refine ⟨fun empty => caught (.nobody unblocked empty), fun error received => ?_⟩
        by_contra unreadable
        exact caught (.delay unblocked error received unreadable)
    rw [← caught]
    unfold dialTg
    rw [if_neg passed]
    split
    next named =>
      rw [dialByUsername_returns named]
      simp [importsNobody, named]
    next unnamed =>
      have unnamed : deps.ctx.extUsername = "" := by simpa using unnamed
      split
      next phoned => exact dialByPhone_returns unnamed phoned
      next unphoned =>
        have unphoned : deps.ctx.extPhone = "" := by simpa using unphoned
        rw [dialById_returns]
        simp only [dialError, dialTarget, importsNobody, unnamed, unphoned, ne_eq, not_true_eq_false,
          if_false, false_and, and_false, not_false_iff, true_and]
        cases env.createCall <;> simp
  · have blocked : deps.blockUntil > env.nowChecked := Nat.not_le.mp unblocked
    refine iff_of_true ?_ ?_
    · unfold dialTg; rw [if_pos blocked]; exact returns_pure _
    · intro uncaught
      cases uncaught with
      | nobody free empty => exact unblocked free
      | delay free error received unreadable => exact unblocked free

theorem stopController_returns : Returns (stopController env deps) ↔
    ∀ controller, deps.ctx.controller = some controller → accepted env (controller.stopCall .stopNtg) = true := by
  unfold stopController
  split
  next absent => exact iff_of_true (returns_pure _) (by simp [absent])
  next controller present =>
    rw [returns_bind_pure, stop_returns]
    simp [present]

/-- Both audio ports get a place in the conference bridge, or the constructor throws. -/
theorem registerPorts_returns : Returns (registerPorts env) ↔
    ¬ ∃ reason, env.audioInput = .error reason ∨ env.audioOutput = .error reason := by
  unfold registerPorts
  cases env.audioInput <;> cases env.audioOutput <;> simp [Sip.Client.pjMethod, bind, Except.bind]

theorem createTgVoip_returns {call : Call} {state : CallStateReady} (ready : call.state = .ready state) :
    Returns (createTgVoip settings env call deps) ↔ ¬ state.encryptionKey.length < 256 ∧
      (¬ ∃ reason, env.audioInput = .error reason ∨ env.audioOutput = .error reason) ∧
      ∀ step ∈ TgCallsController.startSteps,
        accepted env ((newController settings call state deps.ctx.userId).startCall step) = true := by
  unfold createTgVoip
  rw [ready]
  dsimp only
  split
  next short => simp [short]
  next long =>
    rw [returns_bind_const fun _ => returns_bind_pure, registerPorts_returns, start_returns]
    simp only [long, not_false_iff, true_and]

end Returning
end Actions

namespace Action
open Actions
variable {settings : Settings} {env : Env} {deps : Deps}

/-- What the tables and the invariant of the bridges promise an action. -/
def Ready (ctx : Context) : Action → Prop
  | .createTgVoip call => call.state.getId = .ready
  | .bridgeAudio => ctx.controller.isSome = true
  | .dialDtmf message => isTextContent message = true
  | _ => True

theorem getId_ready {state : CallState} (ready : state.getId = .ready) : ∃ content, state = .ready content := by
  cases state <;> first | exact ⟨_, rfl⟩ | cases ready

theorem body_returns (settings : Settings) (env : Env) (deps : Deps) {action : Action} (ready : action.Ready deps.ctx) :
    Returns (action.body settings env deps) ↔ ¬ Uncaught settings env deps.toWorld deps.ctx action := by
  have harmless : ∀ {computation : Except Exception Deps}, Returns computation →
      (∀ uncaught : Uncaught settings env deps.toWorld deps.ctx action, False) →
      (Returns computation ↔ ¬ Uncaught settings env deps.toWorld deps.ctx action) :=
    fun returns caught => iff_of_true returns caught
  cases action with
  | storeSipId | storeTgId | storeTgUserId | cleanTgId | cleanSipId | setHangupPrm =>
    exact harmless (returns_pure _) (by intro uncaught; cases uncaught)
  | cleanUp =>
    have stops : Returns (Actions.cleanUp env deps) ↔ Returns (stopController env deps) := returns_bind_pure
    simp only [body, stops, stopController_returns]
    constructor
    · intro accepts uncaught
      cases uncaught with
      | stop controller present refused => rw [accepts controller present] at refused; cases refused
    · intro caught controller present
      by_contra refused
      exact caught (.stop controller present (by simpa using refused))
  | dialSip call =>
    simp only [body, Actions.dialSip]
    split
    next error refused => simpa using Uncaught.unknownUser call error refused
    next user found =>
      exact harmless (returns_pure _) (by intro uncaught; cases uncaught; simp_all)
  | answerTg =>
    refine harmless ?_ (by intro uncaught; cases uncaught)
    simp only [body, Actions.answerTg]
    split <;> exact returns_pure _
  | acceptIncomingSip ext =>
    refine harmless ?_ (by intro uncaught; cases uncaught)
    simp only [body, Actions.acceptIncomingSip]
    split
    · exact guarded_returns fun thrown => answer_caught
    · exact returns_pure _
  | answerSip =>
    exact harmless (guarded_returns fun thrown => answer_caught) (by intro uncaught; cases uncaught)
  | createTgVoip call =>
    obtain ⟨state, content⟩ := getId_ready ready
    simp only [body, createTgVoip_returns content]
    constructor
    · rintro ⟨long, room, accepts⟩ uncaught
      cases uncaught with
      | shortKey call other same short => rw [content] at same; cases same; exact long short
      | ports call reason full => exact room ⟨reason, full⟩
      | start call other same step member refused =>
        rw [content] at same; cases same
        rw [accepts step member] at refused
        cases refused
    · intro caught
      refine ⟨fun short => caught (.shortKey call state content short), ?_, fun step member => ?_⟩
      · rintro ⟨reason, full⟩
        exact caught (.ports call reason full)
      · by_contra refused
        exact caught (.start call state content step member (by simpa using refused))
  | bridgeAudio =>
    refine harmless ?_ (by intro uncaught; cases uncaught)
    obtain ⟨controller, present⟩ := Option.isSome_iff_exists.mp ready
    simp only [body, Actions.bridgeAudio, present]
    exact guarded_returns fun thrown => bridgeAudio_caught
  | dialTg => exact dialTg_returns
  | dialDtmf message =>
    obtain ⟨sender, chatId, content⟩ := message
    cases content with
    | other => cases ready
    | text text =>
      simp only [body, Actions.dialDtmf, Sip.Client.dialDtmf]
      cases entry : deps.sip.calls deps.ctx.sipCallId with
      | none => simpa using Uncaught.dtmf _ entry
      | some call =>
        refine harmless ?_ (by intro uncaught; cases uncaught with | dtmf _ absent =>
          rw [entry] at absent; cases absent)
        cases env.dialDtmf <;> exact returns_pure _

theorem run_returns {action : Action} (ready : action.Ready deps.ctx) :
    Returns (action.run settings env deps) ↔ ¬ Uncaught settings env deps.toWorld deps.ctx action := by
  have body := body_returns settings env (deps.observe (.action deps.ctx.id action.name)) ready
  exact body

/-- The actions that only write to the context. -/
def stores : Action → Bool
  | .storeSipId _ | .storeTgId _ | .storeTgUserId _ | .cleanTgId | .cleanSipId | .setHangupPrm _ => true
  | _ => false

theorem stores_run (settings : Settings) (env : Env) (deps : Deps) {action : Action}
    (stores : action.stores = true) : ∃ middle, action.run settings env deps = .ok middle ∧
    middle.ctx.controller = deps.ctx.controller ∧ ∀ world ctx, ¬ Uncaught settings env world ctx action := by
  cases action <;> cases stores <;> exact ⟨_, rfl, rfl, by intro world ctx uncaught; cases uncaught⟩

/-- Apart from the two that are alone in their transitions, an action fails for reasons that the
actions before it do not change. -/
theorem uncaught_congr {world later : World} {ctx final : Context} {action : Action} (dial : action ≠ .dialTg)
    (dtmf : ∀ message, action ≠ .dialDtmf message) (same : final.controller = ctx.controller) :
    Uncaught settings env later final action ↔ Uncaught settings env world ctx action := by
  have keeps : ∀ {world later : World} {ctx final : Context}, final.controller = ctx.controller →
      Uncaught settings env world ctx action → Uncaught settings env later final action := by
    intro world later ctx final same uncaught
    cases uncaught with
    | unknownUser call error refused => exact .unknownUser call error refused
    | shortKey call state ready short => exact .shortKey call state ready short
    | ports call reason full => exact .ports call reason full
    | start call state ready step member refused =>
      refine .start call state ready step member ?_
      cases step <;> exact refused
    | stop controller present refused => exact .stop controller (same.trans present) refused
    | dtmf message absent => exact absurd rfl (dtmf message)
    | nobody free empty => exact absurd rfl dial
    | delay free error received unreadable => exact absurd rfl dial
  exact ⟨keeps same.symm, keeps same⟩

end Action

namespace StateMachine
open Actions
variable {settings : Settings} {env : Env} {deps : Deps}

theorem runActions_cons {action : Action} {actions : List Action} :
    Returns (runActions settings env (action :: actions) deps) ↔
    ∃ middle, action.run settings env deps = .ok middle ∧ Returns (runActions settings env actions middle) := by
  rw [runActions, List.foldlM_cons, returns_bind]
  rfl

/-- What a machine in a state has that the actions of that state need. -/
def Equipped (control : Control) (ctx : Context) : Prop :=
  match control with
  | .fromSip .sipWaitMedia => ctx.controller.isSome = true
  | .X => False
  | _ => True

private theorem runActions_one {action : Action} (ready : action.Ready deps.ctx) :
    Returns (runActions settings env [action] deps) ↔
      ∀ member ∈ [action], ¬ Uncaught settings env deps.toWorld deps.ctx member := by
  simp only [List.forall_mem_singleton, ← Action.run_returns ready]
  have one : runActions settings env [action] deps = action.run settings env deps >>= pure := rfl
  rw [one, returns_bind_pure]

/-- An action that only writes to the context can be passed over. -/
private theorem runActions_stores {action : Action} {rest : List Action} (stores : action.stores = true)
    (dial : .dialTg ∉ rest) (dtmf : ∀ message, .dialDtmf message ∉ rest)
    (later : ∀ middle : Deps, middle.ctx.controller = deps.ctx.controller →
      (Returns (runActions settings env rest middle) ↔
        ∀ member ∈ rest, ¬ Uncaught settings env middle.toWorld middle.ctx member)) :
    Returns (runActions settings env (action :: rest) deps) ↔
      ∀ member ∈ action :: rest, ¬ Uncaught settings env deps.toWorld deps.ctx member := by
  obtain ⟨middle, ran, same, harmless⟩ := Action.stores_run settings env deps stores
  have passed : Returns (runActions settings env (action :: rest) deps) ↔
      Returns (runActions settings env rest middle) := by
    rw [runActions_cons, ran]
    simp
  rw [passed, later middle same, List.forall_mem_cons]
  have agree : ∀ member ∈ rest, (¬ Uncaught settings env middle.toWorld middle.ctx member ↔
      ¬ Uncaught settings env deps.toWorld deps.ctx member) := by
    intro member held
    refine not_congr (Action.uncaught_congr ?_ ?_ same)
    · rintro rfl; exact dial held
    · rintro message rfl; exact dtmf message held
  constructor
  · intro caught
    exact ⟨harmless _ _, fun member held => (agree member held).mp (caught member held)⟩
  · rintro ⟨_, caught⟩ member held
    exact (agree member held).mpr (caught member held)

/-- What follows the creation of the controller has a handler for everything it can meet. -/
private theorem runActions_creates {call : Call} {last : Action} (ready : call.state.getId = .ready)
    (next : last = .bridgeAudio ∨ last = .answerSip) :
    Returns (runActions settings env [.createTgVoip call, last] deps) ↔
      ∀ member ∈ [.createTgVoip call, last], ¬ Uncaught settings env deps.toWorld deps.ctx member := by
  have harmless : ∀ world ctx, ¬ Uncaught settings env world ctx last := by
    intro world ctx uncaught
    rcases next with rfl | rfl <;> cases uncaught
  have created : Returns (runActions settings env [.createTgVoip call, last] deps) ↔
      Returns ((Action.createTgVoip call).run settings env deps) := by
    rw [runActions_cons]
    constructor
    · rintro ⟨middle, ran, _⟩; exact ⟨middle, ran⟩
    · rintro ⟨middle, ran⟩
      refine ⟨middle, ran, (runActions_one ?_).mpr (by simpa using harmless _ _)⟩
      obtain ⟨ctx, errors, deeds, effect, did⟩ := Action.run_effect ran
      cases effect with
      | createdTgVoip call before controller user live =>
        rcases next with rfl | rfl
        · rw [did.ctx]; rfl
        · trivial
  have promised : Action.Ready deps.ctx (.createTgVoip call) := ready
  rw [created, Action.run_returns promised]
  simp [harmless]

/-- A transition is completed unless one of its actions meets a failure without a handler. -/
theorem runActions_returns {control target : Control} {event : Event} {actions : List Action}
    (transition : Transition settings control event actions target) (equipped : Equipped control deps.ctx) :
    Returns (runActions settings env actions deps) ↔
      ∀ action ∈ actions, ¬ Uncaught settings env deps.toWorld deps.ctx action := by
  cases transition with
  | dial call incoming pending uri =>
    refine runActions_stores rfl (by simp) (by simp) fun middle _ => ?_
    exact runActions_stores rfl (by simp) (by simp) fun middle _ => runActions_one trivial
  | refuse call incoming pending uri =>
    exact runActions_stores rfl (by simp) (by simp) fun middle _ => runActions_one trivial
  | strayUpdate call stray => exact runActions_one trivial
  | accept id ext => exact runActions_stores rfl (by simp) (by simp) fun middle _ => runActions_one trivial
  | strayState id state => exact runActions_one trivial
  | strayMedia id hasMedia => exact runActions_one trivial
  | answer id => exact runActions_one trivial
  | bridge call ready => exact runActions_creates ready (.inl rfl)
  | dialTg id => exact runActions_one trivial
  | connect call ready =>
    exact runActions_stores rfl (by simp) (by simp) fun middle _ => runActions_creates ready (.inr rfl)
  | media id => exact runActions_one equipped
  | dtmf control waiting message digits => exact runActions_one (isTextContent_of_isDtmfString digits)
  | tgEnded control inside call ended =>
    exact runActions_stores rfl (by simp) (by simp) fun middle _ => runActions_one trivial
  | sipEnded control inside id => exact runActions_stores rfl (by simp) (by simp) fun middle _ => runActions_one trivial
  | failed control inside prm => exact runActions_stores rfl (by simp) (by simp) fun middle _ => runActions_one trivial

end StateMachine
/-- The actions that set a bridge up. -/
def ActionName.setUp : ActionName → Bool
  | .dialSip | .answerTg | .acceptIncomingSip | .dialTg | .createTgVoip | .answerSip | .bridgeAudio => true
  | _ => false

/-- The observation that a set-up action of a context has reached its goal. -/
def Obs.completes (ctx : CtxId) : ActionName → Obs → Prop
  | .dialSip, .sip author .dialSip (.dial ..) true => author = ctx
  | .answerTg, .query author .answerTg (.acceptCall ..) true => author = ctx
  | .acceptIncomingSip, .sip author .acceptIncomingSip (.answer ..) true => author = ctx
  | .dialTg, .associated author .dialTg (.tg _) => author = ctx
  | .createTgVoip, .started author => author = ctx
  | .answerSip, .sip author .answerSip (.answer ..) true => author = ctx
  | .bridgeAudio, .sip author .bridgeAudio (.bridgeAudio _) true => author = ctx
  | _, _ => False

namespace Gateway

/-- A context ran a set-up action that did not reach its goal. -/
def SetUpFailed (seen : List Obs) (ctx : CtxId) (name : ActionName) : Prop :=
  name.setUp = true ∧ .action ctx name ∈ seen ∧ ∀ obs ∈ seen, ¬ obs.completes ctx name

/-- The handler returns, a bridge whose set-up failed has an error queued or was cleaned up,
and every bridge but the one that was served is as it was. -/
def Contained (settings : Settings) (env : Env) (gateway : Gateway) (event : GatewayEvent) : Prop :=
  ∃ after seen, gateway.processEvent settings env event = .ok (after, seen) ∧
    (∀ ctx name, SetUpFailed seen ctx name →
      ((∃ bridge ∈ after.bridges, bridge.ctx.id = ctx) ∧ ∃ prm, .internalError ctx prm ∈ after.internalEvents) ∨
      ((∀ bridge ∈ after.bridges, bridge.ctx.id ≠ ctx) ∧ .action ctx .cleanUp ∈ seen)) ∧
    ∃ served, (∀ ctx name, .action ctx name ∈ seen → ctx = served) ∧
      ∀ bridge ∈ gateway.bridges, bridge.ctx.id ≠ served → bridge ∈ after.bridges

/-- The machine that is offered the event takes a transition, and one of its actions meets a
failure that it has no handler for. -/
def Escapes (settings : Settings) (env : Env) (gateway : Gateway) (event : GatewayEvent) : Prop :=
  ∃ slot counter offered actions target, gateway.route event = some ((slot, counter), offered) ∧
    StateMachine.select settings slot.bridge.control offered = some (actions, target) ∧
    ∃ action ∈ actions, Actions.Uncaught settings env gateway.toWorld slot.bridge.ctx action

end Gateway

section SetUp
variable {settings : Settings} {env : Env} {ctx final : Context} {errors : List InternalEvent} {deeds : List Obs}

theorem Effect.setUp {action : Action} (effect : Effect settings env action ctx final errors deeds)
    (setUp : action.name.setUp = true) :
    (∃ obs ∈ deeds, obs.completes ctx.id action.name) ∨ ∃ prm, .internalError ctx.id prm ∈ errors := by
  cases effect with
  | dialedSip call ctx prm id created dialed =>
    exact .inl ⟨.sip ctx.id .dialSip (.dial settings.callbackUri prm) true, by simp, rfl⟩
  | acceptedTg ctx accepted => exact .inl ⟨_, .head _, rfl⟩
  | rang ext ctx parsed valid => exact .inl ⟨_, .head _, rfl⟩
  | answeredSip ctx => exact .inl ⟨_, .head _, rfl⟩
  | createdTgVoip call ctx controller user live => exact .inl ⟨_, .head _, rfl⟩
  | bridged ctx controller present => exact .inl ⟨_, .head _, rfl⟩
  | dialedTg ctx lookups user id dials created => exact .inl ⟨.associated ctx.id .dialTg (.tg id), by simp, rfl⟩
  | refusedSip | refusedTg | silent | badExtension | unansweredSip | unbridged | undialedTg => exact .inr ⟨_, .head _⟩
  | storeSipId | storeTgId | storeTgUserId | cleanTgId | cleanSipId | setHangupPrm | cleanUp | dtmf => cases setUp

theorem Effect.no_action {action : Action} (effect : Effect settings env action ctx final errors deeds) {number : CtxId}
    {name : ActionName} : .action number name ∉ deeds := by
  intro member
  cases effect with
  | cleanUp ctx controller ended same =>
    simp only [stops, discards, hangups, List.mem_append] at member
    rcases member with (member | member) | member <;> split at member <;> simp at member
  | _ => simp at member

/-- A set-up action that misses its goal queues an error. -/
theorem Effects.setUp {actions : List Action} (effects : Effects settings env actions ctx final errors deeds)
    {number : CtxId} {name : ActionName} (setUp : name.setUp = true) (ran : .action number name ∈ deeds) :
    (∃ action ∈ actions, action.name = name) ∧
      ((∃ obs ∈ deeds, obs.completes number name) ∨ ∃ prm, .internalError number prm ∈ errors) := by
  induction effects with
  | nil ctx => cases ran
  | @cons action actions ctx middle final errors later shown next first rest ih =>
    simp only [List.cons_append, List.mem_cons, List.mem_append, Obs.action.injEq] at ran
    rcases ran with ⟨rfl, rfl⟩ | member | member
    · refine ⟨⟨action, by simp, rfl⟩, ?_⟩
      rcases first.setUp setUp with ⟨obs, member, completes⟩ | ⟨prm, member⟩
      · exact .inl ⟨obs, by simp [member], completes⟩
      · exact .inr ⟨prm, by simp [member]⟩
    · exact absurd member first.no_action
    · obtain ⟨⟨taken, held, same⟩, outcome⟩ := ih member
      refine ⟨⟨taken, by simp [held], same⟩, ?_⟩
      rcases outcome with ⟨obs, member, completes⟩ | ⟨prm, member⟩
      · exact .inl ⟨obs, by simp [member], completes⟩
      · exact .inr ⟨prm, by simp [member]⟩

/-- No transition to X sets anything up. -/
theorem StateMachine.Transition.stays {control target : StateMachine.Control} {event : StateMachine.Event}
    {actions : List Action} (transition : StateMachine.Transition settings control event actions target)
    {action : Action} (member : action ∈ actions) (setUp : action.name.setUp = true) : target ≠ .X := by
  cases transition with
  | refuse | strayUpdate | strayState | strayMedia | tgEnded | sipEnded | failed =>
    simp only [List.mem_cons, List.not_mem_nil, or_false] at member
    rcases member with rfl | rfl <;> cases setUp
  | dtmf control waiting =>
    rintro rfl
    cases waiting
  | _ => simp

end SetUp

/-- A bridge that waits for SIP media has its controller: the only transition to that state has
just created it. -/
theorem equipped_rule (settings : Settings) : System.BridgeRule settings StateMachine.Equipped where
  present := id
  fresh := by
    intro env offered id target final errors deeds handles searched
    cases handles with
    | dropped ignored => exact absurd ignored (StateMachine.init_takes searched)
    | taken transition effects =>
      cases transition with
      | refuse | strayUpdate | strayState | strayMedia => exact .inl rfl
      | dial | accept => exact .inr trivial
      | dtmf control waiting => cases waiting
      | tgEnded control inside => cases inside
      | sipEnded control inside => cases inside
      | failed control inside => cases inside
  next := by
    intro env offered control ctx target final errors deeds equipped handles
    cases handles with
    | dropped ignored => exact .inr equipped
    | taken transition effects =>
      cases transition with
      | refuse | strayUpdate | strayState | strayMedia | tgEnded | sipEnded | failed => exact .inl rfl
      | dial | accept | answer | bridge | dialTg | media => exact .inr trivial
      | connect call ready =>
        obtain ⟨_, _, _, _, _, user, rest, rfl, rfl⟩ := effects.three
        obtain ⟨_, _, _, _, _, created, answered, rfl, rfl⟩ := rest.two
        cases created
        cases answered <;> exact .inr rfl
      | dtmf control waiting message digits =>
        refine .inr ?_
        rcases control with _ | (_ | _ | _) | (_ | _ | _ | _) | _ <;> cases waiting <;> exact trivial

namespace Gateway
variable {settings : Settings} {env : Env} {gateway after : Gateway} {event : GatewayEvent} {seen : List Obs}

theorem Routed.equipped {slot : Slot} {counter : Nat} {offered : StateMachine.Event}
    (routed : Routed gateway event slot counter offered)
    (equipped : ∀ bridge ∈ gateway.bridges, StateMachine.Equipped bridge.control bridge.ctx) :
    StateMachine.Equipped slot.bridge.control slot.bridge.ctx := by
  rcases routed.origin with ⟨found, _⟩ | ⟨rfl, _⟩
  · exact equipped _ (Slot.within found)
  · trivial

theorem processEvent_returns
    (equipped : ∀ bridge ∈ gateway.bridges, StateMachine.Equipped bridge.control bridge.ctx) :
    Returns (gateway.processEvent settings env event) ↔ ¬ Escapes settings env gateway event := by
  cases routed : gateway.route event with
  | none =>
    obtain ⟨shown, returned, _⟩ := processEvent_unrouted settings env routed
    refine iff_of_true ⟨_, returned⟩ ?_
    rintro ⟨slot, counter, offered, actions, target, found, _⟩
    rw [routed] at found
    cases found
  | some target =>
    obtain ⟨⟨slot, counter⟩, offered⟩ := target
    rw [processEvent_routed routed, deliver, returns_bind_pure]
    have promised := (route_routed routed).equipped equipped
    cases selected : StateMachine.select settings slot.bridge.control offered with
    | none =>
      simp only [StateMachine.processEvent, selected]
      refine iff_of_true (returns_pure _) ?_
      rintro ⟨_, _, _, actions, target, found, taken, _⟩
      rw [routed] at found
      cases found
      rw [selected] at taken
      cases taken
    | some chosen =>
      obtain ⟨actions, target⟩ := chosen
      simp only [StateMachine.processEvent, selected, returns_bind_pure]
      rw [StateMachine.runActions_returns (StateMachine.select_iff.mp selected) promised]
      constructor
      · rintro caught ⟨_, _, _, others, reached, found, taken, action, member, uncaught⟩
        rw [routed] at found
        cases found
        rw [selected] at taken
        cases taken
        exact caught action member uncaught
      · intro caught action member uncaught
        exact caught ⟨slot, counter, offered, actions, target, routed, selected, action, member, uncaught⟩

theorem Handled.contained (handled : Handled settings env gateway event after seen) (numbered : gateway.WellNumbered) :
    (∀ ctx name, SetUpFailed seen ctx name →
      (∃ bridge ∈ after.bridges, bridge.ctx.id = ctx) ∧ ∃ prm, .internalError ctx prm ∈ after.internalEvents) ∧
    ∃ served, (∀ ctx name, .action ctx name ∈ seen → ctx = served) ∧
      ∀ bridge ∈ gateway.bridges, bridge.ctx.id ≠ served → bridge ∈ after.bridges := by
  have deed : ∀ {ctx name}, .action ctx name ∈ seen → .action ctx name ∈ seen.filter Obs.deed :=
    fun member => List.mem_filter.mpr ⟨member, rfl⟩
  cases handled with
  | passed unrouted quiet =>
    have silent : ∀ ctx name, .action ctx name ∉ seen := fun ctx name member => by cases quiet _ member
    exact ⟨fun ctx name failed => absurd failed.2.1 (silent ctx name), 0,
      fun ctx name member => absurd member (silent ctx name), fun bridge member _ => member⟩
  | @offered slot counter offered control ctx errors _ _ routed handles bridges counted queued touched =>
    have own := handles.own
    refine ⟨?_, slot.bridge.ctx.id, fun ctx name member => own.author (deed member) rfl, ?_⟩
    · rintro number name ⟨setUp, ran, missed⟩
      have same : number = slot.bridge.ctx.id := own.author (deed ran) rfl
      have ran := deed ran
      have missed : ∀ obs ∈ seen.filter Obs.deed, ¬ obs.completes number name :=
        fun obs member => missed obs (List.mem_of_mem_filter member)
      generalize seen.filter Obs.deed = deeds at *
      cases handles with
      | dropped ignored => cases ran
      | taken transition effects =>
        obtain ⟨⟨action, member, named⟩, outcome⟩ := effects.setUp setUp ran
        have stays := transition.stays member (by rw [named]; exact setUp)
        refine ⟨⟨⟨control, ctx⟩, ?_, own.id.trans same.symm⟩, ?_⟩
        · rw [bridges]
          have here : ⟨control, ctx⟩ ∈ kept event control ctx := mem_kept.mpr ⟨rfl, fun gone => stays gone.2⟩
          simp [here]
        · rcases outcome with ⟨obs, shown, completes⟩ | ⟨prm, queuedError⟩
          · exact absurd completes (missed obs shown)
          · refine ⟨prm, ?_⟩
            have held : .internalError number prm ∈ after.errors := by rw [queued]; simp [queuedError]
            exact List.mem_of_mem_filter held
    · intro bridge member different
      have other := (routed.others numbered bridge).mpr ⟨member, different⟩
      rw [bridges]
      simp only [List.mem_append] at other ⊢
      tauto

end Gateway

/-- In every state that the process can reach, whatever is handled and whatever the external
calls answer: the failure stays with its bridge unless it is one of those without a handler. -/
theorem failure_contained_iff {settings : Settings} {cache : Cache} {maxCalls : Nat} {past : List Obs} {system : System}
    (reached : System.Reaches settings System.Anything (System.initial cache maxCalls) past system) (env : Env)
    (event : GatewayEvent) :
    Gateway.Contained settings env system.gateway event ↔ ¬ Gateway.Escapes settings env system.gateway event := by
  obtain ⟨numbered, equipped⟩ := (equipped_rule settings).run reached
  rw [← Gateway.processEvent_returns equipped]
  constructor
  · rintro ⟨after, seen, returned, _⟩
    exact ⟨_, returned⟩
  · rintro ⟨⟨after, seen⟩, returned⟩
    obtain ⟨setUps, others⟩ := (Gateway.processEvent_handled returned).contained numbered
    exact ⟨after, seen, returned, fun ctx name failed => .inl (setUps ctx name failed), others⟩

/-- `makeCall` throws. -/
def refusedDial : Env := { Env.success 42 7 1 with makeCall := { result := .error "PJSIP_EINVALIDURI" } }

/-- A call is being set up, and the INVITE for the next one is refused with a `pj::Error`. -/
theorem failure_contained_at_dial : ∃ past system after seen,
    System.Reaches { callbackUri := "sip:100@pbx" } System.Anything (System.initial {} 2) past system ∧
      system.gateway.processEvent { callbackUri := "sip:100@pbx" } refusedDial
        (.update (.call ⟨7, 42, false, .pending⟩)) = .ok (after, seen) ∧
      system.gateway.bridges.length = 1 ∧ after.bridges.length = 2 ∧
      .internalError 2 { statusCode := Actions.internalServerError, reason := "PJSIP_EINVALIDURI" } ∈
        after.internalEvents ∧
      Gateway.Contained { callbackUri := "sip:100@pbx" } refusedDial system.gateway
          (.update (.call ⟨7, 42, false, .pending⟩)) := by
  have ran : (execute (System.step { callbackUri := "sip:100@pbx" }) (fun _ _ _ => true)
      [.tdlib (.call ⟨5, 41, false, .pending⟩), .loop (Env.success 41 5 0), .loop (Env.success 41 5 0)]
        (System.initial {} 2)).any
      (fun result => (result.1.gateway.processEvent { callbackUri := "sip:100@pbx" } refusedDial
        (.update (.call ⟨7, 42, false, .pending⟩))).toOption.any fun returned =>
          decide (result.1.gateway.bridges.length = 1 ∧ returned.1.bridges.length = 2 ∧
            .internalError 2 { statusCode := Actions.internalServerError, reason := "PJSIP_EINVALIDURI" } ∈
              returned.1.internalEvents)) = true := by decide +kernel
  obtain ⟨system, past, reached, found⟩ := execute_any ran
  obtain ⟨⟨after, seen⟩, same, found⟩ := (Option.any_eq_true _ _).mp found
  obtain ⟨one, two, queued⟩ := of_decide_eq_true found
  have returned := ok_of_toOption same
  have equipped := ((equipped_rule { callbackUri := "sip:100@pbx" }).run reached).2
  refine ⟨past, system, after, seen, reached, returned, one, two, queued, ?_⟩
  exact (failure_contained_iff reached _ _).mpr ((Gateway.processEvent_returns equipped).mp ⟨_, returned⟩)

/-- A user that TDLib does not know ends the process. -/
theorem get_user_error_escapes :
    ¬ ∀ (settings : Settings) (cache : Cache) (maxCalls : Nat) (past : List Obs) (system : System),
    System.Reaches settings System.Anything (System.initial cache maxCalls) past system → ∀ (env : Env)
    (event : GatewayEvent),
      Gateway.Contained settings env system.gateway event := by
  intro always
  obtain ⟨after, seen, returned, _⟩ := always { callbackUri := "sip:100@pbx" } {} 1 [] _ .refl
    { Env.success 42 7 0 with getUser := .error ⟨404, "USER_NOT_FOUND"⟩ } (.update (.call ⟨7, 42, false, .pending⟩))
  have thrown : Gateway.processEvent { callbackUri := "sip:100@pbx" }
      { Env.success 42 7 0 with getUser := .error ⟨404, "USER_NOT_FOUND"⟩ } (System.initial {} 1).gateway
      (.update (.call ⟨7, 42, false, .pending⟩)) = .error (.runtimeError "USER_NOT_FOUND") := rfl
  rw [thrown] at returned
  cases returned

end Tg2Sip
