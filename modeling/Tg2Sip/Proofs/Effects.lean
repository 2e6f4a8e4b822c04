import Tg2Sip.Lib.Run
import Tg2Sip.Proofs.Transitions

/-! What an action amounts to for the bridge that runs it: the context it leaves, the
errors it queues and its deeds, which are the observations about calls and requests
without those of worker threads and of pjsua. And what it amounts to for everything that
bridges share: a sequence of touches, each of one part. Both relations forget how an
action gets there; `Proofs.ActionEffects` shows that the code never does anything else. -/

namespace Tg2Sip
open TdApi Lib

def Obs.deed : Obs → Bool
  | .action .. | .query .. | .sip .. | .started .. | .stopped .. | .associated .. => true
  | .given ctx .. => ctx.isSome
  | _ => false

def InternalEvent.isError : InternalEvent → Bool
  | .internalError .. => true
  | .signalingDataEmitted .. => false

def Deps.deeds (deps : Deps) : List Obs := deps.seen.filter Obs.deed

def World.errors (world : World) : List InternalEvent := world.internalEvents.filter InternalEvent.isError

/-- The context on whose behalf something was done. -/
def Obs.by : Obs → Option CtxId
  | .action ctx _ | .query ctx .. | .sip ctx .. | .ntg ctx .. | .registered ctx _ | .unregistered ctx _ | .started ctx
  | .stopped ctx | .associated ctx .. | .forwarded ctx _ | .updateSignaling ctx _ => some ctx
  | .given ctx .. => ctx
  | .callback _ | .emitted .. => none

/-- What an action can show without a change of the client or of the runtime. -/
def Obs.plain : Obs → Bool
  | .given .. | .callback _ | .emitted .. | .registered .. | .unregistered .. | .sip _ _ (.hangup ..) _
  | .forwarded .. | .updateSignaling .. => false
  | _ => true

/-- One part of what bridges share is changed, or something is only shown. -/
inductive Deps.Touch : Deps → List Obs → Deps → Prop where
  | context (deps : Deps) (ctx : Context) (same : ctx.id = deps.ctx.id) : Touch deps [] { deps with ctx }
  | shown (deps : Deps) (obs : Obs) (own : obs.by = some deps.ctx.id) (plain : obs.plain = true) :
      Touch deps [obs] (deps.observe obs)
  | failed (deps : Deps) (prm : Sip.CallOpParam) : Touch deps [] (deps.internalError prm)
  | emitted (deps : Deps) (blob : UserId × Bytes) : Touch deps [.emitted blob.1 blob.2] (deps.emit blob)
  | registered (deps : Deps) (user : UserId) :
      Touch deps [.registered deps.ctx.id user]
        { deps.observe (.registered deps.ctx.id user) with runtime := deps.runtime.register user deps.ctx.id }
  | unregistered (deps : Deps) (user : UserId) :
      Touch deps [.unregistered deps.ctx.id user]
        { deps.observe (.unregistered deps.ctx.id user) with runtime := deps.runtime.unregister user }
  | blocked (deps : Deps) (blockUntil : Time) : Touch deps [] { deps with blockUntil }
  | cached (deps : Deps) (cache : Cache) : Touch deps [] { deps with cache }
  | dialed (deps : Deps) (callbacks : List Sip.Callback) (id : Sip.CallId) :
      Touch deps (.given (some deps.ctx.id) id deps.sip.created :: callbacks.map .callback)
        { deps with sip := (deps.sip.dial ⟨callbacks, .ok id⟩).1
                    seen := deps.seen ++ .given (some deps.ctx.id) id deps.sip.created :: callbacks.map .callback }
  | undialed (deps : Deps) (callbacks : List Sip.Callback) (reason uri : String) (prm : Sip.CallOpParam) :
      Touch deps (callbacks.map .callback ++ [.sip deps.ctx.id .dialSip (.dial uri prm) false])
        { deps with sip := (deps.sip.dial ⟨callbacks, .error reason⟩).1
                    seen := deps.seen ++ (callbacks.map .callback ++
                      [.sip deps.ctx.id .dialSip (.dial uri prm) false]) }
  | hungUp (deps : Deps) (id : Sip.CallId) (call : Sip.CallRef) (held : deps.sip.calls id = some call)
      (prm : Sip.CallOpParam) (hangup : Sip.Outcome Unit) :
      Touch deps (.sip deps.ctx.id .cleanUp (.hangup id prm) hangup.result.toBool :: hangup.callbacks.map .callback)
        { deps with sip := (deps.sip.hangup id hangup).1
                    seen := deps.seen ++ .sip deps.ctx.id .cleanUp (.hangup id prm) hangup.result.toBool ::
                      hangup.callbacks.map .callback }
  | notHungUp (deps : Deps) (id : Sip.CallId) (absent : deps.sip.calls id = none) (prm : Sip.CallOpParam) :
      Touch deps [.sip deps.ctx.id .cleanUp (.hangup id prm) true]
        (deps.observe (.sip deps.ctx.id .cleanUp (.hangup id prm) true))

/-- Any number of touches. -/
def Deps.Touches (before after : Deps) : Prop := ∃ seen, Run Deps.Touch before seen after

/-- The functions that `DialTg` sends. -/
def TdApi.Function.dials : Function → Bool
  | .createCall .. | .importContacts .. | .searchPublicChat .. => true
  | _ => false

namespace Effect

def discards (env : Env) (ctx : Context) : List Obs :=
  if ctx.tgCallId ≠ 0 then
    [.query ctx.id .cleanUp (.discardCall ctx.tgCallId false "" 0 false ctx.tgCallId) env.discardCall.toBool]
  else []

def hangups (ctx : Context) (succeeded : Bool) : List Obs :=
  if ctx.sipCallId ≠ Sip.invalidId then
    [.sip ctx.id .cleanUp (.hangup ctx.sipCallId ctx.hangupPrm) succeeded] else []

def stops (ctx : Context) : List Obs := if ctx.controller.isSome = true then [.stopped ctx.id] else []

end Effect

/-- One action that did not throw: the context before and after, the errors it queued
and its deeds. -/
inductive Effect (settings : Settings) (env : Env) :
    Action → Context → Context → List InternalEvent → List Obs → Prop where
  | storeSipId (id : Sip.CallId) (ctx : Context) :
      Effect settings env (.storeSipId id) ctx { ctx with sipCallId := id } []
        [.associated ctx.id .storeSipId (.sip id)]
  | storeTgId (call : Call) (ctx : Context) :
      Effect settings env (.storeTgId call) ctx { ctx with tgCallId := call.id } []
        [.associated ctx.id .storeTgId (.tg call.id)]
  | storeTgUserId (call : Call) (ctx : Context) :
      Effect settings env (.storeTgUserId call) ctx { ctx with userId := call.userId } [] []
  | cleanTgId (ctx : Context) : Effect settings env .cleanTgId ctx { ctx with tgCallId := 0 } [] []
  | cleanSipId (ctx : Context) :
      Effect settings env .cleanSipId ctx { ctx with sipCallId := Sip.invalidId } [] []
  | setHangupPrm (prm : Sip.CallOpParam) (ctx : Context) :
      Effect settings env (.setHangupPrm prm) ctx { ctx with hangupPrm := prm } [] []
  | cleanUp (ctx : Context) (controller : Option Voip.TgCallsController) (ended : Bool)
      (same : controller.isSome = ctx.controller.isSome) :
      Effect settings env .cleanUp ctx { ctx with tgCallId := 0, sipCallId := Sip.invalidId, controller } []
        (Effect.stops ctx ++ Effect.discards env ctx ++ Effect.hangups ctx ended)
  | dialedSip (call : Call) (ctx : Context) (prm : Sip.CallOpParam) (id : Sip.CallId) (created : Sip.CallRef)
      (dialed : env.makeCall.result = .ok id) :
      Effect settings env (.dialSip call) ctx { ctx with sipCallId := id } []
        [.query ctx.id .dialSip (.getUser call.userId) true, .given (some ctx.id) id created,
          .sip ctx.id .dialSip (.dial settings.callbackUri prm) true, .associated ctx.id .dialSip (.sip id)]
  | refusedSip (call : Call) (ctx : Context) (prm : Sip.CallOpParam) (reason : String)
      (refused : env.makeCall.result = .error reason) :
      Effect settings env (.dialSip call) ctx ctx
        [.internalError ctx.id { statusCode := Actions.internalServerError, reason }]
        [.query ctx.id .dialSip (.getUser call.userId) true,
          .sip ctx.id .dialSip (.dial settings.callbackUri prm) false]
  | acceptedTg (ctx : Context) (accepted : env.acceptCall = .ok ()) :
      Effect settings env .answerTg ctx ctx []
        [.query ctx.id .answerTg (.acceptCall ctx.tgCallId (Actions.protocol settings env)) true]
  | refusedTg (ctx : Context) (error : Error) (refused : env.acceptCall = .error error) :
      Effect settings env .answerTg ctx ctx [.internalError ctx.id (Actions.errorPrm error)]
        [.query ctx.id .answerTg (.acceptCall ctx.tgCallId (Actions.protocol settings env)) false]
  | rang (ext : String) (ctx parsed : Context) (valid : Actions.parseExtension ext ctx = some parsed) :
      Effect settings env (.acceptIncomingSip ext) ctx parsed []
        [.sip ctx.id .acceptIncomingSip (.answer ctx.sipCallId { statusCode := Actions.ringing }) true]
  | silent (ext : String) (ctx parsed : Context) (prm : Sip.CallOpParam)
      (valid : Actions.parseExtension ext ctx = some parsed) :
      Effect settings env (.acceptIncomingSip ext) ctx parsed [.internalError ctx.id prm]
        [.sip ctx.id .acceptIncomingSip (.answer ctx.sipCallId { statusCode := Actions.ringing }) false]
  | badExtension (ext : String) (ctx : Context) (invalid : Actions.parseExtension ext ctx = none) :
      Effect settings env (.acceptIncomingSip ext) ctx ctx
        [.internalError ctx.id { statusCode := Actions.badExtension }] []
  | answeredSip (ctx : Context) :
      Effect settings env .answerSip ctx ctx []
        [.sip ctx.id .answerSip (.answer ctx.sipCallId { statusCode := Actions.ok }) true]
  | unansweredSip (ctx : Context) (prm : Sip.CallOpParam) :
      Effect settings env .answerSip ctx ctx [.internalError ctx.id prm]
        [.sip ctx.id .answerSip (.answer ctx.sipCallId { statusCode := Actions.ok }) false]
  | createdTgVoip (call : Call) (ctx : Context) (controller : Voip.TgCallsController)
      (user : controller.userId = ctx.userId) (live : controller.created = true ∧ controller.registered = true) :
      Effect settings env (.createTgVoip call) ctx { ctx with controller := some controller } [] [.started ctx.id]
  | bridged (ctx : Context) (controller : Voip.TgCallsController) (present : ctx.controller = some controller) :
      Effect settings env .bridgeAudio ctx ctx [] [.sip ctx.id .bridgeAudio (.bridgeAudio ctx.sipCallId) true]
  | unbridged (ctx : Context) (controller : Voip.TgCallsController) (prm : Sip.CallOpParam)
      (present : ctx.controller = some controller) :
      Effect settings env .bridgeAudio ctx ctx [.internalError ctx.id prm]
        [.sip ctx.id .bridgeAudio (.bridgeAudio ctx.sipCallId) false]
  | dialedTg (ctx : Context) (lookups : List (Function × Bool)) (user : UserId) (id : TgCallId)
      (dials : ∀ lookup ∈ lookups, lookup.1.dials = true) (created : env.createCall = .ok id) :
      Effect settings env .dialTg ctx { ctx with userId := user, tgCallId := id } []
        (lookups.map (fun lookup => .query ctx.id .dialTg lookup.1 lookup.2) ++ [.associated ctx.id .dialTg (.tg id)])
  | undialedTg (ctx : Context) (lookups : List (Function × Bool)) (user : UserId) (prm : Sip.CallOpParam)
      (dials : ∀ lookup ∈ lookups, lookup.1.dials = true) :
      Effect settings env .dialTg ctx { ctx with userId := user } [.internalError ctx.id prm]
        (lookups.map (fun lookup => .query ctx.id .dialTg lookup.1 lookup.2))
  | dtmf (message : Message) (ctx : Context) (text : String) (succeeded : Bool)
      (content : message.content = .text text) :
      Effect settings env (.dialDtmf message) ctx ctx []
        [.sip ctx.id .dialDtmf (.dialDtmf ctx.sipCallId text) succeeded]

/-- The actions of a transition one after the other. -/
inductive Effects (settings : Settings) (env : Env) :
    List Action → Context → Context → List InternalEvent → List Obs → Prop where
  | nil (ctx : Context) : Effects settings env [] ctx ctx [] []
  | cons {action : Action} {actions : List Action} {ctx middle final : Context}
      {errors later : List InternalEvent} {deeds next : List Obs}
      (first : Effect settings env action ctx middle errors deeds)
      (rest : Effects settings env actions middle final later next) :
      Effects settings env (action :: actions) ctx final (errors ++ later)
        (.action ctx.id action.name :: deeds ++ next)

section Sequences
variable {settings : Settings} {env : Env} {ctx final : Context} {errors : List InternalEvent} {deeds : List Obs}

theorem Effects.one {action : Action} (effects : Effects settings env [action] ctx final errors deeds) : ∃ shown,
    Effect settings env action ctx final errors shown ∧ deeds = .action ctx.id action.name :: shown := by
  cases effects with
  | cons first rest => cases rest; exact ⟨_, by simpa using first, by simp⟩

theorem Effects.two {action last : Action} (effects : Effects settings env [action, last] ctx final errors deeds) :
    ∃ middle queued later shown next, Effect settings env action ctx middle queued shown ∧
      Effect settings env last middle final later next ∧ errors = queued ++ later ∧
      deeds = .action ctx.id action.name :: shown ++ .action middle.id last.name :: next := by
  cases effects with
  | cons first rest =>
    obtain ⟨next, second, rfl⟩ := rest.one
    exact ⟨_, _, _, _, next, first, second, rfl, rfl⟩

theorem Effects.three {action second last : Action}
    (effects : Effects settings env [action, second, last] ctx final errors deeds) :
    ∃ middle queued later shown next, Effect settings env action ctx middle queued shown ∧
      Effects settings env [second, last] middle final later next ∧ errors = queued ++ later ∧
      deeds = .action ctx.id action.name :: shown ++ next := by
  cases effects with
  | cons first rest => exact ⟨_, _, _, _, _, first, rest, rfl, rfl⟩

/-- Every deed of a sequence is the start of an action or a deed of one of them. -/
theorem Effects.deed {actions : List Action} (effects : Effects settings env actions ctx final errors deeds) {obs : Obs}
    (member : obs ∈ deeds) : (∃ number, ∃ action ∈ actions, obs = .action number action.name) ∨
      ∃ action ∈ actions, ∃ before after queued shown, Effect settings env action before after queued shown ∧
        obs ∈ shown ∧ ∀ other ∈ shown, other ∈ deeds := by
  induction effects with
  | nil ctx => cases member
  | @cons action actions ctx middle final errors later shown next first rest ih =>
    simp only [List.cons_append, List.mem_cons, List.mem_append] at member
    rcases member with rfl | member | member
    · exact .inl ⟨_, action, by simp, rfl⟩
    · exact .inr ⟨action, by simp, _, _, _, _, first, member, fun other held => by simp [held]⟩
    · rcases ih member with ⟨number, taken, held, same⟩ | ⟨taken, held, before, after, queued, shown, effect, seen, all⟩
      · exact .inl ⟨number, taken, by simp [held], same⟩
      · exact .inr ⟨taken, by simp [held], before, after, queued, shown, effect, seen, fun other seen => by
          simp [all other seen]⟩

end Sequences

/-- One event offered to one machine: it is dropped, or a transition is taken. -/
inductive Handles (settings : Settings) (env : Env) (event : StateMachine.Event) :
    StateMachine.Control → Context → StateMachine.Control → Context → List InternalEvent → List Obs → Prop where
  | dropped {control : StateMachine.Control} {ctx : Context}
      (ignored : StateMachine.select settings control event = none) :
      Handles settings env event control ctx control ctx [] []
  | taken {control target : StateMachine.Control} {actions : List Action} {ctx final : Context}
      {errors : List InternalEvent} {deeds : List Obs}
      (transition : StateMachine.Transition settings control event actions target)
      (effects : Effects settings env actions ctx final errors deeds) :
      Handles settings env event control ctx target final errors deeds

end Tg2Sip
