import Tg2Sip.Proofs.Dialing

/-! The way of a blob. Workers emit it under the id of a user, the runtime finds the sink of that user, the
queue keeps it under the context of the sink, and the gateway thread sends it. What a worker emits
before the sink is there is lost, and nothing else is. -/

namespace Tg2Sip
open TdApi Lib

/-- What workers write to: the sinks, and the blobs in the queue with their contexts. -/
structure Wire where
  sinks : Map UserId CtxId
  queued : List (CtxId × Bytes)

def InternalEvent.blob : InternalEvent → Option (CtxId × Bytes)
  | .signalingDataEmitted ctx data => some (ctx, data)
  | .internalError .. => none

def World.wire (world : World) : Wire := ⟨world.runtime.sinks, world.internalEvents.filterMap InternalEvent.blob⟩

namespace Wire

def next (wire : Wire) : Obs → Wire
  | .registered ctx user => { wire with sinks := wire.sinks.assign user ctx }
  | .unregistered _ user => { wire with sinks := wire.sinks.erase user }
  | .emitted user data =>
    match wire.sinks user with
    | some ctx => { wire with queued := wire.queued ++ [(ctx, data)] }
    | none => wire
  | _ => wire

/-- The blobs of a context that are still in the queue. -/
def waiting (wire : Wire) (ctx : CtxId) : List Bytes := (wire.queued.filter (·.1 == ctx)).map Prod.snd

variable (wire : Wire) (user : UserId) (data : Bytes)

@[simp] theorem sinks_emitted : (wire.next (.emitted user data)).sinks = wire.sinks := by
  simp only [next]
  split <;> rfl

theorem waiting_emitted (ctx : CtxId) : (wire.next (.emitted user data)).waiting ctx =
    wire.waiting ctx ++ if wire.sinks user = some ctx then [data] else [] := by
  simp only [next]
  cases sink : wire.sinks user with
  | none => simp
  | some other => by_cases same : other = ctx <;> simp [waiting, same]

end Wire

/-- What a context can still hear: nothing, from `ntg_connect_p2p` on a user whose sink is missing, and
from `Register` to `Unregister` a user with a sink. -/
inductive Line where
  | idle
  | connecting (user : UserId)
  | listening (user : UserId)
  deriving DecidableEq, Repr

/-- The blobs emitted for a context since `ntg_connect_p2p` was issued, those of them that were emitted
before `Register`, and the blobs that were sent for it. -/
structure Tap where
  line : Line := .idle
  blobs : List Bytes := []
  early : List Bytes := []
  sent : List Bytes := []
  deriving DecidableEq, Repr

def Tap.hear (tap : Tap) (user : UserId) (data : Bytes) : Tap :=
  match tap.line with
  | .idle => tap
  | .connecting peer =>
    if user = peer then { tap with blobs := tap.blobs ++ [data], early := tap.early ++ [data] } else tap
  | .listening peer => if user = peer then { tap with blobs := tap.blobs ++ [data] } else tap

def Tap.next (ctx : CtxId) (tap : Tap) : Obs → Tap
  | .ntg number user (.connectP2p ..) => if number = ctx then { tap with line := .connecting user } else tap
  | .registered number user => if number = ctx then { tap with line := .listening user } else tap
  | .unregistered number _ => if number = ctx then { tap with line := .idle } else tap
  | .emitted user data => tap.hear user data
  | .forwarded number (.sendCallSignalingData _ data) =>
    if number = ctx then { tap with sent := tap.sent ++ [data] } else tap
  | _ => tap

def tapped (ctx : CtxId) (past : List Obs) : Tap := past.foldl (Tap.next ctx) {}

/-- The sink of a context is there while it listens, and every blob that was not early is sent or in the
queue, in order. -/
structure Relayed (ctx : CtxId) (line : Line) (tap : Tap) (wire : Wire) : Prop where
  held : tap.line = line
  sinks : ∀ user, wire.sinks user = some ctx ↔ line = .listening user
  relayed : tap.blobs = tap.early ++ (tap.sent ++ wire.waiting ctx)
  unheard : (∀ user, line ≠ .listening user) → tap.sent ++ wire.waiting ctx = []

/-- What leaves the line of a context as it is. -/
def Obs.spares (ctx : CtxId) (line : Line) : Obs → Prop
  | .ntg number _ (.connectP2p ..) | .forwarded number _ => number ≠ ctx
  | .registered number user | .unregistered number user => number ≠ ctx ∧ line ≠ .listening user
  | _ => True

namespace Relayed
variable {ctx : CtxId} {line : Line} {tap : Tap} {wire : Wire} {user : UserId}

theorem hear (relayed : Relayed ctx line tap wire) (data : Bytes) :
    Relayed ctx line (tap.hear user data) (wire.next (.emitted user data)) := by
  obtain ⟨rfl, sinks, all, unheard⟩ := relayed
  obtain ⟨line, blobs, early, sent⟩ := tap
  dsimp only at sinks all unheard ⊢
  have kept : ∀ user, (wire.next (.emitted user data)).sinks user = some ctx ↔ line = .listening user := by
    simpa using sinks
  have queue := wire.waiting_emitted user data ctx
  simp only [sinks user] at queue
  cases line with
  | idle =>
    simp only [reduceCtorEq, if_false, List.append_nil] at queue
    exact ⟨rfl, by simpa using sinks, by simpa [Tap.hear, queue] using all, by simpa [Tap.hear, queue] using unheard⟩
  | connecting peer =>
    simp only [reduceCtorEq, if_false, List.append_nil] at queue
    have nothing := unheard (by simp)
    rw [nothing, List.append_nil] at all
    by_cases same : user = peer
    · subst same
      refine ⟨by simp [Tap.hear], by simpa using sinks, ?_, fun _ => ?_⟩
      · simp only [Tap.hear, if_true, queue, nothing, all, List.append_nil]
      · simp only [Tap.hear, if_true, queue, nothing]
    · refine ⟨by simp [Tap.hear, same], by simpa using sinks, ?_, fun _ => ?_⟩
      · simp only [Tap.hear, same, if_false, queue, nothing, all, List.append_nil]
      · simp only [Tap.hear, same, if_false, queue, nothing]
  | listening peer =>
    refine ⟨by simp only [Tap.hear]; split <;> rfl, by simpa using sinks, ?_, fun deaf => absurd rfl (deaf peer)⟩
    by_cases same : user = peer
    · simp only [same, if_true] at queue
      simp [Tap.hear, same, queue, all]
    · simp only [Line.listening.injEq, Ne.symm same, if_false, List.append_nil] at queue
      simpa [Tap.hear, same, queue] using all

/-- What leaves the line as it is loses and reorders nothing. -/
theorem next (relayed : Relayed ctx line tap wire) {obs : Obs} (spares : obs.spares ctx line) :
    Relayed ctx line (tap.next ctx obs) (wire.next obs) := by
  obtain ⟨held, sinks, all, unheard⟩ := relayed
  cases obs with
  | emitted user data => exact hear ⟨held, sinks, all, unheard⟩ data
  | registered number user =>
    obtain ⟨other, apart⟩ := spares
    simp only [Tap.next, other, if_false]
    refine ⟨held, fun peer => ?_, all, unheard⟩
    by_cases same : peer = user
    · subst same
      simp [Wire.next, other, apart]
    · simpa [Wire.next, same] using sinks peer
  | unregistered number user =>
    obtain ⟨other, apart⟩ := spares
    simp only [Tap.next, other, if_false]
    refine ⟨held, fun peer => ?_, all, unheard⟩
    by_cases same : peer = user
    · subst same
      simp [Wire.next, apart]
    · simpa [Wire.next, same] using sinks peer
  | ntg number user call =>
    cases call with
    | connectP2p =>
      simp only [Tap.next, show ¬ number = ctx from spares, if_false]
      exact ⟨held, sinks, all, unheard⟩
    | _ => exact ⟨held, sinks, all, unheard⟩
  | forwarded number function =>
    cases function with
    | sendCallSignalingData =>
      simp only [Tap.next, show ¬ number = ctx from spares, if_false]
      exact ⟨held, sinks, all, unheard⟩
    | _ => exact ⟨held, sinks, all, unheard⟩
  | _ => exact ⟨held, sinks, all, unheard⟩

theorem run (relayed : Relayed ctx line tap wire) {seen : List Obs} (spares : ∀ obs ∈ seen, obs.spares ctx line) :
    Relayed ctx line (seen.foldl (Tap.next ctx) tap) (seen.foldl Wire.next wire) := by
  induction seen generalizing tap wire with
  | nil => exact relayed
  | cons obs seen ih =>
    exact ih (relayed.next (spares obs (by simp))) fun other member => spares other (by simp [member])

/-- The head of the queue is for a context that listens, and when it is sent it was the next to be sent. -/
theorem forward {sinks : Map UserId CtxId} {data : Bytes} {queued : List (CtxId × Bytes)}
    (relayed : Relayed ctx line tap ⟨sinks, (ctx, data) :: queued⟩) : (∃ user, line = .listening user) ∧
      ∀ id, Relayed ctx line (tap.next ctx (.forwarded ctx (.sendCallSignalingData id data))) ⟨sinks, queued⟩ := by
  have head : (⟨sinks, (ctx, data) :: queued⟩ : Wire).waiting ctx = data :: (⟨sinks, queued⟩ : Wire).waiting ctx := by
    simp [Wire.waiting]
  have listens : ∃ user, line = .listening user := by
    by_contra deaf
    have nothing := relayed.unheard fun user same => deaf ⟨user, same⟩
    simp [head] at nothing
  obtain ⟨user, rfl⟩ := listens
  refine ⟨⟨user, rfl⟩, fun id => ?_⟩
  simp only [Tap.next, if_true]
  exact ⟨relayed.held, relayed.sinks, by simp [relayed.relayed, head], fun deaf => absurd rfl (deaf user)⟩

theorem other {sinks : Map UserId CtxId} {number : CtxId} {data : Bytes} {queued : List (CtxId × Bytes)}
    (relayed : Relayed ctx line tap ⟨sinks, (number, data) :: queued⟩) (different : number ≠ ctx) :
    Relayed ctx line tap ⟨sinks, queued⟩ := by
  have same : (⟨sinks, (number, data) :: queued⟩ : Wire).waiting ctx = (⟨sinks, queued⟩ : Wire).waiting ctx := by
    simp [Wire.waiting, different]
  exact ⟨relayed.held, relayed.sinks, same ▸ relayed.relayed, same ▸ relayed.unheard⟩

theorem connect (relayed : Relayed ctx .idle tap wire) (user : UserId) (servers : List Voip.RtcServer)
    (versions : List String) (enableP2p : Bool) :
    Relayed ctx (.connecting user) (tap.next ctx (.ntg ctx user (.connectP2p servers versions enableP2p)))
      (wire.next (.ntg ctx user (.connectP2p servers versions enableP2p))) := by
  simp only [Tap.next, if_true]
  exact ⟨rfl, by simpa [Wire.next] using relayed.sinks, relayed.relayed, fun _ => relayed.unheard (by simp)⟩

theorem register {peer : UserId} (relayed : Relayed ctx (.connecting peer) tap wire) (user : UserId) :
    Relayed ctx (.listening user) (tap.next ctx (.registered ctx user)) (wire.next (.registered ctx user)) := by
  simp only [Tap.next, if_true]
  refine ⟨rfl, fun other => ?_, relayed.relayed, fun deaf => absurd rfl (deaf user)⟩
  by_cases same : other = user
  · simp [Wire.next, same]
  · simpa [Wire.next, same, Ne.symm same] using relayed.sinks other

end Relayed

/-- What lines notice. -/
def Obs.wired : Obs → Bool
  | .emitted .. | .ntg .. | .registered .. | .unregistered .. | .forwarded .. => true
  | _ => false

theorem Obs.spares_of_unwired {obs : Obs} (unwired : obs.wired = false) (ctx : CtxId) (line : Line) :
    obs.spares ctx line := by
  cases obs <;> trivial

theorem Tap.foldl_wired (ctx : CtxId) (seen : List Obs) (tap : Tap) :
    seen.foldl (Tap.next ctx) tap = (seen.filter Obs.wired).foldl (Tap.next ctx) tap :=
  foldl_noticed (fun obs _ unwired _ => by cases obs <;> first | rfl | cases unwired) tap

theorem Wire.foldl_wired (seen : List Obs) (wire : Wire) :
    seen.foldl Wire.next wire = (seen.filter Obs.wired).foldl Wire.next wire :=
  foldl_noticed (fun obs _ unwired _ => by cases obs <;> first | rfl | cases unwired) wire

theorem World.wire_emit (world : World) (blob : UserId × Bytes) :
    (world.emit blob).wire = world.wire.next (.emitted blob.1 blob.2) := by
  simp only [World.emit, World.wire, Voip.Runtime.dispatch, Wire.next]
  cases world.runtime.sinks blob.1 with
  | none => rfl
  | some ctx => simp [InternalEvent.blob]

namespace Deps

theorem Touch.wire {before after : Deps} {seen : List Obs} (touch : Touch before seen after) :
    after.wire = seen.foldl Wire.next before.wire := by
  have called : ∀ (callbacks : List Sip.Callback) (wire : Wire),
      (callbacks.map Obs.callback).foldl Wire.next wire = wire := by
    intro callbacks wire
    induction callbacks with
    | nil => rfl
    | cons callback callbacks ih => exact ih
  cases touch with
  | shown obs own plain => cases obs <;> first | rfl | cases plain
  | failed prm => simp [internalError, World.wire, InternalEvent.blob]
  | emitted blob => exact World.wire_emit _ blob
  | dialed callbacks id => exact (called _ _).symm
  | undialed callbacks => rw [List.foldl_append, called]; rfl
  | hungUp id call held prm hangup => exact (called _ _).symm
  | _ => rfl

theorem run_wire {before after : Deps} {seen : List Obs} (run : Run Touch before seen after) :
    after.wire = seen.foldl Wire.next before.wire :=
  run.view (fun deps => deps.wire) Wire.next fun _ _ _ touch => touch.wire

def wired (deps : Deps) : List Obs := deps.seen.filter Obs.wired

@[simp] theorem wired_observe (deps : Deps) (obs : Obs) :
    (deps.observe obs).wired = deps.wired ++ [obs].filter Obs.wired := by
  simp [wired, observe]

@[simp] theorem wired_request (deps : Deps) (name : ActionName) (request : SipRequest) (succeeded : Bool) :
    (deps.request name request succeeded).wired = deps.wired := by
  simp [Deps.request, Obs.wired]

@[simp] theorem wired_query (deps : Deps) (name : ActionName) (function : Function) (succeeded : Bool) :
    (deps.query name function succeeded).wired = deps.wired := by
  simp [Deps.query, Obs.wired]

@[simp] theorem wired_internalError (deps : Deps) (prm : Sip.CallOpParam) :
    (deps.internalError prm).wired = deps.wired := rfl

theorem emitAll_seen (deps : Deps) (blobs : List (UserId × Bytes)) :
    (deps.emitAll blobs).seen = deps.seen ++ blobs.map fun blob => .emitted blob.1 blob.2 := by
  induction blobs generalizing deps with
  | nil => simp [emitAll]
  | cons blob blobs ih =>
    refine (ih (deps.emit blob)).trans ?_
    simp [emit, observe]

end Deps

namespace Actions
open Voip

section Starting
variable {env : Env} {before after : TgCallsController × Deps}

/-- What a step of `Start` shows. -/
def startShows (env : Env) (ctx : CtxId) (controller : TgCallsController) (step : StartStep) : List Obs :=
  (env.emittedBeforeStart step).map (fun blob => .emitted blob.1 blob.2) ++
    (((controller.startCall step).map (.ntg ctx controller.userId)).toList ++
      if step = .register then [.registered ctx controller.userId] else [])

private theorem waitFor_seen {userId : UserId} {call : Option NtgCall} {deps final : Deps}
    (ran : waitFor env userId call deps = .ok final) :
    final.seen = deps.seen ++ (call.map (.ntg deps.ctx.id userId)).toList := by
  cases call with
  | none => cases ran; simp
  | some call =>
    obtain ⟨_, _, returned⟩ := bind_ok_iff.mp ran
    cases returned
    rfl

private theorem startShows_congr {ctx : CtxId} {controller other : TgCallsController}
    (user : other.userId = controller.userId)
    (calls : ∀ step, other.startCall step = controller.startCall step) :
    startShows env ctx other = startShows env ctx controller := by
  funext step
  simp only [startShows, user, calls]

private theorem startStep_shows {step : StartStep} (ran : startStep env before step = .ok after) :
    after.2.seen = before.2.seen ++ startShows env before.2.ctx.id before.1 step ∧ after.2.ctx.id = before.2.ctx.id ∧
      startShows env after.2.ctx.id after.1 = startShows env before.2.ctx.id before.1 := by
  obtain ⟨waited, ready, rfl⟩ := startStep_ok.mp ran
  have ctx : waited.ctx = before.2.ctx := (waitFor_quiet ready).ctx.trans (Deps.Quiet.emitAll _ _).ctx
  have seen := waitFor_seen ready
  rw [Deps.emitAll_seen, (Deps.Quiet.emitAll _ _).ctx] at seen
  refine ⟨?_, ?_, ?_⟩
  · cases step <;>
      simp [startEnd, startShows, TgCallsController.started, TgCallsController.startCall, Deps.observe, seen, ctx]
  · cases step <;> simp [startEnd, TgCallsController.started, Deps.observe, ctx]
  · have same : (startEnd before.1 step waited).2.ctx.id = before.2.ctx.id := by
      cases step <;> simp [startEnd, Deps.observe, ctx]
    rw [same]
    refine startShows_congr ?_ fun next => ?_
    · cases step <;> rfl
    · cases step <;> cases next <;> rfl

private theorem startShows_wired {ctx : CtxId} {controller : TgCallsController} (steps : List StartStep) :
    (steps.flatMap (startShows env ctx controller)).filter Obs.wired =
      steps.flatMap (startShows env ctx controller) := by
  refine List.filter_eq_self.mpr fun obs member => ?_
  obtain ⟨step, _, member⟩ := List.mem_flatMap.mp member
  simp only [startShows, List.mem_append, List.mem_map, Option.mem_toList, Option.map_eq_some_iff] at member
  rcases member with ⟨blob, _, rfl⟩ | ⟨call, _, rfl⟩ | shown
  · rfl
  · rfl
  · split at shown
    · rw [List.mem_singleton.mp shown]; rfl
    · cases shown

theorem start_shows {controller : TgCallsController} {deps : Deps} (ran : start env controller deps = .ok after) :
    after.2.seen = deps.seen ++ TgCallsController.startSteps.flatMap (startShows env deps.ctx.id controller) := by
  have steps : ∀ (steps : List StartStep) {before : TgCallsController × Deps},
    steps.foldlM (startStep env) before = .ok after →
      after.2.seen = before.2.seen ++ steps.flatMap (startShows env before.2.ctx.id before.1) := by
    intro steps
    induction steps with
    | nil => intro before ran; cases ran; simp
    | cons step steps ih =>
      intro before ran
      obtain ⟨middle, first, rest⟩ := foldlM_cons_ok.mp ran
      obtain ⟨seen, _, same⟩ := startStep_shows first
      rw [ih rest, seen, same, List.flatMap_cons, List.append_assoc]
  exact steps _ ran

end Starting

section Lines
variable {env : Env} {ctx : CtxId} {controller : TgCallsController} {tap : Tap} {wire : Wire}

private theorem emitted_spares {line : Line} (blobs : List (UserId × Bytes)) :
    ∀ obs ∈ blobs.map (fun blob => Obs.emitted blob.1 blob.2), obs.spares ctx line := by
  intro obs member
  obtain ⟨blob, _, rfl⟩ := List.mem_map.mp member
  trivial

private theorem startShows_spare (env : Env) (ctx : CtxId) (controller : TgCallsController) {line : Line}
    (steps : List StartStep) (connect : .connectP2p ∉ steps) (register : .register ∉ steps) :
    ∀ obs ∈ steps.flatMap (startShows env ctx controller), obs.spares ctx line := by
  intro obs member
  obtain ⟨step, taken, member⟩ := List.mem_flatMap.mp member
  rcases List.mem_append.mp member with emitted | shown
  · exact emitted_spares _ obs emitted
  · cases step with
    | connectP2p => exact absurd taken connect
    | register => exact absurd taken register
    | startAudioInput | startAudioOutput | startMicFeeder => simp [TgCallsController.startCall] at shown
    | _ =>
      simp only [TgCallsController.startCall, Option.map_some, Option.toList_some, reduceCtorEq, if_false,
        List.append_nil, List.mem_singleton] at shown
      rw [shown]
      trivial

/-- Workers may emit anywhere during `Start`, and the sink is missing from `ntg_connect_p2p` on until it is
registered. -/
theorem start_relays (relayed : Relayed ctx .idle tap wire) :
    Relayed ctx (.listening controller.userId)
      ((TgCallsController.startSteps.flatMap (startShows env ctx controller)).foldl (Tap.next ctx) tap)
      ((TgCallsController.startSteps.flatMap (startShows env ctx controller)).foldl Wire.next wire) := by
  have connects : startShows env ctx controller .connectP2p =
      (env.emittedBeforeStart .connectP2p).map (fun blob => .emitted blob.1 blob.2) ++
        [.ntg ctx controller.userId (.connectP2p controller.rtcServers supportedVersions controller.enableP2p)] := by
    simp [startShows, TgCallsController.startCall]
  have registers : startShows env ctx controller .register =
      (env.emittedBeforeStart .register).map (fun blob => .emitted blob.1 blob.2) ++
          [.registered ctx controller.userId] := by
    simp [startShows, TgCallsController.startCall]
  have split : TgCallsController.startSteps.flatMap (startShows env ctx controller) =
      [StartStep.createP2p, .setCaptureSources, .setPlaybackSources, .skipExchange].flatMap
        (startShows env ctx controller) ++
        (startShows env ctx controller .connectP2p ++ (startShows env ctx controller .register ++
          [StartStep.startAudioInput, .startAudioOutput, .startMicFeeder].flatMap
              (startShows env ctx controller))) := by
    simp [TgCallsController.startSteps]
  have ahead := relayed.run (startShows_spare env ctx controller
    [.createP2p, .setCaptureSources, .setPlaybackSources, .skipExchange] (by decide) (by decide))
  have idle := ahead.run (emitted_spares (env.emittedBeforeStart .connectP2p))
  have connecting := idle.connect controller.userId controller.rtcServers supportedVersions controller.enableP2p
  have listening := (connecting.run (emitted_spares (env.emittedBeforeStart .register))).register controller.userId
  rw [split, connects, registers]
  simp only [List.foldl_append, List.foldl_cons, List.foldl_nil]
  exact listening.run (startShows_spare env ctx controller _ (by decide) (by decide))

end Lines
end Actions
section Actions
variable {settings : Settings} {env : Env} {deps final : Deps}

private theorem guarded_wired {name : ActionName} {request : SipRequest} {result : Except Exception Unit}
    (ran : Actions.guarded name request result deps = .ok final) : final.wired = deps.wired := by
  unfold Actions.guarded at ran
  split at ran <;> cases ran <;> simp

private theorem dialSip_wired {call : Call} (ran : Actions.dialSip settings env call deps = .ok final) :
    final.wired = deps.wired := by
  have called : ∀ callbacks : List Sip.Callback, (callbacks.map Obs.callback).filter Obs.wired = [] := by
    intro callbacks
    simp [List.filter_eq_nil_iff, Obs.wired]
  unfold Actions.dialSip at ran
  split at ran
  next => cases ran
  next user found =>
    cases ran
    cases result : env.makeCall.result <;>
      simp [Actions.dialCallback, Sip.Client.dial, result, Deps.wired, Deps.request, Deps.query, Deps.observe,
        Deps.internalError, called, Obs.wired]

/-- Only `CreateTgVoip` and `CleanUp` have to do with ntgcalls. -/
theorem Action.body_wired {action : Action} (starting : ∀ call, action ≠ .createTgVoip call)
    (ending : action ≠ .cleanUp) (ran : action.body settings env deps = .ok final) : final.wired = deps.wired := by
  cases action with
  | createTgVoip call => exact absurd rfl (starting call)
  | cleanUp => exact absurd rfl ending
  | storeSipId | storeTgId => cases ran; exact (Deps.wired_observe _ _).trans (List.append_nil _)
  | storeTgUserId | cleanTgId | cleanSipId | setHangupPrm => cases ran; rfl
  | dialSip call => exact dialSip_wired ran
  | answerTg =>
    simp only [Action.body, Actions.answerTg] at ran
    split at ran <;> cases ran <;> simp
  | acceptIncomingSip ext =>
    simp only [Action.body, Actions.acceptIncomingSip] at ran
    split at ran
    next => exact (guarded_wired ran).trans rfl
    next => cases ran; rfl
  | answerSip => exact guarded_wired ran
  | bridgeAudio =>
    simp only [Action.body, Actions.bridgeAudio] at ran
    split at ran
    next => cases ran
    next => exact guarded_wired ran
  | dialTg =>
    have looked : ∀ functions, (Actions.asked deps.ctx.id functions).filter Obs.wired = [] := by
      intro functions
      simp [Actions.asked, List.filter_eq_nil_iff, Obs.wired]
    cases Actions.dialTg_dials ran with
    | blocked | nobody => simp
    | unfound => exact Deps.wired_query _ _ _ _
    | refused | created => simp [Deps.wired, looked, Obs.wired]
  | dialDtmf message =>
    simp only [Action.body] at ran
    split at ran
    next =>
      simp only [Actions.dialDtmf] at ran
      split at ran <;> cases ran <;> simp
    next => cases ran

theorem StateMachine.runActions_wired {actions : List Action} (starting : ∀ call, .createTgVoip call ∉ actions)
    (ending : .cleanUp ∉ actions) (ran : runActions settings env actions deps = .ok final) :
    final.wired = deps.wired := by
  induction actions generalizing deps with
  | nil => cases ran; rfl
  | cons action actions ih =>
    obtain ⟨middle, took, later⟩ := foldlM_cons_ok.mp ran
    rw [ih (fun call taken => starting call (by simp [taken])) (fun taken => ending (by simp [taken])) later,
      Action.body_wired (fun call same => starting call (by simp [same])) (fun same => ending (by simp [same])) took]
    simp [Obs.wired]

theorem Actions.createTgVoip_wired {call : Call} (ran : createTgVoip settings env call deps = .ok final) : ∃ controller,
    final.wired = deps.wired ++ Voip.TgCallsController.startSteps.flatMap (startShows env deps.ctx.id controller) := by
  obtain ⟨state, controller, middle, begun, rfl⟩ := createTgVoip_ok ran
  have shown := start_shows begun
  refine ⟨newController settings call state deps.ctx.userId, ?_⟩
  have stored : ({ middle with ctx.controller := some controller }.observe (.started middle.ctx.id)).wired =
      middle.wired := by
    simp [Deps.wired, Deps.observe, Obs.wired]
  refine stored.trans ?_
  rw [Deps.wired, shown, List.filter_append, startShows_wired]
  rfl

end Actions

end Tg2Sip
