import Tg2Sip.Lib.Throwing
import Tg2Sip.Proofs.Effects

/-! The actions of the code have the effects of the relation. Worker threads and
pjsua may add observations and blobs anywhere; what they add is no deed and no error. -/

namespace Tg2Sip
open TdApi Lib

theorem World.errors_emit (world : World) (blob : UserId × Bytes) :
    (world.emit blob).errors = world.errors := by
  unfold World.emit World.errors
  split <;> simp [InternalEvent.isError]

namespace Deps

@[simp] theorem deeds_observe (deps : Deps) (obs : Obs) :
    (deps.observe obs).deeds = deps.deeds ++ [obs].filter Obs.deed := by
  simp [deeds, observe]

@[simp] theorem observe_ctx (deps : Deps) (obs : Obs) : (deps.observe obs).ctx = deps.ctx := rfl

@[simp] theorem observe_world (deps : Deps) (obs : Obs) : (deps.observe obs).toWorld = deps.toWorld := rfl

@[simp] theorem deeds_internalError (deps : Deps) (prm : Sip.CallOpParam) :
    (deps.internalError prm).deeds = deps.deeds := rfl

@[simp] theorem errors_internalError (deps : Deps) (prm : Sip.CallOpParam) :
    (deps.internalError prm).errors = deps.errors ++ [.internalError deps.ctx.id prm] := by
  simp [World.errors, internalError, InternalEvent.isError]

theorem Touches.refl (deps : Deps) : Touches deps deps := ⟨_, .refl⟩

theorem Touches.single {before after : Deps} {seen : List Obs} (touch : Touch before seen after) :
    Touches before after :=
  ⟨_, .single touch⟩

theorem Touches.trans {before middle after : Deps} (first : Touches before middle) (last : Touches middle after) :
    Touches before after := by
  obtain ⟨_, first⟩ := first
  obtain ⟨_, last⟩ := last
  exact ⟨_, first.trans last⟩

theorem Touch.seen {before after : Deps} {seen : List Obs} (touch : Touch before seen after) :
    after.seen = before.seen ++ seen := by
  cases touch <;> simp [observe, internalError, Deps.emit]

theorem Touch.ctx_id {before after : Deps} {seen : List Obs} (touch : Touch before seen after) :
    after.ctx.id = before.ctx.id := by
  cases touch with
  | context ctx same => exact same
  | _ => rfl

theorem run_seen {before after : Deps} {seen : List Obs} (run : Run Touch before seen after) :
    after.seen = before.seen ++ seen := by
  induction run with
  | refl => simp
  | tail _ last ih => rw [last.seen, ih, List.append_assoc]

/-- Nothing happened that the bridge did or that was done to its calls. -/
structure Quiet (before after : Deps) : Prop where
  touches : before.Touches after
  ctx : after.ctx = before.ctx
  errors : after.errors = before.errors
  deeds : after.deeds = before.deeds
  sip : after.sip = before.sip
  cache : after.cache = before.cache
  blockUntil : after.blockUntil = before.blockUntil

theorem Quiet.refl (deps : Deps) : Quiet deps deps := ⟨.refl _, rfl, rfl, rfl, rfl, rfl, rfl⟩

theorem Quiet.trans {before middle after : Deps} (first : Quiet before middle) (last : Quiet middle after) :
    Quiet before after :=
  ⟨first.touches.trans last.touches, last.ctx.trans first.ctx, last.errors.trans first.errors,
    last.deeds.trans first.deeds, last.sip.trans first.sip,
    last.cache.trans first.cache, last.blockUntil.trans first.blockUntil⟩

theorem Quiet.shown (deps : Deps) (obs : Obs) (own : obs.by = some deps.ctx.id) (plain : obs.plain = true)
    (unnoticed : obs.deed = false) : Quiet deps (deps.observe obs) :=
  ⟨.single (.shown deps obs own plain), rfl, rfl, by simp [unnoticed], rfl, rfl, rfl⟩

theorem Quiet.emit (deps : Deps) (blob : UserId × Bytes) : Quiet deps (deps.emit blob) := by
  refine ⟨.single (.emitted deps blob), rfl, World.errors_emit _ _, ?_, ?_, ?_, ?_⟩
  · simp [Deps.emit, Deps.deeds, Deps.observe, Obs.deed]
  all_goals
    simp only [Deps.emit, World.emit]
    split <;> rfl

theorem Quiet.emitAll (deps : Deps) (blobs : List (UserId × Bytes)) : Quiet deps (deps.emitAll blobs) := by
  induction blobs generalizing deps with
  | nil => exact .refl deps
  | cons blob blobs ih => exact (Quiet.emit deps blob).trans (ih _)

end Deps

namespace Actions
open Voip Deps Lib

def accepted (env : Env) (call : Option NtgCall) : Bool :=
  match call with
  | none => true
  | some call => (env.ntg call).succeeded

theorem waitFor_quiet {env : Env} {userId : UserId} {call : Option NtgCall} {deps final : Deps}
    (ran : waitFor env userId call deps = .ok final) : Quiet deps final := by
  cases call with
  | none => cases ran; exact .refl deps
  | some call =>
    obtain ⟨_, _, returned⟩ := bind_ok_iff.mp ran
    cases returned
    exact .shown _ _ rfl rfl rfl

theorem waitFor_returns {env : Env} {userId : UserId} {call : Option NtgCall} {deps : Deps} :
    Returns (waitFor env userId call deps) ↔ accepted env call = true := by
  cases call with
  | none => simp [waitFor, accepted]
  | some call =>
    simp only [waitFor, accepted, returns_bind]
    cases result : (env.ntg call).succeeded with
    | true => simp [callBlocking_ok.mpr result]
    | false =>
      obtain ⟨what, failed⟩ := callBlocking_error result
      simp [failed]

section Controller
variable {env : Env} {controller : TgCallsController} {deps : Deps} {before after : TgCallsController × Deps}

theorem startStep_ok {step : StartStep} : startStep env before step = .ok after ↔ ∃ waited,
    waitFor env before.1.userId (before.1.startCall step)
    (before.2.emitAll (env.emittedBeforeStart step)) = .ok waited ∧
      startEnd before.1 step waited = after := by
  rw [startStep, bind_ok_iff]
  simp only [pure, Except.pure, Except.ok.injEq]

private theorem startEnd_quiet (step : StartStep) : Quiet deps (startEnd controller step deps).2 := by
  cases step with
  | register =>
    exact ⟨.single (.registered deps controller.userId), rfl, rfl, by simp [startEnd, Deps.deeds, observe, Obs.deed],
      rfl, rfl, rfl⟩
  | _ => exact .refl deps

private theorem startStep_quiet {step : StartStep} (ran : startStep env before step = .ok after) :
    Quiet before.2 after.2 := by
  obtain ⟨waited, ready, rfl⟩ := startStep_ok.mp ran
  exact ((Quiet.emitAll _ _).trans (waitFor_quiet ready)).trans (startEnd_quiet step)

private theorem startStep_controller {step : StartStep} (ran : startStep env before step = .ok after) :
    after.1 = (before.1.started (0 : Nat) {} step).1 := by
  obtain ⟨waited, ready, rfl⟩ := startStep_ok.mp ran
  cases step <;> rfl

/-- A `Start` that returned has set every flag of its controller. -/
theorem start_ok (ran : start env controller deps = .ok after) :
    after.1 = { controller with created := true, registered := true, micFeederRunning := true
                                audioInputActive := true, audioOutputActive := true } ∧ Quiet deps after.2 := by
  constructor
  · exact foldlM_view Prod.fst (fun controller step => (controller.started (0 : Nat) {} step).1)
      (fun _ _ _ => startStep_controller) ran
  · exact foldlM_invariant (fun state => Quiet deps state.2)
      (fun _ _ _ kept ran => kept.trans (startStep_quiet ran)) (.refl deps) ran

/-- `Start` returns unless one of the functions it waits for fails. -/
theorem start_returns : Returns (start env controller deps) ↔
    ∀ step ∈ TgCallsController.startSteps, accepted env (controller.startCall step) = true := by
  refine foldlM_returns (fun state : TgCallsController × Deps => state.1.startCall)
    (fun startCall step => accepted env (startCall step) = true) ?_ ?_
  · intro before step after ran
    rw [startStep_controller ran]
    funext other
    cases step <;> cases other <;> rfl
  · intro before step
    rw [startStep, returns_bind_pure, waitFor_returns]

theorem stopStep_ok {step : StopStep} : stopStep env before step = .ok after ↔ ∃ waited,
    waitFor env before.1.userId (before.1.stopCall step) (before.2.emitAll (env.emittedBeforeStop step)) = .ok waited ∧
      stopEnd before.1 step waited = after := by
  rw [stopStep, bind_ok_iff]
  simp only [pure, Except.pure, Except.ok.injEq]

private theorem stopEnd_quiet (step : StopStep) : Quiet deps (stopEnd controller step deps).2 := by
  cases step with
  | unregister =>
    unfold stopEnd TgCallsController.stopped
    cases controller.registered with
    | true =>
      exact ⟨.single (.unregistered deps controller.userId), rfl, rfl, by simp [Deps.deeds, observe, Obs.deed],
        rfl, rfl, rfl⟩
    | false => simpa using Quiet.refl deps
  | _ => exact .refl deps

private theorem stopStep_quiet {step : StopStep} (ran : stopStep env before step = .ok after) :
    Quiet before.2 after.2 := by
  obtain ⟨waited, ready, rfl⟩ := stopStep_ok.mp ran
  exact ((Quiet.emitAll _ _).trans (waitFor_quiet ready)).trans (stopEnd_quiet step)

private theorem stopStep_controller {step : StopStep} (ran : stopStep env before step = .ok after) :
    after.1 = (before.1.stopped ({} : Runtime Nat) step).1 := by
  obtain ⟨waited, ready, rfl⟩ := stopStep_ok.mp ran
  cases step with
  | unregister =>
    simp only [stopEnd, TgCallsController.stopped]
    cases before.1.registered <;> rfl
  | _ => rfl

theorem stop_quiet (ran : stop env controller deps = .ok after) : Quiet deps after.2 :=
  foldlM_invariant (fun state => Quiet deps state.2) (fun _ _ _ kept ran => kept.trans (stopStep_quiet ran))
    (.refl deps) ran

private theorem stopStep_returns {step : StopStep} :
    Returns (stopStep env before step) ↔ accepted env (before.1.stopCall step) = true := by
  rw [stopStep, returns_bind_pure, waitFor_returns]

private theorem stopStep_before_ntg (env : Env) (before : TgCallsController × Deps) {step : StopStep}
    (earlier : step ≠ .stopNtg) :
    ∃ middle, stopStep env before step = .ok middle ∧ middle.1.stopCall .stopNtg = before.1.stopCall .stopNtg := by
  have unwaited : before.1.stopCall step = none := by cases step <;> first | rfl | exact absurd rfl earlier
  obtain ⟨middle, ran⟩ : Returns (stopStep env before step) := by rw [stopStep_returns, unwaited]; rfl
  refine ⟨middle, ran, ?_⟩
  rw [stopStep_controller ran]
  cases step with
  | stopNtg => exact absurd rfl earlier
  | unregister => simp only [TgCallsController.stopped]; split <;> rfl
  | _ => rfl

/-- `Stop` returns unless it has a session to stop and `ntg_stop` fails. -/
theorem stop_returns : Returns (stop env controller deps) ↔
    accepted env (controller.stopCall .stopNtg) = true := by
  obtain ⟨middle, ran, same⟩ := foldlM_total (controller, deps) (fun state => state.1.stopCall .stopNtg) fun before step
      (member : step ∈ [StopStep.joinMicFeeder, .stopAudioInput, .stopAudioOutput, .unregister]) => by
    have earlier : step ≠ .stopNtg := by rintro rfl; simp at member
    exact stopStep_before_ntg env before earlier
  have last : stop env controller deps = stopStep env middle .stopNtg >>= pure := by
    rw [stop, show TgCallsController.stopSteps = [.joinMicFeeder, .stopAudioInput, .stopAudioOutput, .unregister] ++
      [.stopNtg] from rfl, List.foldlM_append, ran]
    rfl
  rw [last, returns_bind_pure, stopStep_returns, same]

end Controller
/-- What two states of the dependencies have to do with an effect. -/
structure Did (before after : Deps) (ctx : Context) (errors : List InternalEvent) (deeds : List Obs) : Prop where
  touches : before.Touches after
  ctx : after.ctx = ctx
  errors : after.errors = before.errors ++ errors
  deeds : after.deeds = before.deeds ++ deeds

theorem Did.trans {before middle after : Deps} {ctx final : Context} {errors later : List InternalEvent}
    {deeds next : List Obs} (first : Did before middle ctx errors deeds) (last : Did middle after final later next) :
    Did before after final (errors ++ later) (deeds ++ next) :=
  ⟨first.touches.trans last.touches, last.ctx, by rw [last.errors, first.errors, List.append_assoc],
    by rw [last.deeds, first.deeds, List.append_assoc]⟩

/-- When nothing was seen before, all that is seen was shown on the way. -/
theorem Did.run {before after : Deps} {ctx : Context} {errors : List InternalEvent} {deeds : List Obs}
    (did : Did before after ctx errors deeds) (fresh : before.seen = []) : Run Deps.Touch before after.seen after := by
  obtain ⟨shown, run⟩ := did.touches
  have seen := Deps.run_seen run
  rw [fresh, List.nil_append] at seen
  rw [seen]
  exact run

theorem Did.done {before after : Deps} {ctx : Context} {errors : List InternalEvent} {deeds : List Obs}
    (did : Did before after ctx errors deeds) (fresh : before.seen = []) : after.seen.filter Obs.deed = deeds := by
  simpa [Deps.deeds, fresh] using did.deeds

theorem Did.quiet {before after : Deps} (quiet : Quiet before after) : Did before after before.ctx [] [] :=
  ⟨quiet.touches, quiet.ctx, by simp [quiet.errors], by simp [quiet.deeds]⟩

theorem Did.shown (deps : Deps) (obs : Obs) (own : obs.by = some deps.ctx.id) (plain : obs.plain = true)
    (deed : obs.deed = true) : Did deps (deps.observe obs) deps.ctx [] [obs] :=
  ⟨.single (.shown deps obs own plain), rfl, by simp, by simp [deed]⟩

theorem Did.context (deps : Deps) (ctx : Context) (same : ctx.id = deps.ctx.id) :
    Did deps { deps with ctx } ctx [] [] :=
  ⟨.single (.context deps ctx same), rfl, by simp, by simp [Deps.deeds]⟩

theorem Did.internalError (deps : Deps) (prm : Sip.CallOpParam) :
    Did deps (deps.internalError prm) deps.ctx [.internalError deps.ctx.id prm] [] :=
  ⟨.single (.failed deps prm), rfl, by simp, by simp⟩

section Guarded
variable {name : ActionName} {request : SipRequest} {result : Except Exception Unit} {deps final : Deps}

theorem guarded_did (ran : guarded name request result deps = .ok final)
    (plain : ∀ ctx succeeded, (Obs.sip ctx name request succeeded).plain = true) :
    Did deps final deps.ctx [] [.sip deps.ctx.id name request true] ∨
    ∃ prm, Did deps final deps.ctx [.internalError deps.ctx.id prm] [.sip deps.ctx.id name request false] := by
  unfold guarded at ran
  split at ran
  · cases ran; exact .inl (.shown _ _ rfl (plain _ _) rfl)
  · cases ran; exact .inr ⟨_, (Did.shown _ _ rfl (plain _ _) rfl).trans (.internalError _ _)⟩
  · cases ran; exact .inr ⟨_, (Did.shown _ _ rfl (plain _ _) rfl).trans (.internalError _ _)⟩
  · cases ran

/-- The exceptions that the handlers of `guarded` name. -/
def caught : Exception → Bool
  | .pjError _ | .runtimeError _ => true
  | _ => false

theorem guarded_returns (throws : ∀ thrown, result = .error thrown → caught thrown = true) :
    Returns (guarded name request result deps) := by
  cases result with
  | ok value => exact returns_pure _
  | error thrown =>
    cases thrown with
    | pjError reason => exact returns_pure _
    | runtimeError what => exact returns_pure _
    | _ => exact absurd (throws _ rfl) (by simp [caught])

end Guarded

theorem pjMethod_caught {result : Except String Unit} {thrown : Exception}
    (failed : Sip.Client.pjMethod result = .error thrown) : caught thrown = true := by
  cases result <;> cases failed; rfl

theorem answer_caught {client : Sip.Client} {id : Sip.CallId} {answer : Except String Unit} {thrown : Exception}
    (failed : client.answer id answer = .error thrown) : caught thrown = true := by
  unfold Sip.Client.answer at failed
  split at failed
  · cases failed; rfl
  · exact pjMethod_caught failed

theorem bridgeAudio_caught {client : Sip.Client} {id : Sip.CallId} {media : Except String Bool}
    {transmit : Except String Unit} {thrown : Exception}
    (failed : client.bridgeAudio id media transmit = .error thrown) : caught thrown = true := by
  unfold Sip.Client.bridgeAudio at failed
  split at failed
  · cases failed; rfl
  · split at failed
    · cases failed; rfl
    · cases failed; rfl
    · exact pjMethod_caught failed

section Dial
variable {settings : Settings} {env : Env} {deps final : Deps}

/-- For any deadline, so that the one of the source is never computed. -/
private theorem blockUntil_did (deps : Deps) (deadline : Time) :
    Did deps { deps with blockUntil := deadline } deps.ctx [] [] :=
  ⟨.single (.blocked deps deadline), rfl, by simp [World.errors], by simp [Deps.deeds]⟩

private theorem lookup_did (deps : Deps) (function : Function) (cache : Cache) :
    Did deps { deps.query .dialTg function true with cache } deps.ctx [] [.query deps.ctx.id .dialTg function true] :=
  ⟨(Touches.single (.shown deps (.query deps.ctx.id .dialTg function true) rfl rfl)).trans (.single (.cached _ cache)),
    rfl, by simp [World.errors, query, observe], by simp [Deps.deeds, query, observe, Obs.deed]⟩

theorem parseError_did {error : Error} (ran : parseError settings env error deps = .ok final) :
    Did deps final deps.ctx [] [] := by
  unfold parseError at ran
  split at ran
  · obtain ⟨seconds, _, ran⟩ := bind_ok_iff.mp ran
    cases ran
    exact blockUntil_did _ _
  · split at ran <;> cases ran
    · exact blockUntil_did _ _
    · exact .quiet (.refl _)

private theorem dialFailed_did {error : Error} (ran : dialFailed settings env error deps = .ok final) :
    Did deps final deps.ctx [.internalError deps.ctx.id (errorPrm error)] [] :=
  (Did.internalError _ _).trans (parseError_did ran)

/-- How a dial ended: with a call, or with one error and the call id as it was. -/
def Dialed (env : Env) (before after : Deps) : Prop :=
  ∃ (lookups : List (Function × Bool)) (user : UserId), (∀ lookup ∈ lookups, lookup.1.dials = true) ∧
    ((∃ id, env.createCall = .ok id ∧ Did before after { before.ctx with userId := user, tgCallId := id } []
        (lookups.map (fun lookup => .query before.ctx.id .dialTg lookup.1 lookup.2) ++
          [.associated before.ctx.id .dialTg (.tg id)])) ∨
      ∃ prm, Did before after { before.ctx with userId := user } [.internalError before.ctx.id prm]
        (lookups.map (fun lookup => .query before.ctx.id .dialTg lookup.1 lookup.2)))

/-- A lookup that succeeded comes before the rest of the dial. -/
private theorem Dialed.after {before middle after : Deps} (function : Function) {succeeded : Bool}
    (dials : function.dials = true)
    (looked : Did before middle before.ctx [] [.query before.ctx.id .dialTg function succeeded])
    (dialed : Dialed env middle after) : Dialed env before after := by
  obtain ⟨lookups, user, allDial, outcome⟩ := dialed
  refine ⟨(function, succeeded) :: lookups, user, by simpa [dials] using allDial, ?_⟩
  rw [looked.ctx] at outcome
  rcases outcome with ⟨id, created, did⟩ | ⟨prm, did⟩
  · exact .inl ⟨id, created, looked.trans did⟩
  · exact .inr ⟨prm, looked.trans did⟩

private theorem Dialed.failed {function : Function} {error : Error} (dials : function.dials = true)
    (ran : dialFailed settings env error (deps.query .dialTg function false) = .ok final) : Dialed env deps final :=
  ⟨[(function, false)], deps.ctx.userId, by simp [dials],
    .inr ⟨_, (Did.shown _ _ rfl rfl rfl).trans (dialFailed_did ran)⟩⟩

private theorem Dialed.refused (prm : Sip.CallOpParam) : Dialed env deps (deps.internalError prm) :=
  ⟨[], deps.ctx.userId, by simp, .inr ⟨prm, .internalError _ _⟩⟩

theorem dialById_dialed {id : UserId} (ran : dialById settings env id deps = .ok final) : Dialed env deps final := by
  unfold dialById at ran
  refine ⟨[(.createCall id (protocol settings env) false, env.createCall.toBool)], id, by simp [Function.dials], ?_⟩
  have target := Did.context deps { deps.ctx with userId := id } rfl
  split at ran
  next error refused =>
    have did := (target.trans (.shown _ _ rfl rfl rfl)).trans (dialFailed_did ran)
    rw [refused]
    exact .inr ⟨errorPrm error, did⟩
  next callId created =>
    cases ran
    rw [created]
    exact .inl ⟨callId, rfl, ((target.trans (.shown _ _ rfl rfl rfl)).trans
      (.context _ { deps.ctx with userId := id, tgCallId := callId } rfl)).trans (.shown _ _ rfl rfl rfl)⟩

theorem dialByPhone_dialed (ran : dialByPhone settings env deps = .ok final) : Dialed env deps final := by
  unfold dialByPhone at ran
  split at ran
  next => exact dialById_dialed ran
  next =>
    split at ran
    next => exact .failed rfl ran
    next =>
      split at ran
      next => cases ran
      next userId userIds =>
        split at ran
        next => cases ran; exact Dialed.after (.importContacts _ _) rfl (.shown _ _ rfl rfl rfl) (.refused _)
        next => exact Dialed.after (.importContacts _ _) rfl (lookup_did _ _ _) (dialById_dialed ran)

theorem dialByUsername_dialed (ran : dialByUsername settings env deps = .ok final) : Dialed env deps final := by
  unfold dialByUsername at ran
  split at ran
  next => exact dialById_dialed ran
  next =>
    split at ran
    next => exact .failed rfl ran
    next chat found =>
      split at ran
      next => exact Dialed.after (.searchPublicChat _) rfl (lookup_did _ _ _) (dialById_dialed ran)
      next => cases ran; exact Dialed.after (.searchPublicChat _) rfl (.shown _ _ rfl rfl rfl) (.refused _)

theorem dialTg_dialed (ran : dialTg settings env deps = .ok final) : Dialed env deps final := by
  unfold dialTg at ran
  split at ran
  next => cases ran; exact .refused _
  next =>
    split at ran
    next => exact dialByUsername_dialed ran
    next =>
      split at ran
      next => exact dialByPhone_dialed ran
      next => exact dialById_dialed ran

end Dial
section CleanUp
variable {env : Env} {deps final : Deps}

theorem stopController_did (ran : stopController env deps = .ok final) :
    ∃ controller : Option TgCallsController, controller.isSome = deps.ctx.controller.isSome ∧
      Did deps final { deps.ctx with controller } [] (Effect.stops deps.ctx) := by
  unfold stopController at ran
  split at ran
  next absent =>
    cases ran
    refine ⟨none, by simp [absent], .refl _, ?_, by simp, by simp [Effect.stops, absent]⟩
    rw [← absent]
  next controller present =>
    obtain ⟨⟨stopped, middle⟩, ended, kept⟩ := bind_ok_iff.mp ran
    cases kept
    have quiet := stop_quiet ended
    have same : middle.ctx = deps.ctx := quiet.ctx
    refine ⟨some stopped, by simp [present], ?_, by rw [same], ?_, ?_⟩
    · exact ((Touches.single (.shown deps (.stopped deps.ctx.id) rfl rfl)).trans quiet.touches).trans
        (.single (.context _ _ rfl))
    · simpa [World.errors] using quiet.errors
    · simpa [Effect.stops, present, Deps.deeds, observe, Obs.deed, List.filter_cons] using quiet.deeds

theorem discardTg_did :
    Did deps (discardTg env deps) { deps.ctx with tgCallId := 0 } [] (Effect.discards env deps.ctx) := by
  unfold discardTg Effect.discards
  split
  next held => exact (Did.shown _ _ rfl rfl rfl).trans (.context _ { deps.ctx with tgCallId := 0 } rfl)
  next free =>
    have free : deps.ctx.tgCallId = 0 := by simpa using free
    refine ⟨.refl _, ?_, by simp, by simp⟩
    rw [← free]

private theorem filter_callbacks (callbacks : List Sip.Callback) :
    (callbacks.map Obs.callback).filter Obs.deed = [] := by
  simp [List.filter_map, Function.comp_def, Obs.deed]

private theorem hangup_result (client : Sip.Client) (id : Sip.CallId) (hangup : Sip.Outcome Unit) :
    (client.hangup id hangup).2.toBool = if (client.calls id).isSome = true then hangup.result.toBool else true := by
  unfold Sip.Client.hangup
  cases client.calls id with
  | none => rfl
  | some call => cases hangup.result <;> rfl

theorem hangupSip_touches (env : Env) (deps : Deps) : deps.Touches (hangupSip env deps) := by
  unfold hangupSip
  split
  next held =>
    have result := hangup_result deps.sip deps.ctx.sipCallId env.hangup
    cases entry : deps.sip.calls deps.ctx.sipCallId with
    | none =>
      have same : deps.sip.hangup deps.ctx.sipCallId env.hangup = (deps.sip, .ok ()) := by
        simp only [Sip.Client.hangup, entry]
      rw [same]
      have released := Touches.single (.context
        (deps.observe (.sip deps.ctx.id .cleanUp (.hangup deps.ctx.sipCallId deps.ctx.hangupPrm) true))
        { deps.ctx with sipCallId := Sip.invalidId } rfl)
      have shown := (Touches.single (.notHungUp deps deps.ctx.sipCallId entry deps.ctx.hangupPrm)).trans released
      simpa [request, observe, Except.toBool] using shown
    | some call =>
      have ended := Touches.single (.hungUp deps deps.ctx.sipCallId call entry deps.ctx.hangupPrm env.hangup)
      have shown := ended.trans (.single (.context _ { deps.ctx with sipCallId := Sip.invalidId } rfl))
      simpa [request, observe, result, entry] using shown
  next => exact .refl _

theorem hangupSip_did (env : Env) (deps : Deps) :
    ∃ ended, Did deps (hangupSip env deps) { deps.ctx with sipCallId := Sip.invalidId } []
    (Effect.hangups deps.ctx ended) := by
  have touches := hangupSip_touches env deps
  unfold hangupSip Effect.hangups at *
  split
  next held =>
    rw [if_pos held] at touches
    cases hung : deps.sip.hangup deps.ctx.sipCallId env.hangup with
    | mk client result =>
      rw [hung] at touches
      refine ⟨result.toBool, touches, rfl, by simp [World.errors, request, observe], ?_⟩
      simp [Deps.deeds, request, observe, Obs.deed, List.filter_cons, filter_callbacks]
  next free =>
    have free : deps.ctx.sipCallId = Sip.invalidId := by simpa using free
    refine ⟨false, .refl _, ?_, by simp, by simp⟩
    rw [← free]

end CleanUp

theorem dialCallback_did {env : Env} {deps : Deps} {uri : String} {prm : Sip.CallOpParam} :
    (∃ id, env.makeCall.result = .ok id ∧ Did deps (dialCallback env uri prm deps) { deps.ctx with sipCallId := id } []
      [.given (some deps.ctx.id) id deps.sip.created, .sip deps.ctx.id .dialSip (.dial uri prm) true,
        .associated deps.ctx.id .dialSip (.sip id)]) ∨
    (∃ reason, env.makeCall.result = .error reason ∧ Did deps (dialCallback env uri prm deps) deps.ctx
      [.internalError deps.ctx.id { statusCode := internalServerError, reason }]
      [.sip deps.ctx.id .dialSip (.dial uri prm) false]) := by
  obtain ⟨callbacks, result⟩ : ∃ callbacks, env.makeCall.callbacks = callbacks := ⟨_, rfl⟩
  have whole : env.makeCall = ⟨callbacks, env.makeCall.result⟩ := by rw [← result]
  unfold dialCallback
  cases dialed : env.makeCall.result with
  | ok id =>
    have given : Did deps { deps with
        sip := (deps.sip.dial ⟨callbacks, .ok id⟩).1
        seen := deps.seen ++ .given (some deps.ctx.id) id deps.sip.created :: callbacks.map .callback }
        deps.ctx [] [.given (some deps.ctx.id) id deps.sip.created] :=
      ⟨.single (.dialed deps callbacks id), rfl, by simp [World.errors],
        by simp [Deps.deeds, Obs.deed, List.filter_cons, filter_callbacks]⟩
    have asked := given.trans (.shown _ (.sip deps.ctx.id .dialSip (.dial uri prm) true) rfl rfl rfl)
    have stored := (asked.trans (.context _ { deps.ctx with sipCallId := id } rfl)).trans
      (.shown _ (.associated deps.ctx.id .dialSip (.sip id)) rfl rfl rfl)
    refine .inl ⟨id, rfl, ?_⟩
    rw [whole, dialed]
    simpa [Sip.Client.dial, request, observe, Except.toBool] using stored
  | error reason =>
    have called : Did deps { deps with
        sip := (deps.sip.dial ⟨callbacks, .error reason⟩).1
        seen := deps.seen ++ (callbacks.map .callback ++
          [.sip deps.ctx.id .dialSip (.dial uri prm) false]) } deps.ctx []
        [.sip deps.ctx.id .dialSip (.dial uri prm) false] :=
      ⟨.single (.undialed deps callbacks reason uri prm), rfl, by simp [World.errors],
        by simp [Deps.deeds, Obs.deed, List.filter_cons, filter_callbacks]⟩
    have asked := called.trans (.internalError _ { statusCode := internalServerError, reason })
    refine .inr ⟨reason, rfl, ?_⟩
    rw [whole, dialed]
    simpa [Sip.Client.dial, request, observe, internalError, Except.toBool] using asked

theorem parseExtension_id {ext : String} {ctx parsed : Context} (valid : parseExtension ext ctx = some parsed) :
    parsed.id = ctx.id ∧ parsed.sipCallId = ctx.sipCallId ∧ parsed.tgCallId = ctx.tgCallId ∧
      parsed.controller = ctx.controller := by
  simp only [parseExtension] at valid
  repeat' split at valid
  all_goals cases valid
  all_goals exact ⟨rfl, rfl, rfl, rfl⟩

/-- A `CreateTgVoip` that returned has started a controller and stored it. -/
theorem createTgVoip_ok {settings : Settings} {env : Env} {call : Call} {deps final : Deps}
    (ran : createTgVoip settings env call deps = .ok final) : ∃ state controller middle,
      start env (newController settings call state deps.ctx.userId) deps = .ok (controller, middle) ∧
        final = { middle with ctx.controller := some controller }.observe (.started middle.ctx.id) := by
  unfold createTgVoip at ran
  split at ran
  next state ready =>
    split at ran
    next => cases ran
    next =>
      obtain ⟨_, _, ran⟩ := bind_ok_iff.mp ran
      obtain ⟨⟨controller, middle⟩, begun, kept⟩ := bind_ok_iff.mp ran
      cases kept
      exact ⟨state, controller, middle, begun, rfl⟩
  next => cases ran

end Actions

namespace Action
open Actions Deps
variable {settings : Settings} {env : Env} {deps final : Deps} {action : Action}

private theorem dialSip_effect {call : Call} (ran : Actions.dialSip settings env call deps = .ok final) :
    ∃ ctx errors deeds, Effect settings env (.dialSip call) deps.ctx ctx errors deeds ∧
      Did deps final ctx errors deeds := by
  unfold Actions.dialSip at ran
  split at ran
  next => cases ran
  next user found =>
    cases ran
    have asked : Did deps (deps.query .dialSip (.getUser call.userId) true) deps.ctx []
      [.query deps.ctx.id .dialSip (.getUser call.userId) true] := .shown _ _ rfl rfl rfl
    rcases dialCallback_did with ⟨id, dialed, did⟩ | ⟨reason, refused, did⟩
    · exact ⟨_, _, _, .dialedSip call _ _ id _ dialed, asked.trans did⟩
    · exact ⟨_, _, _, .refusedSip call _ _ reason refused, asked.trans did⟩

private theorem acceptIncomingSip_effect {ext : String} (ran : Actions.acceptIncomingSip env ext deps = .ok final) :
    ∃ ctx errors deeds,
      Effect settings env (.acceptIncomingSip ext) deps.ctx ctx errors deeds ∧ Did deps final ctx errors deeds := by
  unfold Actions.acceptIncomingSip at ran
  split at ran
  next parsed valid =>
    have same := parseExtension_id valid
    rcases guarded_did ran (fun _ _ => rfl) with did | ⟨prm, did⟩
    · refine ⟨_, _, _, .rang ext _ parsed valid, ?_⟩
      simpa only [same, List.nil_append] using (Did.context deps parsed same.1).trans did
    · refine ⟨_, _, _, .silent ext _ parsed prm valid, ?_⟩
      simpa only [same, List.nil_append] using (Did.context deps parsed same.1).trans did
  next invalid =>
    cases ran
    exact ⟨_, _, _, .badExtension ext _ invalid, .internalError _ _⟩

private theorem createTgVoip_effect {call : Call} (ran : Actions.createTgVoip settings env call deps = .ok final) :
    ∃ ctx errors deeds,
      Effect settings env (.createTgVoip call) deps.ctx ctx errors deeds ∧ Did deps final ctx errors deeds := by
  obtain ⟨state, controller, middle, begun, rfl⟩ := createTgVoip_ok ran
  obtain ⟨flags, quiet⟩ := start_ok begun
  have same : middle.ctx = deps.ctx := quiet.ctx
  refine ⟨_, _, _, .createdTgVoip call deps.ctx controller ?_ ?_, ?_⟩
  · rw [show controller = _ from flags]; rfl
  · rw [show controller = _ from flags]; exact ⟨rfl, rfl⟩
  · have stored := (Did.quiet quiet).trans (.context middle { middle.ctx with controller := some controller } rfl)
    have shown : Did { middle with ctx.controller := some controller }
        ({ middle with ctx.controller := some controller }.observe (.started middle.ctx.id))
        { middle.ctx with controller := some controller } [] [.started middle.ctx.id] := .shown _ _ rfl rfl rfl
    simpa only [same, List.nil_append] using stored.trans shown

private theorem cleanUp_effect (ran : Actions.cleanUp env deps = .ok final) :
    ∃ ctx errors deeds, Effect settings env .cleanUp deps.ctx ctx errors deeds ∧ Did deps final ctx errors deeds := by
  obtain ⟨middle, ended, kept⟩ := bind_ok_iff.mp ran
  cases kept
  obtain ⟨controller, same, stopped⟩ := stopController_did ended
  obtain ⟨hung, released⟩ := hangupSip_did env (discardTg env middle)
  have did := (stopped.trans discardTg_did).trans released
  refine ⟨_, _, _, .cleanUp deps.ctx controller hung same, ?_⟩
  simp only [discardTg_did.ctx, stopped.ctx, List.append_nil] at did
  exact did

/-- Whatever an action of the code does when it returns is an effect of the relation. -/
theorem body_effect (ran : action.body settings env deps = .ok final) : ∃ ctx errors deeds,
    Effect settings env action deps.ctx ctx errors deeds ∧ Did deps final ctx errors deeds := by
  cases action with
  | storeSipId id => cases ran; exact ⟨_, _, _, .storeSipId id _,
      (Did.context deps { deps.ctx with sipCallId := id } rfl).trans (.shown _ _ rfl rfl rfl)⟩
  | storeTgId call => cases ran; exact ⟨_, _, _, .storeTgId call _,
      (Did.context deps { deps.ctx with tgCallId := call.id } rfl).trans (.shown _ _ rfl rfl rfl)⟩
  | storeTgUserId call => cases ran; exact ⟨_, _, _, .storeTgUserId call _, .context _ _ rfl⟩
  | cleanTgId => cases ran; exact ⟨_, _, _, .cleanTgId _, .context _ _ rfl⟩
  | cleanSipId => cases ran; exact ⟨_, _, _, .cleanSipId _, .context _ _ rfl⟩
  | setHangupPrm prm => cases ran; exact ⟨_, _, _, .setHangupPrm prm _, .context _ _ rfl⟩
  | cleanUp => exact cleanUp_effect ran
  | dialSip call => exact dialSip_effect ran
  | answerTg =>
    simp only [body, Actions.answerTg] at ran
    split at ran
    next accepted => cases ran; exact ⟨_, _, _, .acceptedTg _ accepted, .shown _ _ rfl rfl rfl⟩
    next error refused =>
      cases ran
      exact ⟨_, _, _, .refusedTg _ error refused, (Did.shown _ _ rfl rfl rfl).trans (.internalError _ _)⟩
  | acceptIncomingSip ext => exact acceptIncomingSip_effect ran
  | answerSip =>
    rcases guarded_did ran (fun _ _ => rfl) with did | ⟨prm, did⟩
    · exact ⟨_, _, _, .answeredSip _, did⟩
    · exact ⟨_, _, _, .unansweredSip _ prm, did⟩
  | createTgVoip call => exact createTgVoip_effect ran
  | bridgeAudio =>
    simp only [body, Actions.bridgeAudio] at ran
    split at ran
    next => cases ran
    next controller present =>
      rcases guarded_did ran (fun _ _ => rfl) with did | ⟨prm, did⟩
      · exact ⟨_, _, _, .bridged _ controller present, did⟩
      · exact ⟨_, _, _, .unbridged _ controller prm present, did⟩
  | dialTg =>
    obtain ⟨lookups, user, dials, ⟨id, created, did⟩ | ⟨prm, did⟩⟩ := dialTg_dialed ran
    · exact ⟨_, _, _, .dialedTg _ lookups user id dials created, did⟩
    · exact ⟨_, _, _, .undialedTg _ lookups user prm dials, did⟩
  | dialDtmf message =>
    simp only [body] at ran
    split at ran
    next text content =>
      simp only [Actions.dialDtmf] at ran
      split at ran
      · cases ran; exact ⟨_, _, _, .dtmf message _ text true content, .shown _ _ rfl rfl rfl⟩
      · cases ran; exact ⟨_, _, _, .dtmf message _ text false content, .shown _ _ rfl rfl rfl⟩
      · cases ran
    next => cases ran

theorem run_effect (ran : action.run settings env deps = .ok final) : ∃ ctx errors deeds,
    Effect settings env action deps.ctx ctx errors deeds ∧
      Did deps final ctx errors (.action deps.ctx.id action.name :: deeds) := by
  obtain ⟨ctx, errors, deeds, effect, did⟩ := body_effect ran
  exact ⟨ctx, errors, deeds, effect, (Did.shown _ _ rfl rfl rfl).trans did⟩

end Action

namespace StateMachine
open Actions Lib
variable {settings : Settings} {env : Env} {deps final : Deps}

theorem runActions_effects {actions : List Action} (ran : runActions settings env actions deps = .ok final) :
    ∃ ctx errors deeds, Effects settings env actions deps.ctx ctx errors deeds ∧ Did deps final ctx errors deeds := by
  induction actions generalizing deps with
  | nil => cases ran; exact ⟨_, _, _, .nil _, .quiet (.refl _)⟩
  | cons action actions ih =>
    obtain ⟨middle, first, rest⟩ := foldlM_cons_ok.mp ran
    obtain ⟨ctx, errors, deeds, effect, did⟩ := Action.run_effect first
    obtain ⟨last, later, next, effects, rest⟩ := ih rest
    exact ⟨_, _, _, .cons effect (did.ctx ▸ effects), did.trans rest⟩

/-- A machine that has processed an event dropped it, or ran the actions of a transition. -/
theorem processEvent_ran {control target : Control} {event : Event}
    (ran : processEvent settings env control event deps = .ok (target, final)) :
    (select settings control event = none ∧ target = control ∧ final = deps) ∨
      ∃ actions, Transition settings control event actions target ∧
        runActions settings env actions deps = .ok final := by
  unfold processEvent at ran
  split at ran
  next ignored => cases ran; exact .inl ⟨ignored, rfl, rfl⟩
  next actions chosen selected =>
    obtain ⟨last, took, kept⟩ := bind_ok_iff.mp ran
    cases kept
    exact .inr ⟨actions, select_iff.mp selected, took⟩

/-- One event offered to the code's machine does what the relation says. -/
theorem processEvent_handles {control target : Control} {event : Event}
    (ran : processEvent settings env control event deps = .ok (target, final)) : ∃ ctx errors deeds,
      Handles settings env event control deps.ctx target ctx errors deeds ∧ Did deps final ctx errors deeds := by
  rcases processEvent_ran ran with ⟨ignored, rfl, rfl⟩ | ⟨actions, transition, took⟩
  · exact ⟨_, _, _, .dropped ignored, .quiet (.refl _)⟩
  · obtain ⟨ctx, errors, deeds, effects, did⟩ := runActions_effects took
    exact ⟨_, _, _, .taken transition effects, did⟩

end StateMachine
end Tg2Sip
