import Tg2Sip.Proofs.Routing

/-! What `DialTg` does, path by path: the extension is resolved to a user, from the caches or by one
lookup, and a call to that user is created. Each of the other paths ends with one
`InternalError`, and those that end with an error object of TDLib may set the block. -/

namespace Tg2Sip.Actions
open TdApi Lib

/-- For how many seconds an error object blocks all dials. -/
def penalty (settings : Settings) (error : Error) : Option Nat :=
  match Text.searchDigitsAfter delayPattern error.message.toList with
  | some digits =>
    (Text.stoi digits).toOption.map fun seconds => (UInt32.ofNat seconds + settings.extraWaitTime).toNat
  | none => if Text.contains floodPattern error.message.toList then some settings.peerFloodTime.toNat else none

/-- An error object that tells to wait. -/
def Flood (error : Error) : Prop :=
  (Text.searchDigitsAfter delayPattern error.message.toList).isSome = true ∨
    Text.contains floodPattern error.message.toList = true

/-- The block after an error object was received. -/
def blocks (settings : Settings) (env : Env) (error : Error) (blockUntil : Time) : Time :=
  match penalty settings error with
  | some seconds => env.nowFailed + nanoseconds seconds
  | none => blockUntil

section Paths
variable {settings : Settings} {env : Env} {deps final : Deps}

/-- When `parse_error` returns, an error object that tells to wait had a number that could be read. -/
theorem parseError_ok {error : Error} (ran : parseError settings env error deps = .ok final) :
    final = { deps with blockUntil := blocks settings env error deps.blockUntil } ∧
      (Flood error → (penalty settings error).isSome = true) := by
  unfold parseError at ran
  unfold blocks penalty Flood
  split at ran
  next digits found =>
    obtain ⟨seconds, read, same⟩ := bind_ok_iff.mp ran
    cases same
    simp [found, read, Except.toOption]
  next missed =>
    rw [missed]
    split at ran
    next flood => cases ran; simp [flood]
    next calm => cases ran; simp [calm]

/-- What is sent to find out the user of an extension. -/
inductive Looks (ctx : Context) : Function → Prop where
  | username (named : ctx.extUsername ≠ "") : Looks ctx (.searchPublicChat ctx.extUsername)
  | phone (unnamed : ctx.extUsername = "") (phoned : ctx.extPhone ≠ "") :
      Looks ctx (.importContacts ctx.extPhone ctx.extPhone)

def errorObject {α : Type} : Answer α → Option Error
  | .error error => some error
  | .ok _ => none

/-- The error object that a request of `DialTg` is answered with. -/
def refusal (env : Env) : Function → Option Error
  | .searchPublicChat _ => errorObject env.searchPublicChat
  | .importContacts .. => errorObject env.importContacts
  | .createCall .. => errorObject env.createCall
  | _ => none

/-- The user of an extension, the lookup it took, and the caches after that. -/
inductive Resolves (env : Env) (ctx : Context) (cache : Cache) : UserId → List Function → Cache → Prop where
  | id (unnamed : ctx.extUsername = "") (unphoned : ctx.extPhone = "") : Resolves env ctx cache ctx.userId [] cache
  | username (named : ctx.extUsername ≠ "") (id : UserId) (held : cache.usernameCache ctx.extUsername = some id) :
      Resolves env ctx cache id [] cache
  | chat (named : ctx.extUsername ≠ "") (missed : cache.usernameCache ctx.extUsername = none) (chat : Chat)
      (found : env.searchPublicChat = .ok chat) (isPrivate : chat.isPrivate = true) :
      Resolves env ctx cache chat.id [.searchPublicChat ctx.extUsername]
        { cache with usernameCache := cache.usernameCache.emplace ctx.extUsername chat.id }
  | phone (unnamed : ctx.extUsername = "") (phoned : ctx.extPhone ≠ "") (id : UserId)
      (held : cache.phoneCache ctx.extPhone = some id) : Resolves env ctx cache id [] cache
  | contact (unnamed : ctx.extUsername = "") (phoned : ctx.extPhone ≠ "")
      (missed : cache.phoneCache ctx.extPhone = none) (userId : UserId) (rest : List UserId)
      (imported : env.importContacts = .ok (userId :: rest)) (known : userId ≠ 0) :
      Resolves env ctx cache userId [.importContacts ctx.extPhone ctx.extPhone]
        { cache with phoneCache := cache.phoneCache.emplace ctx.extPhone userId }

/-- The requests of a dial that were answered. -/
def asked (ctx : CtxId) (functions : List Function) : List Obs := functions.map (.query ctx .dialTg · true)

inductive Dials (settings : Settings) (env : Env) (deps : Deps) : Deps → Prop where
  | blocked (early : env.nowChecked < deps.blockUntil) :
      Dials settings env deps (deps.internalError { statusCode := internalServerError
                                                    reason := "FLOOD_WAIT " ++
                                                      toString (secondsLeft deps.blockUntil env.nowRefused) })
  | unfound (free : deps.blockUntil ≤ env.nowChecked) (lookup : Function) (looks : Looks deps.ctx lookup)
      (error : Error) (refused : refusal env lookup = some error)
      (told : Flood error → (penalty settings error).isSome = true) :
      Dials settings env deps
        { (deps.query .dialTg lookup false).internalError (errorPrm error) with
          blockUntil := blocks settings env error deps.blockUntil }
  | nobody (free : deps.blockUntil ≤ env.nowChecked) (lookup : Function) (looks : Looks deps.ctx lookup)
      (prm : Sip.CallOpParam) :
      Dials settings env deps ((deps.query .dialTg lookup true).internalError prm)
  | refused (free : deps.blockUntil ≤ env.nowChecked) (target : UserId) (lookups : List Function)
      (cache : Cache) (resolves : Resolves env deps.ctx deps.cache target lookups cache) (error : Error)
      (refused : env.createCall = .error error) (told : Flood error → (penalty settings error).isSome = true) :
      Dials settings env deps
        { deps with
          ctx.userId := target, cache
          seen := deps.seen ++ (asked deps.ctx.id lookups ++
            [.query deps.ctx.id .dialTg (.createCall target (protocol settings env) false) false])
          internalEvents := deps.internalEvents ++ [.internalError deps.ctx.id (errorPrm error)]
          blockUntil := blocks settings env error deps.blockUntil }
  | created (free : deps.blockUntil ≤ env.nowChecked) (target : UserId) (lookups : List Function)
      (cache : Cache) (resolves : Resolves env deps.ctx deps.cache target lookups cache) (id : TgCallId)
      (created : env.createCall = .ok id) :
      Dials settings env deps
        { deps with
          ctx.userId := target, ctx.tgCallId := id, cache
          seen := deps.seen ++ (asked deps.ctx.id lookups ++
            [.query deps.ctx.id .dialTg (.createCall target (protocol settings env) false) true,
              .associated deps.ctx.id .dialTg (.tg id)]) }

private theorem dialById_dials {target : UserId} {lookups : List Function} {cache : Cache}
    (free : deps.blockUntil ≤ env.nowChecked) (resolves : Resolves env deps.ctx deps.cache target lookups cache)
    (ran : dialById settings env target { deps with seen := deps.seen ++ asked deps.ctx.id lookups, cache } = .ok final) :
    Dials settings env deps final := by
  unfold dialById at ran
  split at ran
  next error refused =>
    obtain ⟨rfl, told⟩ := parseError_ok ran
    have dials : Dials settings env deps _ := .refused free target lookups cache resolves error refused told
    simpa [Deps.query, Deps.observe, Deps.internalError] using dials
  next id created =>
    have dials : Dials settings env deps _ := .created free target lookups cache resolves id created
    cases ran
    simpa [Deps.query, Deps.observe] using dials

private theorem dialByUsername_dials (free : deps.blockUntil ≤ env.nowChecked) (named : deps.ctx.extUsername ≠ "")
    (ran : dialByUsername settings env deps = .ok final) : Dials settings env deps final := by
  have looks := Looks.username named
  unfold dialByUsername at ran
  split at ran
  next id held => exact dialById_dials free (.username named id held) (by simpa [asked] using ran)
  next missed =>
    split at ran
    next error refused =>
      obtain ⟨rfl, told⟩ := parseError_ok ran
      exact .unfound free _ looks error (by simp [refusal, errorObject, refused]) told
    next chat found =>
      split at ran
      next isPrivate => exact dialById_dials free (.chat named missed chat found isPrivate) ran
      next => cases ran; exact .nobody free _ looks _

private theorem dialByPhone_dials (free : deps.blockUntil ≤ env.nowChecked)
    (unnamed : deps.ctx.extUsername = "") (phoned : deps.ctx.extPhone ≠ "")
    (ran : dialByPhone settings env deps = .ok final) : Dials settings env deps final := by
  have looks := Looks.phone unnamed phoned
  unfold dialByPhone at ran
  split at ran
  next id held => exact dialById_dials free (.phone unnamed phoned id held) (by simpa [asked] using ran)
  next missed =>
    split at ran
    next error refused =>
      obtain ⟨rfl, told⟩ := parseError_ok ran
      exact .unfound free _ looks error (by simp [refusal, errorObject, refused]) told
    next userIds imported =>
      split at ran
      next => cases ran
      next userId rest =>
        split at ran
        next => cases ran; exact .nobody free _ looks _
        next known => exact dialById_dials free (.contact unnamed phoned missed userId rest imported known) ran

/-- Whatever a dial that returns did, it went one of the five ways. -/
theorem dialTg_dials (ran : dialTg settings env deps = .ok final) : Dials settings env deps final := by
  unfold dialTg at ran
  split at ran
  next early => cases ran; exact .blocked early
  next late =>
    have free := Nat.le_of_not_lt late
    split at ran
    next named => exact dialByUsername_dials free named ran
    next unnamed =>
      have unnamed : deps.ctx.extUsername = "" := by simpa using unnamed
      split at ran
      next phoned => exact dialByPhone_dials free unnamed phoned ran
      next unphoned =>
        have unphoned : deps.ctx.extPhone = "" := by simpa using unphoned
        exact dialById_dials free (.id unnamed unphoned) (by simpa [asked] using ran)

end Paths
end Tg2Sip.Actions

namespace Tg2Sip
open TdApi Lib StateMachine

/-- What a dial leaves in the cache, and until when it blocks. -/
def World.dialing (world : World) : Cache × Time := (world.cache, world.blockUntil)

/-- A dial is attempted, or one of its requests is sent. -/
def Obs.ofDial : Obs → Bool
  | .action _ .dialTg => true
  | .query _ _ function _ => function.dials
  | _ => false

section Others
variable {settings : Settings} {env : Env} {deps final : Deps}

private theorem guarded_dialing {name : ActionName} {request : SipRequest} {result : Except Exception Unit}
    (ran : Actions.guarded name request result deps = .ok final) : final.dialing = deps.dialing := by
  unfold Actions.guarded at ran
  split at ran <;> cases ran <;> rfl

private theorem cleanUp_dialing (ran : Actions.cleanUp env deps = .ok final) : final.dialing = deps.dialing := by
  obtain ⟨middle, stopped, cleaned⟩ := bind_ok_iff.mp ran
  have discarded : ∀ deps : Deps, (Actions.discardTg env deps).dialing = deps.dialing := by
    intro deps
    unfold Actions.discardTg
    split <;> rfl
  have hungUp : ∀ deps : Deps, (Actions.hangupSip env deps).dialing = deps.dialing := by
    intro deps
    unfold Actions.hangupSip
    split <;> rfl
  have first : middle.dialing = deps.dialing := by
    unfold Actions.stopController at stopped
    split at stopped
    next => cases stopped; rfl
    next controller present =>
      obtain ⟨⟨last, ended⟩, ran, kept⟩ := bind_ok_iff.mp stopped
      have quiet := Actions.stop_quiet ran
      cases kept
      exact Prod.ext quiet.cache quiet.blockUntil
  cases cleaned
  rw [hungUp, discarded, first]

/-- Only `DialTg` writes the caches and the block. -/
theorem Action.body_dialing {action : Action} (other : action ≠ .dialTg)
    (ran : action.body settings env deps = .ok final) :
    final.dialing = deps.dialing := by
  cases action with
  | storeSipId | storeTgId | storeTgUserId | cleanTgId | cleanSipId | setHangupPrm => cases ran; rfl
  | cleanUp => exact cleanUp_dialing ran
  | dialSip call =>
    simp only [Action.body, Actions.dialSip] at ran
    split at ran
    next => cases ran
    next user found =>
      cases ran
      unfold Actions.dialCallback
      dsimp only
      split <;> rfl
  | answerTg =>
    simp only [Action.body, Actions.answerTg] at ran
    split at ran <;> cases ran <;> rfl
  | acceptIncomingSip ext =>
    simp only [Action.body, Actions.acceptIncomingSip] at ran
    split at ran
    next => exact (guarded_dialing ran).trans rfl
    next => cases ran; rfl
  | answerSip => exact guarded_dialing ran
  | createTgVoip call =>
    obtain ⟨state, controller, middle, begun, rfl⟩ := Actions.createTgVoip_ok ran
    obtain ⟨_, quiet⟩ := Actions.start_ok begun
    exact Prod.ext quiet.cache quiet.blockUntil
  | bridgeAudio =>
    simp only [Action.body, Actions.bridgeAudio] at ran
    split at ran
    next => cases ran
    next => exact guarded_dialing ran
  | dialTg => exact absurd rfl other
  | dialDtmf message =>
    simp only [Action.body] at ran
    split at ran
    next =>
      simp only [Actions.dialDtmf] at ran
      split at ran <;> cases ran <;> rfl
    next => cases ran

theorem StateMachine.runActions_dialing {actions : List Action} (others : .dialTg ∉ actions)
    (ran : runActions settings env actions deps = .ok final) : final.dialing = deps.dialing := by
  induction actions generalizing deps with
  | nil => cases ran; rfl
  | cons action actions ih =>
    obtain ⟨first, rest⟩ := not_or.mp (mt List.mem_cons.mpr others)
    obtain ⟨middle, took, later⟩ := foldlM_cons_ok.mp ran
    rw [ih rest later, Action.body_dialing (Ne.symm first) took]
    rfl

theorem Effect.ofDial {action : Action} {ctx last : Context} {errors : List InternalEvent} {deeds : List Obs}
    (effect : Effect settings env action ctx last errors deeds) (other : action ≠ .dialTg) :
    ∀ obs ∈ deeds, obs.ofDial = false := by
  cases effect with
  | cleanUp ctx controller ended same =>
    intro obs member
    simp only [Effect.stops, Effect.discards, Effect.hangups, List.mem_append] at member
    rcases member with (member | member) | member <;> split at member <;> simp at member <;> rw [member] <;> rfl
  | dialedTg | undialedTg => exact absurd rfl other
  | _ => simp [Obs.ofDial, Function.dials]

theorem Effects.ofDial {actions : List Action} {ctx last : Context} {errors : List InternalEvent} {deeds : List Obs}
    (effects : Effects settings env actions ctx last errors deeds) (others : .dialTg ∉ actions) :
    ∀ obs ∈ deeds, obs.ofDial = false := by
  intro obs member
  rcases effects.deed member with ⟨number, action, taken, rfl⟩ | ⟨action, taken, _, _, _, _, effect, shown, _⟩
  · cases action with
    | dialTg => exact absurd taken others
    | _ => rfl
  · exact effect.ofDial (fun same => others (same ▸ taken)) obs shown

end Others

theorem StateMachine.Transition.dials {settings : Settings} {control target : Control}
    {event : StateMachine.Event} {actions : List Action}
    (transition : Transition settings control event actions target) (member : .dialTg ∈ actions) :
    actions = [.dialTg] ∧ control = .fromSip .sipWaitConfirm ∧ target = .fromSip .waitTg ∧
      ∃ id, event = .sip (.callStateUpdate id .early) := by
  cases transition with
  | dialTg id => exact ⟨rfl, rfl, rfl, id, rfl⟩
  | _ => simp at member

namespace Gateway
variable {settings : Settings} {env : Env} {gateway after : Gateway} {event : GatewayEvent} {seen : List Obs}

/-- A bridge dialed while an event was handled. -/
structure Dialed (settings : Settings) (env : Env) (gateway : Gateway) (event : GatewayEvent) (after : Gateway)
    (seen : List Obs) (slot : Slot) (final : Deps) : Prop where
  found : gateway.bridges = slot.bridges
  early : event = .sip (.callStateUpdate slot.bridge.ctx.sipCallId .early)
  control : slot.bridge.control = .fromSip .sipWaitConfirm
  dials : Actions.Dials settings env
    { toWorld := gateway.toWorld, ctx := slot.bridge.ctx, seen := [.action slot.bridge.ctx.id .dialTg] } final
  after : after = { toWorld := final.toWorld, bridges := slot.before ++ ⟨.fromSip .waitTg, final.ctx⟩ :: slot.after
                    ctxCounter := gateway.ctxCounter }
  seen : seen = final.seen

/-- A bridge that ran `DialTg` while an event was handled, and nothing else. -/
structure RanDial (settings : Settings) (env : Env) (gateway : Gateway) (event : GatewayEvent) (after : Gateway)
    (seen : List Obs) (slot : Slot) (final : Deps) : Prop where
  found : gateway.bridges = slot.bridges
  early : event = .sip (.callStateUpdate slot.bridge.ctx.sipCallId .early)
  control : slot.bridge.control = .fromSip .sipWaitConfirm
  ran : Actions.dialTg settings env
    { toWorld := gateway.toWorld, ctx := slot.bridge.ctx, seen := [.action slot.bridge.ctx.id .dialTg] } = .ok final
  after : after = { toWorld := final.toWorld, bridges := slot.before ++ ⟨.fromSip .waitTg, final.ctx⟩ :: slot.after
                    ctxCounter := gateway.ctxCounter }
  seen : seen = final.seen

theorem RanDial.dialed {slot : Slot} {final : Deps} (dial : RanDial settings env gateway event after seen slot final) :
    Dialed settings env gateway event after seen slot final :=
  ⟨dial.found, dial.early, dial.control, Actions.dialTg_dials dial.ran, dial.after, dial.seen⟩

/-- Each event makes one bridge run `DialTg`, or nothing is done about dials. -/
theorem processEvent_ranDial (ran : gateway.processEvent settings env event = .ok (after, seen)) :
    (∃ slot final, RanDial settings env gateway event after seen slot final) ∨
      after.dialing = gateway.dialing ∧ ∀ obs ∈ seen, obs.ofDial = false := by
  rcases processEvent_ran ran with
    ⟨_, rfl, quiet⟩ | ⟨slot, counter, offered, control, deps, routed, processed, rfl, rfl⟩
  · refine .inr ⟨rfl, fun obs member => ?_⟩
    have signals := quiet obs member
    cases obs <;> first | rfl | cases signals
  · rcases StateMachine.processEvent_ran processed with ⟨_, rfl, rfl⟩ | ⟨actions, transition, took⟩
    · exact .inr ⟨rfl, by simp⟩
    · by_cases member : .dialTg ∈ actions
      · obtain ⟨rfl, waiting, rfl, id, rfl⟩ := transition.dials member
        obtain ⟨middle, dialed, done⟩ := foldlM_cons_ok.mp took
        cases done
        cases routed with
        | sipHeld event slot found holds =>
          refine .inl ⟨slot, deps, found, ?_, waiting, dialed, by simp [kept], rfl⟩
          rw [show slot.bridge.ctx.sipCallId = id from holds]
        | sipFresh event missed => cases waiting
      · obtain ⟨ctx, errors, deeds, effects, did⟩ := runActions_effects took
        refine .inr ⟨runActions_dialing member took, fun obs shown => ?_⟩
        by_contra dial
        have dial : obs.ofDial = true := by simpa using dial
        have deed : obs.deed = true := by cases obs <;> first | rfl | cases dial
        have among : obs ∈ deps.deeds := List.mem_filter.mpr ⟨shown, deed⟩
        rw [did.deeds] at among
        exact absurd dial (by rw [effects.ofDial member obs among]; simp)

end Gateway
end Tg2Sip
