import Tg2Sip.StateMachine

/-! `Gateway`: the list of bridges, `search_call`, and one `process_event` for each type
of event. -/

namespace Tg2Sip
open TdApi Lib

structure Bridge where
  control : StateMachine.Control := .init
  ctx : Context
  deriving DecidableEq, Repr

structure Gateway extends World where
  bridges : List Bridge := []
  /-- `ctx_counter` in `Context::next_ctx_id` -/
  ctxCounter : Nat := 0

/-- An iterator into the list of bridges. -/
structure Slot where
  before : List Bridge
  bridge : Bridge
  after : List Bridge

def Slot.bridges (slot : Slot) : List Bridge := slot.before ++ slot.bridge :: slot.after

/-- `std::find_if` -/
def findBridge (predicate : Context → Bool) : List Bridge → Option Slot
  | [] => none
  | bridge :: rest =>
    if predicate bridge.ctx then some ⟨[], bridge, rest⟩
    else (findBridge predicate rest).map fun slot => { slot with before := bridge :: slot.before }

inductive GatewayEvent where
  | internal (event : InternalEvent)
  | update (update : Update)
  | sip (event : Sip.Event)
  deriving DecidableEq, Repr

namespace Gateway

/-- A miss appends a bridge with a new context. -/
def searchCall (gateway : Gateway) (predicate : Context → Bool) : Slot × Nat :=
  match findBridge predicate gateway.bridges with
  | some slot => (slot, gateway.ctxCounter)
  | none =>
    (⟨gateway.bridges, { ctx := { id := gateway.ctxCounter + 1 } }, []⟩, gateway.ctxCounter + 1)

/-- Let the machine of one bridge process an event and, where the handler looks for X,
remove a bridge that has reached it. -/
def deliver (settings : Settings) (env : Env) (gateway : Gateway) (target : Slot × Nat)
    (event : StateMachine.Event) (erases : Bool) : Except Exception (Gateway × List Obs) := do
  let (slot, counter) := target
  let (control, deps) ← StateMachine.processEvent settings env slot.bridge.control event
    { toWorld := gateway.toWorld, ctx := slot.bridge.ctx }
  let kept := if erases = true ∧ control = .X then [] else [⟨control, deps.ctx⟩]
  pure ({ toWorld := deps.toWorld, bridges := slot.before ++ kept ++ slot.after, ctxCounter := counter }, deps.seen)

def processUpdateCall (settings : Settings) (env : Env) (gateway : Gateway) (call : Call) :
    Except Exception (Gateway × List Obs) :=
  gateway.deliver settings env (gateway.searchCall fun ctx => ctx.tgCallId == call.id) (.updateCall call) true

/-- A message of a user with several bridges is dropped. -/
def processUpdateNewMessage (settings : Settings) (env : Env) (gateway : Gateway) (message : Message) :
    Except Exception (Gateway × List Obs) :=
  match message.sender with
  | .chat _ => pure (gateway, [])
  | .user user =>
    let matched := gateway.bridges.filter fun bridge => bridge.ctx.userId == user
    if matched.length > 1 then pure (gateway, [])
    else
      match findBridge (fun ctx => ctx.userId == user) gateway.bridges with
      | none => pure (gateway, [])
      | some slot =>
        gateway.deliver settings env (slot, gateway.ctxCounter) (.updateNewMessage message) false

def processInternalError (settings : Settings) (env : Env) (gateway : Gateway) (ctxId : CtxId)
    (prm : Sip.CallOpParam) : Except Exception (Gateway × List Obs) :=
  match findBridge (fun ctx => ctx.id == ctxId) gateway.bridges with
  | none => pure (gateway, [])
  | some slot => gateway.deliver settings env (slot, gateway.ctxCounter) (.internalError prm) true

/-- The answer of TDLib is not waited for. -/
def processSignalingDataEmitted (gateway : Gateway) (ctxId : CtxId) (data : Bytes) : Gateway × List Obs :=
  match findBridge (fun ctx => ctx.id == ctxId) gateway.bridges with
  | none => (gateway, [])
  | some slot =>
    match slot.bridge.ctx.controller with
    | none => (gateway, [])
    | some _ => (gateway, [.forwarded ctxId (.sendCallSignalingData slot.bridge.ctx.tgCallId data)])

/-- `UpdateSignaling` is detached, and does nothing before `ntg_create_p2p` or after `ntg_stop`. -/
def processUpdateNewCallSignalingData (gateway : Gateway) (callId : TgCallId) (data : Bytes) :
    Gateway × List Obs :=
  match findBridge (fun ctx => ctx.tgCallId == callId) gateway.bridges with
  | none => (gateway, [])
  | some slot =>
    match slot.bridge.ctx.controller with
    | none => (gateway, [])
    | some controller =>
      if controller.created then (gateway, [.updateSignaling slot.bridge.ctx.id data]) else (gateway, [])

def processSipEvent (settings : Settings) (env : Env) (gateway : Gateway) (event : Sip.Event) :
    Except Exception (Gateway × List Obs) :=
  gateway.deliver settings env (gateway.searchCall fun ctx => ctx.sipCallId == event.id) (.sip event) true

def processEvent (settings : Settings) (env : Env) (gateway : Gateway) :
    GatewayEvent → Except Exception (Gateway × List Obs)
  | .internal (.internalError ctxId prm) => gateway.processInternalError settings env ctxId prm
  | .internal (.signalingDataEmitted ctxId data) => pure (gateway.processSignalingDataEmitted ctxId data)
  | .update (.call call) => gateway.processUpdateCall settings env call
  | .update (.newMessage message) => gateway.processUpdateNewMessage settings env message
  | .update (.newCallSignalingData callId data) =>
    pure (gateway.processUpdateNewCallSignalingData callId data)
  | .sip event => gateway.processSipEvent settings env event

/-- One user of `load_cache`. -/
def remember (cache : Cache) (user : User) : Cache :=
  let cache := match user.editableUsername with
    | some username =>
      if username ≠ "" then { cache with usernameCache := cache.usernameCache.emplace username user.id } else cache
    | none => cache
  if user.phoneNumber ≠ "" then { cache with phoneCache := cache.phoneCache.emplace user.phoneNumber user.id }
  else cache

/-- The loop of `load_cache`. A user without access returns from the function. -/
def loadResponses (cache : Cache) : List (Answer User) → Cache
  | [] => cache
  | .error _ :: rest => loadResponses cache rest
  | .ok user :: rest => if !user.haveAccess then cache else loadResponses (remember cache user) rest

/-- The responses are those to the `getUser` requests that were sent for the contacts. -/
def loadCache (cache : Cache) (searchContacts : Answer (List UserId)) (responses : List (Answer User)) : Cache :=
  match searchContacts with
  | .error _ => cache
  | .ok userIds => loadResponses cache (responses.take userIds.length)

end Gateway
end Tg2Sip
