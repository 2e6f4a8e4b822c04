import Mathlib.Algebra.Group.Nat.Defs
import Mathlib.Algebra.Ring.Int.Defs
import Tg2Sip.NtgCalls
import Tg2Sip.SipClient

/-! The data that the actions of the state machine share: the context of one
bridge, the objects that all bridges share, what the external calls answer
while one event is handled, and the record of what was done. -/

namespace Tg2Sip
open Lib TdApi

/-- The counter behind `Context::next_ctx_id`; the process id in front of it is constant. -/
abbrev CtxId := Nat

/-- `steady_clock::time_point`, in nanoseconds. -/
abbrev Time := Nat

def nanoseconds (seconds : Nat) : Time := seconds * 10 ^ 9

structure Settings where
  callbackUri : String
  udpP2p : Bool := false
  udpReflector : Bool := true
  extraWaitTime : UInt32 := 30
  peerFloodTime : UInt32 := 86400
  deriving Repr

/-- `Settings::Settings`: the `long` that was read from the file is cast to `unsigned int`. -/
def Settings.narrow (value : Int64) : UInt32 := UInt32.ofInt value.toInt

/-- `state_machine::events::Event` -/
inductive InternalEvent where
  | internalError (ctxId : CtxId) (prm : Sip.CallOpParam)
  | signalingDataEmitted (ctxId : CtxId) (data : Bytes)
  deriving DecidableEq, Repr

structure Cache where
  usernameCache : Map String UserId := Map.empty
  phoneCache : Map String UserId := Map.empty

structure Context where
  id : CtxId
  sipCallId : Sip.CallId := Sip.invalidId
  tgCallId : TgCallId := 0
  controller : Option Voip.TgCallsController := none
  extPhone : String := ""
  extUsername : String := ""
  userId : UserId := 0
  hangupPrm : Sip.CallOpParam := {}
  deriving DecidableEq, Repr

/-- What the code outside the gateway answers while one event is handled. An
external function is called at most once per event; `ntg` is indexed by the
call because `Start` makes several. -/
structure Env where
  pid : Nat := 1
  minLayer : Int := 92
  maxLayer : Int := 92
  /-- The clock when the block is checked, when its rest is computed, when an error is parsed. -/
  nowChecked : Time := 0
  nowRefused : Time := 0
  nowFailed : Time := 0
  getUser : Answer User
  acceptCall : Answer Unit := .ok ()
  createCall : Answer TgCallId
  discardCall : Answer Unit := .ok ()
  importContacts : Answer (List UserId)
  searchPublicChat : Answer Chat
  makeCall : Sip.Outcome Sip.CallId
  hangup : Sip.Outcome Unit := { result := .ok () }
  answer : Except String Unit := .ok ()
  audioMedia : Except String Bool := .ok true
  startTransmit : Except String Unit := .ok ()
  dialDtmf : Except String Unit := .ok ()
  /-- `registerMediaPort` in the constructors of `SoftwareAudioInput` and `SoftwareAudioOutput`. -/
  audioInput : Except String Unit := .ok ()
  audioOutput : Except String Unit := .ok ()
  ntg : Voip.NtgCall → Voip.NtgResult := fun _ => {}
  /-- The signaling blobs that ntgcalls workers emit right before a step of `Start` or `Stop`. -/
  emittedBeforeStart : Voip.StartStep → List (UserId × Bytes) := fun _ => []
  emittedBeforeStop : Voip.StopStep → List (UserId × Bytes) := fun _ => []

/-- Everything outside the gateway does what it is asked to. -/
def Env.success (user : UserId) (tg : TgCallId) (sip : Sip.CallId) : Env :=
  { getUser := .ok { id := user }
    createCall := .ok tg
    importContacts := .ok [user]
    searchPublicChat := .ok ⟨user, true⟩
    makeCall := { result := .ok sip } }

/-- The action classes of namespace `state_machine::actions`. -/
inductive ActionName where
  | storeSipId | storeTgId | storeTgUserId | cleanTgId | cleanSipId | cleanUp | dialSip | answerTg
  | acceptIncomingSip | answerSip | createTgVoip | bridgeAudio | setHangupPrm | dialTg | dialDtmf
  deriving DecidableEq, Repr

inductive SipRequest where
  | dial (uri : String) (prm : Sip.CallOpParam)
  | answer (id : Sip.CallId) (prm : Sip.CallOpParam)
  | hangup (id : Sip.CallId) (prm : Sip.CallOpParam)
  | bridgeAudio (id : Sip.CallId)
  | dialDtmf (id : Sip.CallId) (digits : String)
  deriving DecidableEq, Repr

inductive Leg where
  | tg (id : TgCallId)
  | sip (id : Sip.CallId)
  deriving DecidableEq, Repr

/-- What can be seen of a run from outside the process or in its log. A request
carries whether it succeeded. -/
inductive Obs where
  | action (ctx : CtxId) (name : ActionName)
  | query (ctx : CtxId) (name : ActionName) (function : Function) (succeeded : Bool)
  | sip (ctx : CtxId) (name : ActionName) (request : SipRequest) (succeeded : Bool)
  | ntg (ctx : CtxId) (userId : UserId) (call : Voip.NtgCall)
  | registered (ctx : CtxId) (userId : UserId)
  | unregistered (ctx : CtxId) (userId : UserId)
  | started (ctx : CtxId)
  | stopped (ctx : CtxId)
  /-- The log line "associated with". -/
  | associated (ctx : CtxId) (name : ActionName) (leg : Leg)
  /-- pjsua gives an id to a call object, dialed by a context or incoming. -/
  | given (ctx : Option CtxId) (id : Sip.CallId) (call : Sip.CallRef)
  | callback (callback : Sip.Callback)
  | emitted (userId : UserId) (data : Bytes)
  | forwarded (ctx : CtxId) (function : Function)
  | updateSignaling (ctx : CtxId) (data : Bytes)
  deriving DecidableEq, Repr

/-- What all bridges share. -/
structure World where
  sip : Sip.Client := {}
  runtime : Voip.Runtime CtxId := {}
  cache : Cache := {}
  blockUntil : Time := 0
  internalEvents : List InternalEvent := []

/-- `SignalingTrampoline` followed by the callback that `CreateTgVoip` gave the
controller. A blob for a chat without a sink is lost. -/
def World.emit (world : World) (blob : UserId × Bytes) : World :=
  match world.runtime.dispatch blob.1 with
  | some ctx =>
    { world with internalEvents := world.internalEvents ++ [.signalingDataEmitted ctx blob.2] }
  | none => world

/-- What the actions of one machine can reach while it handles an event. -/
structure Deps extends World where
  ctx : Context
  seen : List Obs := []

namespace Deps

def observe (deps : Deps) (obs : Obs) : Deps := { deps with seen := deps.seen ++ [obs] }

def query (deps : Deps) (name : ActionName) (function : Function) (succeeded : Bool) : Deps :=
  deps.observe (.query deps.ctx.id name function succeeded)

def request (deps : Deps) (name : ActionName) (request : SipRequest) (succeeded : Bool) : Deps :=
  deps.observe (.sip deps.ctx.id name request succeeded)

/-- `internal_events.emplace(InternalError{ctx.id(), prm})` -/
def internalError (deps : Deps) (prm : Sip.CallOpParam) : Deps :=
  { deps with internalEvents := deps.internalEvents ++ [.internalError deps.ctx.id prm] }

def emit (deps : Deps) (blob : UserId × Bytes) : Deps :=
  { deps.observe (.emitted blob.1 blob.2) with toWorld := deps.toWorld.emit blob }

def emitAll (deps : Deps) (blobs : List (UserId × Bytes)) : Deps := blobs.foldl emit deps

end Deps
end Tg2Sip
