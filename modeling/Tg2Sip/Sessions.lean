import Tg2Sip.Lib.Run
import Tg2Sip.NtgCalls

/-! Any number of controllers at once. Each runs `Start`, `Stop` and its destructor step by step, while ntgcalls
calls back for any chat. The flags of a controller are used by its own thread only, so that each is
set together with what it stands for; a callback holds the mutex of the runtime and is one step. -/

namespace Tg2Sip.Voip
open Lib TdApi

/-- How far a controller has come. A `Start` that has not run yet can run once. -/
inductive Phase where
  | idle (startable : Bool)
  | starting (rest : List StartStep)
  | stopping (startable : Bool) (rest : List StopStep)
  | destroying (rest : List StopStep)
  | destroyed
  deriving DecidableEq, Repr

def Phase.afterStart : List StartStep → Phase
  | [] => .idle false
  | rest => .starting rest

def Phase.afterStop (startable : Bool) : List StopStep → Phase
  | [] => .idle startable
  | rest => .stopping startable rest

def Phase.afterDestroy : List StopStep → Phase
  | [] => .destroyed
  | rest => .destroying rest

structure Holder where
  controller : TgCallsController
  phase : Phase := .idle true

/-- The two members of a sink. -/
inductive Callback where
  | signalingData | frames
  deriving DecidableEq, Repr

inductive SessionObs (κ : Type) where
  | ntg (self : κ) (userId : UserId) (call : NtgCall) (succeeded : Bool)
  | registered (self : κ) (userId : UserId)
  | unregistered (self : κ) (userId : UserId)
  | feederStarted (self : κ)
  | feederJoined (self : κ)
  | destroyed (self : κ)
  | dispatched (userId : UserId) (callback : Callback) (sink : κ)
  deriving DecidableEq, Repr

structure Sessions (κ : Type) where
  runtime : Runtime κ := {}
  holders : Map κ Holder := Map.empty
  /-- The chat ids of the sessions that ntgcalls has, by who created them. -/
  live : Map κ UserId := Map.empty

inductive SessionLabel (κ : Type) where
  | construct (self : κ) (userId : UserId) (encryptionKey : Bytes) (isOutgoing : Bool) (rtcServers : List RtcServer)
      (enableP2p : Bool)
  | start (self : κ)
  | stop (self : κ)
  | destroy (self : κ)
  /-- The next step of what a controller runs, and what the `ntg_…` function that it waits for reports. -/
  | advance (self : κ) (result : NtgResult)
  | callback (userId : UserId) (callback : Callback)

/-- The controller that a step is one of. -/
def SessionLabel.actor {κ : Type} : SessionLabel κ → Option κ
  | .construct self .. | .start self | .stop self | .destroy self | .advance self _ => some self
  | .callback .. => none

namespace TgCallsController
variable {κ : Type}

def startShows (self : κ) (controller : TgCallsController) (step : StartStep) (succeeded : Bool) :
    List (SessionObs κ) :=
  match controller.startCall step, step with
  | some call, _ => [.ntg self controller.userId call succeeded]
  | none, .register => [.registered self controller.userId]
  | none, .startMicFeeder => [.feederStarted self]
  | none, _ => []

def stopShows (self : κ) (controller : TgCallsController) (step : StopStep) (succeeded : Bool) : List (SessionObs κ) :=
  match controller.stopCall step, step with
  | some call, _ => [.ntg self controller.userId call succeeded]
  | none, .unregister => if controller.registered then [.unregistered self controller.userId] else []
  | none, .joinMicFeeder => if controller.micFeederRunning then [.feederJoined self] else []
  | none, _ => []

end TgCallsController

namespace Sessions
variable {κ : Type} [DecidableEq κ]

def put (sessions : Sessions κ) (self : κ) (controller : TgCallsController) (phase : Phase) : Sessions κ :=
  { sessions with holders := sessions.holders.assign self ⟨controller, phase⟩ }

/-- A step of `Start`. An exception leaves the function. -/
def runStart (sessions : Sessions κ) (self : κ) (controller : TgCallsController) (step : StartStep)
    (rest : List StartStep) (result : NtgResult) : Sessions κ × List (SessionObs κ) :=
  if (controller.startCall step).isSome && !result.succeeded then
    (sessions.put self controller (.idle false), controller.startShows self step false)
  else
    let (next, runtime) := controller.started self sessions.runtime step
    let live := if step = .createP2p then sessions.live.assign self controller.userId else sessions.live
    ({ sessions with runtime, live }.put self next (.afterStart rest), controller.startShows self step true)

/-- A step of `Stop` that does not throw, with the phase that follows. `ntg_stop` ends what ntgcalls has for the
chat. -/
def runStop (sessions : Sessions κ) (self : κ) (controller : TgCallsController) (step : StopStep) (phase : Phase) :
    Sessions κ × List (SessionObs κ) :=
  let (next, runtime) := controller.stopped sessions.runtime step
  let live := if (controller.stopCall step).isSome then
      fun other => (sessions.live other).filter fun chat => chat ≠ controller.userId
    else sessions.live
  ({ sessions with runtime, live }.put self next phase, controller.stopShows self step true)

/-- An exception that leaves the destructor ends the process. -/
def step (sessions : Sessions κ) : SessionLabel κ → Option (Sessions κ × List (SessionObs κ))
  | .construct self userId encryptionKey isOutgoing rtcServers enableP2p =>
    match sessions.holders self with
    | none => some (sessions.put self { userId, encryptionKey, isOutgoing, rtcServers, enableP2p } (.idle true), [])
    | some _ => none
  | .start self =>
    match sessions.holders self with
    | some ⟨controller, .idle true⟩ => some (sessions.put self controller (.starting TgCallsController.startSteps), [])
    | _ => none
  | .stop self =>
    match sessions.holders self with
    | some ⟨controller, .idle startable⟩ =>
      some (sessions.put self controller (.stopping startable TgCallsController.stopSteps), [])
    | _ => none
  | .destroy self =>
    match sessions.holders self with
    | some ⟨controller, .idle _⟩ =>
      if controller.created then some (sessions.put self controller (.destroying TgCallsController.stopSteps), [])
      else some (sessions.put self controller .destroyed, [.destroyed self])
    | _ => none
  | .advance self result =>
    match sessions.holders self with
    | some ⟨controller, .starting (step :: rest)⟩ => some (sessions.runStart self controller step rest result)
    | some ⟨controller, .stopping startable (step :: rest)⟩ =>
      if (controller.stopCall step).isSome && !result.succeeded then
        some (sessions.put self controller (.idle startable), controller.stopShows self step false)
      else some (sessions.runStop self controller step (.afterStop startable rest))
    | some ⟨controller, .destroying (step :: rest)⟩ =>
      if (controller.stopCall step).isSome && !result.succeeded then none
      else
        let (after, seen) := sessions.runStop self controller step (.afterDestroy rest)
        some (after, seen ++ if rest = [] then [.destroyed self] else [])
    | _ => none
  | .callback userId callback =>
    match sessions.runtime.dispatch userId with
    | some sink => some (sessions, [.dispatched userId callback sink])
    | none => some (sessions, [])

def Step (label : SessionLabel κ) (before : Sessions κ) (seen : List (SessionObs κ)) (after : Sessions κ) : Prop :=
  before.step label = some (after, seen)

/-- The controllers as they can be after some steps that all meet a condition. -/
def Reaches (allowed : SessionLabel κ → Sessions κ → List (SessionObs κ) → Prop) (past : List (SessionObs κ))
    (sessions : Sessions κ) : Prop :=
  Run (Restricted Step allowed) {} past sessions

def Anything (_ : SessionLabel κ) (_ : Sessions κ) (_ : List (SessionObs κ)) : Prop := True

end Sessions
end Tg2Sip.Voip
