import Tg2Sip.Gateway
import Tg2Sip.Lib.Run

/-! The process with its threads. `Gateway::start` takes at most one event from each
queue in turn; TDLib, PJSIP and ntgcalls threads run in between. A handler of the
gateway thread is one step: other threads meet it through queues to which they
append, so what they do while it runs is done before or after it, or is among
the callbacks and blobs that its environment lists. The one other thing they write
is `Client::calls`, when a call comes in: such a registration is one step too. -/

namespace Tg2Sip
open TdApi Lib

/-- Which queue the loop of `Gateway::start` looks at next. -/
inductive Turn where
  | internal | tg | sip
  deriving DecidableEq, Repr

def Turn.next : Turn → Turn
  | .internal => .tg
  | .tg => .sip
  | .sip => .internal

structure System where
  gateway : Gateway := {}
  tgEvents : List Update := []
  turn : Turn := .internal
  eFlag : Bool := false
  /-- The size of pjsua's pool of call ids. -/
  maxCalls : Nat := 1
  /-- Which call object pjsua has under an id; a disconnected call has none. -/
  live : Map Sip.CallId Sip.CallRef := Map.empty
  /-- Which call object the SIP leg of a context is. The code does not know this. -/
  owner : Map CtxId Sip.CallRef := Map.empty

inductive Label where
  /-- TDLib delivers an update. -/
  | tdlib (update : Update)
  | incoming (id : Sip.CallId) (ext : String)
  | callback (callback : Sip.Callback)
  /-- An ntgcalls worker emits a signaling blob. -/
  | worker (blob : UserId × Bytes)
  /-- SIGINT or SIGTERM. -/
  | signal
  /-- The gateway thread takes its turn at the next queue. -/
  | loop (env : Env)

namespace System

/-- What an observation means to pjsua: an id is given only while no call has it, and
only the call that has an id calls back. -/
def pjsua (maxCalls : Nat) (live : Map Sip.CallId Sip.CallRef) : Obs → Option (Map Sip.CallId Sip.CallRef)
  | .given _ id call =>
    if live id = none ∧ 0 ≤ id ∧ id < maxCalls then some (live.assign id call) else none
  | .callback callback =>
    if live callback.id = some callback.call then
      some (if callback.report = .state .disconnected then live.erase callback.id else live)
    else none
  | _ => some live

/-- A context owns the call it dialed, or the call on whose behalf the event it
stored its id from was queued. -/
def own (queued : Option Sip.CallRef) (owner : Map CtxId Sip.CallRef) : Obs → Map CtxId Sip.CallRef
  | .given (some ctx) _ call => owner.assign ctx call
  | .associated ctx .storeSipId _ =>
    match queued with
    | some call => owner.assign ctx call
    | none => owner
  | _ => owner

/-- Adopt what a step of one thread did. -/
def settle (system : System) (queued : Option Sip.CallRef) (gateway : Gateway) (seen : List Obs) :
    Option (System × List Obs) :=
  (seen.foldlM (pjsua system.maxCalls) system.live).map fun live =>
    ({ system with gateway, live, owner := seen.foldl (own queued) system.owner }, seen)

/-- The event at the head of the queue whose turn it is, the gateway without it, and the
call object that queued it. -/
def pop (system : System) : Option (GatewayEvent × Option Sip.CallRef × System) :=
  let gateway := system.gateway
  match system.turn with
  | .internal =>
    match gateway.internalEvents with
    | [] => none
    | event :: rest => some (.internal event, none, { system with gateway.internalEvents := rest })
  | .tg =>
    match system.tgEvents with
    | [] => none
    | update :: rest => some (.update update, none, { system with tgEvents := rest })
  | .sip =>
    match gateway.sip.events with
    | [] => none
    | queued :: rest =>
      some (.sip queued.event, some queued.call, { system with gateway.sip.events := rest })

/-- One turn of the loop. An exception ends the process, so that no step follows. -/
def loop (settings : Settings) (env : Env) (system : System) : Option (System × List Obs) :=
  if system.turn = .internal ∧ system.eFlag = true then none
  else
    let next := system.turn.next
    match system.pop with
    | none => some ({ system with turn := next }, [])
    | some (event, queued, system) =>
      match system.gateway.processEvent settings env event with
      | .error _ => none
      | .ok (gateway, seen) => { system with turn := next }.settle queued gateway seen

/-- `Gateway::start` returns when the loop sees the flag. Nothing comes after the loop. -/
def leave (system : System) : Option (System × List Obs) :=
  if system.turn = .internal ∧ system.eFlag = true then some (system, []) else none

def step (settings : Settings) (system : System) : Label → Option (System × List Obs)
  | .tdlib update => some ({ system with tgEvents := system.tgEvents ++ [update] }, [])
  | .incoming id ext =>
    system.settle none { system.gateway with sip := system.gateway.sip.onIncomingCall id ext }
      [.given none id system.gateway.sip.created]
  | .callback callback =>
    system.settle none { system.gateway with sip := system.gateway.sip.onCallback none callback }
      [.callback callback]
  | .worker blob =>
    some ({ system with gateway.toWorld := system.gateway.toWorld.emit blob }, [.emitted blob.1 blob.2])
  | .signal => some ({ system with eFlag := true }, [])
  | .loop env => system.loop settings env

/-- The process before the loop starts: the cache is loaded and the queues are empty. -/
def initial (cache : Cache) (maxCalls : Nat) : System := { gateway := { cache }, maxCalls }

/-- The steps of the process as a relation, for `Lib.Run`. -/
def Step (settings : Settings) (label : Label) (before : System) (seen : List Obs) (after : System) : Prop :=
  before.step settings label = some (after, seen)

/-- The process as it can be after some steps that all meet a condition. -/
def Reaches (settings : Settings) (allowed : Label → System → List Obs → Prop) (start : System) (past : List Obs)
    (system : System) : Prop :=
  Run (Restricted (Step settings) allowed) start past system

/-- No condition at all. -/
def Anything (_ : Label) (_ : System) (_ : List Obs) : Prop := True

end System
end Tg2Sip
