import Tg2Sip.Actions
import Tg2Sip.Lib.Chart

/-! The transition tables `StateMachine`, `from_tg` and `from_sip`. A composite state
offers an event to its own table first and to the table around it second;
entering a composite state starts it over, and entering X runs `CleanUp`. -/

namespace Tg2Sip
open TdApi Lib

inductive Action where
  | storeSipId (id : Sip.CallId)
  | storeTgId (call : Call)
  | storeTgUserId (call : Call)
  | cleanTgId
  | cleanSipId
  | cleanUp
  | dialSip (call : Call)
  | answerTg
  | acceptIncomingSip (ext : String)
  | answerSip
  | createTgVoip (call : Call)
  | bridgeAudio
  | setHangupPrm (prm : Sip.CallOpParam)
  | dialTg
  | dialDtmf (message : Message)
  deriving DecidableEq, Repr

namespace Action

def name : Action → ActionName
  | .storeSipId _ => .storeSipId
  | .storeTgId _ => .storeTgId
  | .storeTgUserId _ => .storeTgUserId
  | .cleanTgId => .cleanTgId
  | .cleanSipId => .cleanSipId
  | .cleanUp => .cleanUp
  | .dialSip _ => .dialSip
  | .answerTg => .answerTg
  | .acceptIncomingSip _ => .acceptIncomingSip
  | .answerSip => .answerSip
  | .createTgVoip _ => .createTgVoip
  | .bridgeAudio => .bridgeAudio
  | .setHangupPrm _ => .setHangupPrm
  | .dialTg => .dialTg
  | .dialDtmf _ => .dialDtmf

def body (settings : Settings) (env : Env) (deps : Deps) : Action → Except Exception Deps
  | .storeSipId id => pure (Actions.storeSipId id deps)
  | .storeTgId call => pure (Actions.storeTgId call deps)
  | .storeTgUserId call => pure (Actions.storeTgUserId call deps)
  | .cleanTgId => pure (Actions.cleanTgId deps)
  | .cleanSipId => pure (Actions.cleanSipId deps)
  | .cleanUp => Actions.cleanUp env deps
  | .dialSip call => Actions.dialSip settings env call deps
  | .answerTg => Actions.answerTg settings env deps
  | .acceptIncomingSip ext => Actions.acceptIncomingSip env ext deps
  | .answerSip => Actions.answerSip env deps
  | .createTgVoip call => Actions.createTgVoip settings env call deps
  | .bridgeAudio => Actions.bridgeAudio env deps
  | .setHangupPrm prm => pure (Actions.setHangupPrm prm deps)
  | .dialTg => Actions.dialTg settings env deps
  | .dialDtmf message =>
    match message.content with
    | .text text => Actions.dialDtmf env text deps
    | .other => .error .undefinedBehaviour

def run (settings : Settings) (env : Env) (deps : Deps) (action : Action) : Except Exception Deps :=
  action.body settings env (deps.observe (.action deps.ctx.id action.name))

end Action

namespace StateMachine

inductive Event where
  | updateCall (call : Call)
  | updateNewMessage (message : Message)
  | sip (event : Sip.Event)
  | internalError (prm : Sip.CallOpParam)
  deriving DecidableEq, Repr

def isIncoming (call : Call) : Bool := !call.isOutgoing

def isInState (id : CallStateId) (call : Call) : Bool := call.state.getId == id

def callbackUriIsSet (settings : Settings) : Bool := settings.callbackUri ≠ ""

def isMediaReady (hasMedia : Bool) : Bool := hasMedia

def isSipInState (expected state : Sip.InvState) : Bool := state == expected

def isTextContent (message : Message) : Bool :=
  match message.content with
  | .text _ => true
  | .other => false

def isDtmfString (message : Message) : Bool :=
  match message.content with
  | .text text => Text.matchesDtmf text.toList
  | .other => false

abbrev Trigger := Event → Option (List Action)

def onUpdateCall (guard : Call → Bool) (actions : Call → List Action) : Trigger
  | .updateCall call => if guard call then some (actions call) else none
  | _ => none

def onUpdateNewMessage (guard : Message → Bool) (actions : Message → List Action) : Trigger
  | .updateNewMessage message => if guard message then some (actions message) else none
  | _ => none

def onIncomingCall (actions : Sip.CallId → String → List Action) : Trigger
  | .sip (.incomingCall id ext) => some (actions id ext)
  | _ => none

def onCallStateUpdate (guard : Sip.InvState → Bool) (actions : List Action) : Trigger
  | .sip (.callStateUpdate _ state) => if guard state then some actions else none
  | _ => none

def onCallMediaStateUpdate (guard : Bool → Bool) (actions : List Action) : Trigger
  | .sip (.callMediaStateUpdate _ hasMedia) => if guard hasMedia then some actions else none
  | _ => none

def onInternalError (actions : Sip.CallOpParam → List Action) : Trigger
  | .internalError prm => some (actions prm)
  | _ => none

inductive FromTg where
  | sipWaitMedia | waitTg | waitDtmf
  deriving DecidableEq, Repr

inductive FromSip where
  | sipWaitConfirm | waitTg | sipWaitMedia | waitDtmf
  deriving DecidableEq, Repr

inductive Top where
  | init | fromTg | fromSip | X
  deriving DecidableEq, Repr

/-- A state of the whole machine. -/
inductive Control where
  | init
  | fromTg (inner : FromTg)
  | fromSip (inner : FromSip)
  | X
  deriving DecidableEq, Repr

def fromTg : List (Chart.Row FromTg Event Action) := [
  ⟨.sipWaitMedia, onCallMediaStateUpdate isMediaReady [.answerTg], .waitTg⟩,
  ⟨.waitTg, onUpdateCall (isInState .ready) fun call => [.createTgVoip call, .bridgeAudio], .waitDtmf⟩,
  ⟨.waitDtmf, onUpdateNewMessage (fun message => isTextContent message && isDtmfString message)
    fun message => [.dialDtmf message], .waitDtmf⟩]

def fromSip : List (Chart.Row FromSip Event Action) := [
  ⟨.sipWaitConfirm, onCallStateUpdate (isSipInState .early) [.dialTg], .waitTg⟩,
  ⟨.waitTg, onUpdateCall (isInState .ready)
    fun call => [.storeTgUserId call, .createTgVoip call, .answerSip], .sipWaitMedia⟩,
  ⟨.sipWaitMedia, onCallMediaStateUpdate isMediaReady [.bridgeAudio], .waitDtmf⟩,
  ⟨.waitDtmf, onUpdateNewMessage (fun message => isTextContent message && isDtmfString message)
    fun message => [.dialDtmf message], .waitDtmf⟩]

def top (settings : Settings) : List (Chart.Row Top Event Action) := [
  ⟨.init, onUpdateCall (fun call => isIncoming call && isInState .pending call && callbackUriIsSet settings)
    fun call => [.storeTgId call, .storeTgUserId call, .dialSip call], .fromTg⟩,
  ⟨.init, onUpdateCall (fun call => isIncoming call && isInState .pending call && !callbackUriIsSet settings)
    fun call => [.storeTgId call], .X⟩,
  ⟨.init, onUpdateCall (fun _ => true) fun _ => [], .X⟩,
  ⟨.init, onIncomingCall fun id ext => [.storeSipId id, .acceptIncomingSip ext], .fromSip⟩,
  ⟨.init, onCallStateUpdate (fun _ => true) [], .X⟩,
  ⟨.init, onCallMediaStateUpdate (fun _ => true) [], .X⟩,
  ⟨.fromTg, onUpdateCall (fun call => isInState .discarded call || isInState .error call)
    fun _ => [.cleanTgId], .X⟩,
  ⟨.fromTg, onCallStateUpdate (isSipInState .disconnected) [.cleanSipId], .X⟩,
  ⟨.fromTg, onInternalError fun prm => [.setHangupPrm prm], .X⟩,
  ⟨.fromSip, onUpdateCall (fun call => isInState .discarded call || isInState .error call)
    fun _ => [.cleanTgId], .X⟩,
  ⟨.fromSip, onInternalError fun prm => [.setHangupPrm prm], .X⟩,
  ⟨.fromSip, onCallStateUpdate (isSipInState .disconnected) [.cleanSipId], .X⟩]

def enter : Top → Control
  | .init => .init
  | .fromTg => .fromTg .sipWaitMedia
  | .fromSip => .fromSip .sipWaitConfirm
  | .X => .X

def onEntry : Top → List Action
  | .X => [.cleanUp]
  | _ => []

def selectTop (settings : Settings) (state : Top) (event : Event) : Option (List Action × Control) :=
  (Chart.fire (top settings) state event).map fun (actions, target) =>
    (actions ++ onEntry target, enter target)

/-- The transition that an event takes: its actions, the entry action of X included,
and the state it leads to. -/
def select (settings : Settings) (control : Control) (event : Event) : Option (List Action × Control) :=
  match control with
  | .init => selectTop settings .init event
  | .fromTg inner =>
    match Chart.fire fromTg inner event with
    | some (actions, target) => some (actions, .fromTg target)
    | none => selectTop settings .fromTg event
  | .fromSip inner =>
    match Chart.fire fromSip inner event with
    | some (actions, target) => some (actions, .fromSip target)
    | none => selectTop settings .fromSip event
  | .X => selectTop settings .X event

def runActions (settings : Settings) (env : Env) (actions : List Action) (deps : Deps) :
    Except Exception Deps :=
  actions.foldlM (Action.run settings env) deps

def processEvent (settings : Settings) (env : Env) (control : Control) (event : Event) (deps : Deps) :
    Except Exception (Control × Deps) :=
  match select settings control event with
  | none => pure (control, deps)
  | some (actions, target) => do
    let deps ← runActions settings env actions deps
    pure (target, deps)

end StateMachine
end Tg2Sip
