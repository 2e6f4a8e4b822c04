import Tg2Sip.Context
import Tg2Sip.Text

/-! Namespace `state_machine::actions`. An action returns the changed dependencies or
throws; what it throws leaves the noexcept transition functions of the state
machine library, so nothing runs after it. -/

namespace Tg2Sip.Actions
open TdApi Sip Voip

def internalServerError : Nat := 500
def ringing : Nat := 180
def ok : Nat := 200
def notFound : Nat := 404
def badExtension : Nat := 420

def storeSipId (id : CallId) (deps : Deps) : Deps :=
  { deps with ctx.sipCallId := id }.observe (.associated deps.ctx.id .storeSipId (.sip id))

def storeTgId (call : Call) (deps : Deps) : Deps :=
  { deps with ctx.tgCallId := call.id }.observe (.associated deps.ctx.id .storeTgId (.tg call.id))

def storeTgUserId (call : Call) (deps : Deps) : Deps := { deps with ctx.userId := call.userId }

def cleanTgId (deps : Deps) : Deps := { deps with ctx.tgCallId := 0 }

def cleanSipId (deps : Deps) : Deps := { deps with ctx.sipCallId := invalidId }

def setHangupPrm (prm : CallOpParam) (deps : Deps) : Deps := { deps with ctx.hangupPrm := prm }

def protocol (settings : Settings) (env : Env) : CallProtocol :=
  ⟨settings.udpP2p, settings.udpReflector, env.minLayer, env.maxLayer, supportedVersions⟩

/-- The error handling that most actions share for an error object. -/
def errorPrm (error : Error) : CallOpParam :=
  { statusCode := internalServerError, reason := toString error.code ++ "; " ++ error.message }

/-- The `ntg_…` function of a step, when it has one, and what it throws. -/
def waitFor (env : Env) (userId : UserId) (call : Option NtgCall) (deps : Deps) : Except Exception Deps :=
  match call with
  | none => pure deps
  | some call => do
    callBlocking (env.ntg call)
    pure (deps.observe (.ntg deps.ctx.id userId call))

/-- What a step of `Start` leaves once its `ntg_…` function has succeeded. -/
def startEnd (controller : TgCallsController) (step : StartStep) (deps : Deps) : TgCallsController × Deps :=
  let deps := if step = .register then deps.observe (.registered deps.ctx.id controller.userId) else deps
  let (controller, runtime) := controller.started deps.ctx.id deps.runtime step
  (controller, { deps with runtime })

/-- One step of `TgCallsController::Start`. -/
def startStep (env : Env) (state : TgCallsController × Deps) (step : StartStep) :
    Except Exception (TgCallsController × Deps) := do
  let deps ← waitFor env state.1.userId (state.1.startCall step) (state.2.emitAll (env.emittedBeforeStart step))
  pure (startEnd state.1 step deps)

def start (env : Env) (controller : TgCallsController) (deps : Deps) :
    Except Exception (TgCallsController × Deps) :=
  TgCallsController.startSteps.foldlM (startStep env) (controller, deps)

def stopEnd (controller : TgCallsController) (step : StopStep) (deps : Deps) : TgCallsController × Deps :=
  let deps := if step = .unregister ∧ controller.registered = true then
    deps.observe (.unregistered deps.ctx.id controller.userId) else deps
  let (controller, runtime) := controller.stopped deps.runtime step
  (controller, { deps with runtime })

/-- One step of `TgCallsController::Stop`. -/
def stopStep (env : Env) (state : TgCallsController × Deps) (step : StopStep) :
    Except Exception (TgCallsController × Deps) := do
  let deps ← waitFor env state.1.userId (state.1.stopCall step) (state.2.emitAll (env.emittedBeforeStop step))
  pure (stopEnd state.1 step deps)

def stop (env : Env) (controller : TgCallsController) (deps : Deps) :
    Except Exception (TgCallsController × Deps) :=
  TgCallsController.stopSteps.foldlM (stopStep env) (controller, deps)

/-- `CleanUp`: the first part stops the controller. -/
def stopController (env : Env) (deps : Deps) : Except Exception Deps :=
  match deps.ctx.controller with
  | none => pure deps
  | some controller => do
    let (controller, deps) ← stop env controller (deps.observe (.stopped deps.ctx.id))
    pure { deps with ctx.controller := some controller }

/-- `CleanUp`: a refused discard is only logged. -/
def discardTg (env : Env) (deps : Deps) : Deps :=
  if deps.ctx.tgCallId ≠ 0 then
    let deps := deps.query .cleanUp
      (.discardCall deps.ctx.tgCallId false "" 0 false deps.ctx.tgCallId) env.discardCall.toBool
    { deps with ctx.tgCallId := 0 }
  else deps

/-- `CleanUp`: a `pj::Error` is only logged, and the id is forgotten all the same. -/
def hangupSip (env : Env) (deps : Deps) : Deps :=
  if deps.ctx.sipCallId ≠ invalidId then
    let (client, result) := deps.sip.hangup deps.ctx.sipCallId env.hangup
    let callbacks := if (deps.sip.calls deps.ctx.sipCallId).isSome then env.hangup.callbacks else []
    let deps := deps.request .cleanUp (.hangup deps.ctx.sipCallId deps.ctx.hangupPrm) result.toBool
    { deps with
      sip := client
      seen := deps.seen ++ callbacks.map Obs.callback
      ctx.sipCallId := invalidId }
  else deps

def cleanUp (env : Env) (deps : Deps) : Except Exception Deps := do
  let deps ← stopController env deps
  pure (hangupSip env (discardTg env deps))

def optionalHeader (name value : String) : List Header :=
  if value = "" then [] else [⟨name, value⟩]

/-- The headers that `DialSip` adds to the INVITE. -/
def dialHeaders (env : Env) (ctx : CtxId) (userId : UserId) (user : User) : List Header :=
  [⟨"X-GW-Context", toString env.pid ++ "-" ++ toString ctx⟩, ⟨"X-TG-ID", toString userId⟩] ++
    optionalHeader "X-TG-FirstName" user.firstName ++
    optionalHeader "X-TG-LastName" user.lastName ++
    optionalHeader "X-TG-Username" (user.editableUsername.getD "") ++
    optionalHeader "X-TG-Phone" user.phoneNumber

/-- The call of `sip::Client::Dial` in `DialSip` and its handler for `pj::Error`. -/
def dialCallback (env : Env) (uri : String) (prm : CallOpParam) (deps : Deps) : Deps :=
  let call := deps.sip.created
  let (client, result) := deps.sip.dial env.makeCall
  let given : List Obs := match result with
    | .ok id => [.given (some deps.ctx.id) id call]
    | .error _ => []
  let deps := { deps with
    sip := client
    seen := deps.seen ++ given ++ env.makeCall.callbacks.map Obs.callback }
  let deps := deps.request .dialSip (.dial uri prm) result.toBool
  match result with
  | .ok id => { deps with ctx.sipCallId := id }.observe (.associated deps.ctx.id .dialSip (.sip id))
  | .error (.pjError reason) => deps.internalError { statusCode := internalServerError, reason }
  | .error _ => deps

/-- The error object of `getUser` is thrown and nothing catches it. -/
def dialSip (settings : Settings) (env : Env) (call : Call) (deps : Deps) : Except Exception Deps :=
  match env.getUser with
  | .error error => .error (.runtimeError error.message)
  | .ok user =>
    let deps := deps.query .dialSip (.getUser call.userId) true
    let prm : CallOpParam := { headers := dialHeaders env deps.ctx.id call.userId user }
    pure (dialCallback env settings.callbackUri prm deps)

def answerTg (settings : Settings) (env : Env) (deps : Deps) : Except Exception Deps :=
  let request := Function.acceptCall deps.ctx.tgCallId (protocol settings env)
  match env.acceptCall with
  | .ok () => pure (deps.query .answerTg request true)
  | .error error => pure ((deps.query .answerTg request false).internalError (errorPrm error))

/-- A call of `sip::Client` inside `try`, with the handlers for `pj::Error` and for
`std::runtime_error` that three actions share. -/
def guarded (name : ActionName) (request : SipRequest) (result : Except Exception Unit) (deps : Deps) :
    Except Exception Deps :=
  match result with
  | .ok () => pure (deps.request name request true)
  | .error (.pjError reason) =>
    pure ((deps.request name request false).internalError { statusCode := internalServerError, reason })
  | .error (.runtimeError what) =>
    pure ((deps.request name request false).internalError { statusCode := internalServerError, reason := what })
  | .error thrown => .error thrown

/-- The target that an extension names, or nothing for an invalid extension. -/
def parseExtension (ext : String) (ctx : Context) : Option Context :=
  let text := ext.toList
  if text.length > 3 ∧ text.take 3 = "tg#".toList then
    some { ctx with extUsername := String.ofList (text.drop 3) }
  else if text.length > 1 ∧ text.head? = some '+' ∧ Text.isDigits (text.drop 1) = true then
    some { ctx with extPhone := String.ofList (text.drop 1) }
  else if Text.isDigits text then
    match Text.stol text with
    | .ok id => some { ctx with userId := (id : Int) }
    | .error _ => none
  else none

def acceptIncomingSip (env : Env) (ext : String) (deps : Deps) : Except Exception Deps :=
  match parseExtension ext deps.ctx with
  | some ctx =>
    let deps := { deps with ctx := ctx }
    guarded .acceptIncomingSip (.answer deps.ctx.sipCallId { statusCode := ringing })
      (deps.sip.answer deps.ctx.sipCallId env.answer) deps
  | none => pure (deps.internalError { statusCode := badExtension })

def answerSip (env : Env) (deps : Deps) : Except Exception Deps :=
  guarded .answerSip (.answer deps.ctx.sipCallId { statusCode := ok })
    (deps.sip.answer deps.ctx.sipCallId env.answer) deps

def rtcServer (server : CallServer) : Option RtcServer :=
  match server.type with
  | .telegramReflector peerTag =>
    some { id := UInt64.ofInt server.id, ipv4 := server.ipAddress, ipv6 := server.ipv6Address
           port := UInt16.ofInt server.port, peerTag }
  | .webrtc username password supportsTurn supportsStun =>
    if !supportsTurn && !supportsStun then none
    else some { id := UInt64.ofInt server.id, ipv4 := server.ipAddress, ipv6 := server.ipv6Address
                port := UInt16.ofInt server.port, username, password
                turn := supportsTurn, stun := supportsStun }

def newController (settings : Settings) (call : Call) (state : CallStateReady) (userId : UserId) : TgCallsController :=
  { userId
    encryptionKey := state.encryptionKey.take 256
    isOutgoing := call.isOutgoing
    rtcServers := state.servers.filterMap rtcServer
    enableP2p := settings.udpP2p }

/-- What the constructor of `TgCallsController` throws: each of its two audio ports asks for a
place in the conference bridge, which has as many as it was configured with. -/
def registerPorts (env : Env) : Except Exception Unit := do
  Client.pjMethod env.audioInput
  Client.pjMethod env.audioOutput

/-- The key is copied as 256 bytes whatever its size. The controller is stored in the
context only after `Start` has returned. -/
def createTgVoip (settings : Settings) (env : Env) (call : Call) (deps : Deps) : Except Exception Deps :=
  match call.state with
  | .ready state =>
    if state.encryptionKey.length < 256 then .error .undefinedBehaviour
    else do
      registerPorts env
      let (controller, deps) ← start env (newController settings call state deps.ctx.userId) deps
      pure ({ deps with ctx.controller := some controller }.observe (.started deps.ctx.id))
  | _ => .error .undefinedBehaviour

def bridgeAudio (env : Env) (deps : Deps) : Except Exception Deps :=
  match deps.ctx.controller with
  | none => .error .undefinedBehaviour
  | some _ =>
    guarded .bridgeAudio (.bridgeAudio deps.ctx.sipCallId)
      (deps.sip.bridgeAudio deps.ctx.sipCallId env.audioMedia env.startTransmit) deps

def delayPattern : List Char := "Too Many Requests: retry after ".toList

def floodPattern : List Char := "PEER_FLOOD".toList

/-- The sum of an `int` and an `unsigned int` is unsigned. -/
def parseError (settings : Settings) (env : Env) (error : Error) (deps : Deps) : Except Exception Deps :=
  match Text.searchDigitsAfter delayPattern error.message.toList with
  | some digits => do
    let seconds ← Text.stoi digits
    let wait := (UInt32.ofNat seconds + settings.extraWaitTime).toNat
    pure { deps with blockUntil := env.nowFailed + nanoseconds wait }
  | none =>
    if Text.contains floodPattern error.message.toList then
      pure { deps with blockUntil := env.nowFailed + nanoseconds settings.peerFloodTime.toNat }
    else pure deps

/-- The three places where an error object ends a dial. -/
def dialFailed (settings : Settings) (env : Env) (error : Error) (deps : Deps) : Except Exception Deps :=
  parseError settings env error (deps.internalError (errorPrm error))

def dialById (settings : Settings) (env : Env) (id : UserId) (deps : Deps) : Except Exception Deps :=
  let deps := { deps with ctx.userId := id }
  let request := Function.createCall id (protocol settings env) false
  match env.createCall with
  | .error error => dialFailed settings env error (deps.query .dialTg request false)
  | .ok callId =>
    pure ({ deps.query .dialTg request true with ctx.tgCallId := callId }.observe
      (.associated deps.ctx.id .dialTg (.tg callId)))

def dialByPhone (settings : Settings) (env : Env) (deps : Deps) : Except Exception Deps :=
  match deps.cache.phoneCache deps.ctx.extPhone with
  | some id => dialById settings env id deps
  | none =>
    let phone := deps.ctx.extPhone
    let request := Function.importContacts phone phone
    match env.importContacts with
    | .error error => dialFailed settings env error (deps.query .dialTg request false)
    | .ok userIds =>
      let deps := deps.query .dialTg request true
      match userIds with
      | [] => .error .undefinedBehaviour
      | userId :: _ =>
        if userId = 0 then
          pure (deps.internalError { statusCode := notFound, reason := "not registered in telegram" })
        else dialById settings env userId
          { deps with cache.phoneCache := deps.cache.phoneCache.emplace phone userId }

def dialByUsername (settings : Settings) (env : Env) (deps : Deps) : Except Exception Deps :=
  match deps.cache.usernameCache deps.ctx.extUsername with
  | some id => dialById settings env id deps
  | none =>
    let username := deps.ctx.extUsername
    let request := Function.searchPublicChat username
    match env.searchPublicChat with
    | .error error => dialFailed settings env error (deps.query .dialTg request false)
    | .ok chat =>
      let deps := deps.query .dialTg request true
      if chat.isPrivate then
        dialById settings env chat.id
          { deps with cache.usernameCache := deps.cache.usernameCache.emplace username chat.id }
      else pure (deps.internalError { statusCode := internalServerError, reason := "not a user" })

/-- `duration_cast<seconds>` rounds toward zero. -/
def secondsLeft (blockUntil now : Time) : Int := ((blockUntil : Int) - now).tdiv (10 ^ 9)

def dialTg (settings : Settings) (env : Env) (deps : Deps) : Except Exception Deps :=
  if deps.blockUntil > env.nowChecked then
    pure (deps.internalError { statusCode := internalServerError
                               reason := "FLOOD_WAIT " ++ toString (secondsLeft deps.blockUntil env.nowRefused) })
  else if deps.ctx.extUsername ≠ "" then dialByUsername settings env deps
  else if deps.ctx.extPhone ≠ "" then dialByPhone settings env deps
  else dialById settings env deps.ctx.userId deps

/-- Only `pj::Error` is caught. -/
def dialDtmf (env : Env) (text : String) (deps : Deps) : Except Exception Deps :=
  let request := SipRequest.dialDtmf deps.ctx.sipCallId text
  match deps.sip.dialDtmf deps.ctx.sipCallId env.dialDtmf with
  | .ok () => pure (deps.request .dialDtmf request true)
  | .error (.pjError _) => pure (deps.request .dialDtmf request false)
  | .error thrown => .error thrown

end Tg2Sip.Actions
