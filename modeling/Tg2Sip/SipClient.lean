import Tg2Sip.Exceptions
import Tg2Sip.Lib.Maps

/-! `sip::Client`: the table of calls, the handlers that PJSIP threads run, and the
methods that the gateway thread runs. What pjsua2 itself does is an input: an
`Outcome` is how one of its methods ended and which callbacks came meanwhile. -/

namespace Tg2Sip.Sip
open Lib

abbrev CallId := Int

/-- `PJSUA_INVALID_ID` -/
def invalidId : CallId := -1

/-- The identity of a `sip::Call` object, in order of construction. Unlike a
`CallId` it is never given to a second call. -/
abbrev CallRef := Nat

/-- `pjsip_inv_state` -/
inductive InvState where
  | null | calling | incoming | early | connecting | confirmed | disconnected
  deriving DecidableEq, Repr

inductive Event where
  | incomingCall (id : CallId) (extension : String)
  | callStateUpdate (id : CallId) (state : InvState)
  | callMediaStateUpdate (id : CallId) (hasMedia : Bool)
  deriving DecidableEq, Repr

def Event.id : Event → CallId
  | .incomingCall id _ | .callStateUpdate id _ | .callMediaStateUpdate id _ => id

structure Header where
  name : String
  value : String
  deriving DecidableEq, Repr

/-- `pj::CallOpParam`, the fields that are set anywhere. -/
structure CallOpParam where
  statusCode : Nat := 0
  reason : String := ""
  headers : List Header := []
  deriving DecidableEq, Repr

inductive Report where
  | state (state : InvState)
  | media (hasMedia : Bool)
  deriving DecidableEq, Repr

/-- `onCallState` or `onCallMediaState` of a `sip::Call` object. -/
structure Callback where
  id : CallId
  call : CallRef
  report : Report
  deriving DecidableEq, Repr

def Callback.event (callback : Callback) : Event :=
  match callback.report with
  | .state state => .callStateUpdate callback.id state
  | .media hasMedia => .callMediaStateUpdate callback.id hasMedia

@[simp] theorem Callback.event_id (callback : Callback) : callback.event.id = callback.id := by
  cases callback with
  | mk id call report => cases report <;> rfl

/-- An event in the queue, with the call object it was queued on behalf of. The
gateway never sees the second part. -/
structure Queued where
  event : Event
  call : CallRef
  deriving DecidableEq, Repr

/-- How a pjsua2 method ended, and the callbacks that ran on PJSIP threads before it
returned. An error is the reason of the `pj::Error` it threw. -/
structure Outcome (α : Type) where
  callbacks : List Callback := []
  result : Except String α

structure Client where
  calls : Map CallId CallRef := Map.empty
  events : List Queued := []
  /-- How many `sip::Call` objects have been constructed. -/
  created : Nat := 0

namespace Client

/-- The handlers of `set_default_handlers` hold a `std::weak_ptr`: they queue an event
only while the table, or the frame of `dial`, still owns the call object. -/
def onCallback (client : Client) (dialing : Option CallRef) (callback : Callback) : Client :=
  if client.calls callback.id = some callback.call ∨ dialing = some callback.call then
    { client with events := client.events ++ [⟨callback.event, callback.call⟩] }
  else client

def onCallbacks (client : Client) (dialing : Option CallRef) (callbacks : List Callback) : Client :=
  callbacks.foldl (fun client callback => client.onCallback dialing callback) client

/-- The handler given to `Account::addHandler`. -/
def onIncomingCall (client : Client) (id : CallId) (extension : String) : Client :=
  { calls := client.calls.emplace id client.created
    events := client.events ++ [⟨.incomingCall id extension, client.created⟩]
    created := client.created + 1 }

def dial (client : Client) (makeCall : Outcome CallId) : Client × Except Exception CallId :=
  let call := client.created
  let client := { client with created := call + 1 }
  let client := client.onCallbacks (some call) makeCall.callbacks
  match makeCall.result with
  | .error reason => (client, .error (.pjError reason))
  | .ok id => ({ client with calls := client.calls.emplace id call }, .ok id)

/-- A throwing `pj::Call::hangup` leaves the entry in place. -/
def hangup (client : Client) (id : CallId) (hangup : Outcome Unit) : Client × Except Exception Unit :=
  match client.calls id with
  | none => (client, .ok ())
  | some _ =>
    let client := client.onCallbacks none hangup.callbacks
    match hangup.result with
    | .error reason => (client, .error (.pjError reason))
    | .ok () => ({ client with calls := client.calls.erase id }, .ok ())

def pjMethod (result : Except String Unit) : Except Exception Unit :=
  match result with
  | .error reason => .error (.pjError reason)
  | .ok () => .ok ()

def answer (client : Client) (id : CallId) (answer : Except String Unit) : Except Exception Unit :=
  match client.calls id with
  | none => .error (.runtimeError "CALL_NOT_FOUND")
  | some _ => pjMethod answer

/-- `audioMedia` is whether `Call::audio_media` found a stream; its `getInfo` may throw. -/
def bridgeAudio (client : Client) (id : CallId) (audioMedia : Except String Bool)
    (startTransmit : Except String Unit) : Except Exception Unit :=
  match client.calls id with
  | none => .error (.runtimeError "CALL_NOT_FOUND")
  | some _ =>
    match audioMedia with
    | .error reason => .error (.pjError reason)
    | .ok false => .error (.runtimeError "SIP_MEDIA_NOT_READY")
    | .ok true => pjMethod startTransmit

def dialDtmf (client : Client) (id : CallId) (dialDtmf : Except String Unit) : Except Exception Unit :=
  match client.calls id with
  | none => .error (.runtimeError "CALL_NOT_FOUND")
  | some _ => pjMethod dialDtmf

end Client
end Tg2Sip.Sip
