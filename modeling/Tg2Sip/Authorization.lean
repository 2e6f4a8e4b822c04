import Tg2Sip.TdApi
import Tg2Sip.Lib.Promise

/-! What the thread of `tg::Client` does with the updates of TDLib. Some are queued for the gateway, and the
authorization states set the promise that `main` waits for. -/

namespace Tg2Sip.Tg
open Lib

/-- `td_api::AuthorizationState` -/
inductive AuthorizationState where
  | waitTdlibParameters | waitPhoneNumber | waitPremiumPurchase | waitEmailAddress | waitEmailCode | waitCode
  | waitOtherDeviceConfirmation | waitRegistration | waitPassword | ready | loggingOut | closing | closed
  deriving DecidableEq, Repr

/-- The updates that `process_update` tells apart. -/
inductive Notice where
  | authorizationState (state : AuthorizationState)
  | connectionState (ready : Bool)
  /-- `updateCall`, `updateNewMessage` or `updateNewCallSignalingData` -/
  | event (update : TdApi.Update)
  | other
  deriving DecidableEq, Repr

/-- The members of `tg::Client` that the updates change. The requests of `init_lib_parameters` and `init_proxy`
are null once they were moved from. -/
structure Receiver (φ : Type) where
  isReady : Promise Bool := {}
  libParameters : Option φ
  setProxy : Option φ
  queries : List (Option φ) := []
  events : List TdApi.Update := []
  deriving DecidableEq, Repr

namespace Receiver
variable {φ : Type}

/-- The constructor. -/
def initial (libParameters setProxy : φ) :
    Receiver φ := { libParameters := some libParameters, setProxy := some setProxy }

def onAuthorizationStateUpdate (receiver : Receiver φ) : AuthorizationState → Except FutureError (Receiver φ)
  | .ready => do
    let isReady ← receiver.isReady.setValue true
    pure { receiver with isReady }
  | .waitTdlibParameters =>
    pure { receiver with
      queries := receiver.queries ++ [receiver.libParameters, receiver.setProxy], libParameters := none,
        setProxy := none }
  | _ => do
    let isReady ← receiver.isReady.setValue false
    pure { receiver with isReady }

/-- An exception leaves the loop of the thread and ends the process. -/
def processUpdate (receiver : Receiver φ) : Notice → Except FutureError (Receiver φ)
  | .authorizationState state => receiver.onAuthorizationStateUpdate state
  | .event update => pure { receiver with events := receiver.events ++ [update] }
  | .connectionState _ | .other => pure receiver

def processUpdates (receiver : Receiver φ) (updates : List Notice) : Except FutureError (Receiver φ) :=
  updates.foldlM processUpdate receiver

end Receiver
end Tg2Sip.Tg
