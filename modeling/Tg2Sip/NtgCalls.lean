import Tg2Sip.Exceptions
import Tg2Sip.Lib.Maps
import Tg2Sip.TdApi

/-! `NtgCallsRuntime` and `TgCallsController`. Start and Stop are lists of the atomic
steps they take in order, so that the same steps serve one gateway thread and
any interleaving of several controllers. -/

namespace Tg2Sip.Voip
open Lib TdApi

structure RtcServer where
  id : UInt64
  ipv4 : String
  ipv6 : String
  port : UInt16
  username : String := ""
  password : String := ""
  turn : Bool := false
  stun : Bool := false
  tcp : Bool := false
  peerTag : Bytes := []
  deriving DecidableEq, Repr

inductive StreamMode where
  | capture | playback
  deriving DecidableEq, Repr

/-- The `ntg_…` functions that are waited for; all take the user id as chat id. -/
inductive NtgCall where
  | createP2p
  | setStreamSources (mode : StreamMode)
  | skipExchange (encryptionKey : Bytes) (isOutgoing : Bool)
  | connectP2p (servers : List RtcServer) (versions : List String) (enableP2p : Bool)
  | stop
  deriving DecidableEq, Repr

/-- The return code of an `ntg_…` function and what its promise reported. -/
structure NtgResult where
  rc : Int := 0
  errorCode : Int := 0
  errorMessage : String := ""
  deriving DecidableEq, Repr

def callBlocking (result : NtgResult) : Except Exception Unit :=
  if result.rc ≠ 0 then
    .error (.runtimeError ("ntgcalls call rejected synchronously, code " ++ toString result.rc))
  else if result.errorCode ≠ 0 then
    .error (.runtimeError ("ntgcalls error " ++ toString result.errorCode ++ ": " ++ result.errorMessage))
  else .ok ()

def NtgResult.succeeded (result : NtgResult) : Bool := result.rc == 0 && result.errorCode == 0

theorem callBlocking_ok {result : NtgResult} : callBlocking result = .ok () ↔ result.succeeded = true := by
  unfold callBlocking NtgResult.succeeded
  split
  next rejected => simp [rejected]
  next accepted =>
    split
    next failed => simp [failed]
    next done => simp_all

theorem callBlocking_error {result : NtgResult} (failed : result.succeeded = false) :
    ∃ what, callBlocking result = .error (.runtimeError what) := by
  unfold callBlocking
  split
  · exact ⟨_, rfl⟩
  · split
    · exact ⟨_, rfl⟩
    · simp_all [NtgResult.succeeded]

/-- `SupportedVersions` -/
def supportedVersions : List String := ["8.0.0", "9.0.0"]

/-- The registry of sinks. A sink belongs to one controller, here known by its owner `κ`. -/
structure Runtime (κ : Type) where
  sinks : Map UserId κ := Map.empty

namespace Runtime
variable {κ : Type}

def register (runtime : Runtime κ) (userId : UserId) (sink : κ) : Runtime κ :=
  ⟨runtime.sinks.assign userId sink⟩

def unregister (runtime : Runtime κ) (userId : UserId) : Runtime κ := ⟨runtime.sinks.erase userId⟩

/-- The sink that `SignalingTrampoline` and `FramesTrampoline` call for a chat id. -/
def dispatch (runtime : Runtime κ) (userId : UserId) : Option κ := runtime.sinks userId

end Runtime

structure TgCallsController where
  userId : UserId
  encryptionKey : Bytes
  isOutgoing : Bool
  rtcServers : List RtcServer
  enableP2p : Bool
  created : Bool := false
  registered : Bool := false
  micFeederRunning : Bool := false
  audioInputActive : Bool := false
  audioOutputActive : Bool := false
  deriving DecidableEq, Repr

inductive StartStep where
  | createP2p | setCaptureSources | setPlaybackSources | skipExchange | connectP2p
  | register | startAudioInput | startAudioOutput | startMicFeeder
  deriving DecidableEq, Repr

inductive StopStep where
  | joinMicFeeder | stopAudioInput | stopAudioOutput | unregister | stopNtg
  deriving DecidableEq, Repr

namespace TgCallsController
variable {κ : Type}

def startSteps : List StartStep :=
  [.createP2p, .setCaptureSources, .setPlaybackSources, .skipExchange, .connectP2p,
    .register, .startAudioInput, .startAudioOutput, .startMicFeeder]

def stopSteps : List StopStep :=
  [.joinMicFeeder, .stopAudioInput, .stopAudioOutput, .unregister, .stopNtg]

/-- The `ntg_…` function that a step of `Start` waits for. -/
def startCall (controller : TgCallsController) : StartStep → Option NtgCall
  | .createP2p => some .createP2p
  | .setCaptureSources => some (.setStreamSources .capture)
  | .setPlaybackSources => some (.setStreamSources .playback)
  | .skipExchange => some (.skipExchange controller.encryptionKey controller.isOutgoing)
  | .connectP2p => some (.connectP2p controller.rtcServers supportedVersions controller.enableP2p)
  | .register | .startAudioInput | .startAudioOutput | .startMicFeeder => none

/-- The state that a step of `Start` leaves once its `ntg_…` function has succeeded. -/
def started (self : κ) (controller : TgCallsController) (runtime : Runtime κ) :
    StartStep → TgCallsController × Runtime κ
  | .createP2p => ({ controller with created := true }, runtime)
  | .setCaptureSources | .setPlaybackSources | .skipExchange | .connectP2p => (controller, runtime)
  | .register => ({ controller with registered := true }, runtime.register controller.userId self)
  | .startAudioInput => ({ controller with audioInputActive := true }, runtime)
  | .startAudioOutput => ({ controller with audioOutputActive := true }, runtime)
  | .startMicFeeder => ({ controller with micFeederRunning := true }, runtime)

/-- The `ntg_…` function that a step of `Stop` waits for. -/
def stopCall (controller : TgCallsController) : StopStep → Option NtgCall
  | .stopNtg => if controller.created then some .stop else none
  | .joinMicFeeder | .stopAudioInput | .stopAudioOutput | .unregister => none

def stopped (controller : TgCallsController) (runtime : Runtime κ) :
    StopStep → TgCallsController × Runtime κ
  | .joinMicFeeder => ({ controller with micFeederRunning := false }, runtime)
  | .stopAudioInput => ({ controller with audioInputActive := false }, runtime)
  | .stopAudioOutput => ({ controller with audioOutputActive := false }, runtime)
  | .unregister =>
    if controller.registered then
      ({ controller with registered := false }, runtime.unregister controller.userId)
    else (controller, runtime)
  | .stopNtg => ({ controller with created := false }, runtime)

end TgCallsController
end Tg2Sip.Voip
