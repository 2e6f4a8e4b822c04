import Tg2Sip.RingBuffer
import Tg2Sip.Sessions

/-! The audio of the controllers: the ports that PJSIP calls, `OnFrames` and `MicFeederLoop`, with the two ring
buffers between them. Four threads take part in a call, each by single accesses to what they share, while
`Start` and `Stop` of any controller go on as in `Sessions`. -/


namespace Tg2Sip.Voip
open Lib TdApi

/-- The calls of `push` and `pop` with what they are given, what the buffer is seen to do, and what the calls end with:
the samples that a push has stored, and the block that a pop leaves in its argument. -/
inductive PipeObs (α : Type) where
  | offered (samples : List α)
  | asked
  | sample (sample : RingBuffer.Sample α)
  | kept (samples : List α)
  | block (samples : List α)

inductive PipeAccess (α : Type) where
  | push (samples : List α)
  | produce
  | pop
  | consume

/-- A ring buffer with its threads, and what the pop that is running has copied to its argument. -/
structure Pipe (α : Type) where
  threads : RingBuffer.Threads α
  scratch : List α := []

namespace Pipe
variable {α : Type} [Zero α]

def new : Pipe α := { threads := { ring := .new TgCallsController.ringBufferCapacity } }

/-- A block of 10 ms. -/
def pad (samples : List α) :
    List α := samples ++ List.replicate (TgCallsController.frameSamples.toNat - samples.length) 0

def copied (seen : List (RingBuffer.Sample α)) : List α := seen.flatMap fun
  | .accepted _ => []
  | .delivered sample => [sample]

def stored (seen : List (RingBuffer.Sample α)) : List α := seen.flatMap fun
  | .accepted samples => samples
  | .delivered _ => []

/-- Both threads that pop want a block. -/
def access : PipeAccess α → RingBuffer.Access α
  | .push samples => .push (fun i => samples.getD i 0) (UInt64.ofNat samples.length)
  | .produce => .produce
  | .pop => .pop TgCallsController.frameSamples
  | .consume => .consume

/-- A call returns when its thread is done with the buffer. -/
def step (pipe : Pipe α) (next : PipeAccess α) : Option (Pipe α × List (PipeObs α)) :=
  (pipe.threads.step (access next)).map fun (threads, seen) =>
    match next with
    | .push samples => ({ pipe with threads }, [.offered samples])
    | .produce =>
      match threads.producer with
      | .idle => ({ pipe with threads }, seen.map .sample ++ [.kept (stored seen)])
      | _ => ({ pipe with threads }, seen.map .sample)
    | .pop => ({ pipe with threads }, [.asked])
    | .consume =>
      let scratch := pipe.scratch ++ copied seen
      match threads.consumer with
      | .idle => ({ threads }, seen.map .sample ++ [.block (pad scratch)])
      | _ => ({ threads, scratch }, seen.map .sample)

end Pipe

/-- `int16_t` in memory, the low byte first. -/
def sampleBytes (sample : Int16) : Bytes :=
  [UInt8.ofNat (sample.toUInt16.toNat % 256), UInt8.ofNat (sample.toUInt16.toNat / 256)]

def toBytes (samples : List Int16) : Bytes := samples.flatMap sampleBytes

/-- A pointer to bytes taken for one to samples, of which there are half as many. -/
def toSamples : Bytes → List Int16
  | low :: high :: rest => (UInt16.ofNat (low.toNat + 256 * high.toNat)).toInt16 :: toSamples rest
  | _ => []

/-- `pjmedia_frame_type` -/
inductive FrameType where
  | none | audio | extended | video
  deriving DecidableEq, Repr

/-- `ntg_stream_device_enum` -/
inductive StreamDevice where
  | microphone | speaker | camera | screen
  deriving DecidableEq, Repr

inductive AudioObs where
  | mic (seen : PipeObs Int16)
  | playout (seen : PipeObs Int16)
  /-- `ntg_send_external_frame` for the microphone. -/
  | sent (frame : Bytes)
  /-- What `GetFrameCallback` of the output leaves in its argument. -/
  | played (type : FrameType) (buf : Bytes)

inductive AudioLabel where
  /-- PJSIP calls the port of the input. -/
  | putFrame (type : FrameType) (buf : Bytes)
  | produceMic
  /-- The next turn of `MicFeederLoop`. -/
  | feed
  | consumeMic
  /-- The next turn of the loop of `OnFrames`. -/
  | render
  | producePlayout
  /-- PJSIP calls the port of the output. -/
  | getFrame
  | consumePlayout

/-- What one controller's audio threads share. -/
structure AudioPath where
  mic : Pipe Int16 := .new
  playout : Pipe Int16 := .new
  /-- `mic_feeder_running_` -/
  feeding : Bool := false
  /-- The frames that the running `OnFrames` has not pushed yet, and the one that it pushes. -/
  rendering : List Bytes := []
  current : Option Bytes := none
  maxAbsSinceStart : Nat := 0
  framesReceived : UInt64 := 0

namespace AudioPath

def micObs : PipeObs Int16 → List AudioObs
  | .block samples => [.mic (.block samples), .sent (toBytes samples)]
  | seen => [.mic seen]

def playoutObs : PipeObs Int16 → List AudioObs
  | .block samples => [.playout (.block samples), .played .audio (toBytes samples)]
  | seen => [.playout seen]

def stepMic (path : AudioPath) (access : PipeAccess Int16) : Option (AudioPath × List AudioObs) :=
  (path.mic.step access).map fun (mic, seen) => ({ path with mic }, seen.flatMap micObs)

def stepPlayout (path : AudioPath) (access : PipeAccess Int16) : Option (AudioPath × List AudioObs) :=
  (path.playout.step access).map fun (playout, seen) => ({ path with playout }, seen.flatMap playoutObs)

/-- The end of a turn of the loop of `OnFrames`, once `push` has returned. -/
def counted (path : AudioPath) : AudioPath :=
  match path.playout.threads.producer, path.current with
  | .idle, some frame =>
    { path with
      current := none
      maxAbsSinceStart :=
        (toSamples frame).foldl (fun most sample => max most sample.toInt.natAbs) path.maxAbsSinceStart
      framesReceived := path.framesReceived + 1 }
  | _, _ => path

/-- A thread takes its next step. The ports ask whether they are active. -/
def step (path : AudioPath) (controller : TgCallsController) : AudioLabel → Option (AudioPath × List AudioObs)
  | .putFrame type buf =>
    if type ≠ .audio then some (path, [])
    else if !controller.audioInputActive then some (path, [])
    else path.stepMic (.push (toSamples buf))
  | .produceMic => path.stepMic .produce
  | .feed => if path.feeding then path.stepMic .pop else none
  | .consumeMic => path.stepMic .consume
  | .render =>
    match path.rendering, path.current with
    | frame :: rest, none =>
      { path with rendering := rest, current := some frame }.stepPlayout (.push (toSamples frame))
    | _, _ => none
  | .producePlayout => (path.stepPlayout .produce).map fun (path, seen) => (path.counted, seen)
  | .getFrame =>
    if !controller.audioOutputActive then some (path, [.played .none []])
    else path.stepPlayout .pop
  | .consumePlayout => path.stepPlayout .consume

end AudioPath

def RingBuffer.Consumer.isIdle : Consumer → Bool
  | .idle => true
  | _ => false

/-- PJSIP leaves a port alone once it is unregistered, as the destructor does it. -/
def AudioLabel.isPort : AudioLabel → Bool
  | .putFrame .. | .produceMic | .getFrame | .consumePlayout => true
  | .feed | .consumeMic | .render | .producePlayout => false

inductive MediaObs (κ : Type) where
  | session (seen : SessionObs κ)
  | audio (self : κ) (seen : AudioObs)

inductive MediaLabel (κ : Type) where
  | session (label : SessionLabel κ)
  /-- `Stop` clears `mic_feeder_running_`, and will join the thread. -/
  | interrupt (self : κ)
  /-- ntgcalls calls the sink of a chat with frames. -/
  | onFrames (userId : UserId) (mode : StreamMode) (device : StreamDevice) (frames : List Bytes)
  /-- `OnFrames` returns, and gives back the mutex of the runtime. -/
  | returned
  | audio (self : κ) (label : AudioLabel)

structure Media (κ : Type) where
  sessions : Sessions κ := {}
  paths : κ → AudioPath := fun _ => {}
  /-- The sink whose `OnFrames` holds the mutex of the runtime. -/
  rendering : Option κ := none

namespace Media
variable {κ : Type} [DecidableEq κ]

def put (media : Media κ) (self : κ) (path : AudioPath) :
    Media κ := { media with paths := Function.update media.paths self path }

/-- A step of `Stop` that waits for another thread. -/
def stopBlocked (media : Media κ) (self : κ) (controller : TgCallsController) : StopStep → Bool
  | .joinMicFeeder =>
    controller.micFeederRunning && ((media.paths self).feeding || !(media.paths self).mic.threads.consumer.isIdle)
  | .unregister => controller.registered && media.rendering.isSome
  | _ => false

/-- What waits for a thread, or for the mutex of the runtime. -/
def blocked (media : Media κ) : SessionLabel κ → Bool
  | .advance self _ =>
    match media.sessions.holders self with
    | some ⟨_, .starting (.register :: _)⟩ => media.rendering.isSome
    | some ⟨controller, .stopping _ (step :: _)⟩ => media.stopBlocked self controller step
    | some ⟨controller, .destroying (step :: _)⟩ => media.stopBlocked self controller step
    | _ => false
  | .callback .. => media.rendering.isSome
  | _ => false

/-- The last step of `Start` starts the feeder. -/
def startsFeeder (media : Media κ) : SessionLabel κ → Option κ
  | .advance self _ =>
    match media.sessions.holders self with
    | some ⟨_, .starting (.startMicFeeder :: _)⟩ => some self
    | _ => none
  | _ => none

def fed (media : Media κ) (label : SessionLabel κ) : Media κ :=
  match media.startsFeeder label with
  | some self => media.put self { media.paths self with feeding := true }
  | none => media

/-- `Stop` is about to join the feeder. -/
def joins (media : Media κ) (self : κ) : Bool :=
  match media.sessions.holders self with
  | some ⟨_, .stopping _ (.joinMicFeeder :: _)⟩ | some ⟨_, .destroying (.joinMicFeeder :: _)⟩ => true
  | _ => false

/-- A step of `Start` or `Stop`, or a callback for signaling. -/
def stepSession (media : Media κ) (label : SessionLabel κ) : Option (Media κ × List (MediaObs κ)) :=
  if media.blocked label then none
  else (media.sessions.step label).map fun (sessions, seen) => ({ media.fed label with sessions }, seen.map .session)

def step (media : Media κ) : MediaLabel κ → Option (Media κ × List (MediaObs κ))
  | .session (.callback _ .frames) => none
  | .session label => media.stepSession label
  | .interrupt self =>
    if media.joins self then some (media.put self { media.paths self with feeding := false }, []) else none
  | .onFrames userId mode device frames =>
    if media.rendering.isSome then none
    else
      match media.sessions.runtime.dispatch userId with
      | none => some (media, [])
      | some sink =>
        if mode ≠ .playback ∨ device ≠ .microphone then some (media, [.session (.dispatched userId .frames sink)])
        else some ({ media.put sink { media.paths sink with rendering := frames } with rendering := some sink },
          [.session (.dispatched userId .frames sink)])
  | .returned =>
    match media.rendering with
    | some sink =>
      if (media.paths sink).rendering = [] ∧ (media.paths sink).current =
        none then some ({ media with rendering := none }, [])
      else none
    | none => none
  | .audio self label =>
    match media.sessions.holders self with
    | none => none
    | some holder =>
      if label.isPort ∧ holder.phase = .destroyed then none
      else ((media.paths self).step holder.controller label).map fun (path, seen) =>
        (media.put self path, seen.map (.audio self))

def Step (label : MediaLabel κ) (before : Media κ) (seen : List (MediaObs κ)) (after : Media κ) : Prop :=
  before.step label = some (after, seen)

/-- Everything that can be seen while the threads take their steps in some order. -/
def Reaches (past : List (MediaObs κ)) (media : Media κ) : Prop := Run (Restricted Step fun _ _ _ => True) {} past media

end Media
end Tg2Sip.Voip
