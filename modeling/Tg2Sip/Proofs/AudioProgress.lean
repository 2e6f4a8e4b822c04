import Tg2Sip.Proofs.AudioThreads

/-! No step of `Start`, `Stop` or a destructor waits forever. It waits for the feeder, or for an `OnFrames` that holds
the mutex of the runtime, and both come to an end by steps that wait for nobody. -/

namespace Tg2Sip.Voip
open Lib TdApi RingBuffer TgCallsController

namespace RingBuffer
variable {α : Type}

/-- How many accesses a push still takes, at most. -/
def Producer.remaining : Producer α → Nat
  | .idle => 0
  | .loadTail _ samples _ => samples.toNat + 2
  | .writing _ samples _ i => samples.toNat - i + 1

/-- How many accesses a pop still takes, at most. -/
def Consumer.remaining : Consumer → Nat
  | .idle => 0
  | .loadTail samples _ => samples.toNat + 2
  | .reading copied _ i => copied.toNat - i + 1

end RingBuffer

namespace Pipe
variable {α : Type} [Zero α] {pipe : Pipe α} {next : PipeAccess α}

private theorem step_of_threads {threads : Threads α} {shown : List (Sample α)}
    (moved : pipe.threads.step (access next) = some (threads, shown)) :
    ∃ after seen, pipe.step next = some (after, seen) ∧ after.threads = threads := by
  simp only [Pipe.step, moved, Option.map_some]
  cases next with
  | push | pop => exact ⟨_, _, rfl, rfl⟩
  | produce | consume => dsimp only; split <;> exact ⟨_, _, rfl, rfl⟩

theorem push_goes_on (idle : pipe.threads.producer = .idle) (samples : List α) :
    ∃ after seen, pipe.step (.push samples) = some (after, seen) ∧
    after.threads.producer.remaining ≤ samples.length + 2 := by
  have moved : ∃ threads shown, pipe.threads.step (access (.push samples)) = some (threads, shown) ∧
      threads.producer.remaining ≤ samples.length + 2 := by
    simp only [access, Threads.step, idle]
    refine ⟨_, _, rfl, ?_⟩
    simp only [Producer.remaining, UInt64.toNat_ofNat', Nat.add_le_add_iff_right]
    exact Nat.mod_le _ _
  obtain ⟨threads, shown, moved, less⟩ := moved
  obtain ⟨after, seen, step, rfl⟩ := step_of_threads moved
  exact ⟨after, seen, step, less⟩

theorem produce_goes_on (busy : pipe.threads.producer ≠ .idle) : ∃ after seen, pipe.step .produce = some (after, seen) ∧
    after.threads.producer.remaining < pipe.threads.producer.remaining := by
  have moved : ∃ threads shown, pipe.threads.step (access .produce) = some (threads, shown) ∧
      threads.producer.remaining < pipe.threads.producer.remaining := by
    cases held : pipe.threads.producer with
    | idle => exact absurd held busy
    | loadTail data samples head =>
      have fewer := accepts_le pipe.threads.ring head pipe.threads.ring.tail samples
      simp only [access, Threads.step, held]
      split <;> refine ⟨_, _, rfl, ?_⟩ <;> simp only [Producer.remaining] <;> omega
    | writing data samples head i =>
      simp only [access, Threads.step, held]
      split <;> refine ⟨_, _, rfl, ?_⟩ <;> simp only [Producer.remaining] <;> omega
  obtain ⟨threads, shown, moved, less⟩ := moved
  obtain ⟨after, seen, step, rfl⟩ := step_of_threads moved
  exact ⟨after, seen, step, less⟩

theorem consume_goes_on (busy : pipe.threads.consumer ≠ .idle) : ∃ after seen, pipe.step .consume = some (after, seen) ∧
    after.threads.consumer.remaining < pipe.threads.consumer.remaining := by
  have moved : ∃ threads shown, pipe.threads.step (access .consume) = some (threads, shown) ∧
      threads.consumer.remaining < pipe.threads.consumer.remaining := by
    cases held : pipe.threads.consumer with
    | idle => exact absurd held busy
    | loadTail samples head =>
      have fewer := copies_le pipe.threads.ring head pipe.threads.ring.tail samples
      simp only [access, Threads.step, held]
      refine ⟨_, _, rfl, ?_⟩
      simp only [Consumer.remaining]
      omega
    | reading copied tail i =>
      simp only [access, Threads.step, held]
      split <;> refine ⟨_, _, rfl, ?_⟩ <;> simp only [Consumer.remaining] <;> omega
  obtain ⟨threads, shown, moved, less⟩ := moved
  obtain ⟨after, seen, step, rfl⟩ := step_of_threads moved
  exact ⟨after, seen, step, less⟩

end Pipe

/-- How many steps an `OnFrames` still takes, at most. -/
def AudioPath.remaining (path : AudioPath) : Nat :=
  path.playout.threads.producer.remaining + (path.rendering.map fun frame => (toSamples frame).length + 3).sum

/--
The steps that other threads wait for, and that wait for nobody: those of `OnFrames` and of the feeder, and
`interrupt`, the waiting `Stop`'s own store of `false` that the feeder ends by.
-/
def MediaLabel.helps {κ : Type} : MediaLabel κ → Prop
  | .interrupt _ | .returned | .audio _ .render | .audio _ .producePlayout | .audio _ .consumeMic => True
  | _ => False

namespace Media
variable {κ : Type} [DecidableEq κ] {before media : Media κ} {past : List (MediaObs κ)}

/-- What the threads waited for can do, given the store of the `Stop` that waits. -/
def Helps : Media κ → List (MediaObs κ) → Media κ → Prop := Restricted Step fun label _ _ => label.helps

/-- How much is left to do until the mutex is free. -/
def untilReturned (media : Media κ) : Nat :=
  match media.rendering with
  | some self => (media.paths self).remaining + 1
  | none => 0

/-- The steps that a thread's own state permits. -/
private theorem audio_goes_on {self : κ} {holder : Holder}
    (present : before.sessions.holders self = some holder) {label : AudioLabel} (inner : label.isPort = false)
    {path : AudioPath} {shown : List AudioObs}
    (moved : (before.paths self).step holder.controller label = some (path, shown)) :
    Step (.audio self label) before (shown.map (.audio self)) (before.put self path) := by
  simp [Step, Media.step, present, inner, moved]

private theorem onFrames_goes_on (attended : Attended before) (busy : before.rendering ≠ none) : ∃ label seen after,
    MediaLabel.helps label ∧ Step label before seen after ∧ after.sessions = before.sessions ∧
      after.untilReturned < before.untilReturned := by
  obtain ⟨self, held⟩ := Option.ne_none_iff_exists'.mp busy
  obtain ⟨holder, present, _⟩ := attended.sink self held
  have pushes := attended.pushes self
  have before_left : before.untilReturned = (before.paths self).remaining + 1 := by simp only [untilReturned, held]
  have after_left : ∀ path, (before.put self path).untilReturned = path.remaining + 1 := fun path => by
    simp only [untilReturned, put_rendering, held, put_same]
  cases current : (before.paths self).current with
  | some frame =>
    have producing : (before.paths self).playout.threads.producer ≠ .idle := fun idle => by
      rw [pushes.mp idle] at current
      cases current
    obtain ⟨playout, shown, step, less⟩ := Pipe.produce_goes_on producing
    have moved : (before.paths self).step holder.controller .producePlayout =
        some ({ before.paths self with playout }.counted, shown.flatMap AudioPath.playoutObs) := by
      simp [AudioPath.step, AudioPath.stepPlayout, step]
    refine ⟨.audio self .producePlayout, _, _, trivial, audio_goes_on present rfl moved, rfl, ?_⟩
    rw [after_left, before_left]
    simp only [AudioPath.remaining, AudioPath.counted_playout, AudioPath.counted_rendering]
    omega
  | none =>
    cases frames : (before.paths self).rendering with
    | nil =>
      refine ⟨.returned, [], { before with rendering := none }, trivial,
        by simp [Step, Media.step, held, frames, current], rfl, ?_⟩
      rw [before_left]
      exact Nat.succ_pos _
    | cons frame rest =>
      obtain ⟨playout, shown, step, less⟩ := Pipe.push_goes_on (pushes.mpr current) (toSamples frame)
      have moved : (before.paths self).step holder.controller .render =
          some ({ before.paths self with rendering := rest, current := some frame, playout },
              shown.flatMap AudioPath.playoutObs) := by
        simp [AudioPath.step, AudioPath.stepPlayout, frames, current, step]
      refine ⟨.audio self .render, _, _, trivial, audio_goes_on present rfl moved, rfl, ?_⟩
      rw [after_left, before_left]
      simp only [AudioPath.remaining, frames, List.map_cons, List.sum_cons]
      omega

private theorem feeder_goes_on {self : κ} {holder : Holder}
    (present : before.sessions.holders self = some holder)
    (busy : (before.paths self).mic.threads.consumer ≠ .idle) :
    ∃ seen after, Step (.audio self .consumeMic) before seen after ∧
      after.sessions = before.sessions ∧ (after.paths self).feeding = (before.paths self).feeding ∧
        (after.paths self).mic.threads.consumer.remaining < (before.paths self).mic.threads.consumer.remaining := by
  obtain ⟨mic, shown, step, less⟩ := Pipe.consume_goes_on busy
  have moved : (before.paths self).step holder.controller .consumeMic =
      some ({ before.paths self with mic }, shown.flatMap AudioPath.micObs) := by
    simp [AudioPath.step, AudioPath.stepMic, step]
  refine ⟨_, _, audio_goes_on present rfl moved, rfl, ?_⟩
  rw [put_same]
  exact ⟨rfl, less⟩

/-- The mutex of the runtime is given back. -/
private theorem mutex_is_freed (attended : Attended media) (sound : Sessions.Sound (sessionSeen past) media.sessions) :
    ∃ seen after, Run Helps media seen after ∧ after.sessions = media.sessions ∧ after.rendering = none := by
  have works : ∀ before : Media κ, before.sessions = media.sessions ∧ Attended before → ¬ before.rendering = none →
      ∃ seen after, Helps before seen after ∧ (after.sessions = media.sessions ∧ Attended after) ∧
        untilReturned after < untilReturned before := by
    rintro before ⟨same, attended⟩ busy
    obtain ⟨label, seen, after, helps, step, stays, less⟩ := onFrames_goes_on attended busy
    exact ⟨seen, after, ⟨label, helps, step⟩, ⟨stays.trans same, attended.step (by rw [same]; exact sound) step⟩, less⟩
  obtain ⟨seen, after, run, ⟨same, _⟩, free⟩ :=
    Run.finishes (fun other => other.sessions = media.sessions ∧ Attended other)
    (fun other => other.rendering = none) untilReturned works media ⟨rfl, attended⟩
  exact ⟨seen, after, run, same, free⟩

/-- The feeder ends once it is told to. -/
private theorem feeder_ends {self : κ} {holder : Holder} (present : media.sessions.holders self = some holder)
    (joins : media.joins self = true) :
    ∃ seen after, Run Helps media seen after ∧ after.sessions = media.sessions ∧
      (after.paths self).feeding = false ∧ (after.paths self).mic.threads.consumer = .idle := by
  have told : Helps media [] (media.put self { media.paths self with feeding := false }) := by
    refine ⟨.interrupt self, trivial, ?_⟩
    simp [Step, Media.step, joins]
  have works : ∀ before : Media κ, before.sessions = media.sessions ∧ (before.paths self).feeding = false →
      ¬ (before.paths self).mic.threads.consumer = .idle →
        ∃ seen after, Helps before seen after ∧ (after.sessions = media.sessions ∧ (after.paths self).feeding = false) ∧
          (after.paths self).mic.threads.consumer.remaining < (before.paths self).mic.threads.consumer.remaining := by
    rintro before ⟨same, flag⟩ busy
    obtain ⟨seen, after, step, stays, flags, less⟩ := feeder_goes_on (by rw [same]; exact present) busy
    exact ⟨seen, after, ⟨.audio self .consumeMic, trivial, step⟩, ⟨stays.trans same, flags.trans flag⟩, less⟩
  obtain ⟨seen, after, run, ⟨same, flag⟩, idle⟩ := Run.finishes
    (fun other : Media κ => other.sessions = media.sessions ∧ (other.paths self).feeding = false)
    (fun other => (other.paths self).mic.threads.consumer = .idle)
    (fun other => (other.paths self).mic.threads.consumer.remaining) works
    (media.put self { media.paths self with feeding := false }) ⟨rfl, by rw [put_same]⟩
  exact ⟨[] ++ seen, after, (Run.single told).trans run, same, flag, idle⟩

omit [DecidableEq κ] in
private theorem joined_unblocked {self : κ} {result : NtgResult} (joins : media.joins self = true)
    (flag : (media.paths self).feeding = false) (idle : (media.paths self).mic.threads.consumer = .idle) :
    media.blocked (.advance self result) = false := by
  unfold Media.joins at joins
  simp only [blocked]
  split at joins
  next controller startable rest held => simp [held, stopBlocked, flag, idle, Consumer.isIdle]
  next controller rest held => simp [held, stopBlocked, flag, idle, Consumer.isIdle]
  next => cases joins

omit [DecidableEq κ] in
private theorem freed_unblocked {label : SessionLabel κ} (free : media.rendering = none)
    (apart : ∀ self result, label = .advance self result → media.joins self = false) : media.blocked label = false := by
  cases label with
  | advance self result =>
    have other := apart self result rfl
    simp only [blocked]
    split
    next => simp [free]
    next controller startable step rest held => cases step <;> simp [stopBlocked, free, joins, held] at other ⊢
    next controller step rest held => cases step <;> simp [stopBlocked, free, joins, held] at other ⊢
    next => rfl
  | callback => simp [blocked, free]
  | _ => rfl

/--
Whenever `Start`, `Stop`, a destructor or a callback has to wait, the threads that it waits for can go on until
it need not. Nothing else has to happen but the store by which a waiting `Stop` tells the feeder to end.
-/
theorem no_step_waits_forever (reached : Reaches past media) (label : SessionLabel κ) :
    ∃ seen after, Run Helps media seen after ∧ after.sessions = media.sessions ∧ after.blocked label = false := by
  obtain ⟨attended, _, sound⟩ := attended reached
  by_cases joining : ∃ self result, label = .advance self result ∧ media.joins self = true
  · obtain ⟨self, result, rfl, joins⟩ := joining
    obtain ⟨holder, present⟩ : ∃ holder, media.sessions.holders self = some holder := by
      unfold Media.joins at joins
      split at joins
      next held => exact ⟨_, held⟩
      next held => exact ⟨_, held⟩
      next => cases joins
    obtain ⟨seen, after, run, same, flag, idle⟩ := feeder_ends present joins
    exact ⟨seen, after, run, same, joined_unblocked (by rw [Media.joins, same]; exact joins) flag idle⟩
  · obtain ⟨seen, after, run, same, free⟩ := mutex_is_freed attended sound
    refine ⟨seen, after, run, same, freed_unblocked free fun self result called => ?_⟩
    have apart : media.joins self = false := by
      by_contra joins
      exact joining ⟨self, result, called, by simpa using joins⟩
    rw [Media.joins, same]
    exact apart

/-- The destructor of a controller whose `OnFrames` is at work. -/
def sampleWait : List (MediaLabel Nat) :=
  (.construct 0 42 [] false [] true :: .start 0 :: List.replicate 9 (SessionLabel.advance 0 {})).map .session ++
    [.onFrames 42 .playback .microphone [[5, 0]], .audio 0 .render, .session (.destroy 0), .interrupt 0] ++
    List.replicate 3 (.session (.advance 0 {}))

theorem sampleWait_ends : ∃ past, ∃ media : Media Nat, Reaches past media ∧ media.blocked (.advance 0 {}) = true ∧
    ∃ seen after, Run Helps media seen after ∧ after.sessions = media.sessions ∧
      after.blocked (.advance 0 {}) = false := by
  have ran : (execute Media.step (fun _ _ _ => true) sampleWait {}).any
      (fun result => result.1.blocked (.advance 0 {})) = true := by
    decide +kernel
  obtain ⟨media, past, reached, found⟩ := execute_any ran
  exact ⟨past, media, reached, found, no_step_waits_forever reached _⟩

end Media
end Tg2Sip.Voip
