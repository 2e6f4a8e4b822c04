import Tg2Sip.Proofs.AudioPath
import Tg2Sip.Proofs.Teardown

/-! The audio of all controllers beside their `Start` and `Stop`. It is carried through both buffers of each
controller, and neither the feeder nor `OnFrames` is at work in a controller that ntgcalls is told to stop. -/

namespace Tg2Sip.Voip
open Lib TdApi RingBuffer TgCallsController

namespace AudioPath

/-- The ways a step of a thread can go. -/
inductive Moves (path : AudioPath) : List AudioObs → AudioPath → Prop where
  | idle : Moves path [] path
  | silent : Moves path [.played .none []] path
  | mic (next : PipeAccess Int16) (mic : Pipe Int16) (shown : List (PipeObs Int16))
      (step : path.mic.step next = some (mic, shown)) (feeding : next = .pop → path.feeding = true) :
      Moves path (shown.flatMap micObs) { path with mic }
  | rendered (frame : Bytes) (rest : List Bytes) (playout : Pipe Int16) (shown : List (PipeObs Int16))
      (frames : path.rendering = frame :: rest)
      (step : path.playout.step (.push (toSamples frame)) = some (playout, shown)) :
      Moves path (shown.flatMap playoutObs) { path with rendering := rest, current := some frame, playout }
  | pushed (playout : Pipe Int16) (shown : List (PipeObs Int16))
      (step : path.playout.step .produce = some (playout, shown)) :
      Moves path (shown.flatMap playoutObs) { path with playout }.counted
  | popped (next : PipeAccess Int16) (playout : Pipe Int16) (shown : List (PipeObs Int16))
      (pops : next = .pop ∨ next = .consume) (step : path.playout.step next = some (playout, shown)) :
      Moves path (shown.flatMap playoutObs) { path with playout }

variable {path after : AudioPath} {controller : TgCallsController} {label : AudioLabel} {seen : List AudioObs}

private theorem mic_moves {next : PipeAccess Int16} (step : path.stepMic next = some (after, seen))
    (feeding : next = .pop → path.feeding = true) : Moves path seen after := by
  obtain ⟨⟨mic, shown⟩, moved, same⟩ := Option.map_eq_some_iff.mp step
  cases same
  exact .mic next mic shown moved feeding

private theorem playout_pops {next : PipeAccess Int16} (step : path.stepPlayout next = some (after, seen))
    (pops : next = .pop ∨ next = .consume) : Moves path seen after := by
  obtain ⟨⟨playout, shown⟩, moved, same⟩ := Option.map_eq_some_iff.mp step
  cases same
  exact .popped next playout shown pops moved

theorem step_moves (step : path.step controller label = some (after, seen)) : Moves path seen after := by
  cases label with
  | putFrame type buf =>
    simp only [AudioPath.step] at step
    split at step
    next => cases step; exact .idle
    next =>
      split at step
      next => cases step; exact .idle
      next => exact mic_moves step (by simp)
  | produceMic => exact mic_moves step (by simp)
  | feed =>
    simp only [AudioPath.step] at step
    split at step
    next feeding => exact mic_moves step fun _ => feeding
    next => cases step
  | consumeMic => exact mic_moves step (by simp)
  | render =>
    simp only [AudioPath.step] at step
    split at step
    next frame rest frames _ =>
      obtain ⟨⟨playout, shown⟩, moved, same⟩ := Option.map_eq_some_iff.mp step
      cases same
      exact .rendered frame rest playout shown frames moved
    next => cases step
  | producePlayout =>
    obtain ⟨⟨middle, shows⟩, first, same⟩ := Option.map_eq_some_iff.mp step
    obtain ⟨⟨playout, shown⟩, moved, rfl, rfl⟩ := Option.map_eq_some_iff.mp first
    cases same
    exact .pushed playout shown moved
  | getFrame =>
    simp only [AudioPath.step] at step
    split at step
    next => cases step; exact .silent
    next => exact playout_pops step (.inl rfl)
  | consumePlayout => exact playout_pops step (.inr rfl)

@[simp] theorem counted_mic : path.counted.mic = path.mic := by unfold counted; split <;> rfl
@[simp] theorem counted_playout : path.counted.playout = path.playout := by unfold counted; split <;> rfl
@[simp] theorem counted_feeding : path.counted.feeding = path.feeding := by unfold counted; split <;> rfl
@[simp] theorem counted_rendering : path.counted.rendering = path.rendering := by unfold counted; split <;> rfl

end AudioPath

section Histories

def micSeen (past : List AudioObs) : List (PipeObs Int16) := past.filterMap fun
  | .mic seen => some seen
  | _ => none

def playoutSeen (past : List AudioObs) : List (PipeObs Int16) := past.filterMap fun
  | .playout seen => some seen
  | _ => none

/-- The frames that ntgcalls is given. -/
def sentFrames (past : List AudioObs) : List Bytes := past.filterMap fun
  | .sent frame => some frame
  | _ => none

/-- The frames that PJSIP plays. -/
def playedFrames (past : List AudioObs) : List Bytes := past.filterMap fun
  | .played .audio buf => some buf
  | _ => none

variable (past seen : List AudioObs) (shown : List (PipeObs Int16))

@[simp] theorem micSeen_append : micSeen (past ++ seen) = micSeen past ++ micSeen seen := List.filterMap_append
@[simp] theorem playoutSeen_append : playoutSeen (past ++ seen) = playoutSeen past ++ playoutSeen seen :=
  List.filterMap_append
@[simp] theorem sentFrames_append : sentFrames (past ++ seen) = sentFrames past ++ sentFrames seen :=
  List.filterMap_append
@[simp] theorem playedFrames_append : playedFrames (past ++ seen) = playedFrames past ++ playedFrames seen :=
  List.filterMap_append

theorem shown_mic :
    micSeen (shown.flatMap AudioPath.micObs) = shown ∧ playoutSeen (shown.flatMap AudioPath.micObs) = [] ∧
    sentFrames (shown.flatMap AudioPath.micObs) = (Pipe.blocks shown).map toBytes ∧
      playedFrames (shown.flatMap AudioPath.micObs) = [] := by
  induction shown with
  | nil => exact ⟨rfl, rfl, rfl, rfl⟩
  | cons obs shown ih =>
    obtain ⟨mic, playout, sent, played⟩ := ih
    rw [List.flatMap_cons, micSeen_append, playoutSeen_append, sentFrames_append, playedFrames_append, mic,
      playout, sent, played]
    cases obs <;> exact ⟨rfl, rfl, rfl, rfl⟩

theorem shown_playout :
    micSeen (shown.flatMap AudioPath.playoutObs) = [] ∧ playoutSeen (shown.flatMap AudioPath.playoutObs) = shown ∧
    sentFrames (shown.flatMap AudioPath.playoutObs) = [] ∧
      playedFrames (shown.flatMap AudioPath.playoutObs) = (Pipe.blocks shown).map toBytes := by
  induction shown with
  | nil => exact ⟨rfl, rfl, rfl, rfl⟩
  | cons obs shown ih =>
    obtain ⟨mic, playout, sent, played⟩ := ih
    rw [List.flatMap_cons, micSeen_append, playoutSeen_append, sentFrames_append, playedFrames_append, mic,
      playout, sent, played]
    cases obs <;> exact ⟨rfl, rfl, rfl, rfl⟩

end Histories

/-- What a controller's buffers have carried. -/
structure Carried (past : List AudioObs) (path : AudioPath) : Prop where
  mic : Pipe.Flows (micSeen past) path.mic
  playout : Pipe.Flows (playoutSeen past) path.playout
  sent : sentFrames past = (Pipe.blocks (micSeen past)).map toBytes
  played : playedFrames past = (Pipe.blocks (playoutSeen past)).map toBytes

namespace Carried
variable {past seen : List AudioObs} {path after : AudioPath}

theorem initial : Carried [] {} := ⟨.initial, .initial, rfl, rfl⟩

theorem unchanged (carried : Carried past path) (mic : after.mic = path.mic)
    (playout : after.playout = path.playout) : Carried past after :=
  ⟨by rw [mic]; exact carried.mic, by rw [playout]; exact carried.playout, carried.sent, carried.played⟩

private theorem quiet (carried : Carried past path) (shown : List AudioObs)
    (silent : micSeen shown = [] ∧ playoutSeen shown = [] ∧ sentFrames shown = [] ∧ playedFrames shown = []) :
    Carried (past ++ shown) path := by
  obtain ⟨mic, playout, sent, played⟩ := silent
  refine ⟨?_, ?_, ?_, ?_⟩ <;>
    simp only [micSeen_append, playoutSeen_append, sentFrames_append, playedFrames_append, mic, playout, sent, played,
    List.append_nil]
  · exact carried.mic
  · exact carried.playout
  · exact carried.sent
  · exact carried.played

private theorem ofMic (carried : Carried past path) {next : PipeAccess Int16} {mic : Pipe Int16}
    {shown : List (PipeObs Int16)} (step : path.mic.step next = some (mic, shown)) :
    Carried (past ++ shown.flatMap AudioPath.micObs) { path with mic } := by
  obtain ⟨into, aside, sends, plays⟩ := shown_mic shown
  refine ⟨?_, ?_, ?_, ?_⟩ <;>
    simp only [micSeen_append, playoutSeen_append, sentFrames_append, playedFrames_append, into, aside, sends, plays,
    List.append_nil, Pipe.blocks_append, List.map_append]
  · exact carried.mic.step step
  · exact carried.playout
  · rw [carried.sent]
  · exact carried.played

private theorem ofPlayout (carried : Carried past path) {next : PipeAccess Int16} {playout : Pipe Int16}
    {shown : List (PipeObs Int16)} (step : path.playout.step next = some (playout, shown)) (other : AudioPath)
    (mic : other.mic = path.mic) (same : other.playout = playout) :
    Carried (past ++ shown.flatMap AudioPath.playoutObs) other := by
  obtain ⟨aside, into, sends, plays⟩ := shown_playout shown
  refine ⟨?_, ?_, ?_, ?_⟩ <;>
    simp only [micSeen_append, playoutSeen_append, sentFrames_append, playedFrames_append, into, aside, sends, plays,
    List.append_nil, Pipe.blocks_append, List.map_append]
  · rw [mic]
    exact carried.mic
  · rw [same]
    exact carried.playout.step step
  · exact carried.sent
  · rw [carried.played]

theorem step (carried : Carried past path) (moves : path.Moves seen after) : Carried (past ++ seen) after := by
  cases moves with
  | idle => exact carried.quiet [] ⟨rfl, rfl, rfl, rfl⟩
  | silent => exact carried.quiet _ ⟨rfl, rfl, rfl, rfl⟩
  | mic next mic shown step feeding => exact carried.ofMic step
  | rendered frame rest playout shown frames step => exact carried.ofPlayout step _ rfl rfl
  | pushed playout shown step => exact carried.ofPlayout step _ AudioPath.counted_mic AudioPath.counted_playout
  | popped next playout shown pops step => exact carried.ofPlayout step _ rfl rfl

end Carried

/-- Frames are blocks of samples. -/
private theorem frames_read {frames : List Bytes} {blocks : List (List Int16)} (same : frames = blocks.map toBytes) :
    frames.map toSamples = blocks := by
  rw [same, List.map_map]
  exact (List.map_congr_left fun samples _ => toSamples_toBytes samples).trans (List.map_id _)

private theorem frames_whole {past : List (PipeObs Int16)} {pipe : Pipe Int16} (flows : Pipe.Flows past pipe)
    {frames : List Bytes} (same : frames = (Pipe.blocks past).map toBytes) :
    ∀ frame ∈ frames, frame.length = 960 := by
  rw [same]
  intro frame member
  obtain ⟨block, held, rfl⟩ := List.mem_map.mp member
  rw [length_toBytes, flows.carries.block_length held]

namespace Media
variable {κ : Type} [DecidableEq κ]

/-- What is seen of the sessions. -/
def sessionSeen (past : List (MediaObs κ)) : List (SessionObs κ) := past.filterMap fun
  | .session seen => some seen
  | .audio .. => none

/-- What is seen of the audio of one controller. -/
def audioSeen (self : κ) (past : List (MediaObs κ)) : List AudioObs := past.filterMap fun
  | .audio other seen => if other = self then some seen else none
  | .session _ => none

section Histories
variable (past seen : List (MediaObs κ)) (self : κ)

omit [DecidableEq κ] in
@[simp] theorem sessionSeen_append : sessionSeen (past ++ seen) = sessionSeen past ++ sessionSeen seen :=
  List.filterMap_append

@[simp] theorem audioSeen_append : audioSeen self (past ++ seen) = audioSeen self past ++ audioSeen self seen :=
  List.filterMap_append

omit [DecidableEq κ] in
@[simp] theorem sessionSeen_session (seen : List (SessionObs κ)) : sessionSeen (seen.map .session) = seen := by
  simp [sessionSeen, List.filterMap_map]

@[simp] theorem audioSeen_session (seen : List (SessionObs κ)) : audioSeen self (seen.map .session) = [] := by
  simp [audioSeen, List.filterMap_map]

omit [DecidableEq κ] in
@[simp] theorem sessionSeen_audio (seen : List AudioObs) : sessionSeen (seen.map (.audio self)) = [] := by
  simp [sessionSeen, List.filterMap_map]

theorem audioSeen_audio (other : κ) (seen : List AudioObs) :
    audioSeen self (seen.map (.audio other)) = if other = self then seen else [] := by
  by_cases same : other = self <;> simp [audioSeen, List.filterMap_map, same]

end Histories

omit [DecidableEq κ] in
theorem mem_sessionSeen {past : List (MediaObs κ)} {obs : SessionObs κ} :
    obs ∈ sessionSeen past ↔ .session obs ∈ past := by
  rw [sessionSeen, List.mem_filterMap]
  constructor
  · rintro ⟨seen, member, same⟩
    cases seen with
    | session seen => cases same; exact member
    | audio => cases same
  · exact fun member => ⟨_, member, rfl⟩

theorem mem_sentFrames {self : κ} {past : List (MediaObs κ)} {frame : Bytes}
    (sent : frame ∈ sentFrames (audioSeen self past)) :
    .audio self (.sent frame) ∈ past := by
  obtain ⟨obs, among, same⟩ := List.mem_filterMap.mp sent
  obtain ⟨shown, member, own⟩ := List.mem_filterMap.mp among
  cases obs <;> cases same
  cases shown with
  | session => cases own
  | audio other seen =>
    obtain ⟨here, rfl⟩ : other = self ∧ seen = .sent frame := by simpa using own
    rw [← here]
    exact member

/-- The ways a step can go. -/
inductive Moves (before : Media κ) : List (MediaObs κ) → Media κ → Prop where
  | session (label : SessionLabel κ) (sessions : Sessions κ) (seen : List (SessionObs κ))
      (free : before.blocked label = false) (step : Sessions.Step label before.sessions seen sessions) :
      Moves before (seen.map .session) { before.fed label with sessions }
  | interrupted (self : κ) : Moves before [] (before.put self { before.paths self with feeding := false })
  | lost : Moves before [] before
  | ignored (userId : UserId) (sink : κ) (found : before.sessions.runtime.sinks userId = some sink) :
      Moves before [.session (.dispatched userId .frames sink)] before
  | dispatched (userId : UserId) (sink : κ) (frames : List Bytes)
      (found : before.sessions.runtime.sinks userId = some sink) (free : before.rendering = none) :
      Moves before [.session (.dispatched userId .frames sink)]
        { before.put sink { before.paths sink with rendering := frames } with rendering := some sink }
  | returned (sink : κ) (held : before.rendering = some sink)
      (done : (before.paths sink).rendering = [] ∧ (before.paths sink).current = none) :
      Moves before [] { before with rendering := none }
  | audio (self : κ) (path : AudioPath) (seen : List AudioObs) (moves : (before.paths self).Moves seen path) :
      Moves before (seen.map (.audio self)) (before.put self path)

variable {before after media : Media κ} {label : MediaLabel κ} {past seen : List (MediaObs κ)}

private theorem session_moves {label : SessionLabel κ} (step : before.stepSession label = some (after, seen)) :
    Moves before seen after := by
  unfold stepSession at step
  split at step
  next => cases step
  next free =>
    obtain ⟨⟨sessions, shown⟩, moved, same⟩ := Option.map_eq_some_iff.mp step
    cases same
    exact .session label sessions shown (by simpa using free) moved

theorem step_moves (step : Step label before seen after) : Moves before seen after := by
  cases label with
  | session label =>
    cases label with
    | callback userId callback =>
      cases callback with
      | frames => cases step
      | signalingData => exact session_moves step
    | _ => exact session_moves step
  | interrupt self =>
    unfold Step at step
    simp only [Media.step] at step
    split at step <;> cases step
    exact .interrupted self
  | onFrames userId mode device frames =>
    unfold Step at step
    simp only [Media.step] at step
    split at step
    next => cases step
    next free =>
      split at step
      next => cases step; exact .lost
      next sink found =>
        split at step <;> cases step
        · exact .ignored userId sink found
        · exact .dispatched userId sink frames found (by simpa using free)
  | returned =>
    unfold Step at step
    simp only [Media.step] at step
    split at step
    next sink held =>
      split at step <;> cases step
      next done => exact .returned sink held done
    next => cases step
  | audio self label =>
    unfold Step at step
    simp only [Media.step] at step
    split at step
    next => cases step
    next holder held =>
      split at step
      next => cases step
      next =>
        obtain ⟨⟨path, shown⟩, moved, same⟩ := Option.map_eq_some_iff.mp step
        cases same
        exact .audio self path shown (AudioPath.step_moves moved)

@[simp] theorem put_sessions (self : κ) (path : AudioPath) : (before.put self path).sessions = before.sessions := rfl
@[simp] theorem put_rendering (self : κ) (path : AudioPath) : (before.put self path).rendering = before.rendering := rfl
@[simp] theorem put_same (before : Media κ) (self : κ) (path : AudioPath) :
    (before.put self path).paths self = path := Function.update_self _ _ _

theorem put_other (before : Media κ) {self other : κ} (apart : other ≠ self) (path : AudioPath) :
    (before.put self path).paths other = before.paths other :=
  Function.update_of_ne apart _ _

@[simp] theorem fed_rendering (label : SessionLabel κ) :
    (before.fed label).rendering = before.rendering := by unfold fed; split <;> rfl

/-- Starting the feeder only sets its flag. -/
theorem fed_path (before : Media κ) (label : SessionLabel κ) (self : κ) :
    (before.fed label).paths self = before.paths self ∨
    before.startsFeeder label = some self ∧ (before.fed label).paths self =
      { before.paths self with feeding := true } := by
  unfold fed
  split
  next other starts =>
    by_cases same : self = other
    · cases same
      exact .inr ⟨starts, put_same _ _ _⟩
    · exact .inl (put_other before same _)
  next => exact .inl rfl

theorem fed_mic (label : SessionLabel κ) (self : κ) :
    ((before.fed label).paths self).mic = (before.paths self).mic := by
  obtain same | ⟨_, same⟩ := fed_path before label self <;> rw [same]

theorem fed_playout (label : SessionLabel κ) (self : κ) :
    ((before.fed label).paths self).playout = (before.paths self).playout := by
  obtain same | ⟨_, same⟩ := fed_path before label self <;> rw [same]

/-- What a step does to the sessions is a step of theirs, or nothing. -/
theorem session_step (step : Step label before seen after) : after.sessions = before.sessions ∧ sessionSeen seen = [] ∨
    ∃ called, Sessions.Step called before.sessions (sessionSeen seen) after.sessions := by
  cases step_moves step with
  | session label sessions shown free moved =>
    rw [sessionSeen_session]
    exact .inr ⟨label, moved⟩
  | interrupted | lost | returned => exact .inl ⟨rfl, rfl⟩
  | ignored userId sink found | dispatched userId sink frames found free =>
    refine .inr ⟨.callback userId .frames, ?_⟩
    simp [Sessions.Step, Sessions.step, Runtime.dispatch, found]
    rfl
  | audio self path shown moves => exact .inl ⟨rfl, sessionSeen_audio self shown⟩

/-- A call with a frame in either direction. -/
def sampleCall : List (MediaLabel Nat) :=
  (.construct 0 42 [] false [] true :: .start 0 :: List.replicate 9 (SessionLabel.advance 0 {})).map .session ++
    [AudioLabel.putFrame .audio [1, 0, 2, 0], .produceMic, .produceMic, .produceMic, .produceMic, .feed, .consumeMic,
      .consumeMic, .consumeMic, .consumeMic].map (.audio 0) ++
    .onFrames 42 .playback .microphone [[5, 0]] ::
    [AudioLabel.render, .producePlayout, .producePlayout, .producePlayout, .getFrame, .consumePlayout,
      .consumePlayout, .consumePlayout].map (.audio 0) ++
    [.returned, .session (.destroy 0), .interrupt 0] ++ List.replicate 5 (.session (.advance 0 {}))

theorem sampleCall_reached : ∃ past, ∃ media : Media Nat, Reaches past media ∧
    sentFrames (audioSeen 0 past) = [[1, 0, 2, 0] ++ List.replicate 956 0] ∧
      playedFrames (audioSeen 0 past) = [[5, 0] ++ List.replicate 958 0] ∧ .destroyed 0 ∈ sessionSeen past := by
  have ran : (execute Media.step (fun _ _ _ => true) sampleCall {}).any (fun result => decide (
      sentFrames (audioSeen 0 result.2) = [[1, 0, 2, 0] ++ List.replicate 956 0] ∧
        playedFrames (audioSeen 0 result.2) = [[5, 0] ++ List.replicate 958 0] ∧
            .destroyed 0 ∈ sessionSeen result.2)) = true := by
    decide +kernel
  obtain ⟨media, past, reached, found⟩ := execute_any ran
  exact ⟨past, media, reached, of_decide_eq_true found⟩

theorem carried (reached : Reaches past media) (self : κ) : Carried (audioSeen self past) (media.paths self) := by
  refine reached.invariant (fun past (media : Media κ) => Carried (audioSeen self past) (media.paths self)) .initial ?_
  rintro past before seen after carried ⟨label, _, step⟩
  rw [audioSeen_append]
  cases step_moves step with
  | session label sessions shown free moved =>
    rw [audioSeen_session, List.append_nil]
    exact carried.unchanged (fed_mic label self) (fed_playout label self)
  | interrupted other =>
    rw [show audioSeen self ([] : List (MediaObs κ)) = [] from rfl, List.append_nil]
    by_cases same : self = other
    · cases same
      rw [put_same]
      exact carried.unchanged rfl rfl
    · rw [put_other before same]
      exact carried
  | lost => simpa [audioSeen] using carried
  | ignored => simpa [audioSeen] using carried
  | returned => simpa [audioSeen] using carried
  | dispatched userId sink frames found free =>
    rw [show audioSeen self [MediaObs.session (SessionObs.dispatched userId Callback.frames sink)] = [] from rfl,
      List.append_nil]
    by_cases same : self = sink
    · cases same
      have held := put_same before self { before.paths self with rendering := frames }
      have mic := congrArg AudioPath.mic held
      have playout := congrArg AudioPath.playout held
      exact carried.unchanged mic playout
    · have held := put_other before same { before.paths sink with rendering := frames }
      exact carried.unchanged (congrArg AudioPath.mic held) (congrArg AudioPath.playout held)
  | audio other path shown moves =>
    rw [audioSeen_audio]
    by_cases same : other = self
    · cases same
      rw [if_pos rfl, put_same]
      exact carried.step moves
    · rw [if_neg same, List.append_nil, put_other before (Ne.symm same)]
      exact carried

/-- What reaches Telegram is what came from SIP. In any run, and with any other calls beside it, the frames that
a controller gives to ntgcalls are 960 bytes each and carry, block by block, the samples that PJSIP put in. -/
theorem microphone_is_carried (reached : Reaches past media) (self : κ) : Pipe.Carries (micSeen (audioSeen self past)) ∧
    (sentFrames (audioSeen self past)).map toSamples = Pipe.blocks (micSeen (audioSeen self past)) ∧
      ∀ frame ∈ sentFrames (audioSeen self past), frame.length = 960 := by
  have carried := carried reached self
  exact ⟨carried.mic.carries, frames_read carried.sent, frames_whole carried.mic carried.sent⟩

theorem sampleCall_sends : ∃ past, ∃ media : Media Nat, Reaches past media ∧
    sentFrames (audioSeen 0 past) = [[1, 0, 2, 0] ++ List.replicate 956 0] ∧
      Pipe.Carries (micSeen (audioSeen 0 past)) := by
  obtain ⟨past, media, reached, sent, _⟩ := sampleCall_reached
  exact ⟨past, media, reached, sent, (microphone_is_carried reached 0).1⟩

/-- What is played to SIP is what came from Telegram. -/
theorem playout_is_carried (reached : Reaches past media) (self : κ) :
    Pipe.Carries (playoutSeen (audioSeen self past)) ∧
    (playedFrames (audioSeen self past)).map toSamples = Pipe.blocks (playoutSeen (audioSeen self past)) ∧
      ∀ frame ∈ playedFrames (audioSeen self past), frame.length = 960 := by
  have carried := carried reached self
  exact ⟨carried.playout.carries, frames_read carried.played, frames_whole carried.playout carried.played⟩

theorem sampleCall_plays : ∃ past, ∃ media : Media Nat, Reaches past media ∧
    playedFrames (audioSeen 0 past) = [[5, 0] ++ List.replicate 958 0] ∧
      Pipe.Carries (playoutSeen (audioSeen 0 past)) := by
  obtain ⟨past, media, reached, _, played, _⟩ := sampleCall_reached
  exact ⟨past, media, reached, played, (playout_is_carried reached 0).1⟩

end Media
end Tg2Sip.Voip
