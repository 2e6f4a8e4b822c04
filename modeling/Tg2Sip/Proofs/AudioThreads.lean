import Tg2Sip.Proofs.Media

/-! The feeder and `OnFrames` while controllers are stopped and destroyed. A controller that is told to stop waits for
both, so that neither is at work once `ntg_stop` is issued, and neither ever waits for the controller. -/

namespace Tg2Sip.Voip
open Lib TdApi RingBuffer TgCallsController

namespace Sessions
variable {κ : Type} [DecidableEq κ] {before after sessions : Sessions κ} {label : SessionLabel κ}
  {past seen : List (SessionObs κ)} {self : κ}

/-- Only `advance` takes a step of `Stop`. -/
private theorem advances (step : Step label before seen after) (named : label.actor = some self)
    {controller : TgCallsController} {phase next : Phase} {first : StopStep} {rest : List StopStep}
    (held : before.holders self = some ⟨controller, phase⟩) (stops : Stops first rest phase next) :
    ∃ result, label = .advance self result := by
  cases label with
  | advance other result => cases named; exact ⟨result, rfl⟩
  | callback => cases named
  | _ => cases named; cases stops <;> simp [Step, Sessions.step, held] at step

private theorem put_self {controller : TgCallsController} {phase : Phase} :
    (before.put self controller phase).holders self = some ⟨controller, phase⟩ := by
  simp [put]

private theorem put_apart {controller : TgCallsController} {phase : Phase} {other : κ} (apart : self ≠ other) :
    (before.put other controller phase).holders self = before.holders self := by
  simp only [put, Map.assign_other _ _ apart]

/-- What a step does to one controller. -/
inductive Turns (label : SessionLabel κ) (self : κ) : Holder → Holder → Prop where
  | aside (holder : Holder) : Turns label self holder holder
  | called {controller : TgCallsController} {phase next : Phase} (calls : Calls controller phase next) :
      Turns label self ⟨controller, phase⟩ ⟨controller, next⟩
  | gone (controller : TgCallsController) (startable : Bool) :
      Turns label self ⟨controller, .idle startable⟩ ⟨controller, .destroyed⟩
  | started (controller : TgCallsController) (runtime : Runtime κ) (step : StartStep) (rest : List StartStep) :
      Turns label self ⟨controller, .starting (step :: rest)⟩
        ⟨(controller.started self runtime step).1, .afterStart rest⟩
  | startFailed (controller : TgCallsController) (steps : List StartStep) :
      Turns label self ⟨controller, .starting steps⟩ ⟨controller, .idle false⟩
  | stopped (controller : TgCallsController) (runtime : Runtime κ) {step : StopStep} {rest : List StopStep}
      {phase next : Phase} (stops : Stops step rest phase next) (named : label.actor = some self) :
      Turns label self ⟨controller, phase⟩ ⟨(controller.stopped runtime step).1, next⟩
  | stopFailed (controller : TgCallsController) (startable : Bool) (rest : List StopStep) :
      Turns label self ⟨controller, .stopping startable (.stopNtg :: rest)⟩ ⟨controller, .idle startable⟩

private theorem put_turns {other : κ} {holder old : Holder} {controller : TgCallsController} {phase : Phase}
    (held : before.holders self = some holder) (present : before.holders other = some old)
    (turns : Turns label other old ⟨controller, phase⟩) :
    ∃ later, (before.put other controller phase).holders self = some later ∧ Turns label self holder later := by
  by_cases same : self = other
  · subst same
    cases held.symm.trans present
    exact ⟨_, put_self, turns⟩
  · exact ⟨holder, (put_apart same).trans held, .aside holder⟩

theorem turns (step : Step label before seen after) {holder : Holder} (held : before.holders self = some holder) :
    ∃ later, after.holders self = some later ∧ Turns label self holder later := by
  cases step_moves step with
  | constructed other controller absent =>
    have apart : self ≠ other := by intro same; rw [same, absent] at held; cases held
    exact ⟨holder, (put_apart apart).trans held, .aside holder⟩
  | called other controller phase next present calls => exact put_turns held present (.called calls)
  | gone other controller startable present => exact put_turns held present (.gone controller startable)
  | started other controller first rest live present =>
    exact put_turns held present (.started controller before.runtime first rest)
  | startFailed other controller first rest call present =>
    exact put_turns held present (.startFailed controller (first :: rest))
  | stopped other controller first rest phase next live present stops sessions named =>
    exact put_turns held present (.stopped controller before.runtime stops named)
  | stopFailed other controller startable rest present =>
    exact put_turns held present (.stopFailed controller startable rest)
  | dispatched | lost => exact ⟨holder, held, .aside holder⟩

/-- A controller gives a resource back in one step of `Stop` only. -/
theorem keeps (step : Step label before seen after) {holder : Holder} (held : before.holders self = some holder) :
    ∃ later, after.holders self = some later ∧ ∀ resource : Resource, resource.held holder.controller = true →
      resource.held later.controller = true ∨ ∃ result rest, label = .advance self result ∧
        ((∃ startable, holder.phase = .stopping startable (resource.loss :: rest)) ∨
          holder.phase = .destroying (resource.loss :: rest)) := by
  obtain ⟨later, present, turns⟩ := turns step held
  refine ⟨later, present, fun resource holds => ?_⟩
  cases turns with
  | aside | called | gone | startFailed | stopFailed => exact .inl holds
  | started controller => exact .inl (by simp [show resource.held controller = true from holds])
  | @stopped controller runtime first rest phase next stops named =>
    by_cases loses : first = resource.loss
    · obtain ⟨result, rfl⟩ := advances step named held stops
      subst loses
      refine .inr ⟨result, rest, rfl, ?_⟩
      cases stops with
      | stop startable => exact .inl ⟨startable, rfl⟩
      | destroy => exact .inr rfl
    · exact .inl (by simp [loses, show resource.held controller = true from holds])

/-- What a controller has given back for good. -/
def Lost (holder : Holder) (resource : Resource) : Prop :=
  resource.held holder.controller = false ∧ holder.phase.pending resource = false

private theorem lost_stays (step : Step label before seen after) {holder : Holder}
    (held : before.holders self = some holder) :
    ∃ later, after.holders self = some later ∧ ∀ resource : Resource, Lost holder resource → Lost later resource := by
  obtain ⟨later, present, turns⟩ := turns step held
  refine ⟨later, present, fun resource lost => ?_⟩
  obtain ⟨bare, never⟩ := lost
  cases turns with
  | aside => exact ⟨bare, never⟩
  | called calls =>
    refine ⟨bare, ?_⟩
    cases calls with
    | start => cases never
    | stop startable => exact never
    | destroy => rfl
  | gone | startFailed => exact ⟨bare, rfl⟩
  | started controller runtime first rest =>
    have apart : resource.gain ∉ first :: rest := by simpa [Phase.pending] using never
    rw [List.mem_cons, not_or] at apart
    refine ⟨by simpa [Ne.symm apart.1] using bare, ?_⟩
    cases rest with
    | nil => rfl
    | cons => simpa [Phase.afterStart, Phase.pending] using apart.2
  | @stopped controller runtime first rest phase next stops =>
    refine ⟨by simp [show resource.held controller = false from bare], ?_⟩
    cases stops with
    | stop startable => cases rest <;> exact never
    | destroy => cases rest <;> rfl
  | stopFailed => exact ⟨bare, never⟩

/-- `ntg_stop` is issued for a session that was created. -/
private theorem stops_created (moves : Moves label before seen after) {chat : UserId} {succeeded : Bool}
    (shown : .ntg self chat .stop succeeded ∈ seen) :
    ∃ holder, before.holders self = some holder ∧ holder.controller.created = true := by
  cases moves with
  | constructed | called | lost => cases shown
  | gone | dispatched => simp at shown
  | started other controller first rest live present => cases first <;> simp [startShows, startCall] at shown
  | startFailed other controller first rest call present waits =>
    simp only [List.mem_singleton, SessionObs.ntg.injEq] at shown
    obtain ⟨_, _, rfl, _⟩ := shown
    cases first <;> cases waits
  | stopped other controller first rest phase next live present =>
    obtain issued | ended := List.mem_append.mp shown
    · have waits : (controller.stopCall first).isSome = true := by
        cases called : controller.stopCall first with
        | some call => rfl
        | none => cases first <;> simp [stopShows, called] at issued
      obtain ⟨rfl, created, called⟩ := stopCall_some waits
      simp only [stopShows, called, List.mem_singleton, SessionObs.ntg.injEq] at issued
      obtain ⟨rfl, _⟩ := issued
      exact ⟨_, present, created⟩
    · split at ended <;> simp at ended
  | stopFailed other controller startable rest present created =>
    simp only [List.mem_singleton, SessionObs.ntg.injEq] at shown
    obtain ⟨rfl, _⟩ := shown
    exact ⟨_, present, created⟩

/-- What comes after the step that gives a resource back. -/
private theorem last_step {rest : List StopStep} (suffix : .stopNtg :: rest <:+ stopSteps) (resource : Resource)
    (other : resource ≠ .session) :
    resource.loss ∉ StopStep.stopNtg :: rest := by
  simp only [stopSteps, List.suffix_cons_iff, List.cons.injEq, List.suffix_nil, reduceCtorEq, false_and, false_or,
    or_false, true_and] at suffix
  rw [suffix]
  cases resource with
  | session => exact absurd rfl other
  | sink | feeder => decide

/-- Once `ntg_stop` has been issued, the sink and the feeder are gone for good. -/
def Ended (past : List (SessionObs κ)) (sessions : Sessions κ) : Prop :=
  ∀ self chat succeeded, .ntg self chat .stop succeeded ∈ past → ∃ holder, sessions.holders self = some holder ∧
    ∀ resource : Resource, resource ≠ .session → Lost holder resource

theorem Ended.step (ended : Ended past before) (sound : Sound past before) (step : Step label before seen after) :
    Ended (past ++ seen) after := by
  intro self chat succeeded shown
  have lost : ∃ holder, before.holders self = some holder ∧ ∀ resource : Resource, resource ≠ .session →
      Lost holder resource := by
    obtain old | now := List.mem_append.mp shown
    · exact ended self chat succeeded old
    · obtain ⟨first, rest, split⟩ := List.append_of_mem now
      obtain ⟨_, controller, phase, later, held, next⟩ := (step_moves step).stops split
      have fits := sound.fits self _ held
      obtain ⟨holder, same, created⟩ := stops_created (step_moves step) now
      cases held.symm.trans same
      refine ⟨_, held, fun resource other => ?_⟩
      obtain ⟨startable, rfl⟩ | rfl := next
      · refine ⟨fits.2.2 resource (last_step fits.1 resource other), ?_⟩
        cases startable with
        | false => rfl
        | true => exact absurd created (by simpa [Resource.held] using fits.2.1 rfl .session)
      · exact ⟨fits.2 resource (last_step fits.1 resource other), rfl⟩
  obtain ⟨holder, held, lost⟩ := lost
  obtain ⟨later, present, stays⟩ := lost_stays step held
  exact ⟨later, present, fun resource other => stays resource (lost resource other)⟩

end Sessions
namespace Pipe
variable {α : Type} [Zero α] {pipe after : Pipe α} {next : PipeAccess α} {seen : List (PipeObs α)}

/-- What the side of `push` does. -/
def made : PipeObs α → Bool
  | .offered _ | .sample (.accepted _) | .kept _ => true
  | .asked | .sample (.delivered _) | .block _ => false

/-- A push shows nothing of a pop, and leaves it where it is. -/
theorem push_side (step : pipe.step next = some (after, seen)) (pushes : next ≠ .pop ∧ next ≠ .consume) :
    after.threads.consumer = pipe.threads.consumer ∧ ∀ obs ∈ seen, made obs = true := by
  cases step_moves step with
  | offered | refused | looked | wrote | stored => exact ⟨rfl, by simp [made]⟩
  | asked => exact absurd rfl pushes.1
  | counted | copied | returned => exact absurd rfl pushes.2

theorem push_busy {samples : List α} (step : pipe.step (.push samples) = some (after, seen)) :
    after.threads.producer ≠ .idle := by
  cases step_moves step with
  | offered => simp

theorem produce_busy (step : pipe.step .produce = some (after, seen)) : pipe.threads.producer ≠ .idle := by
  cases step_moves step with
  | refused data samples head busy | looked data samples head busy => simp [busy]
  | wrote data samples head i busy | stored data samples head i busy => simp [busy]

/-- A pop shows nothing of a push, and leaves it where it is. -/
theorem pop_side (step : pipe.step next = some (after, seen)) (pops : next = .pop ∨ next = .consume) :
    after.threads.producer = pipe.threads.producer ∧ (∀ obs ∈ seen, made obs = false) ∧
      (next = .pop ∨ pipe.threads.consumer ≠ .idle) := by
  cases step_moves step with
  | offered | refused | looked | wrote | stored => simp at pops
  | asked => exact ⟨rfl, by simp [made], .inl rfl⟩
  | counted samples head busy => exact ⟨rfl, by simp, .inr (by simp [busy])⟩
  | copied copied tail i busy | returned copied tail i busy => exact ⟨rfl, by simp [made], .inr (by simp [busy])⟩

end Pipe

namespace AudioObs

/-- What `MicFeederLoop` does. -/
def byFeeder : AudioObs → Bool
  | .mic seen => !Pipe.made seen
  | .sent _ => true
  | _ => false

/-- What `OnFrames` does. -/
def byOnFrames : AudioObs → Bool
  | .playout seen => Pipe.made seen
  | _ => false

end AudioObs

namespace AudioPath
variable {path after : AudioPath} {seen : List AudioObs}

/-- The feeder is at work. -/
def Feeds (path : AudioPath) : Prop := path.feeding = true ∨ path.mic.threads.consumer ≠ .idle

/-- `OnFrames` is at work. -/
def Renders (path : AudioPath) : Prop := path.rendering ≠ [] ∨ path.current ≠ none

/-- Whoever pushes has a frame to push, until the push returns. -/
def Pushes (path : AudioPath) : Prop := path.playout.threads.producer = .idle ↔ path.current = none

private theorem counted_pushes (working : path.current ≠ none) : path.counted.Pushes := by
  obtain ⟨frame, held⟩ := Option.ne_none_iff_exists'.mp working
  cases producer : path.playout.threads.producer <;> simp [Pushes, counted, producer, held]

/-- Neither thread takes up work by itself. -/
theorem Moves.resumes (moves : path.Moves seen after) (pushes : path.Pushes) :
    (after.Feeds → path.Feeds) ∧ (after.Renders → path.Renders) ∧ after.Pushes := by
  cases moves with
  | idle | silent => exact ⟨id, id, pushes⟩
  | mic next mic shown step feeding =>
    refine ⟨fun feeds => ?_, id, pushes⟩
    obtain flag | busy := feeds
    · exact .inl flag
    · by_cases pops : next = .pop ∨ next = .consume
      · obtain ⟨_, _, rfl | working⟩ := Pipe.pop_side step pops
        · exact .inl (feeding rfl)
        · exact .inr working
      · have aside := (Pipe.push_side step (not_or.mp pops)).1
        exact .inr fun idle => busy (aside.trans idle)
  | rendered frame rest playout shown frames step =>
    have busy := Pipe.push_busy step
    exact ⟨id, fun _ => .inl (by simp [frames]), by simp [Pushes, busy]⟩
  | pushed playout shown step =>
    have working : path.current ≠ none := fun none => Pipe.produce_busy step (pushes.mpr none)
    refine ⟨by simp [Feeds], fun _ => .inr working, ?_⟩
    exact counted_pushes working
  | popped next playout shown pops step =>
    have aside := (Pipe.pop_side step pops).1
    exact ⟨id, id, by unfold Pushes; rw [aside]; exact pushes⟩

private theorem micObs_by {origin : PipeObs Int16} {obs : AudioObs} (shows : obs ∈ micObs origin) :
    (obs.byFeeder = true → Pipe.made origin = false) ∧ obs.byOnFrames = false := by
  cases origin with
  | block samples =>
    obtain rfl | rfl : obs = .mic (.block samples) ∨ obs = .sent (toBytes samples) := by simpa [micObs] using shows
    · exact ⟨fun _ => rfl, rfl⟩
    · exact ⟨fun _ => rfl, rfl⟩
  | offered | asked | sample | kept => cases List.mem_singleton.mp shows; exact ⟨by simp [AudioObs.byFeeder], rfl⟩

private theorem playoutObs_by {origin : PipeObs Int16} {obs : AudioObs} (shows : obs ∈ playoutObs origin) :
    obs.byFeeder = false ∧ (obs.byOnFrames = true → Pipe.made origin = true) := by
  cases origin with
  | block samples =>
    obtain rfl | rfl : obs = .playout (.block samples) ∨ obs = .played .audio (toBytes samples) := by
      simpa [playoutObs] using shows
    · exact ⟨rfl, id⟩
    · exact ⟨rfl, by simp [AudioObs.byOnFrames]⟩
  | offered | asked | sample | kept => cases List.mem_singleton.mp shows; exact ⟨rfl, id⟩

/-- What shows that a thread works. -/
theorem Moves.works (moves : path.Moves seen after) (pushes : path.Pushes) {obs : AudioObs} (shown : obs ∈ seen) :
    (obs.byFeeder = true → path.Feeds) ∧ (obs.byOnFrames = true → path.Renders) := by
  cases moves with
  | idle => cases shown
  | silent => cases List.mem_singleton.mp shown; exact ⟨by simp [AudioObs.byFeeder], by simp [AudioObs.byOnFrames]⟩
  | mic next mic past step feeding =>
    obtain ⟨origin, member, shows⟩ := List.mem_flatMap.mp shown
    obtain ⟨feeds, aside⟩ := micObs_by shows
    refine ⟨fun feeder => ?_, by simp [aside]⟩
    by_cases pops : next = .pop ∨ next = .consume
    · obtain ⟨_, _, rfl | working⟩ := Pipe.pop_side step pops
      · exact .inl (feeding rfl)
      · exact .inr working
    · have makes := (Pipe.push_side step (not_or.mp pops)).2 origin member
      exact absurd (feeds feeder) (by simp [makes])
  | rendered frame rest playout past frames step =>
    obtain ⟨origin, _, shows⟩ := List.mem_flatMap.mp shown
    exact ⟨by simp [(playoutObs_by shows).1], fun _ => .inl (by simp [frames])⟩
  | pushed playout past step =>
    obtain ⟨origin, _, shows⟩ := List.mem_flatMap.mp shown
    exact ⟨by simp [(playoutObs_by shows).1], fun _ => .inr fun none => Pipe.produce_busy step (pushes.mpr none)⟩
  | popped next playout past pops step =>
    obtain ⟨origin, member, shows⟩ := List.mem_flatMap.mp shown
    obtain ⟨aside, renders⟩ := playoutObs_by shows
    have makes := (Pipe.pop_side step pops).2.1 origin member
    exact ⟨by simp [aside], fun working => absurd (renders working) (by simp [makes])⟩

end AudioPath

namespace Media
variable {κ : Type} [DecidableEq κ] {before after media : Media κ} {label : MediaLabel κ}
  {past seen : List (MediaObs κ)} {self : κ}

/-- The feeder works only for a controller that has it, and `OnFrames` only for one that is registered, with the
mutex. -/
structure Attended (media : Media κ) : Prop where
  pushes : ∀ self, (media.paths self).Pushes
  renders : ∀ self, (media.paths self).Renders → media.rendering = some self
  sink : ∀ self, media.rendering = some self → ∃ holder, media.sessions.holders self = some holder ∧
    holder.controller.registered = true
  feeder : ∀ self, (media.paths self).Feeds → ∃ holder, media.sessions.holders self = some holder ∧
    holder.controller.micFeederRunning = true

omit [DecidableEq κ] in
theorem Attended.initial : Attended ({} : Media κ) where
  pushes := fun self => ⟨fun _ => rfl, fun _ => rfl⟩
  renders := by simp [AudioPath.Renders]
  sink := by simp
  feeder := fun self feeds => by
    obtain flag | busy := feeds
    · cases flag
    · exact absurd rfl busy

omit [DecidableEq κ] in
/-- A step of `Stop` that may be taken gives back a resource that nobody works with. -/
private theorem unblocked {holder : Holder} {result : NtgResult} {resource : Resource} {rest : List StopStep}
    (free : before.blocked (.advance self result) = false) (held : before.sessions.holders self = some holder)
    (next : (∃ startable, holder.phase = .stopping startable (resource.loss :: rest)) ∨
      holder.phase = .destroying (resource.loss :: rest)) :
    before.stopBlocked self holder.controller resource.loss = false := by
  obtain ⟨controller, phase⟩ := holder
  obtain ⟨startable, rfl⟩ | rfl := next <;> simpa only [blocked, held] using free

/-- What somebody works with stays. -/
private theorem kept {label : SessionLabel κ} {sessions : Sessions κ} {shown : List (SessionObs κ)}
    (resource : Resource) (free : before.blocked label = false)
    (moved : Sessions.Step label before.sessions shown sessions) {holder : Holder}
    (held : before.sessions.holders self = some holder) (holds : resource.held holder.controller = true)
    (busy : before.stopBlocked self holder.controller resource.loss = true) :
    ∃ later, sessions.holders self = some later ∧ resource.held later.controller = true := by
  obtain ⟨later, present, keeps⟩ := Sessions.keeps moved held
  obtain still | ⟨result, rest, rfl, next⟩ := keeps resource holds
  · exact ⟨later, present, still⟩
  · rw [unblocked free held next] at busy
    cases busy

/-- The step that starts the feeder. -/
private theorem started_feeder {label : SessionLabel κ} {sessions : Sessions κ} {shown : List (SessionObs κ)}
    (starts : before.startsFeeder label = some self) (moved : Sessions.Step label before.sessions shown sessions) :
    ∃ later, sessions.holders self = some later ∧ later.controller.micFeederRunning = true := by
  cases label with
  | advance other result =>
    simp only [startsFeeder] at starts
    split at starts <;> cases starts
    next controller rest held =>
      simp only [Sessions.Step, Sessions.step, held, Sessions.runStart, startCall, Option.isSome_none, Bool.false_and,
        Bool.false_eq_true, if_false, Option.some.injEq, Prod.mk.injEq] at moved
      obtain ⟨rfl, _⟩ := moved
      exact ⟨_, Map.assign_same _ _ _, rfl⟩
  | _ => cases starts

omit [DecidableEq κ] in
private theorem feeds_blocks {controller : TgCallsController} (feeds : (before.paths self).Feeds)
    (running : controller.micFeederRunning = true) :
    before.stopBlocked self controller .joinMicFeeder = true := by
  simp only [stopBlocked, running, Bool.true_and, Bool.or_eq_true]
  obtain flag | busy := feeds
  · exact .inl flag
  · refine .inr ?_
    cases consumer : (before.paths self).mic.threads.consumer with
    | idle => exact absurd consumer busy
    | loadTail | reading => rfl

/-- The audio of one controller goes on. -/
private theorem Attended.put (attended : Attended before) {path : AudioPath} (pushes : path.Pushes)
    (renders : path.Renders → before.rendering = some self) (feeds : path.Feeds → (before.paths self).Feeds) :
    Attended (before.put self path) where
  pushes := fun other => by
    by_cases same : other = self
    · subst same; rw [put_same]; exact pushes
    · rw [put_other before same]; exact attended.pushes other
  renders := fun other working => by
    by_cases same : other = self
    · subst same; rw [put_same] at working; exact renders working
    · rw [put_other before same] at working; exact attended.renders other working
  sink := attended.sink
  feeder := fun other feeding => attended.feeder other (by
    by_cases same : other = self
    · subst same; rw [put_same] at feeding; exact feeds feeding
    · rwa [put_other before same] at feeding)

private theorem Attended.session (attended : Attended before) {label : SessionLabel κ} {sessions : Sessions κ}
    {shown : List (SessionObs κ)} (free : before.blocked label = false)
    (moved : Sessions.Step label before.sessions shown sessions) :
    Attended { before.fed label with sessions } := by
  obtain ⟨pushes, renders, sink, feeder⟩ := attended
  refine ⟨fun self => ?_, fun self => ?_, fun self held => ?_, fun self feeds => ?_⟩
  · obtain same | ⟨_, same⟩ := fed_path before label self
    · simp only [same]; exact pushes self
    · simp only [same]; exact pushes self
  · obtain same | ⟨_, same⟩ := fed_path before label self
    · simp only [same, fed_rendering]; exact renders self
    · simp only [same, fed_rendering]; exact renders self
  · rw [fed_rendering] at held
    obtain ⟨holder, present, registered⟩ := sink self held
    exact kept .sink free moved present registered (by
      simp [stopBlocked, Resource.loss, show holder.controller.registered = true from registered, held])
  · obtain same | ⟨starts, _⟩ := fed_path before label self
    · have feeding : (before.paths self).Feeds := by simpa only [same] using feeds
      obtain ⟨holder, present, running⟩ := feeder self feeding
      exact kept .feeder free moved present running (feeds_blocks feeding running)
    · exact started_feeder starts moved

theorem Attended.step (attended : Attended before) (sound : Sessions.Sound (sessionSeen past) before.sessions)
    (step : Step label before seen after) : Attended after := by
  cases step_moves step with
  | session label sessions shown free moved => exact attended.session free moved
  | interrupted self =>
    refine attended.put (attended.pushes self) (attended.renders self) fun feeds => ?_
    obtain flag | busy := feeds
    · cases flag
    · exact .inr busy
  | lost | ignored => exact attended
  | dispatched userId target frames found free =>
    have idle : ∀ self, ¬ (before.paths self).Renders := fun self works => by
      rw [attended.renders self works] at free
      cases free
    have taken : Attended { before with rendering := some target } := by
      refine ⟨attended.pushes, fun self works => absurd works (idle self), fun self held => ?_, attended.feeder⟩
      cases held
      obtain ⟨holder, present, registered, _⟩ := sound.sinks userId target found
      exact ⟨holder, present, registered⟩
    exact taken.put (attended.pushes target) (fun _ => rfl) id
  | returned target held done =>
    refine ⟨attended.pushes, fun self works => ?_, by simp, attended.feeder⟩
    cases held.symm.trans (attended.renders self works)
    obtain some | some := works
    · exact absurd done.1 some
    · exact absurd done.2 some
  | audio self path shown moves =>
    obtain ⟨feeds, works, push⟩ := moves.resumes (attended.pushes self)
    exact attended.put push (fun working => attended.renders self (works working)) feeds

theorem attended (reached : Reaches past media) : Attended media ∧ Sessions.Ended (sessionSeen past) media.sessions ∧
    Sessions.Sound (sessionSeen past) media.sessions := by
  have start : Sessions.Reaches Sessions.Anything [] ({} : Sessions κ) := .refl
  refine reached.invariant (fun past (media : Media κ) => Attended media ∧
    Sessions.Ended (sessionSeen past) media.sessions ∧
    Sessions.Sound (sessionSeen past) media.sessions) ⟨.initial, by simp [Sessions.Ended, sessionSeen], .run start⟩ ?_
  rintro past before seen after ⟨attended, ended, sound⟩ ⟨label, _, step⟩
  refine ⟨attended.step sound step, ?_⟩
  rw [sessionSeen_append]
  obtain ⟨same, none⟩ | ⟨called, moved⟩ := session_step step
  · rw [same, none, List.append_nil]
    exact ⟨ended, sound⟩
  · exact ⟨ended.step sound moved, sound.step moved⟩

/-- What a controller has taken and not given back. -/
private theorem in_hand {past : List (SessionObs κ)} {sessions : Sessions κ} {holder : Holder}
    (resource : Resource) (sound : Sessions.Sound past sessions) (held : sessions.holders self = some holder)
    (holds : resource.held holder.controller = true) :
    0 < past.countP (SessionObs.gains self resource) ∧ ¬ 0 < past.countP (SessionObs.loses self resource) := by
  have flow := (sound.balance self holder held resource).flow
  have once := (sound.balance self holder held resource).once
  rw [holds, Bool.toNat_true] at flow
  omega

/-- What is seen of a thread shows that it is at work. -/
private theorem audio_step {first rest : List (MediaObs κ)} {obs : AudioObs}
    (step : Step label before (first ++ .audio self obs :: rest) after) :
    ((before.paths self).Pushes → obs.byFeeder = true → (before.paths self).Feeds) ∧
    ((before.paths self).Pushes → obs.byOnFrames = true → (before.paths self).Renders) ∧
    ∀ shown, .session shown ∉ first := by
  generalize split : first ++ MediaObs.audio self obs :: rest = seen at step
  have member : .audio self obs ∈ seen := by simp [← split]
  cases step_moves step with
  | session label sessions shown free moved => simp at member
  | interrupted | lost | returned => cases member
  | ignored | dispatched => simp at member
  | audio other path shown moves =>
    obtain ⟨own, inside, same⟩ := List.mem_map.mp member
    cases same
    refine ⟨fun pushes => (moves.works pushes inside).1, fun pushes => (moves.works pushes inside).2,
      fun seen early => ?_⟩
    have among : .session seen ∈ shown.map (MediaObs.audio self) := by
      rw [← split]
      exact List.mem_append_left _ early
    simp at among

/-- Whatever the other threads and the other calls do: `OnFrames` works only for a controller that is
registered, and the feeder only between its start and its end. Neither is at work once `ntg_stop` was issued or
the controller was destroyed. -/
theorem audio_ends_before_controller (reached : Reaches past media) {earlier later : List (MediaObs κ)}
    {self : κ} {obs : AudioObs} (split : past = earlier ++ .audio self obs :: later) :
    (obs.byFeeder = true → .session (.feederStarted self) ∈ earlier ∧ .session (.feederJoined self) ∉ earlier) ∧
    (obs.byOnFrames = true → (∃ chat, .session (.registered self chat) ∈ earlier) ∧
      ∀ chat, .session (.unregistered self chat) ∉ earlier) ∧
    (obs.byFeeder = true ∨ obs.byOnFrames = true →
      (∀ chat succeeded, .session (.ntg self chat .stop succeeded) ∉ earlier) ∧
        .session (.destroyed self) ∉ earlier) := by
  obtain ⟨old, before, first, rest, after, run, ⟨label, _, step⟩, rfl⟩ := Run.cut reached split
  obtain ⟨feeds, renders, quiet⟩ := audio_step step
  obtain ⟨⟨pushes, rendering, sink, feeder⟩, ended, sound⟩ := attended run
  have only : ∀ {shown : SessionObs κ}, .session shown ∈ old ++ first ↔ shown ∈ sessionSeen old := by
    intro shown
    rw [mem_sessionSeen, List.mem_append]
    exact ⟨fun member => member.resolve_right (quiet shown), .inl⟩
  have still : ∀ (resource : Resource) {holder : Holder}, resource ≠ .session →
    before.sessions.holders self = some holder →
      resource.held holder.controller = true →
        (∀ chat succeeded, .session (.ntg self chat .stop succeeded) ∉ old ++ first) ∧
        .session (.destroyed self) ∉ old ++ first := by
    intro resource holder other held holds
    refine ⟨fun chat succeeded shown => ?_, fun gone => ?_⟩
    · obtain ⟨same, present, lost⟩ := ended self chat succeeded (only.mp shown)
      cases held.symm.trans present
      exact absurd holds (by simp [(lost resource other).1])
    · obtain ⟨same, present, last⟩ := sound.destroyed self (only.mp gone)
      cases held.symm.trans present
      have fits := sound.fits self holder held
      rw [last] at fits
      exact absurd holds (by simp [fits resource])
  refine ⟨fun works => ?_, fun works => ?_, fun works => ?_⟩
  · obtain ⟨holder, held, running⟩ := feeder self (feeds (pushes self) works)
    obtain ⟨gained, unlost⟩ := in_hand .feeder sound held running
    exact ⟨only.mpr (Sessions.feederStarted_iff.mp gained),
      fun joined => unlost (Sessions.feederJoined_iff.mpr (only.mp joined))⟩
  · obtain ⟨holder, held, registered⟩ := sink self (rendering self (renders (pushes self) works))
    obtain ⟨gained, unlost⟩ := in_hand .sink sound held registered
    obtain ⟨chat, shown⟩ := Sessions.registered_iff.mp gained
    exact ⟨⟨chat, only.mpr shown⟩, fun chat lost => unlost (Sessions.unregistered_iff.mpr ⟨chat, only.mp lost⟩)⟩
  · obtain byFeeder | byOnFrames := works
    · obtain ⟨holder, held, running⟩ := feeder self (feeds (pushes self) byFeeder)
      exact still .feeder (by decide) held running
    · obtain ⟨holder, held, registered⟩ := sink self (rendering self (renders (pushes self) byOnFrames))
      exact still .sink (by decide) held registered

theorem sampleCall_ends :
    ∃ earlier later frame, ∃ media : Media Nat, Reaches (earlier ++ .audio 0 (.sent frame) :: later) media ∧
    .session (.feederStarted 0) ∈ earlier ∧ .session (.destroyed 0) ∉ earlier := by
  obtain ⟨past, media, reached, sent, _⟩ := sampleCall_reached
  have member : [1, 0, 2, 0] ++ List.replicate 956 0 ∈ sentFrames (audioSeen 0 past) := by
    rw [sent]
    exact List.mem_singleton_self _
  obtain ⟨earlier, later, rfl⟩ := List.append_of_mem (mem_sentFrames member)
  obtain ⟨feeder, _, gone⟩ := audio_ends_before_controller reached rfl
  exact ⟨earlier, later, _, media, reached, (feeder rfl).1, (gone (.inl rfl)).2⟩

end Media
end Tg2Sip.Voip
