import Tg2Sip.Sessions

/-! What a controller takes it gives back. Its session, its sink and its feeder are taken by one step of `Start` each
and given back by one step of `Stop` each, in the opposite order, however the steps of several
controllers and the callbacks interleave. -/

namespace Tg2Sip.Voip
open Lib TdApi TgCallsController

inductive Resource where
  | session | sink | feeder
  deriving DecidableEq, Repr

namespace Resource

def held (controller : TgCallsController) : Resource → Bool
  | .session => controller.created
  | .sink => controller.registered
  | .feeder => controller.micFeederRunning

def gain : Resource → StartStep
  | .session => .createP2p
  | .sink => .register
  | .feeder => .startMicFeeder

def loss : Resource → StopStep
  | .session => .stopNtg
  | .sink => .unregister
  | .feeder => .joinMicFeeder

end Resource

section Flags
variable {κ : Type} {controller : TgCallsController} {runtime : Runtime κ}

@[simp] theorem started_held (controller : TgCallsController) (runtime : Runtime κ) (self : κ)
    (step : StartStep) (resource : Resource) :
    resource.held (controller.started self runtime step).1 =
      (decide (step = resource.gain) || resource.held controller) := by
  cases step <;> cases resource <;> rfl

@[simp] theorem started_userId (self : κ) (step : StartStep) :
    (controller.started self runtime step).1.userId = controller.userId := by
  cases step <;> rfl

@[simp] theorem stopped_held (controller : TgCallsController) (runtime : Runtime κ) (step : StopStep)
    (resource : Resource) :
    resource.held (controller.stopped runtime step).1 =
      (!decide (step = resource.loss) && resource.held controller) := by
  cases registered : controller.registered <;> cases step <;> cases resource <;>
    simp [Resource.held, Resource.loss, stopped, registered]

@[simp] theorem stopped_userId (step : StopStep) : (controller.stopped runtime step).1.userId = controller.userId := by
  cases registered : controller.registered <;> cases step <;> simp [stopped, registered]

end Flags

/-- What the flags say where a controller is. -/
def Phase.Fits (controller : TgCallsController) : Phase → Prop
  | .idle startable => (startable = true → ∀ resource : Resource, resource.held controller = false) ∧
      ∀ resource : Resource, resource.held controller = true → controller.created = true
  | .starting rest =>
    rest <:+ startSteps ∧ ∀ resource : Resource, resource.held controller = decide (resource.gain ∉ rest)
  | .stopping startable rest =>
    rest <:+ stopSteps ∧ (startable = true → ∀ resource : Resource, resource.held controller = false) ∧
      ∀ resource : Resource, resource.loss ∉ rest → resource.held controller = false
  | .destroying rest =>
    rest <:+ stopSteps ∧ ∀ resource : Resource, resource.loss ∉ rest → resource.held controller = false
  | .destroyed => ∀ resource : Resource, resource.held controller = false

/-- A resource that the controller has not taken yet and may still take. -/
def Phase.pending (resource : Resource) : Phase → Bool
  | .idle startable | .stopping startable _ => startable
  | .starting rest => decide (resource.gain ∈ rest)
  | .destroying _ | .destroyed => false

section Fits
variable {κ : Type} {controller : TgCallsController} {runtime : Runtime κ}

theorem suffix_tail {α : Type} {first : α} {rest all : List α} (suffix : first :: rest <:+ all) (distinct : all.Nodup) :
    rest <:+ all ∧ first ∉ rest :=
  ⟨(List.suffix_cons first rest).trans suffix, (List.nodup_cons.mp (distinct.sublist suffix.sublist)).1⟩

theorem Phase.Fits.started {self : κ} {step : StartStep} {rest : List StartStep}
    (fits : Phase.Fits controller (.starting (step :: rest))) :
    Phase.Fits (controller.started self runtime step).1 (.afterStart rest) := by
  obtain ⟨suffix, flags⟩ := fits
  obtain ⟨shorter, fresh⟩ := suffix_tail suffix (by decide)
  have next : ∀ resource : Resource, resource.held (controller.started self runtime step).1 =
      decide (resource.gain ∉ rest) := by
    intro resource
    rw [started_held, flags]
    by_cases taken : step = resource.gain
    · rw [taken] at fresh
      simp [taken, fresh]
    · simp [taken, Ne.symm taken]
  cases rest with
  | nil => exact ⟨by simp, fun _ _ => (next .session).trans (by simp)⟩
  | cons => exact ⟨shorter, next⟩

/-- Only the first steps of `Start` wait for ntgcalls. -/
theorem Phase.Fits.failed {step : StartStep} {rest : List StartStep}
    (fits : Phase.Fits controller (.starting (step :: rest)))
    (waits : (controller.startCall step).isSome = true) : Phase.Fits controller (.idle false) := by
  obtain ⟨suffix, flags⟩ := fits
  refine ⟨by simp, fun resource held => ?_⟩
  have late : .register ∈ rest ∧ .startMicFeeder ∈ rest := by
    simp only [startSteps, List.suffix_cons_iff, List.cons.injEq, List.suffix_nil, reduceCtorEq, or_false] at suffix
    rcases suffix with ⟨rfl, rfl⟩ | ⟨rfl, rfl⟩ | ⟨rfl, rfl⟩ | ⟨rfl, rfl⟩ | ⟨rfl, rfl⟩ | ⟨rfl, rfl⟩ | ⟨rfl, rfl⟩ |
      ⟨rfl, rfl⟩ | ⟨rfl, rfl⟩ <;>
      first | (cases waits; done) | simp
  cases resource with
  | session => exact held
  | sink => rw [flags] at held; simp [Resource.gain, late] at held
  | feeder => rw [flags] at held; simp [Resource.gain, late] at held

theorem stopped_lacks (runtime : Runtime κ) {step : StopStep} {rest : List StopStep}
    (flags : ∀ resource : Resource, resource.loss ∉ step :: rest → resource.held controller = false)
    (resource : Resource) (past : resource.loss ∉ rest) :
    resource.held (controller.stopped runtime step).1 = false := by
  rw [stopped_held]
  by_cases now : step = resource.loss
  · simp [now]
  · simp [flags resource (by simp [past, Ne.symm now])]

theorem Phase.Fits.stopped {startable : Bool} {step : StopStep} {rest : List StopStep}
    (fits : Phase.Fits controller (.stopping startable (step :: rest))) :
    Phase.Fits (controller.stopped runtime step).1 (.afterStop startable rest) := by
  obtain ⟨suffix, bare, flags⟩ := fits
  have lacks := stopped_lacks runtime flags
  have bare : startable = true → ∀ resource : Resource, resource.held (controller.stopped runtime step).1 = false := by
    intro fresh resource
    simp [bare fresh resource]
  cases rest with
  | nil =>
    refine ⟨bare, fun resource held => ?_⟩
    rw [lacks resource (by simp)] at held
    cases held
  | cons => exact ⟨(suffix_tail suffix (by decide)).1, bare, lacks⟩

theorem Phase.Fits.destroying {step : StopStep} {rest : List StopStep}
    (fits : Phase.Fits controller (.destroying (step :: rest))) :
    Phase.Fits (controller.stopped runtime step).1 (.afterDestroy rest) := by
  obtain ⟨suffix, flags⟩ := fits
  have lacks := stopped_lacks runtime flags
  cases rest with
  | nil => exact fun resource => lacks resource (by simp)
  | cons => exact ⟨(suffix_tail suffix (by decide)).1, lacks⟩

theorem Phase.Fits.unpending {phase : Phase} (fits : phase.Fits controller) (resource : Resource)
    (pending : phase.pending resource = true) :
    resource.held controller = false := by
  cases phase with
  | idle startable => exact fits.1 pending resource
  | starting rest => simpa [Phase.pending, fits.2 resource] using pending
  | stopping startable rest => exact fits.2.1 pending resource
  | destroying | destroyed => cases pending

end Fits

namespace SessionObs
variable {κ : Type}

def owner : SessionObs κ → Option κ
  | .ntg self .. | .registered self _
  | .unregistered self _ | .feederStarted self | .feederJoined self | .destroyed self => some self
  | .dispatched .. => none

variable [DecidableEq κ]

/-- A controller takes a resource. -/
def gains (self : κ) : Resource → SessionObs κ → Bool
  | .session, .ntg other _ .createP2p true | .sink, .registered other _ | .feeder, .feederStarted other =>
    decide (other = self)
  | _, _ => false

def loses (self : κ) : Resource → SessionObs κ → Bool
  | .session, .ntg other _ .stop true | .sink, .unregistered other _ | .feeder, .feederJoined other =>
    decide (other = self)
  | _, _ => false

/-- `ntg_stop` is issued on behalf of a controller. -/
def stops (self : κ) : SessionObs κ → Bool
  | .ntg other _ .stop _ => decide (other = self)
  | _ => false

theorem owner_of_gains {self : κ} {resource : Resource} {obs : SessionObs κ} (gains : obs.gains self resource = true) :
    obs.owner = some self := by
  unfold SessionObs.gains at gains
  split at gains <;> first | exact congrArg some (of_decide_eq_true gains) | cases gains

theorem owner_of_loses {self : κ} {resource : Resource} {obs : SessionObs κ} (loses : obs.loses self resource = true) :
    obs.owner = some self := by
  unfold SessionObs.loses at loses
  split at loses <;> first | exact congrArg some (of_decide_eq_true loses) | cases loses

end SessionObs

section Shows
variable {κ : Type} {self : κ} {controller : TgCallsController}

theorem startShows_owner (step : StartStep) (succeeded : Bool) :
    ∀ obs ∈ controller.startShows self step succeeded, obs.owner = some self := by
  cases step <;> simp [startShows, startCall, SessionObs.owner]

theorem stopShows_owner (step : StopStep) (succeeded : Bool) :
    ∀ obs ∈ controller.stopShows self step succeeded, obs.owner = some self := by
  obtain ⟨userId, encryptionKey, isOutgoing, rtcServers, enableP2p, created, registered, micFeederRunning, _, _⟩ :=
    controller
  cases created <;> cases registered <;> cases micFeederRunning <;> cases step <;>
    simp [stopShows, stopCall, SessionObs.owner]

variable [DecidableEq κ]

theorem startShows_counts (self : κ) (controller : TgCallsController) (step : StartStep) (resource : Resource) :
    (controller.startShows self step true).countP (SessionObs.gains self resource) =
      (decide (step = resource.gain)).toNat ∧
      (controller.startShows self step true).countP (SessionObs.loses self resource) = 0 := by
  cases step <;> cases resource <;> simp [startShows, startCall, SessionObs.gains, SessionObs.loses, Resource.gain]

theorem stopShows_counts (self : κ) (controller : TgCallsController) (step : StopStep) (resource : Resource) :
    (controller.stopShows self step true).countP (SessionObs.gains self resource) = 0 ∧
      (controller.stopShows self step true).countP (SessionObs.loses self resource) =
        (decide (step = resource.loss) && resource.held controller).toNat := by
  obtain ⟨userId, encryptionKey, isOutgoing, rtcServers, enableP2p, created, registered, micFeederRunning, _, _⟩ :=
    controller
  cases created <;> cases registered <;> cases micFeederRunning <;> cases step <;> cases resource <;>
    simp [stopShows, stopCall, SessionObs.gains, SessionObs.loses, Resource.loss, Resource.held]

theorem failed_counts (userId : UserId) (call : NtgCall) (resource : Resource) :
    ([.ntg self userId call false] : List (SessionObs κ)).countP (SessionObs.gains self resource) = 0 ∧
      ([.ntg self userId call false] : List (SessionObs κ)).countP (SessionObs.loses self resource) = 0 := by
  cases resource <;> simp [SessionObs.gains, SessionObs.loses]

end Shows

namespace Sessions
variable {κ : Type} [DecidableEq κ]

/-- A function of the controller is called. -/
inductive Calls (controller : TgCallsController) : Phase → Phase → Prop where
  | start : Calls controller (.idle true) (.starting startSteps)
  | stop (startable : Bool) : Calls controller (.idle startable) (.stopping startable stopSteps)
  | destroy (startable : Bool) (created : controller.created = true) :
      Calls controller (.idle startable) (.destroying stopSteps)

/-- A step of `Stop`, called by somebody or by the destructor. -/
inductive Stops (step : StopStep) (rest : List StopStep) : Phase → Phase → Prop where
  | stop (startable : Bool) : Stops step rest (.stopping startable (step :: rest)) (.afterStop startable rest)
  | destroy : Stops step rest (.destroying (step :: rest)) (.afterDestroy rest)

/-- The ways a step can go. -/
inductive Moves (label : SessionLabel κ) (before : Sessions κ) : List (SessionObs κ) → Sessions κ → Prop where
  | constructed (self : κ) (controller : TgCallsController) (absent : before.holders self = none)
      (bare : ∀ resource : Resource, resource.held controller = false) (named : label.actor = some self) :
      Moves label before [] (before.put self controller (.idle true))
  | called (self : κ) (controller : TgCallsController) (phase next : Phase)
      (held : before.holders self = some ⟨controller, phase⟩) (calls : Calls controller phase next)
      (named : label.actor = some self) : Moves label before [] (before.put self controller next)
  | gone (self : κ) (controller : TgCallsController) (startable : Bool)
      (held : before.holders self = some ⟨controller, .idle startable⟩) (bare : controller.created = false)
      (named : label.actor = some self) : Moves label before [.destroyed self] (before.put self controller .destroyed)
  | started (self : κ) (controller : TgCallsController) (step : StartStep) (rest : List StartStep) (live : Map κ UserId)
      (held : before.holders self = some ⟨controller, .starting (step :: rest)⟩)
      (sessions : live = if step = .createP2p then before.live.assign self controller.userId else before.live)
      (named : label.actor = some self) :
      Moves label before (controller.startShows self step true)
        ({ before with runtime := (controller.started self before.runtime step).2, live }.put self
          (controller.started self before.runtime step).1 (.afterStart rest))
  | startFailed (self : κ) (controller : TgCallsController) (step : StartStep) (rest : List StartStep)
      (call : NtgCall) (held : before.holders self = some ⟨controller, .starting (step :: rest)⟩)
      (waits : controller.startCall step = some call) (named : label.actor = some self) :
      Moves label before [.ntg self controller.userId call false] (before.put self controller (.idle false))
  | stopped (self : κ) (controller : TgCallsController) (step : StopStep) (rest : List StopStep) (phase next : Phase)
      (live : Map κ UserId) (held : before.holders self = some ⟨controller, phase⟩) (stops : Stops step rest phase next)
      (sessions : live = if (controller.stopCall step).isSome = true then
        fun other => (before.live other).filter fun chat => chat ≠ controller.userId else before.live)
      (named : label.actor = some self) :
      Moves label before (controller.stopShows self step true ++ if next = .destroyed then [.destroyed self] else [])
        ({ before with runtime := (controller.stopped before.runtime step).2, live }.put self
          (controller.stopped before.runtime step).1 next)
  | stopFailed (self : κ) (controller : TgCallsController) (startable : Bool) (rest : List StopStep)
      (held : before.holders self = some ⟨controller, .stopping startable (.stopNtg :: rest)⟩)
      (created : controller.created = true) (named : label.actor = some self) :
      Moves label before [.ntg self controller.userId .stop false] (before.put self controller (.idle startable))
  | dispatched (userId : UserId) (callback : Callback) (sink : κ) (found : before.runtime.sinks userId = some sink) :
      Moves label before [.dispatched userId callback sink] before
  | lost : Moves label before [] before

variable {before after : Sessions κ} {label : SessionLabel κ} {seen : List (SessionObs κ)}

theorem stopCall_some {controller : TgCallsController} {step : StopStep}
    (waits : (controller.stopCall step).isSome = true) :
    step = .stopNtg ∧ controller.created = true ∧ controller.stopCall step = some .stop := by
  cases step with
  | stopNtg =>
    cases created : controller.created with
    | true => simp [stopCall, created]
    | false => simp [stopCall, created] at waits
  | _ => cases waits

theorem step_moves (step : Step label before seen after) : Moves label before seen after := by
  cases label with
  | construct self userId encryptionKey isOutgoing rtcServers enableP2p =>
    simp only [Step, Sessions.step] at step
    split at step <;> cases step
    next absent => exact .constructed self _ absent (fun resource => by cases resource <;> rfl) rfl
  | start self =>
    simp only [Step, Sessions.step] at step
    split at step <;> cases step
    next controller held => exact .called self controller _ _ held .start rfl
  | stop self =>
    simp only [Step, Sessions.step] at step
    split at step <;> cases step
    next controller startable held => exact .called self controller _ _ held (.stop startable) rfl
  | destroy self =>
    simp only [Step, Sessions.step] at step
    split at step
    next controller startable held =>
      split at step <;> cases step
      next created => exact .called self controller _ _ held (.destroy startable created) rfl
      next bare => exact .gone self controller startable held (by simpa using bare) rfl
    next => cases step
  | advance self result =>
    simp only [Step, Sessions.step] at step
    split at step
    next controller first rest held =>
      simp only [runStart, Option.some.injEq] at step
      split at step
      next failed =>
        cases step
        rw [Bool.and_eq_true] at failed
        obtain ⟨call, waits⟩ := Option.isSome_iff_exists.mp failed.1
        simp only [startShows, waits]
        exact .startFailed self controller first rest call held waits rfl
      next =>
        cases step
        exact .started self controller first rest _ held rfl rfl
    next controller startable first rest held =>
      split at step <;> cases step
      next failed =>
        rw [Bool.and_eq_true] at failed
        obtain ⟨rfl, created, waits⟩ := stopCall_some failed.1
        simp only [stopShows, waits]
        exact .stopFailed self controller startable rest held created rfl
      next =>
        have stays : Phase.afterStop startable rest ≠ .destroyed := by cases rest <;> simp [Phase.afterStop]
        have moves : Moves (.advance self result) before _ _ :=
          .stopped self controller first rest _ _ _ held (.stop startable) rfl rfl
        rw [if_neg stays, List.append_nil] at moves
        exact moves
    next controller first rest held =>
      split at step
      next => cases step
      next =>
        cases step
        have ends : Phase.afterDestroy rest = .destroyed ↔ rest = [] := by cases rest <;> simp [Phase.afterDestroy]
        have moves : Moves (.advance self result) before _ _ :=
          .stopped self controller first rest _ _ _ held .destroy rfl rfl
        simp only [ends] at moves
        exact moves
    next => cases step
  | callback userId callback =>
    simp only [Step, Sessions.step] at step
    split at step <;> cases step
    next sink found => exact .dispatched userId callback sink found
    next => exact .lost

/-- What the history says of a resource of a controller. -/
structure Balance (past : List (SessionObs κ)) (owner : κ) (holder : Holder) (resource : Resource) : Prop where
  flow : past.countP (SessionObs.gains owner resource) =
    past.countP (SessionObs.loses owner resource) + (resource.held holder.controller).toNat
  once : past.countP (SessionObs.gains owner resource) ≤ 1
  pending : holder.phase.pending resource = true → past.countP (SessionObs.gains owner resource) = 0

structure Sound (past : List (SessionObs κ)) (sessions : Sessions κ) : Prop where
  absent : ∀ self, sessions.holders self = none → ∀ obs ∈ past, obs.owner ≠ some self
  fits : ∀ self holder, sessions.holders self = some holder → holder.phase.Fits holder.controller
  balance : ∀ self holder, sessions.holders self = some holder → ∀ resource, Balance past self holder resource
  sinks : ∀ userId self, sessions.runtime.sinks userId = some self → ∃ holder, sessions.holders self = some holder ∧
    holder.controller.registered = true ∧ holder.controller.userId = userId
  destroyed : ∀ self, .destroyed self ∈ past → ∃ holder, sessions.holders self = some holder ∧ holder.phase = .destroyed

variable {past : List (SessionObs κ)} {self : κ}

omit [DecidableEq κ] in
theorem count_silent {kept : SessionObs κ → Bool} (owned : ∀ obs, kept obs = true → obs.owner = some self)
    (silent : ∀ obs ∈ seen, obs.owner ≠ some self) : seen.countP kept = 0 := by
  rw [List.countP_eq_zero]
  exact fun obs shown counted => silent obs shown (owned obs counted)

theorem Balance.quiet {holder : Holder} {resource : Resource} (balance : Balance past self holder resource)
    (silent : ∀ obs ∈ seen, obs.owner ≠ some self) : Balance (past ++ seen) self holder resource := by
  have gains : seen.countP (SessionObs.gains self resource) = 0 :=
    count_silent (fun _ => SessionObs.owner_of_gains) silent
  have loses : seen.countP (SessionObs.loses self resource) = 0 :=
    count_silent (fun _ => SessionObs.owner_of_loses) silent
  constructor <;> simp only [List.countP_append, gains, loses, Nat.add_zero]
  · exact balance.flow
  · exact balance.once
  · exact balance.pending

/-- A step of the controller itself: what it shows is what its flags gain and lose. -/
theorem Balance.next {holder next : Holder} {resource : Resource} (balance : Balance past self holder resource)
    (flow : (resource.held holder.controller).toNat + seen.countP (SessionObs.gains self resource) =
      seen.countP (SessionObs.loses self resource) + (resource.held next.controller).toNat)
    (once : seen.countP (SessionObs.gains self resource) = 0 ∨
      seen.countP (SessionObs.gains self resource) = 1 ∧ holder.phase.pending resource = true)
    (pending : next.phase.pending resource = true →
      holder.phase.pending resource = true ∧ seen.countP (SessionObs.gains self resource) = 0) :
    Balance (past ++ seen) self next resource := by
  have before := balance.flow
  have bounded := balance.once
  constructor <;> simp only [List.countP_append]
  · omega
  · rcases once with none | ⟨one, waits⟩
    · omega
    · have nothing := balance.pending waits
      omega
  · intro waits
    obtain ⟨waited, none⟩ := pending waits
    have nothing := balance.pending waited
    omega

/-- A step of one controller leaves the others as they are. -/
theorem Sound.next (sound : Sound past before) (next : Holder) {runtime : Runtime κ} {live : Map κ UserId}
    (own : ∀ obs ∈ seen, obs.owner = some self) (fits : next.phase.Fits next.controller)
    (balance : ∀ resource, Balance (past ++ seen) self next resource)
    (sinks : ∀ userId other, runtime.sinks userId = some other →
      other ≠ self ∧ before.runtime.sinks userId = some other ∨
      other = self ∧ next.controller.registered = true ∧ next.controller.userId = userId)
    (destroyed : .destroyed self ∈ past ++ seen → next.phase = .destroyed) :
    Sound (past ++ seen) ({ before with runtime, live }.put self next.controller next.phase) := by
  have silent : ∀ {other}, other ≠ self → ∀ obs ∈ seen, obs.owner ≠ some other := by
    intro other foreign obs shown named
    exact foreign (Option.some.inj (named.symm.trans (own obs shown)))
  refine ⟨fun other absent obs shown => ?_, fun other holder held => ?_, fun other holder held resource => ?_,
    fun userId other found => ?_, fun other gone => ?_⟩ <;> by_cases same : other = self
  · subst same; simp [put] at absent
  · simp only [put, Map.assign_other _ _ same] at absent
    rcases List.mem_append.mp shown with old | now
    · exact sound.absent other absent obs old
    · exact silent same obs now
  · subst same; simp only [put, Map.assign_same, Option.some.injEq] at held; subst held; exact fits
  · simp only [put, Map.assign_other _ _ same] at held
    exact sound.fits other holder held
  · subst same; simp only [put, Map.assign_same, Option.some.injEq] at held; subst held; exact balance resource
  · simp only [put, Map.assign_other _ _ same] at held
    exact (sound.balance other holder held resource).quiet (silent same)
  · rcases sinks userId other found with ⟨foreign, _⟩ | ⟨_, registered, user⟩
    · exact absurd same foreign
    · subst same; exact ⟨next, by simp [put], registered, user⟩
  · rcases sinks userId other found with ⟨_, old⟩ | ⟨own, _⟩
    · simpa only [put, Map.assign_other _ _ same] using sound.sinks userId other old
    · exact absurd own same
  · subst same; exact ⟨next, by simp [put], destroyed gone⟩
  · rcases List.mem_append.mp gone with old | now
    · simpa only [put, Map.assign_other _ _ same] using sound.destroyed other old
    · exact absurd rfl (silent same _ now)

/-- A controller that nobody destroyed. -/
theorem Sound.intact (sound : Sound past before) {controller : TgCallsController} {phase : Phase}
    (held : before.holders self = some ⟨controller, phase⟩) (alive : phase ≠ .destroyed) : .destroyed self ∉ past := by
  intro gone
  obtain ⟨holder, found, ended⟩ := sound.destroyed self gone
  rw [held] at found
  cases found
  exact alive ended

/-- A step that leaves the flags and the registry alone. -/
theorem Sound.called (sound : Sound past before) {controller : TgCallsController} {phase next : Phase}
    (held : before.holders self = some ⟨controller, phase⟩) (own : ∀ obs ∈ seen, obs.owner = some self)
    (fits : next.Fits controller) (counts : ∀ resource, seen.countP (SessionObs.gains self resource) = 0 ∧
      seen.countP (SessionObs.loses self resource) = 0)
      (pending : ∀ resource, next.pending resource = true → phase.pending resource = true)
    (alive : phase ≠ .destroyed) (destroyed : .destroyed self ∈ seen → next = .destroyed) :
    Sound (past ++ seen) (before.put self controller next) := by
  refine sound.next ⟨controller, next⟩ own fits (fun resource => ?_) (fun userId other found => ?_) (fun gone => ?_)
  · obtain ⟨gains, loses⟩ := counts resource
    refine (sound.balance self _ held resource).next ?_ (.inl gains) fun waits => ⟨pending resource waits, gains⟩
    rw [gains, loses, Nat.add_zero, Nat.zero_add]
  · by_cases same : other = self
    · subst same
      obtain ⟨holder, present, registered, user⟩ := sound.sinks userId other found
      rw [held] at present
      cases present
      exact .inr ⟨rfl, registered, user⟩
    · exact .inl ⟨same, found⟩
  · exact destroyed ((List.mem_append.mp gone).resolve_left (sound.intact held alive))

omit [DecidableEq κ] in
theorem started_sinks {controller : TgCallsController} {runtime : Runtime κ} {step : StartStep}
    {userId : UserId} {other : κ} (found : (controller.started self runtime step).2.sinks userId = some other) :
    runtime.sinks userId = some other ∨ other = self ∧ step = .register ∧ controller.userId = userId := by
  cases step with
  | register =>
    by_cases same : userId = controller.userId
    · subst same; simp [started, Runtime.register] at found; exact .inr ⟨found.symm, rfl, rfl⟩
    · simp [started, Runtime.register, same] at found; exact .inl found
  | _ => exact .inl found

omit [DecidableEq κ] in
theorem stopped_sinks {controller : TgCallsController} {runtime : Runtime κ} {step : StopStep} {userId : UserId}
    {other : κ} (found : (controller.stopped runtime step).2.sinks userId = some other) :
    runtime.sinks userId = some other ∧
      (step = .unregister → controller.registered = true → userId ≠ controller.userId) := by
  cases step with
  | unregister =>
    cases registered : controller.registered with
    | false => exact ⟨by simpa [stopped, registered] using found, fun _ impossible => by cases impossible⟩
    | true =>
      by_cases same : userId = controller.userId
      · subst same; simp [stopped, registered, Runtime.unregister] at found
      · exact ⟨by simpa [stopped, registered, Runtime.unregister, same] using found, fun _ _ => same⟩
  | _ => exact ⟨found, by simp⟩

theorem Sound.started (sound : Sound past before) {controller : TgCallsController} {step : StartStep}
    {rest : List StartStep} (held : before.holders self = some ⟨controller, .starting (step :: rest)⟩)
    (live : Map κ UserId) :
    Sound (past ++ controller.startShows self step true)
      ({ before with runtime := (controller.started self before.runtime step).2, live }.put self
        (controller.started self before.runtime step).1 (.afterStart rest)) := by
  have fits := sound.fits self _ held
  have fresh := (suffix_tail fits.1 (by decide)).2
  refine sound.next ⟨(controller.started self before.runtime step).1, .afterStart rest⟩ (startShows_owner step true)
    fits.started (fun resource => ?_) (fun userId other found => ?_) (fun gone => ?_)
  · obtain ⟨gains, loses⟩ := startShows_counts self controller step resource
    refine (sound.balance self _ held resource).next ?_ ?_ fun waits => ?_
    · rw [gains, loses, started_held]
      by_cases taken : step = resource.gain
      · have bare := Phase.Fits.unpending fits resource (by simp [Phase.pending, taken])
        simp [taken, bare]
      · simp [taken]
    · by_cases taken : step = resource.gain
      · exact .inr ⟨by rw [gains, taken]; simp, by simp [Phase.pending, taken]⟩
      · exact .inl (by simp [gains, taken])
    · have later : resource.gain ∈ rest := by
        cases rest with
        | nil => simp [Phase.afterStart, Phase.pending] at waits
        | cons => simpa [Phase.afterStart, Phase.pending] using waits
      have other : step ≠ resource.gain := fun same => fresh (same ▸ later)
      exact ⟨by simp [Phase.pending, later], by simp [gains, other]⟩
  · rcases started_sinks found with old | ⟨same, rfl, user⟩
    · by_cases same : other = self
      · subst same
        obtain ⟨holder, present, registered, user⟩ := sound.sinks userId other old
        rw [held] at present
        cases present
        have holds : Resource.held controller .sink = true := registered
        have kept := started_held controller before.runtime other step .sink
        rw [holds, Bool.or_true] at kept
        exact .inr ⟨rfl, kept, (started_userId other step).trans user⟩
      · exact .inl ⟨same, old⟩
    · exact .inr ⟨same, rfl, user⟩
  · have silent : .destroyed self ∉ controller.startShows self step true := by
      cases step <;> simp [startShows, startCall]
    exact absurd gone (by simp [silent, sound.intact held (by simp)])

theorem Sound.stopped (sound : Sound past before) {controller : TgCallsController} {step : StopStep}
    {rest : List StopStep} {phase next : Phase} (held : before.holders self = some ⟨controller, phase⟩)
    (stops : Stops step rest phase next) (live : Map κ UserId) :
    Sound (past ++ (controller.stopShows self step true ++ if next = .destroyed then [.destroyed self] else []))
      ({ before with runtime := (controller.stopped before.runtime step).2, live }.put self
        (controller.stopped before.runtime step).1 next) := by
  have fits := sound.fits self _ held
  have alive : phase ≠ .destroyed := by cases stops <;> simp
  have after : next.Fits (controller.stopped before.runtime step).1 := by
    cases stops with
    | stop startable => exact fits.stopped
    | destroy => exact fits.destroying
  have counts : ∀ resource : Resource,
      (controller.stopShows self step true ++ if next = Phase.destroyed then [SessionObs.destroyed self] else []).countP
        (SessionObs.gains self resource) = 0 ∧
      (controller.stopShows self step true ++ if next = Phase.destroyed then [SessionObs.destroyed self] else []).countP
        (SessionObs.loses self resource) = (decide (step = resource.loss) && resource.held controller).toNat := by
    intro resource
    obtain ⟨gains, loses⟩ := stopShows_counts self controller step resource
    rw [List.countP_append, List.countP_append, gains, loses]
    split <;> cases resource <;> exact ⟨rfl, rfl⟩
  refine sound.next ⟨(controller.stopped before.runtime step).1, next⟩ (fun obs shown => ?_) after (fun resource => ?_)
    (fun userId other found => ?_) (fun gone => ?_)
  · rcases List.mem_append.mp shown with shown | shown
    · exact stopShows_owner step true obs shown
    · split at shown <;> simp only [List.mem_singleton, List.not_mem_nil] at shown
      rw [shown]
      rfl
  · obtain ⟨gains, loses⟩ := counts resource
    refine (sound.balance self _ held resource).next ?_ (.inl gains) fun waits => ⟨?_, gains⟩
    · rw [gains, loses, stopped_held]
      cases resource.held controller <;> by_cases taken : step = resource.loss <;> simp [taken]
    · cases stops with
      | stop startable => cases rest <;> exact waits
      | destroy => cases rest <;> cases waits
  · obtain ⟨old, apart⟩ := stopped_sinks found
    by_cases same : other = self
    · subst same
      obtain ⟨holder, present, registered, user⟩ := sound.sinks userId other old
      rw [held] at present
      cases present
      have holds : Resource.held controller .sink = true := registered
      have kept := stopped_held controller before.runtime step .sink
      have others : step ≠ .unregister := fun taken => apart taken registered user.symm
      rw [holds, Bool.and_true] at kept
      exact .inr ⟨rfl, kept.trans (by simp [Resource.loss, others]), (stopped_userId step).trans user⟩
    · exact .inl ⟨same, old⟩
  · have silent : .destroyed self ∉ controller.stopShows self step true := by
      intro shown
      unfold stopShows at shown
      split at shown
      · simp at shown
      · split at shown <;> simp at shown
      · split at shown <;> simp at shown
      · cases shown
    simp only [List.mem_append, sound.intact held alive, silent, false_or] at gone
    by_contra stays
    simp only [stays, if_false] at gone
    cases gone

theorem Sound.step (sound : Sound past before) (step : Step label before seen after) : Sound (past ++ seen) after := by
  cases step_moves step with
  | constructed self controller absent bare =>
    have unseen : ∀ resource : Resource, past.countP (SessionObs.gains self resource) = 0 ∧
        past.countP (SessionObs.loses self resource) = 0 :=
      fun resource => ⟨count_silent (fun _ => SessionObs.owner_of_gains) (sound.absent self absent),
        count_silent (fun _ => SessionObs.owner_of_loses) (sound.absent self absent)⟩
    refine sound.next ⟨controller, .idle true⟩ (by simp) ?_ (fun resource => ?_) (fun userId other found => ?_)
      (fun gone => ?_)
    · refine ⟨fun _ => bare, fun resource held => ?_⟩
      rw [bare resource] at held
      cases held
    · rw [List.append_nil]
      exact ⟨by simp [unseen resource, bare resource], by simp [unseen resource], fun _ => (unseen resource).1⟩
    · refine .inl ⟨?_, found⟩
      rintro rfl
      obtain ⟨holder, present, _⟩ := sound.sinks userId other found
      rw [absent] at present
      cases present
    · rw [List.append_nil] at gone
      exact absurd rfl (sound.absent self absent _ gone)
  | called self controller phase next held calls =>
    have fits := sound.fits self _ held
    refine sound.called held (by simp) ?_ (by simp) ?_ ?_ (by simp)
    · cases calls with
      | start =>
        refine ⟨List.suffix_refl _, fun resource => (fits.1 rfl resource).trans ?_⟩
        cases resource <;> rfl
      | stop startable =>
        exact ⟨List.suffix_refl _, fits.1, fun resource missing => absurd (by cases resource <;> decide) missing⟩
      | destroy startable created =>
        exact ⟨List.suffix_refl _, fun resource missing => absurd (by cases resource <;> decide) missing⟩
    · intro resource waits
      cases calls with
      | start => rfl
      | stop startable => exact waits
      | destroy => cases waits
    · cases calls <;> simp
  | gone self controller startable held bare =>
    have fits := sound.fits self _ held
    refine sound.called held (by simp [SessionObs.owner]) (fun resource => ?_)
      (fun resource => by cases resource <;> exact ⟨rfl, rfl⟩)
      (fun resource waits => by cases waits) (by simp) (fun _ => rfl)
    by_contra taken
    have created := fits.2 resource (by simpa using taken)
    rw [bare] at created
    cases created
  | started self controller step rest live held sessions => exact sound.started held live
  | startFailed self controller step rest call held waits =>
    exact sound.called held (by simp [SessionObs.owner]) ((sound.fits self _ held).failed (by simp [waits]))
      (fun resource => failed_counts _ _ resource) (fun resource waits => by cases waits) (by simp) (by simp)
  | stopped self controller step rest phase next live held stops sessions => exact sound.stopped held stops live
  | stopFailed self controller startable rest held created =>
    have fits := sound.fits self _ held
    exact sound.called held (by simp [SessionObs.owner]) ⟨fits.2.1, fun _ _ => created⟩
      (fun resource => failed_counts _ _ resource) (fun resource waits => waits) (by simp) (by simp)
  | dispatched userId callback sink found =>
    have silent : ∀ self, ∀ obs ∈ [SessionObs.dispatched userId callback sink], obs.owner ≠ some self := by
      simp [SessionObs.owner]
    refine ⟨fun self absent obs shown => ?_, sound.fits,
      fun self holder held resource => (sound.balance self holder held resource).quiet (silent self),
      sound.sinks, fun self gone => sound.destroyed self ?_⟩
    · rcases List.mem_append.mp shown with old | now
      · exact sound.absent self absent obs old
      · exact silent self obs now
    · simpa using gone
  | lost => rw [List.append_nil]; exact sound

theorem Sound.run {sessions : Sessions κ} {allowed : SessionLabel κ → Sessions κ → List (SessionObs κ) → Prop}
    (reached : Reaches allowed past sessions) : Sound past sessions := by
  refine reached.invariant Sound ?_ ?_
  · exact ⟨by simp, by simp, by simp, by simp, by simp⟩
  · rintro past before seen after sound ⟨label, _, step⟩
    exact sound.step step

omit [DecidableEq κ] in
/-- What a count counts was shown. -/
theorem counted_iff {ι : Type} {counts : SessionObs κ → Bool} (shows : ι → SessionObs κ)
    (counted : ∀ obs, counts obs = true ↔ ∃ i, shows i = obs) : 0 < past.countP counts ↔ ∃ i, shows i ∈ past := by
  rw [List.countP_pos_iff]
  constructor
  · intro ⟨obs, member, holds⟩
    obtain ⟨i, rfl⟩ := (counted obs).mp holds
    exact ⟨i, member⟩
  · intro ⟨i, member⟩
    exact ⟨shows i, member, (counted _).mpr ⟨i, rfl⟩⟩

theorem registered_iff : 0 < past.countP (SessionObs.gains self .sink) ↔ ∃ chat, .registered self chat ∈ past := by
  apply counted_iff (SessionObs.registered self)
  intro obs
  cases obs <;> simp [SessionObs.gains, eq_comm]

theorem unregistered_iff : 0 < past.countP (SessionObs.loses self .sink) ↔ ∃ chat, .unregistered self chat ∈ past := by
  apply counted_iff (SessionObs.unregistered self)
  intro obs
  cases obs <;> simp [SessionObs.loses, eq_comm]

theorem feederStarted_iff : 0 < past.countP (SessionObs.gains self .feeder) ↔ .feederStarted self ∈ past := by
  refine (counted_iff (fun _ : Unit => SessionObs.feederStarted self) fun obs => ?_).trans (by simp)
  cases obs <;> simp [SessionObs.gains, eq_comm]

theorem feederJoined_iff : 0 < past.countP (SessionObs.loses self .feeder) ↔ .feederJoined self ∈ past := by
  refine (counted_iff (fun _ : Unit => SessionObs.feederJoined self) fun obs => ?_).trans (by simp)
  cases obs <;> simp [SessionObs.loses, eq_comm]

theorem created_iff : 0 < past.countP (SessionObs.gains self .session) ↔
    ∃ chat, .ntg self chat .createP2p true ∈ past := by
  apply counted_iff fun chat => SessionObs.ntg self chat .createP2p true
  intro obs
  cases obs with
  | ntg other chat call succeeded => cases call <;> cases succeeded <;> simp [SessionObs.gains, eq_comm]
  | _ => simp [SessionObs.gains]

/-- While `ntg_stop` is issued the controller has nothing left but its session. -/
theorem Moves.stops {first rest : List (SessionObs κ)} {userId : UserId} {succeeded : Bool}
    (moves : Moves label before seen after) (split : seen = first ++ .ntg self userId .stop succeeded :: rest) :
    first = [] ∧ ∃ controller phase later,
      before.holders self = some ⟨controller, phase⟩ ∧
        ((∃ startable, phase = .stopping startable (.stopNtg :: later)) ∨ phase = .destroying (.stopNtg :: later)) := by
  have shown : .ntg self userId .stop succeeded ∈ seen := by simp [split]
  cases moves with
  | constructed | called | lost => cases shown
  | gone | dispatched => simp at shown
  | started other controller step later live held sessions => cases step <;> simp [startShows, startCall] at shown
  | startFailed other controller step later call held waits =>
    simp only [List.mem_singleton, SessionObs.ntg.injEq] at shown
    obtain ⟨rfl, _, rfl, _⟩ := shown
    cases step <;> cases waits
  | stopped other controller step later phase next live held stops sessions =>
    have issued : .ntg self userId .stop succeeded ∈ controller.stopShows other step true := by
      rcases List.mem_append.mp shown with shown | shown
      · exact shown
      · split at shown <;> simp at shown
    have waits : (controller.stopCall step).isSome = true := by
      cases called : controller.stopCall step with
      | some call => rfl
      | none => cases step <;> simp [stopShows, called] at issued
    obtain ⟨rfl, created, called⟩ := stopCall_some waits
    simp only [stopShows, called, List.mem_singleton, SessionObs.ntg.injEq] at issued
    obtain ⟨rfl, rfl, _, rfl⟩ := issued
    refine ⟨?_, controller, phase, later, held, ?_⟩
    · cases first with
      | nil => rfl
      | cons other first =>
        simp only [stopShows, called, List.cons_append, List.nil_append, List.cons.injEq] at split
        obtain ⟨_, split⟩ := split
        have again : .ntg self controller.userId .stop true ∈
          first ++ .ntg self controller.userId .stop true :: rest := by simp
        rw [← split] at again
        split at again <;> simp at again
    · cases stops with
      | stop startable => exact .inl ⟨startable, rfl⟩
      | destroy => exact .inr rfl
  | stopFailed other controller startable later held created =>
    simp only [List.mem_singleton, SessionObs.ntg.injEq] at shown
    obtain ⟨rfl, _, _, _⟩ := shown
    refine ⟨?_, controller, _, later, held, .inl ⟨startable, rfl⟩⟩
    cases first with
    | nil => rfl
    | cons other first => simp at split

theorem Moves.dispatches {first rest : List (SessionObs κ)} {userId : UserId} {callback : Callback} {sink : κ}
    (moves : Moves label before seen after) (split : seen = first ++ .dispatched userId callback sink :: rest) :
    first = [] ∧ before.runtime.sinks userId = some sink := by
  have shown : .dispatched userId callback sink ∈ seen := by simp [split]
  cases moves with
  | constructed | called | lost => cases shown
  | gone | startFailed | stopFailed => simp at shown
  | started other controller step later live held sessions => cases startShows_owner step true _ shown
  | stopped other controller step later phase next live held stops sessions =>
    rcases List.mem_append.mp shown with shown | shown
    · cases stopShows_owner step true _ shown
    · split at shown <;> simp at shown
  | dispatched user called found held =>
    simp only [List.mem_singleton, SessionObs.dispatched.injEq] at shown
    obtain ⟨rfl, rfl, rfl⟩ := shown
    cases first with
    | nil => exact ⟨rfl, held⟩
    | cons other first => simp at split

/-- Where `ntg_stop` is issued in the history, the sink and the feeder have been given back. -/
theorem Sound.stops {self : κ} {controller : TgCallsController} {phase : Phase} {later : List StopStep}
    (sound : Sound past before) (held : before.holders self = some ⟨controller, phase⟩)
    (next : (∃ startable, phase = .stopping startable (.stopNtg :: later)) ∨ phase = .destroying (.stopNtg :: later))
    (resource : Resource) (earlier : resource ≠ .session) :
    past.countP (SessionObs.gains self resource) = past.countP (SessionObs.loses self resource) := by
  have last : ∀ {rest : List StopStep}, .stopNtg :: rest <:+ stopSteps → resource.loss ∉ StopStep.stopNtg :: rest := by
    intro rest suffix
    simp only [stopSteps, List.suffix_cons_iff, List.cons.injEq, List.suffix_nil, reduceCtorEq, false_and, false_or,
      or_false, true_and] at suffix
    rw [suffix]
    cases resource <;> first | (exact absurd rfl earlier) | decide
  have bare : resource.held controller = false := by
    have fits := sound.fits self _ held
    rcases next with ⟨startable, rfl⟩ | rfl
    · exact fits.2.2 resource (last fits.1)
    · exact fits.2 resource (last fits.1)
  have flow := (sound.balance self _ held resource).flow
  rw [show resource.held (Holder.controller ⟨controller, phase⟩) = false from bare] at flow
  exact flow

/-- A controller that is registered is alive. -/
theorem Sound.alive {sessions : Sessions κ} {self : κ} {holder : Holder} (sound : Sound past sessions)
    (held : sessions.holders self = some holder) (registered : holder.controller.registered = true) :
    holder.phase ≠ .destroyed := by
  intro ended
  have fits := sound.fits self holder held
  rw [ended] at fits
  have bare : holder.controller.registered = false := fits .sink
  rw [registered] at bare
  cases bare

/-- A controller that is registered has registered before, and has not unregistered. -/
theorem Sound.listens {sessions : Sessions κ} {self : κ} {holder : Holder} (sound : Sound past sessions)
    (held : sessions.holders self = some holder) (registered : holder.controller.registered = true) :
    (∃ chat, .registered self chat ∈ past) ∧ ∀ chat, .unregistered self chat ∉ past := by
  have balance := sound.balance self holder held .sink
  have flow := balance.flow
  have once := balance.once
  rw [show Resource.sink.held holder.controller = true from registered] at flow
  simp only [Bool.toNat_true] at flow
  refine ⟨registered_iff.mp (by omega), fun chat shown => ?_⟩
  have lost := unregistered_iff.mpr ⟨chat, shown⟩
  omega

/-- A destroyed controller has given back the session that it had, if any. -/
theorem Sound.returned {sessions : Sessions κ} {self : κ} (sound : Sound past sessions)
    (gone : .destroyed self ∈ past) :
    past.countP (SessionObs.gains self .session) = past.countP (SessionObs.loses self .session) ∧
      past.countP (SessionObs.gains self .session) ≤ 1 := by
  obtain ⟨holder, held, ended⟩ := sound.destroyed self gone
  have fits := sound.fits self holder held
  rw [ended] at fits
  have balance := sound.balance self holder held .session
  have flow := balance.flow
  rw [fits .session] at flow
  exact ⟨flow, balance.once⟩

/-- While no `ntg_stop` fails, each gives a session back. -/
theorem stops_lose {self : κ} (unfailed : ∀ chat, .ntg self chat .stop false ∉ past) :
    past.countP (SessionObs.stops self) = past.countP (SessionObs.loses self .session) := by
  refine List.countP_congr fun obs shown => ?_
  cases obs with
  | ntg other chat call succeeded =>
    cases call with
    | stop =>
      cases succeeded with
      | true => rfl
      | false =>
        have foreign : other ≠ self := fun same => unfailed chat (same ▸ shown)
        simp [SessionObs.stops, SessionObs.loses, foreign]
    | _ => simp [SessionObs.stops, SessionObs.loses]
  | _ => simp [SessionObs.stops, SessionObs.loses]

/-- Whatever the order of the steps and of the callbacks, a sink in the registry belongs to a controller that is alive
and registered, no callback reaches a controller that has unregistered, `ntg_stop` comes after the sink
and the feeder are given back, and a destroyed controller has issued it once if it had a session. -/
theorem controllers_are_torn_down {sessions : Sessions κ} (reached : Reaches Anything past sessions) :
    (∀ userId sink, sessions.runtime.sinks userId = some sink → ∃ holder, sessions.holders sink = some holder ∧
      holder.phase ≠ .destroyed ∧ holder.controller.registered = true) ∧
    (∀ earlier later userId callback sink, past = earlier ++ .dispatched userId callback sink :: later →
      (∃ chat, .registered sink chat ∈ earlier) ∧ (∀ chat, .unregistered sink chat ∉ earlier) ∧
        .destroyed sink ∉ earlier) ∧
    (∀ earlier later self userId succeeded, past = earlier ++ .ntg self userId .stop succeeded :: later →
      ((∃ chat, .registered self chat ∈ earlier) → ∃ chat, .unregistered self chat ∈ earlier) ∧
        (.feederStarted self ∈ earlier → .feederJoined self ∈ earlier)) ∧
    ∀ self, .destroyed self ∈ past → (∀ chat, .ntg self chat .stop false ∉ past) →
      ((∃ chat, .ntg self chat .createP2p true ∈ past) → past.countP (SessionObs.stops self) = 1) ∧
        ((∀ chat, .ntg self chat .createP2p true ∉ past) → past.countP (SessionObs.stops self) = 0) := by
  refine ⟨fun userId sink found => ?_, fun earlier later userId callback sink split => ?_,
    fun earlier later self userId succeeded split => ?_, fun self gone unfailed => ?_⟩
  · have sound := Sound.run reached
    obtain ⟨holder, held, registered, _⟩ := sound.sinks userId sink found
    exact ⟨holder, held, sound.alive held registered, registered⟩
  · obtain ⟨old, before, first, rest, after, run, ⟨label, _, step⟩, rfl⟩ := Run.cut reached split
    obtain ⟨rfl, found⟩ := (step_moves step).dispatches rfl
    have sound := Sound.run run
    obtain ⟨holder, held, registered, _⟩ := sound.sinks userId sink found
    obtain ⟨joined, stays⟩ := sound.listens held registered
    rw [List.append_nil]
    refine ⟨joined, stays, fun gone => ?_⟩
    obtain ⟨other, same, ended⟩ := sound.destroyed sink gone
    rw [held] at same
    cases same
    exact sound.alive held registered ended
  · obtain ⟨old, before, first, rest, after, run, ⟨label, _, step⟩, rfl⟩ := Run.cut reached split
    obtain ⟨rfl, controller, phase, steps, held, next⟩ := (step_moves step).stops rfl
    have sound := Sound.run run
    rw [List.append_nil, ← registered_iff, ← unregistered_iff, ← feederStarted_iff, ← feederJoined_iff,
      sound.stops held next .sink (by simp), sound.stops held next .feeder (by simp)]
    exact ⟨id, id⟩
  · obtain ⟨returned, once⟩ := (Sound.run reached).returned gone
    rw [stops_lose unfailed]
    constructor
    · intro created
      have gained := created_iff.mpr created
      omega
    · intro absent
      have gained : ¬ 0 < past.countP (SessionObs.gains self .session) := fun gained => by
        obtain ⟨chat, shown⟩ := created_iff.mp gained
        exact absent chat shown
      omega

/-- A controller from its construction to its destruction, with a callback in between. -/
private def oneCall : List (SessionLabel Nat) :=
  .construct 0 42 [] false [] true :: .start 0 :: (List.replicate 9 (SessionLabel.advance 0 {}) ++
    .callback 42 .frames :: .destroy 0 :: List.replicate 5 (SessionLabel.advance 0 {}))

theorem destroyed_controller_stopped_once : ∃ past, ∃ sessions : Sessions Nat, Reaches Anything past sessions ∧
    .dispatched 42 .frames 0 ∈ past ∧ .destroyed 0 ∈ past ∧ past.countP (SessionObs.stops 0) = 1 := by
  have ran : (execute Sessions.step (fun _ _ _ => true) oneCall {}).any (fun result =>
      decide (.dispatched 42 .frames 0 ∈ result.2 ∧ .destroyed 0 ∈ result.2 ∧ .ntg 0 42 .createP2p true ∈ result.2) &&
        result.2.all fun obs => match obs with
          | .ntg _ _ .stop succeeded => succeeded
          | _ => true) = true := by decide +kernel
  obtain ⟨sessions, past, reached, found⟩ := execute_any ran
  obtain ⟨shown, succeeded⟩ := Bool.and_eq_true_iff.mp found
  obtain ⟨dispatched, destroyed, created⟩ := of_decide_eq_true shown
  have once := (controllers_are_torn_down reached).2.2.2 0 destroyed fun chat failed => by
    cases List.all_eq_true.mp succeeded _ failed
  exact ⟨past, sessions, reached, dispatched, destroyed, once.1 ⟨42, created⟩⟩

end Sessions
end Tg2Sip.Voip
