import Tg2Sip.Proofs.Containment
import Tg2Sip.Proofs.Extensions

/-! What one dial comes to. Whatever the caches hold and TDLib answers, the bridge has its call or one
error, and the caches have at most learned who the extension is. -/

namespace Tg2Sip
open TdApi Lib

def Obs.looksUp : Obs → Bool
  | .query _ _ (.searchPublicChat _) _ | .query _ _ (.importContacts ..) _ => true
  | _ => false

def Obs.creates : Obs → Bool
  | .query _ _ (.createCall ..) _ => true
  | _ => false

@[simp] theorem Obs.looksUp_createCall (ctx : CtxId) (name : ActionName) (user : UserId)
    (protocol : CallProtocol) (video succeeded : Bool) :
    Obs.looksUp (.query ctx name (.createCall user protocol video) succeeded) = false := rfl

@[simp] theorem Obs.creates_createCall (ctx : CtxId) (name : ActionName) (user : UserId)
    (protocol : CallProtocol) (video succeeded : Bool) :
    Obs.creates (.query ctx name (.createCall user protocol video) succeeded) = true := rfl

namespace Actions

/-- TDLib returns one id for each contact, and asks to wait for a number of seconds that an `int` has. -/
structure Answers (env : Env) : Prop where
  one : ∀ users, env.importContacts = .ok users → users.length = 1
  fits : ∀ error, env.searchPublicChat = .error error ∨ env.importContacts = .error error ∨
    env.createCall = .error error → readable error

/-- The bridge has the call that TDLib created. -/
def Connected (settings : Settings) (env : Env) (deps final : Deps) (shown : List Obs) : Prop :=
  ∃ id user, env.createCall = .ok id ∧
    .query deps.ctx.id .dialTg (.createCall user (protocol settings env) false) true ∈ shown ∧
    final.ctx.tgCallId = id ∧ final.internalEvents = deps.internalEvents

/-- The bridge has one error. -/
def Failed (deps final : Deps) : Prop :=
  final.ctx.tgCallId = deps.ctx.tgCallId ∧ ∃ prm,
    final.internalEvents = deps.internalEvents ++ [.internalError deps.ctx.id prm]

/-- No entry changes, and the only one that can be new has the user that the target came to. -/
structure Learned (env : Env) (named : Target) (cache later : Cache) : Prop where
  usernames : ∀ name user, cache.usernameCache name = some user → later.usernameCache name = some user
  phones : ∀ digits user, cache.phoneCache digits = some user → later.phoneCache digits = some user
  newUsername : ∀ name user, later.usernameCache name = some user → cache.usernameCache name = some user ∨
    named = .username name ∧ cache.usernameCache name = none ∧ named.resolved env cache = some user
  newPhone : ∀ digits user, later.phoneCache digits = some user → cache.phoneCache digits = some user ∨
    named = .phone digits ∧ cache.phoneCache digits = none ∧ named.resolved env cache = some user

structure OneOutcome (settings : Settings) (env : Env) (named : Target) (deps final : Deps) (shown : List Obs) :
    Prop where
  seen : final.seen = deps.seen ++ shown
  ends : Xor (Connected settings env deps final shown) (Failed deps final)
  lookups : shown.filter Obs.looksUp = [] ∨ ∃ lookup succeeded, named.known deps.cache = none ∧
    named.lookup = some lookup ∧ shown.filter Obs.looksUp = [.query deps.ctx.id .dialTg lookup succeeded]
  calls : shown.filter Obs.creates = [] ∨ ∃ user succeeded, named.resolved env deps.cache = some user ∧
    shown.filter Obs.creates = [.query deps.ctx.id .dialTg (.createCall user (protocol settings env) false) succeeded]
  learned : Learned env named deps.cache final.cache

section
variable {settings : Settings} {env : Env} {named : Target} {deps before final : Deps} {user : UserId}
  {lookups : List Function}

theorem Learned.refl (cache : Cache) : Learned env named cache cache :=
  ⟨fun _ _ held => held, fun _ _ held => held, fun _ _ held => .inl held, fun _ _ held => .inl held⟩

theorem Learned.store {cache : Cache} (unknown : named.known cache = none)
    (resolved : named.resolved env cache = some user) :
    Learned env named cache (named.store cache user) := by
  have stays : ∀ {map : Map String UserId} {key other : String} {old : UserId}, map key = none → map other = some old →
      map.emplace key user other = some old := by
    intro map key other old missed held
    rwa [Map.emplace_other map user (fun same => by rw [same, missed] at held; cases held)]
  have learns : ∀ {map : Map String UserId} {key other : String} {new : UserId}, map key = none →
    map.emplace key user other = some new →
      map other = some new ∨ key = other ∧ map other = none ∧ user = new := by
    intro map key other new missed held
    by_cases same : other = key
    · subst same
      rw [Map.emplace_same, missed] at held
      exact .inr ⟨rfl, missed, Option.some.inj held⟩
    · rw [Map.emplace_other map user same] at held
      exact .inl held
  cases named with
  | username name =>
    refine ⟨fun _ _ => stays unknown, fun _ _ held => held, fun other new held => ?_, fun _ _ held => .inl held⟩
    refine (learns unknown held).imp_right ?_
    intro ⟨same, missed, told⟩
    exact ⟨congrArg _ same, missed, told ▸ resolved⟩
  | phone digits =>
    refine ⟨fun _ _ held => held, fun _ _ => stays unknown, fun _ _ held => .inl held, fun other new held => ?_⟩
    refine (learns unknown held).imp_right ?_
    intro ⟨same, missed, told⟩
    exact ⟨congrArg _ same, missed, told ▸ resolved⟩
  | id user => cases unknown

theorem Target.lookup_looksUp {lookup : Function} (found : named.lookup = some lookup) (ctx : CtxId)
    (succeeded : Bool) :
    Obs.looksUp (.query ctx .dialTg lookup succeeded) = true ∧
      Obs.creates (.query ctx .dialTg lookup succeeded) = false := by
  cases named <;> cases found <;> exact ⟨rfl, rfl⟩

theorem Calls.ends (calls : Calls settings env user before final) : ∃ succeeded rest,
    final.seen = before.seen ++
      .query before.ctx.id .dialTg (.createCall user (protocol settings env) false) succeeded :: rest ∧
      rest.filter Obs.looksUp = [] ∧ rest.filter Obs.creates = [] ∧ final.cache = before.cache ∧
      (succeeded = true ∧ env.createCall = .ok final.ctx.tgCallId ∧ final.internalEvents = before.internalEvents ∨
        succeeded = false ∧ Failed before final) := by
  cases calls with
  | created id answer => exact ⟨true, _, rfl, rfl, rfl, rfl, .inl ⟨rfl, answer, rfl⟩⟩
  | refused error answer => exact ⟨false, [], rfl, rfl, rfl, rfl, .inr ⟨rfl, rfl, _, rfl⟩⟩

/-- A queued error tells the two ends apart. -/
theorem Failed.not_connected {shown : List Obs} (failed : Failed deps final) :
    ¬ Connected settings env deps final shown := by
  obtain ⟨_, prm, queued⟩ := failed
  intro ⟨_, _, _, _, _, quiet⟩
  simp [queued] at quiet

/-- A dial that knew its user, or was told it. -/
private theorem Calls.outcome (calls : Calls settings env user before final)
    (resolved : named.resolved env deps.cache = some user)
    (looked : lookups = [] ∨ ∃ lookup, named.known deps.cache = none ∧ named.lookup = some lookup ∧ lookups = [lookup])
    (asked : before.seen = deps.seen ++ Actions.asked deps.ctx.id lookups) (same : before.ctx = deps.ctx)
    (events : before.internalEvents = deps.internalEvents)
    (learned : Learned env named deps.cache before.cache) :
    ∃ shown, OneOutcome settings env named deps final shown := by
  obtain ⟨succeeded, rest, seen, unlooked, uncreated, cache, ends⟩ := calls.ends
  rw [asked, same, List.append_assoc] at seen
  refine ⟨_, seen, ?_, ?_, .inr ⟨user, succeeded, resolved, ?_⟩, cache ▸ learned⟩
  · rcases ends with ⟨rfl, created, quiet⟩ | ⟨rfl, failed⟩
    · refine .inl ⟨⟨_, user, created, by simp, rfl, quiet.trans events⟩, ?_⟩
      intro ⟨_, prm, queued⟩
      simp [quiet, events] at queued
    · have failed : Failed deps final := by unfold Failed at failed ⊢; rwa [← same, ← events]
      exact .inr ⟨failed, failed.not_connected⟩
  · rw [List.filter_append, List.filter_cons, unlooked]
    rcases looked with rfl | ⟨lookup, unknown, found, rfl⟩
    · exact .inl (by simp [Actions.asked])
    · refine .inr ⟨lookup, true, unknown, found, ?_⟩
      simp [Actions.asked, (named.lookup_looksUp found _ _).1]
  · rw [List.filter_append, List.filter_cons, uncreated]
    rcases looked with rfl | ⟨lookup, unknown, found, rfl⟩
    · simp [Actions.asked]
    · simp [Actions.asked, (named.lookup_looksUp found _ _).2]

/-- A dial whose lookup named nobody. -/
private theorem outcome_in_vain {lookup : Function} {succeeded : Bool} {prm : Sip.CallOpParam} (blockUntil : Time)
    (unknown : named.known deps.cache = none) (found : named.lookup = some lookup) :
    ∃ shown, OneOutcome settings env named deps
      { (deps.query .dialTg lookup succeeded).internalError prm with blockUntil } shown := by
  obtain ⟨looks, creates⟩ := named.lookup_looksUp found deps.ctx.id succeeded
  have failed : Failed deps { (deps.query .dialTg lookup succeeded).internalError prm with blockUntil } :=
    ⟨rfl, prm, rfl⟩
  refine ⟨_, rfl, .inr ⟨failed, failed.not_connected⟩, .inr ⟨lookup, succeeded, unknown, found, ?_⟩, .inl ?_, .refl _⟩
  · simp [looks]
  · simp [creates]

theorem dialError_answers {world : World} {ctx : Context} {error : Error}
    (received : dialError env world ctx = some error) :
    env.searchPublicChat = .error error ∨ env.importContacts = .error error ∨ env.createCall = .error error := by
  unfold dialError at received
  split at received
  next answer aimed =>
    subst received
    unfold dialTarget at aimed
    split at aimed
    next =>
      split at aimed
      next => cases aimed
      next other _ refused => cases aimed; exact .inl refused
      next => split at aimed <;> cases aimed
    next =>
      split at aimed
      next =>
        split at aimed
        next => cases aimed
        next other _ refused => cases aimed; exact .inr (.inl refused)
        next => split at aimed <;> cases aimed
      next => cases aimed
  next =>
    split at received
    next other refused => cases received; exact .inr (.inr refused)
    next => cases received

/-- The errors that reach `parse_error` were answers. -/
theorem Answers.caught (answers : Answers env) (world : World) (ctx : Context) :
    ¬ Uncaught settings env world ctx .dialTg := by
  intro uncaught
  cases uncaught with
  | nobody free empty => cases answers.one _ empty.2.2.2
  | delay free error received unreadable =>
    exact unreadable (answers.fits error (dialError_answers received))

/-- Every dial has one outcome: the call that TDLib created, or one error. It looks up at most the extension,
unless it is known, creates at most one call, to the user that the extension came to, and the caches learn at
most that user. -/
theorem dial_has_one_outcome {ext : String} {origin : Context} (names : Names ext named) (blank : Blank origin)
    (accepted : deps.ctx = named.record origin) (answers : Answers env) :
    ∃ final shown, dialTg settings env deps = .ok final ∧ OneOutcome settings env named deps final shown := by
  have caught : ¬ Uncaught settings env deps.toWorld deps.ctx .dialTg := answers.caught _ _
  obtain ⟨final, ran⟩ := dialTg_returns.mpr caught
  suffices ∃ shown, OneOutcome settings env named deps final shown from ⟨final, this.choose, ran, this.choose_spec⟩
  by_cases free : deps.blockUntil ≤ env.nowChecked
  · rw [dialTg_pursues free, accepted, names.target_record blank] at ran
    unfold pursue at ran
    split at ran
    next user known =>
      exact (dialById_calls ran).outcome (by simp [Target.resolved, known]) (.inl rfl) (by simp [asked])
        rfl rfl (.refl _)
    next unknown unlooked => cases named <;> simp [Target.known, Target.lookup] at unknown unlooked
    next lookup unknown found =>
      split at ran
      next user told =>
        have resolved : named.resolved env deps.cache = some user := by simp [Target.resolved, unknown, told]
        exact (dialById_calls ran).outcome resolved (.inr ⟨lookup, unknown, found, rfl⟩) rfl rfl rfl
          (.store unknown resolved)
      next prm told =>
        cases ran
        exact outcome_in_vain deps.blockUntil unknown found
      next error told =>
        obtain ⟨rfl, _⟩ := parseError_ok ran
        exact outcome_in_vain _ unknown found
      next => cases ran
  · unfold dialTg at ran
    rw [if_pos (Nat.not_le.mp free)] at ran
    cases ran
    have failed : ∀ prm, Failed deps (deps.internalError prm) := fun prm => ⟨rfl, prm, rfl⟩
    exact ⟨[], by simp [Deps.internalError], .inr ⟨failed _, (failed _).not_connected⟩, .inl rfl, .inl rfl, .refl _⟩

/-- A call to a phone number that is not in the cache, and whose user cannot be called. -/
theorem refused_call_has_one_outcome : ∃ final shown,
    dialTg { callbackUri := "" } { Env.success 42 7 0 with createCall := .error ⟨403, "USER_PRIVACY_RESTRICTED"⟩ }
      { ctx := (Target.phone "100").record { id := 1 } } = .ok final ∧
    OneOutcome { callbackUri := "" } { Env.success 42 7 0 with createCall := .error ⟨403, "USER_PRIVACY_RESTRICTED"⟩ }
      (.phone "100") { ctx := (Target.phone "100").record { id := 1 } } final shown := by
  apply dial_has_one_outcome (.phone "100" (by decide) (by decide)) ⟨rfl, rfl⟩ rfl
  constructor
  · intro users same
    cases same
    rfl
  · intro error answer digits found
    rcases answer with answer | answer | answer
    · cases answer
    · cases answer
    · cases answer
      cases (show Text.searchDigitsAfter delayPattern "USER_PRIVACY_RESTRICTED".toList =
        none by decide +kernel).symm.trans found

end
end Actions
end Tg2Sip
