import Tg2Sip.Lib.Memo
import Tg2Sip.Proofs.Contacts
import Tg2Sip.Proofs.Outcomes

/-! Dials against a directory. While TDLib answers from one directory, the caches are a part of it, and whom a
dial calls and how it ends does not depend on them. -/

namespace Tg2Sip.Actions
open TdApi Lib

/-- The users that have a username or a phone number. -/
structure Directory where
  username : String → Option UserId
  phone : String → Option UserId
  /-- `importContacts` says 0 for a number that nobody has. -/
  nonzero : ∀ digits user, phone digits = some user → user ≠ 0

namespace Directory

def user (directory : Directory) : Target → Option UserId
  | .username name => directory.username name
  | .phone digits => directory.phone digits
  | .id user => some user

/-- The caches hold nothing else. -/
structure Agrees (directory : Directory) (cache : Cache) : Prop where
  usernames : ∀ name user, cache.usernameCache name = some user → directory.username name = some user
  phones : ∀ digits user, cache.phoneCache digits = some user → directory.phone digits = some user

/-- A user that `load_cache` is told of. -/
structure Lists (directory : Directory) (user : User) : Prop where
  username : ∀ name, user.editableUsername = some name → name ≠ "" → directory.username name = some user.id
  phone : user.phoneNumber ≠ "" → directory.phone user.phoneNumber = some user.id

end Directory

/-- A run of `DialTg`: the context of the bridge, and what TDLib and the clock say meanwhile. -/
structure Dial where
  ctx : Context
  env : Env

/-- TDLib answers the lookups without an error. The id of a private chat is the id of the user. -/
structure Directory.Answers (directory : Directory) (dial : Dial) : Prop where
  username : dial.ctx.extUsername ≠ "" → ∃ chat, dial.env.searchPublicChat = .ok chat ∧
    directory.username dial.ctx.extUsername = if chat.isPrivate = true then some chat.id else none
  phone : dial.ctx.extPhone ≠ "" → dial.env.importContacts = .ok [(directory.phone dial.ctx.extPhone).getD 0]

/-- What comes of a dial: the context, the errors that were queued, and the calls that were asked for. -/
structure Result where
  ctx : Context
  errors : List InternalEvent
  calls : List Obs

def result (final : Deps) :
    Time × Result := (final.blockUntil, ⟨final.ctx, final.internalEvents, final.seen.filter Obs.creates⟩)

/-- `DialTg` with nothing else in the world than the caches and the block. -/
def dialStep (settings : Settings) (cache : Cache) (blockUntil : Time) (dial : Dial) :
    Except Exception (Cache × Time × Result) :=
  (dialTg settings dial.env { cache, blockUntil, ctx := dial.ctx }).map fun final => (final.cache, result final)

/-- Dials one after another. -/
def dialAll (settings : Settings) (keep : Cache → Cache) (cache : Cache) (blockUntil : Time) (dials : List Dial) :
    Except Exception (Cache × Time × List Result) :=
  serve (dialStep settings) keep cache blockUntil dials

/-- What a dial can tell of its dependencies once it knows the user. -/
structure Alike (deps other : Deps) : Prop where
  ctx : other.ctx = deps.ctx
  blockUntil : other.blockUntil = deps.blockUntil
  errors : other.internalEvents = deps.internalEvents
  calls : other.seen.filter Obs.creates = deps.seen.filter Obs.creates

section
variable {settings : Settings} {env : Env} {deps other : Deps} {named : Target}

theorem Alike.blocked (alike : Alike deps other) (blockUntil : Time) :
    result { other with blockUntil } = result { deps with blockUntil } := by
  obtain ⟨ctx, _, errors, calls⟩ := alike
  simp only [result, ctx, errors, calls]

theorem Alike.result (alike : Alike deps other) : result other = result deps := by
  obtain ⟨ctx, blockUntil, errors, calls⟩ := alike
  simp only [Actions.result, ctx, blockUntil, errors, calls]

theorem parseError_alike (alike : Alike deps other) (error : Error) :
    (parseError settings env error other).map result = (parseError settings env error deps).map result := by
  unfold parseError
  split
  next digits found =>
    cases Text.stoi digits with
    | error thrown => rfl
    | ok seconds => exact congrArg Except.ok (alike.blocked _)
  next =>
    split
    next => exact congrArg Except.ok (alike.blocked _)
    next => exact congrArg Except.ok alike.result

theorem dialById_alike (alike : Alike deps other) (user : UserId) :
    (dialById settings env user other).map result = (dialById settings env user deps).map result := by
  obtain ⟨ctx, blockUntil, errors, calls⟩ := alike
  unfold dialById
  split
  next error refused =>
    apply parseError_alike
    exact ⟨by simp [Deps.query, Deps.observe, Deps.internalError, ctx],
      by simp [Deps.query, Deps.observe, Deps.internalError, blockUntil],
      by simp [Deps.query, Deps.observe, Deps.internalError, ctx, errors],
        by simp [Deps.query, Deps.observe, Deps.internalError, ctx, calls]⟩
  next id created =>
    simp [pure, Except.pure, Except.map, result, Deps.query, Deps.observe, ctx, blockUntil, errors, calls]

variable {directory : Directory} {dial : Dial} {user : UserId}

theorem Directory.Agrees.known {cache : Cache} (agrees : directory.Agrees cache)
    (known : named.known cache = some user) :
    directory.user named = some user := by
  cases named with
  | username name => exact agrees.usernames name user known
  | phone digits => exact agrees.phones digits user known
  | id => exact known

/-- The answer to a lookup is what the directory says. -/
theorem Directory.Answers.reply (answers : directory.Answers dial) (aimed : target dial.ctx = named) :
    (∀ user, directory.user named = some user → named.reply dial.env = .user user) ∧
      (directory.user named = none → ∃ prm, named.reply dial.env = .nobody prm) := by
  subst aimed
  unfold target
  split
  next named =>
    obtain ⟨chat, found, listed⟩ := answers.username named
    simp only [Directory.user, Target.reply, found, listed]
    split <;> simp
  next =>
    split
    next phoned =>
      simp only [Directory.user, Target.reply, answers.phone phoned]
      cases held : directory.phone dial.ctx.extPhone with
      | none => simp
      | some user => simp [directory.nonzero _ _ held]
    next => simp [Directory.user, Target.reply]

theorem pursue_user (agrees : directory.Agrees deps.cache) (told : named.reply env = .user user)
    (found : directory.user named = some user) :
    (pursue settings env named deps).map result = (dialById settings env user deps).map result := by
  unfold pursue
  split
  next other known =>
    cases found.symm.trans (agrees.known known)
    rfl
  next unknown unlooked => cases named <;> simp [Target.known, Target.lookup] at unknown unlooked
  next lookup unknown looked =>
    rw [told]
    apply dialById_alike
    exact ⟨rfl, rfl, rfl, by simp [Deps.query, Deps.observe, (named.lookup_looksUp looked _ _).2]⟩

theorem pursue_nobody {prm : Sip.CallOpParam} (agrees : directory.Agrees deps.cache)
    (told : named.reply env = .nobody prm) (missing : directory.user named = none) :
    (pursue settings env named deps).map result = .ok (result (deps.internalError prm)) := by
  unfold pursue
  split
  next other known => cases missing.symm.trans (agrees.known known)
  next unknown unlooked => cases named <;> simp [Target.known, Target.lookup] at unknown unlooked
  next lookup unknown looked =>
    rw [told]
    refine congrArg Except.ok (Alike.result ⟨rfl, rfl, rfl, ?_⟩)
    simp [Deps.query, Deps.observe, Deps.internalError, (named.lookup_looksUp looked _ _).2]

/-- Two dials that differ in what the caches know come to the same. -/
theorem dialStep_alike {cache copy : Cache} (agrees : directory.Agrees cache) (agreesToo : directory.Agrees copy)
    (answers : directory.Answers dial) (blockUntil : Time) :
    (dialStep settings cache blockUntil dial).map Prod.snd = (dialStep settings copy blockUntil dial).map Prod.snd := by
  have only : ∀ cache, (dialStep settings cache blockUntil dial).map Prod.snd =
      (dialTg settings dial.env { cache, blockUntil, ctx := dial.ctx }).map result := by
    intro cache
    unfold dialStep
    cases dialTg settings dial.env { cache, blockUntil, ctx := dial.ctx } <;> rfl
  rw [only, only]
  by_cases free : blockUntil ≤ dial.env.nowChecked
  · have pursues : ∀ cache, dialTg settings dial.env { cache, blockUntil, ctx := dial.ctx } =
        pursue settings dial.env (target dial.ctx) { cache, blockUntil, ctx := dial.ctx } :=
          fun cache => dialTg_pursues free
    rw [pursues, pursues]
    obtain ⟨someone, nobody⟩ := answers.reply rfl
    cases found : directory.user (target dial.ctx) with
    | some user =>
      rw [pursue_user agrees (someone user found) found, pursue_user agreesToo (someone user found) found]
      apply dialById_alike
      exact ⟨rfl, rfl, rfl, rfl⟩
    | none =>
      obtain ⟨prm, told⟩ := nobody found
      rw [pursue_nobody agrees told found, pursue_nobody agreesToo told found]
      rfl
  · have early : blockUntil > dial.env.nowChecked := Nat.not_le.mp free
    simp only [dialTg, early, if_true]
    rfl

theorem Directory.Agrees.empty (directory : Directory) : directory.Agrees {} where
  usernames _ _ held := by cases held
  phones _ _ held := by cases held

theorem Directory.Agrees.resolves {lookups : List Function} {cache later : Cache}
    (agrees : directory.Agrees cache) (answers : directory.Answers dial)
    (resolves : Resolves dial.env dial.ctx cache user lookups later) : directory.Agrees later := by
  cases resolves with
  | id | username | phone => exact agrees
  | chat named missed chat found isPrivate =>
    obtain ⟨other, again, listed⟩ := answers.username named
    cases found.symm.trans again
    rw [if_pos isPrivate] at listed
    exact ⟨Map.emplace_within agrees.usernames listed, agrees.phones⟩
  | contact unnamed phoned missed userId rest imported known =>
    have same := Except.ok.inj (imported.symm.trans (answers.phone phoned))
    rw [(List.cons.inj same).1] at known ⊢
    refine ⟨agrees.usernames, Map.emplace_within agrees.phones ?_⟩
    cases held : directory.phone dial.ctx.extPhone with
    | none => simp [held] at known
    | some user => rfl

theorem dialStep_learns {cache : Cache} {blockUntil : Time} {after : Cache × Time × Result}
    (agrees : directory.Agrees cache) (answers : directory.Answers dial)
    (ran : dialStep settings cache blockUntil dial = .ok after) : directory.Agrees after.1 := by
  unfold dialStep at ran
  cases dialed : dialTg settings dial.env { cache, blockUntil, ctx := dial.ctx } with
  | error thrown => rw [dialed] at ran; cases ran
  | ok final =>
    rw [dialed] at ran
    cases ran
    cases dialTg_dials dialed with
    | blocked | unfound | nobody => exact agrees
    | refused free target lookups later resolves => exact agrees.resolves answers resolves
    | created free target lookups later resolves => exact agrees.resolves answers resolves

end

/-- The caches that `load_cache` builds from users of the directory. -/
theorem Directory.Agrees.loaded {directory : Directory} {searchContacts : Answer (List UserId)}
    {responses : List (Answer User)} (lists : ∀ user, .ok user ∈ responses → directory.Lists user) :
    directory.Agrees (Gateway.loadCache {} searchContacts responses) := by
  unfold Gateway.loadCache
  split
  next => exact .empty directory
  next userIds =>
    obtain ⟨usernames, phones⟩ := Gateway.loadResponses_entries {} (responses.take userIds.length)
    have listed : ∀ user ∈ Gateway.accessible ((responses.take userIds.length).takeWhile Gateway.goesOn),
        directory.Lists user := by
      intro user member
      have inside := (List.takeWhile_sublist _).subset (Gateway.mem_accessible.mp member).1
      exact lists user ((List.take_sublist _ _).subset inside)
    have entered : ∀ {entries : List (String × UserId)} {key : String} {user : UserId},
        (Map.empty : Map String UserId).emplaceAll entries key = some user → (key, user) ∈ entries := by
      intro entries key user held
      have found := Map.emplaceAll_cases Map.empty entries key
      rw [held] at found
      exact found.resolve_left (by simp)
    constructor
    · intro name user held
      rw [usernames] at held
      obtain ⟨contact, member, named⟩ := List.mem_flatMap.mp (entered held)
      obtain ⟨same, nonempty, rfl⟩ := Gateway.mem_usernames.mp named
      exact (listed contact member).username name same nonempty
    · intro digits user held
      rw [phones] at held
      obtain ⟨contact, member, named⟩ := List.mem_flatMap.mp (entered held)
      obtain ⟨rfl, nonempty, rfl⟩ := Gateway.mem_phones.mp named
      exact (listed contact member).phone nonempty

/-- The caches never change who is called: the calls and the ends of any dials, from the caches that were
loaded, are those of the same dials with caches that are always empty. -/
theorem caches_never_change_who_is_called (settings : Settings) (directory : Directory)
    (searchContacts : Answer (List UserId)) (responses : List (Answer User))
    (lists : ∀ user, .ok user ∈ responses → directory.Lists user) (blockUntil : Time) (dials : List Dial)
    (answers : ∀ dial ∈ dials, directory.Answers dial) :
    (dialAll settings id (Gateway.loadCache {} searchContacts responses) blockUntil dials).map Prod.snd =
      (dialAll settings (fun _ => {}) {} blockUntil dials).map Prod.snd := by
  have alike : ∀ cache copy blockUntil dial, directory.Agrees cache → directory.Agrees copy → directory.Answers dial →
      (dialStep settings cache blockUntil dial).map Prod.snd = (dialStep settings copy blockUntil dial).map Prod.snd :=
    fun _ _ blockUntil _ agrees agreesToo answers => dialStep_alike agrees agreesToo answers blockUntil
  exact serve_alike alike (fun _ _ _ _ => dialStep_learns) (fun _ agrees => agrees) (fun _ _ => .empty directory)
    (.loaded lists) (.empty directory) blockUntil answers

private def phonebook : Directory where
  username name := if name = "bob" then some 42 else if name = "alice" then some 51 else none
  phone digits := if digits = "5550100" then some 51 else none
  nonzero := by
    intro digits user held
    split at held <;> cases held
    decide

private def alice : User := { id := 51, editableUsername := some "alice", phoneNumber := "5550100" }

/-- A contact by both of her entries, and a username that is looked up for the first dial and known for the second. -/
private def redial : List Dial :=
  [⟨{ id := 1, extUsername := "alice" }, Env.success 51 6 0⟩, ⟨{ id := 2, extPhone := "5550100" }, Env.success 51 7 0⟩,
    ⟨{ id := 3, extUsername := "bob" }, Env.success 42 8 0⟩, ⟨{ id := 4, extUsername := "bob" }, Env.success 42 9 0⟩]

theorem redial_calls_the_same : (Gateway.loadCache {} (.ok [51]) [.ok alice]).usernameCache "alice" = some 51 ∧
    (Gateway.loadCache {} (.ok [51]) [.ok alice]).phoneCache "5550100" = some 51 ∧
      (dialAll { callbackUri := "" } id (Gateway.loadCache {} (.ok [51]) [.ok alice]) 0 redial).map Prod.snd =
        (dialAll { callbackUri := "" } (fun _ => {}) {} 0 redial).map Prod.snd := by
  refine ⟨rfl, rfl, ?_⟩
  apply caches_never_change_who_is_called { callbackUri := "" } phonebook (.ok [51]) [.ok alice]
  · intro user member
    cases List.mem_singleton.mp member
    exact ⟨fun name same _ => by cases same; rfl, fun _ => rfl⟩
  · intro dial member
    simp only [redial, List.mem_cons, List.not_mem_nil, or_false] at member
    rcases member with rfl | rfl | rfl | rfl
    · exact ⟨fun _ => ⟨⟨51, true⟩, rfl, rfl⟩, fun phoned => absurd rfl phoned⟩
    · exact ⟨fun named => absurd rfl named, fun _ => rfl⟩
    · exact ⟨fun _ => ⟨⟨42, true⟩, rfl, rfl⟩, fun phoned => absurd rfl phoned⟩
    · exact ⟨fun _ => ⟨⟨42, true⟩, rfl, rfl⟩, fun phoned => absurd rfl phoned⟩

/-- What a dial adds to what was there before. -/
def extend (deps final : Deps) : Deps :=
  { deps with
    cache := final.cache, blockUntil := final.blockUntil, ctx := final.ctx
    internalEvents := deps.internalEvents ++ final.internalEvents, seen := deps.seen ++ final.seen }

section
variable {settings : Settings} {env : Env} (deps final : Deps)

theorem extend_query (name : ActionName) (function : Function) (succeeded : Bool) :
    (extend deps final).query name function succeeded = extend deps (final.query name function succeeded) := by
  simp [extend, Deps.query, Deps.observe]

theorem extend_internalError (prm : Sip.CallOpParam) :
    (extend deps final).internalError prm = extend deps (final.internalError prm) := by
  simp [extend, Deps.internalError]

theorem extend_parseError (error : Error) :
    parseError settings env error (extend deps final) = (parseError settings env error final).map (extend deps) := by
  have blocked : ∀ blockUntil, { extend deps final with blockUntil } = extend deps { final with blockUntil } :=
    fun _ => rfl
  unfold parseError
  split
  next digits found =>
    cases Text.stoi digits with
    | error thrown => rfl
    | ok seconds => exact congrArg Except.ok (blocked _)
  next =>
    split
    next => exact congrArg Except.ok (blocked _)
    next => rfl

theorem extend_dialById (user : UserId) :
    dialById settings env user (extend deps final) = (dialById settings env user final).map (extend deps) := by
  have aimed : { extend deps final with ctx.userId := user } = extend deps { final with ctx.userId := user } := rfl
  unfold dialById
  dsimp only
  rw [aimed]
  split
  next error refused =>
    unfold dialFailed
    rw [extend_query, extend_internalError, extend_parseError]
  next id created =>
    rw [extend_query]
    refine congrArg Except.ok ?_
    simp [extend, Deps.observe]

theorem extend_dialFailed (error : Error) :
    dialFailed settings env error (extend deps final) = (dialFailed settings env error final).map (extend deps) := by
  unfold dialFailed
  rw [extend_internalError, extend_parseError]

theorem extend_pursue (named : Target) :
    pursue settings env named (extend deps final) = (pursue settings env named final).map (extend deps) := by
  have same : (extend deps final).cache = final.cache := rfl
  unfold pursue
  rw [same]
  split
  next user known => exact extend_dialById deps final user
  next => rfl
  next lookup unknown looked =>
    rw [extend_query, extend_query]
    split
    next user told =>
      exact extend_dialById deps { final.query .dialTg lookup true with cache := named.store final.cache user } user
    next prm told => rw [extend_internalError]; rfl
    next error told => exact extend_dialFailed _ _ error
    next => rfl

/-- A dial sees of the world only the caches and the block. -/
theorem extend_dialTg :
    dialTg settings env (extend deps final) = (dialTg settings env final).map (extend deps) := by
  by_cases free : final.blockUntil ≤ env.nowChecked
  · have freeToo : (extend deps final).blockUntil ≤ env.nowChecked := free
    rw [dialTg_pursues free, dialTg_pursues freeToo]
    exact extend_pursue deps final _
  · have early : final.blockUntil > env.nowChecked := Nat.not_le.mp free
    have earlyToo : (extend deps final).blockUntil > env.nowChecked := early
    simp only [dialTg, early, earlyToo, if_true, extend_internalError]
    rfl

end
end Tg2Sip.Actions

namespace Tg2Sip.System
open TdApi Lib Actions

/-- The dials of a run, in their order, are dials one after another: nothing else that happens touches the
caches or the block. -/
theorem run_dials {settings : Settings} {allowed : Label → System → List Obs → Prop} {start system : System}
    {past : List Obs} (reached : Reaches settings allowed start past system) : ∃ dials results,
      dialAll settings id start.gateway.cache start.gateway.blockUntil dials =
        .ok (system.gateway.cache, system.gateway.blockUntil, results) ∧
      past.filter Obs.creates = results.flatMap Result.calls := by
  induction reached with
  | refl => exact ⟨[], [], rfl, rfl⟩
  | @tail past middle seen final before last ih =>
    obtain ⟨dials, results, served, calls⟩ := ih
    obtain ⟨label, _, step⟩ := last
    rcases step.ranDial with ⟨env, event, caller, popped, slot, after, looped, waiting, dial⟩ | ⟨same, others⟩
    · obtain ⟨_, _, shared⟩ := Popped.dial waiting dial.dialed
      obtain ⟨cache, blockUntil⟩ := Prod.mk.inj shared
      have ran := dial.ran
      have whole : ({ toWorld := popped.gateway.toWorld, ctx := slot.bridge.ctx, seen := [.action slot.bridge.ctx.id .dialTg] } : Deps) =
          extend { toWorld := popped.gateway.toWorld, ctx := slot.bridge.ctx, seen := [.action slot.bridge.ctx.id .dialTg] }
            { cache := middle.gateway.cache, blockUntil := middle.gateway.blockUntil, ctx := slot.bridge.ctx } := by
        simp only [extend, List.append_nil, ← cache, ← blockUntil]
      rw [whole, extend_dialTg] at ran
      cases alone : dialTg settings env { cache := middle.gateway.cache, blockUntil := middle.gateway.blockUntil, ctx := slot.bridge.ctx } with
      | error thrown => rw [alone] at ran; cases ran
      | ok bare =>
        rw [alone] at ran
        have extended := Except.ok.inj ran
        refine ⟨dials ++ [⟨slot.bridge.ctx, env⟩], results ++ [(result bare).2], ?_, ?_⟩
        · apply serve_snoc served
          simp only [dialStep, id, alone, dial.after, ← extended]
          rfl
        · rw [List.filter_append, calls, List.flatMap_append, dial.seen, ← extended]
          simp [extend, result, Obs.creates]
    · refine ⟨dials, results, ?_, ?_⟩
      · obtain ⟨cache, blockUntil⟩ := Prod.mk.inj same
        rw [cache, blockUntil, served]
      · have none : seen.filter Obs.creates = [] := by
          apply List.filter_eq_nil_iff.mpr
          intro obs shown creates
          have other := others obs shown
          unfold Obs.creates at creates
          split at creates
          next => cases other
          next => cases creates
        rw [List.filter_append, none, List.append_nil, calls]

end Tg2Sip.System
