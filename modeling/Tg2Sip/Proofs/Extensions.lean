import Tg2Sip.Proofs.Bridges
import Tg2Sip.Proofs.FloodBlock

/-! Extensions. The gateway accepts three kinds of them and records the target in the context of the bridge;
the dialer finds out the kind from the fields that are not empty. -/

namespace Tg2Sip.Actions
open TdApi Lib

/-- Whom an extension names. -/
inductive Target where
  | username (name : String)
  | phone (digits : String)
  | id (user : UserId)
  deriving DecidableEq, Repr

/-- The extensions there are. -/
inductive Names : String → Target → Prop where
  | username (name : String) (nonempty : name ≠ "") : Names ("tg#" ++ name) (.username name)
  | phone (digits : String) (nonempty : digits ≠ "") (decimal : Text.isDigits digits.toList = true) :
      Names ("+" ++ digits) (.phone digits)
  | id (digits : String) (nonempty : digits ≠ "") (decimal : Text.isDigits digits.toList = true)
      (bounded : Text.decimal digits.toList < 2 ^ 63) : Names digits (.id (Text.decimal digits.toList))

/-- The context that has accepted a target. -/
def Target.record (ctx : Context) : Target → Context
  | .username name => { ctx with extUsername := name }
  | .phone digits => { ctx with extPhone := digits }
  | .id user => { ctx with userId := user }

/-- The target that `DialTg` goes for. -/
def target (ctx : Context) : Target :=
  if ctx.extUsername ≠ "" then .username ctx.extUsername
  else if ctx.extPhone ≠ "" then .phone ctx.extPhone
  else .id ctx.userId

/-- Nothing is recorded yet. -/
def Blank (ctx : Context) : Prop := ctx.extUsername = "" ∧ ctx.extPhone = ""

section Grammar
variable {ext : String} {named : Target} {ctx final : Context}

theorem Names.target_record (names : Names ext named) (blank : Blank ctx) : target (named.record ctx) = named := by
  obtain ⟨unnamed, unphoned⟩ := blank
  cases names with
  | username name nonempty => simp [Target.record, target, nonempty]
  | phone digits nonempty decimal => simp [Target.record, target, unnamed, nonempty]
  | id digits nonempty decimal bounded => simp [Target.record, target, unnamed, unphoned]

/-- No text of digits starts like the other two kinds. -/
private theorem digits_head {char : Char} {chars text : List Char} (decimal : Text.isDigits text = true)
    (same : text = char :: chars) :
    char.isDigit = true := by
  rw [same] at decimal
  exact (Bool.and_eq_true_iff.mp decimal).1

private theorem ofList_nonempty {chars : List Char} (nonempty : chars ≠ []) : String.ofList chars ≠ "" := by
  intro empty
  exact nonempty (by simpa using congrArg String.toList empty)

theorem Names.parsed (names : Names ext named) (ctx : Context) : parseExtension ext ctx = some (named.record ctx) := by
  unfold parseExtension
  cases names with
  | username name nonempty =>
    have long : 0 < name.toList.length := List.length_pos_iff.mpr (by simpa using nonempty)
    simp [long, Target.record]
  | phone digits nonempty decimal =>
    have long : 0 < digits.toList.length := List.length_pos_iff.mpr (by simpa using nonempty)
    simp [long, Target.record, decimal]
  | id _ nonempty decimal bounded =>
    cases text : ext.toList with
    | nil => exact absurd (String.toList_inj.mp text) nonempty
    | cons char chars =>
      have digit := digits_head decimal text
      have unnamed : char ≠ 't' := by rintro rfl; cases digit
      have unplussed : char ≠ '+' := by rintro rfl; cases digit
      rw [text] at decimal bounded
      have read : Text.stol (char :: chars) = .ok (Text.decimal (char :: chars)) := by
        unfold Text.stol Text.parseBounded
        rw [if_neg (by simp), if_pos (by omega)]
      simp [unnamed, unplussed, decimal, read, Target.record]

theorem parseExtension_names (valid : parseExtension ext ctx = some final) :
    ∃ named, Names ext named ∧ final = named.record ctx := by
  unfold parseExtension at valid
  dsimp only at valid
  split at valid
  next prefixed =>
    obtain ⟨long, prefixed⟩ := prefixed
    cases valid
    refine ⟨.username (String.ofList (ext.toList.drop 3)), ?_, rfl⟩
    have names := Names.username (String.ofList (ext.toList.drop 3)) (ofList_nonempty (by simp; omega))
    have whole : "tg#" ++ String.ofList (ext.toList.drop 3) = ext := by
      apply String.toList_inj.mp
      rw [String.toList_append, ← prefixed, String.toList_ofList, List.take_append_drop]
    rwa [whole] at names
  next =>
    split at valid
    next plus =>
      obtain ⟨long, plus, decimal⟩ := plus
      cases valid
      refine ⟨.phone (String.ofList (ext.toList.drop 1)), ?_, rfl⟩
      have names :=
        Names.phone (String.ofList (ext.toList.drop 1)) (ofList_nonempty (by rw [ne_eq, List.drop_eq_nil_iff]; omega))
          (by simpa using decimal)
      have whole : "+" ++ String.ofList (ext.toList.drop 1) = ext := by
        apply String.toList_inj.mp
        cases text : ext.toList with
        | nil => simp [text] at plus
        | cons char chars => simp [text] at plus; simp [plus]
      rwa [whole] at names
    next =>
      split at valid
      next decimal =>
        split at valid
        next number read =>
          cases valid
          unfold Text.stol Text.parseBounded at read
          split at read
          next => cases read
          next nonempty =>
            split at read
            next bounded =>
              cases read
              exact ⟨_, .id ext (by simpa using nonempty) decimal (by omega), rfl⟩
            next => cases read
        next => cases valid
      next => cases valid

/-- An extension names at most one target. -/
theorem Names.unique {other : Target} (names : Names ext named) (others : Names ext other) : other = named := by
  have blank : Blank { id := 0 } := ⟨rfl, rfl⟩
  have same := Option.some.inj ((names.parsed { id := 0 }).symm.trans (others.parsed { id := 0 }))
  rw [← names.target_record blank, ← others.target_record blank, same]

variable {env : Env} {deps : Deps}

/-- The SIP call of an extension that names a target is put in ringing mode, with the target recorded. -/
theorem Names.accepted (names : Names ext named) : acceptIncomingSip env ext deps =
    guarded .acceptIncomingSip (.answer deps.ctx.sipCallId { statusCode := ringing })
      (deps.sip.answer deps.ctx.sipCallId env.answer) { deps with ctx := named.record deps.ctx } := by
  unfold acceptIncomingSip
  rw [names.parsed]
  cases named <;> rfl

theorem unnamed_rejected (unnamed : ∀ named, ¬ Names ext named) :
    acceptIncomingSip env ext deps = .ok (deps.internalError { statusCode := badExtension }) := by
  have invalid : parseExtension ext deps.ctx = none := by
    apply Option.eq_none_iff_forall_ne_some.mpr
    intro final valid
    obtain ⟨named, names, _⟩ := parseExtension_names valid
    exact unnamed named names
  unfold acceptIncomingSip
  rw [invalid]
  rfl

end Grammar

section Dialer

/-- The user that is known for a target without a lookup. -/
def Target.known (cache : Cache) : Target → Option UserId
  | .username name => cache.usernameCache name
  | .phone digits => cache.phoneCache digits
  | .id user => some user

def Target.lookup : Target → Option Function
  | .username name => some (.searchPublicChat name)
  | .phone digits => some (.importContacts digits digits)
  | .id _ => none

def Target.store (cache : Cache) (user : UserId) : Target → Cache
  | .username name => { cache with usernameCache := cache.usernameCache.emplace name user }
  | .phone digits => { cache with phoneCache := cache.phoneCache.emplace digits user }
  | .id _ => cache

/-- What the answer to a lookup comes to. -/
inductive Reply where
  | user (id : UserId)
  | nobody (prm : Sip.CallOpParam)
  | refused (error : Error)
  | empty

def Target.reply (env : Env) : Target → Reply
  | .username _ =>
    match env.searchPublicChat with
    | .error error => .refused error
    | .ok chat =>
      if chat.isPrivate = true then .user chat.id
      else .nobody { statusCode := internalServerError, reason := "not a user" }
  | .phone _ =>
    match env.importContacts with
    | .error error => .refused error
    | .ok [] => .empty
    | .ok (user :: _) =>
      if user = 0 then .nobody { statusCode := notFound, reason := "not registered in telegram" } else .user user
  | .id user => .user user

/-- The three ways to dial are one: the user is known or looked up, and a call to the user is created. -/
def pursue (settings : Settings) (env : Env) (named : Target) (deps : Deps) : Except Exception Deps :=
  match named.known deps.cache, named.lookup with
  | some user, _ => dialById settings env user deps
  | none, none => pure deps
  | none, some lookup =>
    match named.reply env with
    | .user user =>
      dialById settings env user { deps.query .dialTg lookup true with cache := named.store deps.cache user }
    | .nobody prm => pure ((deps.query .dialTg lookup true).internalError prm)
    | .refused error => dialFailed settings env error (deps.query .dialTg lookup false)
    | .empty => .error .undefinedBehaviour

variable {settings : Settings} {env : Env} {deps : Deps}

theorem dialTg_pursues (free : deps.blockUntil ≤ env.nowChecked) :
    dialTg settings env deps = pursue settings env (target deps.ctx) deps := by
  unfold dialTg
  rw [if_neg (Nat.not_lt.mpr free)]
  unfold target
  split
  next named =>
    unfold dialByUsername pursue
    simp only [Target.known, Target.lookup, Target.reply]
    cases deps.cache.usernameCache deps.ctx.extUsername with
    | some user => rfl
    | none =>
      cases env.searchPublicChat with
      | error error => rfl
      | ok chat =>
        dsimp only
        split <;> rfl
  next =>
    split
    next phoned =>
      unfold dialByPhone pursue
      simp only [Target.known, Target.lookup, Target.reply]
      cases deps.cache.phoneCache deps.ctx.extPhone with
      | some user => rfl
      | none =>
        cases env.importContacts with
        | error error => rfl
        | ok users =>
          cases users with
          | nil => rfl
          | cons user users =>
            dsimp only
            split <;> rfl
    next => rfl

/-- How a dial that has found its user ends. -/
inductive Calls (settings : Settings) (env : Env) (user : UserId) (deps : Deps) : Deps → Prop where
  | created (id : TgCallId) (answer : env.createCall = .ok id) :
      Calls settings env user deps
        { deps with
          ctx.userId := user, ctx.tgCallId := id
          seen := deps.seen ++ [.query deps.ctx.id .dialTg (.createCall user (protocol settings env) false) true,
            .associated deps.ctx.id .dialTg (.tg id)] }
  | refused (error : Error) (answer : env.createCall = .error error) :
      Calls settings env user deps
        { deps with
          ctx.userId := user
          seen := deps.seen ++ [.query deps.ctx.id .dialTg (.createCall user (protocol settings env) false) false]
          internalEvents := deps.internalEvents ++ [.internalError deps.ctx.id (errorPrm error)]
          blockUntil := blocks settings env error deps.blockUntil }

variable {user : UserId} {named : Target} {final : Deps}

theorem dialById_calls (ran : dialById settings env user deps = .ok final) : Calls settings env user deps final := by
  unfold dialById at ran
  split at ran
  next error answer =>
    obtain ⟨rfl, _⟩ := parseError_ok ran
    exact .refused error answer
  next id answer =>
    cases ran
    have calls : Calls settings env user deps _ := .created id answer
    simpa [Deps.query, Deps.observe] using calls

/-- The user that a target comes to: known, or named by the answer to the lookup. -/
def Target.resolved (env : Env) (cache : Cache) (named : Target) : Option UserId :=
  match named.known cache, named.reply env with
  | some user, _ => some user
  | none, .user user => some user
  | none, _ => none

/-- A dial goes for a target: it asks for nothing else, and for all that it needs. -/
structure Pursued (settings : Settings) (env : Env) (named : Target) (world : World) (ctx : CtxId)
    (shown : List Obs) : Prop where
  asked : ∀ who name function succeeded, .query who name function succeeded ∈ shown → who = ctx ∧
    (named.known world.cache = none ∧ named.lookup = some function ∨
      ∃ user, named.resolved env world.cache = some user ∧ function = .createCall user (protocol settings env) false)
  looked : world.blockUntil ≤ env.nowChecked → named.known world.cache = none →
    ∃ lookup succeeded, named.lookup = some lookup ∧ .query ctx .dialTg lookup succeeded ∈ shown
  called : world.blockUntil ≤ env.nowChecked → ∀ user, named.resolved env world.cache = some user →
    ∃ succeeded, .query ctx .dialTg (.createCall user (protocol settings env) false) succeeded ∈ shown

theorem Calls.seen (calls : Calls settings env user deps final) : ∃ succeeded rest,
    final.seen = deps.seen ++
      .query deps.ctx.id .dialTg (.createCall user (protocol settings env) false) succeeded :: rest ∧
      ∀ who name function succeeded, .query who name function succeeded ∉ rest := by
  cases calls with
  | created id answer => exact ⟨true, _, rfl, by simp⟩
  | refused error answer => exact ⟨false, [], rfl, by simp⟩

/-- A dial that knew its user, or was told it. -/
private theorem Calls.pursued {world : World} {before : Deps} {lookups : List Function}
    (calls : Calls settings env user before final) (resolved : named.resolved env world.cache = some user)
    (looked : named.known world.cache ≠ none ∧ lookups = [] ∨
      ∃ lookup, named.known world.cache = none ∧ named.lookup = some lookup ∧ lookups = [lookup])
    (asked : before.seen = deps.seen ++ Actions.asked deps.ctx.id lookups) (same : before.ctx.id = deps.ctx.id) :
    ∃ shown, final.seen = deps.seen ++ shown ∧ Pursued settings env named world deps.ctx.id shown := by
  obtain ⟨succeeded, rest, seen, quiet⟩ := calls.seen
  rw [asked, same, List.append_assoc] at seen
  refine ⟨_, seen, ?_, ?_, ?_⟩
  · intro who name function answered member
    rcases List.mem_append.mp member with before | member
    · obtain ⟨lookup, held, shown⟩ := List.mem_map.mp before
      cases shown
      rcases looked with ⟨_, rfl⟩ | ⟨lookup, unknown, found, rfl⟩
      · cases held
      · cases List.mem_singleton.mp held
        exact ⟨rfl, .inl ⟨unknown, found⟩⟩
    · rcases List.mem_cons.mp member with shown | member
      · cases shown
        exact ⟨rfl, .inr ⟨user, resolved, rfl⟩⟩
      · exact absurd member (quiet _ _ _ _)
  · intro _ unknown
    rcases looked with ⟨known, _⟩ | ⟨lookup, _, found, rfl⟩
    · exact absurd unknown known
    · exact ⟨lookup, true, found, by simp [Actions.asked]⟩
  · intro _ other again
    cases resolved.symm.trans again
    exact ⟨succeeded, by simp⟩

/-- A dial whose lookup named nobody. -/
private theorem pursued_in_vain {world : World} {ctx : CtxId} {lookup : Function} {succeeded : Bool}
    (unknown : named.known world.cache = none) (found : named.lookup = some lookup)
    (unresolved : named.resolved env world.cache = none) :
    Pursued settings env named world ctx [.query ctx .dialTg lookup succeeded] where
  asked who name function answered member := by
    cases List.mem_singleton.mp member
    exact ⟨rfl, .inl ⟨unknown, found⟩⟩
  looked _ _ := ⟨lookup, succeeded, found, by simp⟩
  called _ user resolved := by cases unresolved.symm.trans resolved

theorem dialTg_pursued (ran : dialTg settings env deps = .ok final) :
    ∃ shown, final.seen = deps.seen ++ shown ∧
      Pursued settings env (target deps.ctx) deps.toWorld deps.ctx.id shown := by
  by_cases free : deps.blockUntil ≤ env.nowChecked
  · rw [dialTg_pursues free] at ran
    generalize target deps.ctx = named at ran ⊢
    unfold pursue at ran
    split at ran
    next user known =>
      exact (dialById_calls ran).pursued (by simp [Target.resolved, known]) (.inl ⟨by simp [known], rfl⟩)
        (by simp [asked]) rfl
    next unknown unlooked => cases named <;> simp [Target.known, Target.lookup] at unknown unlooked
    next lookup unknown found =>
      split at ran
      next user told =>
        exact (dialById_calls ran).pursued (by simp [Target.resolved, unknown, told])
          (.inr ⟨lookup, unknown, found, rfl⟩) rfl rfl
      next prm told =>
        cases ran
        exact ⟨_, rfl, pursued_in_vain unknown found (by simp [Target.resolved, unknown, told])⟩
      next error told =>
        obtain ⟨rfl, _⟩ := parseError_ok ran
        exact ⟨_, rfl, pursued_in_vain unknown found (by simp [Target.resolved, unknown, told])⟩
      next => cases ran
  · unfold dialTg at ran
    rw [if_pos (Nat.not_le.mp free)] at ran
    cases ran
    exact ⟨[], by simp [Deps.internalError], by simp, fun now => absurd now free, fun now => absurd now free⟩

/-- The step in which a machine dials begins with the dial. -/
theorem Pursued.cons {world : World} {ctx number : CtxId} {name : ActionName} {shown : List Obs}
    (pursued : Pursued settings env named world ctx shown) :
    Pursued settings env named world ctx (.action number name :: shown) where
  asked who name function succeeded member := pursued.asked who name function succeeded (by simpa using member)
  looked free unknown := by
    obtain ⟨lookup, succeeded, found, sent⟩ := pursued.looked free unknown
    exact ⟨lookup, succeeded, found, by simp [sent]⟩
  called free user resolved := by
    obtain ⟨succeeded, sent⟩ := pursued.called free user resolved
    exact ⟨succeeded, by simp [sent]⟩

/-- Only the caches and the block matter. -/
theorem Pursued.congr {world other : World} {ctx : CtxId} {shown : List Obs}
    (pursued : Pursued settings env named world ctx shown) (same : other.dialing = world.dialing) :
    Pursued settings env named other ctx shown := by
  obtain ⟨cache, blockUntil⟩ := Prod.mk.inj same
  constructor
  · rw [cache]; exact pursued.asked
  · rw [cache, blockUntil]; exact pursued.looked
  · rw [cache, blockUntil]; exact pursued.called

theorem Dials.action {number : CtxId} {name : ActionName} (dials : Dials settings env deps final)
    (acted : .action number name ∈ final.seen) : .action number name ∈ deps.seen := by
  cases dials <;> simpa [Deps.internalError, Deps.query, Deps.observe, asked] using acted

end Dialer
end Tg2Sip.Actions

namespace Tg2Sip
open TdApi Lib StateMachine Actions

/-- A bridge that has not dialed yet has the context of the extension it accepted. -/
def Bridge.Expects (accepted : Context) (bridge : Bridge) : Prop :=
  bridge.ctx.id = accepted.id → bridge.control = .fromSip .sipWaitConfirm → bridge.ctx = accepted

theorem Handles.expects {settings : Settings} {env : Env} {offered : StateMachine.Event}
    {control target : Control} {ctx final accepted : Context} {errors : List InternalEvent} {deeds : List Obs}
    (handles : Handles settings env offered control ctx target final errors deeds)
    (composite : control.composite = true) (expects : Bridge.Expects accepted ⟨control, ctx⟩) :
    Bridge.Expects accepted ⟨target, final⟩ := by
  cases handles with
  | dropped ignored => exact expects
  | taken transition effects =>
    intro _ waiting
    cases transition with
    | accept id ext => cases composite
    | dtmf control dtmf message digits => rw [show control = .fromSip .sipWaitConfirm from waiting] at dtmf; cases dtmf
    | _ => cases waiting

/-- A new bridge that ran `AcceptIncomingSip` on an extension that names a target has recorded the target. -/
theorem Handles.accepts_target {settings : Settings} {env : Env} {offered : Sip.Event} {target : Control}
    {number : CtxId} {sip : Sip.CallId} {ext : String} {named : Target} {final : Context}
    {errors : List InternalEvent} {deeds : List Obs}
    (handles : Handles settings env (.sip offered) .init { id := number } target final errors deeds)
    (incoming : offered = .incomingCall sip ext) (names : Names ext named) :
    target = .fromSip .sipWaitConfirm ∧ final = named.record { id := number, sipCallId := sip } := by
  subst incoming
  cases handles with
  | dropped ignored => exact absurd ignored (init_takes (.inr ⟨_, rfl⟩))
  | taken transition effects =>
    cases transition with
    | accept _ _ =>
      obtain ⟨_, _, _, _, _, stored, accepted, _, _⟩ := effects.two
      cases stored
      have parsed := names.parsed { id := number, sipCallId := sip }
      cases accepted with
      | rang _ ctx final valid => exact ⟨rfl, Option.some.inj (valid.symm.trans parsed)⟩
      | silent _ ctx final prm valid => exact ⟨rfl, Option.some.inj (valid.symm.trans parsed)⟩
      | badExtension _ ctx invalid => cases invalid.symm.trans parsed

theorem Handles.incoming_unheard {settings : Settings} {env : Env} {sip : Sip.CallId} {ext : String}
    {control target : Control} {ctx final : Context} {errors : List InternalEvent} {deeds : List Obs}
    (handles : Handles settings env (.sip (.incomingCall sip ext)) control ctx target final errors deeds)
    (composite : control.composite = true) : deeds = [] := by
  cases handles with
  | dropped ignored => rfl
  | taken transition effects => cases transition; cases composite

namespace System
variable {settings : Settings} {label : Label} {before after : System} {seen : List Obs}

/-- What is known about a context while it waits for its dial. -/
structure Expecting (accepted : Context) (system : System) : Prop where
  numbered : system.gateway.WellNumbered
  composite : ∀ bridge ∈ system.gateway.bridges, bridge.control.composite = true
  given : accepted.id ≤ system.gateway.ctxCounter
  waiting : ∀ bridge ∈ system.gateway.bridges, bridge.Expects accepted

theorem Expecting.step {accepted : Context} (expecting : Expecting accepted before)
    (step : Step settings label before seen after) :
    Expecting accepted after := by
  have moved := step_moved step
  have numbered := moved.numbered expecting.numbered
  have composite := (composite_rule settings).moved moved expecting.numbered expecting.composite
  cases step_worked step expecting.numbered with
  | idle bridges counter quiet =>
    exact ⟨numbered, composite, by rw [counter]; exact expecting.given, by rw [bridges]; exact expecting.waiting⟩
  | @served env event caller middle slot counter offered control ctx errors looped popped route routed handles
      counted members =>
    refine ⟨numbered, composite, ?_, ?_⟩
    · rw [counted]
      exact Nat.le_trans expecting.given routed.grows
    · intro bridge member
      rcases (members bridge).mp member with ⟨old, _⟩ | ⟨rfl, _⟩
      · exact expecting.waiting bridge old
      · rcases routed.origin with ⟨found, _⟩ | ⟨rfl, _⟩
        · have held : slot.bridge ∈ before.gateway.bridges := Slot.within found
          exact handles.expects (expecting.composite _ held) (expecting.waiting _ held)
        · intro same
          have number : before.gateway.ctxCounter + 1 = accepted.id := handles.own.id.symm.trans same
          exact absurd (number ▸ expecting.given) (Nat.not_succ_le_self _)

theorem Expecting.run {accepted : Context} {rest : List Obs} {later : System} (expecting : Expecting accepted before)
    (run : Reaches settings Anything before rest later) : Expecting accepted later :=
  Run.state_invariant (Expecting accepted) run expecting fun _ _ _ kept ⟨_, _, step⟩ => kept.step step

/-- The machine of a context runs `AcceptIncomingSip` on an extension. -/
def Accepting (ctx : CtxId) (ext : String) (before : System) (seen : List Obs) : Prop :=
  .action ctx .acceptIncomingSip ∈ seen ∧ ∃ id caller middle,
    before.pop = some (.sip (.incomingCall id ext), caller, middle)

theorem Step.expecting {ctx : CtxId} {ext : String} {named : Target}
    (step : Step settings label before seen after) (numbered : before.gateway.WellNumbered)
    (composite : ∀ bridge ∈ before.gateway.bridges, bridge.control.composite = true)
    (accepting : Accepting ctx ext before seen) (names : Names ext named) :
    ∃ id, Expecting (named.record { id := ctx, sipCallId := id }) after := by
  obtain ⟨acted, id, _, _, waiting⟩ := accepting
  have deed := List.mem_filter.mpr ⟨acted, (rfl : Obs.deed (.action ctx .acceptIncomingSip) = true)⟩
  have moved := step_moved step
  cases step_worked step numbered with
  | idle bridges counter quiet => rw [quiet] at deed; cases deed
  | @served env event caller middle slot counter offered control final errors looped popped route routed handles
      counted members =>
    cases waiting.symm.trans popped.pop
    have own := handles.own
    have same : ctx = slot.bridge.ctx.id := own.author deed rfl
    cases routed with
    | sipHeld _ slot found holds =>
      rw [handles.incoming_unheard (composite _ (Slot.within found))] at deed
      cases deed
    | sipFresh _ missed =>
      obtain ⟨rfl, rfl⟩ := handles.accepts_target rfl names
      subst same
      have record : (named.record { id := before.gateway.freshSlot.bridge.ctx.id, sipCallId := id }).id =
        before.gateway.ctxCounter + 1 := own.id
      refine ⟨id, moved.numbered numbered, (composite_rule settings).moved moved numbered composite, ?_, ?_⟩
      · exact Nat.le_of_eq (record.trans counted.symm)
      · intro bridge member number _
        rcases (members bridge).mp member with ⟨_, other⟩ | ⟨rfl, _⟩
        · exact absurd (number.trans record) other
        · rfl

/-- The extension that a bridge accepted decides whom its dial goes for. -/
theorem Expecting.pursues {ctx : CtxId} {id : Sip.CallId} {ext : String} {named : Target}
    (names : Names ext named) (expecting : Expecting (named.record { id := ctx, sipCallId := id }) before)
    (step : Step settings label before seen after) (dialed : .action ctx .dialTg ∈ seen) :
    ∃ env, label = .loop env ∧ Pursued settings env named before.gateway.toWorld ctx seen := by
  rcases step.ranDial with ⟨env, event, caller, middle, slot, final, looped, waiting, dial⟩ | ⟨_, others⟩
  · obtain ⟨bridges, _, shared⟩ := Popped.dial waiting dial.dialed
    have held : slot.bridge ∈ before.gateway.bridges := bridges ▸ Slot.within dial.found
    rw [dial.seen] at dialed ⊢
    obtain rfl : ctx = slot.bridge.ctx.id := by simpa using (dialTg_dials dial.ran).action dialed
    obtain ⟨shown, seen, pursued⟩ := dialTg_pursued dial.ran
    have accepted := expecting.waiting _ held (by cases named <;> rfl) dial.control
    have aimed : target slot.bridge.ctx = named := by
      rw [accepted]
      exact names.target_record ⟨rfl, rfl⟩
    rw [aimed] at pursued
    rw [seen]
    exact ⟨env, looped, (pursued.congr shared.symm).cons⟩
  · exact absurd (others _ dialed) (by simp [Obs.ofDial])

/-- An extension is accepted exactly if it is one of the three kinds, and then the one target it names is
recorded and the SIP call is put in ringing mode; else nothing is recorded, and one error is queued. The dial
that the bridge runs later, after any further steps, goes for the target that was accepted. -/
theorem accepted_extension_is_dialed :
    (∀ (env : Env) (ext : String) (deps : Deps),
      (∃ named, Names ext named ∧ (∀ other, Names ext other → other = named) ∧
        acceptIncomingSip env ext deps =
          guarded .acceptIncomingSip (.answer deps.ctx.sipCallId { statusCode := ringing })
          (deps.sip.answer deps.ctx.sipCallId env.answer) { deps with ctx := named.record deps.ctx }) ∨
      ((∀ named, ¬ Names ext named) ∧ acceptIncomingSip env ext deps =
        .ok (deps.internalError { statusCode := badExtension }))) ∧
    ∀ (settings : Settings) (cache : Cache) (maxCalls : Nat) (past seen rest shown : List Obs)
      (before after later last : System) (label next : Label) (ctx : CtxId) (ext : String) (named : Target),
      Reaches settings Anything (initial cache maxCalls) past before → Step settings label before seen after →
        Accepting ctx ext before seen → Names ext named → Reaches settings Anything after rest later →
          Step settings next later shown last → .action ctx .dialTg ∈ shown →
            ∃ env, next = .loop env ∧ Pursued settings env named later.gateway.toWorld ctx shown := by
  constructor
  · intro env ext deps
    by_cases named : ∃ named, Names ext named
    · obtain ⟨named, names⟩ := named
      exact .inl ⟨named, names, fun other others => names.unique others, names.accepted⟩
    · have unnamed : ∀ named, ¬ Names ext named := fun target names => named ⟨target, names⟩
      exact .inr ⟨unnamed, unnamed_rejected unnamed⟩
  · intro settings cache maxCalls past seen rest shown before after later last label next ctx ext named reached step
      accepting names run later dialed
    obtain ⟨numbered, composite⟩ := (composite_rule settings).run reached
    obtain ⟨id, expecting⟩ := step.expecting numbered composite accepting names
    exact (expecting.run run).pursues names later dialed

private def calling : Env := Env.success 42 7 0

/-- A call to a username, accepted in one step and dialed in another. -/
theorem username_is_dialed : ∃ before seen after rest later shown last,
    Step { callbackUri := "" } (.loop calling) before seen after ∧ Accepting 1 "tg#bob" before seen ∧
      Reaches { callbackUri := "" } Anything after rest later ∧
        Step { callbackUri := "" } (.loop calling) later shown last ∧
        .action 1 .dialTg ∈ shown ∧ ∃ env, Label.loop calling = .loop env ∧
          Pursued { callbackUri := "" } env (.username "bob") later.gateway.toWorld 1 shown := by
  have ran : (execute (System.step { callbackUri := "" }) (fun _ _ _ => true)
      [.incoming 0 "tg#bob", .loop calling, .loop calling]
      (System.initial {} 1)).any (fun first => (first.1.step { callbackUri := "" } (.loop calling)).any fun second =>
        decide (first.1.pop.map Prod.fst = some (.sip (.incomingCall 0 "tg#bob")) ∧
          .action 1 .acceptIncomingSip ∈ second.2) &&
        (execute (System.step { callbackUri := "" }) (fun _ _ _ => true)
          [.callback ⟨0, 0, .state .early⟩, .loop calling, .loop calling] second.1).any
            fun third => (third.1.step { callbackUri := "" } (.loop calling)).any fun last =>
              decide (.action 1 .dialTg ∈ last.2)) = true := by decide +kernel
  obtain ⟨before, past, reached, found⟩ := execute_any ran
  obtain ⟨⟨after, seen⟩, step, found⟩ := (Option.any_eq_true _ _).mp found
  obtain ⟨accepted, found⟩ := Bool.and_eq_true_iff.mp found
  obtain ⟨waiting, acted⟩ := of_decide_eq_true accepted
  obtain ⟨⟨event, caller, middle⟩, popped, same⟩ := Option.map_eq_some_iff.mp waiting
  obtain rfl : event = _ := same
  have accepting : Accepting 1 "tg#bob" before seen := ⟨acted, 0, caller, middle, popped⟩
  obtain ⟨later, rest, run, found⟩ := execute_any found
  obtain ⟨⟨last, shown⟩, next, dialed⟩ := (Option.any_eq_true _ _).mp found
  have names : Names "tg#bob" (.username "bob") := .username "bob" (by decide)
  refine ⟨before, seen, after, rest, later, shown, last, step, accepting, run, next, of_decide_eq_true dialed, ?_⟩
  apply accepted_extension_is_dialed.2
  · exact reached
  · exact step
  · exact accepting
  · exact names
  · exact run
  · exact next
  · exact of_decide_eq_true dialed

end System
end Tg2Sip
