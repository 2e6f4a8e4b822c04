import Tg2Sip.Proofs.SipTraffic

/-! Whose call a SIP event is about. A queued event belongs to the call object that it was
queued for, and a bridge to the one that it dialed or accepted, but the gateway compares
only ids. If pjsua gives an id only when no event and no bridge is left from an earlier call
with that id, everything under one id belongs to one call. -/

namespace Tg2Sip
open TdApi Lib Sip

/-- Observations that come with callbacks. -/
def Obs.speaks : Obs → Bool
  | .given .. | .sip _ _ (.hangup ..) _ | .sip _ _ (.dial ..) false => true
  | _ => false

section Speaking
variable {before after : Deps} {seen : List Obs} {maxCalls : Nat}

theorem Deps.Touch.speechless (touch : Deps.Touch before seen after) (silent : seen.filter Obs.speaks = []) :
    after.sip = before.sip ∧ ∀ live, seen.foldlM (System.pjsua maxCalls) live = some live := by
  cases touch with
  | shown obs own plain =>
    refine ⟨rfl, fun live => ?_⟩
    cases obs <;> first | rfl | cases plain
  | emitted blob =>
    refine ⟨?_, fun live => rfl⟩
    simp only [Deps.emit, World.emit]
    split <;> rfl
  | dialed callbacks id => simp [Obs.speaks, List.filter_cons] at silent
  | undialed callbacks reason uri prm => simp [Obs.speaks, List.filter_cons] at silent
  | hungUp id call held prm hangup => simp [Obs.speaks, List.filter_cons] at silent
  | notHungUp id absent prm => simp [Obs.speaks, List.filter_cons] at silent
  | _ => exact ⟨rfl, fun live => rfl⟩

theorem Deps.run_speechless (run : Run Deps.Touch before seen after) (silent : seen.filter Obs.speaks = []) :
    after.sip = before.sip ∧ ∀ live, seen.foldlM (System.pjsua maxCalls) live = some live := by
  induction run with
  | refl => exact ⟨rfl, fun live => rfl⟩
  | tail earlier last ih =>
    obtain ⟨first, rest⟩ := List.append_eq_nil_iff.mp (List.filter_append _ _ ▸ silent)
    obtain ⟨same, idle⟩ := ih first
    obtain ⟨sameLast, idleLast⟩ := last.speechless rest
    refine ⟨sameLast.trans same, fun live => ?_⟩
    rw [List.foldlM_append, idle]
    exact idleLast live

variable {gives : CallId → Prop} {kept : Client → Map CallId CallRef → Prop} (rule : KeptByTraffic maxCalls gives kept)
  {live final : Map CallId CallRef} {ctx : Option CtxId} {id : CallId} {call : CallRef}
include rule

private theorem KeptByTraffic.dialing (touch : Deps.Touch before seen after)
    (said : seen.filter Obs.speaks = [.given ctx id call])
    (folded : seen.foldlM (System.pjsua maxCalls) live = some final)
    (valid : live id = none → call = before.sip.created →
      kept { before.sip with created := before.sip.created + 1 } (live.assign id call)) : kept after.sip final := by
  have given : .given ctx id call ∈ seen := List.mem_of_mem_filter (by rw [said]; simp)
  cases touch with
  | dialed callbacks other =>
    obtain ⟨middle, first, rest⟩ := Option.bind_eq_some_iff.mp folded
    simp only [System.pjsua] at first
    split at first
    next free =>
      cases first
      simp only [List.filter_cons, Obs.speaks, if_true, List.cons.injEq, Obs.given.injEq] at said
      obtain ⟨⟨rfl, rfl, rfl⟩, _⟩ := said
      exact rule.dial rest (valid free.1 rfl)
    next => cases first
  | shown obs own plain => rw [← List.mem_singleton.mp given] at plain; cases plain
  | _ => simp at given

/-- Touches in which a dial is all that comes with callbacks. -/
theorem KeptByTraffic.dials (run : Run Deps.Touch before seen after)
    (said : seen.filter Obs.speaks = [.given ctx id call])
    (folded : seen.foldlM (System.pjsua maxCalls) live = some final)
    (valid : live id = none → call = before.sip.created →
      kept { before.sip with created := before.sip.created + 1 } (live.assign id call)) : kept after.sip final := by
  induction run generalizing final with
  | refl => cases said
  | tail earlier last ih =>
    rw [List.foldlM_append] at folded
    obtain ⟨between, first, rest⟩ := Option.bind_eq_some_iff.mp folded
    rw [List.filter_append] at said
    rcases List.append_eq_singleton_iff.mp said with ⟨silent, said⟩ | ⟨said, silent⟩
    · obtain ⟨same, idle⟩ := Deps.run_speechless earlier silent
      cases (idle live).symm.trans first
      rw [← same] at valid
      exact rule.dialing last said rest valid
    · obtain ⟨same, idle⟩ := last.speechless silent
      cases (idle between).symm.trans rest
      rw [same]
      exact ih said first

end Speaking

/-- What a queued event, a bridge or pjsua itself says an id belongs to. -/
def Tied (held : CallId → CallRef → Prop) (client : Client) (live : Map CallId CallRef) (id : CallId)
    (call : CallRef) : Prop :=
  held id call ∨ (∃ queued ∈ client.events, queued.event.id = id ∧ queued.call = call) ∨ live id = some call

/-- They never say two things about one id. -/
def Single (held : CallId → CallRef → Prop) (client : Client) (live : Map CallId CallRef) : Prop :=
  ∀ id call other, Tied held client live id call → Tied held client live id other → call = other

theorem Single.shrink {held wider : CallId → CallRef → Prop} {client larger : Client} {live wide : Map CallId CallRef}
    (single : Single wider larger wide)
    (within : ∀ id call, Tied held client live id call → Tied wider larger wide id call) : Single held client live :=
  fun id call other first second => single id call other (within id call first) (within id other second)

/-- Unless an id is given, whatever PJSIP threads do about the calls that have one. -/
theorem single_kept (maxCalls : Nat) (held : CallId → CallRef → Prop) :
    KeptByTraffic maxCalls (fun _ => False) (Single held) := by
  constructor
  intro before after traffic single
  cases traffic with
  | popped client live queued rest waiting =>
    refine single.shrink fun id call tied => ?_
    rcases tied with bridge | ⟨other, member, same⟩ | alive
    · exact .inl bridge
    · exact .inr (.inl ⟨other, by simp [waiting, member], same⟩)
    · exact .inr (.inr alive)
  | heard client live dialing callback calling =>
    refine single.shrink fun id call tied => ?_
    rcases tied with bridge | ⟨other, member, same, called⟩ | alive
    · exact .inl bridge
    · unfold Client.onCallback at member
      split at member
      · rcases List.mem_append.mp member with member | member
        · exact .inr (.inl ⟨other, member, same, called⟩)
        · rw [List.mem_singleton.mp member] at same called
          simp only [Callback.event_id] at same
          exact .inr (.inr (by rw [← same, ← called]; exact calling))
      · exact .inr (.inl ⟨other, member, same, called⟩)
    · simp only [reported] at alive
      split at alive
      · by_cases gone : id = callback.id
        · rw [gone, Map.erase_same] at alive; cases alive
        · rw [Map.erase_other _ gone] at alive; exact .inr (.inr alive)
      · exact .inr (.inr alive)
  | incoming client live id ext free bounds admitted => exact admitted.elim
  | given client live id free bounds admitted => exact admitted.elim
  | refused | registered | erased => exact single

/-- An id that nothing is tied to is given to a call. -/
theorem Single.give {ties wider : CallId → CallRef → Prop} {client later : Client} {live : Map CallId CallRef}
    {id : CallId} {call : CallRef} (single : Single ties client live)
    (free : ∀ other, ¬ Tied ties client live id other)
    (events : ∀ queued ∈ later.events, queued ∈ client.events ∨ queued.event.id = id ∧ queued.call = call)
    (more : ∀ key owner, wider key owner → ties key owner ∨ key = id ∧ owner = call) :
    Single wider later (live.assign id call) := by
  have split : ∀ key owner, Tied wider later (live.assign id call) key owner →
      Tied ties client live key owner ∨ key = id ∧ owner = call := by
    rintro key owner (bridge | ⟨queued, member, named, called⟩ | alive)
    · exact (more key owner bridge).imp_left .inl
    · rcases events queued member with member | ⟨same, made⟩
      · exact .inl (.inr (.inl ⟨queued, member, named, called⟩))
      · exact .inr ⟨named.symm.trans same, called.symm.trans made⟩
    · by_cases same : key = id
      · rw [same, Map.assign_same] at alive
        exact .inr ⟨same, (Option.some.inj alive).symm⟩
      · rw [Map.assign_other _ _ same] at alive
        exact .inl (.inr (.inr alive))
  intro key first second tied other
  rcases split key first tied with old | ⟨rfl, rfl⟩ <;> rcases split key second other with older | ⟨same, rfl⟩
  · exact single key first second old older
  · exact absurd (same ▸ old) (free first)
  · exact absurd older (free second)
  · rfl

theorem Gateway.Routed.update {gateway : Gateway} {event : GatewayEvent} {slot : Slot} {counter : Nat} {call : Call}
    (routed : Gateway.Routed gateway event slot counter (.updateCall call)) : event = .update (.call call) := by
  cases routed <;> rfl

theorem Gateway.Routed.sip {gateway : Gateway} {event : GatewayEvent} {slot : Slot} {counter : Nat}
    {offered : Sip.Event} (routed : Gateway.Routed gateway event slot counter (.sip offered)) :
    event = .sip offered := by
  cases routed <;> rfl

/-- What comes with callbacks can be told from the deeds. -/
theorem Gateway.Handled.speaks {settings : Settings} {env : Env} {gateway after : Gateway} {event : GatewayEvent}
    {seen : List Obs} (handled : Gateway.Handled settings env gateway event after seen) :
    seen.filter Obs.speaks = (seen.filter Obs.deed).filter Obs.speaks := by
  rw [List.filter_filter]
  refine List.filter_congr fun obs member => ?_
  cases obs with
  | given ctx id call =>
    cases ctx with
    | none => exact absurd member (handled.given id call)
    | some ctx => rfl
  | sip => simp [Obs.deed]
  | _ => rfl

namespace System
variable {settings : Settings} {label : Label} {before after : System} {seen : List Obs}

/-- pjsua gives an id only when no event about the id is queued and no bridge holds it. -/
def CleanReuse (_ : Label) (before : System) (seen : List Obs) : Prop :=
  ∀ ctx id call, .given ctx id call ∈ seen → (∀ queued ∈ before.gateway.sip.events, queued.event.id ≠ id) ∧
    ∀ bridge ∈ before.gateway.bridges, bridge.ctx.sipCallId ≠ id

/-- The call of the SIP leg that a bridge has. -/
def heldBy (system : System) (id : CallId) (call : CallRef) : Prop :=
  ∃ bridge ∈ system.gateway.bridges, bridge.ctx.sipCallId = id ∧ id ≠ invalidId ∧ system.owner bridge.ctx.id = some call

def tied (system : System) : CallId → CallRef → Prop := Tied system.heldBy system.gateway.sip system.live

theorem Popped.update {update : Update} {caller : Option CallRef} {middle : System}
    (popped : Popped before (.update update) caller middle) : middle.gateway.sip = before.gateway.sip := by
  rcases pop_cases popped.pop with
    ⟨head, rest, _, ⟨same, _⟩, rfl⟩ | ⟨head, rest, _, _, rfl⟩ | ⟨head, rest, _, same, _, _⟩
  · cases same
  · rfl
  · cases same

/-- What was tied before a step, and what the step gives, is all that can be tied after it. -/
theorem single_step (step : Step settings label before seen after)
    (single : Tg2Sip.Single before.heldBy before.gateway.sip before.live) (clean : CleanReuse label before seen) :
    Tg2Sip.Single (fun id call => before.tied id call ∨ ∃ ctx, .given ctx id call ∈ seen) after.gateway.sip
      after.live := by
  have ties : Tg2Sip.Single before.tied before.gateway.sip before.live := by
    refine single.shrink fun id call tied => ?_
    rcases tied with tied | queued | alive
    · exact tied
    · exact .inr (.inl queued)
    · exact .inr (.inr alive)
  by_cases gives : ∃ ctx id call, .given ctx id call ∈ seen
  · obtain ⟨ctx, id, call, given⟩ := gives
    obtain ⟨unqueued, unheld⟩ := clean ctx id call given
    have free : before.live id = none → ∀ other, ¬ Tied before.tied before.gateway.sip before.live id other := by
      rintro free other ((⟨bridge, member, same, _⟩ | ⟨queued, member, same, _⟩ | alive) | ⟨queued, member,
        same, _⟩ | alive)
      · exact unheld bridge member same
      · exact unqueued queued member same
      · rw [free] at alive; cases alive
      · exact unqueued queued member same
      · rw [free] at alive; cases alive
    have more : ∀ key owner, (before.tied key owner ∨ ∃ author, .given author key owner ∈ seen) →
        (∀ author key owner, .given author key owner ∈ seen → key = id ∧ owner = call) →
        before.tied key owner ∨ key = id ∧ owner = call := by
      rintro key owner (old | ⟨author, given⟩) sole
      · exact .inl old
      · exact .inr (sole author key owner given)
    rcases step.given given with ⟨ext, rfl, rfl, rfl, rfl⟩ | ⟨env, event, caller, middle, rfl, popped, handled, deed⟩
    · obtain ⟨_, live, folded, rfl⟩ := settle_some step
      simp only [List.foldlM_cons, List.foldlM_nil, pjsua] at folded
      split at folded
      next unused =>
        cases folded
        refine ties.give (free unused.1) ?_ fun key owner wide => more key owner wide (by simp)
        intro queued member
        rcases List.mem_append.mp member with member | member
        · exact .inl member
        · exact .inr (by rw [List.mem_singleton.mp member]; exact ⟨rfl, rfl⟩)
      next => cases folded
    · have folded := (step_folded step).1
      have said := handled.speaks
      generalize after.gateway = final at *
      cases handled with
      | passed unrouted quiet => cases quiet _ given
      | offered routed handles bridges counted queued touched =>
        obtain ⟨called, prm, _, rfl, _, _, _, _, deeds⟩ := handles.dialed deed
        obtain ⟨deps, run, same⟩ := touched
        rw [deeds] at said
        have unchanged : middle.gateway.sip = before.gateway.sip := by
          cases routed.update
          exact popped.update
        have sole : ∀ author key owner, .given author key owner ∈ seen → key = id ∧ owner = call := by
          intro author key owner member
          have spoken := List.mem_filter.mpr ⟨member, (rfl : Obs.speaks (.given author key owner) = true)⟩
          rw [said] at spoken
          simp [Obs.speaks, List.filter_cons] at spoken
          exact spoken.2
        rw [same]
        refine (single_kept before.maxCalls _).dials run said folded fun unused made => ?_
        refine ties.give (free unused) (fun queued member => .inl ?_) fun key owner wide => more key owner wide sole
        rw [← unchanged]
        exact member
  · have none : ∀ ctx id call, .given ctx id call ∈ seen → False :=
      fun ctx id call given => gives ⟨ctx, id, call, given⟩
    refine ((single_kept before.maxCalls before.tied).system step none ties rfl).shrink fun id call tied => ?_
    rcases tied with (tied | ⟨ctx, given⟩) | rest
    · exact .inl tied
    · exact (none ctx id call given).elim
    · exact .inr rest

end System

section Legs
variable {settings : Settings} {env : Env} {ctx final : Context} {errors : List InternalEvent} {deeds : List Obs}

/-- An action that neither dials over SIP nor stores a SIP id. -/
def Action.idle (action : Action) : Prop := (∀ call, action ≠ .dialSip call) ∧ ∀ id, action ≠ .storeSipId id

/-- The SIP leg of a context and its owner are as they were, or the leg is forgotten. -/
def SameLeg (ctx final : Context) (deeds : List Obs) : Prop :=
  (∀ caller owner, deeds.foldl (System.own caller) owner = owner) ∧
    (final.sipCallId = ctx.sipCallId ∨ final.sipCallId = invalidId)

theorem Effect.sameLeg {action : Action} (effect : Effect settings env action ctx final errors deeds)
    (idle : action.idle) :
    SameLeg ctx final deeds := by
  cases effect with
  | storeSipId id ctx => exact absurd rfl (idle.2 id)
  | dialedSip call ctx => exact absurd rfl (idle.1 call)
  | refusedSip call ctx => exact absurd rfl (idle.1 call)
  | cleanSipId ctx => exact ⟨fun _ _ => rfl, .inr rfl⟩
  | cleanUp ctx controller ended same =>
    refine ⟨fun caller owner => ?_, .inr rfl⟩
    unfold stops discards hangups
    split <;> split <;> split <;> rfl
  | rang ext ctx parsed valid => exact ⟨fun _ _ => rfl, .inl (Actions.parseExtension_id valid).2.1⟩
  | silent ext ctx parsed prm valid => exact ⟨fun _ _ => rfl, .inl (Actions.parseExtension_id valid).2.1⟩
  | dialedTg ctx lookups user id dials created =>
    refine ⟨fun caller owner => ?_, .inl rfl⟩
    induction lookups generalizing owner with
    | nil => rfl
    | cons lookup lookups ih => exact ih (fun other member => dials other (by simp [member])) owner
  | undialedTg ctx lookups user prm dials =>
    refine ⟨fun caller owner => ?_, .inl rfl⟩
    induction lookups generalizing owner with
    | nil => rfl
    | cons lookup lookups ih => exact ih (fun other member => dials other (by simp [member])) owner
  | _ => exact ⟨fun _ _ => rfl, .inl rfl⟩

theorem Effects.sameLeg {actions : List Action} (effects : Effects settings env actions ctx final errors deeds)
    (idle : ∀ action ∈ actions, action.idle) : SameLeg ctx final deeds := by
  induction effects with
  | nil ctx => exact ⟨fun _ _ => rfl, .inl rfl⟩
  | cons first rest ih =>
    obtain ⟨own, leg⟩ := first.sameLeg (idle _ (by simp))
    obtain ⟨ownRest, legRest⟩ := ih fun action member => idle action (by simp [member])
    refine ⟨fun caller owner => ?_, ?_⟩
    · rw [List.cons_append, List.foldl_cons, List.foldl_append, ownRest, own]; rfl
    · rcases legRest with same | gone
      · rw [same]; exact leg
      · exact .inr gone

/-- The owner of a SIP leg after one event, in the three ways there are. -/
inductive LegAfter (offered : StateMachine.Event) (control : StateMachine.Control) (ctx final : Context)
    (deeds : List Obs) :
    Prop where
  | same (same : SameLeg ctx final deeds)
  | dialed (id : CallId) (call : CallRef) (given : .given (some ctx.id) id call ∈ deeds) (leg : final.sipCallId = id)
      (own : ∀ caller owner, deeds.foldl (System.own caller) owner = owner.assign ctx.id call)
  | accepted (id : CallId) (ext : String) (incoming : offered = .sip (.incomingCall id ext)) (fresh : control = .init)
      (leg : final.sipCallId = id)
      (own : ∀ call owner, deeds.foldl (System.own (some call)) owner = owner.assign ctx.id call)

theorem Handles.legAfter {offered : StateMachine.Event} {control target : StateMachine.Control}
    (handles : Handles settings env offered control ctx target final errors deeds) :
    LegAfter offered control ctx final deeds := by
  cases handles with
  | dropped ignored => exact .same ⟨fun _ _ => rfl, .inl rfl⟩
  | taken transition effects =>
    cases transition with
    | dial call incoming pending uri =>
      obtain ⟨_, _, _, _, _, stored, rest, rfl, rfl⟩ := effects.three
      obtain ⟨_, _, _, _, _, user, dialed, rfl, rfl⟩ := rest.two
      cases stored
      cases user
      cases dialed with
      | dialedSip call ctx prm id created result => exact .dialed id created (by simp) rfl fun _ _ => rfl
      | refusedSip call ctx prm reason refused => exact .same ⟨fun _ _ => rfl, .inl rfl⟩
    | accept id ext =>
      obtain ⟨_, _, _, _, _, stored, accepted, rfl, rfl⟩ := effects.two
      cases stored
      cases accepted with
      | rang ext ctx parsed valid => exact .accepted id ext rfl rfl (Actions.parseExtension_id valid).2.1 fun _ _ => rfl
      | silent ext ctx parsed prm valid =>
        exact .accepted id ext rfl rfl (Actions.parseExtension_id valid).2.1 fun _ _ => rfl
      | badExtension ext ctx invalid => exact .accepted id ext rfl rfl rfl fun _ _ => rfl
    | _ => exact .same (effects.sameLeg (by simp [Action.idle]))

end Legs

namespace System
variable {settings : Settings} {label : Label} {before after : System} {seen : List Obs}

/-- Every SIP leg of a bridge has its owner, and all that is tied to an id is one call. -/
structure Owned (system : System) : Prop where
  numbered : system.gateway.WellNumbered
  ids : ValidIds system.gateway.sip system.live
  owned : ∀ bridge ∈ system.gateway.bridges, bridge.ctx.sipCallId ≠ invalidId →
    ∃ call, system.owner bridge.ctx.id = some call
  single : Tg2Sip.Single system.heldBy system.gateway.sip system.live

theorem Owned.initial (cache : Cache) (maxCalls : Nat) : Owned (initial cache maxCalls) := by
  refine ⟨⟨List.nodup_nil, ?_⟩, ⟨?_, ?_⟩, ?_, ?_⟩
  · intro bridge member; cases member
  · intro queued member; cases member
  · intro id call held; cases held
  · intro bridge member; cases member
  · rintro id call other (⟨bridge, member, _⟩ | ⟨queued, member, _⟩ | held)
    · cases member
    · cases member
    · cases held

/-- The owners after a step: those of the bridges that were not served, and of the one that was. -/
private theorem Owned.legs (owned : Owned before) (step : Step settings label before seen after) :
    ∀ bridge ∈ after.gateway.bridges, bridge.ctx.sipCallId ≠ invalidId → ∃ call,
      after.owner bridge.ctx.id = some call ∧
        (before.tied bridge.ctx.sipCallId call ∨ ∃ ctx, .given ctx bridge.ctx.sipCallId call ∈ seen) := by
  obtain ⟨caller, owners, called⟩ := step_owner step
  have old : ∀ bridge ∈ before.gateway.bridges, bridge.ctx.sipCallId ≠ invalidId → ∃ call,
      before.owner bridge.ctx.id = some call ∧ before.tied bridge.ctx.sipCallId call := by
    intro bridge member valid
    obtain ⟨call, owner⟩ := owned.owned bridge member valid
    exact ⟨call, owner, .inl ⟨bridge, member, rfl, valid, owner⟩⟩
  intro bridge member valid
  cases step_worked step owned.numbered with
  | idle bridges counter quiet =>
    rw [bridges] at member
    rw [owners, quiet]
    obtain ⟨call, owner, tied⟩ := old bridge member valid
    exact ⟨call, owner, .inl tied⟩
  | @served env event queued middle slot counter offered control ctx errors looped popped route routed handles
      counted members =>
    obtain rfl : caller = queued := called event queued middle popped.pop ⟨env, looped⟩
    have own := handles.own
    have leg := handles.legAfter
    have given : ∀ author id call, .given author id call ∈ seen.filter Obs.deed → .given author id call ∈ seen :=
      fun author id call shown => List.mem_of_mem_filter shown
    generalize seen.filter Obs.deed = deeds at owners own leg given
    -- The event of an accepted call brings the call.
    have accepting : ∀ id ext, offered = .sip (.incomingCall id ext) → ∃ waiting ∈ before.gateway.sip.events,
        waiting.event.id = id ∧ caller = some waiting.call := by
      rintro id ext rfl
      cases routed.sip
      obtain ⟨waiting, member, same, called⟩ := popped.sip
      exact ⟨waiting, member, by rw [same]; rfl, called⟩
    have unserved : ∀ id, id ≠ slot.bridge.ctx.id → after.owner id = before.owner id := by
      intro id other
      rw [owners]
      cases leg with
      | same same => rw [same.1]
      | dialed made call shown leg owns => rw [owns, Map.assign_other _ _ other]
      | accepted made ext incoming fresh leg owns =>
        obtain ⟨waiting, _, _, rfl⟩ := accepting made ext incoming
        rw [owns, Map.assign_other _ _ other]
    rcases (members bridge).mp member with ⟨here, other⟩ | ⟨rfl, _⟩
    · obtain ⟨call, owner, tied⟩ := old bridge here valid
      exact ⟨call, (unserved _ other).trans owner, .inl tied⟩
    · cases leg with
      | same same =>
        obtain ⟨keeps, leg⟩ := same
        have unchanged := leg.resolve_right valid
        have here : slot.bridge ∈ before.gateway.bridges := by
          rcases routed.origin with ⟨found, _⟩ | ⟨rfl, _⟩
          · exact Slot.within found
          · exact absurd unchanged valid
        obtain ⟨call, owner, tied⟩ := old slot.bridge here (by rw [← unchanged]; exact valid)
        refine ⟨call, ?_, .inl (by rw [unchanged]; exact tied)⟩
        rw [owners, keeps, own.id]
        exact owner
      | dialed made call shown leg owns =>
        refine ⟨call, ?_, .inr ⟨_, by rw [leg]; exact given _ _ _ shown⟩⟩
        rw [owners, owns, own.id, Map.assign_same]
      | accepted made ext incoming fresh leg owns =>
        obtain ⟨waiting, queued, same, rfl⟩ := accepting made ext incoming
        refine ⟨waiting.call, ?_, .inl (.inr (.inl ⟨waiting, queued, by rw [leg]; exact same, rfl⟩))⟩
        rw [owners, owns, own.id, Map.assign_same]

theorem Owned.step (owned : Owned before) (step : Step settings label before seen after)
    (clean : CleanReuse label before seen) : Owned after := by
  have legs := owned.legs step
  refine ⟨(step_moved step).numbered owned.numbered,
    (validIds_kept before.maxCalls).system step (fun _ _ _ _ => trivial) owned.ids rfl, ?_, ?_⟩
  · intro bridge member valid
    obtain ⟨call, owner, _⟩ := legs bridge member valid
    exact ⟨call, owner⟩
  · refine (single_step step owned.single clean).shrink fun id call tied => ?_
    rcases tied with ⟨bridge, member, rfl, valid, owner⟩ | rest
    · obtain ⟨own, same, tied⟩ := legs bridge member valid
      rw [owner] at same
      cases same
      exact .inl tied
    · exact .inr rest

theorem Owned.run {cache : Cache} {maxCalls : Nat} {past : List Obs} {system : System}
    (run : Reaches settings CleanReuse (System.initial cache maxCalls) past system) : Owned system :=
  Run.state_invariant Owned run (Owned.initial cache maxCalls) fun _ _ _ owned moved => by
    obtain ⟨label, clean, step⟩ := moved
    exact owned.step step clean

/-- Whoever holds the id of a queued event has the call that the event was queued for. -/
theorem Owned.holder (owned : Owned before) {waiting : Queued} (queued : waiting ∈ before.gateway.sip.events)
    {bridge : Bridge} (member : bridge ∈ before.gateway.bridges)
    (held : bridge.ctx.sipCallId = waiting.event.id) :
    before.owner bridge.ctx.id = some waiting.call := by
  have valid : waiting.event.id ≠ invalidId := by
    have bound := owned.ids.1 waiting queued
    intro same
    rw [same] at bound
    exact absurd bound (by decide)
  obtain ⟨other, owner⟩ := owned.owned bridge member (by rw [held]; exact valid)
  have tied := owned.single waiting.event.id waiting.call other (.inr (.inl ⟨waiting, queued, rfl, rfl⟩))
    (.inl ⟨bridge, member, held, valid, owner⟩)
  rw [tied]
  exact owner

/-- A step that changes no bridge but that of a call: whoever acted has the call or is gone. -/
structure OnlyOf (call : CallRef) (before : System) (seen : List Obs) (after : System) : Prop where
  others : ∀ bridge ∈ before.gateway.bridges, before.owner bridge.ctx.id ≠ some call → bridge ∈ after.gateway.bridges
  changed : ∀ bridge ∈ after.gateway.bridges, bridge ∈ before.gateway.bridges ∨ after.owner bridge.ctx.id = some call
  acted : ∀ ctx name, .action ctx name ∈ seen →
    after.owner ctx = some call ∨ ∀ bridge ∈ after.gateway.bridges, bridge.ctx.id ≠ ctx

/-- A new bridge that a SIP event leaves behind has accepted the call of the event. -/
private theorem survives {env : Env} {event : Sip.Event} {id : CtxId} {target : StateMachine.Control} {final : Context}
    {errors : List InternalEvent} {deeds : List Obs}
    (handles : Handles settings env (.sip event) .init { id } target final errors deeds) (stays : target ≠ .X) :
    ∀ call owner, deeds.foldl (own (some call)) owner = owner.assign id call := by
  cases handles with
  | dropped ignored => exact absurd ignored (StateMachine.init_takes (.inr ⟨event, rfl⟩))
  | taken transition effects =>
    cases transition with
    | strayState | strayMedia => exact absurd rfl stays
    | accept made ext =>
      obtain ⟨_, _, _, _, _, stored, accepted, rfl, rfl⟩ := effects.two
      cases stored
      cases accepted <;> exact fun _ _ => rfl
    | sipEnded control inside => cases inside

/-- In every run in which pjsua gives no id that something is left of: a SIP event that was queued
on behalf of a call changes, removes and creates no bridge but the one that has the call. -/
theorem sip_event_stays_with_its_call {settings : Settings} {cache : Cache} {maxCalls : Nat} {past seen : List Obs}
    {before after middle : System} {env : Env} {event : Sip.Event} {call : CallRef}
    (reached : Reaches settings CleanReuse (System.initial cache maxCalls) past before)
    (step : Step settings (.loop env) before seen after) (taken : before.pop = some (.sip event, some call, middle)) :
    OnlyOf call before seen after := by
  have owned := Owned.run reached
  obtain ⟨caller, owners, called⟩ := step_owner step
  obtain rfl : caller = some call := called _ _ _ taken ⟨env, rfl⟩
  obtain ⟨waiting, queued, rfl, same⟩ := (pop_popped taken).sip
  cases same
  cases route : before.gateway.route (.sip waiting.event) with
  | none => cases route
  | some target =>
    obtain ⟨⟨slot, counter⟩, offered⟩ := target
    have routed := Gateway.route_routed route
    obtain ⟨control, ctx, errors, handles, _, members⟩ := step.served owned.numbered taken route
    have own := handles.own
    have acting : ∀ number name, .action number name ∈ seen → number = slot.bridge.ctx.id := fun number name shown =>
      own.author (List.mem_filter.mpr ⟨shown, rfl⟩) rfl
    generalize seen.filter Obs.deed = deeds at owners handles own
    have offers : offered = .sip waiting.event := by cases routed <;> rfl
    subst offers
    have served : slot.bridge ∈ before.gateway.bridges → before.owner slot.bridge.ctx.id = some waiting.call := by
      intro member
      cases routed with
      | sipHeld event slot found holds => exact owned.holder queued member holds
      | sipFresh event missed => exact absurd rfl (owned.numbered.fresh _ member)
    have mine : control ≠ .X → after.owner slot.bridge.ctx.id = some waiting.call := by
      intro stays
      rw [owners]
      rcases routed.origin with ⟨found, _⟩ | ⟨rfl, _⟩
      · have owner := served (Slot.within found)
        cases handles.legAfter with
        | same same => rw [same.1]; exact owner
        | dialed made call shown leg owns =>
          obtain ⟨_, _, _, same, _⟩ := handles.dialed shown
          cases same
        | accepted made ext incoming fresh leg owns => rw [owns, Map.assign_same]
      · rw [survives handles stays]
        exact Map.assign_same _ _ _
    have foreign : ∀ bridge ∈ before.gateway.bridges, before.owner bridge.ctx.id ≠ some waiting.call →
        bridge.ctx.id ≠ slot.bridge.ctx.id := by
      intro bridge member other same
      rcases routed.origin with ⟨found, _⟩ | ⟨rfl, _⟩
      · exact other (same ▸ served (Slot.within found))
      · exact owned.numbered.fresh bridge member same
    refine ⟨fun bridge member other => ?_, fun bridge member => ?_, fun number name shown => ?_⟩
    · exact (members bridge).mpr (.inl ⟨member, foreign bridge member other⟩)
    · rcases (members bridge).mp member with ⟨old, _⟩ | ⟨rfl, here⟩
      · exact .inl old
      · exact .inr (own.id ▸ mine fun gone => here ⟨rfl, gone⟩)
    · rw [acting number name shown]
      by_cases stays : control = .X
      · refine .inr fun bridge member => ?_
        rcases (members bridge).mp member with ⟨_, other⟩ | ⟨_, here⟩
        · exact other
        · exact absurd ⟨rfl, stays⟩ here
      · exact .inl (mine stays)

/-- `CleanReuse` as a test. -/
def cleanReuse (_ : Label) (before : System) (seen : List Obs) : Bool :=
  seen.all fun obs => match obs with
    | .given _ id _ => before.gateway.sip.events.all (fun queued => decide (queued.event.id ≠ id)) &&
        before.gateway.bridges.all fun bridge => decide (bridge.ctx.sipCallId ≠ id)
    | _ => true

theorem cleanReuse_sound (label : Label) (before : System) (seen : List Obs)
    (tested : cleanReuse label before seen = true) :
    CleanReuse label before seen := by
  intro ctx id call given
  obtain ⟨queued, held⟩ := Bool.and_eq_true_iff.mp (List.all_eq_true.mp tested _ given)
  exact ⟨fun event member => of_decide_eq_true (List.all_eq_true.mp queued event member),
    fun bridge member => of_decide_eq_true (List.all_eq_true.mp held bridge member)⟩

/-- The gateway hangs up a call and is done with it. Then there are two calls, of which one is given the old id. -/
def reusedId : List Label :=
  let env := { Env.success 42 7 0 with hangup := { callbacks := [⟨0, 0, .state .disconnected⟩], result := .ok () } }
  .incoming 0 "nobody" :: List.replicate 6 (.loop env) ++ [.incoming 1 "200", .incoming 0 "100"] ++
    List.replicate 6 (.loop env) ++ [.callback ⟨0, 2, .state .early⟩, .loop env, .loop env]

theorem reused_id_stays_apart : ∃ past before seen after middle,
    Reaches { callbackUri := "" } CleanReuse (System.initial {} 2) past before ∧
      Step { callbackUri := "" } (.loop (Env.success 42 7 0)) before seen after ∧
        before.pop = some (.sip (.callStateUpdate 0 .early), some 2, middle) ∧ .given none 0 0 ∈ past ∧
          (∃ bridge ∈ before.gateway.bridges, before.owner bridge.ctx.id = some 1) ∧ OnlyOf 2 before seen after := by
  have ran : (execute (System.step { callbackUri := "" }) cleanReuse reusedId (System.initial {} 2)).any (fun result =>
      (result.1.step { callbackUri := "" } (.loop (Env.success 42 7 0))).any fun _ =>
        decide (result.1.pop.map (fun taken => (taken.1, taken.2.1)) = some (.sip (.callStateUpdate 0 .early), some 2) ∧
          .given none 0 0 ∈ result.2 ∧ ∃ bridge ∈ result.1.gateway.bridges,
              result.1.owner bridge.ctx.id = some 1)) = true := by
    decide +kernel
  obtain ⟨before, past, reached, found⟩ := execute_reaches cleanReuse_sound ran
  obtain ⟨⟨after, seen⟩, step, found⟩ := (Option.any_eq_true _ _).mp found
  obtain ⟨popped, given, other⟩ := of_decide_eq_true found
  obtain ⟨⟨event, caller, middle⟩, taken, same⟩ := Option.map_eq_some_iff.mp popped
  cases same
  exact ⟨past, before, seen, after, middle, reached, step, taken, given, other,
    sip_event_stays_with_its_call reached step taken⟩

/-- A call is refused with an error of its own and ends while the hang-up is still to come. Its
last event waits in the queue when the gateway dials, and pjsua gives the new call the same id. -/
def lateDisconnect : List Label :=
  let refusing := { Env.success 42 7 0 with answer := .error "PJSIP_EINVALIDREQURI" }
  [.incoming 0 "100", .loop refusing, .loop refusing, .loop refusing, .callback ⟨0, 0, .state .disconnected⟩,
    .tdlib (.call ⟨7, 42, false, .pending⟩), .loop refusing, .loop refusing]

theorem stale_event_ends_new_call : ¬ ∀ (settings : Settings) (cache : Cache) (maxCalls : Nat) (past seen : List Obs)
    (before after middle : System) (env : Env) (event : Sip.Event) (call : CallRef),
    Reaches settings Anything (System.initial cache maxCalls) past before →
      Step settings (.loop env) before seen after →
      before.pop = some (.sip event, some call, middle) → OnlyOf call before seen after := by
  intro always
  have ran : (execute (System.step { callbackUri := "sip:100@pbx" }) (fun _ _ _ => true) lateDisconnect
      (System.initial {} 1)).any (fun result =>
        (result.1.step { callbackUri := "sip:100@pbx" } (.loop (Env.success 42 7 0))).any fun next =>
          decide (result.1.pop.map (fun taken => (taken.1, taken.2.1)) =
              some (.sip (.callStateUpdate 0 .disconnected), some 0) ∧
            (∃ bridge ∈ result.1.gateway.bridges, result.1.owner bridge.ctx.id ≠ some 0) ∧
            next.1.gateway.bridges = [])) = true := by decide +kernel
  obtain ⟨before, past, reached, found⟩ := execute_any ran
  obtain ⟨⟨after, seen⟩, step, found⟩ := (Option.any_eq_true _ _).mp found
  obtain ⟨popped, ⟨bridge, member, other⟩, gone⟩ := of_decide_eq_true found
  obtain ⟨⟨event, caller, middle⟩, taken, same⟩ := Option.map_eq_some_iff.mp popped
  cases same
  have kept := (always _ {} 1 past seen before after middle _ _ 0 reached step taken).others bridge member other
  rw [gone] at kept
  cases kept

end System
end Tg2Sip
