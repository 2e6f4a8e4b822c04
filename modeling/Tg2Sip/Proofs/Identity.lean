import Tg2Sip.Proofs.Legs

/-! No leg belongs to two bridges, so that an event finds the bridge of its own leg. Events
about a call can be queued before the gateway thread learns the id of the call, but the
handler that learns it also stores it, and no other handler runs in between. -/

namespace Tg2Sip
open TdApi Lib StateMachine

section Gains
variable {settings : Settings} {env : Env} {ctx final : Context} {errors : List InternalEvent} {deeds : List Obs}

/-- The event that makes a new bridge names the leg that the bridge stores. -/
def StateMachine.Event.names (leg : Leg) : StateMachine.Event → Prop
  | .updateCall call => leg = .tg call.id
  | .sip (.incomingCall id _) => leg = .sip id
  | _ => False

theorem Effect.gains {action : Action} (effect : Effect settings env action ctx final errors deeds) {leg : Leg}
    (has : final.Has leg) : ctx.Has leg ∨ ∃ name, .associated ctx.id name leg ∈ deeds := by
  cases effect with
  | storeSipId id ctx =>
    cases leg with
    | tg held => exact .inl has
    | sip held => exact .inr ⟨.storeSipId, by simp [← has.2]⟩
  | storeTgId call ctx =>
    cases leg with
    | tg held => exact .inr ⟨.storeTgId, by simp [← has.2]⟩
    | sip held => exact .inl has
  | cleanTgId ctx =>
    cases leg with
    | tg held => exact absurd has.2.symm has.1
    | sip held => exact .inl has
  | cleanSipId ctx =>
    cases leg with
    | tg held => exact .inl has
    | sip held => exact absurd has.2.symm has.1
  | cleanUp ctx controller ended same => cases leg <;> exact absurd has.2.symm has.1
  | dialedSip call ctx prm id created dialed =>
    cases leg with
    | tg held => exact .inl has
    | sip held => exact .inr ⟨.dialSip, by simp [← has.2]⟩
  | dialedTg ctx lookups user id dials created =>
    cases leg with
    | tg held => exact .inr ⟨.dialTg, by simp [← has.2]⟩
    | sip held => exact .inl has
  | rang ext ctx parsed valid =>
    obtain ⟨_, sip, tg, _⟩ := Actions.parseExtension_id valid
    cases leg <;> simpa [sip, tg] using has
  | silent ext ctx parsed prm valid =>
    obtain ⟨_, sip, tg, _⟩ := Actions.parseExtension_id valid
    cases leg <;> simpa [sip, tg] using has
  | _ => exact .inl (by cases leg <;> exact has)

/-- A leg that a context has after a sequence of actions, it had before or was given in it. -/
theorem Effects.gains {actions : List Action} (effects : Effects settings env actions ctx final errors deeds)
    {leg : Leg} (has : final.Has leg) : ctx.Has leg ∨ ∃ name, .associated ctx.id name leg ∈ deeds := by
  induction effects with
  | nil ctx => exact .inl has
  | cons first rest ih =>
    rcases ih has with held | ⟨name, member⟩
    · rcases first.gains held with held | ⟨name, member⟩
      · exact .inl held
      · exact .inr ⟨name, by simp [member]⟩
    · rw [first.own.id] at member
      exact .inr ⟨name, by simp [member]⟩

theorem Handles.gains {offered : StateMachine.Event} {control target : Control}
    (handles : Handles settings env offered control ctx target final errors deeds) {leg : Leg} (has : final.Has leg) :
    ctx.Has leg ∨ ∃ name, .associated ctx.id name leg ∈ deeds := by
  cases handles with
  | dropped ignored => exact .inl has
  | taken transition effects => exact effects.gains has

/-- The four actions that associate a leg. -/
theorem Effect.associates {action : Action} (effect : Effect settings env action ctx final errors deeds)
    {number : CtxId} {name : ActionName} {leg : Leg} (member : .associated number name leg ∈ deeds) :
    (∃ call, action = .storeTgId call ∧ leg = .tg call.id) ∨ (∃ id, action = .storeSipId id ∧ leg = .sip id) ∨
      (name = .dialTg ∧ ∃ id, leg = .tg id) ∨ name = .dialSip ∧ ∃ id, leg = .sip id := by
  cases effect with
  | storeSipId id ctx => simp at member; exact .inr (.inl ⟨id, rfl, member.2.2⟩)
  | storeTgId call ctx => simp at member; exact .inl ⟨call, rfl, member.2.2⟩
  | cleanUp ctx controller ended same =>
    simp only [stops, discards, hangups, List.mem_append] at member
    rcases member with (member | member) | member <;> split at member <;> simp at member
  | dialedSip => simp at member; exact .inr (.inr (.inr ⟨member.2.1, _, member.2.2⟩))
  | dialedTg => simp at member; exact .inr (.inr (.inl ⟨member.2.1, _, member.2.2⟩))
  | _ => simp at member

theorem Handles.associates {offered : StateMachine.Event} {control target : Control}
    (handles : Handles settings env offered control ctx target final errors deeds) {number : CtxId} {name : ActionName}
    {leg : Leg} (member : .associated number name leg ∈ deeds) :
    control = .init ∧ offered.names leg ∨ (name = .dialTg ∧ ∃ id, leg = .tg id) ∨
      name = .dialSip ∧ ∃ id, leg = .sip id := by
  cases handles with
  | dropped ignored => cases member
  | taken transition effects =>
    rcases effects.deed member with ⟨_, _, _, same⟩ | ⟨action, taken, _, _, _, _, effect, shown, _⟩
    · cases same
    · rcases effect.associates shown with ⟨call, rfl, rfl⟩ | ⟨id, rfl, rfl⟩ | dialed
      · cases transition with
        | dial called | refuse called => simp at taken; exact .inl ⟨rfl, by rw [taken]; rfl⟩
        | _ => simp at taken
      · cases transition with
        | accept made ext => simp at taken; exact .inl ⟨rfl, by rw [taken]; rfl⟩
        | _ => simp at taken
      · exact .inr dialed

/-- The first event of a call that somebody else makes. -/
def StateMachine.Event.begins : StateMachine.Event → Bool
  | .updateCall call => decide (call.isOutgoing = false ∧ call.state.getId = .pending)
  | .sip (.incomingCall ..) => true
  | _ => false

/-- For any other event a new machine goes to X and does nothing. -/
theorem Handles.stray {offered : StateMachine.Event} {target : Control} {id : CtxId}
    (handles : Handles settings env offered .init { id } target final errors deeds)
    (searched : (∃ call, offered = .updateCall call) ∨ ∃ event, offered = .sip event) (late : offered.begins = false) :
    target = .X ∧ deeds = [.action id .cleanUp] := by
  cases handles with
  | dropped ignored => exact absurd ignored (init_takes searched)
  | taken transition effects =>
    cases transition with
    | dial call incoming pending uri => simp [StateMachine.Event.begins, incoming, pending] at late
    | refuse call incoming pending uri => simp [StateMachine.Event.begins, incoming, pending] at late
    | accept made ext => cases late
    | strayUpdate | strayState | strayMedia =>
      obtain ⟨_, cleaned, rfl⟩ := effects.one
      cases cleaned
      exact ⟨rfl, by simp [Effect.stops, Effect.discards, Effect.hangups, Action.name]⟩
    | dtmf control waiting => cases waiting
    | tgEnded control inside => cases inside
    | sipEnded control inside => cases inside
    | failed control inside => cases inside

end Gains

/-- Nobody has the leg that a new bridge is made for. -/
theorem Gateway.Routed.missed {gateway : Gateway} {event : GatewayEvent} {counter : Nat} {offered : StateMachine.Event}
    (routed : Gateway.Routed gateway event gateway.freshSlot counter offered) {leg : Leg} (named : offered.names leg) :
    ∀ bridge ∈ gateway.bridges, ¬ bridge.ctx.Has leg := by
  have longer : gateway.bridges ≠ gateway.freshSlot.bridges := by
    intro same
    have lengths := congrArg List.length same
    simp [Slot.bridges, Gateway.freshSlot] at lengths
  intro bridge held has
  generalize made : gateway.freshSlot = slot at routed longer
  cases routed with
  | callFresh call missed => cases named; exact missed bridge held has.2
  | sipFresh event missed =>
    cases event with
    | incomingCall id ext => cases named; exact missed bridge held has.2
    | callStateUpdate | callMediaStateUpdate => cases named
  | callHeld call slot found holds => exact longer found
  | sipHeld event slot found holds => exact longer found
  | message => cases named
  | error => cases named

/-- The events about a leg. -/
inductive Concerns : GatewayEvent → Leg → Prop where
  | call (call : Call) : Concerns (.update (.call call)) (.tg call.id)
  | sip (event : Sip.Event) : Concerns (.sip event) (.sip event.id)

theorem Gateway.Routed.concerns {gateway : Gateway} {event : GatewayEvent} {slot : Slot} {counter : Nat}
    {offered : StateMachine.Event} (routed : Gateway.Routed gateway event slot counter offered) {leg : Leg}
    (named : offered.names leg) : Concerns event leg := by
  cases routed with
  | callHeld call | callFresh call => cases named; exact .call call
  | sipHeld event | sipFresh event =>
    cases event with
    | incomingCall id ext => cases named; exact .sip (.incomingCall id ext)
    | callStateUpdate | callMediaStateUpdate => cases named
  | message | error => cases named

def GatewayEvent.begins : GatewayEvent → Bool
  | .update (.call call) => (StateMachine.Event.updateCall call).begins
  | .sip event => (StateMachine.Event.sip event).begins
  | _ => false

namespace System
variable {settings : Settings} {label : Label} {before after : System} {past seen : List Obs}

/-- TDLib returns ids that no bridge holds, and none that is 0. -/
structure FreshCalls (label : Label) (before : System) (seen : List Obs) : Prop where
  tdlib : TdlibIds label before seen
  created : ∀ ctx id, .associated ctx .dialTg (.tg id) ∈ seen →
    ∀ bridge ∈ before.gateway.bridges, bridge.ctx.tgCallId ≠ id

/-- TDLib and pjsua return ids that no bridge holds. -/
structure FreshIds (label : Label) (before : System) (seen : List Obs) : Prop extends FreshCalls label before seen where
  dialed : ∀ ctx id call, .given (some ctx) id call ∈ seen →
    ∀ bridge ∈ before.gateway.bridges, bridge.ctx.sipCallId ≠ id

/-- No two bridges have the leg. -/
def Single (leg : Leg) (system : System) : Prop :=
  ∀ bridge ∈ system.gateway.bridges, ∀ other ∈ system.gateway.bridges, bridge.ctx.Has leg → other.ctx.Has leg →
    bridge = other

/-- No two bridges have a leg in common. -/
def Unique (system : System) : Prop := ∀ leg, Single leg system

/-- When the leg is returned to an action, no bridge has it. -/
def Returns (leg : Leg) (before : System) (seen : List Obs) : Prop :=
  (match leg with
    | .tg id => ∃ ctx, .associated ctx .dialTg (.tg id) ∈ seen
    | .sip id => ∃ ctx call, .given (some ctx) id call ∈ seen) →
  ∀ bridge ∈ before.gateway.bridges, ¬ bridge.ctx.Has leg

/-- A leg that is new to the bridge that was served is new to all. -/
theorem Agreed.new_leg {env : Env} {event : GatewayEvent} {caller : Option Sip.CallRef} {middle : System}
    {slot : Slot} {counter : Nat} {offered : StateMachine.Event} {control : Control} {ctx : Context}
    {errors : List InternalEvent} (agreed : Agreed before) (popped : Popped before event caller middle)
    (routed : Gateway.Routed before.gateway event slot counter offered)
    (handles : Handles settings env offered slot.bridge.control slot.bridge.ctx control ctx errors
      (seen.filter Obs.deed))
    {name : ActionName} {leg : Leg} (returns : Returns leg before seen)
    (member : .associated slot.bridge.ctx.id name leg ∈ seen.filter Obs.deed) :
    ∀ bridge ∈ before.gateway.bridges, ¬ bridge.ctx.Has leg := by
  rcases handles.associates member with ⟨initial, named⟩ | dialed
  · rcases agreed.offers popped routed with ⟨within, _⟩ | ⟨rfl, _⟩
    · have inside := (agreed.agrees _ within).composite
      rw [initial] at inside
      cases inside
    · exact routed.missed named
  · rcases dialed with ⟨rfl, id, rfl⟩ | ⟨rfl, id, rfl⟩
    · exact returns ⟨_, List.mem_of_mem_filter member⟩
    · obtain ⟨call, given⟩ := handles.given member
      exact returns ⟨_, call, List.mem_of_mem_filter given⟩

theorem Single.step {leg : Leg} (single : Single leg before) (agreed : Agreed before)
    (step : Step settings label before seen after) (returns : Returns leg before seen) : Single leg after := by
  cases step_worked step agreed.numbered with
  | idle bridges counter quiet => unfold Single; rw [bridges]; exact single
  | @served env event caller middle slot counter offered control ctx errors looped popped route routed handles
      counted members =>
    unfold Single
    -- Another bridge does not have the leg when the served one has it now.
    have apart : ctx.Has leg → ∀ bridge ∈ before.gateway.bridges, bridge.ctx.id ≠ slot.bridge.ctx.id →
        ¬ bridge.ctx.Has leg := by
      intro has bridge held other hasToo
      rcases handles.gains has with old | ⟨name, member⟩
      · rcases routed.origin with ⟨found, _⟩ | ⟨rfl, _⟩
        · exact other (by rw [single bridge held slot.bridge (Slot.within found) hasToo old])
        · exact Context.bare _ leg old
      · exact agreed.new_leg popped routed handles returns member bridge held hasToo
    intro bridge member other memberToo has hasToo
    rcases (members bridge).mp member with ⟨held, foreign⟩ | ⟨rfl, _⟩ <;>
      rcases (members other).mp memberToo with ⟨heldToo, foreignToo⟩ | ⟨rfl, _⟩
    · exact single bridge held other heldToo has hasToo
    · exact absurd has (apart hasToo bridge held foreign)
    · exact absurd hasToo (apart has other heldToo foreignToo)
    · rfl

theorem FreshCalls.returns (fresh : FreshCalls label before seen) (id : TgCallId) : Returns (.tg id) before seen :=
  fun ⟨ctx, member⟩ bridge held has => fresh.created ctx id member bridge held has.2

theorem FreshIds.returns (fresh : FreshIds label before seen) : ∀ leg, Returns leg before seen
  | .tg id => fresh.toFreshCalls.returns id
  | .sip id => fun ⟨ctx, call, member⟩ bridge held has => fresh.dialed ctx id call member bridge held has.2

theorem Single.run {cache : Cache} {maxCalls : Nat} {system : System} {id : TgCallId}
    (run : Reaches settings FreshCalls (System.initial cache maxCalls) past system) : Single (.tg id) system := by
  refine (Run.state_invariant (fun system => Agreed system ∧ Single (.tg id) system) run ?_ ?_).2
  · exact ⟨Agreed.initial cache maxCalls, fun bridge member => by cases member⟩
  · rintro before seen after ⟨agreed, single⟩ ⟨label, fresh, step⟩
    exact ⟨agreed.step step fresh.tdlib, single.step agreed step (fresh.returns id)⟩

theorem FreshIds.tdlibIds {cache : Cache} {maxCalls : Nat}
    (run : Reaches settings FreshIds (System.initial cache maxCalls) past before) :
    Reaches settings TdlibIds (System.initial cache maxCalls) past before :=
  run.mono fun _ _ _ => Restricted.weaken fun _ _ _ fresh => fresh.tdlib

theorem Unique.run {cache : Cache} {maxCalls : Nat} {system : System}
    (run : Reaches settings FreshIds (System.initial cache maxCalls) past system) : Agreed system ∧ Unique system := by
  refine Run.state_invariant (fun system => Agreed system ∧ Unique system) run ?_ ?_
  · exact ⟨Agreed.initial cache maxCalls, fun leg bridge member => by cases member⟩
  · rintro before seen after ⟨agreed, unique⟩ ⟨label, fresh, step⟩
    exact ⟨agreed.step step fresh.tdlib, fun leg => (unique leg).step agreed step (fresh.returns leg)⟩

/-- The event that the gateway thread takes is processed by the machine of a bridge, all that is seen is what the
machine did, and the bridge, if it is still there, is as the machine left it. -/
inductive ProcessedBy (settings : Settings) (env : Env) (ctx : CtxId) (before : System) (seen : List Obs)
    (after : System) : Prop where
  | intro {event : GatewayEvent} {caller : Option Sip.CallRef} {middle : System} {slot : Slot} {counter : Nat}
      {offered : StateMachine.Event} {control : Control} {deps : Deps}
      (taken : before.pop = some (event, caller, middle))
      (routed : before.gateway.route event = some ((slot, counter), offered))
      (present : slot.bridge ∈ before.gateway.bridges) (own : slot.bridge.ctx.id = ctx)
      (processed : StateMachine.processEvent settings env slot.bridge.control offered
        { toWorld := middle.gateway.toWorld, ctx := slot.bridge.ctx } = .ok (control, deps))
      (shown : seen = deps.seen)
      (left : ∀ bridge ∈ after.gateway.bridges, bridge.ctx.id = ctx → bridge = ⟨control, deps.ctx⟩)

/-- A step in which one bridge is given the event and acts, no other bridge changes and none is created. -/
structure HandledBy (settings : Settings) (env : Env) (ctx : CtxId) (before : System) (seen : List Obs)
    (after : System) : Prop where
  processed : ProcessedBy settings env ctx before seen after
  counter : after.gateway.ctxCounter = before.gateway.ctxCounter
  acted : ∀ number name, .action number name ∈ seen → number = ctx
  others : ∀ bridge ∈ before.gateway.bridges, bridge.ctx.id ≠ ctx → bridge ∈ after.gateway.bridges
  changed : ∀ bridge ∈ after.gateway.bridges, bridge ∈ before.gateway.bridges ∨ bridge.ctx.id = ctx

theorem Step.processedBy {env : Env} {event : GatewayEvent} {caller : Option Sip.CallRef} {middle : System}
    {slot : Slot} {counter : Nat} {offered : StateMachine.Event}
    (step : Step settings (.loop env) before seen after) (numbered : before.gateway.WellNumbered)
    (taken : before.pop = some (event, caller, middle))
    (route : before.gateway.route event = some ((slot, counter), offered))
    (present : slot.bridge ∈ before.gateway.bridges) :
    ProcessedBy settings env slot.bridge.ctx.id before seen after := by
  obtain ⟨control, deps, processed, shown, left⟩ := step.processed taken route
  refine .intro taken route present rfl processed shown fun bridge member own => ?_
  have bridges : after.gateway.bridges = slot.before ++ Gateway.kept event control deps.ctx ++ slot.after := by
    rw [left]
  rcases ((Gateway.route_routed route).mem_after numbered bridges bridge).mp member with ⟨_, other⟩ | ⟨same, _⟩
  · exact absurd own other
  · exact same

/-- Whoever has the leg is the one who is offered the event. -/
private theorem Unique.finds {event : GatewayEvent} {slot : Slot} {counter : Nat} {offered : StateMachine.Event}
    {leg : Leg} {bridge : Bridge} (unique : Unique before)
    (routed : Gateway.Routed before.gateway event slot counter offered) (concerns : Concerns event leg)
    (member : bridge ∈ before.gateway.bridges) (has : bridge.ctx.Has leg) :
    slot.bridge = bridge ∧ counter = before.gateway.ctxCounter := by
  cases concerns with
  | call call =>
    cases routed with
    | callHeld call slot found holds =>
      exact ⟨unique (.tg call.id) _ (Slot.within found) bridge member ⟨has.1, holds⟩ has, rfl⟩
    | callFresh call missed => exact absurd has.2 (missed bridge member)
  | sip event =>
    cases routed with
    | sipHeld event slot found holds =>
      exact ⟨unique (.sip event.id) _ (Slot.within found) bridge member ⟨has.1, holds⟩ has, rfl⟩
    | sipFresh event missed => exact absurd has.2 (missed bridge member)

/-- An event about a leg that no bridge has, unless it begins a call, passes without a trace: the
machine that is made for it goes to X at once. -/
theorem Agreed.passes {env : Env} {event : GatewayEvent} {caller : Option Sip.CallRef} {middle : System} {leg : Leg}
    (agreed : Agreed before) (step : Step settings (.loop env) before seen after)
    (taken : before.pop = some (event, caller, middle)) (concerns : Concerns event leg) (late : event.begins = false)
    (nobody : ∀ bridge ∈ before.gateway.bridges, ¬ bridge.ctx.Has leg) :
    after.gateway.bridges = before.gateway.bridges ∧ ∃ ctx, seen.filter Obs.deed = [.action ctx .cleanUp] := by
  obtain ⟨popped, handled⟩ := step.handled taken
  generalize after.gateway = final at *
  cases handled with
  | passed unrouted quiet => cases concerns <;> cases unrouted
  | @offered slot counter offered control ctx errors _ _ routed handles bridges counted kept touched =>
    have routed := popped.routed routed
    have fresh : slot = before.gateway.freshSlot := by
      rcases agreed.offers popped routed with ⟨held, offer⟩ | ⟨fresh, _⟩
      · refine absurd ?_ (nobody _ held)
        cases concerns with
        | call call => cases routed <;> cases offer with | call _ own nonzero => exact ⟨nonzero, own⟩
        | sip event => cases routed <;> cases offer with | sip _ own valid => exact ⟨proper valid, own⟩
      · exact fresh
    subst fresh
    have searched : ((∃ call, offered = .updateCall call) ∨ ∃ event, offered = .sip event) ∧
        offered.begins = event.begins ∧ Gateway.erases event = true := by
      cases concerns with
      | call call => cases routed <;> exact ⟨.inl ⟨call, rfl⟩, rfl, rfl⟩
      | sip event => cases routed <;> exact ⟨.inr ⟨event, rfl⟩, rfl, rfl⟩
    obtain ⟨gone, deeds⟩ := Handles.stray handles searched.1 (searched.2.1.trans late)
    refine ⟨?_, _, deeds⟩
    rw [bridges, Gateway.kept, if_pos ⟨searched.2.2, gone⟩]
    simp [Gateway.freshSlot]

/-- While the ids that are returned are fresh, no leg belongs to two bridges, an event about a leg that
was associated with a bridge is handled by that bridge as long as the bridge exists, and
when no bridge has the leg any more, no new bridge is left for it. -/
theorem event_reaches_its_bridge {cache : Cache} {maxCalls : Nat}
    (reached : Reaches settings FreshIds (System.initial cache maxCalls) past before) :
    Unique before ∧ ∀ env seen after event caller middle leg, Step settings (.loop env) before seen after →
      before.pop = some (event, caller, middle) → Concerns event leg →
        (∀ ctx name, .associated ctx name leg ∈ past → (∃ bridge ∈ before.gateway.bridges, bridge.ctx.id = ctx) →
          HandledBy settings env ctx before seen after) ∧
        (event.begins = false → (∀ bridge ∈ before.gateway.bridges, ¬ bridge.ctx.Has leg) →
          after.gateway.bridges = before.gateway.bridges) := by
  obtain ⟨agreed, unique⟩ := Unique.run reached
  refine ⟨unique, fun env seen after event caller middle leg step taken concerns => ⟨?_, fun late nobody =>
    (agreed.passes step taken concerns late nobody).1⟩⟩
  rintro ctx name associated ⟨bridge, member, rfl⟩
  have has := ((Ledger.run (FreshIds.tdlibIds reached)).recorded bridge member).legs name leg associated
  cases route : before.gateway.route event with
  | none => cases concerns <;> cases route
  | some target =>
    obtain ⟨⟨slot, counter⟩, offered⟩ := target
    obtain ⟨control, ctx, errors, handles, counted, members⟩ := step.served agreed.numbered taken route
    have own := handles.own
    obtain ⟨rfl, same⟩ := unique.finds (Gateway.route_routed route) concerns member has
    refine ⟨step.processedBy agreed.numbered taken route member, counted.trans same, fun number name shown => ?_,
      fun other held foreign => ?_, fun other held => ?_⟩
    · exact own.author (List.mem_filter.mpr ⟨shown, rfl⟩) rfl
    · exact (members other).mpr (.inl ⟨held, foreign⟩)
    · rcases (members other).mp held with ⟨old, _⟩ | ⟨rfl, _⟩
      · exact .inl old
      · exact .inr own.id

/-- `FreshIds` as a test. -/
def freshIds (label : Label) (before : System) (seen : List Obs) : Bool :=
  tdlibIds label seen && seen.all fun obs => match obs with
    | .associated _ .dialTg (.tg id) => before.gateway.bridges.all fun bridge => decide (bridge.ctx.tgCallId ≠ id)
    | .given (some _) id _ => before.gateway.bridges.all fun bridge => decide (bridge.ctx.sipCallId ≠ id)
    | _ => true

theorem freshIds_sound (tested : freshIds label before seen = true) : FreshIds label before seen := by
  simp only [freshIds, Bool.and_eq_true, List.all_eq_true] at tested
  obtain ⟨tdlib, shown⟩ := tested
  exact ⟨⟨tdlibIds_sound tdlib,
    fun ctx id member bridge held => of_decide_eq_true (List.all_eq_true.mp (shown _ member) bridge held)⟩,
    fun ctx id call member bridge held => of_decide_eq_true (List.all_eq_true.mp (shown _ member) bridge held)⟩

/-- The gateway dials, and a PJSIP thread reports about the new call before it has been given its id. -/
theorem ringing_call_reaches_its_bridge : ∃ past before seen after,
    Reaches { callbackUri := "sip:100@pbx" } FreshIds (System.initial {} 1) past before ∧
      Step { callbackUri := "sip:100@pbx" } (.loop (Env.success 42 7 0)) before seen after ∧
        before.pop.map (fun taken => taken.1) = some (.sip (.callStateUpdate 0 .calling)) ∧
        .associated 1 .dialSip (.sip 0) ∈ past ∧
        HandledBy { callbackUri := "sip:100@pbx" } (Env.success 42 7 0) 1 before seen after := by
  have ran : (execute (System.step { callbackUri := "sip:100@pbx" }) freshIds [.tdlib (.call ⟨7, 42, false, .pending⟩),
      .loop (Env.success 42 7 0),
      .loop { Env.success 42 7 0 with makeCall := { callbacks := [⟨0, 0, .state .calling⟩], result := .ok 0 } }]
      (System.initial {} 1)).any (fun result =>
        (result.1.step { callbackUri := "sip:100@pbx" } (.loop (Env.success 42 7 0))).any fun _ =>
          decide (result.1.pop.map (fun taken => taken.1) = some (.sip (.callStateUpdate 0 .calling)) ∧
            .associated 1 .dialSip (.sip 0) ∈ result.2 ∧ ∃ bridge ∈ result.1.gateway.bridges, bridge.ctx.id = 1)) =
      true := by decide +kernel
  obtain ⟨before, past, reached, found⟩ := execute_reaches (fun _ _ _ => freshIds_sound) ran
  obtain ⟨⟨after, seen⟩, step, found⟩ := (Option.any_eq_true _ _).mp found
  obtain ⟨popped, associated, present⟩ := of_decide_eq_true found
  obtain ⟨⟨event, caller, middle⟩, taken, same⟩ := Option.map_eq_some_iff.mp popped
  cases same
  exact ⟨past, before, seen, after, reached, step, popped, associated,
    ((event_reaches_its_bridge reached).2 (Env.success 42 7 0) seen after _ caller middle _ step taken (.sip _)).1 1
      _ associated present⟩

end System
end Tg2Sip
