import Tg2Sip.Gateway
import Tg2Sip.Proofs.ActionEffects

/-! Which machine is offered an event, and what the gateway is like when the handler has
returned. The handlers of the gateway differ in how they search and in nothing else. -/

namespace Tg2Sip
open TdApi Lib

@[simp] theorem Slot.bridge_mem (slot : Slot) : slot.bridge ∈ slot.bridges := by simp [Slot.bridges]

/-- The bridge that a slot points to is one of the bridges that it takes apart. -/
theorem Slot.within {slot : Slot} {bridges : List Bridge} (found : bridges = slot.bridges) : slot.bridge ∈ bridges := by
  rw [found]
  exact slot.bridge_mem

theorem findBridge_some {predicate : Context → Bool} {bridges : List Bridge} {slot : Slot}
    (found : findBridge predicate bridges = some slot) :
    bridges = slot.bridges ∧ predicate slot.bridge.ctx = true ∧
      ∀ bridge ∈ slot.before, predicate bridge.ctx = false := by
  induction bridges generalizing slot with
  | nil => cases found
  | cons bridge rest ih =>
    unfold findBridge at found
    split at found
    next chosen => cases found; exact ⟨rfl, chosen, by simp⟩
    next passed =>
      obtain ⟨later, foundLater, rfl⟩ := Option.map_eq_some_iff.mp found
      obtain ⟨same, chosen, first⟩ := ih foundLater
      refine ⟨by rw [same]; rfl, chosen, ?_⟩
      intro other member
      rcases List.mem_cons.mp member with rfl | member
      · simpa using passed
      · exact first other member

theorem findBridge_mem {predicate : Context → Bool} {bridges : List Bridge} {slot : Slot}
    (found : findBridge predicate bridges = some slot) : slot.bridge ∈ bridges ∧ predicate slot.bridge.ctx = true := by
  obtain ⟨same, chosen, _⟩ := findBridge_some found
  exact ⟨Slot.within same, chosen⟩

theorem findBridge_none {predicate : Context → Bool} {bridges : List Bridge} :
    findBridge predicate bridges = none ↔ ∀ bridge ∈ bridges, predicate bridge.ctx = false := by
  induction bridges with
  | nil => simp [findBridge]
  | cons bridge rest ih =>
    unfold findBridge
    split
    next chosen => simp [chosen]
    next passed => simp [ih, passed]

/-- What becomes of signaling data, which no machine handles. -/
def Obs.signals : Obs → Bool
  | .forwarded .. | .updateSignaling .. => true
  | _ => false

theorem Obs.deed_of_signals {obs : Obs} (signals : obs.signals = true) : obs.deed = false := by
  cases obs <;> first | rfl | cases signals

/-- Nothing is done where only signaling data is passed on. -/
theorem deeds_of_signals {seen : List Obs} (quiet : ∀ obs ∈ seen, obs.signals = true) : seen.filter Obs.deed = [] :=
  List.filter_eq_nil_iff.mpr fun obs shown => by simp [Obs.deed_of_signals (quiet obs shown)]

theorem undone {seen : List Obs} (quiet : seen.filter Obs.deed = []) {obs : Obs} (shown : obs ∈ seen) :
    obs.deed = false :=
  Bool.eq_false_iff.mpr (List.filter_eq_nil_iff.mp quiet obs shown)

theorem deed_mem_filter {past seen : List Obs} {obs : Obs} (deed : obs.deed = true) :
    obs ∈ past ++ seen.filter Obs.deed ↔ obs ∈ past ++ seen := by
  simp [deed]

/-- Without deeds the record of deeds stays as it is. -/
theorem deed_mem_idle {past seen : List Obs} (quiet : seen.filter Obs.deed = []) {obs : Obs} (deed : obs.deed = true) :
    obs ∈ past ++ seen ↔ obs ∈ past := by
  refine ⟨fun member => (List.mem_append.mp member).resolve_right fun new => ?_, List.mem_append_left _⟩
  rw [undone quiet new] at deed
  cases deed

namespace Gateway

/-- The machine that an event is offered to, with the counter of contexts afterwards,
and the event as the machine sees it. -/
def route (gateway : Gateway) : GatewayEvent → Option ((Slot × Nat) × StateMachine.Event)
  | .internal (.internalError ctxId prm) =>
    (findBridge (fun ctx => ctx.id == ctxId) gateway.bridges).map fun slot =>
      ((slot, gateway.ctxCounter), .internalError prm)
  | .internal (.signalingDataEmitted ..) => none
  | .update (.call call) => some (gateway.searchCall fun ctx => ctx.tgCallId == call.id, .updateCall call)
  | .update (.newMessage message) =>
    match message.sender with
    | .chat _ => none
    | .user user =>
      if (gateway.bridges.filter fun bridge => bridge.ctx.userId == user).length > 1 then none
      else
        (findBridge (fun ctx => ctx.userId == user) gateway.bridges).map fun slot =>
          ((slot, gateway.ctxCounter), .updateNewMessage message)
  | .update (.newCallSignalingData ..) => none
  | .sip event => some (gateway.searchCall fun ctx => ctx.sipCallId == event.id, .sip event)

/-- Nothing but the bridges and the counter matters. -/
theorem route_congr {gateway other : Gateway} (bridges : other.bridges = gateway.bridges)
    (counter : other.ctxCounter = gateway.ctxCounter) (event : GatewayEvent) :
    other.route event = gateway.route event := by
  rcases event with (⟨ctxId, prm⟩ | ⟨ctxId, data⟩) | (call | message | ⟨callId, data⟩) | event <;>
    simp only [route, searchCall, bridges, counter]

def erases : GatewayEvent → Bool
  | .update (.newMessage _) => false
  | _ => true

variable {settings : Settings} {env : Env} {gateway after : Gateway} {event : GatewayEvent} {seen : List Obs}

theorem processEvent_routed {target : Slot × Nat} {offered : StateMachine.Event}
    (routed : gateway.route event = some (target, offered)) :
    gateway.processEvent settings env event = gateway.deliver settings env target offered (erases event) := by
  rcases event with (⟨ctxId, prm⟩ | ⟨ctxId, data⟩) | (call | message | ⟨callId, data⟩) | event
  · obtain ⟨slot, found, same⟩ := Option.map_eq_some_iff.mp routed
    cases same
    simp only [processEvent, processInternalError, found, erases]
  · cases routed
  · cases routed; rfl
  · cases sender : message.sender with
    | chat chat =>
      simp only [route, sender] at routed
      cases routed
    | user user =>
      simp only [route, sender] at routed
      simp only [processEvent, processUpdateNewMessage, sender]
      by_cases sole : 1 < (gateway.bridges.filter fun bridge => bridge.ctx.userId == user).length
      · rw [if_pos sole] at routed
        cases routed
      · rw [if_neg sole] at routed ⊢
        obtain ⟨slot, found, same⟩ := Option.map_eq_some_iff.mp routed
        cases same
        rw [found, erases]
  · cases routed
  · cases routed; rfl

/-- What an event without a machine shows: nothing, unless it is signaling for a bridge. -/
inductive Passed (gateway : Gateway) : GatewayEvent → List Obs → Prop where
  | nothing (event : GatewayEvent) : Passed gateway event []
  | sent (bridge : Bridge) (member : bridge ∈ gateway.bridges) (data : Bytes) :
      Passed gateway (.internal (.signalingDataEmitted bridge.ctx.id data))
        [.forwarded bridge.ctx.id (.sendCallSignalingData bridge.ctx.tgCallId data)]
  | received (bridge : Bridge) (member : bridge ∈ gateway.bridges) (data : Bytes) :
      Passed gateway (.update (.newCallSignalingData bridge.ctx.tgCallId data)) [.updateSignaling bridge.ctx.id data]

/-- An event without a machine leaves the gateway as it is. -/
theorem processEvent_passes (settings : Settings) (env : Env) (unrouted : gateway.route event = none) : ∃ seen,
    gateway.processEvent settings env event = .ok (gateway, seen) ∧ Passed gateway event seen := by
  rcases event with (⟨ctxId, prm⟩ | ⟨ctxId, data⟩) | (call | message | ⟨callId, data⟩) | event
  · have missed := Option.map_eq_none_iff.mp unrouted
    exact ⟨[], by simp only [processEvent, processInternalError, missed]; rfl, .nothing _⟩
  · simp only [processEvent, processSignalingDataEmitted]
    split
    next => exact ⟨_, rfl, .nothing _⟩
    next slot found =>
      obtain ⟨member, named⟩ := findBridge_mem found
      split
      next => exact ⟨_, rfl, .nothing _⟩
      next controller present =>
        obtain rfl : slot.bridge.ctx.id = ctxId := by simpa using named
        exact ⟨_, rfl, .sent slot.bridge member data⟩
  · cases unrouted
  · cases sender : message.sender with
    | chat chat => exact ⟨[], by simp only [processEvent, processUpdateNewMessage, sender]; rfl, .nothing _⟩
    | user user =>
      simp only [route, sender] at unrouted
      simp only [processEvent, processUpdateNewMessage, sender]
      split at unrouted
      next several => exact ⟨[], by simp only [several, if_true]; rfl, .nothing _⟩
      next sole =>
        have missed := Option.map_eq_none_iff.mp unrouted
        exact ⟨[], by simp only [sole, if_false, missed]; rfl, .nothing _⟩
  · simp only [processEvent, processUpdateNewCallSignalingData]
    split
    next => exact ⟨_, rfl, .nothing _⟩
    next slot found =>
      obtain ⟨member, named⟩ := findBridge_mem found
      split
      next => exact ⟨_, rfl, .nothing _⟩
      next controller present =>
        obtain rfl : slot.bridge.ctx.tgCallId = callId := by simpa using named
        split
        next => exact ⟨_, rfl, .received slot.bridge member data⟩
        next => exact ⟨_, rfl, .nothing _⟩
  · cases unrouted

/-- What an unrouted event shows is signaling. -/
theorem processEvent_unrouted (settings : Settings) (env : Env) (unrouted : gateway.route event = none) : ∃ seen,
    gateway.processEvent settings env event = .ok (gateway, seen) ∧ ∀ obs ∈ seen, obs.signals = true := by
  obtain ⟨seen, same, passed⟩ := processEvent_passes settings env unrouted
  refine ⟨seen, same, ?_⟩
  cases passed with
  | nothing => simp
  | sent | received => simp [Obs.signals]

/-- A new bridge at the end of the list. -/
def freshSlot (gateway : Gateway) : Slot :=
  ⟨gateway.bridges, { ctx := { id := gateway.ctxCounter + 1 } }, []⟩

/-- The ways an event finds its machine. -/
inductive Routed (gateway : Gateway) : GatewayEvent → Slot → Nat → StateMachine.Event → Prop where
  | callHeld (call : Call) (slot : Slot) (found : gateway.bridges = slot.bridges)
      (holds : slot.bridge.ctx.tgCallId = call.id) :
      Routed gateway (.update (.call call)) slot gateway.ctxCounter (.updateCall call)
  | callFresh (call : Call) (missed : ∀ bridge ∈ gateway.bridges, bridge.ctx.tgCallId ≠ call.id) :
      Routed gateway (.update (.call call)) gateway.freshSlot (gateway.ctxCounter + 1) (.updateCall call)
  | sipHeld (event : Sip.Event) (slot : Slot) (found : gateway.bridges = slot.bridges)
      (holds : slot.bridge.ctx.sipCallId = event.id) :
      Routed gateway (.sip event) slot gateway.ctxCounter (.sip event)
  | sipFresh (event : Sip.Event) (missed : ∀ bridge ∈ gateway.bridges, bridge.ctx.sipCallId ≠ event.id) :
      Routed gateway (.sip event) gateway.freshSlot (gateway.ctxCounter + 1) (.sip event)
  | message (message : Message) (user : UserId) (slot : Slot) (sender : message.sender = .user user)
      (sole : (gateway.bridges.filter fun bridge => bridge.ctx.userId == user).length ≤ 1)
      (found : gateway.bridges = slot.bridges) (peer : slot.bridge.ctx.userId = user) :
      Routed gateway (.update (.newMessage message)) slot gateway.ctxCounter (.updateNewMessage message)
  | error (ctxId : CtxId) (prm : Sip.CallOpParam) (slot : Slot) (found : gateway.bridges = slot.bridges)
      (named : slot.bridge.ctx.id = ctxId) :
      Routed gateway (.internal (.internalError ctxId prm)) slot gateway.ctxCounter (.internalError prm)

theorem searchCall_cases (gateway : Gateway) (predicate : Context → Bool) :
    (∃ slot, gateway.searchCall predicate = (slot, gateway.ctxCounter) ∧ gateway.bridges = slot.bridges ∧
      predicate slot.bridge.ctx = true) ∨
    (gateway.searchCall predicate = (gateway.freshSlot, gateway.ctxCounter + 1) ∧
      ∀ bridge ∈ gateway.bridges, predicate bridge.ctx = false) := by
  unfold searchCall
  split
  next slot found =>
    obtain ⟨same, chosen, _⟩ := findBridge_some found
    exact .inl ⟨slot, rfl, same, chosen⟩
  next missed => exact .inr ⟨rfl, findBridge_none.mp missed⟩

theorem route_routed {slot : Slot} {counter : Nat} {offered : StateMachine.Event}
    (routed : gateway.route event = some ((slot, counter), offered)) : Routed gateway event slot counter offered := by
  rcases event with (⟨ctxId, prm⟩ | ⟨ctxId, data⟩) | (call | message | ⟨callId, data⟩) | event
  · obtain ⟨slot, found, same⟩ := Option.map_eq_some_iff.mp routed
    cases same
    obtain ⟨same, named, _⟩ := findBridge_some found
    exact .error ctxId prm slot same (by simpa using named)
  · cases routed
  · simp only [route, Option.some.injEq, Prod.mk.injEq] at routed
    obtain ⟨searched, rfl⟩ := routed
    rcases searchCall_cases gateway (fun ctx => ctx.tgCallId == call.id) with
      ⟨held, found, same, holds⟩ | ⟨found, missed⟩
    · rw [found] at searched
      cases searched
      exact .callHeld call _ same (by simpa using holds)
    · rw [found] at searched
      cases searched
      exact .callFresh call (by simpa using missed)
  · simp only [route] at routed
    split at routed
    next => cases routed
    next user sender =>
      split at routed
      next => cases routed
      next sole =>
        obtain ⟨slot, found, same⟩ := Option.map_eq_some_iff.mp routed
        cases same
        obtain ⟨same, peer, _⟩ := findBridge_some found
        exact .message message user slot sender (by omega) same (by simpa using peer)
  · cases routed
  · simp only [route, Option.some.injEq, Prod.mk.injEq] at routed
    obtain ⟨searched, rfl⟩ := routed
    rcases searchCall_cases gateway (fun ctx => ctx.sipCallId == event.id) with
      ⟨held, found, same, holds⟩ | ⟨found, missed⟩
    · rw [found] at searched
      cases searched
      exact .sipHeld event _ same (by simpa using holds)
    · rw [found] at searched
      cases searched
      exact .sipFresh event (by simpa using missed)

/-- The machine that was offered the event, as the list of bridges shows it afterwards. -/
def kept (event : GatewayEvent) (control : StateMachine.Control) (ctx : Context) : List Bridge :=
  if erases event = true ∧ control = .X then [] else [⟨control, ctx⟩]

/-- A handler that returned: one machine was offered the event, or none. -/
inductive Handled (settings : Settings) (env : Env) (gateway : Gateway) (event : GatewayEvent) :
    Gateway → List Obs → Prop where
  | offered {slot : Slot} {counter : Nat} {offered : StateMachine.Event} {control : StateMachine.Control}
      {ctx : Context} {errors : List InternalEvent} {after : Gateway} {seen : List Obs}
      (routed : Routed gateway event slot counter offered)
      (handles : Handles settings env offered slot.bridge.control slot.bridge.ctx control ctx errors
        (seen.filter Obs.deed))
      (bridges : after.bridges = slot.before ++ kept event control ctx ++ slot.after)
      (counted : after.ctxCounter = counter) (queued : after.errors = gateway.errors ++ errors)
      (touched : ∃ final : Deps, Run Deps.Touch { toWorld := gateway.toWorld, ctx := slot.bridge.ctx } seen final ∧
        after.toWorld = final.toWorld) :
      Handled settings env gateway event after seen
  | passed {seen : List Obs} (unrouted : gateway.route event = none) (quiet : ∀ obs ∈ seen, obs.signals = true) :
      Handled settings env gateway event gateway seen

theorem deliver_ok {target : Slot × Nat} {offered : StateMachine.Event} {erasing : Bool} :
    gateway.deliver settings env target offered erasing = .ok (after, seen) ↔ ∃ control deps,
      StateMachine.processEvent settings env target.1.bridge.control offered
        { toWorld := gateway.toWorld, ctx := target.1.bridge.ctx } = .ok (control, deps) ∧
      after = { toWorld := deps.toWorld
                bridges := target.1.before ++ (if erasing = true ∧ control = .X then [] else [⟨control, deps.ctx⟩]) ++
                  target.1.after
                ctxCounter := target.2 } ∧ seen = deps.seen := by
  obtain ⟨slot, counter⟩ := target
  simp only [deliver, bind_ok_iff, pure, Except.pure, Except.ok.injEq, Prod.mk.injEq, Prod.exists]
  constructor
  · rintro ⟨control, deps, ran, rfl, rfl⟩
    exact ⟨control, deps, ran, rfl, rfl⟩
  · rintro ⟨control, deps, ran, rfl, rfl⟩
    exact ⟨control, deps, ran, rfl, rfl⟩

/-- What a handler that found a machine returned. -/
theorem processEvent_served {slot : Slot} {counter : Nat} {offered : StateMachine.Event}
    (ran : gateway.processEvent settings env event = .ok (after, seen))
    (routed : gateway.route event = some ((slot, counter), offered)) : ∃ control deps,
      StateMachine.processEvent settings env slot.bridge.control offered
        { toWorld := gateway.toWorld, ctx := slot.bridge.ctx } = .ok (control, deps) ∧
      after = { toWorld := deps.toWorld, bridges := slot.before ++ kept event control deps.ctx ++ slot.after
                ctxCounter := counter } ∧ seen = deps.seen := by
  rw [processEvent_routed routed] at ran
  exact deliver_ok.mp ran

/-- A handler that returned let one machine process the event, or passed it by. -/
theorem processEvent_ran (ran : gateway.processEvent settings env event = .ok (after, seen)) :
    (gateway.route event = none ∧ after = gateway ∧ ∀ obs ∈ seen, obs.signals = true) ∨
    ∃ slot counter offered control deps, Routed gateway event slot counter offered ∧
      StateMachine.processEvent settings env slot.bridge.control offered
        { toWorld := gateway.toWorld, ctx := slot.bridge.ctx } = .ok (control, deps) ∧
      after = { toWorld := deps.toWorld, bridges := slot.before ++ kept event control deps.ctx ++ slot.after
                ctxCounter := counter } ∧ seen = deps.seen := by
  cases routed : gateway.route event with
  | none =>
    obtain ⟨shown, same, quiet⟩ := processEvent_unrouted settings env routed
    rw [same] at ran
    cases ran
    exact .inl ⟨rfl, rfl, quiet⟩
  | some target =>
    obtain ⟨⟨slot, counter⟩, offered⟩ := target
    obtain ⟨control, deps, processed⟩ := processEvent_served ran routed
    exact .inr ⟨slot, counter, offered, control, deps, route_routed routed, processed⟩

theorem processEvent_handled (ran : gateway.processEvent settings env event = .ok (after, seen)) :
    Handled settings env gateway event after seen := by
  rcases processEvent_ran ran with ⟨unrouted, rfl, quiet⟩ |
    ⟨slot, counter, offered, control, deps, routed, processed, rfl, rfl⟩
  · exact .passed unrouted quiet
  · obtain ⟨ctx, errors, deeds, handles, did⟩ := StateMachine.processEvent_handles processed
    cases did.ctx
    refine .offered routed ?_ rfl rfl did.errors ⟨deps, did.run rfl, rfl⟩
    rw [did.done rfl]
    exact handles

end Gateway
end Tg2Sip
