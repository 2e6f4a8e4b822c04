import Tg2Sip.Proofs.SipTraffic

/-! Between events the control state of a bridge says which legs its context has, or an
error for the context waits in the internal queue. -/

namespace Tg2Sip
open TdApi Lib StateMachine

def Failing (errors : List InternalEvent) (ctx : CtxId) : Prop := ∃ prm, .internalError ctx prm ∈ errors

/-- What the control state says about the context. -/
def Agrees (errors : List InternalEvent) (bridge : Bridge) : Prop :=
  match bridge.control with
  | .init | .X => False
  | .fromTg .sipWaitMedia =>
    bridge.ctx.tgCallId ≠ 0 ∧ (0 ≤ bridge.ctx.sipCallId ∨ Failing errors bridge.ctx.id) ∧ bridge.ctx.controller = none
  | .fromTg .waitTg => bridge.ctx.tgCallId ≠ 0 ∧ 0 ≤ bridge.ctx.sipCallId ∧ bridge.ctx.controller = none
  | .fromSip .sipWaitConfirm => bridge.ctx.tgCallId = 0 ∧ 0 ≤ bridge.ctx.sipCallId ∧ bridge.ctx.controller = none
  | .fromSip .waitTg =>
    (bridge.ctx.tgCallId ≠ 0 ∨ Failing errors bridge.ctx.id) ∧ 0 ≤ bridge.ctx.sipCallId ∧ bridge.ctx.controller = none
  | .fromTg .waitDtmf | .fromSip .sipWaitMedia | .fromSip .waitDtmf =>
    bridge.ctx.tgCallId ≠ 0 ∧ 0 ≤ bridge.ctx.sipCallId ∧ bridge.ctx.controller.isSome = true

/-- An error that still waits is all that the errors matter for. -/
theorem Agrees.mono {errors waiting : List InternalEvent} {bridge : Bridge} (agrees : Agrees errors bridge)
    (kept : Failing errors bridge.ctx.id → Failing waiting bridge.ctx.id) : Agrees waiting bridge := by
  obtain ⟨control, ctx⟩ := bridge
  rcases control with _ | (_ | _ | _) | (_ | _ | _ | _) | _
  case fromTg.sipWaitMedia => exact ⟨agrees.1, agrees.2.1.imp_right kept, agrees.2.2⟩
  case fromSip.waitTg => exact ⟨agrees.1.imp_right kept, agrees.2⟩
  all_goals exact agrees

theorem Agrees.composite {errors : List InternalEvent} {bridge : Bridge} (agrees : Agrees errors bridge) :
    bridge.control.composite = true := by
  obtain ⟨control, ctx⟩ := bridge
  cases control <;> first | rfl | exact agrees.elim

theorem Failing.append_left {errors : List InternalEvent} {ctx : CtxId} (failing : Failing errors ctx)
    (later : List InternalEvent) : Failing (errors ++ later) ctx := by
  obtain ⟨prm, member⟩ := failing
  exact ⟨prm, by simp [member]⟩

theorem Failing.queued {queued : List InternalEvent} {ctx : CtxId} {prm : Sip.CallOpParam}
    (waiting : List InternalEvent) (member : .internalError ctx prm ∈ queued) : Failing (waiting ++ queued) ctx :=
  ⟨prm, by simp [member]⟩

/-- A machine is offered an event about its own leg, or it is new and has none. -/
inductive Offer : Control → Context → StateMachine.Event → Prop where
  | call {control : Control} {ctx : Context} (call : Call) (own : ctx.tgCallId = call.id) (nonzero : call.id ≠ 0) :
      Offer control ctx (.updateCall call)
  | sip {control : Control} {ctx : Context} (event : Sip.Event) (own : ctx.sipCallId = event.id)
      (valid : 0 ≤ event.id) :
      Offer control ctx (.sip event)
  | message {control : Control} {ctx : Context} (message : Message) : Offer control ctx (.updateNewMessage message)
  | error {control : Control} {ctx : Context} (prm : Sip.CallOpParam) : Offer control ctx (.internalError prm)

/-- A machine that is still in its first state. -/
inductive FreshOffer : StateMachine.Event → Prop where
  | call (call : Call) (nonzero : call.id ≠ 0) : FreshOffer (.updateCall call)
  | sip (event : Sip.Event) (valid : 0 ≤ event.id) : FreshOffer (.sip event)

section Handling
variable {settings : Settings} {env : Env} {offered : StateMachine.Event} {control target : Control}
  {ctx final : Context} {errors waiting queued : List InternalEvent} {deeds : List Obs}

/-- The ids that TDLib and pjsua returned are ids of calls. -/
structure ReturnedIds (deeds : List Obs) : Prop where
  created : ∀ ctx id, .associated ctx .dialTg (.tg id) ∈ deeds → id ≠ 0
  dialed : ∀ ctx id, .associated ctx .dialSip (.sip id) ∈ deeds → 0 ≤ id

theorem Handles.agrees_fresh {id : CtxId}
    (handles : Handles settings env offered .init { id } target final queued deeds) (offer : FreshOffer offered)
    (returned : ReturnedIds deeds) :
    target = .X ∨ Agrees (waiting ++ queued) ⟨target, final⟩ := by
  cases handles with
  | dropped ignored =>
    refine absurd ignored (init_takes ?_)
    cases offer with
    | call call nonzero => exact .inl ⟨call, rfl⟩
    | sip event valid => exact .inr ⟨event, rfl⟩
  | taken transition effects =>
    cases transition with
    | dial call incoming pending uri =>
      cases offer with
      | call call nonzero =>
        obtain ⟨_, _, _, _, _, stored, rest, rfl, rfl⟩ := effects.three
        obtain ⟨_, _, _, _, _, user, dialed, rfl, rfl⟩ := rest.two
        cases stored
        cases user
        cases dialed with
        | dialedSip call ctx prm sipId created dialed =>
          exact .inr ⟨nonzero, .inl (returned.dialed id sipId (by simp)), rfl⟩
        | refusedSip call ctx prm reason refused => exact .inr ⟨nonzero, .inr (.queued _ (.head _)), rfl⟩
    | refuse | strayUpdate | strayState | strayMedia => exact .inl rfl
    | accept sipId ext =>
      cases offer with
      | sip event valid =>
        obtain ⟨_, _, _, _, _, stored, accepted, rfl, rfl⟩ := effects.two
        cases stored
        cases accepted with
        | rang ext ctx parsed good =>
          obtain ⟨_, sip, tg, controller⟩ := Actions.parseExtension_id good
          exact .inr ⟨tg, sip ▸ valid, controller⟩
        | silent ext ctx parsed prm good =>
          obtain ⟨_, sip, tg, controller⟩ := Actions.parseExtension_id good
          exact .inr ⟨tg, sip ▸ valid, controller⟩
        | badExtension ext ctx invalid => exact .inr ⟨rfl, valid, rfl⟩
    | dtmf control waiting => cases offer
    | tgEnded control inside => cases inside
    | sipEnded control inside => cases inside
    | failed control inside => cases inside

theorem Handles.agrees (handles : Handles settings env offered control ctx target final queued deeds)
    (before : Agrees errors ⟨control, ctx⟩) (offer : Offer control ctx offered) (returned : ReturnedIds deeds)
    (kept : (∀ prm, offered ≠ .internalError prm) → Failing errors ctx.id → Failing waiting ctx.id) :
    target = .X ∨ Agrees (waiting ++ queued) ⟨target, final⟩ := by
  cases handles with
  | dropped ignored =>
    refine .inr ((before.mono (kept ?_)).mono fun failing => failing.append_left [])
    rintro prm rfl
    have failed : Transition settings control (.internalError prm) _ _ := .failed control before.composite prm
    have taken := select_iff.mpr failed
    rw [ignored] at taken
    cases taken
  | taken transition effects =>
    cases transition with
    | dial | refuse | strayUpdate | accept | strayState | strayMedia => exact before.elim
    | tgEnded | sipEnded | failed => exact .inl rfl
    | answer id =>
      obtain ⟨tg, _, controller⟩ := before
      obtain ⟨_, answered, rfl⟩ := effects.one
      cases offer with
      | sip event own valid =>
        have sip : 0 ≤ ctx.sipCallId := own ▸ valid
        cases answered <;> exact .inr ⟨tg, sip, controller⟩
    | bridge call ready =>
      obtain ⟨tg, sip, _⟩ := before
      obtain ⟨_, _, _, _, _, created, bridged, rfl, rfl⟩ := effects.two
      cases created
      cases bridged <;> exact .inr ⟨tg, sip, rfl⟩
    | dialTg id =>
      obtain ⟨_, sip, controller⟩ := before
      obtain ⟨_, dialed, rfl⟩ := effects.one
      cases dialed with
      | dialedTg ctx lookups user id dials created =>
        exact .inr ⟨.inl (returned.created ctx.id id (by simp)), sip, controller⟩
      | undialedTg ctx lookups user prm dials => exact .inr ⟨.inr (.queued _ (.head _)), sip, controller⟩
    | connect call ready =>
      obtain ⟨_, sip, _⟩ := before
      obtain ⟨_, _, _, _, _, user, rest, rfl, rfl⟩ := effects.three
      obtain ⟨_, _, _, _, _, created, answered, rfl, rfl⟩ := rest.two
      cases offer with
      | call call own nonzero =>
        have tg : ctx.tgCallId ≠ 0 := own ▸ nonzero
        cases user
        cases created
        cases answered <;> exact .inr ⟨tg, sip, rfl⟩
    | media id =>
      obtain ⟨_, bridged, rfl⟩ := effects.one
      cases bridged <;> exact .inr before
    | dtmf control waiting message digits =>
      obtain ⟨_, dialed, rfl⟩ := effects.one
      cases dialed
      rcases control with _ | (_ | _ | _) | (_ | _ | _ | _) | _ <;> cases waiting
      · exact .inr before
      · exact .inr before

end Handling
namespace System

/-- TDLib gives its calls ids other than 0. -/
def TdlibIds (label : Label) (_ : System) (seen : List Obs) : Prop :=
  (∀ call, label = .tdlib (.call call) → call.id ≠ 0) ∧ ∀ ctx id, .associated ctx .dialTg (.tg id) ∈ seen → id ≠ 0

/-- `TdlibIds` as a test. -/
def tdlibIds (label : Label) (seen : List Obs) : Bool :=
  (match label with
    | .tdlib (.call call) => decide (call.id ≠ 0)
    | _ => true) &&
  seen.all fun obs => match obs with
    | .associated _ .dialTg (.tg id) => decide (id ≠ 0)
    | _ => true

theorem tdlibIds_sound {label : Label} {before : System} {seen : List Obs} (tested : tdlibIds label seen = true) :
    TdlibIds label before seen := by
  simp only [tdlibIds, Bool.and_eq_true, List.all_eq_true] at tested
  obtain ⟨calls, shown⟩ := tested
  refine ⟨?_, fun ctx id member => of_decide_eq_true (shown _ member)⟩
  rintro call rfl
  simpa using calls

structure Agreed (system : System) : Prop where
  numbered : system.gateway.WellNumbered
  ids : ValidIds system.gateway.sip system.live
  calls : ∀ call, .call call ∈ system.tgEvents → call.id ≠ 0
  agrees : ∀ bridge ∈ system.gateway.bridges, Agrees system.gateway.errors bridge

theorem Agreed.initial (cache : Cache) (maxCalls : Nat) : Agreed (initial cache maxCalls) := by
  refine ⟨⟨List.nodup_nil, ?_⟩, ⟨?_, ?_⟩, ?_, ?_⟩
  · intro bridge member; cases member
  · intro queued member; cases member
  · intro id call held; cases held
  · intro call member; cases member
  · intro bridge member; cases member

variable {settings : Settings} {label : Label} {before after : System} {seen : List Obs}

theorem tgEvents_step (step : Step settings label before seen after) (update : Update)
    (queued : update ∈ after.tgEvents) :
    update ∈ before.tgEvents ∨ label = .tdlib update := by
  cases label with
  | tdlib added =>
    cases step
    rcases List.mem_append.mp queued with queued | queued
    · exact .inl queued
    · rw [List.mem_singleton.mp queued]; exact .inr rfl
  | signal => cases step; exact .inl queued
  | worker blob => cases step; exact .inl queued
  | incoming id ext => obtain ⟨rfl, live, folded, rfl⟩ := settle_some step; exact .inl queued
  | callback callback => obtain ⟨rfl, live, folded, rfl⟩ := settle_some step; exact .inl queued
  | loop env =>
    rcases loop_some step with ⟨_, rfl, rfl⟩ | ⟨event, caller, middle, gateway, waiting, ran, settled⟩
    · exact .inl queued
    · obtain ⟨_, live, folded, rfl⟩ := settle_some settled
      rcases pop_cases waiting with ⟨head, rest, _, _, rfl⟩ | ⟨head, rest, held, _, rfl⟩ | ⟨head, rest, _, _, _, rfl⟩
      · exact .inl queued
      · refine .inl ?_
        rw [held]
        exact List.mem_cons_of_mem _ queued
      · exact .inl queued

/-- An error that is still queued when the next handler runs was not the one it took, unless
the handler took it for that very context. -/
theorem Popped.failing {event : GatewayEvent} {caller : Option Sip.CallRef} {middle : System}
    (popped : Popped before event caller middle) {ctx : CtxId} (failing : Failing before.gateway.errors ctx)
    (other : ∀ prm, event ≠ .internal (.internalError ctx prm)) : Failing middle.gateway.errors ctx := by
  obtain ⟨prm, member⟩ := failing
  rw [popped.errors] at member
  rcases List.mem_append.mp member with taken | kept
  · exfalso
    unfold errorOf at taken
    split at taken
    next internal =>
      obtain ⟨taken, _⟩ := List.mem_filter.mp taken
      rw [← List.mem_singleton.mp taken] at other
      exact other prm rfl
    next => cases taken
  · exact ⟨prm, kept⟩

section Serving
variable {env : Env} {event : GatewayEvent} {caller : Option Sip.CallRef} {middle : System} {slot : Slot}
  {counter : Nat}
  {offered : StateMachine.Event} {control : Control} {ctx : Context} {errors : List InternalEvent} {deeds : List Obs}

/-- A bridge is offered what it has a leg for, and a new one the first event about a call. -/
theorem Agreed.offers (agreed : Agreed before) (popped : Popped before event caller middle)
    (routed : Gateway.Routed before.gateway event slot counter offered) :
    slot.bridge ∈ before.gateway.bridges ∧ Offer slot.bridge.control slot.bridge.ctx offered ∨
      slot = before.gateway.freshSlot ∧ FreshOffer offered := by
  cases routed with
  | callHeld call slot found holds => exact .inl ⟨Slot.within found, .call call holds (agreed.calls call popped.call)⟩
  | callFresh call missed => exact .inr ⟨rfl, .call call (agreed.calls call popped.call)⟩
  | sipHeld event slot found holds =>
    obtain ⟨queued, member, rfl, _⟩ := popped.sip
    exact .inl ⟨Slot.within found, .sip _ holds (agreed.ids.1 queued member)⟩
  | sipFresh event missed =>
    obtain ⟨queued, member, rfl, _⟩ := popped.sip
    exact .inr ⟨rfl, .sip _ (agreed.ids.1 queued member)⟩
  | message message user slot sender sole found peer => exact .inl ⟨Slot.within found, .message message⟩
  | error ctxId prm slot found named => exact .inl ⟨Slot.within found, .error prm⟩

/-- No handler leaves a bridge in X behind. -/
theorem Agreed.stays (agreed : Agreed before) (popped : Popped before event caller middle)
    (routed : Gateway.Routed before.gateway event slot counter offered)
    (handles : Handles settings env offered slot.bridge.control slot.bridge.ctx control ctx errors deeds)
    (here : ¬ (Gateway.erases event = true ∧ control = .X)) : control ≠ .X := by
  intro gone
  rcases agreed.offers popped routed with ⟨held, _⟩ | ⟨rfl, offer⟩
  · have inside := (agreed.agrees _ held).composite
    cases routed with
    | message message user slot sender sole found peer =>
      rw [← handles.message, gone] at inside
      cases inside
    | _ => exact here ⟨rfl, gone⟩
  · cases offer with
    | call call nonzero => cases routed <;> exact here ⟨rfl, gone⟩
    | sip event valid => cases routed <;> exact here ⟨rfl, gone⟩

/-- The bridge that was offered the event still agrees, or it is gone. -/
private theorem Agreed.served (agreed : Agreed before)
    (popped : Popped before event caller middle) (routed : Gateway.Routed before.gateway event slot counter offered)
    (handles : Handles settings env offered slot.bridge.control slot.bridge.ctx control ctx errors deeds)
    (returned : ReturnedIds deeds) (here : ¬ (Gateway.erases event = true ∧ control = .X)) :
    Agrees (middle.gateway.errors ++ errors) ⟨control, ctx⟩ := by
  have stays := agreed.stays popped routed handles here
  rcases agreed.offers popped routed with ⟨held, offer⟩ | ⟨rfl, offer⟩
  · refine (handles.agrees (agreed.agrees _ held) offer returned fun other failing => popped.failing failing
      ?_).resolve_left stays
    rintro prm rfl
    cases routed with
    | error ctxId prm slot found named => exact other prm rfl
  · exact (Handles.agrees_fresh handles offer returned).resolve_left stays

end Serving

theorem Agreed.handled {env : Env} {event : GatewayEvent} {caller : Option Sip.CallRef} {middle : System}
    {final : Gateway} (agreed : Agreed before) (popped : Popped before event caller middle)
    (handled : Gateway.Handled settings env middle.gateway event final seen)
    (returned : ReturnedIds (seen.filter Obs.deed)) :
    ∀ bridge ∈ final.bridges, Agrees final.errors bridge := by
  have numbered := popped.numbered agreed.numbered
  have agrees : ∀ bridge ∈ middle.gateway.bridges, Agrees before.gateway.errors bridge := by
    rw [popped.bridges]; exact agreed.agrees
  cases handled with
  | passed unrouted quiet =>
    intro bridge member
    refine (agrees bridge member).mono fun failing => popped.failing failing ?_
    rintro prm rfl
    exact Gateway.unrouted_error unrouted bridge member rfl
  | @offered slot counter offered control ctx errors _ _ routed handles bridges counted queued touched =>
    have other : ∀ bridge ∈ slot.before ++ slot.after, Agrees (middle.gateway.errors ++ errors) bridge := by
      intro bridge member
      obtain ⟨held, different⟩ := (routed.others numbered bridge).mp member
      refine ((agrees bridge held).mono fun failing => popped.failing failing ?_).mono fun failing =>
        failing.append_left errors
      rintro prm rfl
      cases routed with
      | error ctxId prm slot found named => exact different named.symm
    rw [queued, bridges]
    intro bridge member
    simp only [List.mem_append] at member
    rcases member with (earlier | taken) | later
    · exact other bridge (by simp [earlier])
    · obtain ⟨rfl, here⟩ := Gateway.mem_kept.mp taken
      exact agreed.served popped (popped.routed routed) handles returned here
    · exact other bridge (by simp [later])

theorem Step.returned (step : Step settings label before seen after) (tdlib : TdlibIds label before seen) :
    ReturnedIds (seen.filter Obs.deed) := by
  refine ⟨fun ctx id member => tdlib.2 ctx id (List.mem_of_mem_filter member), fun ctx id member => ?_⟩
  cases step_moved step with
  | idle bridges counter errors quiet => rw [quiet] at member; cases member
  | handled env event caller middle looped popped handled =>
    generalize after.gateway = final at handled
    cases handled with
    | passed unrouted quiet =>
      rw [deeds_of_signals quiet] at member
      cases member
    | offered routed handles bridges counted queued touched =>
      obtain ⟨call, given⟩ := handles.given member
      exact (pjsua_given (step_folded step).1 (List.mem_of_mem_filter given)).1

theorem Agreed.step (agreed : Agreed before) (step : Step settings label before seen after)
    (tdlib : TdlibIds label before seen) : Agreed after := by
  have moved := step_moved step
  refine ⟨moved.numbered agreed.numbered,
    (validIds_kept before.maxCalls).system step (fun _ _ _ _ => trivial) agreed.ids rfl, ?_, ?_⟩
  · intro call queued
    rcases tgEvents_step step _ queued with queued | added
    · exact agreed.calls call queued
    · exact tdlib.1 call added
  · cases moved with
    | idle bridges counter errors quiet => rw [bridges, errors]; exact agreed.agrees
    | handled env event caller middle looped popped handled =>
      exact agreed.handled popped handled (step.returned tdlib)

theorem Agreed.run {cache : Cache} {maxCalls : Nat} {past : List Obs} {system : System}
    (run : Reaches settings TdlibIds (System.initial cache maxCalls) past system) : Agreed system :=
  Run.state_invariant Agreed run (Agreed.initial cache maxCalls) fun _ _ _ agreed moved => by
    obtain ⟨label, tdlib, step⟩ := moved
    exact agreed.step step tdlib

end System

/-- `BridgeAudio` runs only after `CreateTgVoip`, or when the SIP leg of an answered call has media. -/
theorem StateMachine.Transition.bridges {settings : Settings} {control target : Control} {event : StateMachine.Event}
    {actions first rest : List Action} (transition : Transition settings control event actions target)
    (split : actions = first ++ .bridgeAudio :: rest) :
    (∃ call, first = [.createTgVoip call]) ∨ first = [] ∧ control = .fromSip .sipWaitMedia := by
  have member : .bridgeAudio ∈ actions := by rw [split]; simp
  cases transition with
  | bridge call ready =>
    rcases first with _ | ⟨action, _ | ⟨other, tail⟩⟩ <;> simp at split
    exact .inl ⟨call, by rw [split.1]⟩
  | media id =>
    rcases first with _ | ⟨action, tail⟩ <;> simp at split
    exact .inr ⟨rfl, rfl⟩
  | _ => simp at member

namespace Gateway
variable {settings : Settings} {env : Env} {gateway : Gateway} {event : GatewayEvent}

/-- An event makes `BridgeAudio` run in a context that has no controller then. -/
def BridgesNull (settings : Settings) (env : Env) (gateway : Gateway) (event : GatewayEvent) : Prop :=
  ∃ slot counter offered first rest target, ∃ deps : Deps, gateway.route event = some ((slot, counter), offered) ∧
    StateMachine.select settings slot.bridge.control offered = some (first ++ .bridgeAudio :: rest, target) ∧
      StateMachine.runActions settings env first { toWorld := gateway.toWorld, ctx := slot.bridge.ctx } = .ok deps ∧
        deps.ctx.controller = none

theorem bridges_nothing_null {errors : List InternalEvent} (agrees : ∀ bridge ∈ gateway.bridges, Agrees errors bridge) :
    ¬ BridgesNull settings env gateway event := by
  rintro ⟨slot, counter, offered, first, rest, target, deps, routed, selected, ran, missing⟩
  rcases (select_iff.mp selected).bridges rfl with ⟨call, rfl⟩ | ⟨rfl, waiting⟩
  · obtain ⟨ctx, errors, deeds, effects, did⟩ := StateMachine.runActions_effects ran
    obtain ⟨_, created, _⟩ := effects.one
    rw [did.ctx] at missing
    cases created
    cases missing
  · cases ran
    rcases (route_routed routed).origin with ⟨found, _⟩ | ⟨rfl, _⟩
    · have agreed := agrees slot.bridge (Slot.within found)
      unfold Agrees at agreed
      rw [waiting] at agreed
      have present := agreed.2.2
      rw [missing] at present
      cases present
    · cases waiting

end Gateway

/-- Along every run of the process the control state of each bridge says what its context has, or an error
for the context is queued, so that `BridgeAudio` always finds a controller. -/
theorem System.control_agrees_with_context {settings : Settings} {cache : Cache} {maxCalls : Nat} {past : List Obs}
    {system : System} (run : Reaches settings TdlibIds (System.initial cache maxCalls) past system) :
    (∀ bridge ∈ system.gateway.bridges, Agrees system.gateway.internalEvents bridge) ∧
      ∀ env event, ¬ Gateway.BridgesNull settings env system.gateway event := by
  have agrees := (Agreed.run run).agrees
  refine ⟨fun bridge member => (agrees bridge member).mono fun ⟨prm, queued⟩ =>
    ⟨prm, List.mem_of_mem_filter queued⟩, ?_⟩
  exact fun env event => Gateway.bridges_nothing_null agrees

theorem System.answered_call_agrees : ∃ past system,
    Reaches { callbackUri := "sip:100@pbx" } TdlibIds (System.initial {} 1) past system ∧
      (∃ bridge ∈ system.gateway.bridges, bridge.control = .fromTg .waitTg ∧
        Agrees system.gateway.internalEvents bridge) ∧
        ∀ env event, ¬ Gateway.BridgesNull { callbackUri := "sip:100@pbx" } env system.gateway event := by
  have ran : (execute (System.step { callbackUri := "sip:100@pbx" }) (fun label _ seen => tdlibIds label seen)
      [.tdlib (.call ⟨7, 42, false, .pending⟩), .loop (Env.success 42 7 0), .loop (Env.success 42 7 0),
        .callback ⟨0, 0, .media true⟩, .loop (Env.success 42 7 0)] (System.initial {} 1)).any (fun result =>
          decide (∃ bridge ∈ result.1.gateway.bridges, bridge.control = .fromTg .waitTg)) = true := by decide +kernel
  obtain ⟨system, past, reached, found⟩ := execute_reaches (fun _ _ _ => tdlibIds_sound) ran
  obtain ⟨bridge, member, waiting⟩ := of_decide_eq_true found
  have agrees := control_agrees_with_context reached
  exact ⟨past, system, reached, ⟨bridge, member, waiting, agrees.1 bridge member⟩, agrees.2⟩

end Tg2Sip
