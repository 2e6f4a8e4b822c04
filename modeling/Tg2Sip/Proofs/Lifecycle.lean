import Tg2Sip.Proofs.Identity
import Tg2Sip.Proofs.Isolation

/-! How the list of bridges grows and shrinks. An event opens at most one bridge or closes at most
one, and an event about a call that no bridge has leaves nothing behind unless it opens one. -/

namespace Tg2Sip
open TdApi Lib StateMachine

/-- The events that a new machine stays for. -/
def StateMachine.Event.opens (settings : Settings) : StateMachine.Event → Bool
  | .updateCall call => decide (call.isOutgoing = false ∧ call.state.getId = .pending ∧ settings.callbackUri ≠ "")
  | .sip (.incomingCall ..) => true
  | _ => false

def GatewayEvent.opens (settings : Settings) : GatewayEvent → Bool
  | .update (.call call) => (StateMachine.Event.updateCall call).opens settings
  | .sip event => (StateMachine.Event.sip event).opens settings
  | _ => false

/-- The events that never change the set of bridges. -/
def GatewayEvent.aside : GatewayEvent → Bool
  | .update (.newMessage _) | .update (.newCallSignalingData ..) | .internal (.signalingDataEmitted ..) => true
  | _ => false

def TdApi.Function.callId : Function → Option TgCallId
  | .acceptCall id _ | .discardCall id .. | .sendCallSignalingData id _ => some id
  | _ => none

def SipRequest.callId : SipRequest → Option Sip.CallId
  | .answer id _ | .hangup id _ | .bridgeAudio id | .dialDtmf id _ => some id
  | .dial .. => none

/-- A request names a call of a context. -/
def Obs.names (ctx : Context) : Obs → Prop
  | .query _ _ function _ | .forwarded _ function => function.callId = some ctx.tgCallId
  | .sip _ _ request _ => request.callId = some ctx.sipCallId
  | _ => False

/-- Something is done on behalf of a context, or asked about one of its calls. -/
def Obs.concerns (ctx : Context) (obs : Obs) : Prop := obs.by = some ctx.id ∨ obs.names ctx

theorem Obs.names_cases {obs : Obs} {ctx : Context} (names : obs.names ctx) : obs.deed = true ∨ obs.signals = true := by
  cases obs with
  | query | sip => exact .inl rfl
  | forwarded => exact .inr rfl
  | _ => cases names

section Machines
variable {settings : Settings} {env : Env} {offered : StateMachine.Event} {target : Control} {final : Context}
  {errors : List InternalEvent} {deeds : List Obs} {id : CtxId}

theorem Handles.opened (handles : Handles settings env offered .init { id } target final errors deeds)
    (opens : offered.opens settings = true) : target ≠ .X := by
  cases handles with
  | dropped ignored => simp
  | taken transition effects =>
    cases transition with
    | dial | accept => simp
    | refuse call incoming pending uri => simp [StateMachine.Event.opens, uri] at opens
    | strayUpdate call stray =>
      simp only [StateMachine.Event.opens, decide_eq_true_eq] at opens
      exact absurd ⟨opens.1, opens.2.1⟩ stray
    | strayState | strayMedia => cases opens
    | dtmf control waiting => cases waiting
    | tgEnded control inside => cases inside
    | sipEnded control inside => cases inside
    | failed control inside => cases inside

/-- A machine that does not stay asks for nothing but the end of the call that it refuses. -/
theorem Handles.unopened (handles : Handles settings env offered .init { id } target final errors deeds)
    (searched : (∃ call, offered = .updateCall call) ∨ ∃ event, offered = .sip event)
    (late : offered.opens settings = false) :
    target = .X ∧ ∀ obs ∈ deeds, (∃ name, obs = .action id name) ∨ ∃ call, offered = .updateCall call ∧
      (obs = .associated id .storeTgId (.tg call.id) ∨
        ∃ succeeded, obs = .query id .cleanUp (.discardCall call.id false "" 0 false call.id) succeeded) := by
  cases begins : offered.begins with
  | false =>
    obtain ⟨gone, rfl⟩ := handles.stray searched begins
    exact ⟨gone, fun obs member => .inl ⟨_, List.mem_singleton.mp member⟩⟩
  | true =>
    cases handles with
    | dropped ignored => exact absurd ignored (init_takes searched)
    | taken transition effects =>
      cases transition with
      | dial call incoming pending uri => simp [StateMachine.Event.opens, incoming, pending, uri] at late
      | accept => cases late
      | refuse call incoming pending uri =>
        obtain ⟨_, _, _, _, _, stored, cleaned, _, rfl⟩ := effects.two
        cases stored
        cases cleaned
        refine ⟨rfl, ?_⟩
        intro obs member
        simp only [Effect.stops, Effect.discards, Effect.hangups, List.mem_cons, List.cons_append,
          List.nil_append] at member
        rcases member with rfl | rfl | rfl | member
        · exact .inl ⟨_, rfl⟩
        · exact .inr ⟨call, rfl, .inl rfl⟩
        · exact .inl ⟨_, rfl⟩
        · by_cases known : call.id = 0
          · simp [known] at member
          · simp only [Option.isSome_none, known, Bool.false_eq_true, if_false, ne_eq, not_false_eq_true, if_true,
              not_true_eq_false, List.nil_append, List.append_nil, List.mem_singleton] at member
            exact .inr ⟨call, rfl, .inr ⟨_, member⟩⟩
      | strayUpdate call stray => simp [StateMachine.Event.begins, stray] at begins
      | strayState | strayMedia => cases begins
      | dtmf control waiting => cases waiting
      | tgEnded control inside => cases inside
      | sipEnded control inside => cases inside
      | failed control inside => cases inside

end Machines

/-- Whatever is done is done for the context, or for none. -/
theorem Deps.run_by {before after : Deps} {seen : List Obs} (run : Run Deps.Touch before seen after) :
    after.ctx.id = before.ctx.id ∧ ∀ obs ∈ seen, ∀ number, obs.by = some number → number = before.ctx.id := by
  induction run with
  | refl => simp
  | @tail past middle seen final earlier last ih =>
    refine ⟨last.ctx_id.trans ih.1, ?_⟩
    intro obs member number named
    rcases List.mem_append.mp member with old | now
    · exact ih.2 obs old number named
    · rw [← ih.1]
      have called : ∀ {callbacks : List Sip.Callback}, obs ∈ callbacks.map Obs.callback → number = middle.ctx.id := by
        intro callbacks called
        obtain ⟨callback, _, rfl⟩ := List.mem_map.mp called
        cases named
      cases last with
      | shown shown own plain =>
        cases List.mem_singleton.mp now
        exact Option.some.inj (named.symm.trans own)
      | dialed callbacks id =>
        rcases List.mem_cons.mp now with rfl | now
        · exact (Option.some.inj named).symm
        · exact called now
      | undialed callbacks reason uri prm =>
        rcases List.mem_append.mp now with now | now
        · exact called now
        · rw [List.mem_singleton.mp now] at named
          exact (Option.some.inj named).symm
      | hungUp id call held prm hangup =>
        rcases List.mem_cons.mp now with rfl | now
        · exact (Option.some.inj named).symm
        · exact called now
      | context | failed | blocked | cached => cases now
      | emitted => rw [List.mem_singleton.mp now] at named; cases named
      | registered | unregistered | notHungUp =>
        rw [List.mem_singleton.mp now] at named
        exact (Option.some.inj named).symm

def numbers (bridges : List Bridge) : List CtxId := bridges.map fun bridge => bridge.ctx.id

/-- No bridge has the id that an event names. -/
def Missed (event : GatewayEvent) (bridges : List Bridge) :
    Prop := ∀ bridge ∈ bridges, ¬ Gateway.Addresses event bridge.ctx

/-- The same bridges are there after an event, or one more, or one less. -/
inductive Turnover (settings : Settings) (event : GatewayEvent) (before : List Bridge) : List Bridge → Prop where
  | same {after : List Bridge} (same : numbers after = numbers before) : Turnover settings event before after
  | opened (bridge : Bridge) (fresh : bridge.ctx.id ∉ numbers before) (opens : event.opens settings = true)
      (missed : Missed event before) : Turnover settings event before (before ++ [bridge])
  | closed {after : List Bridge} (first rest : List CtxId) (number : CtxId)
      (was : numbers before = first ++ number :: rest) (now : numbers after = first ++ rest) :
      Turnover settings event before after

/-- What an event does to the set of bridges, and what it leaves alone. -/
structure Lifecycle (settings : Settings) (event : GatewayEvent) (before after : List Bridge)
    (seen : List Obs) : Prop where
  turnover : Turnover settings event before after
  opened : event.opens settings = true → Missed event before → ∃ bridge, after = before ++ [bridge]
  stray : event.opens settings = false → Missed event before →
    after = before ∧ ∀ obs ∈ seen, ∀ bridge ∈ before, ¬ obs.concerns bridge.ctx
  aside : event.aside = true → numbers after = numbers before

namespace Gateway
variable {settings : Settings} {env : Env} {gateway after : Gateway} {event : GatewayEvent}
  {seen : List Obs} {slot : Slot} {counter : Nat} {offered : StateMachine.Event}

theorem unrouted_opens (unrouted : gateway.route event = none) : event.opens settings = false := by
  rcases event with (⟨ctxId, prm⟩ | ⟨ctxId, data⟩) | (call | message | ⟨callId, data⟩) | event
  case update.call | sip => cases unrouted
  all_goals rfl

/-- Only an event about a call makes a new machine, which sees what the gateway saw. -/
theorem Routed.searched (settings : Settings) (routed : Routed gateway event slot counter offered)
    (missed : Missed event gateway.bridges) :
    ((∃ call, offered = .updateCall call) ∨ ∃ sip, offered = .sip sip) ∧ offered.opens settings = event.opens settings ∧
      event.aside = false := by
  have absent : gateway.bridges = slot.bridges → ¬ Addresses event slot.bridge.ctx := by
    intro found
    exact missed _ (Slot.within found)
  cases routed with
  | callHeld call | callFresh call => exact ⟨.inl ⟨call, rfl⟩, rfl, rfl⟩
  | sipHeld event | sipFresh event => exact ⟨.inr ⟨event, rfl⟩, rfl, rfl⟩
  | message message user slot sender sole found peer => cases peer; exact absurd sender (absent found)
  | error ctxId prm slot found named => exact absurd named (absent found)

theorem Routed.aside (routed : Routed gateway event slot counter offered) (aside : event.aside = true) :
    erases event = false := by
  cases routed <;> first | rfl | cases aside

/-- The bridge that was served stays in its place or is removed. -/
theorem served_lifecycle {control : Control} {ctx : Context} (found : gateway.bridges = slot.bridges)
    (same : ctx.id = slot.bridge.ctx.id) (named : Addresses event slot.bridge.ctx)
    (message : event.aside = true → erases event = false) :
    Lifecycle settings event gateway.bridges (slot.before ++ kept event control ctx ++ slot.after) seen := by
  have member : slot.bridge ∈ gateway.bridges := Slot.within found
  have stays : erases event = false ∨ control ≠ .X →
      numbers (slot.before ++ kept event control ctx ++ slot.after) = numbers gateway.bridges := by
    intro here
    have present : kept event control ctx = [⟨control, ctx⟩] := by
      rw [kept, if_neg]
      intro gone
      rcases here with here | here
      · rw [gone.1] at here; cases here
      · exact here gone.2
    simp [numbers, found, Slot.bridges, present, same]
  refine ⟨?_, fun _ missed => absurd named (missed _ member), fun _ missed => absurd named (missed _ member),
    fun aside => stays (.inl (message aside))⟩
  by_cases gone : erases event = true ∧ control = .X
  · refine .closed (numbers slot.before) (numbers slot.after) slot.bridge.ctx.id ?_ ?_
    · simp [numbers, found, Slot.bridges]
    · simp [numbers, kept, gone]
  · refine .same (stays ?_)
    cases erasing : erases event with
    | false => exact .inl rfl
    | true => exact .inr fun ended => gone ⟨erasing, ended⟩

/-- The list after an event, whatever becomes of the bridge that was searched for. -/
theorem processEvent_lifecycle (ran : gateway.processEvent settings env event = .ok (after, seen))
    (numbered : gateway.WellNumbered) :
    Lifecycle settings event gateway.bridges after.bridges seen := by
  rcases processEvent_ran ran with
    ⟨unrouted, rfl, _⟩ | ⟨slot, counter, offered, control, deps, routed, processed, rfl, rfl⟩
  · refine ⟨.same rfl, fun opens => ?_, fun _ missed => ⟨rfl, fun obs shown => ?_⟩, fun _ => rfl⟩
    · rw [unrouted_opens unrouted] at opens
      cases opens
    · obtain ⟨bridge, held, named, _⟩ := processEvent_passed ran unrouted obs shown
      exact absurd named (missed bridge held)
  · obtain ⟨ctx, errors, deeds, handles, did⟩ := processEvent_handles processed
    have same : deps.ctx.id = slot.bridge.ctx.id := did.ctx ▸ handles.own.id
    rcases routed.addressed with ⟨found, named⟩ | ⟨rfl, rfl, missed, erasing, update⟩
    · exact served_lifecycle found same named routed.aside
    · obtain ⟨searched, opens, quiet⟩ := Routed.searched settings routed missed
      have absent := numbered.fresh
      cases opening : event.opens settings with
      | true =>
        have stays := handles.opened (opens.trans opening)
        have list : gateway.freshSlot.before ++ kept event control deps.ctx ++ gateway.freshSlot.after =
            gateway.bridges ++ [⟨control, deps.ctx⟩] := by
          simp [freshSlot, kept, stays]
        dsimp only
        rw [list]
        refine ⟨.opened _ ?_ opening missed, fun _ _ => ⟨_, rfl⟩,
          fun late => absurd (opening.symm.trans late) (by simp), fun aside => ?_⟩
        · intro member
          obtain ⟨bridge, held, number⟩ := List.mem_map.mp member
          exact absent bridge held (number.trans same)
        · rw [quiet] at aside; cases aside
      | false =>
        obtain ⟨rfl, done⟩ := handles.unopened searched (opens.trans opening)
        have list : gateway.freshSlot.before ++ kept event .X deps.ctx ++ gateway.freshSlot.after =
            gateway.bridges := by
          simp [freshSlot, kept, erasing]
        dsimp only
        rw [list]
        refine ⟨.same rfl, fun opens => absurd (opening.symm.trans opens) (by simp), fun _ _ => ⟨rfl, ?_⟩, fun _ => rfl⟩
        have run := did.run rfl
        intro obs member bridge held concerns
        rcases concerns with own | naming
        · exact absent bridge held ((Deps.run_by run).2 obs member _ own)
        rcases Obs.names_cases naming with deed | signals
        · have among : obs ∈ deeds := did.done rfl ▸ List.mem_filter.mpr ⟨member, deed⟩
          rcases done obs among with ⟨name, rfl⟩ | ⟨call, rfl, rfl | ⟨succeeded, rfl⟩⟩
          · cases naming
          · cases naming
          · have event := update call rfl
            subst event
            exact missed bridge held (Option.some.inj naming).symm
        · have quiet := Deps.run_unsignaled run obs member
          rw [signals] at quiet
          cases quiet

end Gateway

namespace System

/-- Between events no bridge is in the first state or in the last. Other threads leave the bridges alone, and the
gateway thread opens or closes at most one for each event. -/
theorem bridges_come_and_go {settings : Settings} {cache : Cache} {maxCalls : Nat} {past : List Obs} {before : System}
    (reached : Reaches settings Anything (System.initial cache maxCalls) past before) :
    (∀ bridge ∈ before.gateway.bridges, bridge.control ≠ .init ∧ bridge.control ≠ .X) ∧
    (∀ label seen after, Step settings label before seen after → (∀ env, label ≠ .loop env) →
      after.gateway.bridges = before.gateway.bridges) ∧
    ∀ env event caller middle seen after, before.pop = some (event, caller, middle) →
      Step settings (.loop env) before seen after →
        Lifecycle settings event before.gateway.bridges after.gateway.bridges seen := by
  obtain ⟨numbered, inside⟩ := (composite_rule settings).run reached
  refine ⟨fun bridge member => ?_, fun label seen after step other => ?_,
    fun env event caller middle seen after taken step => ?_⟩
  · have composite := inside bridge member
    constructor <;>
    · intro same
      rw [same] at composite
      cases composite
  · cases step_moved step with
    | idle bridges counter errors quiet => exact bridges
    | handled env event queued middle looped popped handled => exact absurd looped (other env)
  · rcases loop_some step with ⟨empty, _, _⟩ | ⟨handled, queued, popped, gateway, waiting, ran, settled⟩
    · rw [empty] at taken; cases taken
    · cases waiting.symm.trans taken
      obtain ⟨_, live, _, rfl⟩ := settle_some settled
      have popped := pop_popped taken
      have lifecycle := Gateway.processEvent_lifecycle ran (popped.numbered numbered)
      rw [popped.bridges] at lifecycle
      exact lifecycle

theorem incoming_call_opens_a_bridge : ∃ past before seen after,
    Reaches { callbackUri := "" } Anything (System.initial {} 1) past before ∧
      Step { callbackUri := "" } (.loop (Env.success 42 7 0)) before seen after ∧
        Lifecycle { callbackUri := "" } (.sip (.incomingCall 0 "100")) before.gateway.bridges
          after.gateway.bridges seen ∧
          numbers before.gateway.bridges = [] ∧ numbers after.gateway.bridges = [1] := by
  have ran : (execute (System.step { callbackUri := "" }) (fun _ _ _ => true)
      [.incoming 0 "100", .loop (Env.success 42 7 0), .loop (Env.success 42 7 0)]
      (System.initial {} 1)).any (fun result =>
        (result.1.step { callbackUri := "" } (.loop (Env.success 42 7 0))).any fun next =>
          decide (result.1.pop.map (fun taken => taken.1) = some (.sip (.incomingCall 0 "100")) ∧
            numbers result.1.gateway.bridges = [] ∧ numbers next.1.gateway.bridges = [1])) = true := by decide +kernel
  obtain ⟨before, past, reached, found⟩ := execute_any ran
  obtain ⟨⟨after, seen⟩, step, found⟩ := (Option.any_eq_true _ _).mp found
  obtain ⟨popped, empty, one⟩ := of_decide_eq_true found
  obtain ⟨⟨event, caller, middle⟩, taken, same⟩ := Option.map_eq_some_iff.mp popped
  cases same
  have handled :=
    (bridges_come_and_go reached).2.2 (Env.success 42 7 0) (.sip (.incomingCall 0 "100")) caller middle seen
      after taken step
  exact ⟨past, before, seen, after, reached, step, handled, empty, one⟩

end System
end Tg2Sip
