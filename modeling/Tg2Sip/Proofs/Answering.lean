import Tg2Sip.Proofs.Bridges

/-! The order in which the legs of a bridge are answered and connected. A log keeps, for each step,
the event that the gateway thread took, the gateway as the event found it and what was seen. -/

namespace Tg2Sip
open TdApi Lib StateMachine

/-- The actions that a machine takes at most once. -/
def ActionName.once : ActionName → Bool
  | .dialSip | .dialTg | .answerTg | .createTgVoip | .answerSip | .bridgeAudio => true
  | _ => false

/-- Those that a machine has behind it, in order. -/
def StateMachine.Control.behind : Control → List ActionName
  | .init | .X | .fromSip .sipWaitConfirm => []
  | .fromTg .sipWaitMedia => [.dialSip]
  | .fromTg .waitTg => [.dialSip, .answerTg]
  | .fromTg .waitDtmf => [.dialSip, .answerTg, .createTgVoip, .bridgeAudio]
  | .fromSip .waitTg => [.dialTg]
  | .fromSip .sipWaitMedia => [.dialTg, .createTgVoip, .answerSip]
  | .fromSip .waitDtmf => [.dialTg, .createTgVoip, .answerSip, .bridgeAudio]

theorem StateMachine.Control.behind_nodup (control : Control) : control.behind.Nodup := by
  rcases control with _ | (_ | _ | _) | (_ | _ | _ | _) | _ <;> decide

/-- A transition adds what it takes, and one to X takes nothing. -/
theorem StateMachine.Transition.behind {settings : Settings} {control target : Control} {event : StateMachine.Event}
    {actions : List Action} (transition : Transition settings control event actions target) :
    (target = .X → (actions.map Action.name).filter ActionName.once = []) ∧
      (target ≠ .X → target.behind = control.behind ++ (actions.map Action.name).filter ActionName.once) := by
  cases transition with
  | dtmf control waiting message digits =>
    refine ⟨?_, fun _ => (List.append_nil _).symm⟩
    rintro rfl
    cases waiting
  | dial | accept | answer | bridge | dialTg | connect | media => exact ⟨(by simp), fun _ => rfl⟩
  | refuse | strayUpdate | strayState | strayMedia | tgEnded | sipEnded | failed =>
    exact ⟨fun _ => rfl, fun stays => absurd rfl stays⟩

/-- The start of an action that a context takes at most once. -/
def Obs.onceBy (ctx : CtxId) : Obs → Bool
  | .action number name => decide (number = ctx) && name.once
  | _ => false

section Effects
variable {settings : Settings} {env : Env} {ctx final : Context} {errors : List InternalEvent} {deeds : List Obs}

theorem Effect.unstarted {action : Action} (effect : Effect settings env action ctx final errors deeds)
    (number : CtxId) :
    deeds.filter (Obs.onceBy number) = [] := by
  cases effect with
  | cleanUp ctx controller ended same =>
    simp only [List.filter_append, stops, discards, hangups]
    split <;> split <;> split <;> rfl
  | dialedTg ctx lookups user id dials created => simp [Obs.onceBy, List.filter_map, Function.comp_def]
  | undialedTg ctx lookups user prm dials => simp [Obs.onceBy, List.filter_map, Function.comp_def]
  | _ => rfl

/-- The deeds show which actions were taken. -/
theorem Effects.started {actions : List Action} (effects : Effects settings env actions ctx final errors deeds) :
    deeds.filter (Obs.onceBy ctx.id) = ((actions.map Action.name).filter ActionName.once).map (.action ctx.id) := by
  induction effects with
  | nil ctx => rfl
  | @cons action actions ctx middle final errors later deeds next first rest ih =>
    rw [first.own.id] at ih
    simp only [List.filter_cons, List.map_cons, List.cons_append, List.filter_append, first.unstarted,
      List.nil_append, ih, Obs.onceBy, decide_true, Bool.true_and]
    split <;> simp

theorem Handles.behind {offered : StateMachine.Event} {control target : Control}
    (handles : Handles settings env offered control ctx target final errors deeds) (inside : control ≠ .X) :
    (target = .X → deeds.filter (Obs.onceBy ctx.id) = []) ∧
      (target ≠ .X → target.behind.map (.action ctx.id) =
        control.behind.map (.action ctx.id) ++ deeds.filter (Obs.onceBy ctx.id)) := by
  cases handles with
  | dropped ignored => exact ⟨fun gone => absurd gone inside, fun _ => by simp⟩
  | taken transition effects =>
    rw [effects.started, ← List.map_append]
    exact ⟨fun gone => by rw [transition.behind.1 gone, List.map_nil], fun stays => by rw [transition.behind.2 stays]⟩

/-- Nothing that is done in its own name is an action of another context. -/
theorem Own.others (own : Own ctx final errors deeds) {number : CtxId} (other : number ≠ ctx.id) :
    deeds.filter (Obs.onceBy number) = [] := by
  rw [List.filter_eq_nil_iff]
  intro obs member
  have mine := own.deeds obs member
  cases obs with
  | action taken name => cases mine; simp [Obs.onceBy, Ne.symm other]
  | _ => simp [Obs.onceBy]

end Effects

theorem Obs.filter_onceBy (seen : List Obs) (number : CtxId) :
    seen.filter (Obs.onceBy number) = (seen.filter Obs.deed).filter (Obs.onceBy number) := by
  rw [List.filter_filter]
  refine List.filter_congr fun obs member => ?_
  cases obs <;> simp [Obs.onceBy, Obs.deed]

section Requests
variable {settings : Settings} {env : Env} {ctx final : Context} {errors : List InternalEvent} {deeds : List Obs}
  {action : Action} {number : CtxId} {name : ActionName} {succeeded : Bool}

theorem Effect.accepts (effect : Effect settings env action ctx final errors deeds) {id : TgCallId}
    {protocol : CallProtocol} (asked : .query number name (.acceptCall id protocol) succeeded ∈ deeds) :
    action = .answerTg := by
  cases effect with
  | acceptedTg | refusedTg => rfl
  | cleanUp ctx controller ended same =>
    simp only [stops, discards, hangups, List.mem_append] at asked
    rcases asked with (asked | asked) | asked <;> split at asked <;> simp at asked
  | dialedTg ctx lookups user id dials created =>
    simp only [List.mem_append, List.mem_map, List.mem_singleton, reduceCtorEq, or_false] at asked
    obtain ⟨⟨function, answered⟩, member, same⟩ := asked
    cases same
    cases dials _ member
  | undialedTg ctx lookups user prm dials =>
    obtain ⟨⟨function, answered⟩, member, same⟩ := List.mem_map.mp asked
    cases same
    cases dials _ member
  | _ => simp at asked

theorem Effect.answers (effect : Effect settings env action ctx final errors deeds) {id : Sip.CallId}
    {prm : Sip.CallOpParam} (asked : .sip number name (.answer id prm) succeeded ∈ deeds)
    (ok : prm.statusCode = Actions.ok) : action = .answerSip := by
  cases effect with
  | answeredSip | unansweredSip => rfl
  | rang ext ctx parsed valid => simp at asked; rw [asked.2.2.1.2] at ok; cases ok
  | silent ext ctx parsed prm valid => simp at asked; rw [asked.2.2.1.2] at ok; cases ok
  | cleanUp ctx controller ended same =>
    simp only [stops, discards, hangups, List.mem_append] at asked
    rcases asked with (asked | asked) | asked <;> split at asked <;> simp at asked
  | _ => simp at asked

theorem Effect.bridges (effect : Effect settings env action ctx final errors deeds) {id : Sip.CallId}
    (asked : .sip number name (.bridgeAudio id) succeeded ∈ deeds) : action = .bridgeAudio := by
  cases effect with
  | bridged | unbridged => rfl
  | cleanUp ctx controller ended same =>
    simp only [stops, discards, hangups, List.mem_append] at asked
    rcases asked with (asked | asked) | asked <;> split at asked <;> simp at asked
  | _ => simp at asked

section Offered
variable {offered : StateMachine.Event} {control target : Control}
  (handles : Handles settings env offered control ctx target final errors deeds)
include handles

theorem Handles.accepts {id : TgCallId} {protocol : CallProtocol}
    (asked : .query number name (.acceptCall id protocol) succeeded ∈ deeds) :
    number = ctx.id ∧ control = .fromTg .sipWaitMedia ∧ ∃ id, offered = .sip (.callMediaStateUpdate id true) := by
  refine ⟨handles.own.author asked rfl, ?_⟩
  cases handles with
  | dropped ignored => cases asked
  | taken transition effects =>
    rcases effects.deed asked with ⟨_, _, _, same⟩ | ⟨action, member, _, _, _, _, effect, shown, _⟩
    · cases same
    · cases effect.accepts shown
      cases transition with
      | answer id => exact ⟨rfl, id, rfl⟩
      | _ => simp at member

theorem Handles.answers {id : Sip.CallId} {prm : Sip.CallOpParam}
    (asked : .sip number name (.answer id prm) succeeded ∈ deeds) (ok : prm.statusCode = Actions.ok) :
    number = ctx.id ∧ control = .fromSip .waitTg ∧
      ∃ call : Call, offered = .updateCall call ∧ call.state.getId = .ready := by
  refine ⟨handles.own.author asked rfl, ?_⟩
  cases handles with
  | dropped ignored => cases asked
  | taken transition effects =>
    rcases effects.deed asked with ⟨_, _, _, same⟩ | ⟨action, member, _, _, _, _, effect, shown, _⟩
    · cases same
    · cases effect.answers shown ok
      cases transition with
      | connect call ready => exact ⟨rfl, call, rfl, ready⟩
      | _ => simp at member

/-- The machine of a call from Telegram starts its controller in the same step, the other one before. -/
theorem Handles.bridges {id : Sip.CallId} {first rest : List Obs}
    (asked : deeds = first ++ .sip number name (.bridgeAudio id) succeeded :: rest) : number = ctx.id ∧
      ((control = .fromTg .waitTg ∧ .started ctx.id ∈ first ∧ ∃ call : Call, offered = .updateCall call ∧
        call.state.getId = .ready) ∨
        (control = .fromSip .sipWaitMedia ∧ ∃ id, offered = .sip (.callMediaStateUpdate id true))) := by
  have shown : .sip number name (.bridgeAudio id) succeeded ∈ deeds := by simp [asked]
  refine ⟨handles.own.author shown rfl, ?_⟩
  cases handles with
  | dropped ignored => cases shown
  | taken transition effects =>
    rcases effects.deed shown with ⟨_, _, _, same⟩ | ⟨action, member, _, _, _, _, effect, shown, _⟩
    · cases same
    · cases effect.bridges shown
      cases transition with
      | media id => exact .inr ⟨rfl, id, rfl⟩
      | bridge call ready =>
        obtain ⟨_, _, _, _, _, created, _, _, rfl⟩ := effects.two
        cases created
        refine .inl ⟨rfl, ?_, call, rfl, ready⟩
        match first, asked with
        | _ :: _ :: _, asked =>
          simp only [List.cons_append, List.nil_append, List.cons.injEq] at asked
          rw [← asked.2.1]
          simp
      | _ => simp at member

/-- A machine gets to where it waits for the other leg in one step. -/
theorem Handles.answered (waiting : target = .fromTg .waitTg) : control = .fromTg .waitTg ∨
    control = .fromTg .sipWaitMedia ∧ ∃ id, offered = .sip (.callMediaStateUpdate id true) := by
  cases handles with
  | dropped ignored => exact .inl waiting
  | taken transition effects =>
    cases transition with
    | answer id => exact .inr ⟨rfl, id, rfl⟩
    | dtmf control digits => exact .inl waiting
    | _ => cases waiting

theorem Handles.connected (waiting : target = .fromSip .sipWaitMedia) : control = .fromSip .sipWaitMedia ∨
    control = .fromSip .waitTg ∧ .started ctx.id ∈ deeds ∧
      ∃ call : Call, offered = .updateCall call ∧ call.state.getId = .ready := by
  cases handles with
  | dropped ignored => exact .inl waiting
  | taken transition effects =>
    cases transition with
    | connect call ready =>
      obtain ⟨_, _, _, _, _, stored, rest, rfl, rfl⟩ := effects.three
      obtain ⟨_, _, _, _, _, created, answered, rfl, rfl⟩ := rest.two
      cases stored
      cases created
      exact .inr ⟨rfl, by simp, call, rfl, ready⟩
    | dtmf control digits => exact .inl waiting
    | _ => cases waiting

end Offered
end Requests

/-- A step as a log keeps it. -/
structure Entry where
  gateway : Gateway
  event : Option GatewayEvent
  seen : List Obs

namespace Entry

/-- The event that was taken was handled by the machine of a bridge. -/
def Serves (entry : Entry) (event : GatewayEvent) (bridge : Bridge) : Prop :=
  entry.event = some event ∧ bridge ∈ entry.gateway.bridges ∧
    (entry.gateway.route event).map (fun target => target.1.1.bridge) = some bridge

/-- A bridge handled the update that the media of its SIP leg is there. -/
def MediaReady (entry : Entry) (ctx : CtxId) : Prop :=
  ∃ bridge : Bridge, bridge.ctx.id = ctx ∧ entry.Serves (.sip (.callMediaStateUpdate bridge.ctx.sipCallId true)) bridge

/-- A bridge handled the update that its Telegram leg is ready. -/
def CallReady (entry : Entry) (ctx : CtxId) : Prop :=
  ∃ (bridge : Bridge) (call : Call), bridge.ctx.id = ctx ∧ call.id = bridge.ctx.tgCallId ∧ call.state.getId = .ready ∧
    entry.Serves (.update (.call call)) bridge

/-- What a step may do after the steps before it. -/
structure Ordered (earlier : List Entry) (entry : Entry) (ctx : CtxId) : Prop where
  accepted : ∀ name id protocol succeeded, .query ctx name (.acceptCall id protocol) succeeded ∈ entry.seen →
    ∃ ready ∈ earlier ++ [entry], ready.MediaReady ctx
  answered : ∀ name id prm succeeded, .sip ctx name (.answer id prm) succeeded ∈ entry.seen →
    prm.statusCode = Actions.ok → ∃ ready ∈ earlier ++ [entry], ready.CallReady ctx
  bridged : ∀ first rest name id succeeded, entry.seen = first ++ .sip ctx name (.bridgeAudio id) succeeded :: rest →
    (∃ ready ∈ earlier ++ [entry], ready.MediaReady ctx) ∧ (∃ ready ∈ earlier ++ [entry], ready.CallReady ctx) ∧
      .started ctx ∈ earlier.flatMap Entry.seen ++ first

end Entry

namespace System
variable {settings : Settings} {label : Label} {before after : System} {seen : List Obs} {past : List Entry}

/-- The event that the gateway thread takes. -/
def taken (system : System) : Label → Option GatewayEvent
  | .loop _ => system.pop.map fun target => target.1
  | _ => none

/-- The entry of a step in the log. -/
def entry (system : System) (label : Label) (seen : List Obs) : Entry := ⟨system.gateway, system.taken label, seen⟩

/-- The steps of the process with their entries in the log. -/
def Logged (settings : Settings) (before : System) (entries : List Entry) (after : System) : Prop :=
  ∃ label seen, Step settings label before seen after ∧ entries = [before.entry label seen]

/-- Between events no machine is in its first state or in its last. -/
structure Settled (system : System) : Prop where
  numbered : system.gateway.WellNumbered
  inside : ∀ bridge ∈ system.gateway.bridges, bridge.control.composite = true

/-- Each machine has taken the actions that its state has behind it. -/
structure Counted (past : List Obs) (system : System) : Prop where
  behind : ∀ bridge ∈ system.gateway.bridges, past.filter (Obs.onceBy bridge.ctx.id) =
    bridge.control.behind.map (.action bridge.ctx.id)
  unused : ∀ number, system.gateway.ctxCounter < number → past.filter (Obs.onceBy number) = []
  once : ∀ number, (past.filter (Obs.onceBy number)).Nodup

/-- What a machine waits for comes after what it has waited for. -/
structure Readied (past : List Entry) (system : System) : Prop where
  answered : ∀ bridge ∈ system.gateway.bridges, bridge.control = .fromTg .waitTg →
    ∃ entry ∈ past, entry.MediaReady bridge.ctx.id
  connected : ∀ bridge ∈ system.gateway.bridges, bridge.control = .fromSip .sipWaitMedia →
    (∃ entry ∈ past, entry.CallReady bridge.ctx.id) ∧ .started bridge.ctx.id ∈ past.flatMap Entry.seen

theorem Settled.step (settled : Settled before) (step : Step settings label before seen after) : Settled after :=
  have moved := step_moved step
  ⟨moved.numbered settled.numbered, (composite_rule settings).moved moved settled.numbered settled.inside⟩

/-- What the machine of a bridge has behind it when an event finds it. -/
theorem Counted.slot {past : List Obs} {event : GatewayEvent} {slot : Slot} {counter : Nat}
    {offered : StateMachine.Event} (counted : Counted past before) (settled : Settled before)
    (routed : Gateway.Routed before.gateway event slot counter offered) :
    slot.bridge.control ≠ .X ∧ slot.bridge.ctx.id ≤ counter ∧ before.gateway.ctxCounter ≤ counter ∧
      past.filter (Obs.onceBy slot.bridge.ctx.id) = slot.bridge.control.behind.map (.action slot.bridge.ctx.id) := by
  rcases routed.origin with ⟨found, rfl⟩ | ⟨rfl, rfl⟩
  · have held : slot.bridge ∈ before.gateway.bridges := Slot.within found
    refine ⟨?_, settled.numbered.bounded _ held, Nat.le_refl _, counted.behind _ held⟩
    intro gone
    have inside := settled.inside _ held
    rw [gone] at inside
    cases inside
  · exact ⟨by simp [Gateway.freshSlot], Nat.le_refl _, Nat.le_succ _, counted.unused _ (Nat.lt_succ_self _)⟩

theorem Counted.step {past : List Obs} (counted : Counted past before) (settled : Settled before)
    (step : Step settings label before seen after) : Counted (past ++ seen) after := by
  have filtered : ∀ number, (past ++ seen).filter (Obs.onceBy number) =
      past.filter (Obs.onceBy number) ++ (seen.filter Obs.deed).filter (Obs.onceBy number) := by
    intro number
    rw [List.filter_append, ← Obs.filter_onceBy]
  cases step_worked step settled.numbered with
  | idle bridges counter quiet =>
    have same : ∀ number, (past ++ seen).filter (Obs.onceBy number) = past.filter (Obs.onceBy number) := by
      intro number
      rw [filtered, quiet, List.filter_nil, List.append_nil]
    refine ⟨?_, ?_, ?_⟩
    · rw [bridges]; intro bridge member; rw [same]; exact counted.behind bridge member
    · rw [counter]; intro number above; rw [same]; exact counted.unused number above
    · intro number; rw [same]; exact counted.once number
  | @served env event caller middle slot counter offered control final errors looped popped route routed handles
      counts members =>
    have own := handles.own
    obtain ⟨entered, bounded, grown, behind⟩ := counted.slot settled routed
    obtain ⟨gone, stays⟩ := handles.behind entered
    have other : ∀ {number}, number ≠ slot.bridge.ctx.id →
        (past ++ seen).filter (Obs.onceBy number) = past.filter (Obs.onceBy number) := by
      intro number foreign
      rw [filtered, own.others foreign, List.append_nil]
    have apart : ∀ control : Control, (control.behind.map (Obs.action slot.bridge.ctx.id)).Nodup :=
      fun control => control.behind_nodup.map fun first second same => by cases same; rfl
    refine ⟨?_, ?_, ?_⟩
    · intro bridge member
      rcases (members bridge).mp member with ⟨old, foreign⟩ | ⟨rfl, _⟩
      · rw [other foreign]; exact counted.behind bridge old
      · have composite := (settled.step step).inside _ member
        rw [filtered, own.id, behind, stays]
        intro ended
        rw [ended] at composite
        cases composite
    · rw [counts]
      intro number above
      rw [other (Nat.ne_of_gt (Nat.lt_of_le_of_lt bounded above))]
      exact counted.unused number (Nat.lt_of_le_of_lt grown above)
    · intro number
      by_cases same : number = slot.bridge.ctx.id
      · rw [same, filtered, behind]
        by_cases ended : control = .X
        · rw [gone ended, List.append_nil]
          exact apart slot.bridge.control
        · rw [← stays ended]
          exact apart control
      · rw [other same]; exact counted.once number

/-- The machine of a bridge was offered an event about one of its legs. -/
theorem served_entry {event : GatewayEvent} {slot : Slot} {counter : Nat} {offered : StateMachine.Event}
    (entry : Entry) (taken : entry.event = some event)
    (route : entry.gateway.route event = some ((slot, counter), offered))
    (entered : slot.bridge.control ≠ .init) :
    slot.bridge ∈ entry.gateway.bridges ∧
      (∀ id, offered = .sip (.callMediaStateUpdate id true) → entry.MediaReady slot.bridge.ctx.id) ∧
      (∀ call : Call, offered = .updateCall call → call.state.getId = .ready → entry.CallReady slot.bridge.ctx.id) := by
  have routed := Gateway.route_routed route
  have member : slot.bridge ∈ entry.gateway.bridges := by
    rcases routed.origin with ⟨found, _⟩ | ⟨rfl, _⟩
    · exact Slot.within found
    · exact absurd rfl entered
  have serves : entry.Serves event slot.bridge := ⟨taken, member, by rw [route]; rfl⟩
  refine ⟨member, ?_, ?_⟩
  · rintro id rfl
    cases routed with
    | sipHeld event slot found holds => exact ⟨slot.bridge, rfl, by rw [holds]; exact serves⟩
    | sipFresh => exact absurd rfl entered
  · rintro call rfl ready
    cases routed with
    | callHeld call slot found holds => exact ⟨slot.bridge, call, rfl, holds.symm, ready, serves⟩
    | callFresh => exact absurd rfl entered

/-- A part of what is seen that is a deed stands among the deeds. -/
theorem deeds_split {first rest : List Obs} {obs : Obs} (split : seen = first ++ obs :: rest) (deed : obs.deed = true) :
    seen.filter Obs.deed = first.filter Obs.deed ++ obs :: rest.filter Obs.deed := by
  rw [split, List.filter_append, List.filter_cons_of_pos deed]

/-- A step keeps the order, whatever has happened before. -/
theorem Readied.ordered (readied : Readied past before) (settled : Settled before)
    (step : Step settings label before seen after) (ctx : CtxId) :
    Entry.Ordered past (before.entry label seen) ctx := by
  cases step_worked step settled.numbered with
  | idle bridges counter quiet =>
    refine ⟨fun name id protocol succeeded asked => ?_, fun name id prm succeeded asked => ?_,
      fun first rest name id succeeded split => ?_⟩
    · cases undone quiet asked
    · cases undone quiet asked
    · have shown : .sip ctx name (.bridgeAudio id) succeeded ∈ (before.entry label seen).seen := by rw [split]; simp
      cases undone quiet shown
  | @served env event caller middle slot counter offered control final errors looped popped route routed handles
      counted members =>
    subst looped
    have taken : before.taken (.loop env) = some event := by simp [System.taken, popped.pop]
    have served := served_entry (before.entry (.loop env) seen) taken route
    have among : ∀ {obs}, obs ∈ seen → obs.deed = true → obs ∈ seen.filter Obs.deed :=
      fun shown deed => List.mem_filter.mpr ⟨shown, deed⟩
    refine ⟨fun name id protocol succeeded asked => ?_, fun name id prm succeeded asked ok => ?_,
      fun first rest name id succeeded split => ?_⟩
    · obtain ⟨rfl, waiting, media, same⟩ := handles.accepts (among asked rfl)
      exact ⟨_, by simp, (served (by simp [waiting])).2.1 media same⟩
    · obtain ⟨rfl, waiting, call, same, ready⟩ := handles.answers (among asked rfl) ok
      exact ⟨_, by simp, (served (by simp [waiting])).2.2 call same ready⟩
    · obtain ⟨rfl, ⟨waiting, started, call, same, ready⟩ | ⟨waiting, media, same⟩⟩ :=
        handles.bridges (deeds_split split rfl)
      · obtain ⟨held, _, called⟩ := served (by simp [waiting])
        obtain ⟨earlier, logged, media⟩ := readied.answered _ held waiting
        exact ⟨⟨earlier, by simp [logged], media⟩, ⟨_, by simp, called call same ready⟩,
          List.mem_append_right _ (List.mem_of_mem_filter started)⟩
      · obtain ⟨held, heard, _⟩ := served (by simp [waiting])
        obtain ⟨⟨earlier, logged, call⟩, started⟩ := readied.connected _ held waiting
        exact ⟨⟨_, by simp, heard media same⟩, ⟨earlier, by simp [logged], call⟩, List.mem_append_left _ started⟩

theorem Readied.step (readied : Readied past before) (settled : Settled before)
    (step : Step settings label before seen after) :
    Readied (past ++ [before.entry label seen]) after := by
  have earlier : ∀ {held : Entry → Prop}, (∃ entry ∈ past, held entry) →
      ∃ entry ∈ past ++ [before.entry label seen], held entry := by
    rintro held ⟨entry, logged, fact⟩
    exact ⟨entry, by simp [logged], fact⟩
  have later : ∀ {obs}, obs ∈ past.flatMap Entry.seen →
      obs ∈ (past ++ [before.entry label seen]).flatMap Entry.seen := by
    intro obs shown
    rw [List.flatMap_append]
    exact List.mem_append_left _ shown
  cases step_worked step settled.numbered with
  | idle bridges counter quiet =>
    constructor
    · rw [bridges]
      exact fun bridge member waiting => earlier (readied.answered bridge member waiting)
    · rw [bridges]
      intro bridge member waiting
      obtain ⟨call, started⟩ := readied.connected bridge member waiting
      exact ⟨earlier call, later started⟩
  | @served env event caller middle slot counter offered control final errors looped popped route routed handles
      counted members =>
    subst looped
    have taken : before.taken (.loop env) = some event := by simp [System.taken, popped.pop]
    have served := served_entry (before.entry (.loop env) seen) taken route
    have same : final.id = slot.bridge.ctx.id := handles.own.id
    constructor
    · intro bridge member waiting
      rcases (members bridge).mp member with ⟨old, foreign⟩ | ⟨rfl, _⟩
      · exact earlier (readied.answered bridge old waiting)
      · rw [same]
        rcases handles.answered waiting with stayed | ⟨waited, id, heard⟩
        · exact earlier (readied.answered _ (served (by simp [stayed])).1 stayed)
        · exact ⟨_, by simp, (served (by simp [waited])).2.1 id heard⟩
    · intro bridge member waiting
      rcases (members bridge).mp member with ⟨old, foreign⟩ | ⟨rfl, _⟩
      · obtain ⟨call, started⟩ := readied.connected bridge old waiting
        exact ⟨earlier call, later started⟩
      · rw [same]
        rcases handles.connected waiting with stayed | ⟨waited, started, call, heard, ready⟩
        · obtain ⟨call, started⟩ := readied.connected _ (served (by simp [stayed])).1 stayed
          exact ⟨earlier call, later started⟩
        · refine ⟨⟨_, by simp, (served (by simp [waited])).2.2 call heard ready⟩, ?_⟩
          rw [List.flatMap_append]
          exact List.mem_append_right _ (by simpa [System.entry] using List.mem_of_mem_filter started)

theorem Logged.run {cache : Cache} {maxCalls : Nat} {system : System}
    (run : Run (Logged settings) (initial cache maxCalls) past system) :
    Settled system ∧ Counted (past.flatMap Entry.seen) system ∧ Readied past system := by
  refine run.invariant (fun past system => Settled system ∧ Counted (past.flatMap Entry.seen) system ∧
    Readied past system) ?_ ?_
  · refine ⟨⟨⟨List.nodup_nil, ?_⟩, ?_⟩, ⟨?_, fun _ _ => rfl, fun _ => List.nodup_nil⟩, ⟨?_, ?_⟩⟩ <;>
      exact fun bridge member => by cases member
  · rintro past before entries after ⟨settled, counted, readied⟩ ⟨label, seen, step, rfl⟩
    refine ⟨settled.step step, ?_, readied.step settled step⟩
    rw [List.flatMap_append]
    simpa [System.entry] using counted.step settled step

/-- A log is a run with nothing left out. -/
theorem logged_iff {start system : System} {observed : List Obs} :
    Reaches settings Anything start observed system ↔
      ∃ past, Run (Logged settings) start past system ∧ observed = past.flatMap Entry.seen := by
  constructor
  · intro reached
    induction reached with
    | refl => exact ⟨[], .refl, rfl⟩
    | @tail observed middle seen final _ last ih =>
      obtain ⟨past, run, rfl⟩ := ih
      obtain ⟨label, _, step⟩ := last
      exact ⟨_, .tail run ⟨label, seen, step, rfl⟩, by simp [System.entry]⟩
  · rintro ⟨past, run, rfl⟩
    induction run with
    | refl => exact .refl
    | @tail past middle entries final _ last ih =>
      obtain ⟨label, seen, step, rfl⟩ := last
      rw [List.flatMap_append]
      refine .tail ih ⟨label, trivial, ?_⟩
      simpa [System.entry] using step

/-- In every run a call from Telegram is accepted only after the media of its SIP leg is there, a call from SIP
is answered only after its Telegram leg is ready, audio is bridged only after both and after the
controller was started, and no bridge takes one of its main actions twice. -/
theorem legs_are_answered_in_order {cache : Cache} {maxCalls : Nat} {system : System}
    (run : Run (Logged settings) (System.initial cache maxCalls) past system) :
    (∀ ctx earlier entry later, past = earlier ++ entry :: later → Entry.Ordered earlier entry ctx) ∧
      ∀ ctx name, name.once = true → (past.flatMap Entry.seen).count (.action ctx name) ≤ 1 := by
  constructor
  · intro ctx earlier entry later split
    obtain ⟨old, before, first, rest, after, reached, ⟨label, seen, step, same⟩, rfl⟩ := run.cut split
    cases first with
    | nil =>
      cases same
      obtain ⟨settled, _, readied⟩ := Logged.run reached
      simpa using readied.ordered settled step ctx
    | cons other first => simp at same
  · intro ctx name once
    have counted := (Logged.run run).2.1.once ctx
    have passes : Obs.onceBy ctx (.action ctx name) = true := by simp [Obs.onceBy, once]
    rw [← List.count_filter passes]
    exact List.nodup_iff_count_le_one.mp counted _

/-- A call from Telegram from its first update to the bridged audio. -/
theorem bridged_call_is_in_order :
    ∃ past system, Run (Logged { callbackUri := "sip:100@pbx" }) (System.initial {} 1) past system ∧
    .sip 1 .bridgeAudio (.bridgeAudio 0) true ∈ past.flatMap Entry.seen ∧
      (∀ earlier entry later, past = earlier ++ entry :: later → Entry.Ordered earlier entry 1) ∧
        (past.flatMap Entry.seen).count (.action 1 .bridgeAudio) ≤ 1 := by
  have ran : (execute (System.step { callbackUri := "sip:100@pbx" }) (fun _ _ _ => true)
      [.tdlib (.call ⟨7, 42, false, .pending⟩), .loop (Env.success 42 7 0), .loop (Env.success 42 7 0),
        .callback ⟨0, 0, .media true⟩, .loop (Env.success 42 7 0), .loop (Env.success 42 7 0),
        .tdlib (.call ⟨7, 42, false, .ready ⟨[], List.replicate 256 0⟩⟩), .loop (Env.success 42 7 0)]
            (System.initial {} 1)).any (fun result =>
          decide (.sip 1 .bridgeAudio (.bridgeAudio 0) true ∈ result.2)) = true := by decide +kernel
  obtain ⟨system, observed, reached, found⟩ := execute_any ran
  obtain ⟨past, run, rfl⟩ := logged_iff.mp reached
  have ordered := legs_are_answered_in_order run
  exact ⟨past, system, run, of_decide_eq_true found, ordered.1 1, ordered.2 1 _ rfl⟩

end System
end Tg2Sip
