import Tg2Sip.Lib.History
import Tg2Sip.Proofs.Answering
import Tg2Sip.Proofs.Signaling

/-! Signaling data that TDLib delivers. It is passed on once the call was ready, unless the bridge of the call
is not the one that heard so. -/

namespace Tg2Sip
open TdApi Lib StateMachine

def StateMachine.Control.ofTg : Control → Bool
  | .fromTg _ => true
  | _ => false

section Handling
variable {settings : Settings} {env : Env} {offered : StateMachine.Event} {control target : Control}
  {ctx final : Context} {errors : List InternalEvent} {deeds : List Obs}

/-- A call is accepted by the machine that waits for the media of its SIP leg, which then waits for Telegram. -/
theorem Handles.accepting (handles : Handles settings env offered control ctx target final errors deeds)
    {number : CtxId} {name : ActionName} {id : TgCallId} {protocol : CallProtocol} {succeeded : Bool}
    (asked : .query number name (.acceptCall id protocol) succeeded ∈ deeds) :
    number = ctx.id ∧ id = ctx.tgCallId ∧ control = .fromTg .sipWaitMedia ∧ target = .fromTg .waitTg := by
  cases handles with
  | dropped ignored => cases asked
  | taken transition effects =>
    rcases effects.deed asked with ⟨_, _, _, same⟩ | ⟨action, member, _, _, _, _, effect, shown, _⟩
    · cases same
    · cases effect.accepts shown
      cases transition with
      | answer sipId =>
        obtain ⟨_, answered, rfl⟩ := effects.one
        cases answered with
        | acceptedTg | refusedTg =>
          simp at asked
          exact ⟨asked.1, asked.2.2.1.1, rfl, rfl⟩
      | _ => simp at member

/-- A machine begins to wait for the media of its SIP leg when it is new. -/
theorem Handles.ringing (handles : Handles settings env offered control ctx target final errors deeds)
    (waiting : target = .fromTg .sipWaitMedia) : control = .fromTg .sipWaitMedia ∨ control = .init := by
  cases handles with
  | dropped ignored => exact .inl waiting
  | taken transition effects =>
    cases transition with
    | dial => exact .inr rfl
    | dtmf control digits => exact .inl waiting
    | _ => cases waiting

/-- A machine that serves a call from Telegram keeps the id that it began with. -/
theorem Handles.direction (handles : Handles settings env offered control ctx target final errors deeds)
    (ofTg : target.ofTg = true) :
    control.ofTg = true ∧ final.tgCallId = ctx.tgCallId ∨
      ∃ call : Call, offered = .updateCall call ∧ call.isOutgoing = false ∧ final.tgCallId = call.id := by
  cases handles with
  | dropped ignored => exact .inl ⟨ofTg, rfl⟩
  | taken transition effects =>
    cases transition with
    | dial call incoming pending uri =>
      obtain ⟨_, _, _, _, _, stored, rest, rfl, rfl⟩ := effects.three
      obtain ⟨_, _, _, _, _, user, dialed, rfl, rfl⟩ := rest.two
      cases stored
      cases user
      cases dialed <;> exact .inr ⟨call, rfl, incoming, rfl⟩
    | answer | bridge => exact .inl ⟨rfl, (effects.keeps (by simp [Action.harmless])).tg⟩
    | dtmf control waiting => exact .inl ⟨ofTg, (effects.keeps (by simp [Action.harmless])).tg⟩
    | _ => cases ofTg

theorem Handles.stays_connected (handles : Handles settings env offered control ctx target final errors deeds)
    (connected : control.connected = true) : target = .X ∨ target.connected = true := by
  cases handles with
  | dropped ignored => exact .inr connected
  | taken transition effects =>
    cases transition with
    | dtmf control waiting => exact .inr connected
    | media => exact .inr rfl
    | tgEnded | sipEnded | failed => exact .inl rfl
    | _ => cases connected

/-- A machine that waits for Telegram hears that the call is ready. -/
theorem Handles.readied {call : Call}
    (handles : Handles settings env (.updateCall call) control ctx target final errors deeds)
    (ready : call.state.getId = .ready)
    (waits : control = .fromTg .waitTg ∨ control = .fromSip .waitTg ∨ control.connected = true) :
    target = .X ∨ target.connected = true := by
  rcases waits with rfl | rfl | connected
  · cases handles with
    | dropped ignored =>
      have taken : Transition settings (.fromTg .waitTg) (.updateCall call) _ _ := .bridge call ready
      rw [select_iff.mpr taken] at ignored
      cases ignored
    | taken transition effects => cases transition <;> first | exact .inl rfl | exact .inr rfl
  · cases handles with
    | dropped ignored =>
      have taken : Transition settings (.fromSip .waitTg) (.updateCall call) _ _ := .connect call ready
      rw [select_iff.mpr taken] at ignored
      cases ignored
    | taken transition effects => cases transition <;> first | exact .inl rfl | exact .inr rfl
  · exact handles.stays_connected connected

/-- A call that is ready is given to nobody. -/
theorem Handles.ready_has {call : Call}
    (handles : Handles settings env (.updateCall call) control ctx target final errors deeds)
    (ready : call.state.getId = .ready) {leg : Leg} (has : final.Has leg) : ctx.Has leg := by
  cases handles with
  | dropped ignored => exact has
  | taken transition effects =>
    cases transition with
    | dial called incoming pending | refuse called incoming pending => rw [ready] at pending; cases pending
    | strayUpdate =>
      obtain ⟨_, cleaned, rfl⟩ := effects.one
      cases cleaned
      cases leg <;> exact absurd has.2.symm has.1
    | bridge | connect => exact ((effects.keeps (by simp [Action.harmless])).has leg).mp has
    | tgEnded control inside called ended => rcases ended with ended | ended <;> rw [ready] at ended <;> cases ended

end Handling

namespace System
variable {settings : Settings} {label : Label} {before after system : System} {seen : List Obs}

abbrev History := List (Moment System Obs Label)

def observed (past : History) : List Obs := past.flatMap Moment.seen

/-- The updates that TDLib delivered. -/
def delivered (past : History) : List Update :=
  past.filterMap fun moment => match moment.label with
    | .tdlib update => some update
    | _ => none

/-- The updates that the gateway thread took. -/
def handled (past : History) : List Update :=
  past.filterMap fun moment => match moment.before.taken moment.label with
    | some (.update update) => some update
    | _ => none

variable {past : History}

@[simp] theorem observed_snoc (moment : Moment System Obs Label) :
    observed (past ++ [moment]) = observed past ++ moment.seen := by
  simp [observed]

/-- The updates that are taken are those that were delivered, in order. -/
theorem updates_in_order {start : System} (run : Run (Chronicled (Step settings)) start past system)
    (empty : start.tgEvents = []) :
    delivered past = handled past ++ system.tgEvents := by
  induction run with
  | refl => simp [delivered, handled, empty]
  | @tail past middle moments final before last ih =>
    obtain ⟨label, seen, step, rfl⟩ := last
    have waiting : delivered [⟨label, middle, seen⟩] = [] →
      middle.tgEvents = handled [⟨label, middle, seen⟩] ++ final.tgEvents →
        delivered (past ++ [⟨label, middle, seen⟩]) = handled (past ++ [⟨label, middle, seen⟩]) ++ final.tgEvents := by
      intro nothing queue
      unfold delivered handled at *
      rw [List.filterMap_append, List.filterMap_append, nothing, List.append_nil, ih, queue, List.append_assoc]
    cases label with
    | tdlib update =>
      cases step
      unfold delivered handled at *
      rw [List.filterMap_append, List.filterMap_append, ih]
      simp [taken]
    | signal => cases step; exact waiting rfl rfl
    | worker blob => cases step; exact waiting rfl rfl
    | incoming id ext => obtain ⟨rfl, live, folded, rfl⟩ := settle_some step; exact waiting rfl rfl
    | callback callback => obtain ⟨rfl, live, folded, rfl⟩ := settle_some step; exact waiting rfl rfl
    | loop env =>
      apply waiting rfl
      rcases loop_some step with ⟨empty, rfl, rfl⟩ | ⟨event, caller, popping, gateway, popped, ran, settled⟩
      · simp [handled, taken, empty]
      · obtain ⟨_, live, _, rfl⟩ := settle_some settled
        rcases pop_cases popped with
          ⟨head, rest, held, ⟨rfl, _⟩, rfl⟩ | ⟨head, rest, held, ⟨rfl, _⟩, rfl⟩ | ⟨head, rest, held, rfl, _, rfl⟩
        · simp [handled, taken, popped]
        · simp [handled, taken, popped, held]
        · simp [handled, taken, popped]

theorem mem_handled {update : Update} : update ∈ handled (past ++ [⟨label, before, seen⟩]) ↔
    update ∈ handled past ∨ before.taken label = some (.update update) := by
  unfold handled
  rw [List.filterMap_append, List.mem_append]
  refine or_congr_right ?_
  simp only [List.mem_filterMap, List.mem_singleton, exists_eq_left]
  split
  next same => simp [same]
  next other => simpa using other update

/-- A call was accepted by the gateway. -/
def Accepted (past : List Obs) (call : TgCallId) : Prop :=
  ∃ ctx name protocol succeeded, .query ctx name (.acceptCall call protocol) succeeded ∈ past

/-- No context was ever given the call. -/
def Unknown (past : List Obs) (call : TgCallId) : Prop := ∀ ctx name, .associated ctx name (.tg call) ∉ past

/-- What the updates of TDLib say about a call: an id names one call, and one that comes in is not ready before it
was accepted. -/
structure Announced (outgoing : TgCallId → Bool) (past : List Obs) (call : Call) : Prop where
  nonzero : call.id ≠ 0
  direction : call.isOutgoing = outgoing call.id
  accepted : call.isOutgoing = false → call.state.getId = .ready → Accepted past call.id

/-- What TDLib promises. The id that `createCall` returns is that of no call before. -/
structure TdlibCalls (outgoing : TgCallId → Bool) (earlier : History) (moment : Moment System Obs Label) : Prop where
  announced : ∀ call, moment.label = .tdlib (.call call) → Announced outgoing (observed earlier) call
  created : ∀ ctx id, .associated ctx .dialTg (.tg id) ∈ moment.seen →
    id ≠ 0 ∧ Unknown (observed earlier) id ∧ ∀ call, .call call ∈ handled earlier → call.id ≠ id

/-- No update begins a call again after its bridge is gone. -/
def Unrepeated (earlier : History) (moment : Moment System Obs Label) : Prop :=
  ∀ call, moment.before.taken moment.label = some (.update (.call call)) →
    GatewayEvent.begins (.update (.call call)) = true →
    (∀ bridge ∈ moment.before.gateway.bridges, bridge.ctx.tgCallId ≠ call.id) → Unknown (observed earlier) call.id

/-- The gateway thread took the update that a call is ready. -/
def HeardReady (past : History) (id : TgCallId) : Prop :=
  ∃ call, .call call ∈ handled past ∧ call.id = id ∧ call.state.getId = .ready

/-- Each call belongs to one context at most, and the bridge that has a call knows that it is ready. -/
structure Tracked (outgoing : TgCallId → Bool) (past : History) (system : System) : Prop where
  ledger : Ledger (observed past) system
  announced : ∀ call, .call call ∈ system.tgEvents → Announced outgoing (observed past) call
  held : ∀ bridge ∈ system.gateway.bridges, ∀ id, bridge.ctx.Has (.tg id) →
    ∃ name, .associated bridge.ctx.id name (.tg id) ∈ observed past
  sole : ∀ first second name other id, .associated first name (.tg id) ∈ observed past →
    .associated second other (.tg id) ∈ observed past → first = second
  accepted : ∀ ctx name id protocol succeeded, .query ctx name (.acceptCall id protocol) succeeded ∈ observed past →
    ∃ name, .associated ctx name (.tg id) ∈ observed past
  ringing : ∀ bridge ∈ system.gateway.bridges, bridge.control = .fromTg .sipWaitMedia →
    ∀ name id protocol succeeded, .query bridge.ctx.id name (.acceptCall id protocol) succeeded ∉ observed past
  direction : ∀ bridge ∈ system.gateway.bridges, bridge.control.ofTg = true → outgoing bridge.ctx.tgCallId = false
  heard : ∀ id, HeardReady past id → outgoing id = false → ¬ Unknown (observed past) id
  connected : ∀ id, HeardReady past id → ∀ bridge ∈ system.gateway.bridges, bridge.ctx.Has (.tg id) →
    bridge.control.connected = true

variable {outgoing : TgCallId → Bool}

theorem Announced.mono {earlier later : List Obs} {call : Call} (announced : Announced outgoing earlier call)
    (subset : earlier ⊆ later) :
    Announced outgoing later call :=
  ⟨announced.nonzero, announced.direction, fun incoming ready =>
    let ⟨ctx, name, protocol, succeeded, member⟩ := announced.accepted incoming ready
    ⟨ctx, name, protocol, succeeded, subset member⟩⟩

theorem TdlibCalls.tdlib {moment : Moment System Obs Label} (tdlib : TdlibCalls outgoing past moment) :
    TdlibIds moment.label moment.before moment.seen :=
  ⟨fun call same => (tdlib.announced call same).nonzero, fun ctx id member => (tdlib.created ctx id member).1⟩

theorem Tracked.initial (cache : Cache) (maxCalls : Nat) : Tracked outgoing [] (initial cache maxCalls) where
  ledger := .initial cache maxCalls
  announced := fun call member => by cases member
  held := fun bridge member => by cases member
  sole := fun first second name other id member => by cases member
  accepted := fun ctx name id protocol succeeded member => by cases member
  ringing := fun bridge member => by cases member
  direction := fun bridge member => by cases member
  heard := fun id ⟨call, member, _⟩ => by cases member
  connected := fun id ⟨call, member, _⟩ => by cases member

/-- What waits in the queue was announced. -/
theorem Tracked.queue (tracked : Tracked outgoing past before) (step : Step settings label before seen after)
    (tdlib : TdlibCalls outgoing past ⟨label, before, seen⟩) (call : Call) (queued : .call call ∈ after.tgEvents) :
    Announced outgoing (observed past ++ seen) call := by
  rcases tgEvents_step step _ queued with old | added
  · exact (tracked.announced call old).mono (List.subset_append_left _ _)
  · exact (tdlib.announced call added).mono (List.subset_append_left _ _)

/-- A step without a machine changes nothing that is tracked. -/
theorem Tracked.idle (tracked : Tracked outgoing past before) (step : Step settings label before seen after)
    (tdlib : TdlibCalls outgoing past ⟨label, before, seen⟩) (bridges : after.gateway.bridges = before.gateway.bridges)
    (quiet : seen.filter Obs.deed = []) (unheard : ∀ call, before.taken label ≠ some (.update (.call call))) :
    Tracked outgoing (past ++ [⟨label, before, seen⟩]) after := by
  have given : ∀ ctx name leg, .associated ctx name leg ∈ observed past ++ seen ↔
      .associated ctx name leg ∈ observed past :=
    fun _ _ _ => deed_mem_idle quiet rfl
  have asked : ∀ ctx name function succeeded,
      .query ctx name function succeeded ∈ observed past ++ seen ↔ .query ctx name function succeeded ∈ observed past :=
    fun _ _ _ _ => deed_mem_idle quiet rfl
  have ready : ∀ id, HeardReady (past ++ [⟨label, before, seen⟩]) id → HeardReady past id := by
    intro id ⟨call, member, same⟩
    exact ⟨call, (mem_handled.mp member).resolve_right (unheard call), same⟩
  have ledger := tracked.ledger.step step tdlib.tdlib
  have queue := tracked.queue step tdlib
  constructor
  case ledger => rwa [observed_snoc]
  case announced => rwa [observed_snoc]
  all_goals simp only [observed_snoc, bridges, Unknown, given, asked]
  case held => exact tracked.held
  case sole => exact tracked.sole
  case accepted => exact tracked.accepted
  case ringing => exact tracked.ringing
  case direction => exact tracked.direction
  case heard => exact fun id heard => tracked.heard id (ready id heard)
  case connected => exact fun id heard => tracked.connected id (ready id heard)

/-- Only one bridge has a call. -/
theorem Tracked.single (tracked : Tracked outgoing past before) {bridge other : Bridge} {id : TgCallId}
    (member : bridge ∈ before.gateway.bridges) (memberToo : other ∈ before.gateway.bridges)
    (has : bridge.ctx.Has (.tg id)) (hasToo : other.ctx.Has (.tg id)) : bridge.ctx.id = other.ctx.id := by
  obtain ⟨name, given⟩ := tracked.held bridge member id has
  obtain ⟨nameToo, givenToo⟩ := tracked.held other memberToo id hasToo
  exact tracked.sole _ _ _ _ id given givenToo

/-- The bridge that takes the update that its call is ready waits for it. -/
theorem Tracked.waits (tracked : Tracked outgoing past before) {bridge : Bridge}
    (member : bridge ∈ before.gateway.bridges) {call : Call} (queued : .call call ∈ before.tgEvents)
    (ready : call.state.getId = .ready) (has : bridge.ctx.Has (.tg call.id)) :
    bridge.control = .fromTg .waitTg ∨ bridge.control = .fromSip .waitTg ∨ bridge.control.connected = true := by
  have agrees := tracked.ledger.agreed.agrees bridge member
  have inside := agrees.composite
  have ringing := tracked.ringing bridge member
  have direction := tracked.direction bridge member
  obtain ⟨name, given⟩ := tracked.held bridge member call.id has
  unfold Agrees at agrees
  rcases state : bridge.control with _ | (_ | _ | _) | (_ | _ | _ | _) | _
  case fromTg.sipWaitMedia =>
    -- It has not accepted the call, and nobody else could have.
    exfalso
    rw [state, has.2] at direction
    have announced := tracked.announced call queued
    obtain ⟨ctx, asking, protocol, succeeded, asked⟩ :=
      announced.accepted (announced.direction.trans (direction rfl)) ready
    obtain ⟨giving, accepted⟩ := tracked.accepted ctx asking call.id protocol succeeded asked
    cases tracked.sole _ _ _ _ call.id given accepted
    exact ringing state asking call.id protocol succeeded asked
  case fromSip.sipWaitConfirm =>
    rw [state] at agrees
    exact absurd (has.2.symm.trans agrees.1) has.1
  case init | X =>
    rw [state] at inside
    cases inside
  all_goals simp [Control.connected]

/-- A step that serves a machine, after a history that was tracked. -/
structure Serving (settings : Settings) (outgoing : TgCallId → Bool) (past : History) (env : Env)
    (before : System) (seen : List Obs) (after : System) (event : GatewayEvent) (slot : Slot)
    (offered : StateMachine.Event) (control : Control) (final : Context) : Prop where
  tracked : Tracked outgoing past before
  step : Step settings (.loop env) before seen after
  tdlib : TdlibCalls outgoing past ⟨.loop env, before, seen⟩
  unrepeated : Unrepeated past ⟨.loop env, before, seen⟩
  popped : ∃ caller middle, Popped before event caller middle
  routed : ∃ counter, Gateway.Routed before.gateway event slot counter offered
  handles : ∃ errors, Handles settings env offered slot.bridge.control slot.bridge.ctx control final errors
    (seen.filter Obs.deed)
  members : ∀ bridge, bridge ∈ after.gateway.bridges ↔
    bridge ∈ before.gateway.bridges ∧ bridge.ctx.id ≠ slot.bridge.ctx.id ∨
    bridge = ⟨control, final⟩ ∧ ¬ (Gateway.erases event = true ∧ control = .X)

namespace Serving
variable {env : Env} {event : GatewayEvent} {slot : Slot} {offered : StateMachine.Event} {control : Control}
  {final : Context}
  (serving : Serving settings outgoing past env before seen after event slot offered control final)
include serving

theorem number : final.id = slot.bridge.ctx.id := by
  obtain ⟨errors, handles⟩ := serving.handles
  exact handles.own.id

/-- Whoever does something is the one that is served. -/
theorem mine {obs : Obs} {ctx : CtxId} (member : obs ∈ seen.filter Obs.deed) (author : obs.by = some ctx) :
    ctx = slot.bridge.ctx.id := by
  obtain ⟨errors, handles⟩ := serving.handles
  exact handles.own.author member author

omit serving in
theorem split {obs : Obs} (deed : obs.deed = true) (member : obs ∈ observed past ++ seen) :
    obs ∈ observed past ∨ obs ∈ seen.filter Obs.deed :=
  (List.mem_append.mp member).imp_right fun new => List.mem_filter.mpr ⟨new, deed⟩

omit serving in
theorem older {obs : Obs} (member : obs ∈ observed past) : obs ∈ observed past ++ seen := List.mem_append_left _ member

theorem origin : slot.bridge ∈ before.gateway.bridges ∨ slot = before.gateway.freshSlot := by
  obtain ⟨counter, routed⟩ := serving.routed
  rcases routed.origin with ⟨found, _⟩ | ⟨fresh, _⟩
  · exact .inl (Slot.within found)
  · exact .inr fresh

/-- A machine that is past its first state is that of a bridge. -/
theorem present (entered : slot.bridge.control ≠ .init) : slot.bridge ∈ before.gateway.bridges := by
  refine serving.origin.resolve_right fun new => ?_
  rw [new] at entered
  exact entered rfl

theorem held_not_init (member : slot.bridge ∈ before.gateway.bridges) : slot.bridge.control ≠ .init := by
  intro initial
  have inside := (serving.tracked.ledger.agreed.agrees _ member).composite
  rw [initial] at inside
  cases inside

/-- A call that a context is given was given to nobody before, and nobody heard that it is ready. -/
theorem new_call {name : ActionName} {id : TgCallId}
    (given : .associated slot.bridge.ctx.id name (.tg id) ∈ seen.filter Obs.deed) :
    Unknown (observed past) id ∧ ¬ HeardReady past id := by
  obtain ⟨errors, handles⟩ := serving.handles
  obtain ⟨counter, routed⟩ := serving.routed
  obtain ⟨caller, middle, popped⟩ := serving.popped
  rcases handles.associates given with ⟨initial, named⟩ | ⟨rfl, _⟩ | ⟨_, _, same⟩
  · cases routed with
    | callHeld call slot found holds => exact absurd initial (serving.held_not_init (Slot.within found))
    | callFresh call missed =>
      cases named
      have begins : GatewayEvent.begins (.update (.call call)) = true := by
        by_contra late
        obtain ⟨_, deeds⟩ := Handles.stray handles (.inl ⟨call, rfl⟩) (Bool.eq_false_iff.mpr late)
        rw [deeds] at given
        simp at given
      have taken : before.taken (.loop env) = some (.update (.call call)) := by simp [System.taken, popped.pop]
      have unknown := serving.unrepeated call taken begins missed
      refine ⟨unknown, fun heard => ?_⟩
      have announced := serving.tracked.announced call popped.call
      have incoming : call.isOutgoing = false ∧ call.state.getId = .pending := of_decide_eq_true begins
      exact serving.tracked.heard call.id heard (announced.direction.symm.trans incoming.1) unknown
    | sipHeld event | sipFresh event => cases event <;> cases named
    | message | error => cases named
  · obtain ⟨_, unknown, unheard⟩ := serving.tdlib.created _ id (List.mem_of_mem_filter given)
    refine ⟨unknown, fun heard => ?_⟩
    obtain ⟨call, member, same, _⟩ := heard
    exact unheard call member same
  · cases same

/-- What the served bridge has, it had or was just given. -/
theorem gains {id : TgCallId} (has : final.Has (.tg id)) :
    slot.bridge ∈ before.gateway.bridges ∧ slot.bridge.ctx.Has (.tg id) ∨
    ∃ name, .associated slot.bridge.ctx.id name (.tg id) ∈ seen.filter Obs.deed := by
  obtain ⟨errors, handles⟩ := serving.handles
  rcases handles.gains has with had | given
  · rcases serving.origin with held | new
    · exact .inl ⟨held, had⟩
    · rw [new] at had
      exact absurd had (Context.bare _ _)
  · exact .inr given

theorem held (bridge : Bridge) (member : bridge ∈ after.gateway.bridges) (id : TgCallId)
    (has : bridge.ctx.Has (.tg id)) :
    ∃ name, .associated bridge.ctx.id name (.tg id) ∈ observed past ++ seen := by
  have known : ∀ bridge ∈ before.gateway.bridges, bridge.ctx.Has (.tg id) →
      ∃ name, .associated bridge.ctx.id name (.tg id) ∈ observed past ++ seen := by
    intro bridge member has
    obtain ⟨name, given⟩ := serving.tracked.held bridge member id has
    exact ⟨name, older given⟩
  rcases (serving.members bridge).mp member with ⟨old, _⟩ | ⟨rfl, _⟩
  · exact known bridge old has
  · rw [serving.number]
    rcases serving.gains has with ⟨held, had⟩ | ⟨name, given⟩
    · exact known _ held had
    · exact ⟨name, List.mem_append_right _ (List.mem_of_mem_filter given)⟩

theorem sole (first second : CtxId) (name other : ActionName) (id : TgCallId)
    (given : .associated first name (.tg id) ∈ observed past ++ seen)
    (givenToo : .associated second other (.tg id) ∈ observed past ++ seen) :
    first = second := by
  rcases split rfl given with old | new <;> rcases split rfl givenToo with oldToo | newToo
  · exact serving.tracked.sole first second name other id old oldToo
  · cases serving.mine newToo rfl
    exact absurd old ((serving.new_call newToo).1 first name)
  · cases serving.mine new rfl
    exact absurd oldToo ((serving.new_call new).1 second other)
  · exact (serving.mine new rfl).trans (serving.mine newToo rfl).symm

theorem accepted (ctx : CtxId) (name : ActionName) (id : TgCallId) (protocol : CallProtocol) (succeeded : Bool)
    (asked : .query ctx name (.acceptCall id protocol) succeeded ∈ observed past ++ seen) :
    ∃ name, .associated ctx name (.tg id) ∈ observed past ++ seen := by
  obtain ⟨errors, handles⟩ := serving.handles
  rcases split rfl asked with old | new
  · obtain ⟨name, given⟩ := serving.tracked.accepted ctx name id protocol succeeded old
    exact ⟨name, older given⟩
  · obtain ⟨rfl, rfl, waiting, _⟩ := handles.accepting new
    have held := serving.present (by simp [waiting])
    have agrees := serving.tracked.ledger.agreed.agrees _ held
    unfold Agrees at agrees
    rw [waiting] at agrees
    obtain ⟨name, given⟩ := serving.tracked.held _ held _ ⟨agrees.1, rfl⟩
    exact ⟨name, older given⟩

theorem ringing (bridge : Bridge) (member : bridge ∈ after.gateway.bridges)
    (waiting : bridge.control = .fromTg .sipWaitMedia) (name : ActionName) (id : TgCallId)
    (protocol : CallProtocol) (succeeded : Bool) :
    .query bridge.ctx.id name (.acceptCall id protocol) succeeded ∉ observed past ++ seen := by
  intro asked
  obtain ⟨errors, handles⟩ := serving.handles
  rcases (serving.members bridge).mp member with ⟨old, other⟩ | ⟨rfl, _⟩
  · rcases split rfl asked with before | new
    · exact serving.tracked.ringing bridge old waiting name id protocol succeeded before
    · exact other (serving.mine new rfl)
  · rw [serving.number] at asked
    rcases split rfl asked with old | new
    · rcases serving.origin with held | fresh
      · have rang := (handles.ringing waiting).resolve_right (serving.held_not_init held)
        exact serving.tracked.ringing _ held rang name id protocol succeeded old
      · have bounded := serving.tracked.ledger.bounded _ old rfl _ rfl
        rw [fresh] at bounded
        exact absurd bounded (Nat.not_succ_le_self _)
    · obtain ⟨_, _, _, left⟩ := handles.accepting new
      rw [left] at waiting
      cases waiting

theorem direction (bridge : Bridge) (member : bridge ∈ after.gateway.bridges) (ofTg : bridge.control.ofTg = true) :
    outgoing bridge.ctx.tgCallId = false := by
  obtain ⟨errors, handles⟩ := serving.handles
  rcases (serving.members bridge).mp member with ⟨old, _⟩ | ⟨rfl, _⟩
  · exact serving.tracked.direction bridge old ofTg
  · rcases handles.direction ofTg with ⟨was, same⟩ | ⟨call, rfl, incoming, same⟩
    · have held := serving.present fun initial => by rw [initial] at was; cases was
      have known := serving.tracked.direction _ held was
      rwa [← same] at known
    · obtain ⟨counter, routed⟩ := serving.routed
      obtain ⟨caller, middle, popped⟩ := serving.popped
      have queued : .call call ∈ before.tgEvents := by cases routed <;> exact popped.call
      have announced := serving.tracked.announced call queued
      rw [same]
      exact announced.direction.symm.trans incoming

/-- What the gateway thread takes in the step. -/
theorem takes {call : Call} (taken : before.taken (.loop env) = some (.update (.call call))) :
    event = .update (.call call) := by
  obtain ⟨caller, middle, popped⟩ := serving.popped
  simpa [System.taken, popped.pop] using taken

theorem heard (id : TgCallId) (heard : HeardReady (past ++ [⟨.loop env, before, seen⟩]) id)
    (incoming : outgoing id = false) :
    ¬ Unknown (observed past ++ seen) id := by
  obtain ⟨call, member, rfl, ready⟩ := heard
  intro unknown
  rcases mem_handled.mp member with old | now
  · exact serving.tracked.heard call.id ⟨call, old, rfl, ready⟩ incoming fun ctx name given =>
      unknown ctx name (older given)
  · obtain ⟨caller, middle, popped⟩ := serving.popped
    cases serving.takes now
    have announced := serving.tracked.announced call popped.call
    obtain ⟨ctx, name, protocol, succeeded, asked⟩ := announced.accepted (announced.direction.trans incoming) ready
    obtain ⟨name, given⟩ := serving.tracked.accepted ctx name call.id protocol succeeded asked
    exact unknown ctx name (older given)

theorem connected (id : TgCallId) (heard : HeardReady (past ++ [⟨.loop env, before, seen⟩]) id) (bridge : Bridge)
    (member : bridge ∈ after.gateway.bridges) (has : bridge.ctx.Has (.tg id)) (stays : bridge.control ≠ .X) :
    bridge.control.connected = true := by
  obtain ⟨errors, handles⟩ := serving.handles
  obtain ⟨call, logged, rfl, ready⟩ := heard
  rcases mem_handled.mp logged with old | now
  · have heard : HeardReady past call.id := ⟨call, old, rfl, ready⟩
    rcases (serving.members bridge).mp member with ⟨held, _⟩ | ⟨rfl, _⟩
    · exact serving.tracked.connected call.id heard bridge held has
    · rcases serving.gains has with ⟨held, had⟩ | ⟨name, given⟩
      · exact (handles.stays_connected (serving.tracked.connected call.id heard _ held had)).resolve_left stays
      · exact absurd heard (serving.new_call given).2
  · obtain ⟨counter, routed⟩ := serving.routed
    obtain ⟨caller, middle, popped⟩ := serving.popped
    cases serving.takes now
    have members := (serving.members bridge).mp member
    cases routed with
    | callHeld call slot found holds =>
      have within : slot.bridge ∈ before.gateway.bridges := Slot.within found
      rcases members with ⟨held, other⟩ | ⟨rfl, _⟩
      · exact absurd (serving.tracked.single held within has ⟨has.1, holds⟩) other
      · have waits := serving.tracked.waits within popped.call ready ⟨has.1, holds⟩
        exact (handles.readied ready waits).resolve_left stays
    | callFresh call missed =>
      rcases members with ⟨held, _⟩ | ⟨rfl, _⟩
      · exact absurd has.2 (missed bridge held)
      · exact absurd (handles.ready_has ready has) (Context.bare _ _)

theorem all : Tracked outgoing (past ++ [⟨.loop env, before, seen⟩]) after := by
  have ledger := serving.tracked.ledger.step serving.step serving.tdlib.tdlib
  have queue := serving.tracked.queue serving.step serving.tdlib
  rw [← observed_snoc ⟨.loop env, before, seen⟩] at ledger queue
  refine ⟨ledger, queue, ?_, ?_, ?_, ?_, serving.direction, ?_, ?_⟩
  · rw [observed_snoc]; exact serving.held
  · rw [observed_snoc]; exact serving.sole
  · rw [observed_snoc]; exact serving.accepted
  · rw [observed_snoc]; exact serving.ringing
  · rw [observed_snoc]; exact serving.heard
  · intro id heard bridge member has
    refine serving.connected id heard bridge member has fun gone => ?_
    have inside := (ledger.agreed.agrees bridge member).composite
    rw [gone] at inside
    cases inside

end Serving

theorem Tracked.step (tracked : Tracked outgoing past before) (step : Step settings label before seen after)
    (tdlib : TdlibCalls outgoing past ⟨label, before, seen⟩) (unrepeated : Unrepeated past ⟨label, before, seen⟩) :
    Tracked outgoing (past ++ [⟨label, before, seen⟩]) after := by
  have numbered := tracked.ledger.agreed.numbered
  cases label with
  | loop env =>
    cases popped : before.pop with
    | none =>
      rcases loop_some step with ⟨_, rfl, rfl⟩ | ⟨_, _, _, _, waiting, _⟩
      · exact tracked.idle step tdlib rfl rfl (by simp [System.taken, popped])
      · rw [popped] at waiting
        cases waiting
    | some target =>
      obtain ⟨event, caller, middle⟩ := target
      cases route : before.gateway.route event with
      | none =>
        obtain ⟨bridges, _, quiet⟩ := step.unrouted popped route
        refine tracked.idle step tdlib bridges quiet fun call taken => ?_
        have same : event = .update (.call call) := by simpa [System.taken, popped] using taken
        subst same
        cases route
      | some target =>
        obtain ⟨⟨slot, counter⟩, offered⟩ := target
        obtain ⟨control, final, errors, handles, _, members⟩ := step.served numbered popped route
        exact Serving.all ⟨tracked, step, tdlib, unrepeated, ⟨caller, middle, pop_popped popped⟩,
          ⟨counter, Gateway.route_routed route⟩, ⟨errors, handles⟩, members⟩
  | _ =>
    cases step_moved step with
    | idle bridges counter errors quiet => exact tracked.idle step tdlib bridges quiet (by simp [System.taken])
    | handled env event caller middle looped => cases looped

theorem Tracked.run {cache : Cache} {maxCalls : Nat}
    (run : Run (Chronicled (Step settings)) (System.initial cache maxCalls) past system)
    (tdlib : Throughout (TdlibCalls outgoing) past) (unrepeated : Throughout Unrepeated past) :
    Tracked outgoing past system := by
  refine run.invariant_throughout _ (Tracked outgoing) (tdlib.and unrepeated) (.initial cache maxCalls) ?_
  intro past label before seen after tracked ⟨tdlib, unrepeated⟩ step
  exact tracked.step step tdlib unrepeated

/-- The gateway thread takes an event in a turn of the loop. -/
theorem taken_loop {event : GatewayEvent} (taken : before.taken label = some event) :
    ∃ env caller middle, label = .loop env ∧ before.pop = some (event, caller, middle) := by
  cases label with
  | loop env =>
    obtain ⟨⟨event, caller, middle⟩, popped, same⟩ := Option.map_eq_some_iff.mp taken
    cases same
    exact ⟨env, caller, middle, rfl, popped⟩
  | _ => cases taken

/-- Signaling data is shown as its handler does, and the gateway stays as it is. -/
theorem Step.signals {id : TgCallId} {data : Bytes} (step : Step settings label before seen after)
    (taken : before.taken label = some (.update (.newCallSignalingData id data))) :
    after.gateway = before.gateway ∧ seen = (before.gateway.processUpdateNewCallSignalingData id data).2 := by
  obtain ⟨env, caller, middle, rfl, popped⟩ := taken_loop taken
  rcases loop_some step with ⟨empty, _, _⟩ | ⟨_, queued, _, gateway, waiting, ran, settled⟩
  · rw [empty] at popped
    cases popped
  · cases waiting.symm.trans popped
    obtain ⟨_, live, _, rfl⟩ := settle_some settled
    have same : middle.gateway = before.gateway := by
      rcases pop_cases popped with ⟨_, _, _, ⟨other, _⟩, _⟩ | ⟨_, _, _, _, rfl⟩ | ⟨_, _, _, other, _⟩
      · cases other
      · rfl
      · cases other
    have result := Except.ok.inj ran
    have unchanged : (middle.gateway.processUpdateNewCallSignalingData id data).1 = middle.gateway := by
      unfold Gateway.processUpdateNewCallSignalingData
      split
      next => rfl
      next => split <;> first | rfl | (split <;> rfl)
    rw [← same]
    exact ⟨(congrArg Prod.fst result).symm.trans unchanged, (congrArg Prod.snd result).symm⟩

theorem Step.receives (step : Step settings label before seen after) {ctx : CtxId} {data : Bytes}
    (given : .updateSignaling ctx data ∈ seen) :
    seen = [.updateSignaling ctx data] ∧ ∃ id, before.taken label = some (.update (.newCallSignalingData id data)) := by
  cases label with
  | loop env =>
    rcases loop_some step with ⟨_, rfl, rfl⟩ | ⟨event, caller, middle, gateway, popped, ran, _⟩
    · cases given
    · obtain ⟨all, id, rfl⟩ := Gateway.processEvent_receives ran given
      exact ⟨all, id, by simp [System.taken, popped]⟩
  | tdlib | signal | worker => cases step; simp at given
  | incoming | callback => obtain ⟨rfl, _⟩ := settle_some step; simp at given

/-- Signaling data is taken in the order of its delivery, and handed on once, to the bridge that has the call if the
call was heard to be ready. Otherwise it is dropped. -/
structure Inbound (settings : Settings) (past : History) (before : System) : Prop where
  ordered : delivered past = handled past ++ before.tgEvents
  once : ∀ label seen after, Step settings label before seen after → ∀ ctx data, .updateSignaling ctx data ∈ seen →
    seen = [.updateSignaling ctx data] ∧ ∃ id, before.taken label = some (.update (.newCallSignalingData id data))
  unchanged : ∀ label seen after, Step settings label before seen after →
    ∀ id data, before.taken label = some (.update (.newCallSignalingData id data)) → after.gateway = before.gateway
  reaches : ∀ label seen after, Step settings label before seen after →
    ∀ id data, before.taken label = some (.update (.newCallSignalingData id data)) → HeardReady past id →
      ∀ bridge ∈ before.gateway.bridges, bridge.ctx.tgCallId = id → seen = [.updateSignaling bridge.ctx.id data]
  dropped : ∀ label seen after, Step settings label before seen after →
    ∀ id data, before.taken label = some (.update (.newCallSignalingData id data)) →
      (∀ bridge ∈ before.gateway.bridges, bridge.ctx.tgCallId ≠ id) → seen = []

/-- What was taken was announced. -/
theorem handled_nonzero {start : System} (run : Run (Chronicled (Step settings)) start past system)
    (empty : start.tgEvents = []) (tdlib : Throughout (TdlibCalls outgoing) past) {call : Call}
    (taken : .call call ∈ handled past) : call.id ≠ 0 := by
  have told : .call call ∈ delivered past := by
    rw [updates_in_order run empty]
    exact List.mem_append_left _ taken
  obtain ⟨moment, member, shows⟩ := List.mem_filterMap.mp told
  obtain ⟨earlier, later, split⟩ := List.append_of_mem member
  have announced := (tdlib earlier moment later split).announced call
  split at shows
  next update label =>
    cases shows
    exact (announced label).nonzero
  next => cases shows

/-- In a run in which TDLib keeps its promises and no update begins a call again after its bridge is gone,
signaling data reaches the controller of its call. -/
theorem signaling_reaches_its_bridge {cache : Cache} {maxCalls : Nat}
    (run : Run (Chronicled (Step settings)) (System.initial cache maxCalls) past before)
    (tdlib : Throughout (TdlibCalls outgoing) past) (unrepeated : Throughout Unrepeated past) :
    Inbound settings past before := by
  have tracked := Tracked.run run tdlib unrepeated
  refine ⟨updates_in_order run rfl, fun label seen after step ctx data => step.receives,
    fun label seen after step id data taken => (step.signals taken).1, ?_, ?_⟩
  · intro label seen after step id data taken heard bridge member has
    have nonzero : id ≠ 0 := by
      obtain ⟨call, logged, rfl, _⟩ := heard
      exact handled_nonzero run rfl tdlib logged
    rw [(step.signals taken).2]
    unfold Gateway.processUpdateNewCallSignalingData
    split
    next missed =>
      have other := findBridge_none.mp missed bridge member
      simp [has] at other
    next slot found =>
      obtain ⟨within, named⟩ := findBridge_mem found
      have named : slot.bridge.ctx.tgCallId = id := by simpa using named
      have connected := tracked.connected id heard slot.bridge within ⟨nonzero, named⟩
      have reached : Reaches settings Anything (System.initial cache maxCalls) (observed past) before :=
        run.restricted fun _ _ => trivial
      obtain ⟨_, created⟩ := (created_rule settings).run reached
      obtain ⟨controller, present, ready⟩ := (created slot.bridge within).2 connected
      rw [present, tracked.single within member ⟨nonzero, named⟩ ⟨nonzero, has⟩]
      simp [ready]
  · intro label seen after step id data taken nobody
    rw [(step.signals taken).2]
    unfold Gateway.processUpdateNewCallSignalingData
    split
    next => rfl
    next slot found =>
      obtain ⟨within, named⟩ := findBridge_mem found
      exact absurd (by simpa using named) (nobody slot.bridge within)

/-- `TdlibCalls` as a test for runs in which no call is created. -/
private def tdlibCalls (earlier : History) (moment : Moment System Obs Label) : Bool :=
  (match moment.label with
    | .tdlib (.call call) => decide (call.id ≠ 0 ∧ call.isOutgoing = false) && (decide (call.state.getId ≠ .ready) ||
      (observed earlier).any fun obs => match obs with
        | .query _ _ (.acceptCall id _) _ => decide (id = call.id)
        | _ => false)
    | _ => true) &&
  moment.seen.all fun obs => match obs with
    | .associated _ .dialTg _ => false
    | _ => true

private theorem tdlibCalls_sound (earlier : History) (moment : Moment System Obs Label)
    (tested : tdlibCalls earlier moment = true) :
    TdlibCalls (fun _ => false) earlier moment := by
  obtain ⟨told, shown⟩ := Bool.and_eq_true_iff.mp tested
  constructor
  · intro call same
    rw [same] at told
    obtain ⟨named, answered⟩ := Bool.and_eq_true_iff.mp told
    obtain ⟨nonzero, incoming⟩ := of_decide_eq_true named
    refine ⟨nonzero, incoming, fun _ ready => ?_⟩
    rcases Bool.or_eq_true_iff.mp answered with other | answered
    · exact absurd ready (of_decide_eq_true other)
    · obtain ⟨obs, member, accepts⟩ := List.any_eq_true.mp answered
      split at accepts
      next ctx name id protocol succeeded =>
        cases of_decide_eq_true accepts
        exact ⟨ctx, name, protocol, succeeded, member⟩
      next => cases accepts
  · intro ctx id member
    cases List.all_eq_true.mp shown _ member

/-- `Unrepeated` as a test. -/
private def unrepeated (earlier : History) (moment : Moment System Obs Label) : Bool :=
  match moment.before.taken moment.label with
  | some (.update (.call call)) => decide (GatewayEvent.begins (.update (.call call)) = false) ||
    moment.before.gateway.bridges.any (fun bridge => decide (bridge.ctx.tgCallId = call.id)) ||
      (observed earlier).all fun obs => match obs with
        | .associated _ _ (.tg id) => decide (id ≠ call.id)
        | _ => true
  | _ => true

private theorem unrepeated_sound (earlier : History) (moment : Moment System Obs Label)
    (tested : unrepeated earlier moment = true) :
    Unrepeated earlier moment := by
  intro call taken begins nobody ctx name given
  simp only [unrepeated, taken, begins, Bool.or_eq_true] at tested
  rcases tested with (never | held) | unknown
  · simp at never
  · obtain ⟨bridge, member, has⟩ := List.any_eq_true.mp held
    exact nobody bridge member (of_decide_eq_true has)
  · exact absurd rfl (of_decide_eq_true (List.all_eq_true.mp unknown _ given))

/-- A call from Telegram that is accepted, then is ready, and then has signaling data. -/
private def acceptedCall (early late : List Label) : List Label :=
  [.tdlib (.call ⟨7, 42, false, .pending⟩)] ++ early ++
    [.loop (Env.success 42 7 0), .loop (Env.success 42 7 0), .callback ⟨0, 0, .media true⟩,
    .loop (Env.success 42 7 0), .tdlib (.call ⟨7, 42, false, .ready ⟨[], List.replicate 256 0⟩⟩),
      .tdlib (.newCallSignalingData 7 [1])] ++ late

/-- The data of a call that is ready and has a bridge is taken next, with the given effects. -/
private def takesSignaling (shown : List Obs) (system : System) (past : History) : Bool :=
  ((handled past).any fun update => match update with
    | .call call => decide (call.id = 7 ∧ call.state.getId = .ready)
    | _ => false) &&
  (system.gateway.bridges.any fun bridge => decide (bridge.ctx.tgCallId = 7)) &&
  (match system.taken (.loop (Env.success 42 7 0)) with
    | some (.update (.newCallSignalingData id data)) => decide (id = 7 ∧ data = [1])
    | _ => false) &&
  (System.step { callbackUri := "sip:100@pbx" } system (.loop (Env.success 42 7 0))).any fun next =>
    decide (next.2 = shown)

private theorem accepted_call (early late : List Label) (test : History → Bool) (shown : List Obs)
    (ran : (execute (chronicle (System.step { callbackUri := "sip:100@pbx" })) (fun _ _ _ => true)
      (acceptedCall early late)
      (initial {} 1)).any (fun result => holdsThroughout tdlibCalls [] result.2 && test result.2 &&
        takesSignaling shown result.1 result.2) = true) :
    ∃ past before after bridge, Run (Chronicled (Step { callbackUri := "sip:100@pbx" })) (initial {} 1) past before ∧
      Throughout (TdlibCalls fun _ => false) past ∧ test past = true ∧
      Step { callbackUri := "sip:100@pbx" } (.loop (Env.success 42 7 0)) before shown after ∧
      before.taken (.loop (Env.success 42 7 0)) = some (.update (.newCallSignalingData 7 [1])) ∧ HeardReady past 7 ∧
      bridge ∈ before.gateway.bridges ∧ bridge.ctx.tgCallId = 7 := by
  obtain ⟨before, past, run, found⟩ := chronicle_run ran
  obtain ⟨tested, found⟩ := Bool.and_eq_true_iff.mp found
  obtain ⟨tdlib, tested⟩ := Bool.and_eq_true_iff.mp tested
  obtain ⟨found, stepped⟩ := Bool.and_eq_true_iff.mp found
  obtain ⟨found, taken⟩ := Bool.and_eq_true_iff.mp found
  obtain ⟨ready, held⟩ := Bool.and_eq_true_iff.mp found
  obtain ⟨⟨after, seen⟩, step, same⟩ := (Option.any_eq_true _ _).mp stepped
  cases of_decide_eq_true same
  obtain ⟨bridge, member, has⟩ := List.any_eq_true.mp held
  have lawful : Throughout (TdlibCalls fun _ => false) past := fun earlier moment later split => by
    simpa using holdsThroughout_sound tdlibCalls_sound tdlib earlier moment later split
  have heard : HeardReady past 7 := by
    obtain ⟨update, logged, shows⟩ := List.any_eq_true.mp ready
    split at shows
    next call => exact ⟨call, logged, of_decide_eq_true shows⟩
    next => cases shows
  have next : before.taken (.loop (Env.success 42 7 0)) = some (.update (.newCallSignalingData 7 [1])) := by
    split at taken
    next id data same =>
      obtain ⟨rfl, rfl⟩ := of_decide_eq_true taken
      exact same
    next => cases taken
  exact ⟨past, before, after, bridge, run, lawful, tested, step, next, heard, member, of_decide_eq_true has⟩

theorem signaling_is_handed_on : ∃ past before seen after bridge,
    Run (Chronicled (Step { callbackUri := "sip:100@pbx" })) (initial {} 1) past before ∧
      Step { callbackUri := "sip:100@pbx" } (.loop (Env.success 42 7 0)) before seen after ∧
        bridge ∈ before.gateway.bridges ∧
        bridge.ctx.tgCallId = 7 ∧ seen = [.updateSignaling bridge.ctx.id [1]] := by
  obtain ⟨past, before, after, bridge, run, tdlib, tested, step, taken, heard, member, has⟩ :=
    accepted_call [] (List.replicate 4 (.loop (Env.success 42 7 0))) (holdsThroughout unrepeated [])
      [.updateSignaling 1 [1]] (by decide +kernel)
  have unrepeated : Throughout Unrepeated past := fun earlier moment later split => by
    simpa using holdsThroughout_sound unrepeated_sound tested earlier moment later split
  exact ⟨past, before, _, after, bridge, run, step, member, has,
    (signaling_reaches_its_bridge run tdlib unrepeated).reaches _ _ after step 7 [1] taken heard bridge member has⟩

/-- Without the condition: the second bridge of a call does not hear that the call is ready, and the data is lost. -/
theorem repeated_update_loses_signaling :
    ¬ ∀ (settings : Settings) (cache : Cache) (maxCalls : Nat) (outgoing : TgCallId → Bool)
    (past : History) (before : System), Run (Chronicled (Step settings)) (initial cache maxCalls) past before →
      Throughout (TdlibCalls outgoing) past → Inbound settings past before := by
  intro always
  obtain ⟨past, before, after, bridge, run, tdlib, _, step, taken, heard, member, has⟩ :=
    accepted_call [.tdlib (.newMessage ⟨.chat 1, 1, .other⟩), .tdlib (.call ⟨7, 42, false, .pending⟩)]
      (.callback ⟨0, 0, .state .disconnected⟩ :: List.replicate 10 (.loop (Env.success 42 7 0))) (fun _ => true) []
        (by decide +kernel)
  cases (always { callbackUri := "sip:100@pbx" } {} 1 (fun _ => false) past before run tdlib).reaches _ _ after step 7
    [1] taken heard bridge member has

end System
end Tg2Sip
