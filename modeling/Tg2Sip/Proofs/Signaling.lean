import Tg2Sip.Proofs.Legs
import Tg2Sip.Proofs.Lifecycle
import Tg2Sip.Proofs.Wiring

/-! Which blobs of a call reach TDLib. While its bridge exists every blob that found a sink is sent or
waits to be sent, in order, and is sent under the id of that bridge alone. -/

namespace Tg2Sip
open TdApi Lib

namespace StateMachine

/-- The states after `CreateTgVoip`. -/
def Control.connected : Control → Bool
  | .fromTg .waitDtmf | .fromSip .sipWaitMedia | .fromSip .waitDtmf => true
  | _ => false

/-- A bridge in one of these states has a controller that takes signaling data. -/
theorem created_rule (settings : Settings) : System.BridgeRule settings fun control ctx =>
    control.composite = true ∧
      (control.connected = true → ∃ controller, ctx.controller = some controller ∧ controller.created = true) where
  present := by simp [Control.composite]
  fresh := by
    intro env offered id target final errors deeds handles searched
    cases handles with
    | dropped ignored => exact absurd ignored (init_takes searched)
    | taken transition effects =>
      cases transition with
      | refuse | strayUpdate | strayState | strayMedia => exact .inl rfl
      | dial | accept => exact .inr ⟨rfl, by simp [Control.connected]⟩
      | dtmf control waiting => cases waiting
      | tgEnded control inside | sipEnded control inside | failed control inside => cases inside
  next := by
    intro env offered control ctx target final errors deeds kept handles
    cases handles with
    | dropped ignored => exact .inr kept
    | taken transition effects =>
      cases transition with
      | refuse | strayUpdate | strayState | strayMedia | tgEnded | sipEnded | failed => exact .inl rfl
      | dial | accept | answer | dialTg => exact .inr ⟨rfl, by simp [Control.connected]⟩
      | bridge call ready =>
        obtain ⟨_, _, _, _, _, created, bridged, rfl, rfl⟩ := effects.two
        cases created with
        | createdTgVoip call ctx controller user live =>
          cases bridged <;> exact .inr ⟨rfl, fun _ => ⟨controller, rfl, live.1⟩⟩
      | connect call ready =>
        obtain ⟨_, _, _, _, _, user, rest, rfl, rfl⟩ := effects.three
        obtain ⟨_, _, _, _, _, created, answered, rfl, rfl⟩ := rest.two
        cases created with
        | createdTgVoip call ctx controller user live =>
          cases answered <;> exact .inr ⟨rfl, fun _ => ⟨controller, rfl, live.1⟩⟩
      | media id =>
        obtain ⟨_, bridged, rfl⟩ := effects.one
        cases bridged <;> exact .inr ⟨rfl, fun _ => kept.2 rfl⟩
      | dtmf control waiting message digits =>
        obtain ⟨_, dialed, rfl⟩ := effects.one
        cases dialed
        exact .inr kept

variable {settings : Settings} {env : Env} {deps last : Deps} {control target : Control} {offered : Event}

/-- A machine that stays starts its controller, or does nothing that a line notices. -/
theorem processEvent_wired (ran : processEvent settings env control offered deps = .ok (target, last))
    (stays : target ≠ .X) :
    (last.wired = deps.wired ∧ target.connected = control.connected) ∨ ∃ controller, control.connected = false ∧
      target.connected = true ∧
      last.wired = deps.wired ++
        Voip.TgCallsController.startSteps.flatMap (Actions.startShows env deps.ctx.id controller) := by
  rcases processEvent_ran ran with ⟨_, rfl, rfl⟩ | ⟨actions, transition, took⟩
  · exact .inl ⟨rfl, rfl⟩
  · cases transition with
    | refuse | strayUpdate | strayState | strayMedia | tgEnded | sipEnded | failed => exact absurd rfl stays
    | dial | accept | answer | dialTg | media | dtmf => exact .inl ⟨runActions_wired (by simp) (by simp) took, rfl⟩
    | bridge call ready =>
      obtain ⟨middle, created, rest⟩ := foldlM_cons_ok.mp took
      obtain ⟨controller, shown⟩ := Actions.createTgVoip_wired created
      refine .inr ⟨controller, rfl, rfl, ?_⟩
      rw [runActions_wired (by simp) (by simp) rest, shown]
      simp [Obs.wired]
    | connect call ready =>
      obtain ⟨before, stored, later⟩ := foldlM_cons_ok.mp took
      obtain ⟨middle, created, rest⟩ := foldlM_cons_ok.mp later
      obtain ⟨controller, shown⟩ := Actions.createTgVoip_wired created
      cases stored
      refine .inr ⟨controller, rfl, rfl, ?_⟩
      rw [runActions_wired (by simp) (by simp) rest, shown]
      simp [Actions.storeTgUserId, Deps.wired, Deps.observe, Obs.wired]

end StateMachine

/-- A line as the state of the machine says: a machine that is connected listens, and another one is idle. -/
def Line.fits (line : Line) (connected : Bool) : Prop :=
  if connected = true then ∃ user, line = .listening user else line = .idle

theorem Line.fits_listening {connected : Bool} {user : UserId} (fits : (Line.listening user).fits connected) :
    connected = true := by
  cases connected with
  | true => rfl
  | false => cases fits

/-- The machine of a context does to its own line what its state says. -/
theorem Relayed.served {settings : Settings} {env : Env} {deps last : Deps} {control target : StateMachine.Control}
    {offered : StateMachine.Event} {line : Line} {tap : Tap} (relayed : Relayed deps.ctx.id line tap deps.wire)
    (fits : line.fits control.connected) (fresh : deps.seen = [])
    (ran : StateMachine.processEvent settings env control offered deps = .ok (target, last)) (stays : target ≠ .X) :
    ∃ line : Line, line.fits target.connected ∧
      Relayed deps.ctx.id line (last.seen.foldl (Tap.next deps.ctx.id) tap) last.wire := by
  have nothing : deps.wired = [] := by simp [Deps.wired, fresh]
  have wire : last.wire = last.wired.foldl Wire.next deps.wire := by
    obtain ⟨_, _, _, _, did⟩ := StateMachine.processEvent_handles ran
    rw [Deps.run_wire (did.run fresh), Wire.foldl_wired, Deps.wired]
  rw [wire, Tap.foldl_wired]
  rcases StateMachine.processEvent_wired ran stays with ⟨same, state⟩ | ⟨controller, idle, connected, shown⟩
  · refine ⟨line, by rw [state]; exact fits, ?_⟩
    rw [show last.seen.filter Obs.wired = [] from same.trans nothing, same, nothing]
    exact relayed
  · rw [idle] at fits
    cases (show line = .idle from fits)
    refine ⟨.listening controller.userId, by rw [connected]; exact ⟨_, rfl⟩, ?_⟩
    rw [nothing, List.nil_append] at shown
    rw [show last.seen.filter Obs.wired = _ from shown, shown]
    exact Actions.start_relays relayed

/-- Signaling is shown by events that no machine is offered. -/
theorem Gateway.processEvent_signals {settings : Settings} {env : Env} {gateway after : Gateway}
    {event : GatewayEvent} {seen : List Obs} (ran : gateway.processEvent settings env event = .ok (after, seen))
    {obs : Obs} (shown : obs ∈ seen) (signals : obs.signals = true) : Passed gateway event seen := by
  rcases processEvent_ran ran with
    ⟨unrouted, rfl, _⟩ | ⟨slot, counter, offered, control, deps, routed, processed, rfl, rfl⟩
  · obtain ⟨_, same, passed⟩ := processEvent_passes settings env unrouted
    cases same.symm.trans ran
    exact passed
  · obtain ⟨_, _, _, _, did⟩ := StateMachine.processEvent_handles processed
    have quiet := Deps.run_unsignaled (did.run rfl) _ shown
    rw [quiet] at signals
    cases signals

/-- What is sent is the blob of an event for a bridge that exists, under its id. -/
theorem Gateway.processEvent_forwards {settings : Settings} {env : Env} {gateway after : Gateway}
    {event : GatewayEvent} {seen : List Obs} (ran : gateway.processEvent settings env event = .ok (after, seen))
    {number : CtxId} {function : Function} (sent : .forwarded number function ∈ seen) :
    ∃ data, event = .internal (.signalingDataEmitted number data) ∧
      seen = [.forwarded number function] ∧
      ∃ bridge ∈ gateway.bridges, bridge.ctx.id = number ∧
        function = .sendCallSignalingData bridge.ctx.tgCallId data := by
  cases Gateway.processEvent_signals ran sent rfl with
  | nothing => cases sent
  | sent bridge member data =>
    cases List.mem_singleton.mp sent
    exact ⟨data, rfl, rfl, bridge, member, rfl, rfl⟩
  | received => simp at sent

/-- What a controller is given are the bytes of an update. -/
theorem Gateway.processEvent_receives {settings : Settings} {env : Env} {gateway after : Gateway}
    {event : GatewayEvent} {seen : List Obs} (ran : gateway.processEvent settings env event = .ok (after, seen))
    {number : CtxId} {data : Bytes} (given : .updateSignaling number data ∈ seen) :
    seen = [.updateSignaling number data] ∧ ∃ id, event = .update (.newCallSignalingData id data) := by
  cases Gateway.processEvent_signals ran given rfl with
  | nothing => cases given
  | sent => simp at given
  | received bridge member data =>
    cases List.mem_singleton.mp given
    exact ⟨rfl, _, rfl⟩

namespace System
variable {settings : Settings} {label : Label} {before after : System} {seen past : List Obs} {ctx : CtxId}

/-- No other context takes or gives back the sink that a context has. -/
def Sole (ctx : CtxId) (_ : Label) (before : System) (seen : List Obs) : Prop :=
  ∀ other user, other ≠ ctx → .registered other user ∈ seen ∨ .unregistered other user ∈ seen →
    before.gateway.runtime.sinks user ≠ some ctx

/-- A context that has no bridge yet, or one whose bridge has a machine in such a state. -/
def Attends (ctx : CtxId) (system : System) (connected : Bool) : Prop :=
  (system.gateway.ctxCounter < ctx ∧ connected = false) ∨
    ∃ bridge ∈ system.gateway.bridges, bridge.ctx.id = ctx ∧ bridge.control.connected = connected

def Lined (ctx : CtxId) (past : List Obs) (system : System) : Prop :=
  ∀ connected, Attends ctx system connected →
    ∃ line : Line, line.fits connected ∧ Relayed ctx line (tapped ctx past) system.gateway.wire

theorem Popped.wire {middle : System} {event : GatewayEvent} {caller : Option Sip.CallRef}
    (popped : Popped before event caller middle) :
    (∃ number data, event = .internal (.signalingDataEmitted number data) ∧
      before.gateway.wire = ⟨middle.gateway.wire.sinks, (number, data) :: middle.gateway.wire.queued⟩) ∨
    (∀ number data, event ≠ .internal (.signalingDataEmitted number data)) ∧
      middle.gateway.wire = before.gateway.wire := by
  rcases pop_cases popped.pop with
    ⟨head, rest, waiting, ⟨rfl, _⟩, rfl⟩ | ⟨head, rest, _, ⟨rfl, _⟩, rfl⟩ | ⟨head, rest, _, rfl, _, rfl⟩
  · cases head with
    | signalingDataEmitted number data =>
      exact .inl ⟨number, data, rfl, by simp [World.wire, waiting, InternalEvent.blob]⟩
    | internalError number prm => exact .inr ⟨by simp, by simp only [World.wire, waiting]; rfl⟩
  · exact .inr ⟨by simp, rfl⟩
  · exact .inr ⟨by simp, rfl⟩

/-- A step that leaves the machines as they are. -/
private theorem Lined.idle (lined : Lined ctx past before) (bridges : after.gateway.bridges = before.gateway.bridges)
    (counter : after.gateway.ctxCounter = before.gateway.ctxCounter)
    (kept : ∀ line, Relayed ctx line (tapped ctx past) before.gateway.wire →
      Relayed ctx line (tapped ctx (past ++ seen)) after.gateway.wire) : Lined ctx (past ++ seen) after := by
  intro connected attends
  simp only [Attends, bridges, counter] at attends
  obtain ⟨line, fits, relayed⟩ := lined connected attends
  exact ⟨line, fits, kept line relayed⟩

theorem tapped_append (ctx : CtxId) (past seen : List Obs) :
    tapped ctx (past ++ seen) = seen.foldl (Tap.next ctx) (tapped ctx past) :=
  List.foldl_append

/-- The event of a blob is handled: if the blob is for the context, it is sent. -/
private theorem Lined.signaled {gateway : Gateway} {number : CtxId} {data : Bytes} (lined : Lined ctx past before)
    (equipped : ∀ bridge ∈ before.gateway.bridges, bridge.control.connected = true →
      ∃ controller, bridge.ctx.controller = some controller ∧ controller.created = true)
    (bridges : gateway.bridges = before.gateway.bridges)
    (wire : before.gateway.wire = ⟨gateway.wire.sinks, (number, data) :: gateway.wire.queued⟩) (connected : Bool)
    (attends : Attends ctx before connected) : ∃ line : Line, line.fits connected ∧
      Relayed ctx line (tapped ctx (past ++ (gateway.processSignalingDataEmitted number data).2)) gateway.wire := by
  obtain ⟨line, fits, relayed⟩ := lined connected attends
  rw [wire] at relayed
  rw [tapped_append]
  by_cases same : number = ctx
  · subst same
    obtain ⟨⟨user, rfl⟩, sent⟩ := relayed.forward
    rcases attends with ⟨_, rfl⟩ | ⟨bridge, member, named, _⟩
    · cases fits
    cases found : findBridge (fun ctx => ctx.id == number) gateway.bridges with
    | none => exact absurd named (by simpa using findBridge_none.mp found bridge (bridges ▸ member))
    | some slot =>
      obtain ⟨held, holds⟩ := findBridge_mem found
      rw [bridges] at held
      obtain ⟨other, matching, again⟩ :=
        lined slot.bridge.control.connected (.inr ⟨slot.bridge, held, by simpa using holds, rfl⟩)
      cases again.held.symm.trans relayed.held
      obtain ⟨controller, present, _⟩ := equipped _ held (Line.fits_listening matching)
      refine ⟨.listening user, fits, ?_⟩
      simp only [Gateway.processSignalingDataEmitted, found, present]
      exact sent slot.bridge.ctx.tgCallId
  · have spares : ∀ obs ∈ (gateway.processSignalingDataEmitted number data).2, obs.spares ctx line := by
      intro obs member
      unfold Gateway.processSignalingDataEmitted at member
      split at member
      next => cases member
      next slot found =>
        split at member
        next => cases member
        next => rw [List.mem_singleton.mp member]; exact same
    have silent : (gateway.processSignalingDataEmitted number data).2.foldl Wire.next gateway.wire = gateway.wire := by
      unfold Gateway.processSignalingDataEmitted
      split
      next => rfl
      next slot found => split <;> rfl
    exact ⟨line, fits, silent ▸ (relayed.other same).run spares⟩

/-- A machine is served: its own line follows its state, and another one is left alone. -/
private theorem Lined.served {env : Env} {event : GatewayEvent} {middle : Gateway} {slot : Slot} {counter : Nat}
    {offered : StateMachine.Event} {control : StateMachine.Control} {deps : Deps} (lined : Lined ctx past before)
    (sole : Sole ctx label before deps.seen) (numbered : before.gateway.WellNumbered)
    (routed : Gateway.Routed before.gateway event slot counter offered)
    (processed : StateMachine.processEvent settings env slot.bridge.control offered
      { toWorld := middle.toWorld, ctx := slot.bridge.ctx } = .ok (control, deps))
    (wire : middle.wire = before.gateway.wire) (counted : after.gateway.ctxCounter = counter)
    (members : ∀ bridge, bridge ∈ after.gateway.bridges ↔
      bridge ∈ before.gateway.bridges ∧ bridge.ctx.id ≠ slot.bridge.ctx.id ∨
      bridge = ⟨control, deps.ctx⟩ ∧ ¬ (Gateway.erases event = true ∧ control = .X))
    (inside : ∀ bridge ∈ after.gateway.bridges, bridge.control.composite = true)
    (world : after.gateway.wire = deps.wire) : Lined ctx (past ++ deps.seen) after := by
  obtain ⟨_, _, _, handles, did⟩ := StateMachine.processEvent_handles processed
  have run := did.run rfl
  obtain ⟨number, own⟩ := Deps.run_by run
  intro connected attends
  rw [world, tapped_append]
  by_cases same : slot.bridge.ctx.id = ctx
  · subst same
    have bounded := (routed.numbered numbered).2 slot.bridge slot.bridge_mem
    rcases attends with ⟨unborn, _⟩ | ⟨bridge, member, named, rfl⟩
    · exact absurd (counted ▸ unborn) (Nat.not_lt_of_le bounded)
    rcases (members bridge).mp member with ⟨_, other⟩ | ⟨rfl, _⟩
    · exact absurd named other
    have attended : Attends slot.bridge.ctx.id before slot.bridge.control.connected := by
      rcases routed.origin with ⟨list, _⟩ | ⟨rfl, _⟩
      · exact .inr ⟨slot.bridge, Slot.within list, rfl, rfl⟩
      · exact .inl ⟨Nat.lt_succ_self _, rfl⟩
    obtain ⟨line, fits, relayed⟩ := lined _ attended
    rw [← wire] at relayed
    refine Relayed.served relayed fits rfl processed ?_
    rintro rfl
    cases inside _ member
  · have attended : Attends ctx before connected := by
      rcases attends with ⟨unborn, idle⟩ | ⟨bridge, member, named, state⟩
      · refine .inl ⟨?_, idle⟩
        exact Nat.lt_of_le_of_lt routed.grows (counted ▸ unborn)
      · rcases (members bridge).mp member with ⟨old, _⟩ | ⟨rfl, _⟩
        · exact .inr ⟨bridge, old, named, state⟩
        · exact absurd (number.symm.trans named) same
    obtain ⟨line, fits, relayed⟩ := lined connected attended
    refine ⟨line, fits, ?_⟩
    have final : deps.wire = deps.seen.foldl Wire.next before.gateway.wire := (Deps.run_wire run).trans (by rw [← wire])
    rw [final]
    refine relayed.run fun obs member => ?_
    have foreign : ∀ author, obs.by = some author → author ≠ ctx := fun author named => by
      rw [own obs member author named]
      exact same
    have apart : ∀ author user, obs = .registered author user ∨ obs = .unregistered author user →
        line ≠ .listening user := by
      intro author user shows listening
      have other : author ≠ ctx := foreign author (by rcases shows with rfl | rfl <;> rfl)
      refine sole author user other ?_ ((relayed.sinks user).mpr listening)
      rcases shows with rfl | rfl
      · exact .inl member
      · exact .inr member
    cases obs with
    | ntg author user call =>
      cases call with
      | connectP2p => exact foreign author rfl
      | _ => trivial
    | forwarded author function => exact foreign author rfl
    | registered author user => exact ⟨foreign author rfl, apart author user (.inl rfl)⟩
    | unregistered author user => exact ⟨foreign author rfl, apart author user (.inr rfl)⟩
    | _ => trivial

private theorem Lined.step (lined : Lined ctx past before) (step : Step settings label before seen after)
    (sole : Sole ctx label before seen) (numbered : before.gateway.WellNumbered)
    (equipped : ∀ bridge ∈ before.gateway.bridges, bridge.control.connected = true →
      ∃ controller, bridge.ctx.controller = some controller ∧ controller.created = true)
    (inside : ∀ bridge ∈ after.gateway.bridges, bridge.control.composite = true) : Lined ctx (past ++ seen) after := by
  have plain : ∀ obs line, obs.wired = false → Relayed ctx line (tapped ctx past) before.gateway.wire →
      Relayed ctx line (tapped ctx (past ++ [obs])) before.gateway.wire := by
    intro obs line unwired relayed
    have next := relayed.next (Obs.spares_of_unwired unwired ctx line)
    rw [tapped_append]
    rwa [show before.gateway.wire.next obs = before.gateway.wire by cases obs <;> first | rfl | cases unwired] at next
  cases label with
  | tdlib update => cases step; exact lined.idle rfl rfl fun line relayed => by simpa using relayed
  | signal => cases step; exact lined.idle rfl rfl fun line relayed => by simpa using relayed
  | incoming id ext =>
    obtain ⟨rfl, live, _, rfl⟩ := settle_some step
    exact lined.idle rfl rfl fun line => plain _ line rfl
  | callback callback =>
    obtain ⟨rfl, live, _, rfl⟩ := settle_some step
    exact lined.idle rfl rfl fun line => plain _ line rfl
  | worker blob =>
    cases step
    refine lined.idle rfl rfl fun line relayed => ?_
    rw [tapped_append]
    have spares : (Obs.emitted blob.1 blob.2).spares ctx line := trivial
    have emitted := relayed.next spares
    rwa [← World.wire_emit] at emitted
  | loop env =>
    rcases loop_some step with ⟨_, rfl, rfl⟩ | ⟨event, caller, middle, gateway, waiting, ran, settled⟩
    · exact lined.idle rfl rfl fun line relayed => by simpa using relayed
    · obtain ⟨_, live, _, rfl⟩ := settle_some settled
      have popped := pop_popped waiting
      cases route : middle.gateway.route event with
      | none =>
        obtain ⟨shown, same, quiet⟩ := Gateway.processEvent_unrouted settings env route
        rw [same] at ran
        cases ran
        rcases popped.wire with ⟨number, data, rfl, wire⟩ | ⟨other, wire⟩
        · have shown : seen = (middle.gateway.processSignalingDataEmitted number data).2 :=
            (congrArg Prod.snd (Except.ok.inj same)).symm
          subst shown
          intro connected attends
          simp only [Attends, popped.bridges, popped.counter] at attends
          exact lined.signaled equipped popped.bridges wire connected attends
        · refine lined.idle popped.bridges popped.counter fun line relayed => ?_
          have unwired : seen.filter Obs.wired = [] := by
            refine List.filter_eq_nil_iff.mpr fun obs member wired => ?_
            have signals := quiet obs member
            cases obs with
            | forwarded number function =>
              obtain ⟨data, named, _⟩ := Gateway.processEvent_forwards same member
              exact other number data named
            | updateSignaling => cases wired
            | _ => cases signals
          rw [tapped_append, Tap.foldl_wired, unwired]
          exact wire.symm ▸ relayed
      | some target =>
        obtain ⟨⟨slot, counter⟩, offered⟩ := target
        obtain ⟨control, deps, processed, rfl, rfl⟩ := Gateway.processEvent_served ran route
        have members := (Gateway.route_routed route).mem_after (popped.numbered numbered)
          (rfl : _ = slot.before ++ Gateway.kept event control deps.ctx ++ slot.after)
        rw [popped.bridges] at members
        have wire : middle.gateway.wire = before.gateway.wire := by
          rcases popped.wire with ⟨number, data, rfl, _⟩ | ⟨_, wire⟩
          · cases route
          · exact wire
        have routed := Gateway.route_routed ((Gateway.route_congr popped.bridges popped.counter event).symm.trans route)
        exact lined.served sole numbered routed processed wire rfl members inside rfl

theorem Lined.run {cache : Cache} {maxCalls : Nat} {system : System}
    (reached : Reaches settings (Sole ctx) (initial cache maxCalls) past system) : Lined ctx past system := by
  induction reached with
  | refl =>
    rintro connected (⟨_, rfl⟩ | ⟨bridge, member, _⟩)
    · exact ⟨.idle, rfl, rfl, by simp [initial, World.wire, Map.empty], rfl, fun _ => rfl⟩
    · cases member
  | @tail past before seen after earlier last ih =>
    obtain ⟨label, sole, step⟩ := last
    obtain ⟨numbered, equipped⟩ := (StateMachine.created_rule settings).run earlier
    have later : Reaches settings (Sole ctx) (initial cache maxCalls) (past ++ seen) after :=
      .tail earlier ⟨label, sole, step⟩
    obtain ⟨_, inside⟩ := (StateMachine.created_rule settings).run later
    exact ih.step step sole numbered (fun bridge member => (equipped bridge member).2) fun bridge member =>
      (inside bridge member).1

/-- What is sent in a step is the blob at the head of the queue, for the bridge that it was emitted for. -/
theorem Step.forwards (step : Step settings label before seen after) {number : CtxId} {function : Function}
    (sent : .forwarded number function ∈ seen) : seen = [.forwarded number function] ∧ ∃ data rest,
      before.gateway.internalEvents = .signalingDataEmitted number data :: rest ∧
      ∃ bridge ∈ before.gateway.bridges, bridge.ctx.id = number ∧
        function = .sendCallSignalingData bridge.ctx.tgCallId data := by
  cases label with
  | loop env =>
    rcases loop_some step with ⟨_, rfl, rfl⟩ | ⟨event, caller, middle, gateway, waiting, ran, _⟩
    · cases sent
    · obtain ⟨data, rfl, all, bridge, member, named, same⟩ := Gateway.processEvent_forwards ran sent
      rw [(pop_popped waiting).bridges] at member
      rcases pop_cases waiting with
        ⟨head, rest, held, ⟨first, _⟩, _⟩ | ⟨head, rest, _, ⟨first, _⟩, _⟩ | ⟨head, rest, _, first, _, _⟩
      · cases first; exact ⟨all, data, rest, held, bridge, member, named, same⟩
      · cases first
      · cases first
  | tdlib | signal | worker => cases step; simp at sent
  | incoming | callback => obtain ⟨rfl, _⟩ := settle_some step; simp at sent

/-- While the bridge of a call exists and no other context has to do with its sink, the blobs emitted for it are
those that were sent and then those in the queue, unless some were emitted before the sink was
registered. Whatever is sent carries the id of the bridge that it was emitted for. -/
theorem signaling_is_relayed {cache : Cache} {maxCalls : Nat} {system : System}
    (reached : Reaches settings (Sole ctx) (System.initial cache maxCalls) past system) :
    (∀ bridge ∈ system.gateway.bridges, bridge.ctx.id = ctx →
      ((tapped ctx past).blobs = (tapped ctx past).sent ++ system.gateway.wire.waiting ctx ↔
        (tapped ctx past).early = [])) ∧
    ∀ label seen after, Step settings label system seen after → ∀ number function, .forwarded number function ∈ seen →
      seen = [.forwarded number function] ∧ ∃ data rest,
        system.gateway.internalEvents = .signalingDataEmitted number data :: rest ∧
        ∃ bridge ∈ system.gateway.bridges, bridge.ctx.id = number ∧
          function = .sendCallSignalingData bridge.ctx.tgCallId data := by
  refine ⟨fun bridge member named => ?_, fun label seen after step number function sent => step.forwards sent⟩
  obtain ⟨line, _, relayed⟩ := Lined.run reached _ (.inr ⟨bridge, member, named, rfl⟩)
  rw [relayed.relayed, List.append_left_eq_self]

/-- `Sole` as a test. -/
private def sole (ctx : CtxId) (_ : Label) (before : System) (seen : List Obs) : Bool :=
  seen.all fun obs => match obs with
    | .registered other user | .unregistered other user => other == ctx || before.gateway.runtime.sinks user != some ctx
    | _ => true

private theorem sole_sound (label : Label) (before : System) (seen : List Obs)
    (tested : sole ctx label before seen = true) :
    Sole ctx label before seen := by
  intro other user different shown
  have tested := List.all_eq_true.mp tested
  rcases shown with shown | shown <;> simpa [different] using tested _ shown

/-- A call from Telegram up to its controller, and some more steps. -/
private def connectedCall (starting : Env) (more : List Label) : List Label :=
  [.tdlib (.call ⟨7, 42, false, .pending⟩), .loop (Env.success 42 7 0), .loop (Env.success 42 7 0),
    .callback ⟨0, 0, .media true⟩, .loop (Env.success 42 7 0), .loop (Env.success 42 7 0),
    .tdlib (.call ⟨7, 42, false, .ready ⟨[], List.replicate 256 0⟩⟩), .loop starting] ++ more

/-- Of two blobs that workers emit once the sink is there one is sent and the other is next. -/
theorem blobs_are_sent_in_order : ∃ past system,
    Reaches { callbackUri := "sip:100@pbx" } (Sole 1)
    (System.initial {} 1) past system ∧ (tapped 1 past).blobs = [[1], [2]] ∧
      (tapped 1 past).blobs = (tapped 1 past).sent ++ system.gateway.wire.waiting 1 ∧
        .forwarded 1 (.sendCallSignalingData 7 [1]) ∈ past := by
  have ran : (execute (System.step { callbackUri := "sip:100@pbx" }) (sole 1)
      (connectedCall (Env.success 42 7 0) [.worker (42, [1]), .loop (Env.success 42 7 0), .loop (Env.success 42 7 0),
        .worker (42, [2])])
      (System.initial {} 1)).any
        (fun result => result.1.gateway.bridges.any (fun bridge => decide (bridge.ctx.id = 1)) &&
        decide ((tapped 1 result.2).blobs = [[1], [2]] ∧ (tapped 1 result.2).early = [] ∧
          .forwarded 1 (.sendCallSignalingData 7 [1]) ∈ result.2)) = true := by decide +kernel
  obtain ⟨system, past, reached, found⟩ := execute_reaches sole_sound ran
  obtain ⟨lives, found⟩ := Bool.and_eq_true_iff.mp found
  obtain ⟨bridge, member, named⟩ := List.any_eq_true.mp lives
  obtain ⟨blobs, early, sent⟩ := of_decide_eq_true found
  exact ⟨past, system, reached, blobs,
    ((signaling_is_relayed reached).1 bridge member (of_decide_eq_true named)).mpr early, sent⟩

/-- A blob that a worker emits while `Start` has not registered the sink yet is never sent. -/
theorem early_blob_is_lost : ∃ past system,
    Reaches { callbackUri := "sip:100@pbx" } (Sole 1) (System.initial {} 1) past system ∧
      (∃ bridge ∈ system.gateway.bridges, bridge.ctx.id = 1) ∧ (tapped 1 past).blobs = [[1]] ∧
        (tapped 1 past).sent = [] ∧ system.gateway.wire.waiting 1 = [] := by
  have ran : (execute (System.step { callbackUri := "sip:100@pbx" }) (sole 1)
      (connectedCall { Env.success 42 7 0 with emittedBeforeStart := fun step => if step =
        .register then [(42, [1])] else [] } [])
      (System.initial {} 1)).any
        (fun result => result.1.gateway.bridges.any (fun bridge => decide (bridge.ctx.id = 1)) &&
        decide ((tapped 1 result.2).blobs = [[1]] ∧ (tapped 1 result.2).sent = [] ∧
            result.1.gateway.wire.waiting 1 = [])) = true := by
    decide +kernel
  obtain ⟨system, past, reached, found⟩ := execute_reaches sole_sound ran
  obtain ⟨lives, found⟩ := Bool.and_eq_true_iff.mp found
  obtain ⟨bridge, member, named⟩ := List.any_eq_true.mp lives
  exact ⟨past, system, reached, ⟨bridge, member, of_decide_eq_true named⟩, of_decide_eq_true found⟩

end System
end Tg2Sip
