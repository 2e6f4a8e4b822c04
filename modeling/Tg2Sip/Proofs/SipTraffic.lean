import Tg2Sip.Proofs.Bridges

/-! The SIP client and pjsua together. Whatever thread does it, only seven things happen to
the table of calls, the queue of events and the ids that pjsua has given. -/

namespace Tg2Sip
open Lib Sip

/-- What pjsua has under its ids once a call has reported. -/
def reported (live : Map CallId CallRef) (callback : Callback) : Map CallId CallRef :=
  if callback.report = .state .disconnected then live.erase callback.id else live

/-- One of the seven, where ids are given as a condition admits. -/
inductive Traffic (maxCalls : Nat) (gives : CallId → Prop) :
    Client × Map CallId CallRef → Client × Map CallId CallRef → Prop where
  | popped (client : Client) (live : Map CallId CallRef) (queued : Queued) (rest : List Queued)
      (waiting : client.events = queued :: rest) :
      Traffic maxCalls gives (client, live) ({ client with events := rest }, live)
  | incoming (client : Client) (live : Map CallId CallRef) (id : CallId) (ext : String) (free : live id = none)
      (bounds : 0 ≤ id ∧ id < maxCalls) (admitted : gives id) :
      Traffic maxCalls gives (client, live) (client.onIncomingCall id ext, live.assign id client.created)
  | heard (client : Client) (live : Map CallId CallRef) (dialing : Option CallRef) (callback : Callback)
      (calling : live callback.id = some callback.call) :
      Traffic maxCalls gives (client, live) (client.onCallback dialing callback, reported live callback)
  | refused (client : Client) (live : Map CallId CallRef) :
      Traffic maxCalls gives (client, live) ({ client with created := client.created + 1 }, live)
  | given (client : Client) (live : Map CallId CallRef) (id : CallId) (free : live id = none)
      (bounds : 0 ≤ id ∧ id < maxCalls) (admitted : gives id) :
      Traffic maxCalls gives (client, live) ({ client with created := client.created + 1 },
        live.assign id client.created)
  | registered (client : Client) (live : Map CallId CallRef) (id : CallId) (call : CallRef) :
      Traffic maxCalls gives (client, live) ({ client with calls := client.calls.emplace id call }, live)
  | erased (client : Client) (live : Map CallId CallRef) (id : CallId) :
      Traffic maxCalls gives (client, live) ({ client with calls := client.calls.erase id }, live)

/-- Observations that the SIP client has no part in. -/
def Obs.aside : Obs → Bool
  | .forwarded .. | .updateSignaling .. | .emitted .. => true
  | _ => false

/-- A relation between the client before and after what is seen of it, which holds of every
step because it holds of the parts of a step. -/
structure ClientRule (rel : Client → List Obs → Client → Prop) : Prop where
  aside : ∀ {client seen}, (∀ obs ∈ seen, obs.aside = true) → rel client seen client
  trans : ∀ {before middle after seen later}, rel before seen middle → rel middle later after →
    rel before (seen ++ later) after
  popped : ∀ {client queued rest}, client.events = queued :: rest → rel client [] { client with events := rest }
  incoming : ∀ {client id ext}, rel client [.given none id client.created] (client.onIncomingCall id ext)
  heard : ∀ {client callback}, rel client [.callback callback] (client.onCallback none callback)
  touch : ∀ {before seen after}, Deps.Touch before seen after → rel before.sip seen after.sip

namespace ClientRule
variable {rel : Client → List Obs → Client → Prop} (rule : ClientRule rel)
include rule

theorem touches {before after : Deps} {seen : List Obs} (run : Run Deps.Touch before seen after) :
    rel before.sip seen after.sip := by
  induction run with
  | refl => exact rule.aside (by simp)
  | tail before last ih => exact rule.trans ih (rule.touch last)

theorem handled {settings : Settings} {env : Env} {gateway after : Gateway} {event : GatewayEvent} {seen : List Obs}
    (handled : Gateway.Handled settings env gateway event after seen) : rel gateway.sip seen after.sip := by
  cases handled with
  | passed unrouted quiet =>
    refine rule.aside fun obs member => ?_
    have signals := quiet obs member
    cases obs <;> first | rfl | cases signals
  | offered routed handles bridges counted queued touched =>
    obtain ⟨deps, run, same⟩ := touched
    rw [same]
    exact rule.touches run

/-- Steps of all threads. -/
theorem step {settings : Settings} {label : Label} {before after : System} {seen : List Obs}
    (step : System.Step settings label before seen after) : rel before.gateway.sip seen after.gateway.sip := by
  cases label with
  | tdlib update => cases step; exact rule.aside (by simp)
  | signal => cases step; exact rule.aside (by simp)
  | worker blob =>
    cases step
    have same : (before.gateway.toWorld.emit blob).sip = before.gateway.sip := by unfold World.emit; split <;> rfl
    rw [same]
    exact rule.aside (by simp [Obs.aside])
  | incoming id ext =>
    obtain ⟨rfl, live, _, rfl⟩ := System.settle_some step
    exact rule.incoming
  | callback callback =>
    obtain ⟨rfl, live, _, rfl⟩ := System.settle_some step
    exact rule.heard
  | loop env =>
    rcases System.loop_some step with ⟨_, rfl, rfl⟩ | ⟨event, queued, middle, gateway, waiting, ran, settled⟩
    · exact rule.aside (by simp)
    · obtain ⟨_, live, _, rfl⟩ := System.settle_some settled
      have handled := rule.handled (Gateway.processEvent_handled ran)
      rcases System.pop_cases waiting with ⟨event, rest, _, _, rfl⟩ | ⟨update, rest, _, _, rfl⟩ |
        ⟨queued, rest, held, _, _, rfl⟩
      · exact handled
      · exact handled
      · simpa using rule.trans (rule.popped held) handled

end ClientRule

theorem pjsua_aside {maxCalls : Nat} {live : Map CallId CallRef} {seen : List Obs}
    (aside : ∀ obs ∈ seen, obs.aside = true) : seen.foldlM (System.pjsua maxCalls) live = some live := by
  induction seen with
  | nil => rfl
  | cons obs seen ih =>
    have same : System.pjsua maxCalls live obs = some live := by
      have aside := aside obs (by simp)
      cases obs <;> first | rfl | cases aside
    rw [List.foldlM_cons, same]
    exact ih fun other member => aside other (by simp [member])

/-- A property of the client and of pjsua that all seven keep. -/
structure KeptByTraffic (maxCalls : Nat) (gives : CallId → Prop) (kept : Client → Map CallId CallRef → Prop) :
    Prop where
  step : ∀ before after, Traffic maxCalls gives before after → kept before.1 before.2 → kept after.1 after.2

namespace KeptByTraffic
variable {maxCalls : Nat} {gives : CallId → Prop} {kept : Client → Map CallId CallRef → Prop}
  (rule : KeptByTraffic maxCalls gives kept)
include rule

theorem callbacks {client : Client} {live after : Map CallId CallRef} (dialing : Option CallRef)
    {callbacks : List Callback}
    (folded : (callbacks.map Obs.callback).foldlM (System.pjsua maxCalls) live = some after)
    (valid : kept client live) :
    kept (client.onCallbacks dialing callbacks) after := by
  induction callbacks generalizing client live with
  | nil => cases folded; exact valid
  | cons callback callbacks ih =>
    rw [List.map_cons, List.foldlM_cons] at folded
    obtain ⟨middle, first, rest⟩ := Option.bind_eq_some_iff.mp folded
    simp only [System.pjsua] at first
    split at first
    next calling =>
      cases first
      exact ih rest (rule.step _ _ (.heard client live dialing callback calling) valid)
    next => cases first

/-- A dial that pjsua has given its id. -/
theorem dial {client : Client} {live after : Map CallId CallRef} {callbacks : List Callback} {id : CallId}
    (folded : (callbacks.map Obs.callback).foldlM (System.pjsua maxCalls) (live.assign id client.created) = some after)
    (valid : kept { client with created := client.created + 1 } (live.assign id client.created)) :
    kept (client.dial ⟨callbacks, .ok id⟩).1 after :=
  rule.step _ _ (.registered _ _ id client.created) (rule.callbacks (some client.created) folded valid)

theorem touch {before after : Deps} {seen : List Obs} {live final : Map CallId CallRef}
    (touch : Deps.Touch before seen after) (admitted : ∀ ctx id call, .given ctx id call ∈ seen → gives id)
    (folded : seen.foldlM (System.pjsua maxCalls) live = some final) (valid : kept before.sip live) :
    kept after.sip final := by
  cases touch with
  | dialed callbacks id =>
    obtain ⟨middle, first, rest⟩ := Option.bind_eq_some_iff.mp folded
    simp only [System.pjsua] at first
    split at first
    next free =>
      cases first
      exact rule.dial rest (rule.step _ _ (.given before.sip live id free.1 free.2 (admitted _ id _ (.head _))) valid)
    next => cases first
  | undialed callbacks reason uri prm =>
    rw [List.foldlM_append] at folded
    obtain ⟨middle, called, rest⟩ := Option.bind_eq_some_iff.mp folded
    cases rest
    exact rule.callbacks (some before.sip.created) called (rule.step _ _ (.refused before.sip live) valid)
  | hungUp id call held prm hangup =>
    have ended : kept (before.sip.onCallbacks none hangup.callbacks) final := rule.callbacks none folded valid
    simp only [Client.hangup, held]
    split
    · exact ended
    · exact rule.step _ _ (.erased _ _ id) ended
  | emitted blob =>
    cases folded
    simp only [Deps.emit, World.emit]
    split <;> exact valid
  | shown obs own plain =>
    cases obs with
    | given => cases plain
    | callback => cases plain
    | _ => cases folded; exact valid
  | _ => cases folded; exact valid

theorem client : ClientRule fun before seen after => (∀ ctx id call, .given ctx id call ∈ seen → gives id) →
    ∀ live final, seen.foldlM (System.pjsua maxCalls) live = some final → kept before live → kept after final where
  aside := by
    intro client seen aside admitted live final folded valid
    rw [pjsua_aside aside] at folded
    cases folded
    exact valid
  trans := by
    intro before middle after seen later first rest admitted live final folded valid
    rw [List.foldlM_append] at folded
    obtain ⟨between, folded, foldedRest⟩ := Option.bind_eq_some_iff.mp folded
    have admittedFirst := fun ctx id call member => admitted ctx id call (List.mem_append_left later member)
    have admittedRest := fun ctx id call member => admitted ctx id call (List.mem_append_right seen member)
    exact rest admittedRest _ _ foldedRest (first admittedFirst _ _ folded valid)
  popped := by
    intro client queued rest waiting admitted live final folded valid
    cases folded
    exact rule.step _ _ (.popped client live queued rest waiting) valid
  incoming := by
    intro client id ext admitted live final folded valid
    simp only [List.foldlM_cons, List.foldlM_nil, System.pjsua] at folded
    split at folded
    next free =>
      cases folded
      exact rule.step _ _ (.incoming client live id ext free.1 free.2 (admitted _ id _ (.head _))) valid
    next => cases folded
  heard := by
    intro client callback admitted live final folded valid
    have heard : kept (client.onCallbacks none [callback]) final := rule.callbacks none folded valid
    exact heard
  touch := fun touch admitted live final folded valid => rule.touch touch admitted folded valid

theorem system {settings : Settings} {label : Label} {before after : System} {seen : List Obs}
    (step : System.Step settings label before seen after)
    (admitted : ∀ ctx id call, .given ctx id call ∈ seen → gives id)
    (valid : kept before.gateway.sip before.live) (pool : before.maxCalls = maxCalls) :
    kept after.gateway.sip after.live :=
  rule.client.step step admitted _ _ (by rw [← pool]; exact (System.step_folded step).1) valid

end KeptByTraffic

/-- Ids of calls are never negative, so `PJSUA_INVALID_ID` is none. -/
def ValidIds (client : Client) (live : Map CallId CallRef) : Prop :=
  (∀ queued ∈ client.events, 0 ≤ queued.event.id) ∧ ∀ id call, live id = some call → 0 ≤ id

theorem validIds_kept (maxCalls : Nat) : KeptByTraffic maxCalls (fun _ => True) ValidIds := by
  constructor
  intro before after traffic valid
  obtain ⟨queued, known⟩ := valid
  have assigned : ∀ (live : Map CallId CallRef) (id : CallId) (call : CallRef),
    (∀ id call, live id = some call → 0 ≤ id) →
      0 ≤ id → ∀ other called, (live.assign id call) other = some called → 0 ≤ other := by
    intro live id call known bound other called held
    by_cases same : other = id
    · rw [same]; exact bound
    · rw [Map.assign_other _ _ same] at held
      exact known other called held
  cases traffic with
  | popped client live event rest waiting =>
    exact ⟨fun other member => queued other (by simp [waiting, member]), known⟩
  | incoming client live id ext free bounds admitted =>
    refine ⟨?_, assigned live id client.created known bounds.1⟩
    intro other member
    rcases List.mem_append.mp member with member | member
    · exact queued other member
    · rw [List.mem_singleton.mp member]; exact bounds.1
  | heard client live dialing callback calling =>
    have bound := known _ _ calling
    constructor
    · intro other member
      unfold Client.onCallback at member
      split at member
      · rcases List.mem_append.mp member with member | member
        · exact queued other member
        · rw [List.mem_singleton.mp member, Callback.event_id]; exact bound
      · exact queued other member
    · intro id call held
      unfold reported at held
      split at held
      · by_cases same : id = callback.id
        · rw [same]; exact bound
        · exact known id call ((Map.erase_other live same).symm.trans held)
      · exact known id call held
  | refused client live => exact ⟨queued, known⟩
  | given client live id free bounds admitted => exact ⟨queued, assigned live id client.created known bounds.1⟩
  | registered client live id call => exact ⟨queued, known⟩
  | erased client live id => exact ⟨queued, known⟩

/-- An id that pjsua gave was free when it was given, and is within the pool. -/
theorem pjsua_given {maxCalls : Nat} {live final : Map CallId CallRef} {seen : List Obs} {ctx : Option CtxId}
    {id : CallId} {call : CallRef} (folded : seen.foldlM (System.pjsua maxCalls) live = some final)
    (given : .given ctx id call ∈ seen) : 0 ≤ id ∧ id < maxCalls := by
  induction seen generalizing live with
  | nil => cases given
  | cons obs seen ih =>
    rw [List.foldlM_cons] at folded
    obtain ⟨middle, first, rest⟩ := Option.bind_eq_some_iff.mp folded
    rcases List.mem_cons.mp given with rfl | given
    · simp only [System.pjsua] at first
      split at first
      next free => exact free.2
      next => cases first
    · exact ih rest given

theorem Effect.given {settings : Settings} {env : Env} {action : Action} {ctx final : Context} {number : CtxId}
    {errors : List InternalEvent} {deeds : List Obs} {id : CallId}
    (effect : Effect settings env action ctx final errors deeds)
    (dialed : .associated number .dialSip (.sip id) ∈ deeds) :
    ∃ call, .given (some number) id call ∈ deeds := by
  cases effect with
  | dialedSip call ctx prm given created result =>
    simp only [List.mem_cons, List.not_mem_nil, or_false, Obs.associated.injEq, reduceCtorEq, false_or] at dialed
    obtain ⟨rfl, _, same⟩ := dialed
    cases same
    exact ⟨created, by simp⟩
  | cleanUp ctx controller ended same =>
    simp only [stops, discards, hangups, List.mem_append] at dialed
    rcases dialed with (dialed | dialed) | dialed <;> split at dialed <;> simp at dialed
  | _ => simp at dialed

theorem Handles.given {settings : Settings} {env : Env} {offered : StateMachine.Event}
    {control target : StateMachine.Control} {ctx final : Context} {number : CtxId} {errors : List InternalEvent}
    {deeds : List Obs} {id : CallId}
    (handles : Handles settings env offered control ctx target final errors deeds)
    (dialed : .associated number .dialSip (.sip id) ∈ deeds) : ∃ call, .given (some number) id call ∈ deeds := by
  cases handles with
  | dropped ignored => cases dialed
  | taken transition effects =>
    rcases effects.deed dialed with ⟨_, _, _, same⟩ | ⟨_, _, _, _, _, _, effect, shown, all⟩
    · cases same
    · obtain ⟨call, given⟩ := effect.given shown
      exact ⟨call, all _ given⟩

section Dialing
variable {settings : Settings} {env : Env} {ctx final : Context} {errors : List InternalEvent} {deeds : List Obs}
  {number : Option CtxId} {id : CallId} {created : CallRef}

theorem Effect.dials {action : Action} (effect : Effect settings env action ctx final errors deeds)
    (given : .given number id created ∈ deeds) : ∃ call, action = .dialSip call := by
  cases effect with
  | dialedSip call => exact ⟨call, rfl⟩
  | cleanUp ctx controller ended same =>
    simp only [stops, discards, hangups, List.mem_append] at given
    rcases given with (given | given) | given <;> split at given <;> simp at given
  | _ => simp at given

/-- Only one transition dials over SIP, and this is all that it does. -/
theorem Handles.dialed {offered : StateMachine.Event} {control target : StateMachine.Control}
    (handles : Handles settings env offered control ctx target final errors deeds)
    (given : .given number id created ∈ deeds) : ∃ call prm, control = .init ∧ offered = .updateCall call ∧
      target = .fromTg .sipWaitMedia ∧ errors = [] ∧ number = some ctx.id ∧
      final = { ctx with tgCallId := call.id, userId := call.userId, sipCallId := id } ∧
      deeds = [.action ctx.id .storeTgId, .associated ctx.id .storeTgId (.tg call.id), .action ctx.id .storeTgUserId,
        .action ctx.id .dialSip, .query ctx.id .dialSip (.getUser call.userId) true, .given number id created,
        .sip ctx.id .dialSip (.dial settings.callbackUri prm) true, .associated ctx.id .dialSip (.sip id)] := by
  cases handles with
  | dropped ignored => cases given
  | taken transition effects =>
    rcases effects.deed given with ⟨_, _, _, same⟩ | ⟨action, member, _, _, _, _, effect, shown, _⟩
    · cases same
    · obtain ⟨called, rfl⟩ := effect.dials shown
      cases transition with
      | dial call incoming pending uri =>
        obtain ⟨_, _, _, _, _, stored, rest, rfl, rfl⟩ := effects.three
        obtain ⟨_, _, _, _, _, user, dialed, rfl, rfl⟩ := rest.two
        cases stored
        cases user
        cases dialed with
        | dialedSip call ctx prm sipId made result =>
          simp at given
          obtain ⟨rfl, rfl, rfl⟩ := given
          exact ⟨call, prm, rfl, rfl, rfl, rfl, rfl, rfl, rfl⟩
        | refusedSip call ctx prm reason refused => simp at given
      | _ => simp at member

end Dialing

/-- What pjsua gives while the gateway thread works, it gives to a context. -/
theorem Deps.Touch.given {before after : Deps} {seen : List Obs} (touch : Deps.Touch before seen after) (id : CallId)
    (call : CallRef) : .given none id call ∉ seen := by
  intro member
  cases touch with
  | shown obs own plain => rw [← List.mem_singleton.mp member] at plain; cases plain
  | _ => simp at member

theorem Gateway.Handled.given {settings : Settings} {env : Env} {gateway after : Gateway} {event : GatewayEvent}
    {seen : List Obs} (handled : Gateway.Handled settings env gateway event after seen) (id : CallId) (call : CallRef) :
    .given none id call ∉ seen := by
  cases handled with
  | passed unrouted quiet => exact fun member => by cases quiet _ member
  | offered routed handles bridges counted queued touched =>
    obtain ⟨deps, run, _⟩ := touched
    refine run.invariant (fun past _ => .given none id call ∉ past) (by simp) ?_
    intro past before seen after kept touch member
    rcases List.mem_append.mp member with member | member
    · exact kept member
    · exact touch.given id call member

/-- An id is given to an incoming call, or to a call that the gateway dials while it handles an event. -/
theorem System.Step.given {settings : Settings} {label : Label} {before after : System} {seen : List Obs}
    {ctx : Option CtxId} {id : CallId} {call : CallRef} (step : System.Step settings label before seen after)
    (given : .given ctx id call ∈ seen) :
    (∃ ext, label = .incoming id ext ∧ ctx = none ∧ call = before.gateway.sip.created ∧
      seen = [.given none id call]) ∨
    ∃ env event caller middle, label = .loop env ∧ System.Popped before event caller middle ∧
      Gateway.Handled settings env middle.gateway event after.gateway seen ∧
        .given ctx id call ∈ seen.filter Obs.deed := by
  cases label with
  | tdlib update => cases step; cases given
  | signal => cases step; cases given
  | worker blob => cases step; simp at given
  | callback callback =>
    obtain ⟨rfl, _, _, rfl⟩ := System.settle_some step
    simp at given
  | incoming other ext =>
    obtain ⟨rfl, _, _, rfl⟩ := System.settle_some step
    cases List.mem_singleton.mp given
    exact .inl ⟨ext, rfl, rfl, rfl, rfl⟩
  | loop env =>
    refine .inr ?_
    rcases System.loop_some step with ⟨_, rfl, rfl⟩ | ⟨event, caller, middle, gateway, waiting, ran, settled⟩
    · cases given
    · obtain ⟨_, live, _, rfl⟩ := System.settle_some settled
      have handled := Gateway.processEvent_handled ran
      refine ⟨env, event, caller, middle, rfl, System.pop_popped waiting, handled, List.mem_filter.mpr ⟨given, ?_⟩⟩
      cases ctx with
      | none => exact absurd given (handled.given id call)
      | some ctx => rfl

end Tg2Sip
