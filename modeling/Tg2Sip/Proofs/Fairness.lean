import Tg2Sip.Proofs.Inbound

/-! Every event that waits in a queue is handled after a number of turns that depends on its place only. The
loop looks at the three queues in turn, and all other threads, and the handlers themselves, only append to them.
-/

namespace Tg2Sip
open TdApi Lib

namespace Sip.Client
variable (client : Client)

theorem onCallback_grows (dialing : Option CallRef) (callback : Callback) :
    client.events <+: (client.onCallback dialing callback).events := by
  unfold onCallback
  split
  · exact List.prefix_append _ _
  · exact List.prefix_refl _

theorem onCallbacks_grows (dialing : Option CallRef) (callbacks : List Callback) :
    client.events <+: (client.onCallbacks dialing callbacks).events := by
  induction callbacks generalizing client with
  | nil => exact List.prefix_refl _
  | cons callback callbacks ih => exact (client.onCallback_grows dialing callback).trans (ih _)

theorem dial_grows (makeCall : Outcome CallId) : client.events <+: (client.dial makeCall).1.events := by
  have grows := onCallbacks_grows { client with created := client.created + 1 } (some client.created) makeCall.callbacks
  unfold dial
  dsimp only
  split <;> exact grows

theorem hangup_grows (id : CallId) (hangup : Outcome Unit) : client.events <+: (client.hangup id hangup).1.events := by
  have grows := client.onCallbacks_grows none hangup.callbacks
  unfold Client.hangup
  split
  · exact List.prefix_refl _
  · split <;> exact grows

end Sip.Client

/-- Nothing is taken out of a queue. -/
structure World.Grows (before after : World) : Prop where
  internal : before.internalEvents <+: after.internalEvents
  sip : before.sip.events <+: after.sip.events

namespace World

theorem Grows.refl (world : World) : Grows world world := ⟨List.prefix_refl _, List.prefix_refl _⟩

theorem Grows.trans {before middle after : World} (first : Grows before middle) (last : Grows middle after) :
    Grows before after :=
  ⟨first.internal.trans last.internal, first.sip.trans last.sip⟩

theorem emit_grows (world : World) (blob : UserId × Bytes) : Grows world (world.emit blob) := by
  unfold emit
  split
  · exact ⟨List.prefix_append _ _, List.prefix_refl _⟩
  · exact .refl _

end World

theorem Deps.Touch.grows {before after : Deps} {seen : List Obs} (touch : Deps.Touch before seen after) :
    World.Grows before.toWorld after.toWorld := by
  cases touch with
  | context | shown | registered | unregistered | blocked | cached | notHungUp =>
    exact ⟨List.prefix_refl _, List.prefix_refl _⟩
  | failed prm => exact ⟨List.prefix_append _ _, List.prefix_refl _⟩
  | emitted blob => exact before.toWorld.emit_grows blob
  | dialed callbacks id => exact ⟨List.prefix_refl _, before.sip.dial_grows _⟩
  | undialed callbacks reason => exact ⟨List.prefix_refl _, before.sip.dial_grows _⟩
  | hungUp id call held prm hangup => exact ⟨List.prefix_refl _, before.sip.hangup_grows id hangup⟩

/-- A handler queues, and takes nothing. -/
theorem Gateway.Handled.grows {settings : Settings} {env : Env} {gateway after : Gateway} {event : GatewayEvent}
    {seen : List Obs} (handled : Gateway.Handled settings env gateway event after seen) :
    World.Grows gateway.toWorld after.toWorld := by
  cases handled with
  | passed => exact .refl _
  | offered routed handles bridges counted queued touched =>
    obtain ⟨deps, run, same⟩ := touched
    rw [same]
    exact run.state_invariant (fun deps : Deps => World.Grows gateway.toWorld deps.toWorld) (.refl _)
      fun _ _ _ grows touch => grows.trans touch.grows

namespace System
variable {settings : Settings} {label : Label} {before after start system : System} {seen : List Obs} {past : History}

/-- The events in the queue of a turn. -/
def waiting (system : System) : Turn → List GatewayEvent
  | .internal => system.gateway.internalEvents.map .internal
  | .tg => system.tgEvents.map .update
  | .sip => system.gateway.sip.events.map fun queued => .sip queued.event

/-- What a step takes out of the queue of a turn. -/
def takes (system : System) (label : Label) (turn : Turn) : List GatewayEvent :=
  if system.turn = turn then (system.taken label).toList else []

/-- The events that the gateway thread took out of the queue of a turn. -/
def takenFrom (turn : Turn) (past : History) :
    List GatewayEvent := past.flatMap fun moment => moment.before.takes moment.label turn

def isLoop : Label → Bool
  | .loop _ => true
  | _ => false

/-- How many turns the loop has taken. -/
def loops (past : History) : Nat := past.countP fun moment => isLoop moment.label

/-- How many turns it is until the loop looks at a queue. -/
def away (system : System) (turn : Turn) : Nat :=
  if system.turn = turn then 0 else if system.turn.next = turn then 1 else 2

theorem away_le (system : System) (turn : Turn) : system.away turn ≤ 2 := by
  unfold away
  split
  · omega
  · split <;> omega

theorem waiting_grows (gateway : World.Grows before.gateway.toWorld after.gateway.toWorld)
    (updates : before.tgEvents <+: after.tgEvents) (turn : Turn) : before.waiting turn <+: after.waiting turn := by
  cases turn with
  | internal => exact gateway.internal.map _
  | tg => exact updates.map _
  | sip => exact gateway.sip.map _

theorem taken_head (env : Env) : before.taken (.loop env) = (before.waiting before.turn).head? := by
  unfold taken pop waiting
  dsimp only
  cases before.turn with
  | internal => cases before.gateway.internalEvents <;> rfl
  | tg => cases before.tgEvents <;> rfl
  | sip => cases before.gateway.sip.events <;> rfl

theorem pop_waiting {middle : System} {event : GatewayEvent} {caller : Option Sip.CallRef}
    (popped : before.pop = some (event, caller, middle)) (turn : Turn) :
    before.waiting turn = (if before.turn = turn then [event] else []) ++ middle.waiting turn := by
  unfold pop at popped
  dsimp only at popped
  cases turned : before.turn with
  | internal | tg | sip =>
    rw [turned] at popped
    dsimp only at popped
    split at popped <;> cases popped
    next held => cases turn <;> simp [waiting, held]

private theorem takes_nothing (other : isLoop label = false) (turn : Turn) : before.takes label turn = [] := by
  unfold takes
  split
  · cases label <;> first | rfl | cases other
  · rfl

private theorem others_keep (other : isLoop label = false)
    (gateway : World.Grows before.gateway.toWorld after.gateway.toWorld)
    (updates : before.tgEvents <+: after.tgEvents) (turn : Turn) :
    before.waiting turn <+: before.takes label turn ++ after.waiting turn := by
  rw [takes_nothing other, List.nil_append]
  exact waiting_grows gateway updates turn

/-- What is in a queue stays until it is taken from its head. -/
theorem Step.queue (step : Step settings label before seen after) (turn : Turn) :
    before.waiting turn <+: before.takes label turn ++ after.waiting turn := by
  have gateway := World.Grows.refl before.gateway.toWorld
  have updates := List.prefix_refl before.tgEvents
  cases label with
  | tdlib update =>
    cases step
    apply others_keep rfl
    · exact gateway
    · exact List.prefix_append _ _
  | signal =>
    cases step
    apply others_keep rfl
    · exact gateway
    · exact updates
  | worker blob =>
    cases step
    apply others_keep rfl
    · exact before.gateway.toWorld.emit_grows blob
    · exact updates
  | incoming id ext =>
    obtain ⟨rfl, live, _, rfl⟩ := settle_some step
    apply others_keep rfl
    · exact ⟨gateway.internal, List.prefix_append _ _⟩
    · exact updates
  | callback callback =>
    obtain ⟨rfl, live, _, rfl⟩ := settle_some step
    apply others_keep rfl
    · exact ⟨gateway.internal, before.gateway.sip.onCallback_grows none callback⟩
    · exact updates
  | loop env =>
    rcases loop_some step with ⟨empty, rfl, rfl⟩ | ⟨event, queued, middle, gateway, popped, ran, settled⟩
    · have nothing : before.takes (.loop env) turn = [] := by simp [takes, taken, empty]
      rw [nothing, List.nil_append]
      exact waiting_grows gateway updates turn
    · obtain ⟨_, live, _, rfl⟩ := settle_some settled
      have taken : before.takes (.loop env) turn = if before.turn = turn then [event] else [] := by
        simp [takes, taken, popped]
      rw [taken, pop_waiting popped, List.prefix_append_right_inj]
      apply waiting_grows
      · exact (Gateway.processEvent_handled ran).grows
      · exact List.prefix_refl _

private theorem takes_pop {turn : Turn} {event : GatewayEvent} (taken : event ∈ before.takes label turn) :
    ∃ env caller middle, label = .loop env ∧ before.pop = some (event, caller, middle) := by
  cases label with
  | loop env =>
    unfold takes System.taken at taken
    split at taken
    · obtain ⟨⟨_, caller, middle⟩, popped, rfl⟩ := Option.map_eq_some_iff.mp (Option.mem_toList.mp taken)
      exact ⟨env, caller, middle, rfl, popped⟩
    · cases taken
  | _ => rw [takes_nothing rfl] at taken; cases taken

/-- An event that is taken is handled in the same step. -/
theorem Step.serves (step : Step settings label before seen after) {turn : Turn} {event : GatewayEvent}
    (taken : event ∈ before.takes label turn) :
    ∃ env caller middle served, label = .loop env ∧ before.pop = some (event, caller, middle) ∧
      Gateway.processEvent settings env middle.gateway event = .ok (served, seen) := by
  obtain ⟨env, caller, middle, rfl, waits⟩ := takes_pop taken
  rcases loop_some step with ⟨empty, _, _⟩ | ⟨other, queued, middle, gateway, popped, ran, _⟩
  · rw [empty] at waits
    cases waits
  · cases popped.symm.trans waits
    exact ⟨env, caller, middle, gateway, rfl, waits, ran⟩

theorem Step.turn (step : Step settings label before seen after) :
    after.turn = if isLoop label = true then before.turn.next else before.turn := by
  cases label with
  | tdlib | signal | worker => cases step; rfl
  | incoming | callback => obtain ⟨rfl, live, _, rfl⟩ := settle_some step; rfl
  | loop env =>
    rcases loop_some step with ⟨empty, rfl, rfl⟩ | ⟨event, queued, middle, gateway, popped, ran, settled⟩
    · rfl
    · obtain ⟨_, live, _, rfl⟩ := settle_some settled; rfl

/-- The loop comes nearer to a queue with each turn, and takes an event each time it is there. -/
theorem Step.nears (step : Step settings label before seen after) {turn : Turn} (waits : before.waiting turn ≠ []) :
    (isLoop label).toNat + after.away turn = before.away turn + 3 * (before.takes label turn).length := by
  have turned := step.turn
  cases looped : isLoop label with
  | false =>
    rw [looped] at turned
    rw [takes_nothing looped, away, away, show after.turn = before.turn from turned]
    simp
  | true =>
    rw [looped, if_pos rfl] at turned
    obtain ⟨env, rfl⟩ : ∃ env, label = .loop env := by cases label <;> first | exact ⟨_, rfl⟩ | cases looped
    have count : (before.takes (.loop env) turn).length = if before.turn = turn then 1 else 0 := by
      unfold takes
      split
      next here =>
        rw [taken_head, here]
        cases queue : before.waiting turn with
        | nil => exact absurd queue waits
        | cons => rfl
      next => rfl
    rw [count, away, away, turned]
    cases before.turn <;> cases turn <;> rfl

private theorem takenFrom_snoc (turn : Turn) (moment : Moment System Obs Label) :
    takenFrom turn (past ++ [moment]) = takenFrom turn past ++ moment.before.takes moment.label turn := by
  simp [takenFrom]

private theorem loops_snoc (moment : Moment System Obs Label) :
    loops (past ++ [moment]) = loops past + (isLoop moment.label).toNat := by
  unfold loops
  rw [List.countP_append]
  cases looped : isLoop moment.label <;> simp [looped]

private theorem queue_kept (run : Run (Chronicled (Step settings)) start past system) (turn : Turn) :
    start.waiting turn <+: takenFrom turn past ++ system.waiting turn := by
  induction run with
  | refl => exact List.prefix_refl _
  | tail before last ih =>
    obtain ⟨label, seen, step, rfl⟩ := last
    rw [takenFrom_snoc, List.append_assoc]
    exact ih.trans ((List.prefix_append_right_inj _).mpr (step.queue turn))

/-- As long as an event waits, the loop takes one of those before it every three turns. -/
private theorem paced (run : Run (Chronicled (Step settings)) start past system) {turn : Turn} {place : Nat}
    (inside : place < (start.waiting turn).length) (left : (takenFrom turn past).length ≤ place) :
    loops past + system.away turn = start.away turn + 3 * (takenFrom turn past).length := by
  induction run with
  | refl => simp [loops, takenFrom]
  | @tail past middle moments final before last ih =>
    obtain ⟨label, seen, step, rfl⟩ := last
    rw [takenFrom_snoc, List.length_append] at left ⊢
    have earlier := ih (Nat.le_trans (Nat.le_add_right _ _) left)
    have waits : middle.waiting turn ≠ [] := fun empty => by
      have kept := (queue_kept before turn).length_le
      rw [empty, List.append_nil] at kept
      omega
    have nears := step.nears waits
    rw [loops_snoc]
    dsimp only
    omega

private theorem in_time (run : Run (Chronicled (Step settings)) start past system) {turn : Turn} {place : Nat}
    (inside : place < (start.waiting turn).length) (turns : 3 * (place + 1) ≤ loops past) :
    (start.waiting turn).take (place + 1) <+: takenFrom turn past := by
  have enough : place < (takenFrom turn past).length := by
    by_contra few
    have pace := paced run inside (Nat.le_of_not_lt few)
    have near := away_le start turn
    omega
  apply List.prefix_of_prefix_length_le ((List.take_prefix _ _).trans (queue_kept run turn)) (List.prefix_append _ _)
  exact Nat.le_trans (List.length_take_le _ _) enough

/-- What becomes of the events that wait in a queue. -/
structure Served (settings : Settings) (start : System) (turn : Turn) (past : History) (system : System) : Prop where
  /-- None is lost or overtaken. -/
  queued : start.waiting turn <+: takenFrom turn past ++ system.waiting turn
  handled : ∀ moment ∈ past, ∀ event ∈ moment.before.takes moment.label turn, ∃ env caller middle served,
    moment.label = .loop env ∧ moment.before.pop = some (event, caller, middle) ∧
      Gateway.processEvent settings env middle.gateway event = .ok (served, moment.seen)
  inTime : ∀ place < (start.waiting turn).length, 3 * (place + 1) ≤ loops past →
    (start.waiting turn).take (place + 1) <+: takenFrom turn past

/-- Whatever the other threads do meanwhile: an event that waits behind others is handled within three turns for each of
them and for itself. -/
theorem waiting_events_are_handled (run : Run (Chronicled (Step settings)) start past system) (turn : Turn) :
    Served settings start turn past system where
  queued := queue_kept run turn
  handled := by
    induction run with
    | refl => simp
    | tail before last ih =>
      obtain ⟨label, seen, step, rfl⟩ := last
      intro moment member event taken
      obtain old | new := List.mem_append.mp member
      · exact ih moment old event taken
      · cases List.mem_singleton.mp new
        exact step.serves taken
  inTime := fun _ inside turns => in_time run inside turns

/-- Two events wait for the gateway, and it goes round twice. -/
theorem second_update_is_handled : ∃ past system,
    Run (Chronicled (Step { callbackUri := "sip:100@pbx" }))
    { tgEvents := [.newCallSignalingData 7 [], .newCallSignalingData 8 []] } past system ∧
      [.update (.newCallSignalingData 7 []), .update (.newCallSignalingData 8 [])] <+: takenFrom .tg past := by
  have ran : (execute (chronicle (System.step { callbackUri := "sip:100@pbx" })) (fun _ _ _ => true)
      (List.replicate 6 (.loop (Env.success 42 7 0)))
        { tgEvents := [.newCallSignalingData 7 [], .newCallSignalingData 8 []] }).any
      (fun result => decide (6 ≤ loops result.2)) = true := by decide +kernel
  obtain ⟨system, past, run, turns⟩ := chronicle_run ran
  exact ⟨past, system, run, (waiting_events_are_handled run .tg).inTime 1 (by decide) (of_decide_eq_true turns)⟩

/-! What follows for a call that has failed. -/

/-- No bridge has the number any more, and none gets it. -/
def Gone (number : CtxId) (system : System) : Prop :=
  number ≤ system.gateway.ctxCounter ∧ ∀ bridge ∈ system.gateway.bridges, bridge.ctx.id ≠ number

theorem Gone.step {number : CtxId} (gone : Gone number before) (settled : Settled before)
    (step : Step settings label before seen after) : Gone number after := by
  cases step_worked step settled.numbered with
  | idle bridges counter quiet => exact ⟨by rw [counter]; exact gone.1, by rw [bridges]; exact gone.2⟩
  | @served _ _ _ _ slot counter offered control ctx errors looped popped route routed handles counted members =>
    refine ⟨by rw [counted]; exact Nat.le_trans gone.1 routed.grows, fun bridge member => ?_⟩
    obtain ⟨old, _⟩ | ⟨rfl, _⟩ := (members bridge).mp member
    · exact gone.2 bridge old
    · rw [show ctx.id = slot.bridge.ctx.id from handles.own.id]
      rcases routed.origin with ⟨found, _⟩ | ⟨rfl, _⟩
      · exact gone.2 _ (Slot.within found)
      · exact Nat.ne_of_gt (Nat.lt_succ_of_le gone.1)

private theorem error_leads_out {env : Env} {control target : StateMachine.Control} {ctx final : Context}
    {errors : List InternalEvent} {deeds : List Obs} {prm : Sip.CallOpParam} (inside : control.composite = true)
    (handles : Handles settings env (.internalError prm) control ctx target final errors deeds) : target = .X := by
  cases handles with
  | dropped ignored =>
    rw [StateMachine.select_iff.mpr (.failed control inside prm)] at ignored
    cases ignored
  | taken transition effects => cases transition; rfl

/-- The step that takes an error ends its bridge. -/
theorem Step.ends (step : Step settings label before seen after) (settled : Settled before) {number : CtxId}
    {prm : Sip.CallOpParam} (taken : .internal (.internalError number prm) ∈ before.takes label .internal) :
    ∀ bridge ∈ after.gateway.bridges, bridge.ctx.id ≠ number := by
  obtain ⟨env, caller, middle, rfl, waits⟩ := takes_pop taken
  cases route : before.gateway.route (.internal (.internalError number prm)) with
  | none =>
    rw [(step.unrouted waits route).1]
    exact Gateway.unrouted_error route
  | some target =>
    obtain ⟨⟨slot, counter⟩, offered⟩ := target
    obtain ⟨control, ctx, errors, handles, counted, members⟩ := step.served settled.numbered waits route
    intro bridge member
    cases Gateway.route_routed route with
    | error _ _ _ found named =>
      obtain ⟨_, other⟩ | ⟨_, stays⟩ := (members bridge).mp member
      · rwa [named] at other
      · exact absurd ⟨rfl, error_leads_out (settled.inside _ (Slot.within found)) handles⟩ stays

theorem Step.counter_le (step : Step settings label before seen after) (settled : Settled before) :
    before.gateway.ctxCounter ≤ after.gateway.ctxCounter := by
  cases step_worked step settled.numbered with
  | idle bridges counter quiet => exact Nat.le_of_eq counter.symm
  | served looped popped route routed handles counted members => rw [counted]; exact routed.grows

private theorem error_ends {number : CtxId} {prm : Sip.CallOpParam} (settled : Settled start)
    (old : number ≤ start.gateway.ctxCounter) (run : Run (Chronicled (Step settings)) start past system) :
    Settled system ∧ number ≤ system.gateway.ctxCounter ∧
      (.internal (.internalError number prm) ∈ takenFrom .internal past → Gone number system) := by
  induction run with
  | refl => exact ⟨settled, old, by simp [takenFrom]⟩
  | tail before last ih =>
    obtain ⟨settled, known, ended⟩ := ih
    obtain ⟨label, seen, step, rfl⟩ := last
    have later := Nat.le_trans known (step.counter_le settled)
    refine ⟨settled.step step, later, fun taken => ?_⟩
    rw [takenFrom_snoc, List.mem_append] at taken
    obtain earlier | now := taken
    · exact (ended earlier).step settled step
    · exact ⟨later, step.ends settled now⟩

/-- A bridge for which an error is queued is gone within three turns for the error and for each event before it. -/
theorem errors_end_their_bridges {cache : Cache} {maxCalls : Nat} {old : List Obs}
    (reached : Reaches settings Anything (initial cache maxCalls) old start)
    (run : Run (Chronicled (Step settings)) start past system) {bridge : Bridge}
    (member : bridge ∈ start.gateway.bridges) {place : Nat} {prm : Sip.CallOpParam}
    (queued : (start.waiting .internal)[place]? = some (.internal (.internalError bridge.ctx.id prm)))
    (turns : 3 * (place + 1) ≤ loops past) : ∀ other ∈ system.gateway.bridges, other.ctx.id ≠ bridge.ctx.id := by
  obtain ⟨numbered, inside⟩ := (composite_rule settings).run reached
  obtain ⟨within, same⟩ := List.getElem?_eq_some_iff.mp queued
  have taken : .internal (.internalError bridge.ctx.id prm) ∈ takenFrom .internal past := by
    apply (in_time run within turns).subset
    rw [← same]
    exact List.mem_take_iff_getElem.mpr ⟨place, by omega, rfl⟩
  exact ((error_ends ⟨numbered, inside⟩ (numbered.bounded bridge member) run).2.2 taken).2

/-- The first event of the gateway is an error of one of its bridges. -/
private def failsNext (system : System) : Bool :=
  system.gateway.bridges.any fun bridge => match system.gateway.internalEvents with
    | .internalError number _ :: _ => number == bridge.ctx.id
    | _ => false

/-- Somebody calls an extension that is none. -/
theorem bad_extension_is_cleaned_up :
    ∃ (old : List Obs) (start : System) (past : History) (system : System) (bridge : Bridge),
    Reaches { callbackUri := "sip:100@pbx" } Anything (initial {} 1) old start ∧
      Run (Chronicled (Step { callbackUri := "sip:100@pbx" })) start past system ∧ bridge ∈ start.gateway.bridges ∧
      ∀ other ∈ system.gateway.bridges, other.ctx.id ≠ bridge.ctx.id := by
  have ran : (execute (chronicle (System.step { callbackUri := "sip:100@pbx" })) (fun _ _ _ => true)
      (.incoming 0 "nobody" :: List.replicate 3 (.loop (Env.success 42 7 0))) (initial {} 1)).any
        (fun result => failsNext result.1 &&
        (execute (chronicle (System.step { callbackUri := "sip:100@pbx" })) (fun _ _ _ => true)
          (List.replicate 3 (.loop (Env.success 42 7 0))) result.1).any fun later => decide (3 ≤ loops later.2)) =
            true := by decide +kernel
  obtain ⟨start, before, reached, found⟩ := chronicle_run ran
  obtain ⟨fails, ran⟩ := Bool.and_eq_true_iff.mp found
  obtain ⟨system, past, run, turns⟩ := chronicle_run ran
  obtain ⟨bridge, member, next⟩ := List.any_eq_true.mp fails
  have reached : Reaches { callbackUri := "sip:100@pbx" } Anything (initial {} 1) (observed before) start :=
    reached.restricted fun _ _ => trivial
  split at next
  next number prm rest events =>
    obtain rfl : number = bridge.ctx.id := by simpa using next
    have queued : (start.waiting .internal)[0]? = some (.internal (.internalError bridge.ctx.id prm)) := by
      rw [waiting, show start.gateway.internalEvents = _ from events]
      rfl
    exact ⟨_, start, past, system, bridge, reached, run, member,
      errors_end_their_bridges reached run member queued (of_decide_eq_true turns)⟩
  next => cases next

end System
end Tg2Sip
