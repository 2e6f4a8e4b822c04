import Mathlib.Data.List.Nodup
import Tg2Sip.Proofs.Steps

/-! Bridges are told apart by the numbers of their contexts, which are never given twice.
A handler changes one bridge, and all its deeds and errors carry the number of that bridge. -/

namespace Tg2Sip
open TdApi Lib

section Effects
variable {settings : Settings} {env : Env} {ctx final : Context} {errors : List InternalEvent} {deeds : List Obs}

/-- Everything an action shows and queues is its own. -/
structure Own (ctx final : Context) (errors : List InternalEvent) (deeds : List Obs) : Prop where
  id : final.id = ctx.id
  errors : ∀ error ∈ errors, ∃ prm, error = .internalError ctx.id prm
  deeds : ∀ obs ∈ deeds, obs.by = some ctx.id

theorem Effect.own {action : Action} (effect : Effect settings env action ctx final errors deeds) :
    Own ctx final errors deeds := by
  cases effect with
  | cleanUp ctx controller ended same =>
    refine ⟨rfl, by simp, ?_⟩
    intro obs member
    simp only [stops, discards, hangups, List.mem_append] at member
    rcases member with (member | member) | member <;> split at member <;> simp at member <;> rw [member] <;> rfl
  | rang ext ctx parsed valid =>
    exact ⟨(Actions.parseExtension_id valid).1, by simp, by simp [Obs.by]⟩
  | silent ext ctx parsed prm valid =>
    exact ⟨(Actions.parseExtension_id valid).1, by simp, by simp [Obs.by]⟩
  | dialedTg ctx lookups user id dials created =>
    refine ⟨rfl, by simp, ?_⟩
    intro obs member
    rcases List.mem_append.mp member with member | member
    · obtain ⟨lookup, _, rfl⟩ := List.mem_map.mp member; rfl
    · simp at member; rw [member]; rfl
  | undialedTg ctx lookups user prm dials =>
    refine ⟨rfl, by simp, ?_⟩
    intro obs member
    obtain ⟨lookup, _, rfl⟩ := List.mem_map.mp member; rfl
  | _ => exact ⟨rfl, by simp, by simp [Obs.by]⟩

theorem Effects.own {actions : List Action} (effects : Effects settings env actions ctx final errors deeds) :
    Own ctx final errors deeds := by
  induction effects with
  | nil ctx => exact ⟨rfl, by simp, by simp⟩
  | cons first rest ih =>
    have own := first.own
    refine ⟨ih.id.trans own.id, ?_, ?_⟩
    · intro error member
      rcases List.mem_append.mp member with member | member
      · exact own.errors error member
      · rw [← own.id]; exact ih.errors error member
    · intro obs member
      rcases List.mem_append.mp member with member | member
      · rcases List.mem_cons.mp member with rfl | member
        · rfl
        · exact own.deeds obs member
      · rw [← own.id]; exact ih.deeds obs member

theorem Handles.own {event : StateMachine.Event} {control target : StateMachine.Control}
    (handles : Handles settings env event control ctx target final errors deeds) : Own ctx final errors deeds := by
  cases handles with
  | dropped ignored => exact ⟨rfl, by simp, by simp⟩
  | taken transition effects => exact effects.own

/-- Whoever does something is the context that is served. -/
theorem Own.author {final : Context} {errors : List InternalEvent} {deeds : List Obs} {obs : Obs} {number : CtxId}
    (own : Own ctx final errors deeds) (member : obs ∈ deeds) (author : obs.by = some number) : number = ctx.id :=
  Option.some.inj (author.symm.trans (own.deeds obs member))

/-- What some other context did was done before. -/
theorem Own.foreign {final : Context} {errors : List InternalEvent} {past seen : List Obs} {obs : Obs} {number : CtxId}
    (own : Own ctx final errors (seen.filter Obs.deed)) (other : number ≠ ctx.id) (member : obs ∈ past ++ seen)
    (deed : obs.deed = true) (author : obs.by = some number) : obs ∈ past := by
  rcases List.mem_append.mp ((deed_mem_filter deed).mpr member) with old | new
  · exact old
  · exact absurd (own.author new author) other

theorem Handles.message {message : Message} {control target : StateMachine.Control}
    (handles : Handles settings env (.updateNewMessage message) control ctx target final errors deeds) :
    target = control := by
  cases handles with
  | dropped ignored => rfl
  | taken transition effects => cases transition; rfl

end Effects

namespace Gateway

/-- No two bridges have the same number, and the next number is new. -/
structure WellNumbered (gateway : Gateway) : Prop where
  distinct : (gateway.bridges.map fun bridge => bridge.ctx.id).Nodup
  bounded : ∀ bridge ∈ gateway.bridges, bridge.ctx.id ≤ gateway.ctxCounter

variable {gateway after : Gateway} {event : GatewayEvent} {slot : Slot} {counter : Nat} {offered : StateMachine.Event}

/-- The number that a new bridge gets is that of no bridge. -/
theorem WellNumbered.fresh (numbered : gateway.WellNumbered) :
    ∀ bridge ∈ gateway.bridges, bridge.ctx.id ≠ gateway.ctxCounter + 1 := by
  intro bridge member same
  exact Nat.not_succ_le_self _ (same ▸ numbered.bounded bridge member)

/-- The bridge of a slot is one of the list, or new. -/
theorem Routed.origin (routed : Routed gateway event slot counter offered) :
    (gateway.bridges = slot.bridges ∧ counter = gateway.ctxCounter) ∨
      (slot = gateway.freshSlot ∧ counter = gateway.ctxCounter + 1) := by
  cases routed with
  | callHeld call slot found holds => exact .inl ⟨found, rfl⟩
  | callFresh call missed => exact .inr ⟨rfl, rfl⟩
  | sipHeld event slot found holds => exact .inl ⟨found, rfl⟩
  | sipFresh event missed => exact .inr ⟨rfl, rfl⟩
  | message message user slot sender sole found peer => exact .inl ⟨found, rfl⟩
  | error ctxId prm slot found named => exact .inl ⟨found, rfl⟩

/-- With its own bridge put back, a slot is a well numbered list. -/
theorem Routed.grows (routed : Routed gateway event slot counter offered) : gateway.ctxCounter ≤ counter := by
  rcases routed.origin with ⟨_, rfl⟩ | ⟨_, rfl⟩ <;> omega

/-- Of the numbers that are given now only that of the slot can be new. -/
theorem Routed.older (routed : Routed gateway event slot counter offered) {number : CtxId} (bounded : number ≤ counter)
    (other : number ≠ slot.bridge.ctx.id) : number ≤ gateway.ctxCounter := by
  rcases routed.origin with ⟨_, rfl⟩ | ⟨rfl, rfl⟩
  · exact bounded
  · exact Nat.le_of_lt_succ (Nat.lt_of_le_of_ne bounded other)

theorem Routed.numbered (routed : Routed gateway event slot counter offered) (numbered : gateway.WellNumbered) :
    (slot.bridges.map fun bridge => bridge.ctx.id).Nodup ∧ ∀ bridge ∈ slot.bridges, bridge.ctx.id ≤ counter := by
  rcases routed.origin with ⟨found, rfl⟩ | ⟨rfl, rfl⟩
  · rw [← found]; exact ⟨numbered.distinct, numbered.bounded⟩
  · constructor
    · simp only [Slot.bridges, freshSlot, List.map_append, List.map_cons, List.map_nil]
      rw [List.nodup_append]
      refine ⟨numbered.distinct, by simp, ?_⟩
      intro id member other fresh same
      obtain ⟨bridge, held, rfl⟩ := List.mem_map.mp member
      exact numbered.fresh bridge held (same.trans (List.mem_singleton.mp fresh))
    · intro bridge member
      simp only [Slot.bridges, freshSlot, List.mem_append, List.mem_singleton] at member
      rcases member with member | rfl
      · exact Nat.le_succ_of_le (numbered.bounded bridge member)
      · exact Nat.le_refl _

/-- The other bridges of a slot are those of the gateway that have another number. -/
theorem Routed.others (routed : Routed gateway event slot counter offered) (numbered : gateway.WellNumbered)
    (bridge : Bridge) : bridge ∈ slot.before ++ slot.after ↔
      bridge ∈ gateway.bridges ∧ bridge.ctx.id ≠ slot.bridge.ctx.id := by
  have apart := (routed.numbered numbered).1
  simp only [Slot.bridges, List.map_append, List.map_cons] at apart
  have apart := (List.nodup_middle.mp apart)
  have foreign : ∀ other ∈ slot.before ++ slot.after, other.ctx.id ≠ slot.bridge.ctx.id := by
    intro other member same
    refine (List.nodup_cons.mp apart).1 ?_
    rw [← same, ← List.map_append]
    exact List.mem_map_of_mem member
  constructor
  · intro member
    refine ⟨?_, foreign bridge member⟩
    rcases routed.origin with ⟨found, _⟩ | ⟨rfl, _⟩
    · rw [found, Slot.bridges]
      rcases List.mem_append.mp member with member | member <;> simp [member]
    · simpa [freshSlot] using member
  · rintro ⟨member, other⟩
    rcases routed.origin with ⟨found, _⟩ | ⟨rfl, _⟩
    · rw [found, Slot.bridges] at member
      rcases List.mem_append.mp member with member | member
      · simp [member]
      · rcases List.mem_cons.mp member with rfl | member
        · exact absurd rfl other
        · simp [member]
    · simpa [freshSlot] using member

variable {settings : Settings} {env : Env} {seen : List Obs}

theorem mem_kept {bridge : Bridge} {control : StateMachine.Control} {ctx : Context} :
    bridge ∈ kept event control ctx ↔ bridge = ⟨control, ctx⟩ ∧ ¬ (erases event = true ∧ control = .X) := by
  unfold kept
  split
  next gone => simp [gone]
  next here => simp [here]

/-- The list of bridges after one of them was served. -/
theorem Routed.mem_after (routed : Routed gateway event slot counter offered) (numbered : gateway.WellNumbered)
    {control : StateMachine.Control} {ctx : Context} {bridges : List Bridge}
    (list : bridges = slot.before ++ kept event control ctx ++ slot.after) (bridge : Bridge) :
    bridge ∈ bridges ↔ bridge ∈ gateway.bridges ∧ bridge.ctx.id ≠ slot.bridge.ctx.id ∨
      bridge = ⟨control, ctx⟩ ∧ ¬ (erases event = true ∧ control = .X) := by
  rw [list, ← routed.others numbered bridge, ← mem_kept]
  simp only [List.mem_append]
  exact or_right_comm

/-- An error finds no bridge only if there is none of that number. -/
theorem unrouted_error {ctxId : CtxId} {prm : Sip.CallOpParam}
    (unrouted : gateway.route (.internal (.internalError ctxId prm)) = none) :
    ∀ bridge ∈ gateway.bridges, bridge.ctx.id ≠ ctxId := by
  intro bridge member same
  have missed := findBridge_none.mp (Option.map_eq_none_iff.mp unrouted) bridge member
  simp [same] at missed

theorem Handled.numbered (handled : Handled settings env gateway event after seen) (numbered : gateway.WellNumbered) :
    after.WellNumbered := by
  cases handled with
  | passed unrouted quiet => exact numbered
  | @offered slot counter offered control ctx errors _ _ routed handles bridges counted queued touched =>
    obtain ⟨apart, bounded⟩ := routed.numbered numbered
    have same := handles.own.id
    have sublist : (after.bridges.map fun bridge => bridge.ctx.id).Sublist
        (slot.bridges.map fun bridge => bridge.ctx.id) := by
      rw [bridges, Slot.bridges, kept]
      split
      · simp only [List.append_nil, List.map_append, List.map_cons]
        exact List.Sublist.append_left (List.sublist_cons_self _ _) _
      · simp [same]
    refine ⟨apart.sublist sublist, ?_⟩
    intro bridge member
    rw [counted]
    obtain ⟨old, held, number⟩ := List.mem_map.mp (sublist.subset (List.mem_map_of_mem member))
    rw [← number]
    exact bounded old held

end Gateway

namespace System

theorem Popped.numbered {before middle : System} {event : GatewayEvent} {caller : Option Sip.CallRef}
    (popped : Popped before event caller middle) (numbered : before.gateway.WellNumbered) :
    middle.gateway.WellNumbered :=
  ⟨by rw [popped.bridges]; exact numbered.distinct, by rw [popped.bridges, popped.counter]; exact numbered.bounded⟩

theorem Moved.numbered {settings : Settings} {label : Label} {before after : System} {seen : List Obs}
    (moved : Moved settings label before seen after) (numbered : before.gateway.WellNumbered) :
    after.gateway.WellNumbered := by
  cases moved with
  | idle bridges counter errors quiet =>
    exact ⟨by rw [bridges]; exact numbered.distinct, by rw [bridges, counter]; exact numbered.bounded⟩
  | handled env event queued middle looped popped handled => exact handled.numbered (popped.numbered numbered)

/-- Taking an event from a queue does not change where it goes. -/
theorem Popped.routed {before middle : System} {event taken : GatewayEvent} {caller : Option Sip.CallRef}
    {slot : Slot} {counter : Nat} {offered : StateMachine.Event} (popped : Popped before taken caller middle)
    (routed : Gateway.Routed middle.gateway event slot counter offered) :
    Gateway.Routed before.gateway event slot counter offered := by
  have fresh : middle.gateway.freshSlot = before.gateway.freshSlot := by
    simp only [Gateway.freshSlot, popped.bridges, popped.counter]
  cases routed with
  | callHeld call slot found holds => rw [popped.counter]; exact .callHeld call slot (popped.bridges ▸ found) holds
  | callFresh call missed => rw [popped.counter, fresh]; exact .callFresh call (popped.bridges ▸ missed)
  | sipHeld event slot found holds => rw [popped.counter]; exact .sipHeld event slot (popped.bridges ▸ found) holds
  | sipFresh event missed => rw [popped.counter, fresh]; exact .sipFresh event (popped.bridges ▸ missed)
  | message message user slot sender sole found peer =>
    rw [popped.counter]
    exact .message message user slot sender (popped.bridges ▸ sole) (popped.bridges ▸ found) peer
  | error ctxId prm slot found named => rw [popped.counter]; exact .error ctxId prm slot (popped.bridges ▸ found) named

/-- A step as the bridges see it, with the machine that was offered an event. -/
inductive Worked (settings : Settings) (label : Label) (before : System) (seen : List Obs) (after : System) : Prop where
  | idle (bridges : after.gateway.bridges = before.gateway.bridges)
      (counter : after.gateway.ctxCounter = before.gateway.ctxCounter) (quiet : seen.filter Obs.deed = [])
  | served {env : Env} {event : GatewayEvent} {caller : Option Sip.CallRef} {middle : System} {slot : Slot}
      {counter : Nat} {offered : StateMachine.Event} {control : StateMachine.Control} {ctx : Context}
      {errors : List InternalEvent} (looped : label = .loop env) (popped : Popped before event caller middle)
      (route : before.gateway.route event = some ((slot, counter), offered))
      (routed : Gateway.Routed before.gateway event slot counter offered)
      (handles : Handles settings env offered slot.bridge.control slot.bridge.ctx control ctx errors
        (seen.filter Obs.deed))
      (counted : after.gateway.ctxCounter = counter)
      (members : ∀ bridge, bridge ∈ after.gateway.bridges ↔
        bridge ∈ before.gateway.bridges ∧ bridge.ctx.id ≠ slot.bridge.ctx.id ∨
        bridge = ⟨control, ctx⟩ ∧ ¬ (Gateway.erases event = true ∧ control = .X)) : Worked settings label
          before seen after

/-- A turn of the loop whose event finds a machine. -/
theorem Step.processed {settings : Settings} {env : Env} {before after middle : System} {seen : List Obs}
    {event : GatewayEvent} {caller : Option Sip.CallRef} {slot : Slot} {counter : Nat}
    {offered : StateMachine.Event} (step : Step settings (.loop env) before seen after)
    (taken : before.pop = some (event, caller, middle))
    (route : before.gateway.route event = some ((slot, counter), offered)) : ∃ control deps,
      StateMachine.processEvent settings env slot.bridge.control offered
        { toWorld := middle.gateway.toWorld, ctx := slot.bridge.ctx } = .ok (control, deps) ∧ seen = deps.seen ∧
      after.gateway = { toWorld := deps.toWorld
                        bridges := slot.before ++ Gateway.kept event control deps.ctx ++ slot.after,
                            ctxCounter := counter } := by
  rcases loop_some step with ⟨empty, _, _⟩ | ⟨_, queued, _, gateway, waiting, ran, settled⟩
  · rw [empty] at taken; cases taken
  · cases waiting.symm.trans taken
    obtain ⟨_, live, _, rfl⟩ := settle_some settled
    have popped := pop_popped waiting
    have route := (Gateway.route_congr popped.bridges popped.counter event).trans route
    obtain ⟨control, deps, processed, rfl, rfl⟩ := Gateway.processEvent_served ran route
    exact ⟨control, deps, processed, rfl, rfl⟩

/-- What the bridges are after it. -/
theorem Step.served {settings : Settings} {env : Env} {before after middle : System} {seen : List Obs}
    {event : GatewayEvent} {caller : Option Sip.CallRef} {slot : Slot} {counter : Nat}
    {offered : StateMachine.Event} (step : Step settings (.loop env) before seen after)
    (numbered : before.gateway.WellNumbered) (taken : before.pop = some (event, caller, middle))
    (route : before.gateway.route event = some ((slot, counter), offered)) :
    ∃ control ctx errors, Handles settings env offered slot.bridge.control slot.bridge.ctx control ctx errors
      (seen.filter Obs.deed) ∧ after.gateway.ctxCounter = counter ∧
      ∀ bridge, bridge ∈ after.gateway.bridges ↔ bridge ∈ before.gateway.bridges ∧ bridge.ctx.id ≠ slot.bridge.ctx.id ∨
        bridge = ⟨control, ctx⟩ ∧ ¬ (Gateway.erases event = true ∧ control = .X) := by
  obtain ⟨control, deps, processed, rfl, left⟩ := step.processed taken route
  obtain ⟨ctx, errors, deeds, handles, did⟩ := StateMachine.processEvent_handles processed
  refine ⟨control, deps.ctx, errors, ?_, by rw [left], ?_⟩
  · rw [did.done rfl, did.ctx]
    exact handles
  · rw [left]
    exact (Gateway.route_routed route).mem_after numbered rfl

/-- A turn of the loop whose event finds no machine. -/
theorem Step.unrouted {settings : Settings} {env : Env} {before after middle : System} {seen : List Obs}
    {event : GatewayEvent} {caller : Option Sip.CallRef} (step : Step settings (.loop env) before seen after)
    (taken : before.pop = some (event, caller, middle)) (route : before.gateway.route event = none) :
    after.gateway.bridges = before.gateway.bridges ∧ after.gateway.ctxCounter = before.gateway.ctxCounter ∧
      seen.filter Obs.deed = [] := by
  rcases loop_some step with ⟨empty, _, _⟩ | ⟨_, queued, _, gateway, waiting, ran, settled⟩
  · rw [empty] at taken; cases taken
  · cases waiting.symm.trans taken
    obtain ⟨_, live, _, rfl⟩ := settle_some settled
    have popped := pop_popped waiting
    have route := (Gateway.route_congr popped.bridges popped.counter event).trans route
    obtain ⟨shown, same, quiet⟩ := Gateway.processEvent_unrouted settings env route
    rw [same] at ran
    cases ran
    exact ⟨popped.bridges, popped.counter, deeds_of_signals quiet⟩

theorem step_worked {settings : Settings} {label : Label} {before after : System} {seen : List Obs}
    (step : Step settings label before seen after) (numbered : before.gateway.WellNumbered) :
    Worked settings label before seen after := by
  have moved := step_moved step
  cases label with
  | loop env =>
    rcases loop_some step with ⟨_, rfl, rfl⟩ | ⟨event, queued, middle, gateway, waiting, ran, settled⟩
    · exact .idle rfl rfl rfl
    · have popped := pop_popped waiting
      cases route : before.gateway.route event with
      | none =>
        obtain ⟨bridges, counter, quiet⟩ := step.unrouted waiting route
        exact .idle bridges counter quiet
      | some target =>
        obtain ⟨⟨slot, counter⟩, offered⟩ := target
        obtain ⟨control, ctx, errors, handles, counted, members⟩ := step.served numbered waiting route
        exact .served rfl popped route (Gateway.route_routed route) handles counted members
  | _ =>
    cases moved with
    | idle bridges counter errors quiet => exact .idle bridges counter quiet
    | handled env event queued middle looped => cases looped

/-- A context that has to do with a step: it has a bridge before the step, or acts in it. -/
def Involved (ctx : CtxId) (before : System) (seen : List Obs) : Prop :=
  (∃ bridge ∈ before.gateway.bridges, bridge.ctx.id = ctx) ∨ ∃ name, .action ctx name ∈ seen

/-- The bridge of a context is gone after a step only because its machine was served and went to X. -/
theorem Step.removes {settings : Settings} {label : Label} {before after : System} {seen : List Obs} {ctx : CtxId}
    (step : Step settings label before seen after) (numbered : before.gateway.WellNumbered)
    (involved : Involved ctx before seen) (removed : ∀ bridge ∈ after.gateway.bridges, bridge.ctx.id ≠ ctx) :
    ∃ env event caller middle slot counter offered final errors, Popped before event caller middle ∧
      Gateway.Routed before.gateway event slot counter offered ∧
      Handles settings env offered slot.bridge.control slot.bridge.ctx .X final errors (seen.filter Obs.deed) ∧
      slot.bridge.ctx.id = ctx ∧ ∀ bridge ∈ after.gateway.bridges, bridge ∈ before.gateway.bridges := by
  cases step_worked step numbered with
  | idle bridges counter quiet =>
    exfalso
    rcases involved with ⟨bridge, member, same⟩ | ⟨name, acted⟩
    · exact removed bridge (bridges ▸ member) same
    · cases undone quiet acted
  | @served env event caller middle slot counter offered control last errors looped popped route routed handles
      counted members =>
    have own := handles.own
    have served : slot.bridge.ctx.id = ctx := by
      rcases involved with ⟨bridge, member, rfl⟩ | ⟨name, acted⟩
      · by_contra other
        exact removed bridge ((members bridge).mpr (.inl ⟨member, Ne.symm other⟩)) rfl
      · exact (own.author (List.mem_filter.mpr ⟨acted, rfl⟩) rfl).symm
    have gone : Gateway.erases event = true ∧ control = .X := by
      by_contra here
      exact removed ⟨control, last⟩ ((members _).mpr (.inr ⟨rfl, here⟩)) (own.id.trans served)
    refine ⟨env, event, caller, middle, slot, counter, offered, last, errors, popped, routed,
      gone.2 ▸ handles, served, ?_⟩
    intro bridge member
    rcases (members bridge).mp member with ⟨old, _⟩ | ⟨_, here⟩
    · exact old
    · exact absurd gone here

/-- A property of machines and contexts that every handled event keeps, whatever the queues
hold. A new machine is only ever offered an update of a call or a SIP event. -/
structure BridgeRule (settings : Settings) (kept : StateMachine.Control → Context → Prop) : Prop where
  fresh : ∀ {env offered id target final errors deeds},
    Handles settings env offered .init { id } target final errors deeds →
      (∃ call, offered = .updateCall call) ∨ (∃ sip, offered = .sip sip) → target = .X ∨ kept target final
  next : ∀ {env offered control ctx target final errors deeds}, kept control ctx →
    Handles settings env offered control ctx target final errors deeds → target = .X ∨ kept target final
  present : ∀ {ctx}, ¬ kept .X ctx

namespace BridgeRule
variable {settings : Settings} {kept : StateMachine.Control → Context → Prop} (rule : BridgeRule settings kept)
include rule

theorem handled {env : Env} {gateway after : Gateway} {event : GatewayEvent} {seen : List Obs}
    (handled : Gateway.Handled settings env gateway event after seen) (numbered : gateway.WellNumbered)
    (valid : ∀ bridge ∈ gateway.bridges, kept bridge.control bridge.ctx) :
    ∀ bridge ∈ after.bridges, kept bridge.control bridge.ctx := by
  cases handled with
  | passed unrouted quiet => exact valid
  | @offered slot counter offered control ctx errors _ _ routed handles bridges counted queued touched =>
    have other : ∀ bridge ∈ slot.before ++ slot.after, kept bridge.control bridge.ctx :=
      fun bridge member => valid bridge ((routed.others numbered bridge).mp member).1
    have held : gateway.bridges = slot.bridges → kept slot.bridge.control slot.bridge.ctx := by
      intro found
      exact valid _ (Slot.within found)
    have outcome : control = .X ∨ kept control ctx := by
      cases routed with
      | callHeld call slot found holds => exact rule.next (held found) handles
      | callFresh call missed => exact rule.fresh handles (.inl ⟨call, rfl⟩)
      | sipHeld event slot found holds => exact rule.next (held found) handles
      | sipFresh event missed => exact rule.fresh handles (.inr ⟨event, rfl⟩)
      | message message user slot sender sole found peer => exact rule.next (held found) handles
      | error ctxId prm slot found named => exact rule.next (held found) handles
    rw [bridges]
    intro bridge member
    simp only [List.mem_append] at member
    rcases member with (earlier | taken) | later
    · exact other bridge (by simp [earlier])
    · obtain ⟨rfl, here⟩ := Gateway.mem_kept.mp taken
      rcases outcome with gone | valid
      · cases routed with
        | message message user slot sender sole found peer =>
          have same := handles.message
          rw [gone] at same
          exact absurd (held found) (by rw [← same]; exact rule.present)
        | _ => exact absurd ⟨rfl, gone⟩ here
      · exact valid
    · exact other bridge (by simp [later])

theorem moved {label : Label} {before after : System} {seen : List Obs} (moved : Moved settings label before seen after)
    (numbered : before.gateway.WellNumbered)
    (valid : ∀ bridge ∈ before.gateway.bridges, kept bridge.control bridge.ctx) :
    ∀ bridge ∈ after.gateway.bridges, kept bridge.control bridge.ctx := by
  cases moved with
  | idle bridges counter errors quiet => rw [bridges]; exact valid
  | handled env event queued middle looped popped handled =>
    exact rule.handled handled (popped.numbered numbered) (by rw [popped.bridges]; exact valid)

theorem run {cache : Cache} {maxCalls : Nat} {allowed : Label → System → List Obs → Prop} {past : List Obs}
    {system : System} (run : Reaches settings allowed (initial cache maxCalls) past system) :
    system.gateway.WellNumbered ∧ ∀ bridge ∈ system.gateway.bridges, kept bridge.control bridge.ctx := by
  refine Run.state_invariant (fun system => system.gateway.WellNumbered ∧
    ∀ bridge ∈ system.gateway.bridges, kept bridge.control bridge.ctx) run ?_ ?_
  · exact ⟨⟨List.nodup_nil, fun bridge member => by cases member⟩, fun bridge member => by cases member⟩
  · rintro before seen after ⟨numbered, valid⟩ ⟨label, _, step⟩
    have moved := step_moved step
    exact ⟨moved.numbered numbered, rule.moved moved numbered valid⟩

end BridgeRule

/-- Between events every machine is in one of its composite states. -/
theorem composite_rule (settings : Settings) : BridgeRule settings fun control _ => control.composite = true where
  fresh handles searched := by
    cases handles with
    | dropped ignored => exact absurd ignored (StateMachine.init_takes searched)
    | taken transition effects => cases transition <;> first | exact .inl rfl | exact .inr rfl | contradiction
  next inside handles := by
    cases handles with
    | dropped ignored => exact .inr inside
    | taken transition effects => cases transition <;> first | exact .inl rfl | exact .inr rfl | exact .inr inside
  present := by simp [StateMachine.Control.composite]

end System
end Tg2Sip
