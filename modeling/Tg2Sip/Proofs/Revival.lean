import Tg2Sip.Proofs.Identity

/-! Updates of a Telegram call that the gateway has done with. No memory of ended calls is kept, so
that what a late update does is decided by the update alone: it begins a call, or it
passes. -/

namespace Tg2Sip
open TdApi Lib StateMachine

def Obs.dials : Obs → Bool
  | .sip _ _ (.dial ..) _ => true
  | _ => false

theorem Obs.deed_of_dials {obs : Obs} (dials : obs.dials = true) : obs.deed = true := by
  cases obs <;> first | rfl | cases dials

section Beginning
variable {settings : Settings} {env : Env} {final : Context} {errors : List InternalEvent} {deeds : List Obs}

/-- A new machine that takes the first update of a call keeps the call, or ends it at once. -/
theorem Handles.begins {call : Call} {target : Control} {id : CtxId}
    (handles : Handles settings env (.updateCall call) .init { id } target final errors deeds)
    (begins : (StateMachine.Event.updateCall call).begins = true) (nonzero : call.id ≠ 0) :
    target ≠ .X ∧ final.tgCallId = call.id ∨ deeds.countP (Obs.ends (.tg call.id)) = 1 := by
  cases handles with
  | dropped ignored => exact absurd ignored (init_takes (.inl ⟨call, rfl⟩))
  | taken transition effects =>
    cases transition with
    | dial call incoming pending uri =>
      obtain ⟨_, _, _, _, _, stored, rest, rfl, rfl⟩ := effects.three
      obtain ⟨_, _, _, _, _, user, dialed, rfl, rfl⟩ := rest.two
      cases stored
      cases user
      cases dialed <;> exact .inl ⟨by simp, rfl⟩
    | refuse call incoming pending uri =>
      obtain ⟨_, _, _, _, _, stored, cleaned, rfl, rfl⟩ := effects.two
      cases stored
      cases cleaned with
      | cleanUp ctx controller ended same =>
        refine .inr ?_
        rw [List.countP_append, List.countP_cons, List.countP_cons, List.countP_cons, Effect.cleanUp_ends]
        simp [Obs.ends, Context.Has, nonzero]
    | strayUpdate call stray => exact absurd (of_decide_eq_true begins) stray
    | tgEnded control inside => cases inside

end Beginning

namespace System
variable {settings : Settings} {label : Label} {start middle before after : System} {past seen rest shown : List Obs}

/-- A step shows nothing of a call: no SIP call is dialed, the call is not discarded, and no bridge has it. -/
structure Inert (call : TgCallId) (shown : List Obs) (after : System) : Prop where
  undialed : ∀ obs ∈ shown, obs.dials = false
  unended : shown.countP (Obs.ends (.tg call)) = 0
  unheld : ∀ bridge ∈ after.gateway.bridges, bridge.ctx.tgCallId ≠ call

/-- No step gives the id to another call, and none handles an update that begins the call again. -/
structure Unrevived (call : TgCallId) (label : Label) (before : System) (seen : List Obs) : Prop where
  tdlib : TdlibIds label before seen
  created : ∀ ctx, .associated ctx .dialTg (.tg call) ∉ seen
  unrepeated : ∀ event caller middle, before.pop = some (event, caller, middle) → (∃ env, label = .loop env) →
    Concerns event (.tg call) → event.begins = false

/-- The legs of a bridge that is removed are no legs of another bridge. -/
theorem Ledger.released {ctx : CtxId} {name : ActionName} {call : TgCallId} (ledger : Ledger past start)
    (single : Single (.tg call) start) (step : Step settings label start seen middle)
    (fresh : FreshCalls label start seen) (held : .associated ctx name (.tg call) ∈ past ++ seen)
    (involved : Involved ctx start seen) (removed : ∀ bridge ∈ middle.gateway.bridges, bridge.ctx.id ≠ ctx) :
    call ≠ 0 ∧ ∀ bridge ∈ middle.gateway.bridges, ¬ bridge.ctx.Has (.tg call) := by
  have agreed := ledger.agreed
  obtain ⟨env, event, caller, popping, slot, counter, offered, final, errors, popped, routed, handles, rfl, older⟩ :=
    step.removes agreed.numbered involved removed
  rcases List.mem_append.mp held with old | new
  · have within : slot.bridge ∈ start.gateway.bridges := by
      rcases agreed.offers popped routed with ⟨within, _⟩ | ⟨rfl, _⟩
      · exact within
      · exact absurd (ledger.bounded _ old rfl _ rfl) (Nat.not_succ_le_self _)
    have has := (ledger.recorded _ within).legs name _ old
    refine ⟨has.1, fun bridge member hasToo => removed bridge member ?_⟩
    rw [single bridge (older bridge member) _ within hasToo has]
  · have deed := List.mem_filter.mpr ⟨new, (rfl : Obs.deed (.associated slot.bridge.ctx.id name (.tg call)) = true)⟩
    refine ⟨?_, fun bridge member =>
      agreed.new_leg popped routed handles (fresh.returns call) deed bridge (older bridge member)⟩
    rcases handles.associates deed with ⟨_, named⟩ | ⟨rfl, _⟩ | ⟨_, _, same⟩
    · have concerns := routed.concerns named
      cases concerns with
      | call update => exact agreed.calls update popped.call
    · exact fresh.tdlib.2 _ call new
    · cases same

/-- Without an update that begins the call, no bridge gets it. -/
theorem Unrevived.step {call : TgCallId} (unrevived : Unrevived call label before seen) (agreed : Agreed before)
    (step : Step settings label before seen after)
    (nobody : ∀ bridge ∈ before.gateway.bridges, ¬ bridge.ctx.Has (.tg call)) :
    ∀ bridge ∈ after.gateway.bridges, ¬ bridge.ctx.Has (.tg call) := by
  cases step_worked step agreed.numbered with
  | idle bridges counter quiet => rw [bridges]; exact nobody
  | @served env event caller middle slot counter offered control ctx errors looped popped route routed handles
      counted members =>
    by_cases concerns : Concerns event (.tg call)
    · subst looped
      have late := unrevived.unrepeated event caller middle popped.pop ⟨env, rfl⟩ concerns
      rw [(agreed.passes step popped.pop concerns late nobody).1]
      exact nobody
    intro bridge member has
    rcases (members bridge).mp member with ⟨old, _⟩ | ⟨rfl, here⟩
    · exact nobody bridge old has
    rcases handles.gains has with held | ⟨name, given⟩
    · rcases agreed.offers popped routed with ⟨within, _⟩ | ⟨rfl, _⟩
      · exact nobody _ within held
      · exact Context.bare _ _ held
    · rcases handles.associates given with ⟨_, named⟩ | ⟨rfl, _⟩ | ⟨_, _, same⟩
      · exact concerns (routed.concerns named)
      · exact unrevived.created _ (List.mem_of_mem_filter given)
      · cases same

theorem Unrevived.run {call : TgCallId} (later : Reaches settings (Unrevived call) middle rest before)
    (agreed : Agreed middle) (nobody : ∀ bridge ∈ middle.gateway.bridges, ¬ bridge.ctx.Has (.tg call)) :
    Agreed before ∧ ∀ bridge ∈ before.gateway.bridges, ¬ bridge.ctx.Has (.tg call) := by
  refine Run.state_invariant (fun system => Agreed system ∧
    ∀ bridge ∈ system.gateway.bridges, ¬ bridge.ctx.Has (.tg call)) later ⟨agreed, nobody⟩ ?_
  rintro before seen after ⟨agreed, nobody⟩ ⟨label, unrevived, step⟩
  exact ⟨agreed.step step unrevived.tdlib, unrevived.step agreed step nobody⟩

/-- An update of a call that no bridge has is without effect exactly when it does not begin the call. -/
theorem Agreed.inert_iff {env : Env} {call : Call} {caller : Option Sip.CallRef} {popping : System}
    (agreed : Agreed before) (step : Step settings (.loop env) before shown after)
    (taken : before.pop = some (.update (.call call), caller, popping)) (nonzero : call.id ≠ 0)
    (nobody : ∀ bridge ∈ before.gateway.bridges, ¬ bridge.ctx.Has (.tg call.id)) :
    Inert call.id shown after ↔ GatewayEvent.begins (.update (.call call)) = false := by
  constructor
  · intro inert
    by_contra begins
    cases route : before.gateway.route (.update (.call call)) with
    | none => cases route
    | some target =>
      obtain ⟨⟨slot, counter⟩, offered⟩ := target
      obtain ⟨control, ctx, errors, handles, _, members⟩ := step.served agreed.numbered taken route
      cases Gateway.route_routed route with
      | callHeld call slot found holds => exact nobody slot.bridge (Slot.within found) ⟨nonzero, holds⟩
      | callFresh call missed =>
        rcases Handles.begins handles (eq_true_of_ne_false begins) nonzero with ⟨stays, held⟩ | ended
        · exact inert.unheld ⟨control, ctx⟩ ((members _).mpr (.inr ⟨rfl, fun gone => stays gone.2⟩)) held
        · rw [← countP_deeds, inert.unended] at ended
          cases ended
  · intro late
    obtain ⟨same, ctx, deeds⟩ := agreed.passes step taken (.call call) late nobody
    refine ⟨fun obs member => ?_, ?_, fun bridge member held => ?_⟩
    · by_contra dials
      have dials := eq_true_of_ne_false dials
      have deed := List.mem_filter.mpr ⟨member, obs.deed_of_dials dials⟩
      rw [deeds, List.mem_singleton] at deed
      rw [deed] at dials
      cases dials
    · rw [countP_deeds, deeds]
      rfl
    · rw [same] at member
      exact nobody bridge member ⟨nonzero, held⟩

/-- After a bridge of a Telegram call is gone, and as long as no update begins the call again, an update
of the call is without effect if and only if it does not begin the call either. -/
theorem late_update_inert_iff {cache : Cache} {maxCalls : Nat} {ctx : CtxId} {name : ActionName} {env : Env}
    {call : Call} {caller : Option Sip.CallRef} {popping : System}
    (reached : Reaches settings FreshCalls (System.initial cache maxCalls) past start)
    (step : Step settings label start seen middle) (fresh : FreshCalls label start seen)
    (held : .associated ctx name (.tg call.id) ∈ past ++ seen) (involved : Involved ctx start seen)
    (removed : ∀ bridge ∈ middle.gateway.bridges, bridge.ctx.id ≠ ctx)
    (later : Reaches settings (Unrevived call.id) middle rest before)
    (handled : Step settings (.loop env) before shown after)
    (taken : before.pop = some (.update (.call call), caller, popping)) :
    Inert call.id shown after ↔ ¬ (call.isOutgoing = false ∧ call.state.getId = .pending) := by
  have ledger := Ledger.run (reached.mono fun _ _ _ => Restricted.weaken fun _ _ _ fresh => fresh.tdlib)
  have released := ledger.released (Single.run reached) step fresh held involved removed
  obtain ⟨agreed, nobody⟩ := Unrevived.run later (ledger.agreed.step step fresh.tdlib) released.2
  rw [agreed.inert_iff handled taken released.1 nobody]
  simp [GatewayEvent.begins, StateMachine.Event.begins]

/-- A turn of the loop that finds nothing. -/
private def Idle (label : Label) (before : System) (seen : List Obs) : Prop :=
  (∃ env, label = .loop env) ∧ before.pop = none ∧ seen = []

private theorem Idle.unrevived (call : TgCallId) (idle : Idle label before seen) :
    Unrevived call label before seen := by
  obtain ⟨⟨env, rfl⟩, empty, rfl⟩ := idle
  exact ⟨⟨by simp, by simp⟩, by simp, fun event caller middle taken => by rw [empty] at taken; cases taken⟩

private theorem Idle.fresh (idle : Idle label before seen) : FreshCalls label before seen := by
  obtain ⟨⟨env, rfl⟩, empty, rfl⟩ := idle
  exact ⟨⟨by simp, by simp⟩, by simp⟩

/-- `Idle` as a test. -/
private def idle (label : Label) (before : System) (seen : List Obs) : Bool :=
  decide (before.pop.isNone = true ∧ seen = []) && match label with
    | .loop _ => true
    | _ => false

private theorem idle_sound (label : Label) (before : System) (seen : List Obs)
    (tested : idle label before seen = true) :
    Idle label before seen := by
  obtain ⟨empty, looped⟩ := Bool.and_eq_true_iff.mp tested
  obtain ⟨empty, quiet⟩ := of_decide_eq_true empty
  cases label with
  | loop env => exact ⟨⟨env, rfl⟩, Option.isNone_iff_eq_none.mp empty, quiet⟩
  | _ => cases looped

/-- TDLib reports call 7 twice before the gateway thread looks. The first update is refused. -/
private theorem reported_twice (state : CallState) (either : state = .pending ∨ state = .discarded) :
    ∃ past start seen middle rest before shown after caller popping,
      Reaches { callbackUri := "" } FreshCalls (System.initial {} 1) past start ∧
        Step { callbackUri := "" } (.loop (Env.success 42 7 0)) start seen middle ∧
          FreshCalls (.loop (Env.success 42 7 0)) start seen ∧ .associated 1 .storeTgId (.tg 7) ∈ past ++ seen ∧
            Involved 1 start seen ∧ middle.gateway.bridges = [] ∧
              Run (Restricted (Step { callbackUri := "" }) Idle) middle rest before ∧
              Step { callbackUri := "" } (.loop (Env.success 42 7 0)) before shown after ∧
                before.pop = some (.update (.call ⟨7, 42, false, state⟩), caller, popping) ∧
                  (state = .pending → shown.countP (Obs.ends (.tg 7)) = 1) := by
  let settings : Settings := { callbackUri := "" }
  let turn := Label.loop (Env.success 42 7 0)
  have ran : ∀ state ∈ [CallState.pending, .discarded],
      (execute (System.step settings) freshIds [.tdlib (.call ⟨7, 42, false, .pending⟩),
        .tdlib (.call ⟨7, 42, false, state⟩), turn]
        (System.initial {} 1)).any (fun reached => (reached.1.step settings turn).any fun removal =>
          freshIds turn reached.1 removal.2 && decide (.associated 1 .storeTgId (.tg 7) ∈ removal.2 ∧
            .action 1 .cleanUp ∈ removal.2 ∧ removal.1.gateway.bridges = []) &&
          (execute (System.step settings) idle [turn, turn] removal.1).any fun later =>
            (later.1.step settings turn).any fun last =>
              decide (later.1.pop.map (fun taken => taken.1) = some (.update (.call ⟨7, 42, false, state⟩)) ∧
                (state = .pending → last.2.countP (Obs.ends (.tg 7)) = 1))) = true := by decide +kernel
  obtain ⟨start, past, reached, found⟩ :=
    execute_reaches (fun _ _ _ => freshIds_sound) (ran state (by simpa using either))
  obtain ⟨⟨middle, seen⟩, removal, found⟩ := (Option.any_eq_true _ _).mp found
  obtain ⟨found, later⟩ := Bool.and_eq_true_iff.mp found
  obtain ⟨fresh, found⟩ := Bool.and_eq_true_iff.mp found
  obtain ⟨associated, acted, gone⟩ := of_decide_eq_true found
  obtain ⟨before, rest, run, found⟩ := execute_reaches idle_sound later
  obtain ⟨⟨after, shown⟩, last, found⟩ := (Option.any_eq_true _ _).mp found
  obtain ⟨popped, discarded⟩ := of_decide_eq_true found
  obtain ⟨⟨event, caller, popping⟩, taken, same⟩ := Option.map_eq_some_iff.mp popped
  cases same
  exact ⟨past, start, seen, middle, rest, before, shown, after, caller, popping,
    reached.mono fun _ _ _ => Restricted.weaken fun _ _ _ fresh => fresh.toFreshCalls, removal,
    (freshIds_sound fresh).toFreshCalls, List.mem_append_right _ associated, .inr ⟨_, acted⟩, gone, run, last,
      taken, discarded⟩

theorem late_discard_inert :
    ∃ before shown after, Step { callbackUri := "" } (.loop (Env.success 42 7 0)) before shown after ∧
    Inert 7 shown after := by
  obtain ⟨past, start, seen, middle, rest, before, shown, after, caller, popping, reached, removal, fresh, held,
    involved, gone, later, handled, taken, _⟩ := reported_twice .discarded (.inr rfl)
  exact ⟨before, shown, after, handled, (late_update_inert_iff reached removal fresh held involved (by rw [gone]; simp)
    (later.mono fun _ _ _ => Restricted.weaken fun _ _ _ idle => idle.unrevived 7) handled taken).mpr
      (by simp [CallState.getId])⟩

/-- Without the condition: the call is discarded again. -/
theorem repeated_update_revives :
    ¬ ∀ (settings : Settings) (cache : Cache) (maxCalls : Nat) (past seen rest shown : List Obs)
    (start middle before after popping : System) (label : Label) (ctx : CtxId) (name : ActionName)
    (env : Env) (call : Call) (caller : Option Sip.CallRef),
    Reaches settings FreshCalls (System.initial cache maxCalls) past start → Step settings label start seen middle →
      FreshCalls label start seen → .associated ctx name (.tg call.id) ∈ past ++ seen → Involved ctx start seen →
        (∀ bridge ∈ middle.gateway.bridges, bridge.ctx.id ≠ ctx) → Reaches settings FreshCalls middle rest before →
          Step settings (.loop env) before shown after → before.pop = some (.update (.call call), caller, popping) →
            Inert call.id shown after := by
  intro always
  obtain ⟨past, start, seen, middle, rest, before, shown, after, caller, popping, reached, removal, fresh, held,
    involved, gone, later, handled, taken, discarded⟩ := reported_twice .pending (.inl rfl)
  have inert :=
    always _ {} 1 past seen rest shown start middle before after popping _ 1 .storeTgId
      _ ⟨7, 42, false, .pending⟩ caller
    reached removal fresh held involved (by rw [gone]; simp)
    (later.mono fun _ _ _ => Restricted.weaken fun _ _ _ idle => idle.fresh) handled taken
  have unended := inert.unended
  rw [discarded rfl] at unended
  cases unended

end System
end Tg2Sip
