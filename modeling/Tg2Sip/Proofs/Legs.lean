import Tg2Sip.Proofs.Agreement

/-! The legs of a bridge. What was ever associated with a context stays recorded in it, and
the step that removes the bridge ends each of its legs, but for one whose end it was told. -/

namespace Tg2Sip
open TdApi Lib StateMachine

/-- Requests that end a leg. -/
def Obs.ends (leg : Leg) : Obs → Bool
  | .query _ _ (.discardCall id ..) _ => decide (leg = .tg id)
  | .sip _ _ (.hangup id _) _ => decide (leg = .sip id)
  | _ => false

/-- Events that tell the end of a leg. -/
def StateMachine.Event.reports (leg : Leg) : StateMachine.Event → Bool
  | .updateCall call => decide (leg = .tg call.id ∧ (call.state.getId = .discarded ∨ call.state.getId = .error))
  | .sip (.callStateUpdate id state) => decide (leg = .sip id ∧ state = .disconnected)
  | _ => false

def Context.Has (ctx : Context) : Leg → Prop
  | .tg id => id ≠ 0 ∧ ctx.tgCallId = id
  | .sip id => id ≠ Sip.invalidId ∧ ctx.sipCallId = id

instance (ctx : Context) : DecidablePred ctx.Has
  | .tg id => inferInstanceAs (Decidable (id ≠ 0 ∧ ctx.tgCallId = id))
  | .sip id => inferInstanceAs (Decidable (id ≠ Sip.invalidId ∧ ctx.sipCallId = id))

@[simp] theorem Context.has_tg {ctx : Context} {id : TgCallId} :
    ctx.Has (.tg id) ↔ id ≠ 0 ∧ ctx.tgCallId = id := Iff.rfl

@[simp] theorem Context.has_sip {ctx : Context} {id : Sip.CallId} :
    ctx.Has (.sip id) ↔ id ≠ Sip.invalidId ∧ ctx.sipCallId = id := Iff.rfl

theorem Context.bare (id : CtxId) (leg : Leg) : ¬ Context.Has { id } leg := by
  cases leg with
  | tg call => rintro ⟨nonzero, same⟩; exact nonzero same.symm
  | sip call => rintro ⟨valid, same⟩; exact valid same.symm

/-- A context has what was associated with it, and a controller once one was started. -/
structure Recorded (past : List Obs) (ctx : Context) : Prop where
  legs : ∀ name leg, .associated ctx.id name leg ∈ past → ctx.Has leg
  controller : .started ctx.id ∈ past → ctx.controller.isSome = true

/-- What became of the legs of a context when its machine was offered an event. -/
structure Accounted (offered : StateMachine.Event) (past deeds : List Obs) (ctx : CtxId) (target : Control)
    (final : Context) : Prop where
  kept : target ≠ .X → Recorded (past ++ deeds) final
  ended : target = .X → ∀ name leg, .associated ctx name leg ∈ past ++ deeds →
    deeds.countP (Obs.ends leg) = if offered.reports leg = true then 0 else 1
  stopped : target = .X → .started ctx ∈ past ++ deeds → .stopped ctx ∈ deeds

theorem proper {id : Sip.CallId} (valid : 0 ≤ id) : id ≠ Sip.invalidId := by
  rintro rfl
  exact absurd valid (by decide)

section Ends
variable {settings : Settings} {env : Env} {ctx final : Context} {errors : List InternalEvent} {past deeds : List Obs}

theorem Effect.cleanUp_ends (env : Env) (ctx : Context) (ended : Bool) (leg : Leg) :
    (stops ctx ++ discards env ctx ++ hangups ctx ended).countP (Obs.ends leg) = if ctx.Has leg then 1 else 0 := by
  have stopping : (stops ctx).countP (Obs.ends leg) = 0 := by unfold stops; split <;> rfl
  rw [List.countP_append, List.countP_append, stopping]
  cases leg with
  | tg id =>
    have hanging : (hangups ctx ended).countP (Obs.ends (.tg id)) = 0 := by unfold hangups; split <;> simp [Obs.ends]
    rw [hanging]
    unfold discards
    split
    next held =>
      by_cases same : id = ctx.tgCallId
      · simp [Obs.ends, Context.Has, same, held]
      · simp [Obs.ends, Context.Has, same, Ne.symm same]
    next free => simp_all [Context.Has, eq_comm]
  | sip id =>
    have discarding : (discards env ctx).countP (Obs.ends (.sip id)) = 0 := by
      unfold discards
      split <;> simp [Obs.ends]
    rw [discarding]
    unfold hangups
    split
    next held =>
      by_cases same : id = ctx.sipCallId
      · simp [Obs.ends, Context.Has, same, held]
      · simp [Obs.ends, Context.Has, same, Ne.symm same]
    next free => simp_all [Context.Has, eq_comm]

theorem Effect.cleanUp_stops (env : Env) {ctx : Context} (present : ctx.controller.isSome = true) (ended : Bool) :
    .stopped ctx.id ∈ stops ctx ++ discards env ctx ++ hangups ctx ended := by
  simp [stops, present]

/-- `CleanUp` neither associates a leg nor starts a controller. -/
theorem Effect.cleanUp_silent {ended : Bool} {obs : Obs}
    (member : obs ∈ stops ctx ++ discards env ctx ++ hangups ctx ended) :
    (∀ number name leg, obs ≠ .associated number name leg) ∧ ∀ number, obs ≠ .started number := by
  simp only [stops, discards, hangups, List.mem_append] at member
  rcases member with (member | member) | member <;> split at member <;> simp at member <;> rw [member] <;> simp

/-- A step that forgets nothing records what it associates. -/
theorem Recorded.step (recorded : Recorded past ctx) (number : final.id = ctx.id)
    (legs : ∀ name leg, .associated ctx.id name leg ∈ deeds → final.Has leg)
    (started : .started ctx.id ∈ deeds → final.controller.isSome = true)
    (keeps : ∀ leg, ctx.Has leg → final.Has leg)
    (keepsController : ctx.controller.isSome = true → final.controller.isSome = true) :
    Recorded (past ++ deeds) final := by
  constructor
  · intro name leg member
    rw [number] at member
    rcases List.mem_append.mp member with old | new
    · exact keeps leg (recorded.legs name leg old)
    · exact legs name leg new
  · intro member
    rw [number] at member
    rcases List.mem_append.mp member with old | new
    · exact keepsController (recorded.controller old)
    · exact started new

/-- Nothing is associated with a context, and it keeps what it has. -/
structure Keeps (ctx final : Context) (deeds : List Obs) : Prop where
  number : final.id = ctx.id
  tg : final.tgCallId = ctx.tgCallId
  sip : final.sipCallId = ctx.sipCallId
  controller : ctx.controller.isSome = true → final.controller.isSome = true
  unassociated : ∀ number name leg, .associated number name leg ∉ deeds
  started : ∀ number, .started number ∈ deeds → final.controller.isSome = true

/-- Actions that neither associate a leg nor forget one. -/
def Action.harmless : Action → Bool
  | .storeTgUserId _ | .setHangupPrm _ | .answerTg | .acceptIncomingSip _ | .answerSip | .createTgVoip _ | .bridgeAudio
  | .dialDtmf _ => true
  | _ => false

theorem Effect.keeps {action : Action} (effect : Effect settings env action ctx final errors deeds)
    (harmless : action.harmless = true) : Keeps ctx final deeds := by
  cases effect with
  | rang ext ctx parsed valid =>
    obtain ⟨number, sip, tg, controller⟩ := Actions.parseExtension_id valid
    exact ⟨number, tg, sip, by rw [controller]; exact id, by simp, by simp⟩
  | silent ext ctx parsed prm valid =>
    obtain ⟨number, sip, tg, controller⟩ := Actions.parseExtension_id valid
    exact ⟨number, tg, sip, by rw [controller]; exact id, by simp, by simp⟩
  | createdTgVoip call ctx controller user live => exact ⟨rfl, rfl, rfl, fun _ => rfl, by simp, fun _ _ => rfl⟩
  | storeSipId | storeTgId | cleanTgId | cleanSipId | cleanUp | dialedSip | refusedSip | dialedTg | undialedTg =>
    cases harmless
  | _ => exact ⟨rfl, rfl, rfl, id, by simp, by simp⟩

theorem Effects.keeps {actions : List Action} (effects : Effects settings env actions ctx final errors deeds)
    (harmless : ∀ action ∈ actions, action.harmless = true) : Keeps ctx final deeds := by
  induction effects with
  | nil ctx => exact ⟨rfl, rfl, rfl, id, by simp, by simp⟩
  | cons first rest ih =>
    have before := first.keeps (harmless _ (by simp))
    have after := ih fun action member => harmless action (by simp [member])
    refine ⟨after.number.trans before.number, after.tg.trans before.tg, after.sip.trans before.sip,
      fun present => after.controller (before.controller present), ?_, ?_⟩
    · intro number name leg member
      rcases List.mem_append.mp member with shown | later
      · exact before.unassociated number name leg (by simpa using shown)
      · exact after.unassociated number name leg later
    · intro number member
      rcases List.mem_append.mp member with shown | later
      · exact after.controller (before.started number (by simpa using shown))
      · exact after.started number later

theorem Keeps.has (keeps : Keeps ctx final deeds) (leg : Leg) : final.Has leg ↔ ctx.Has leg := by
  cases leg <;> simp [keeps.tg, keeps.sip]

theorem Recorded.keeps (recorded : Recorded past ctx) (keeps : Keeps ctx final deeds) :
    Recorded (past ++ deeds) final :=
  recorded.step keeps.number (fun name leg member => absurd member (keeps.unassociated _ name leg)) (keeps.started _)
    (fun leg has => (keeps.has leg).mpr has) keeps.controller

/-- The last action of a transition to X ends the legs that the context still has. -/
theorem Accounted.cleaned {offered : StateMachine.Event} {ended : Bool} {number : CtxId} (middle : Context)
    (shown : List Obs) (same : middle.id = number) (opening : ∀ leg, shown.countP (Obs.ends leg) = 0)
    (legs : ∀ name leg, .associated number name leg ∈ past ++ shown →
      (offered.reports leg = true ↔ ¬ middle.Has leg))
    (controller : .started number ∈ past ++ shown → middle.controller.isSome = true) :
    Accounted offered past (shown ++ .action middle.id .cleanUp ::
      (Effect.stops middle ++ Effect.discards env middle ++ Effect.hangups middle ended)) number .X final := by
  refine ⟨fun stays => absurd rfl stays, fun _ name leg member => ?_, fun _ member => ?_⟩
  · rw [List.countP_append, opening, List.countP_cons, Effect.cleanUp_ends]
    have known : .associated number name leg ∈ past ++ shown := by
      simp only [List.mem_append, List.mem_cons, reduceCtorEq, false_or] at member ⊢
      rcases member with old | new | later
      · exact .inl old
      · exact .inr new
      · exact absurd rfl ((Effect.cleanUp_silent (by simpa [or_assoc] using later)).1 number name leg)
    by_cases has : middle.Has leg
    · have unreported : ¬ offered.reports leg = true := fun told => (legs name leg known).mp told has
      simp [has, unreported, Obs.ends]
    · simp [has, (legs name leg known).mpr has, Obs.ends]
  · have known : .started number ∈ past ++ shown := by
      simp only [List.mem_append, List.mem_cons, reduceCtorEq, false_or] at member ⊢
      rcases member with old | new | later
      · exact .inl old
      · exact .inr new
      · exact absurd rfl ((Effect.cleanUp_silent (by simpa [or_assoc] using later)).2 number)
    have stopped := Effect.cleanUp_stops env (controller known) ended
    rw [same] at stopped
    exact List.mem_append_right _ (List.mem_cons_of_mem _ stopped)

variable {offered : StateMachine.Event} {control target : Control} {waiting : List InternalEvent}

theorem Handles.accounted_fresh {id : CtxId}
    (handles : Handles settings env offered .init { id } target final errors deeds) (offer : FreshOffer offered)
    (returned : ReturnedIds deeds) (unknown : ∀ name leg, .associated id name leg ∉ past)
    (unstarted : .started id ∉ past) : Accounted offered past deeds id target final := by
  have blank : Recorded past { id } :=
    ⟨fun name leg member => absurd member (unknown name leg), fun member => absurd member unstarted⟩
  have stays : ∀ {reached : Control}, reached ≠ .X → Recorded (past ++ deeds) final →
      Accounted offered past deeds id reached final :=
    fun composite recorded => ⟨fun _ => recorded, fun gone => absurd gone composite, fun gone => absurd gone composite⟩
  have stray : ∀ ended, Accounted offered past (.action id .cleanUp ::
      (Effect.stops { id } ++ Effect.discards env { id } ++ Effect.hangups { id } ended)) id .X final := by
    intro ended
    refine .cleaned { id } [] rfl (by simp) (fun name leg member => ?_) fun member => ?_
    · exact absurd (by simpa using member) (unknown name leg)
    · exact absurd (by simpa using member) unstarted
  cases handles with
  | dropped ignored =>
    refine absurd ignored (init_takes ?_)
    cases offer with
    | call call nonzero => exact .inl ⟨call, rfl⟩
    | sip event valid => exact .inr ⟨event, rfl⟩
  | taken transition effects =>
    cases transition with
    | dial call incoming pending uri =>
      cases offer with
      | call call nonzero =>
        obtain ⟨_, _, _, _, _, stored, rest, rfl, rfl⟩ := effects.three
        obtain ⟨_, _, _, _, _, user, dialed, rfl, rfl⟩ := rest.two
        cases stored
        cases user
        cases dialed with
        | dialedSip call ctx prm sipId created dialed =>
          have valid := returned.dialed id sipId (by simp)
          refine stays (by simp) (blank.step rfl ?_ (by simp)
            (fun leg has => absurd has (Context.bare id leg)) (by simp))
          intro name leg member
          simp at member
          rcases member with ⟨_, rfl⟩ | ⟨_, rfl⟩
          · exact ⟨nonzero, rfl⟩
          · exact ⟨proper valid, rfl⟩
        | refusedSip call ctx prm reason refused =>
          refine stays (by simp) (blank.step rfl ?_ (by simp)
            (fun leg has => absurd has (Context.bare id leg)) (by simp))
          intro name leg member
          simp at member
          obtain ⟨_, rfl⟩ := member
          exact ⟨nonzero, rfl⟩
    | refuse call incoming pending uri =>
      obtain ⟨_, _, _, _, _, stored, cleaned, rfl, rfl⟩ := effects.two
      cases stored
      cases cleaned with
      | cleanUp ctx controller ended same =>
        refine .cleaned _ [_, _] rfl (by simp [Obs.ends]) (fun name leg member => ?_) fun member => ?_
        · simp [unknown] at member
          obtain ⟨_, rfl⟩ := member
          cases offer with
          | call call nonzero => simp [StateMachine.Event.reports, pending, nonzero]
        · simp [unstarted] at member
    | strayUpdate | strayState | strayMedia =>
      obtain ⟨_, cleaned, rfl⟩ := effects.one
      cases cleaned
      exact stray _
    | accept sipId ext =>
      cases offer with
      | sip event valid =>
        obtain ⟨_, _, _, _, _, stored, accepted, rfl, rfl⟩ := effects.two
        cases stored
        have first : Recorded (past ++ [.action id .storeSipId, .associated id .storeSipId (.sip sipId),
            .action id .acceptIncomingSip]) { id, sipCallId := sipId } := by
          refine blank.step rfl ?_ (by simp) (fun leg has => absurd has (Context.bare id leg)) (by simp)
          intro name leg member
          simp at member
          obtain ⟨_, rfl⟩ := member
          exact ⟨proper valid, rfl⟩
        refine stays (by simp) ?_
        simpa [Action.name] using first.keeps (accepted.keeps rfl)
    | dtmf control waiting => cases offer
    | tgEnded control inside => cases inside
    | sipEnded control inside => cases inside
    | failed control inside => cases inside

theorem Handles.accounted (handles : Handles settings env offered control ctx target final errors deeds)
    (agrees : Agrees waiting ⟨control, ctx⟩) (offer : Offer control ctx offered) (returned : ReturnedIds deeds)
    (recorded : Recorded past ctx) : Accounted offered past deeds ctx.id target final := by
  have stays : ∀ {reached : Control}, reached ≠ .X → Recorded (past ++ deeds) final →
      Accounted offered past deeds ctx.id reached final :=
    fun composite recorded => ⟨fun _ => recorded, fun gone => absurd gone composite, fun gone => absurd gone composite⟩
  cases handles with
  | dropped ignored =>
    refine stays ?_ (by simpa using recorded)
    rintro rfl
    exact agrees.elim
  | taken transition effects =>
    cases transition with
    | dial | refuse | strayUpdate | accept | strayState | strayMedia => exact agrees.elim
    | answer | bridge | connect | media =>
      exact stays (by simp) (recorded.keeps (effects.keeps (by simp [Action.harmless])))
    | dtmf control waiting message digits =>
      refine stays ?_ (recorded.keeps (effects.keeps (by simp [Action.harmless])))
      rintro rfl
      cases waiting
    | dialTg id =>
      obtain ⟨free, _, _⟩ := agrees
      obtain ⟨_, dialed, rfl⟩ := effects.one
      cases dialed with
      | dialedTg ctx lookups user made dials created =>
        have nonzero := returned.created ctx.id made (by simp)
        refine stays (by simp) (recorded.step rfl ?_ (by simp) ?_ fun present => present)
        · intro name leg member
          simp at member
          obtain ⟨_, rfl⟩ := member
          exact ⟨nonzero, rfl⟩
        · rintro (held | held) has
          · exact absurd (has.2.symm.trans free) has.1
          · exact has
      | undialedTg ctx lookups user prm dials =>
        exact stays (by simp) (recorded.step rfl (by simp) (by simp) (fun leg has => by cases leg <;> exact has)
          fun present => present)
    | tgEnded control inside call ended =>
      obtain ⟨_, _, _, _, _, cleared, cleaned, rfl, rfl⟩ := effects.two
      cases cleared
      cases cleaned with
      | cleanUp ctx controller hung same =>
        refine .cleaned _ [_] rfl (by simp [Obs.ends]) (fun name leg member => ?_) fun member => ?_
        · have has := recorded.legs name leg (by simpa using member)
          cases offer with
          | call call own nonzero =>
            cases leg with
            | tg held => simp [StateMachine.Event.reports, ended, ← has.2, own, Ne.symm nonzero]
            | sip held => simpa [StateMachine.Event.reports] using has
        · exact recorded.controller (by simpa using member)
    | sipEnded control inside id =>
      obtain ⟨_, _, _, _, _, cleared, cleaned, rfl, rfl⟩ := effects.two
      cases cleared
      cases cleaned with
      | cleanUp ctx controller hung same =>
        refine .cleaned _ [_] rfl (by simp [Obs.ends]) (fun name leg member => ?_) fun member => ?_
        · have has := recorded.legs name leg (by simpa using member)
          cases offer with
          | sip event own valid =>
            cases leg with
            | tg held => simpa [StateMachine.Event.reports] using has
            | sip held =>
              have other := Ne.symm (proper valid)
              simp [StateMachine.Event.reports, ← has.2, own, Sip.Event.id] at other ⊢
              exact fun _ => other
        · exact recorded.controller (by simpa using member)
    | failed control inside prm =>
      obtain ⟨_, _, _, _, _, stored, cleaned, rfl, rfl⟩ := effects.two
      cases stored
      cases cleaned with
      | cleanUp ctx controller hung same =>
        refine .cleaned _ [_] rfl (by simp [Obs.ends]) (fun name leg member => ?_) fun member => ?_
        · have has := recorded.legs name leg (by simpa using member)
          have stays : Context.Has { ctx with hangupPrm := prm } leg := by cases leg <;> exact has
          simp [StateMachine.Event.reports, stays]
        · exact recorded.controller (by simpa using member)

end Ends
def GatewayEvent.reports (leg : Leg) : GatewayEvent → Bool
  | .update (.call call) => (StateMachine.Event.updateCall call).reports leg
  | .sip event => (StateMachine.Event.sip event).reports leg
  | _ => false

theorem Gateway.Routed.reports {gateway : Gateway} {event : GatewayEvent} {slot : Slot} {counter : Nat}
    {offered : StateMachine.Event} (routed : Gateway.Routed gateway event slot counter offered) (leg : Leg) :
    event.reports leg = offered.reports leg := by
  cases routed <;> rfl

section Deeds
variable {past seen : List Obs}

/-- Only deeds are entered. -/
private theorem mem_deeds {obs : Obs} (deed : obs.deed = true) :
    obs ∈ past ++ seen ↔ obs ∈ past ++ seen.filter Obs.deed := by
  simp [deed]

theorem Recorded.deeds {ctx : Context} (recorded : Recorded (past ++ seen.filter Obs.deed) ctx) :
    Recorded (past ++ seen) ctx :=
  ⟨fun name leg member => recorded.legs name leg ((mem_deeds rfl).mp member),
    fun member => recorded.controller ((mem_deeds rfl).mp member)⟩

/-- What others do is not recorded. -/
theorem Recorded.foreign {ctx : Context} {deeds : List Obs} (recorded : Recorded past ctx)
    (foreign : ∀ obs ∈ deeds, obs.by ≠ some ctx.id) : Recorded (past ++ deeds) ctx := by
  constructor
  · intro name leg member
    rcases List.mem_append.mp member with old | new
    · exact recorded.legs name leg old
    · exact absurd rfl (foreign _ new)
  · intro member
    rcases List.mem_append.mp member with old | new
    · exact recorded.controller old
    · exact absurd rfl (foreign _ new)

end Deeds

namespace System
variable {settings : Settings} {label : Label} {before after : System} {past seen : List Obs}

/-- All that was associated with the bridges, by contexts that were numbered. -/
structure Ledger (past : List Obs) (system : System) : Prop where
  agreed : Agreed system
  recorded : ∀ bridge ∈ system.gateway.bridges, Recorded past bridge.ctx
  bounded : ∀ obs ∈ past, obs.deed = true → ∀ ctx, obs.by = some ctx → ctx ≤ system.gateway.ctxCounter

theorem Ledger.initial (cache : Cache) (maxCalls : Nat) : Ledger [] (initial cache maxCalls) :=
  ⟨.initial cache maxCalls, fun bridge member => (by cases member), fun obs member => (by cases member)⟩

theorem countP_deeds (leg : Leg) : seen.countP (Obs.ends leg) = (seen.filter Obs.deed).countP (Obs.ends leg) := by
  rw [List.countP_filter]
  refine List.countP_congr fun obs _ => ?_
  cases obs <;> simp [Obs.ends, Obs.deed]

/-- A bridge that is served in a step, in the light of what was known of it. -/
private theorem Ledger.accounted {env : Env} {event : GatewayEvent} {caller : Option Sip.CallRef}
    {middle : System} {slot : Slot} {counter : Nat} {offered : StateMachine.Event} {control : Control}
    {ctx : Context} {errors : List InternalEvent} (ledger : Ledger past before)
    (popped : Popped before event caller middle)
    (routed : Gateway.Routed before.gateway event slot counter offered)
    (handles : Handles settings env offered slot.bridge.control slot.bridge.ctx control ctx errors
      (seen.filter Obs.deed))
    (returned : ReturnedIds (seen.filter Obs.deed)) :
    Accounted offered past (seen.filter Obs.deed) slot.bridge.ctx.id control ctx := by
  rcases ledger.agreed.offers popped routed with ⟨held, offer⟩ | ⟨rfl, offer⟩
  · exact handles.accounted (ledger.agreed.agrees _ held) offer returned (ledger.recorded _ held)
  · have new : ∀ obs ∈ past, obs.deed = true → obs.by ≠ some (before.gateway.ctxCounter + 1) := by
      intro obs member deed author
      exact absurd (ledger.bounded obs member deed _ author) (Nat.not_succ_le_self _)
    exact Handles.accounted_fresh handles offer returned (fun name leg member => new _ member rfl rfl)
      fun member => new _ member rfl rfl

theorem Ledger.step (ledger : Ledger past before) (step : Step settings label before seen after)
    (tdlib : TdlibIds label before seen) : Ledger (past ++ seen) after := by
  have agreed := ledger.agreed.step step tdlib
  have returned := step.returned tdlib
  cases step_worked step ledger.agreed.numbered with
  | idle bridges counter quiet =>
    refine ⟨agreed, fun bridge member => ?_, fun obs member deed ctx author => ?_⟩
    · rw [bridges] at member
      refine Recorded.deeds ?_
      rw [quiet]
      exact (ledger.recorded bridge member).foreign (by simp)
    · rw [counter]
      exact ledger.bounded obs ((deed_mem_idle quiet deed).mp member) deed ctx author
  | @served env event caller middle slot counter offered control ctx errors looped popped route routed handles
      counted members =>
    have own := handles.own
    have accounted := ledger.accounted popped routed handles returned
    refine ⟨agreed, ?_, ?_⟩
    · intro bridge member
      refine Recorded.deeds ?_
      rcases (members bridge).mp member with ⟨old, other⟩ | ⟨rfl, here⟩
      · refine (ledger.recorded bridge old).foreign fun obs shown author => ?_
        exact other (own.author shown author)
      · exact accounted.kept (ledger.agreed.stays popped routed handles here)
    · rw [counted]
      intro obs member deed author byAuthor
      rcases List.mem_append.mp member with old | new
      · exact Nat.le_trans (ledger.bounded obs old deed author byAuthor) routed.grows
      · rw [own.author (List.mem_filter.mpr ⟨new, deed⟩) byAuthor]
        exact (routed.numbered ledger.agreed.numbered).2 _ slot.bridge_mem

theorem Ledger.run {cache : Cache} {maxCalls : Nat} {system : System}
    (run : Reaches settings TdlibIds (System.initial cache maxCalls) past system) : Ledger past system :=
  Run.invariant Ledger run (Ledger.initial cache maxCalls) fun _ _ _ _ ledger moved => by
    obtain ⟨label, tdlib, step⟩ := moved
    exact ledger.step step tdlib

end System
end Tg2Sip
