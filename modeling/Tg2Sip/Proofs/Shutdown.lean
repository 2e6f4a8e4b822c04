import Tg2Sip.Proofs.Containment
import Tg2Sip.Proofs.Legs

/-! What is left when `Gateway::start` returns. Each context either still has its bridge, and its calls are as they
were, or it was cleaned up when the bridge was removed. -/

namespace Tg2Sip
open TdApi Lib StateMachine

/-- A leg that a context counts as a call. -/
def Leg.Real : Leg → Prop
  | .tg id => id ≠ 0
  | .sip id => id ≠ Sip.invalidId

/-- The action that runs when the end of a leg was reported. -/
def Leg.cleaner : Leg → ActionName
  | .tg _ => .cleanTgId
  | .sip _ => .cleanSipId

/-- A context gave up a leg that had ended, or asked for its end. -/
def Released (past : List Obs) (ctx : CtxId) (leg : Leg) : Prop :=
  .action ctx leg.cleaner ∈ past ∨ ∃ obs ∈ past, obs.by = some ctx ∧ obs.ends leg = true

/-- A context has what was associated with it and not released yet. -/
structure Accounts (past : List Obs) (ctx : Context) : Prop where
  legs : ∀ name leg, .associated ctx.id name leg ∈ past → leg.Real → ctx.Has leg ∨ Released past ctx.id leg
  controller : .started ctx.id ∈ past → ctx.controller.isSome = true

/-- `CleanUp` ran, and nothing was left of what was associated with a context. -/
structure CleanedUp (past : List Obs) (ctx : CtxId) : Prop where
  acted : .action ctx .cleanUp ∈ past
  legs : ∀ name leg, .associated ctx name leg ∈ past → leg.Real → Released past ctx leg
  controller : .started ctx ∈ past → .stopped ctx ∈ past

/-- An action that stores a leg finds none of its kind. -/
def Action.Free (ctx : Context) : Action → Prop
  | .storeTgId _ | .dialTg => ctx.tgCallId = 0
  | .storeSipId _ | .dialSip _ => ctx.sipCallId = Sip.invalidId
  | _ => True

section Past
variable {past later : List Obs} {ctx : Context} {number : CtxId} {leg : Leg}

theorem Released.mono (released : Released past number leg) (subset : past ⊆ later) : Released later number leg := by
  rcases released with cleared | ⟨obs, member, ended⟩
  · exact .inl (subset cleared)
  · exact .inr ⟨obs, subset member, ended⟩

/-- What others do, and what is no deed, is not accounted for. -/
theorem Accounts.widen (accounts : Accounts past ctx) (subset : past ⊆ later)
    (own : ∀ obs ∈ later, obs.deed = true → obs.by = some ctx.id → obs ∈ past) : Accounts later ctx := by
  constructor
  · intro name leg member real
    have has := accounts.legs name leg (own _ member rfl rfl) real
    exact has.imp_right fun released => released.mono subset
  · intro member
    exact accounts.controller (own _ member rfl rfl)

theorem CleanedUp.widen (cleaned : CleanedUp past number) (subset : past ⊆ later)
    (own : ∀ obs ∈ later, obs.deed = true → obs.by = some number → obs ∈ past) : CleanedUp later number := by
  constructor
  · exact subset cleaned.acted
  · intro name leg member real
    exact (cleaned.legs name leg (own _ member rfl rfl) real).mono subset
  · intro member
    exact subset (cleaned.controller (own _ member rfl rfl))

end Past

section Effects
variable {settings : Settings} {env : Env} {ctx final : Context} {errors : List InternalEvent} {past deeds : List Obs}

/-- What a step does is accounted for if it keeps what there was and has what is new. -/
theorem Accounts.step (accounts : Accounts past ctx) (number : final.id = ctx.id)
    (legs : ∀ name leg, .associated ctx.id name leg ∈ deeds → leg.Real → final.Has leg)
    (started : .started ctx.id ∈ deeds → final.controller.isSome = true)
    (keeps : ∀ leg, ctx.Has leg → final.Has leg ∨ Released deeds ctx.id leg)
    (keepsController : ctx.controller.isSome = true → final.controller.isSome = true) :
    Accounts (past ++ deeds) final := by
  constructor
  · intro name leg member real
    rw [number] at member ⊢
    rcases List.mem_append.mp member with old | new
    · rcases accounts.legs name leg old real with has | released
      · exact (keeps leg has).imp_right fun released => released.mono (List.subset_append_right _ _)
      · exact .inr (released.mono (List.subset_append_left _ _))
    · exact .inl (legs name leg new real)
  · intro member
    rw [number] at member
    rcases List.mem_append.mp member with old | new
    · exact keepsController (accounts.controller old)
    · exact started new

theorem Accounts.keeps (accounts : Accounts past ctx) (keeps : Keeps ctx final deeds) :
    Accounts (past ++ deeds) final :=
  accounts.step keeps.number (fun name leg member => absurd member (keeps.unassociated _ name leg)) (keeps.started _)
    (fun leg has => .inl ((keeps.has leg).mpr has)) keeps.controller

theorem Keeps.acted (keeps : Keeps ctx final deeds) (name : ActionName) :
    Keeps ctx final (.action ctx.id name :: deeds) :=
  ⟨keeps.number, keeps.tg, keeps.sip, keeps.controller,
    fun number name leg member => keeps.unassociated number name leg (by simpa using member),
    fun number member => keeps.started number (by simpa using member)⟩

/-- A leg is stored beside what there is. -/
theorem Accounts.stored (accounts : Accounts past ctx) (leg : Leg) (number : final.id = ctx.id)
    (stores : (leg.Real → final.Has leg) ∧ ∀ other, ctx.Has other → final.Has other)
    (controller : final.controller = ctx.controller)
    (shown : ∀ name other, .associated ctx.id name other ∈ deeds → other = leg)
    (unstarted : .started ctx.id ∉ deeds) :
    Accounts (past ++ deeds) final := by
  apply accounts.step number
  · intro name other member real
    cases shown name other member
    exact stores.1 real
  · intro started
    exact absurd started unstarted
  · intro other held
    exact .inl (stores.2 other held)
  · rw [controller]
    exact id

/-- A leg of one kind can be stored while there is none of its kind. -/
private theorem store_tg {id : TgCallId} (free : ctx.tgCallId = 0) (tg : final.tgCallId = id)
    (sip : final.sipCallId = ctx.sipCallId) :
    ((Leg.tg id).Real → final.Has (.tg id)) ∧ ∀ leg, ctx.Has leg → final.Has leg := by
  refine ⟨fun real => ⟨real, tg⟩, fun leg has => ?_⟩
  cases leg with
  | tg held => exact absurd (has.2.symm.trans free) has.1
  | sip held => exact ⟨has.1, sip.trans has.2⟩

private theorem store_sip {id : Sip.CallId} (free : ctx.sipCallId = Sip.invalidId) (sip : final.sipCallId = id)
    (tg : final.tgCallId = ctx.tgCallId) :
    ((Leg.sip id).Real → final.Has (.sip id)) ∧ ∀ leg, ctx.Has leg → final.Has leg := by
  refine ⟨fun real => ⟨real, sip⟩, fun leg has => ?_⟩
  cases leg with
  | tg held => exact ⟨has.1, tg.trans has.2⟩
  | sip held => exact absurd (has.2.symm.trans free) has.1

/-- Every action but `CleanUp` accounts for what it does. -/
theorem Accounts.effect {action : Action} (accounts : Accounts past ctx)
    (effect : Effect settings env action ctx final errors deeds) (other : action ≠ .cleanUp)
    (free : action.Free ctx) : Accounts (past ++ .action ctx.id action.name :: deeds) final := by
  by_cases harmless : action.harmless = true
  · exact accounts.keeps ((effect.keeps harmless).acted _)
  cases effect with
  | storeTgId call => exact accounts.stored (.tg call.id) rfl (store_tg free rfl rfl) rfl (by simp) (by simp)
  | dialedTg ctx lookups user made dials created =>
    exact accounts.stored (.tg made) rfl (store_tg free rfl rfl) rfl (by simp) (by simp)
  | storeSipId sipId => exact accounts.stored (.sip sipId) rfl (store_sip free rfl rfl) rfl (by simp) (by simp)
  | dialedSip call ctx prm sipId created dialed =>
    exact accounts.stored (.sip sipId) rfl (store_sip free rfl rfl) rfl (by simp) (by simp)
  | undialedTg ctx lookups user prm dials =>
    exact accounts.step rfl (by simp) (by simp) (fun leg has => by cases leg <;> exact .inl has) id
  | refusedSip => exact accounts.step rfl (by simp) (by simp) (fun leg has => .inl has) id
  | cleanTgId =>
    refine accounts.step rfl (by simp) (by simp) (fun leg has => ?_) id
    cases leg with
    | tg held => exact .inr (.inl (.head _))
    | sip held => exact .inl has
  | cleanSipId =>
    refine accounts.step rfl (by simp) (by simp) (fun leg has => ?_) id
    cases leg with
    | tg held => exact .inl has
    | sip held => exact .inr (.inl (.head _))
  | cleanUp => exact absurd rfl other
  | _ => exact absurd rfl harmless

/-- `CleanUp` leaves nothing. -/
theorem Accounts.cleanUp (accounts : Accounts past ctx) (effect : Effect settings env .cleanUp ctx final errors deeds) :
    CleanedUp (past ++ .action ctx.id .cleanUp :: deeds) ctx.id := by
  have own := effect.own.deeds
  cases effect with
  | cleanUp ctx controller ended same =>
    constructor
    · simp
    · intro name leg member real
      have old : .associated ctx.id name leg ∈ past := by
        rcases List.mem_append.mp member with old | new
        · exact old
        · cases new with
          | tail _ new => exact absurd rfl ((Effect.cleanUp_silent new).1 _ _ _)
      rcases accounts.legs name leg old real with has | released
      · have once := Effect.cleanUp_ends env ctx ended leg
        have positive :
            0 < (Effect.stops ctx ++ Effect.discards env ctx ++ Effect.hangups ctx ended).countP (Obs.ends leg) := by
          rw [once, if_pos has]
          exact Nat.one_pos
        obtain ⟨obs, shown, ends⟩ := List.countP_pos_iff.mp positive
        exact .inr ⟨obs, List.mem_append_right _ (List.mem_cons_of_mem _ shown), own obs shown, ends⟩
      · exact released.mono (List.subset_append_left _ _)
    · intro member
      have old : .started ctx.id ∈ past := by
        rcases List.mem_append.mp member with old | new
        · exact old
        · cases new with
          | tail _ new => exact absurd rfl ((Effect.cleanUp_silent new).2 _)
      have stopped := Effect.cleanUp_stops env (accounts.controller old) ended
      exact List.mem_append_right _ (List.mem_cons_of_mem _ stopped)

/-- The last action of a transition to X. -/
theorem Accounts.cleaned {opening : Action} (accounts : Accounts past ctx)
    (effects : Effects settings env [opening, .cleanUp] ctx final errors deeds) (other : opening ≠ .cleanUp)
    (free : opening.Free ctx) : CleanedUp (past ++ deeds) ctx.id := by
  obtain ⟨middle, _, _, shown, next, opened, cleaned, rfl, rfl⟩ := effects.two
  have after := (accounts.effect opened other free).cleanUp cleaned
  rw [opened.own.id, List.append_assoc] at after
  rw [opened.own.id]
  exact after

theorem Effects.acts {actions : List Action} {number : CtxId} {name : ActionName}
    (effects : Effects settings env actions ctx final errors deeds) (acted : .action number name ∈ deeds) :
    ∃ action ∈ actions, action.name = name := by
  rcases effects.deed acted with ⟨_, action, member, same⟩ | ⟨action, member, _, _, _, _, effect, shown, _⟩
  · cases same
    exact ⟨action, member, rfl⟩
  · exact absurd shown effect.no_action

variable {control target : Control} {offered : StateMachine.Event}

/-- What is known of a context when its machine is offered an event: a new one has nothing, and the one that waits for
the confirmation of its SIP leg has no other leg. -/
structure Opened (past : List Obs) (control : Control) (ctx : Context) : Prop where
  accounts : Accounts past ctx
  inside : control ≠ .X
  bare : control = .init → ctx.tgCallId = 0 ∧ ctx.sipCallId = Sip.invalidId
  undialed : control = .fromSip .sipWaitConfirm → ctx.tgCallId = 0

/-- A machine that goes to X has cleaned up. -/
theorem Opened.cleaned (opened : Opened past control ctx)
    (handles : Handles settings env offered control ctx .X final errors deeds) : CleanedUp (past ++ deeds) ctx.id := by
  have accounts := opened.accounts
  cases handles with
  | dropped ignored => exact absurd rfl opened.inside
  | taken transition effects =>
    cases transition with
    | refuse call incoming pending uri => exact accounts.cleaned effects (by simp) (opened.bare rfl).1
    | strayUpdate | strayState | strayMedia =>
      obtain ⟨_, cleaned, rfl⟩ := effects.one
      exact accounts.cleanUp cleaned
    | dtmf control waiting message digits => cases waiting
    | tgEnded | sipEnded | failed => exact accounts.cleaned effects (by simp) trivial

/-- A machine that stays accounts for what it did. -/
theorem Opened.kept (opened : Opened past control ctx)
    (handles : Handles settings env offered control ctx target final errors deeds) (stays : target ≠ .X) :
    Accounts (past ++ deeds) final := by
  have accounts := opened.accounts
  cases handles with
  | dropped ignored => simpa using accounts
  | taken transition effects =>
    cases transition with
    | dial call incoming pending uri =>
      obtain ⟨tg, sip⟩ := opened.bare rfl
      obtain ⟨_, _, _, _, _, stored, rest, rfl, rfl⟩ := effects.three
      obtain ⟨middle, _, _, _, _, user, dialed, rfl, rfl⟩ := rest.two
      have first := accounts.effect stored (by simp) tg
      have second := first.effect user (by simp) trivial
      have free : (Action.dialSip call).Free middle := by
        cases stored
        cases user
        exact sip
      simpa [List.append_assoc] using second.effect dialed (by simp) free
    | accept sipId ext =>
      obtain ⟨_, _, _, _, _, stored, accepted, rfl, rfl⟩ := effects.two
      have first := accounts.effect stored (by simp) (opened.bare rfl).2
      simpa [List.append_assoc] using first.effect accepted (by simp) trivial
    | dialTg id =>
      obtain ⟨_, dialed, rfl⟩ := effects.one
      exact accounts.effect dialed (by simp) (opened.undialed rfl)
    | answer | bridge | connect | media | dtmf => exact accounts.keeps (effects.keeps (by simp [Action.harmless]))
    | refuse | strayUpdate | strayState | strayMedia | tgEnded | sipEnded | failed => exact absurd rfl stays

/-- The machine ends where it cleans up. -/
theorem StateMachine.Transition.cleans {actions : List Action}
    (transition : Transition settings control offered actions target) (member : .cleanUp ∈ actions) :
    target = .X := by
  cases transition with
  | refuse | strayUpdate | strayState | strayMedia | tgEnded | sipEnded | failed => rfl
  | _ => simp at member

theorem Handles.unclean (handles : Handles settings env offered control ctx target final errors deeds)
    (stays : target ≠ .X) (number : CtxId) : .action number .cleanUp ∉ deeds := by
  cases handles with
  | dropped ignored => simp
  | taken transition effects =>
    intro acted
    obtain ⟨action, member, same⟩ := effects.acts acted
    have cleaning : action = .cleanUp := by
      cases action with
      | cleanUp => rfl
      | _ => cases same
    exact stays (transition.cleans (cleaning ▸ member))

end Effects

namespace System
variable {settings : Settings} {label : Label} {before after system : System} {past seen : List Obs} {ctx : CtxId}

/-- A machine that waits for the confirmation of its SIP leg has no other leg. -/
theorem undialed_rule (settings : Settings) : BridgeRule settings fun control ctx =>
    control.composite = true ∧ (control = .fromSip .sipWaitConfirm → ctx.tgCallId = 0) where
  present := by simp [Control.composite]
  fresh := by
    intro env offered id target final errors deeds handles searched
    cases handles with
    | dropped ignored => exact absurd ignored (init_takes searched)
    | taken transition effects =>
      cases transition with
      | refuse | strayUpdate | strayState | strayMedia => exact .inl rfl
      | dial => exact .inr ⟨rfl, by simp⟩
      | accept sipId ext =>
        obtain ⟨_, _, _, _, _, stored, accepted, rfl, rfl⟩ := effects.two
        cases stored
        exact .inr ⟨rfl, fun _ => (accepted.keeps rfl).tg⟩
      | dtmf control waiting => cases waiting
      | tgEnded control inside | sipEnded control inside | failed control inside => cases inside
  next := by
    intro env offered control ctx target final errors deeds kept handles
    cases handles with
    | dropped ignored => exact .inr kept
    | taken transition effects =>
      cases transition with
      | refuse | strayUpdate | strayState | strayMedia | tgEnded | sipEnded | failed => exact .inl rfl
      | accept => cases kept.1
      | dtmf control waiting message digits =>
        have keeps := effects.keeps (by simp [Action.harmless])
        exact .inr ⟨kept.1, fun here => keeps.tg.trans (kept.2 here)⟩
      | _ => exact .inr ⟨rfl, by simp⟩

/-- Every context that was numbered has its bridge and accounts for what it did, or it was cleaned up. -/
structure Books (past : List Obs) (system : System) : Prop where
  held : ∀ bridge ∈ system.gateway.bridges, Accounts past bridge.ctx ∧ .action bridge.ctx.id .cleanUp ∉ past
  closed : ∀ ctx, 0 < ctx → ctx ≤ system.gateway.ctxCounter → (∀ bridge ∈ system.gateway.bridges, bridge.ctx.id ≠ ctx) →
    CleanedUp past ctx
  bounded : ∀ obs ∈ past, obs.deed = true → ∀ ctx, obs.by = some ctx → ctx ≤ system.gateway.ctxCounter

/-- What is known of the context of a slot. -/
theorem Books.opened {event : GatewayEvent} {slot : Slot} {counter : Nat} {offered : StateMachine.Event}
    (books : Books past before)
    (waiting : ∀ bridge ∈ before.gateway.bridges, bridge.control.composite = true ∧
      (bridge.control = .fromSip .sipWaitConfirm → bridge.ctx.tgCallId = 0))
    (routed : Gateway.Routed before.gateway event slot counter offered) :
    Opened past slot.bridge.control slot.bridge.ctx ∧ .action slot.bridge.ctx.id .cleanUp ∉ past := by
  rcases routed.origin with ⟨found, rfl⟩ | ⟨rfl, rfl⟩
  · have held : slot.bridge ∈ before.gateway.bridges := Slot.within found
    obtain ⟨accounts, unclean⟩ := books.held _ held
    obtain ⟨inside, undialed⟩ := waiting _ held
    refine ⟨⟨accounts, ?_, ?_, undialed⟩, unclean⟩
    · intro gone
      rw [gone] at inside
      cases inside
    · intro first
      rw [first] at inside
      cases inside
  · have unknown : ∀ obs ∈ past, obs.deed = true → obs.by ≠ some (before.gateway.ctxCounter + 1) := by
      intro obs member deed author
      exact absurd (books.bounded obs member deed _ author) (Nat.not_succ_le_self _)
    refine ⟨⟨⟨?_, ?_⟩, by simp [Gateway.freshSlot], fun _ => ⟨rfl, rfl⟩, fun _ => rfl⟩,
      fun acted => unknown _ acted rfl rfl⟩
    · intro name leg member
      exact absurd rfl (unknown _ member rfl)
    · intro member
      exact absurd rfl (unknown _ member rfl)

theorem Books.initial (cache : Cache) (maxCalls : Nat) : Books [] (initial cache maxCalls) := by
  refine ⟨fun bridge member => (by cases member), fun ctx positive bounded => ?_, fun obs member => (by cases member)⟩
  exact absurd bounded (Nat.not_le_of_lt positive)

/-- The books stay as they are while nothing is done. -/
theorem Books.idle (books : Books past before) (bridges : after.gateway.bridges = before.gateway.bridges)
    (counter : after.gateway.ctxCounter = before.gateway.ctxCounter) (quiet : seen.filter Obs.deed = []) :
    Books (past ++ seen) after := by
  refine ⟨?_, ?_, ?_⟩
  · rw [bridges]
    intro bridge member
    obtain ⟨accounts, unclean⟩ := books.held bridge member
    exact ⟨accounts.widen (List.subset_append_left _ _) fun obs shown deed _ => (deed_mem_idle quiet deed).mp shown,
      fun acted => unclean ((deed_mem_idle quiet rfl).mp acted)⟩
  · rw [bridges, counter]
    intro ctx positive bounded removed
    exact (books.closed ctx positive bounded removed).widen (List.subset_append_left _ _) fun obs shown deed _ =>
      (deed_mem_idle quiet deed).mp shown
  · rw [counter]
    intro obs member deed
    exact books.bounded obs ((deed_mem_idle quiet deed).mp member) deed

theorem Books.step (books : Books past before) (numbered : before.gateway.WellNumbered)
    (waiting : ∀ bridge ∈ before.gateway.bridges, bridge.control.composite = true ∧
      (bridge.control = .fromSip .sipWaitConfirm → bridge.ctx.tgCallId = 0))
    (inside : ∀ bridge ∈ after.gateway.bridges, bridge.control.composite = true)
    (step : Step settings label before seen after) : Books (past ++ seen) after := by
  cases step_worked step numbered with
  | idle bridges counter quiet => exact books.idle bridges counter quiet
  | @served env event caller middle slot counter offered control final errors looped popped route routed handles
      counted members =>
    obtain ⟨opened, unclean⟩ := books.opened waiting routed
    have own := handles.own
    have deeds : past ++ seen.filter Obs.deed ⊆ past ++ seen := (List.filter_sublist.append_left past).subset
    have done : ∀ obs ∈ past ++ seen, obs.deed = true → obs ∈ past ++ seen.filter Obs.deed :=
      fun obs member deed => (deed_mem_filter deed).mpr member
    have foreign : ∀ {number}, number ≠ slot.bridge.ctx.id → ∀ obs ∈ past ++ seen, obs.deed = true →
        obs.by = some number → obs ∈ past :=
      fun other obs member deed author => own.foreign other member deed author
    refine ⟨?_, ?_, ?_⟩
    · intro bridge member
      have composite := inside bridge member
      rcases (members bridge).mp member with ⟨old, other⟩ | ⟨rfl, _⟩
      · obtain ⟨accounts, unclean⟩ := books.held bridge old
        exact ⟨accounts.widen (List.subset_append_left _ _) (foreign other),
          fun acted => unclean (foreign other _ acted rfl rfl)⟩
      · have stays : control ≠ .X := by
          rintro rfl
          cases composite
        have same := own.id
        refine ⟨(opened.kept handles stays).widen deeds fun obs member deed _ => done obs member deed, fun acted => ?_⟩
        rw [same] at acted
        rcases List.mem_append.mp (done _ acted rfl) with old | new
        · exact unclean old
        · exact handles.unclean stays _ new
    · rw [counted]
      intro number positive bounded removed
      by_cases same : number = slot.bridge.ctx.id
      · subst same
        have gone : control = .X := by
          by_contra stays
          exact removed ⟨control, final⟩ ((members _).mpr (.inr ⟨rfl, fun erased => stays erased.2⟩)) own.id
        subst gone
        exact (opened.cleaned handles).widen deeds fun obs member deed _ => done obs member deed
      · have older := routed.older bounded same
        refine (books.closed number positive older fun bridge member named => ?_).widen (List.subset_append_left _ _)
          (foreign same)
        exact removed bridge ((members bridge).mpr (.inl ⟨member, fun here => same (named.symm.trans here)⟩)) named
    · rw [counted]
      intro obs member deed number author
      rcases List.mem_append.mp (done obs member deed) with old | new
      · exact Nat.le_trans (books.bounded obs old deed number author) routed.grows
      · rw [own.author new author]
        exact (routed.numbered numbered).2 _ slot.bridge_mem

theorem Books.run {cache : Cache} {maxCalls : Nat}
    (reached : Reaches settings Anything (System.initial cache maxCalls) past system) :
    Books past system := by
  induction reached with
  | refl => exact .initial cache maxCalls
  | tail earlier last ih =>
    obtain ⟨label, anything, step⟩ := last
    obtain ⟨numbered, waiting⟩ := (undialed_rule settings).run earlier
    obtain ⟨_, inside⟩ := (undialed_rule settings).run (.tail earlier ⟨label, anything, step⟩)
    exact ih.step numbered waiting (fun bridge member => (inside bridge member).1) step

/-- What `main` calls a graceful shutdown: every bridge that ever was is cleaned up, and none is left. -/
structure Graceful (past : List Obs) (system : System) : Prop where
  cleaned : ∀ ctx, 0 < ctx → ctx ≤ system.gateway.ctxCounter → CleanedUp past ctx
  emptied : system.gateway.bridges = []

/-- When `Gateway::start` returns, everything was cleaned up if and only if no bridge existed when the loop saw
the flag. Any bridge that existed is left as it was. -/
theorem shutdown_is_graceful_iff {cache : Cache} {maxCalls : Nat}
    (reached : Reaches settings Anything (System.initial cache maxCalls) past before)
    (left : before.leave = some (after, seen)) :
    (Graceful (past ++ seen) after ↔ before.gateway.bridges = []) ∧
      ∀ bridge ∈ before.gateway.bridges, bridge ∈ after.gateway.bridges ∧ ¬ CleanedUp (past ++ seen) bridge.ctx.id := by
  have books := Books.run reached
  unfold leave at left
  split at left
  next returns =>
    cases left
    rw [List.append_nil]
    refine ⟨⟨fun graceful => graceful.emptied, fun emptied => ⟨fun ctx positive bounded => ?_, emptied⟩⟩,
      fun bridge member => ⟨member, ?_⟩⟩
    · exact books.closed ctx positive bounded (by simp [emptied])
    · exact fun cleaned => (books.held bridge member).2 cleaned.acted
  next => cases left

/-- A call of TDLib, a signal, and the turns up to the test of the flag. -/
private def interrupted : List Label :=
  [.tdlib (.call ⟨7, 42, false, .pending⟩), .loop (Env.success 42 7 0), .loop (Env.success 42 7 0), .signal,
    .loop (Env.success 42 7 0)]

private theorem interrupted_reaches {settings : Settings} {found : System × List Obs → Bool}
    (ran : (execute (System.step settings) (fun _ _ _ => true) interrupted (initial {} 1)).any found = true) :
    ∃ past before, Reaches settings Anything (initial {} 1) past before ∧ found (before, past) = true := by
  obtain ⟨before, past, reached, held⟩ := execute_any ran
  exact ⟨past, before, reached, held⟩

/-- A call that was refused leaves nothing to do. -/
theorem refused_call_leaves_gracefully : ∃ past before seen after,
    Reaches { callbackUri := "" } Anything (System.initial {} 1) past before ∧ before.leave = some (after, seen) ∧
      0 < before.gateway.ctxCounter ∧ Graceful (past ++ seen) after := by
  have ran : (execute (System.step { callbackUri := "" }) (fun _ _ _ => true) interrupted
      (initial {} 1)).any (fun reached =>
      decide (reached.1.turn = .internal ∧ reached.1.eFlag = true ∧ 0 < reached.1.gateway.ctxCounter ∧
          reached.1.gateway.bridges = [])) = true := by
    decide +kernel
  obtain ⟨past, before, reached, found⟩ := interrupted_reaches ran
  obtain ⟨turn, flag, numbered, emptied⟩ := of_decide_eq_true found
  have left : before.leave = some (before, []) := if_pos ⟨turn, flag⟩
  exact ⟨past, before, [], before, reached, left, numbered, (shutdown_is_graceful_iff reached left).1.mpr emptied⟩

/-- A call that rings when the signal comes is left alone. -/
theorem signal_abandons_a_call :
    ¬ ∀ (settings : Settings) (cache : Cache) (maxCalls : Nat) (past : List Obs) (before : System)
    (seen : List Obs) (after : System), Reaches settings Anything (System.initial cache maxCalls) past before →
      before.leave = some (after, seen) → Graceful (past ++ seen) after := by
  intro always
  have ran : (execute (System.step { callbackUri := "sip:100@pbx" }) (fun _ _ _ => true) interrupted
      (initial {} 1)).any (fun reached =>
      decide (reached.1.turn = .internal ∧ reached.1.eFlag = true ∧ reached.1.gateway.bridges ≠ [])) = true := by
    decide +kernel
  obtain ⟨past, before, reached, found⟩ := interrupted_reaches ran
  obtain ⟨turn, flag, kept⟩ := of_decide_eq_true found
  have graceful := always { callbackUri := "sip:100@pbx" } {} 1 past before _ _ reached (if_pos ⟨turn, flag⟩)
  exact kept graceful.emptied

end System
end Tg2Sip
