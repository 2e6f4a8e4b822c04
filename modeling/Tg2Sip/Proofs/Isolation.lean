import Tg2Sip.Proofs.Agreement
import Tg2Sip.Proofs.Dialing

/-! Bridges are isolated from each other. A handler works on the bridge that its event is addressed
to, or on a new one, and what it asks of TDLib and of the SIP client names only the ids of
that bridge. -/

namespace Tg2Sip
open TdApi Lib StateMachine

/-- The ids that a function of TDLib names are those of a context. -/
def TdApi.Function.carries (held : Context) : Function → Prop
  | .getUser user | .createCall user .. => user = held.userId
  | .acceptCall id _ | .sendCallSignalingData id _ => id = held.tgCallId
  | .discardCall id _ _ _ _ connection => id = held.tgCallId ∧ connection = held.tgCallId
  | .importContacts phone _ => phone = held.extPhone
  | .searchPublicChat username => username = held.extUsername

def SipRequest.carries (held : Context) : SipRequest → Prop
  | .answer id _ | .hangup id _ | .bridgeAudio id | .dialDtmf id _ => id = held.sipCallId
  | .dial _ prm => ∀ header ∈ prm.headers, (header.name = "X-TG-ID" → header.value = toString held.userId) ∧
      (header.name = "X-GW-Context" → ∃ pid : Nat, header.value = toString pid ++ "-" ++ toString held.id)

/-- A request is made for a context and names its ids. -/
def Obs.carries (held : Context) : Obs → Prop
  | .query ctx _ function _ | .forwarded ctx function => ctx = held.id ∧ function.carries held
  | .sip ctx _ request _ => ctx = held.id ∧ request.carries held
  | .updateSignaling ctx _ => ctx = held.id
  | _ => True

section Requests
variable {settings : Settings} {env : Env} {ctx held final : Context} {errors : List InternalEvent} {deeds : List Obs}

/-- What a clean-up asks for is about the legs that are left. -/
theorem Effect.cleanUp_carries {middle : Context}
    (effect : Effect settings env .cleanUp middle final errors deeds) (ctx : Context)
    (same : middle.id = ctx.id) (tg : middle.tgCallId = ctx.tgCallId ∨ middle.tgCallId = 0)
    (sip : middle.sipCallId = ctx.sipCallId ∨ middle.sipCallId = Sip.invalidId) :
    ∀ obs ∈ deeds, obs.carries ctx := by
  cases effect with
  | cleanUp middle controller ended present =>
    intro obs member
    simp only [stops, discards, hangups, List.mem_append] at member
    rcases member with (member | member) | member <;> split at member <;>
      simp only [List.mem_singleton, List.not_mem_nil] at member <;> subst member
    · trivial
    next held =>
      have left := tg.resolve_right held
      exact ⟨same, left, left⟩
    next held => exact ⟨same, sip.resolve_right held⟩

theorem Effect.carries {action : Action} (effect : Effect settings env action ctx final errors deeds)
    (searching : action ≠ .dialTg) (dialing : ∀ call, action ≠ .dialSip call) : ∀ obs ∈ deeds, obs.carries ctx := by
  cases effect with
  | cleanUp ctx controller ended same =>
    have effect : Effect settings env .cleanUp ctx _ _ _ := .cleanUp ctx controller ended same
    exact effect.cleanUp_carries _ rfl (.inl rfl) (.inl rfl)
  | dialedSip call | refusedSip call => exact absurd rfl (dialing call)
  | dialedTg | undialedTg => exact absurd rfl searching
  | _ => simp [Obs.carries, Function.carries, SipRequest.carries]

/-- Machines do not pass signaling on. -/
theorem Deps.run_unsignaled {before after : Deps} {seen : List Obs} (run : Run Deps.Touch before seen after) :
    ∀ obs ∈ seen, obs.signals = false := by
  induction run with
  | refl => simp
  | @tail past middle seen final earlier last ih =>
    intro obs member
    rcases List.mem_append.mp member with old | now
    · exact ih obs old
    · cases last with
      | shown shown own plain =>
        cases List.mem_singleton.mp now
        cases obs <;> first | rfl | cases plain
      | dialed callbacks id =>
        rcases List.mem_cons.mp now with rfl | called
        · rfl
        · obtain ⟨callback, _, rfl⟩ := List.mem_map.mp called; rfl
      | undialed callbacks reason uri prm =>
        rcases List.mem_append.mp now with called | asked
        · obtain ⟨callback, _, rfl⟩ := List.mem_map.mp called; rfl
        · rw [List.mem_singleton.mp asked]; rfl
      | hungUp id call held prm hangup =>
        rcases List.mem_cons.mp now with rfl | called
        · rfl
        · obtain ⟨callback, _, rfl⟩ := List.mem_map.mp called; rfl
      | context | failed | blocked | cached => cases now
      | emitted | registered | unregistered | notHungUp => rw [List.mem_singleton.mp now]; rfl

/-- Only deeds and signaling are requests. -/
theorem Obs.carries_of_idle {obs : Obs} (idle : obs.deed = false) (unsignaled : obs.signals = false)
    (held : Context) : obs.carries held := by
  cases obs <;> trivial

theorem Actions.dialHeaders_carry (env : Env) (ctx : Context) (user : User) :
    ∀ header ∈ dialHeaders env ctx.id ctx.userId user, (header.name = "X-TG-ID" → header.value = toString ctx.userId) ∧
      (header.name = "X-GW-Context" → ∃ pid : Nat, header.value = toString pid ++ "-" ++ toString ctx.id) := by
  have optional : ∀ name value, name ≠ "X-TG-ID" → name ≠ "X-GW-Context" → ∀ header ∈ optionalHeader name value,
      header.name ≠ "X-TG-ID" ∧ header.name ≠ "X-GW-Context" := by
    intro name value notId notContext header member
    unfold optionalHeader at member
    split at member
    · cases member
    · rw [List.mem_singleton.mp member]
      exact ⟨notId, notContext⟩
  have other : ∀ header : Sip.Header, header.name ≠ "X-TG-ID" ∧ header.name ≠ "X-GW-Context" →
      (header.name = "X-TG-ID" → header.value = toString ctx.userId) ∧
        (header.name = "X-GW-Context" → ∃ pid : Nat, header.value = toString pid ++ "-" ++ toString ctx.id) :=
    fun header ⟨notId, notContext⟩ => ⟨fun same => absurd same notId, fun same => absurd same notContext⟩
  intro header member
  simp only [dialHeaders, List.mem_append, List.mem_cons, List.not_mem_nil, or_false] at member
  rcases member with ((((rfl | rfl) | first) | last) | username) | phone
  · exact ⟨fun same => by simp at same, fun _ => ⟨env.pid, rfl⟩⟩
  · exact ⟨fun _ => rfl, fun same => by simp at same⟩
  · exact other header (optional _ _ (by decide) (by decide) header first)
  · exact other header (optional _ _ (by decide) (by decide) header last)
  · exact other header (optional _ _ (by decide) (by decide) header username)
  · exact other header (optional _ _ (by decide) (by decide) header phone)

theorem Actions.dialSip_carries {call : Call} {deps final : Deps} (ran : dialSip settings env call deps = .ok final)
    (peer : call.userId = deps.ctx.userId) : ∀ obs ∈ final.seen, obs ∈ deps.seen ∨ obs.carries final.ctx := by
  unfold dialSip at ran
  split at ran
  next => cases ran
  next user found =>
    cases ran
    have headers := dialHeaders_carry env deps.ctx user
    rw [← peer] at headers
    intro obs member
    unfold dialCallback at member ⊢
    cases dialed : env.makeCall.result with
    | ok id =>
      simp only [dialed, Sip.Client.dial, Deps.query, Deps.request, Deps.observe, List.mem_append,
        List.mem_cons, List.mem_map, List.not_mem_nil, or_false] at member ⊢
      rcases member with ((((old | rfl) | rfl) | ⟨callback, _, rfl⟩) | rfl) | rfl
      · exact .inl old
      · exact .inr ⟨rfl, peer⟩
      · exact .inr trivial
      · exact .inr trivial
      · exact .inr ⟨rfl, peer ▸ headers⟩
      · exact .inr trivial
    | error reason =>
      simp only [dialed, Sip.Client.dial, Deps.query, Deps.request, Deps.observe, Deps.internalError, List.mem_append,
        List.mem_cons, List.mem_map, List.not_mem_nil, or_false] at member ⊢
      rcases member with ((old | rfl) | ⟨callback, _, rfl⟩) | rfl
      · exact .inl old
      · exact .inr ⟨rfl, peer⟩
      · exact .inr trivial
      · exact .inr ⟨rfl, peer ▸ headers⟩

theorem Actions.Dials.carries {deps final : Deps} (dials : Dials settings env deps final) :
    ∀ obs ∈ final.seen, obs ∈ deps.seen ∨ obs.carries final.ctx := by
  have looked : ∀ {lookup}, Looks deps.ctx lookup → lookup.carries deps.ctx := by
    intro lookup looks
    cases looks <;> rfl
  have resolved : ∀ {target lookups cache}, Resolves env deps.ctx deps.cache target lookups cache →
    ∀ obs ∈ asked deps.ctx.id lookups,
      ∀ held : Context, held.id = deps.ctx.id → held.extUsername = deps.ctx.extUsername →
        held.extPhone = deps.ctx.extPhone → obs.carries held := by
    intro target lookups cache resolves obs member held same username phone
    cases resolves <;> simp only [asked, List.map_nil, List.map_cons, List.mem_singleton,
      List.not_mem_nil] at member <;> subst member
    · exact ⟨same.symm, username.symm⟩
    · exact ⟨same.symm, phone.symm⟩
  intro obs member
  cases dials with
  | blocked early => exact .inl member
  | unfound free lookup looks error refused told =>
    rcases List.mem_append.mp member with old | now
    · exact .inl old
    · rw [List.mem_singleton.mp now]; exact .inr ⟨rfl, looked looks⟩
  | nobody free lookup looks prm =>
    rcases List.mem_append.mp member with old | now
    · exact .inl old
    · rw [List.mem_singleton.mp now]; exact .inr ⟨rfl, looked looks⟩
  | refused free target lookups cache resolves error refused told =>
    simp only [List.mem_append, List.mem_singleton] at member
    rcases member with old | lookup | rfl
    · exact .inl old
    · exact .inr (resolved resolves obs lookup _ rfl rfl rfl)
    · exact .inr ⟨rfl, rfl⟩
  | created free target lookups cache resolves id created =>
    simp only [List.mem_append, List.mem_cons, List.not_mem_nil, or_false] at member
    rcases member with old | lookup | rfl | rfl
    · exact .inl old
    · exact .inr (resolved resolves obs lookup _ rfl rfl rfl)
    · exact .inr ⟨rfl, rfl⟩
    · exact .inr trivial

/-- What all deeds of a sequence of actions have, everything that is seen has. -/
theorem Actions.Did.seen {deps last : Deps} {kept : Obs → Prop} (did : Did deps last final errors deeds)
    (fresh : deps.seen = []) (idle : ∀ obs, obs.deed = false → obs.signals = false → kept obs)
    (all : ∀ obs ∈ deeds, kept obs) :
    ∀ obs ∈ last.seen, kept obs := by
  intro obs member
  cases deed : obs.deed with
  | true => exact all obs (did.done fresh ▸ List.mem_filter.mpr ⟨member, deed⟩)
  | false => exact idle obs deed (Deps.run_unsignaled (did.run fresh) obs member)

end Requests

/-- Where the ids of a request may come from: the context as the handler found it, the context as the handler
left it, or, for a machine that is new, the call it is made for. -/
inductive Sourced (control target : Control) (offered : StateMachine.Event) (ctx final : Context) (obs : Obs) :
    Prop where
  | found (carries : obs.carries ctx)
  | left (stays : target ≠ .X) (carries : obs.carries final)
  | named (fresh : control = .init) (call : Call) (update : offered = .updateCall call)
      (carries : obs.carries { ctx with tgCallId := call.id })

section Machines
variable {settings : Settings} {env : Env} {control target : Control} {offered : StateMachine.Event} {deps last : Deps}

theorem Effects.sourced {ctx final : Context} {errors : List InternalEvent} {deeds : List Obs}
    {actions : List Action} (transition : Transition settings control offered actions target)
    (effects : Effects settings env actions ctx final errors deeds) (searching : .dialTg ∉ actions)
    (dialing : ∀ call, .dialSip call ∉ actions) :
    ∀ obs ∈ deeds, Sourced control target offered ctx final obs := by
  intro obs member
  cases transition with
  | dial call => exact absurd (by simp) (dialing call)
  | dialTg => exact absurd (by simp) searching
  | refuse call incoming pending uri =>
    obtain ⟨_, _, _, _, _, stored, cleaned, rfl, rfl⟩ := effects.two
    cases stored
    simp only [List.cons_append, List.mem_cons, List.nil_append] at member
    rcases member with rfl | rfl | rfl | member
    · exact .found trivial
    · exact .found trivial
    · exact .found trivial
    · exact .named rfl call rfl (cleaned.cleanUp_carries _ rfl (.inl rfl) (.inl rfl) obs member)
  | strayUpdate | strayState | strayMedia | answer | media | dtmf =>
    obtain ⟨_, done, rfl⟩ := effects.one
    rcases List.mem_cons.mp member with rfl | member
    · exact .found trivial
    · exact .found (done.carries (by simp) (by simp) obs member)
  | accept id ext =>
    obtain ⟨_, _, _, _, _, stored, accepted, rfl, rfl⟩ := effects.two
    cases stored
    simp only [List.cons_append, List.mem_cons, List.nil_append] at member
    rcases member with rfl | rfl | rfl | member
    · exact .found trivial
    · exact .found trivial
    · exact .found trivial
    · refine .left (by simp) ?_
      cases accepted with
      | rang ext ctx parsed valid =>
        obtain ⟨same, sip, _⟩ := Actions.parseExtension_id valid
        rw [List.mem_singleton.mp member]
        exact ⟨same.symm, sip.symm⟩
      | silent ext ctx parsed prm valid =>
        obtain ⟨same, sip, _⟩ := Actions.parseExtension_id valid
        rw [List.mem_singleton.mp member]
        exact ⟨same.symm, sip.symm⟩
      | badExtension => cases member
  | bridge call ready =>
    obtain ⟨_, _, _, _, _, created, bridged, rfl, rfl⟩ := effects.two
    cases created
    simp only [List.cons_append, List.mem_cons, List.nil_append] at member
    rcases member with rfl | rfl | rfl | member
    · exact .found trivial
    · exact .found trivial
    · exact .found trivial
    · refine .left (by simp) ?_
      cases bridged <;> rw [List.mem_singleton.mp member] <;> exact ⟨rfl, rfl⟩
  | connect call ready =>
    obtain ⟨_, _, _, _, _, user, rest, rfl, rfl⟩ := effects.three
    obtain ⟨_, _, _, _, _, created, answered, rfl, rfl⟩ := rest.two
    cases user
    cases created
    simp only [List.cons_append, List.mem_cons, List.nil_append] at member
    rcases member with rfl | rfl | rfl | rfl | member
    · exact .found trivial
    · exact .found trivial
    · exact .found trivial
    · exact .found trivial
    · refine .left (by simp) ?_
      cases answered <;> rw [List.mem_singleton.mp member] <;> exact ⟨rfl, rfl⟩
  | tgEnded control inside call ended =>
    obtain ⟨_, _, _, _, _, cleaned, gone, rfl, rfl⟩ := effects.two
    cases cleaned
    simp only [List.cons_append, List.mem_cons, List.nil_append] at member
    rcases member with rfl | rfl | member
    · exact .found trivial
    · exact .found trivial
    · exact .found (gone.cleanUp_carries ctx rfl (.inr rfl) (.inl rfl) obs member)
  | sipEnded control inside id =>
    obtain ⟨_, _, _, _, _, cleaned, gone, rfl, rfl⟩ := effects.two
    cases cleaned
    simp only [List.cons_append, List.mem_cons, List.nil_append] at member
    rcases member with rfl | rfl | member
    · exact .found trivial
    · exact .found trivial
    · exact .found (gone.cleanUp_carries ctx rfl (.inl rfl) (.inr rfl) obs member)
  | failed control inside prm =>
    obtain ⟨_, _, _, _, _, noted, gone, rfl, rfl⟩ := effects.two
    cases noted
    simp only [List.cons_append, List.mem_cons, List.nil_append] at member
    rcases member with rfl | rfl | member
    · exact .found trivial
    · exact .found trivial
    · exact .found (gone.cleanUp_carries ctx rfl (.inl rfl) (.inl rfl) obs member)

/-- Every request of a machine has its ids from there. -/
theorem StateMachine.processEvent_sourced (ran : processEvent settings env control offered deps = .ok (target, last))
    (fresh : deps.seen = []) : ∀ obs ∈ last.seen, Sourced control target offered deps.ctx last.ctx obs := by
  rcases processEvent_ran ran with ⟨_, _, rfl⟩ | ⟨actions, transition, took⟩
  · intro obs member
    rw [fresh] at member
    cases member
  · by_cases searching : .dialTg ∈ actions
    · obtain ⟨rfl, rfl, rfl, id, rfl⟩ := transition.dials searching
      obtain ⟨middle, dialed, done⟩ := foldlM_cons_ok.mp took
      cases done
      intro obs member
      rcases (Actions.dialTg_dials dialed).carries obs member with old | carries
      · rw [Deps.observe, fresh] at old
        rw [List.mem_singleton.mp old]
        exact .found trivial
      · exact .left (by simp) carries
    · by_cases dialing : ∃ call, .dialSip call ∈ actions
      · obtain ⟨call, member⟩ := dialing
        cases transition with
        | dial called =>
          obtain ⟨first, storing, rest⟩ := foldlM_cons_ok.mp took
          obtain ⟨second, naming, rest⟩ := foldlM_cons_ok.mp rest
          obtain ⟨third, dialed, done⟩ := foldlM_cons_ok.mp rest
          cases storing
          cases naming
          cases done
          intro obs member
          rcases Actions.dialSip_carries dialed rfl obs member with old | carries
          · simp only [Actions.storeTgUserId, Actions.storeTgId, Deps.observe, fresh, List.nil_append, List.mem_append,
              List.mem_cons, List.not_mem_nil, or_false] at old
            rcases old with ((rfl | rfl) | rfl) | rfl <;> exact .found trivial
          · exact .left (by simp) carries
        | _ => simp at member
      · obtain ⟨ctx, errors, deeds, effects, did⟩ := runActions_effects took
        have final := did.ctx
        refine Actions.Did.seen did fresh (fun obs idle unsignaled => .found (Obs.carries_of_idle idle unsignaled _)) ?_
        rw [final]
        exact effects.sourced transition searching fun call member => dialing ⟨call, member⟩

end Machines

namespace Gateway
variable {settings : Settings} {env : Env} {gateway after : Gateway} {event : GatewayEvent} {seen : List Obs}

/-- The id that an event names is one of the context. -/
def Addresses : GatewayEvent → Context → Prop
  | .internal (.internalError id _), ctx | .internal (.signalingDataEmitted id _), ctx => ctx.id = id
  | .update (.call call), ctx => ctx.tgCallId = call.id
  | .update (.newCallSignalingData id _), ctx => ctx.tgCallId = id
  | .update (.newMessage message), ctx => message.sender = .user ctx.userId
  | .sip event, ctx => ctx.sipCallId = event.id

/-- What passes the machines by is for the bridge that is addressed. -/
theorem processEvent_passed (ran : gateway.processEvent settings env event = .ok (after, seen))
    (unrouted : gateway.route event = none) :
    ∀ obs ∈ seen, ∃ bridge ∈ gateway.bridges, Addresses event bridge.ctx ∧ obs.carries bridge.ctx := by
  obtain ⟨shown, same, passed⟩ := processEvent_passes settings env unrouted
  cases same.symm.trans ran
  intro obs member
  cases passed with
  | nothing => cases member
  | sent bridge held data => rw [List.mem_singleton.mp member]; exact ⟨bridge, held, rfl, rfl, rfl⟩
  | received bridge held data => rw [List.mem_singleton.mp member]; exact ⟨bridge, held, rfl, rfl⟩

/-- The machine of the bridge that is addressed processes the event, and a new machine when none is. -/
theorem Routed.addressed {slot : Slot} {counter : Nat} {offered : StateMachine.Event}
    (routed : Routed gateway event slot counter offered) :
    (gateway.bridges = slot.bridges ∧ Addresses event slot.bridge.ctx) ∨
      (slot = gateway.freshSlot ∧ counter = gateway.ctxCounter + 1 ∧
        (∀ bridge ∈ gateway.bridges, ¬ Addresses event bridge.ctx) ∧
        erases event = true ∧ ∀ call, offered = .updateCall call → event = .update (.call call)) := by
  cases routed with
  | callHeld call slot found holds => exact .inl ⟨found, holds⟩
  | sipHeld event slot found holds => exact .inl ⟨found, holds⟩
  | message message user slot sender sole found peer => cases peer; exact .inl ⟨found, sender⟩
  | error ctxId prm slot found named => exact .inl ⟨found, named⟩
  | callFresh call missed => exact .inr ⟨rfl, rfl, missed, rfl, fun other same => by cases same; rfl⟩
  | sipFresh event missed => exact .inr ⟨rfl, rfl, missed, rfl, fun other same => by cases same⟩

/-- A handler that works on one bridge. -/
structure Isolated (bridge : Bridge) (before after : Gateway) (seen : List Obs) : Prop where
  others : ∃ first rest kept, before.bridges = first ++ bridge :: rest ∧ after.bridges = first ++ kept ++ rest ∧
    (kept = [] ∨ ∃ served : Bridge, kept = [served] ∧ served.ctx.id = bridge.ctx.id)
  errors : ∃ errors, after.errors = before.errors ++ errors ∧
    ∀ error ∈ errors, ∃ prm, error = .internalError bridge.ctx.id prm
  requests : ∀ obs ∈ seen, obs.carries bridge.ctx ∨ ∃ served ∈ after.bridges, served.ctx.id = bridge.ctx.id ∧
    obs.carries served.ctx

/-- A handler that works on a bridge of its own, which it may leave behind at the end of the list. -/
structure Apart (event : GatewayEvent) (before after : Gateway) (seen : List Obs) : Prop where
  others : ∃ kept, after.bridges = before.bridges ++ kept ∧
    (kept = [] ∨ ∃ served : Bridge, kept = [served] ∧ served.ctx.id = before.ctxCounter + 1)
  errors : ∃ errors, after.errors = before.errors ++ errors ∧
    ∀ error ∈ errors, ∃ prm, error = .internalError (before.ctxCounter + 1) prm
  requests : ∀ obs ∈ seen, ∃ held : Context, held.id = before.ctxCounter + 1 ∧ obs.carries held ∧
    (held = { id := before.ctxCounter + 1 } ∨
      (∃ call, event = .update (.call call) ∧ held = { id := before.ctxCounter + 1, tgCallId := call.id }) ∨
        ∃ served ∈ after.bridges, held = served.ctx)

private theorem kept_cases {control : Control} {ctx : Context} {id : CtxId} (same : ctx.id = id) :
    kept event control ctx = [] ∨ ∃ served : Bridge, kept event control ctx = [served] ∧ served.ctx.id = id := by
  unfold kept
  split
  · exact .inl rfl
  · exact .inr ⟨_, rfl, same⟩

theorem processEvent_isolated {bridge : Bridge}
    (ran : gateway.processEvent settings env event = .ok (after, seen))
    (entered : ∀ bridge ∈ gateway.bridges, bridge.control ≠ .init) (member : bridge ∈ gateway.bridges)
    (addressed : Addresses event bridge.ctx)
    (single : ∀ other ∈ gateway.bridges, Addresses event other.ctx → other = bridge) :
    Isolated bridge gateway after seen := by
  rcases processEvent_ran ran with
    ⟨unrouted, rfl, _⟩ | ⟨slot, counter, offered, control, deps, routed, processed, rfl, rfl⟩
  · obtain ⟨first, rest, split⟩ := List.append_of_mem member
    refine ⟨⟨first, rest, [bridge], split, by simpa using split, .inr ⟨bridge, rfl, rfl⟩⟩, ⟨[], by simp, by simp⟩,
      fun obs shown => ?_⟩
    obtain ⟨other, held, named, carries⟩ := processEvent_passed ran unrouted obs shown
    cases single other held named
    exact .inl carries
  · rcases routed.addressed with ⟨found, named⟩ | ⟨_, _, missed, _⟩
    · have within : slot.bridge ∈ gateway.bridges := Slot.within found
      cases single _ within named
      obtain ⟨ctx, errors, deeds, handles, did⟩ := processEvent_handles processed
      have own := handles.own
      have same : deps.ctx.id = slot.bridge.ctx.id := did.ctx ▸ own.id
      refine ⟨⟨slot.before, slot.after, _, found, rfl, kept_cases same⟩, ⟨errors, did.errors, own.errors⟩,
        fun obs shown => ?_⟩
      cases processEvent_sourced processed rfl obs shown with
      | found carries => exact .inl carries
      | left stays carries =>
        have stayed : (⟨control, deps.ctx⟩ : Bridge) ∈ kept event control deps.ctx :=
          mem_kept.mpr ⟨rfl, fun gone => stays gone.2⟩
        exact .inr ⟨⟨control, deps.ctx⟩, by simp [stayed], same, carries⟩
      | named fresh call update carries => exact absurd fresh (entered _ within)
    · exact absurd addressed (missed bridge member)

theorem processEvent_apart (ran : gateway.processEvent settings env event = .ok (after, seen))
    (missed : ∀ bridge ∈ gateway.bridges, ¬ Addresses event bridge.ctx) : Apart event gateway after seen := by
  rcases processEvent_ran ran with
    ⟨unrouted, rfl, _⟩ | ⟨slot, counter, offered, control, deps, routed, processed, rfl, rfl⟩
  · refine ⟨⟨[], by simp, .inl rfl⟩, ⟨[], by simp, by simp⟩, fun obs shown => ?_⟩
    obtain ⟨other, held, named, _⟩ := processEvent_passed ran unrouted obs shown
    exact absurd named (missed other held)
  · rcases routed.addressed with ⟨found, named⟩ | ⟨rfl, rfl, _, erasing, update⟩
    · exact absurd named (missed _ (Slot.within found))
    · obtain ⟨ctx, errors, deeds, handles, did⟩ := processEvent_handles processed
      have own := handles.own
      have same : deps.ctx.id = gateway.ctxCounter + 1 := did.ctx ▸ own.id
      refine ⟨⟨kept event control deps.ctx, by simp [freshSlot], kept_cases same⟩, ⟨errors, did.errors, own.errors⟩,
        fun obs shown => ?_⟩
      cases processEvent_sourced processed rfl obs shown with
      | found carries => exact ⟨_, rfl, carries, .inl rfl⟩
      | left stays carries =>
        have stayed : (⟨control, deps.ctx⟩ : Bridge) ∈ kept event control deps.ctx :=
          mem_kept.mpr ⟨rfl, fun gone => stays gone.2⟩
        exact ⟨deps.ctx, same, carries, .inr (.inr ⟨⟨control, deps.ctx⟩, by simp [stayed], rfl⟩)⟩
      | named fresh call updated carries => exact ⟨_, rfl, carries, .inr (.inl ⟨call, update call updated, rfl⟩)⟩

end Gateway

namespace System

/-- Whatever a handler that returned was given, it worked on the one bridge that the event addresses, and on a bridge of
its own if there is none. The queues do not matter. -/
theorem bridges_are_isolated {settings : Settings} {env : Env} {cache : Cache} {maxCalls : Nat} {past : List Obs}
    {system : System} {gateway after : Gateway} {event : GatewayEvent} {seen : List Obs}
    (reached : Reaches settings Anything (System.initial cache maxCalls) past system)
    (same : gateway.bridges = system.gateway.bridges)
    (ran : gateway.processEvent settings env event = .ok (after, seen)) :
    (∀ bridge ∈ gateway.bridges, Gateway.Addresses event bridge.ctx →
      (∀ other ∈ gateway.bridges, Gateway.Addresses event other.ctx → other = bridge) →
        Gateway.Isolated bridge gateway after seen) ∧
    ((∀ bridge ∈ gateway.bridges, ¬ Gateway.Addresses event bridge.ctx) → Gateway.Apart event gateway after seen) := by
  have inside := ((composite_rule settings).run reached).2
  rw [← same] at inside
  have entered : ∀ bridge ∈ gateway.bridges, bridge.control ≠ .init := by
    intro bridge member fresh
    have composite := inside bridge member
    rw [fresh] at composite
    cases composite
  constructor
  · intro bridge member addressed single
    exact Gateway.processEvent_isolated ran entered member addressed single
  · intro missed
    exact Gateway.processEvent_apart ran missed

/-- Two SIP calls have a bridge each, and the event was served. -/
private def servesOneOfTwo : List Bridge → Except Exception (Gateway × List Obs) → Bool
  | [bridge, other], .ok _ => decide (bridge.ctx.sipCallId = 0 ∧ other.ctx.sipCallId = 1)
  | _, _ => false

/-- Two calls ring, and the one that is answered leaves the other alone. -/
theorem answered_call_is_isolated : ∃ past system after seen bridge other,
    Reaches { callbackUri := "sip:100@pbx" } Anything (System.initial {} 2) past system ∧ bridge ≠ other ∧
      other ∈ system.gateway.bridges ∧
        system.gateway.processEvent { callbackUri := "sip:100@pbx" } (Env.success 42 7 0)
          (.sip (.callMediaStateUpdate 0 true)) = .ok (after, seen) ∧
              Gateway.Isolated bridge system.gateway after seen := by
  have ran : (execute (System.step { callbackUri := "sip:100@pbx" }) (fun _ _ _ => true)
      [.tdlib (.call ⟨7, 42, false, .pending⟩), .loop (Env.success 42 7 0), .loop (Env.success 42 7 0),
        .loop (Env.success 42 7 0), .tdlib (.call ⟨8, 43, false, .pending⟩), .loop (Env.success 43 8 1),
        .loop (Env.success 43 8 1)] (System.initial {} 2)).any (fun result =>
          servesOneOfTwo result.1.gateway.bridges
            (result.1.gateway.processEvent { callbackUri := "sip:100@pbx" } (Env.success 42 7 0)
            (.sip (.callMediaStateUpdate 0 true)))) = true := by decide +kernel
  obtain ⟨system, past, reached, found⟩ := execute_any ran
  unfold servesOneOfTwo at found
  split at found
  next bridge other result bridges handled =>
    obtain ⟨after, seen⟩ := result
    obtain ⟨first, second⟩ := of_decide_eq_true found
    have isolated :=
      (bridges_are_isolated reached rfl handled).1 bridge (by rw [bridges]; simp) first fun held member addressed => by
      rw [bridges] at member
      rcases List.mem_pair.mp member with rfl | rfl
      · rfl
      · rw [Gateway.Addresses, second] at addressed
        cases addressed
    refine ⟨past, system, after, seen, bridge, other, reached, ?_, by rw [bridges]; simp, handled, isolated⟩
    intro same
    rw [← same, first] at second
    cases second
  next => cases found

end System
end Tg2Sip
