import Tg2Sip.Proofs.Bridges

/-! Digits that come as chat messages. The gateway looks at the sender of a message and at its
text, and never at the chat that it was posted in. -/

namespace Tg2Sip
open TdApi Lib StateMachine

namespace Gateway
variable {settings : Settings} {env : Env} {gateway after : Gateway} {message : Message} {seen : List Obs}

/-- The bridge is the only one of its user. -/
def Sole (gateway : Gateway) (bridge : Bridge) : Prop :=
  bridge ∈ gateway.bridges ∧ ∀ other ∈ gateway.bridges, other.ctx.userId = bridge.ctx.userId → other = bridge

/-- The message is one whose text is dialed on the SIP leg of the bridge. -/
structure Taken (gateway : Gateway) (message : Message) (bridge : Bridge) : Prop where
  sole : (gateway.bridges.filter fun other => other.ctx.userId == bridge.ctx.userId) = [bridge]
  sender : message.sender = .user bridge.ctx.userId
  waiting : bridge.control.dtmf = true
  digits : isDtmfString message = true

/-- Digits are sent only for a message of the peer of the bridge that has the SIP leg, while the bridge
waits for digits, and only in the private chat with the peer. -/
structure OwnChat (gateway : Gateway) (message : Message) (seen : List Obs) : Prop where
  digits : ∀ ctx name id digits succeeded, .sip ctx name (.dialDtmf id digits) succeeded ∈ seen →
    message.content = .text digits ∧ Text.matchesDtmf digits.toList = true ∧
      ∃ bridge, Sole gateway bridge ∧ bridge.ctx.id = ctx ∧ bridge.ctx.sipCallId = id ∧
        message.sender = .user bridge.ctx.userId ∧ bridge.control.dtmf = true ∧ message.chatId = bridge.ctx.userId
  silent : message.sender ≠ .user message.chatId → ∀ ctx name request succeeded, .sip ctx name request succeeded ∉ seen

theorem filter_sole {gateway : Gateway} {slot : Slot} {user : UserId} (found : gateway.bridges = slot.bridges)
    (peer : slot.bridge.ctx.userId = user)
    (sole : (gateway.bridges.filter fun bridge => bridge.ctx.userId == user).length ≤ 1) :
    (gateway.bridges.filter fun bridge => bridge.ctx.userId == user) = [slot.bridge] := by
  have member : slot.bridge ∈ gateway.bridges.filter fun bridge => bridge.ctx.userId == user := by
    exact List.mem_filter.mpr ⟨Slot.within found, by simp [peer]⟩
  obtain ⟨only, same⟩ := List.length_eq_one_iff.mp (Nat.le_antisymm sole (List.length_pos_of_mem member))
  rw [same] at member ⊢
  rw [List.mem_singleton.mp member]

/-- What a message makes the gateway do on SIP legs: its digits are dialed, or nothing. -/
theorem message_dials (ran : gateway.processEvent settings env (.update (.newMessage message)) = .ok (after, seen)) :
    (∃ bridge text succeeded, Taken gateway message bridge ∧ message.content = .text text ∧
      seen.filter Obs.deed = [.action bridge.ctx.id .dialDtmf,
        .sip bridge.ctx.id .dialDtmf (.dialDtmf bridge.ctx.sipCallId text) succeeded]) ∨
    (∀ bridge, ¬ Taken gateway message bridge) ∧ seen.filter Obs.deed = [] := by
  generalize handled : GatewayEvent.update (.newMessage message) = event at ran
  cases processEvent_handled ran with
  | passed unrouted quiet =>
    subst handled
    refine .inr ⟨fun bridge taken => ?_, deeds_of_signals quiet⟩
    · simp only [route, taken.sender, taken.sole, List.length_singleton, Nat.lt_irrefl, gt_iff_lt, if_false] at unrouted
      have missed := findBridge_none.mp (Option.map_eq_none_iff.mp unrouted) bridge ?_
      · simp at missed
      · exact List.mem_of_mem_filter (taken.sole ▸ List.mem_singleton_self bridge)
  | @offered slot counter offered control ctx errors _ _ routed handles bridges counted queued touched =>
    cases routed with
    | message message user slot sender sole found peer =>
      cases handled
      have only := filter_sole found peer sole
      have served : ∀ bridge, Taken gateway message bridge → bridge = slot.bridge := by
        intro bridge taken
        cases taken.sender.symm.trans sender
        exact (List.singleton_inj.mp (taken.sole.symm.trans only))
      generalize deeds : seen.filter Obs.deed = shown at handles ⊢
      generalize current : slot.bridge.control = state at handles
      cases handles with
      | dropped ignored =>
        refine .inr ⟨fun bridge taken => ?_, rfl⟩
        cases served bridge taken
        have dials : Transition settings slot.bridge.control _ _ _ := .dtmf _ taken.waiting message taken.digits
        have selected := select_iff.mpr dials
        rw [current, ignored] at selected
        cases selected
      | taken transition effects =>
        cases transition with
        | dtmf _ waiting _ digits =>
          obtain ⟨_, dialed, rfl⟩ := effects.one
          cases dialed with
          | dtmf _ _ text succeeded content =>
            exact .inl ⟨slot.bridge, text, succeeded,
              ⟨peer ▸ only, peer ▸ sender, current ▸ waiting, digits⟩, content, rfl⟩
    | _ => cases handled

/-- Whatever the state of the gateway: what a message sends on SIP legs is right if and only if the message
was posted in the private chat with its sender, or is not one that is dialed. -/
theorem digits_stay_in_chat_iff
    (ran : gateway.processEvent settings env (.update (.newMessage message)) = .ok (after, seen)) :
    OwnChat gateway message seen ↔
      (message.sender = .user message.chatId ∨ ∀ bridge, ¬ Taken gateway message bridge) := by
  have sips : ∀ ctx name request succeeded, .sip ctx name request succeeded ∈ seen →
      .sip ctx name request succeeded ∈ seen.filter Obs.deed :=
    fun ctx name request succeeded member => List.mem_filter.mpr ⟨member, rfl⟩
  rcases message_dials ran with ⟨bridge, text, succeeded, taken, content, deeds⟩ | ⟨untaken, deeds⟩
  · have said : .sip bridge.ctx.id .dialDtmf (.dialDtmf bridge.ctx.sipCallId text) succeeded ∈ seen :=
      List.mem_of_mem_filter (by rw [deeds]; simp)
    constructor
    · intro own
      refine .inl ?_
      by_contra elsewhere
      exact own.silent elsewhere _ _ _ _ said
    · intro either
      have posted := either.resolve_right fun untaken => untaken bridge taken
      have chat : message.chatId = bridge.ctx.userId := MessageSender.user.inj (posted.symm.trans taken.sender)
      refine ⟨fun ctx name id digits given member => ?_, fun elsewhere => absurd posted elsewhere⟩
      have member := sips _ _ _ _ member
      simp only [deeds, List.mem_cons, reduceCtorEq, Obs.sip.injEq, SipRequest.dialDtmf.injEq, List.not_mem_nil,
        or_false, false_or] at member
      obtain ⟨rfl, rfl, ⟨rfl, rfl⟩, rfl⟩ := member
      have matched := taken.digits
      simp only [isDtmfString, content] at matched
      refine ⟨content, matched, bridge, ⟨?_, fun other held same => ?_⟩, rfl, rfl, taken.sender, taken.waiting, chat⟩
      · exact List.mem_of_mem_filter (taken.sole ▸ List.mem_singleton_self bridge)
      · refine List.mem_singleton.mp (taken.sole ▸ List.mem_filter.mpr ⟨held, by simp [same]⟩)
  · refine iff_of_true ⟨fun ctx name id digits given member => ?_, fun _ ctx name request given member => ?_⟩
      (.inr untaken)
    · exact absurd (sips _ _ _ _ member) (by simp [deeds])
    · exact absurd (sips _ _ _ _ member) (by simp [deeds])

/-- What the peer of a bridge writes in the private chat. -/
def peerMessage (bridge : Bridge) (text : String) : Message := ⟨.user bridge.ctx.userId, bridge.ctx.userId, .text text⟩

/-- The digits go to `sip::Client::DialDtmf` once, for the SIP leg of the bridge, and nothing else is done. -/
def DialedOnce (env : Env) (gateway : Gateway) (bridge : Bridge) (text : String)
    (result : Except Exception (Gateway × List Obs)) : Prop :=
  let shown (succeeded : Bool) : List Obs :=
    [.action bridge.ctx.id .dialDtmf, .sip bridge.ctx.id .dialDtmf (.dialDtmf bridge.ctx.sipCallId text) succeeded]
  match gateway.sip.dialDtmf bridge.ctx.sipCallId env.dialDtmf with
  | .ok () => result = .ok (gateway, shown true)
  | .error (.pjError _) => result = .ok (gateway, shown false)
  | .error thrown => result = .error thrown

variable {bridge : Bridge}

private theorem finds_peer (member : bridge ∈ gateway.bridges) : ∃ slot,
    findBridge (fun ctx => ctx.userId == bridge.ctx.userId) gateway.bridges = some slot ∧
      gateway.bridges = slot.bridges ∧ slot.bridge.ctx.userId = bridge.ctx.userId := by
  cases found : findBridge (fun ctx => ctx.userId == bridge.ctx.userId) gateway.bridges with
  | none => simpa using findBridge_none.mp found bridge member
  | some slot =>
    obtain ⟨same, chosen, _⟩ := findBridge_some found
    exact ⟨slot, rfl, same, by simpa using chosen⟩

/-- A message is ambiguous as soon as another bridge has the user, whatever its state. -/
theorem sole_iff (numbered : gateway.WellNumbered) (member : bridge ∈ gateway.bridges) : Sole gateway bridge ↔
    (gateway.bridges.filter fun other => other.ctx.userId == bridge.ctx.userId).length ≤ 1 := by
  generalize matched : (gateway.bridges.filter fun other => other.ctx.userId == bridge.ctx.userId) = peers
  have peer : ∀ other, other ∈ peers ↔ other ∈ gateway.bridges ∧ other.ctx.userId = bridge.ctx.userId := by
    simp [← matched]
  constructor
  · intro ⟨_, sole⟩
    have apart : peers.Nodup := matched ▸ numbered.distinct.of_map.filter _
    have same : peers = List.replicate peers.length bridge := by
      apply List.eq_replicate_of_mem
      intro other held
      exact sole other ((peer other).mp held).1 ((peer other).mp held).2
    rw [same] at apart
    exact List.nodup_replicate.mp apart
  · intro short
    obtain ⟨slot, _, same, chosen⟩ := finds_peer member
    have only : peers = [slot.bridge] := matched ▸ filter_sole same chosen (matched ▸ short)
    have among : ∀ other ∈ gateway.bridges, other.ctx.userId = bridge.ctx.userId → other = slot.bridge := by
      intro other held same
      exact List.mem_singleton.mp (only ▸ (peer other).mpr ⟨held, same⟩)
    refine ⟨member, fun other held same => ?_⟩
    rw [among other held same, among bridge member rfl]

theorem processEvent_ambiguous (numbered : gateway.WellNumbered) (member : bridge ∈ gateway.bridges)
    (ambiguous : ¬ Sole gateway bridge) (text : String) :
    gateway.processEvent settings env (.update (.newMessage (peerMessage bridge text))) = .ok (gateway, []) := by
  rw [sole_iff numbered member, Nat.not_le] at ambiguous
  simp only [processEvent, processUpdateNewMessage, peerMessage, ambiguous, if_true]
  rfl

theorem processEvent_sole (numbered : gateway.WellNumbered) (sole : Sole gateway bridge)
    (waiting : bridge.control.dtmf = true) {text : String} (digits : Text.matchesDtmf text.toList = true) :
    DialedOnce env gateway bridge text
      (gateway.processEvent settings env (.update (.newMessage (peerMessage bridge text)))) := by
  have short := (sole_iff numbered sole.1).mp sole
  obtain ⟨slot, found, same, chosen⟩ := finds_peer sole.1
  obtain rfl : slot.bridge = bridge := sole.2 _ (findBridge_mem found).1 chosen
  have selected : select settings slot.bridge.control (.updateNewMessage (peerMessage slot.bridge text)) =
      some ([.dialDtmf (peerMessage slot.bridge text)], slot.bridge.control) :=
    select_iff.mpr (.dtmf _ waiting _ digits)
  have routed : gateway.route (.update (.newMessage (peerMessage slot.bridge text))) =
      some ((slot, gateway.ctxCounter), .updateNewMessage (peerMessage slot.bridge text)) := by
    simp only [route, peerMessage, Nat.not_lt.mpr short, if_false, found, Option.map_some]
  have restored : slot.before ++ [slot.bridge] ++ slot.after = gateway.bridges := by rw [same]; simp [Slot.bridges]
  rw [processEvent_routed routed]
  have processed : ∀ deps : Deps,
      StateMachine.processEvent settings env slot.bridge.control
        (.updateNewMessage (peerMessage slot.bridge text)) deps =
        Actions.dialDtmf env text (deps.observe (.action deps.ctx.id .dialDtmf)) >>= fun deps =>
            pure (slot.bridge.control, deps) := by
    intro deps
    simp only [StateMachine.processEvent, selected, runActions, List.foldlM_cons, List.foldlM_nil, bind_pure]
    rfl
  simp only [DialedOnce, deliver, processed, Actions.dialDtmf, Deps.observe, erases]
  cases dialed : gateway.sip.dialDtmf slot.bridge.ctx.sipCallId env.dialDtmf with
  | ok done => simp [Deps.request, Deps.observe, restored, bind, Except.bind, pure, Except.pure]
  | error thrown =>
    cases thrown with
    | pjError reason => simp [Deps.request, Deps.observe, restored, bind, Except.bind, pure, Except.pure]
    | _ => rfl

end Gateway

namespace System

/-- A Telegram call of user 42 that was answered and bridged. -/
private def answered : List Label :=
  [.tdlib (.call ⟨7, 42, false, .pending⟩), .loop (Env.success 42 7 0), .loop (Env.success 42 7 0),
    .callback ⟨0, 0, .media true⟩, .loop (Env.success 42 7 0),
    .tdlib (.call ⟨7, 42, false, .ready ⟨[], List.replicate 256 0⟩⟩), .loop (Env.success 42 7 0),
      .loop (Env.success 42 7 0)]

private theorem dialed_digit (message : Message)
    (either : message = ⟨.user 42, 42, .text "5"⟩ ∨ message = ⟨.user 42, -100, .text "5"⟩) :
    ∃ past system after seen, Reaches { callbackUri := "sip:100@pbx" } Anything (initial {} 1) past system ∧
      system.gateway.processEvent { callbackUri := "sip:100@pbx" } (Env.success 42 7 0)
        (.update (.newMessage message)) =
        .ok (after, seen) ∧ .sip 1 .dialDtmf (.dialDtmf 0 "5") true ∈ seen := by
  have ran : (execute (System.step { callbackUri := "sip:100@pbx" }) (fun _ _ _ => true) answered
      (initial {} 1)).any (fun result =>
      match result.1.gateway.processEvent { callbackUri := "sip:100@pbx" } (Env.success 42 7 0)
          (.update (.newMessage message)) with
      | .ok (_, seen) => decide (.sip 1 .dialDtmf (.dialDtmf 0 "5") true ∈ seen)
      | .error _ => false) = true := by
    rcases either with rfl | rfl <;> decide +kernel
  obtain ⟨system, past, reached, found⟩ := execute_any ran
  split at found
  next after seen sent => exact ⟨past, system, after, seen, reached, sent, of_decide_eq_true found⟩
  next => cases found

theorem private_digit_is_dialed : ∃ gateway after seen,
    Gateway.processEvent { callbackUri := "sip:100@pbx" } (Env.success 42 7 0) gateway
      (.update (.newMessage ⟨.user 42, 42, .text "5"⟩)) = .ok (after, seen) ∧
      .sip 1 .dialDtmf (.dialDtmf 0 "5") true ∈ seen ∧ Gateway.OwnChat gateway ⟨.user 42, 42, .text "5"⟩ seen := by
  obtain ⟨past, system, after, seen, _, ran, sent⟩ := dialed_digit _ (.inl rfl)
  exact ⟨system.gateway, after, seen, ran, sent, (Gateway.digits_stay_in_chat_iff ran).mpr (.inl rfl)⟩

/-- A digit that the peer writes to a group is dialed as well. -/
theorem group_digit_is_dialed :
    ¬ ∀ (settings : Settings) (cache : Cache) (maxCalls : Nat) (past : List Obs) (system : System)
    (env : Env) (message : Message) (after : Gateway) (seen : List Obs),
    Reaches settings Anything (initial cache maxCalls) past system →
      system.gateway.processEvent settings env (.update (.newMessage message)) = .ok (after, seen) →
        Gateway.OwnChat system.gateway message seen := by
  intro own
  obtain ⟨past, system, after, seen, reached, ran, sent⟩ := dialed_digit _ (.inr rfl)
  have observed := own { callbackUri := "sip:100@pbx" } {} 1 past system _ _ after seen reached ran
  exact observed.silent (by decide) _ _ _ _ sent

/-- Digits from the peer of a connected bridge are dialed, unless another bridge has the same user, in whatever state
it is: then the message is ambiguous, and the gateway drops it. -/
theorem digits_dialed_unless_ambiguous {settings : Settings} {cache : Cache} {maxCalls : Nat} {past : List Obs}
    {system : System} (reached : Reaches settings Anything (initial cache maxCalls) past system)
    {bridge : Bridge} (member : bridge ∈ system.gateway.bridges) (waiting : bridge.control.dtmf = true)
    {text : String} (digits : Text.matchesDtmf text.toList = true) (env : Env) :
    let result := system.gateway.processEvent settings env (.update (.newMessage (Gateway.peerMessage bridge text)))
    (Gateway.Sole system.gateway bridge → Gateway.DialedOnce env system.gateway bridge text result) ∧
      (¬ Gateway.Sole system.gateway bridge → result = .ok (system.gateway, [])) := by
  obtain ⟨numbered, _⟩ := (composite_rule settings).run reached
  constructor
  · intro sole
    exact Gateway.processEvent_sole numbered sole waiting digits
  · intro ambiguous
    exact Gateway.processEvent_ambiguous numbered member ambiguous text

private def onlyConnected : List Bridge → Bool
  | [bridge] => bridge.control.dtmf
  | _ => false

theorem answered_peer_is_dialed : ∃ past system bridge,
    Reaches { callbackUri := "sip:100@pbx" } Anything (initial {} 1) past system ∧ bridge ∈ system.gateway.bridges ∧
      Gateway.Sole system.gateway bridge ∧ Gateway.DialedOnce (Env.success 42 7 0) system.gateway bridge "5"
        (system.gateway.processEvent { callbackUri := "sip:100@pbx" } (Env.success 42 7 0)
          (.update (.newMessage (Gateway.peerMessage bridge "5")))) := by
  have ran : (execute (System.step { callbackUri := "sip:100@pbx" }) (fun _ _ _ => true) answered
      (initial {} 1)).any (fun result => onlyConnected result.1.gateway.bridges) = true := by decide +kernel
  obtain ⟨system, past, reached, found⟩ := execute_any ran
  unfold onlyConnected at found
  split at found
  next bridge alone =>
    replace alone : system.gateway.bridges = [bridge] := alone
    have sole : Gateway.Sole system.gateway bridge := by simp [Gateway.Sole, alone]
    exact ⟨past, system, bridge, reached, sole.1, sole,
      (digits_dialed_unless_ambiguous reached sole.1 found (by decide) (Env.success 42 7 0)).1 sole⟩
  next => cases found

/-- While the call is up, somebody dials the user's id over SIP. -/
private def secondCall : List Label :=
  answered ++ [.incoming 1 "42", .loop (Env.success 42 7 0), .loop (Env.success 42 7 0)]

/-- Two bridges have the user, and the second is not connected. -/
private def secondUnconnected : List Bridge → Bool
  | [first, second] =>
    decide (first.control.dtmf = true ∧ second.control.dtmf = false ∧ second.ctx.userId = first.ctx.userId)
  | _ => false

/-- The call that is not connected yet already has the user, so the digits of the connected one are lost. -/
theorem second_call_loses_digits :
    ¬ ∀ (settings : Settings) (cache : Cache) (maxCalls : Nat) (past : List Obs) (system : System)
    (bridge : Bridge) (text : String) (env : Env), Reaches settings Anything (initial cache maxCalls) past system →
      bridge ∈ system.gateway.bridges → bridge.control.dtmf = true →
      (∀ other ∈ system.gateway.bridges, other.ctx.userId = bridge.ctx.userId → other.control.dtmf = true →
        other = bridge) →
      Text.matchesDtmf text.toList = true → Gateway.DialedOnce env system.gateway bridge text
        (system.gateway.processEvent settings env (.update (.newMessage (Gateway.peerMessage bridge text)))) := by
  intro always
  have ran : (execute (System.step { callbackUri := "sip:100@pbx" }) (fun _ _ _ => true) secondCall
      (initial {} 2)).any (fun result => secondUnconnected result.1.gateway.bridges) = true := by decide +kernel
  obtain ⟨system, past, reached, found⟩ := execute_any ran
  unfold secondUnconnected at found
  split at found
  next first second both =>
    obtain ⟨waiting, unconnected, peer⟩ := of_decide_eq_true found
    have both : system.gateway.bridges = [first, second] := both
    have apart : second ≠ first := fun same => by simp [same, waiting] at unconnected
    have member : first ∈ system.gateway.bridges := by simp [both]
    have ambiguous : ¬ Gateway.Sole system.gateway first := fun sole => apart (sole.2 second (by simp [both]) peer)
    have numbered := ((composite_rule { callbackUri := "sip:100@pbx" }).run reached).1
    have dialed :=
      always { callbackUri := "sip:100@pbx" } {} 2 past system first "5" (Env.success 42 7 0) reached member waiting
      (by simp [both, unconnected]) (by decide)
    rw [Gateway.processEvent_ambiguous numbered member ambiguous] at dialed
    unfold Gateway.DialedOnce at dialed
    split at dialed <;> simp at dialed
  next => cases found

end System
end Tg2Sip
