import Tg2Sip.StateMachine

/-! What the three tables amount to: one constructor for each transition a machine
can take. Every later argument about control states is a case analysis on this
relation, and the tables are not unfolded again. -/

namespace Tg2Sip.StateMachine
open TdApi Lib

def Control.composite : Control → Bool
  | .fromTg _ | .fromSip _ => true
  | .init | .X => false

def Control.dtmf : Control → Bool
  | .fromTg .waitDtmf | .fromSip .waitDtmf => true
  | _ => false

inductive Transition (settings : Settings) : Control → Event → List Action → Control → Prop where
  | dial (call : Call) (incoming : call.isOutgoing = false) (pending : call.state.getId = .pending)
      (uri : settings.callbackUri ≠ "") :
      Transition settings .init (.updateCall call)
        [.storeTgId call, .storeTgUserId call, .dialSip call] (.fromTg .sipWaitMedia)
  | refuse (call : Call) (incoming : call.isOutgoing = false) (pending : call.state.getId = .pending)
      (uri : settings.callbackUri = "") :
      Transition settings .init (.updateCall call) [.storeTgId call, .cleanUp] .X
  | strayUpdate (call : Call) (stray : ¬ (call.isOutgoing = false ∧ call.state.getId = .pending)) :
      Transition settings .init (.updateCall call) [.cleanUp] .X
  | accept (id : Sip.CallId) (ext : String) :
      Transition settings .init (.sip (.incomingCall id ext))
        [.storeSipId id, .acceptIncomingSip ext] (.fromSip .sipWaitConfirm)
  | strayState (id : Sip.CallId) (state : Sip.InvState) :
      Transition settings .init (.sip (.callStateUpdate id state)) [.cleanUp] .X
  | strayMedia (id : Sip.CallId) (hasMedia : Bool) :
      Transition settings .init (.sip (.callMediaStateUpdate id hasMedia)) [.cleanUp] .X
  | answer (id : Sip.CallId) :
      Transition settings (.fromTg .sipWaitMedia) (.sip (.callMediaStateUpdate id true))
        [.answerTg] (.fromTg .waitTg)
  | bridge (call : Call) (ready : call.state.getId = .ready) :
      Transition settings (.fromTg .waitTg) (.updateCall call)
        [.createTgVoip call, .bridgeAudio] (.fromTg .waitDtmf)
  | dialTg (id : Sip.CallId) :
      Transition settings (.fromSip .sipWaitConfirm) (.sip (.callStateUpdate id .early))
        [.dialTg] (.fromSip .waitTg)
  | connect (call : Call) (ready : call.state.getId = .ready) :
      Transition settings (.fromSip .waitTg) (.updateCall call)
        [.storeTgUserId call, .createTgVoip call, .answerSip] (.fromSip .sipWaitMedia)
  | media (id : Sip.CallId) :
      Transition settings (.fromSip .sipWaitMedia) (.sip (.callMediaStateUpdate id true))
        [.bridgeAudio] (.fromSip .waitDtmf)
  | dtmf (control : Control) (waiting : control.dtmf = true) (message : Message)
      (digits : isDtmfString message = true) :
      Transition settings control (.updateNewMessage message) [.dialDtmf message] control
  | tgEnded (control : Control) (inside : control.composite = true) (call : Call)
      (ended : call.state.getId = .discarded ∨ call.state.getId = .error) :
      Transition settings control (.updateCall call) [.cleanTgId, .cleanUp] .X
  | sipEnded (control : Control) (inside : control.composite = true) (id : Sip.CallId) :
      Transition settings control (.sip (.callStateUpdate id .disconnected)) [.cleanSipId, .cleanUp] .X
  | failed (control : Control) (inside : control.composite = true) (prm : Sip.CallOpParam) :
      Transition settings control (.internalError prm) [.setHangupPrm prm, .cleanUp] .X

theorem isTextContent_of_isDtmfString {message : Message} (digits : isDtmfString message = true) :
    isTextContent message = true := by
  obtain ⟨sender, chatId, content⟩ := message
  cases content with
  | text text => rfl
  | other => cases digits

section Tables
variable {settings : Settings}

private theorem selectTop_init (event : Event) : selectTop settings .init event =
    match event with
    | .updateCall call =>
      if call.isOutgoing = false ∧ call.state.getId = .pending then
        if settings.callbackUri = "" then some ([.storeTgId call, .cleanUp], .X)
        else some ([.storeTgId call, .storeTgUserId call, .dialSip call], .fromTg .sipWaitMedia)
      else some ([.cleanUp], .X)
    | .sip (.incomingCall id ext) => some ([.storeSipId id, .acceptIncomingSip ext], .fromSip .sipWaitConfirm)
    | .sip _ => some ([.cleanUp], .X)
    | _ => none := by
  cases event with
  | updateCall call =>
    by_cases fresh : call.isOutgoing = false ∧ call.state.getId = .pending
    · by_cases uri : settings.callbackUri = "" <;>
        simp [selectTop, Chart.fire, top, onUpdateCall, isIncoming, isInState, callbackUriIsSet, onEntry,
          enter, fresh, uri]
    · simp [selectTop, Chart.fire, top, onUpdateCall, isIncoming, isInState, callbackUriIsSet, onEntry, enter, fresh]
  | sip event =>
    cases event <;>
      simp [selectTop, Chart.fire, top, onUpdateCall, onIncomingCall, onCallStateUpdate, onCallMediaStateUpdate,
        onEntry, enter]
  | updateNewMessage message =>
    simp [selectTop, Chart.fire, top, onUpdateCall, onIncomingCall, onCallStateUpdate, onCallMediaStateUpdate]
  | internalError prm =>
    simp [selectTop, Chart.fire, top, onUpdateCall, onIncomingCall, onCallStateUpdate, onCallMediaStateUpdate]

/-- The two composite states are left in the same three ways. -/
private theorem selectTop_composite {state : Top} (composite : state = .fromTg ∨ state = .fromSip) (event : Event) :
    selectTop settings state event =
    match event with
    | .updateCall call =>
      if call.state.getId = .discarded ∨ call.state.getId = .error then some ([.cleanTgId, .cleanUp], .X) else none
    | .sip (.callStateUpdate _ state) =>
      if state = .disconnected then some ([.cleanSipId, .cleanUp], .X) else none
    | .internalError prm => some ([.setHangupPrm prm, .cleanUp], .X)
    | _ => none := by
  rcases composite with rfl | rfl <;>
  · cases event with
    | updateCall call =>
      by_cases ended : call.state.getId = .discarded ∨ call.state.getId = .error <;>
        simp [selectTop, Chart.fire, top, onUpdateCall, onCallStateUpdate, onInternalError, isInState, onEntry, enter,
          ended]
    | updateNewMessage message =>
      simp [selectTop, Chart.fire, top, onUpdateCall, onCallStateUpdate, onInternalError]
    | sip event =>
      cases event with
      | callStateUpdate id state =>
        by_cases gone : state = .disconnected <;>
          simp [selectTop, Chart.fire, top, onUpdateCall, onCallStateUpdate, onInternalError, isSipInState, onEntry,
            enter, gone]
      | _ => simp [selectTop, Chart.fire, top, onUpdateCall, onCallStateUpdate, onInternalError]
    | internalError prm =>
      simp [selectTop, Chart.fire, top, onUpdateCall, onCallStateUpdate, onInternalError, onEntry, enter]

private theorem selectTop_X (event : Event) : selectTop settings .X event = none := by
  simp [selectTop, Chart.fire, top]

/-- What the table of `from_tg` takes before the table around it is asked. -/
private theorem fire_fromTg (state : FromTg) (event : Event) : Chart.fire fromTg state event =
    match state, event with
    | .sipWaitMedia, .sip (.callMediaStateUpdate _ true) => some ([.answerTg], .waitTg)
    | .waitTg, .updateCall call =>
      if call.state.getId = .ready then some ([.createTgVoip call, .bridgeAudio], .waitDtmf) else none
    | .waitDtmf, .updateNewMessage message =>
      if isDtmfString message = true then some ([.dialDtmf message], .waitDtmf) else none
    | _, _ => none := by
  cases state with
  | sipWaitMedia =>
    rcases event with call | message | (⟨id, ext⟩ | ⟨id, state⟩ | ⟨id, _ | _⟩) | prm <;>
      simp [Chart.fire, fromTg, onCallMediaStateUpdate, isMediaReady]
  | waitTg =>
    rcases event with call | message | event | prm <;> simp [Chart.fire, fromTg, onUpdateCall, isInState]
    by_cases ready : call.state.getId = .ready <;> simp [ready]
  | waitDtmf =>
    rcases event with call | message | event | prm <;>
      simp [Chart.fire, fromTg, onUpdateNewMessage]
    by_cases digits : isDtmfString message = true <;> simp [digits, isTextContent_of_isDtmfString]

private theorem fire_fromSip (state : FromSip) (event : Event) : Chart.fire fromSip state event =
    match state, event with
    | .sipWaitConfirm, .sip (.callStateUpdate _ .early) => some ([.dialTg], .waitTg)
    | .waitTg, .updateCall call =>
      if call.state.getId = .ready then some ([.storeTgUserId call, .createTgVoip call, .answerSip], .sipWaitMedia)
      else none
    | .sipWaitMedia, .sip (.callMediaStateUpdate _ true) => some ([.bridgeAudio], .waitDtmf)
    | .waitDtmf, .updateNewMessage message =>
      if isDtmfString message = true then some ([.dialDtmf message], .waitDtmf) else none
    | _, _ => none := by
  cases state with
  | sipWaitConfirm =>
    rcases event with call | message | (⟨id, ext⟩ | ⟨id, state⟩ | ⟨id, hasMedia⟩) | prm <;>
      simp [Chart.fire, fromSip, onCallStateUpdate, isSipInState]
    cases state <;> simp
  | waitTg =>
    rcases event with call | message | event | prm <;> simp [Chart.fire, fromSip, onUpdateCall, isInState]
    by_cases ready : call.state.getId = .ready <;> simp [ready]
  | sipWaitMedia =>
    rcases event with call | message | (⟨id, ext⟩ | ⟨id, state⟩ | ⟨id, _ | _⟩) | prm <;>
      simp [Chart.fire, fromSip, onCallMediaStateUpdate, isMediaReady]
  | waitDtmf =>
    rcases event with call | message | event | prm <;>
      simp [Chart.fire, fromSip, onUpdateNewMessage]
    by_cases digits : isDtmfString message = true <;> simp [digits, isTextContent_of_isDtmfString]

private theorem composite_transition {state : Top} (composite : state = .fromTg ∨ state = .fromSip)
    {control : Control} (inside : control.composite = true) {event : Event} {actions : List Action} {target : Control}
    (selected : selectTop settings state event = some (actions, target)) :
    Transition settings control event actions target := by
  rw [selectTop_composite composite] at selected
  rcases event with call | message | (⟨id, ext⟩ | ⟨id, state⟩ | ⟨id, hasMedia⟩) | prm
  · by_cases ended : call.state.getId = .discarded ∨ call.state.getId = .error
    · simp only [ended, if_true, Option.some.injEq, Prod.mk.injEq] at selected
      obtain ⟨rfl, rfl⟩ := selected
      exact .tgEnded _ inside call ended
    · simp [ended] at selected
  · cases selected
  · cases selected
  · by_cases gone : state = .disconnected
    · simp only [gone, if_true, Option.some.injEq, Prod.mk.injEq] at selected
      obtain ⟨rfl, rfl⟩ := selected
      rw [gone]
      exact .sipEnded _ inside id
    · simp [gone] at selected
  · cases selected
  · cases selected
    exact .failed _ inside prm

private theorem init_transition {event : Event} {actions : List Action} {target : Control}
    (selected : selectTop settings .init event = some (actions, target)) :
    Transition settings .init event actions target := by
  rw [selectTop_init] at selected
  rcases event with call | message | (⟨id, ext⟩ | ⟨id, state⟩ | ⟨id, hasMedia⟩) | prm
  · by_cases fresh : call.isOutgoing = false ∧ call.state.getId = .pending
    · by_cases uri : settings.callbackUri = ""
      · simp only [fresh, uri, and_self, if_true, Option.some.injEq, Prod.mk.injEq] at selected
        obtain ⟨rfl, rfl⟩ := selected
        exact .refuse call fresh.1 fresh.2 uri
      · simp only [fresh, uri, and_self, if_true, if_false, Option.some.injEq, Prod.mk.injEq] at selected
        obtain ⟨rfl, rfl⟩ := selected
        exact .dial call fresh.1 fresh.2 uri
    · simp only [fresh, if_false, Option.some.injEq, Prod.mk.injEq] at selected
      obtain ⟨rfl, rfl⟩ := selected
      exact .strayUpdate call fresh
  · cases selected
  · cases selected; exact .accept id ext
  · cases selected; exact .strayState id state
  · cases selected; exact .strayMedia id hasMedia
  · cases selected

end Tables

/-- The tables and the relation say the same. -/
theorem select_iff {settings : Settings} {control : Control} {event : Event} {actions : List Action}
    {target : Control} : select settings control event = some (actions, target) ↔
      Transition settings control event actions target := by
  constructor
  · intro selected
    cases control with
    | init => exact init_transition selected
    | X => simp [select, selectTop_X] at selected
    | fromTg state =>
      simp only [select] at selected
      split at selected
      next taken target fired =>
        cases selected
        rw [fire_fromTg] at fired
        split at fired
        next => cases fired; exact .answer _
        next call =>
          split at fired
          next ready => cases fired; exact .bridge call ready
          next => cases fired
        next message =>
          split at fired
          next digits => cases fired; exact .dtmf _ rfl message digits
          next => cases fired
        next => cases fired
      next => exact composite_transition (.inl rfl) rfl selected
    | fromSip state =>
      simp only [select] at selected
      split at selected
      next taken target fired =>
        cases selected
        rw [fire_fromSip] at fired
        split at fired
        next => cases fired; exact .dialTg _
        next call =>
          split at fired
          next ready => cases fired; exact .connect call ready
          next => cases fired
        next => cases fired; exact .media _
        next message =>
          split at fired
          next digits => cases fired; exact .dtmf _ rfl message digits
          next => cases fired
        next => cases fired
      next => exact composite_transition (.inr rfl) rfl selected
  · intro transition
    cases transition with
    | dial call incoming pending uri => simp [select, selectTop_init, incoming, pending, uri]
    | refuse call incoming pending uri => simp [select, selectTop_init, incoming, pending, uri]
    | strayUpdate call stray => simp [select, selectTop_init, stray]
    | accept id ext => simp [select, selectTop_init]
    | strayState id state => simp [select, selectTop_init]
    | strayMedia id hasMedia => simp [select, selectTop_init]
    | answer id => simp [select, fire_fromTg]
    | bridge call ready => simp [select, fire_fromTg, ready]
    | dialTg id => simp [select, fire_fromSip]
    | connect call ready => simp [select, fire_fromSip, ready]
    | media id => simp [select, fire_fromSip]
    | dtmf control waiting message digits =>
      rcases control with _ | (_ | _ | _) | (_ | _ | _ | _) | _ <;> cases waiting <;>
        simp [select, fire_fromTg, fire_fromSip, digits]
    | tgEnded control inside call ended =>
      have unready : call.state.getId ≠ .ready := by rcases ended with ended | ended <;> simp [ended]
      rcases control with _ | (_ | _ | _) | (_ | _ | _ | _) | _ <;> cases inside <;>
        simp [select, fire_fromTg, fire_fromSip, selectTop_composite, ended, unready]
    | sipEnded control inside id =>
      rcases control with _ | (_ | _ | _) | (_ | _ | _ | _) | _ <;> cases inside <;>
        simp [select, fire_fromTg, fire_fromSip, selectTop_composite]
    | failed control inside prm =>
      rcases control with _ | (_ | _ | _) | (_ | _ | _ | _) | _ <;> cases inside <;>
        simp [select, fire_fromTg, fire_fromSip, selectTop_composite]

/-- A new machine takes every event that `search_call` makes one for. -/
theorem init_takes {settings : Settings} {event : Event}
    (searched : (∃ call, event = .updateCall call) ∨ ∃ sip, event = .sip sip) :
    select settings .init event ≠ none := by
  intro ignored
  rcases searched with ⟨call, rfl⟩ | ⟨sip, rfl⟩
  · by_cases fresh : call.isOutgoing = false ∧ call.state.getId = .pending
    · by_cases uri : settings.callbackUri = ""
      · rw [select_iff.mpr (.refuse call fresh.1 fresh.2 uri)] at ignored; cases ignored
      · rw [select_iff.mpr (.dial call fresh.1 fresh.2 uri)] at ignored; cases ignored
    · rw [select_iff.mpr (.strayUpdate call fresh)] at ignored; cases ignored
  · cases sip with
    | incomingCall id ext => rw [select_iff.mpr (.accept id ext)] at ignored; cases ignored
    | callStateUpdate id state => rw [select_iff.mpr (.strayState id state)] at ignored; cases ignored
    | callMediaStateUpdate id hasMedia => rw [select_iff.mpr (.strayMedia id hasMedia)] at ignored; cases ignored

end Tg2Sip.StateMachine
