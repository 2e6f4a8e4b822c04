import Tg2Sip.GenDb

/-! `gen_db` keeps to its dialogue. The handlers that wait in its map and the ids that they captured come to one open
question, and whatever is answered late to another one changes nothing. -/

namespace Tg2Sip.GenDb
open Lib Ini Tg2Sip.Configuration

/-- What the handlers can be: each is older than the next query, and captured an id that was there. -/
structure TDClient.Sound (client : TDClient) : Prop where
  older : ∀ id handler, client.handlers id = some handler → id.toNat ≤ client.currentQueryId.toNat
  past : ∀ id captured, client.handlers id = some (.authentication captured) →
    captured.toNat ≤ client.authenticationQueryId.toNat

/-- Nobody waits for the answer to the current question. -/
def TDClient.Quiet (client : TDClient) :
    Prop := ∀ id, client.handlers id ≠ some (.authentication client.authenticationQueryId)

/-- What the client has beside its handlers. -/
structure Same (client : TDClient) (dialogue : Dialogue) : Prop where
  members : client.members = dialogue.members
  input : client.input = dialogue.input
  done : client.sequenceDone = dialogue.done
  authorization : client.authorizationState = dialogue.authorization
  sent : client.currentQueryId = dialogue.sent

structure Refines (client : TDClient) (dialogue : Dialogue) : Prop extends Same client dialogue where
  sound : client.Sound
  pending : ∀ id, dialogue.pending = some id ↔ client.handlers id = some (.authentication client.authenticationQueryId)
  entered : dialogue.pending ≠ none → dialogue.authorization ≠ none

namespace TDClient
variable {client : TDClient} {dialogue : Dialogue}

private theorem next_toNat {id : UInt64} (room : id.toNat + 1 < 2 ^ 64) : (id + 1).toNat = id.toNat + 1 := by
  have one : (1 : UInt64).toNat = 1 := rfl
  rw [UInt64.toNat_add, one]
  exact Nat.mod_eq_of_lt room

private theorem unused (sound : client.Sound) (room : client.currentQueryId.toNat + 1 < 2 ^ 64) :
    client.handlers (client.currentQueryId + 1) = none := by
  cases held : client.handlers (client.currentQueryId + 1) with
  | none => rfl
  | some handler =>
    have old := sound.older _ _ held
    rw [next_toNat room] at old
    omega

/-- A query with a handler. -/
theorem sendQuery_handlers (sound : client.Sound) (room : client.currentQueryId.toNat + 1 < 2 ^ 64)
    (query : Query) (handler : Handler) (id : UInt64) :
    (client.sendQuery query handler).1.handlers id = if id = client.currentQueryId + 1 then some handler
      else client.handlers id := by
  have added : (client.sendQuery query handler).1.handlers =
    client.handlers.emplace (client.currentQueryId + 1) handler := rfl
  rw [added]
  split
  next same => rw [same, Map.emplace_same, unused sound room, Option.getD_none]
  next other => exact Map.emplace_other _ _ other

theorem sendQuery_sound (sound : client.Sound) (room : client.currentQueryId.toNat + 1 < 2 ^ 64) (query : Query)
    {handler : Handler} (captured : handler = .ignore ∨ handler = client.createAuthenticationQueryHandler) :
    (client.sendQuery query handler).1.Sound where
  older := fun id other held => by
    have count : (client.sendQuery query handler).1.currentQueryId = client.currentQueryId + 1 := rfl
    rw [sendQuery_handlers sound room] at held
    rw [count, next_toNat room]
    split at held
    next same => rw [same, next_toNat room]
    next => exact Nat.le_succ_of_le (sound.older id other held)
  past := fun id generation held => by
    rw [sendQuery_handlers sound room] at held
    split at held
    next same =>
      obtain rfl | rfl := captured
      · cases held
      · cases held; exact Nat.le_refl _
    next => exact sound.past id generation held

/-- Who waits for the answer to the current question, once it is asked. -/
theorem sendQuery_pending (sound : client.Sound) (quiet : client.Quiet)
    (room : client.currentQueryId.toNat + 1 < 2 ^ 64) (query : Query) (id : UInt64) :
    some (client.currentQueryId + 1) = some id ↔
      (client.sendQuery query client.createAuthenticationQueryHandler).1.handlers id =
      some (.authentication client.authenticationQueryId) := by
  rw [sendQuery_handlers sound room]
  by_cases same : id = client.currentQueryId + 1
  · simp [same, createAuthenticationQueryHandler]
  · simp [same, Ne.symm same, quiet id]

theorem sendQuery_quiet (sound : client.Sound) (quiet : client.Quiet)
    (room : client.currentQueryId.toNat + 1 < 2 ^ 64) (query : Query) :
    (client.sendQuery query .ignore).1.Quiet := by
  intro id
  rw [sendQuery_handlers sound room]
  split
  · simp
  · exact quiet id

/-- A question, asked in the manner of `TDClient`. -/
def pose (client : TDClient) (question : Question) : TDClient × List Output :=
  let query := question.query (words client.input question.prompts.length)
  let asked := { client with input := client.input.drop question.prompts.length }
  let (client, others) := match question.other with
    | none => (asked, [])
    | some query => asked.sendQuery query .ignore
  let (client, sent) := client.sendQuery query client.createAuthenticationQueryHandler
  (client, question.prompts.map .printed ++ others ++ sent)

theorem onAuthorizationState_eq (client : TDClient) (authorization : Authorization) :
    client.onAuthorizationState authorization =
    match question client.members authorization.state with
    | none =>
      ({ client with sequenceDone := client.sequenceDone || authorization.ends }, [.printed authorization.notice])
    | some question => client.pose question := by
  obtain ⟨state, link⟩ := authorization
  obtain ⟨members, input, done, given, current, generation, handlers⟩ := client
  cases state with
  | waitCode | waitPassword | waitPhoneNumber => cases input <;> rfl
  | waitRegistration =>
    cases input with
    | nil => rfl
    | cons firstName input => cases input <;> rfl
  | waitTdlibParameters => rfl
  | ready | loggingOut | closed => simp [onAuthorizationState, question, Authorization.ends, Authorization.notice]
  | closing | waitOtherDeviceConfirmation | waitPremiumPurchase | waitEmailAddress | waitEmailCode =>
    simp [onAuthorizationState, question, Authorization.ends, Authorization.notice]

theorem onAuthorizationStateUpdate_eq {authorization : Authorization}
    (given : client.authorizationState = some authorization) :
    client.onAuthorizationStateUpdate =
      { client with authenticationQueryId := client.authenticationQueryId + 1 }.onAuthorizationState authorization := by
  simp only [onAuthorizationStateUpdate, given]

end TDClient

variable {client : TDClient} {dialogue : Dialogue}

/-- The same state is entered in both. -/
private theorem enters (client : TDClient) (sound : client.Sound) (quiet : client.Quiet)
    (room : client.currentQueryId.toNat + 2 < 2 ^ 64) (members : client.members = dialogue.members)
    (input : client.input = dialogue.input) (done : client.sequenceDone = dialogue.done)
    (sent : client.currentQueryId = dialogue.sent) (authorization : Authorization)
    (given : client.authorizationState = some authorization) :
    (client.onAuthorizationState authorization).2 = (dialogue.enter authorization).2 ∧
      Refines (client.onAuthorizationState authorization).1 (dialogue.enter authorization).1 := by
  rw [TDClient.onAuthorizationState_eq, Dialogue.enter, members, ← input, ← done, ← sent]
  cases question dialogue.members authorization.state with
  | none =>
    dsimp only
    refine ⟨rfl, ⟨rfl, rfl, rfl, given, rfl⟩, ⟨sound.older, sound.past⟩, fun id => ?_, by simp⟩
    simpa using quiet id
  | some question =>
    have asked : ∀ words, ({ client with input := words } : TDClient).Sound ∧
        ({ client with input := words } : TDClient).Quiet :=
      fun words => ⟨⟨sound.older, sound.past⟩, quiet⟩
    obtain ⟨prompts, other, query⟩ := question
    obtain ⟨sound, quiet⟩ := asked (client.input.drop prompts.length)
    cases other with
    | none =>
      have pending :=
        TDClient.sendQuery_pending sound quiet (Nat.lt_of_succ_lt room) (query (words client.input prompts.length))
      refine ⟨rfl, ⟨members, rfl, rfl, given, rfl⟩,
        TDClient.sendQuery_sound sound (Nat.lt_of_succ_lt room) (query (words client.input prompts.length))
          (.inr rfl), pending, by simp⟩
    | some proxy =>
      have first :
          ({ client with input := client.input.drop prompts.length }.sendQuery proxy .ignore).1.currentQueryId.toNat =
          client.currentQueryId.toNat + 1 := TDClient.next_toNat (Nat.lt_of_succ_lt room)
      have silent := TDClient.sendQuery_quiet sound quiet (Nat.lt_of_succ_lt room) proxy
      have older := TDClient.sendQuery_sound sound (Nat.lt_of_succ_lt room) proxy (.inl rfl)
      have pending :=
        TDClient.sendQuery_pending older silent (by rw [first]; exact room) (query (words client.input prompts.length))
      have second : client.currentQueryId + 2 = client.currentQueryId + 1 + 1 := by rw [UInt64.add_assoc]; rfl
      have ids : (client.pose ⟨prompts, some proxy, query⟩).2 =
        prompts.map .printed ++ [.sent (client.currentQueryId + 1) proxy] ++
          [.sent (client.currentQueryId + 2) (query (words client.input prompts.length))] := by rw [second]; rfl
      refine ⟨ids, ⟨members, rfl, rfl, given, second.symm⟩, ?_, ?_, by simp⟩
      · exact TDClient.sendQuery_sound older (by rw [first]; exact room)
          (query (words client.input prompts.length)) (.inr rfl)
      · intro id
        simp only [Option.isSome_some, if_true, second]
        exact pending id

/-- One step ahead in the numbers of states that were entered. -/
private theorem updates (client : TDClient) (sound : client.Sound)
    (room : client.currentQueryId.toNat + 2 < 2 ^ 64) (fresh : client.authenticationQueryId.toNat + 1 < 2 ^ 64)
    (members : client.members = dialogue.members) (input : client.input = dialogue.input)
    (done : client.sequenceDone = dialogue.done) (sent : client.currentQueryId = dialogue.sent)
    (authorization : Authorization) (given : client.authorizationState = some authorization) :
    client.onAuthorizationStateUpdate.2 = (dialogue.enter authorization).2 ∧
      Refines client.onAuthorizationStateUpdate.1 (dialogue.enter authorization).1 := by
  rw [TDClient.onAuthorizationStateUpdate_eq given]
  have later := TDClient.next_toNat fresh
  refine enters { client with authenticationQueryId := client.authenticationQueryId + 1 }
    ⟨sound.older, fun id captured held => ?_⟩ (fun id held => ?_) room members input done sent authorization given
  · rw [later]
    exact Nat.le_succ_of_le (sound.past id captured held)
  · have old := sound.past id _ held
    dsimp only at old
    omega

private theorem erase_sound (sound : client.Sound) (id : UInt64) :
    ({ client with handlers := client.handlers.erase id } : TDClient).Sound := by
  have within : ∀ other handler, client.handlers.erase id other = some handler →
      client.handlers other = some handler := by
    intro other handler held
    by_cases same : other = id
    · rw [same, Map.erase_same] at held
      cases held
    · rwa [Map.erase_other _ same] at held
  exact ⟨fun other handler held => sound.older other handler (within _ _ held),
    fun other captured held => sound.past other captured (within _ _ held)⟩

/-- The entry of a query that nobody waits for goes. -/
private theorem erases (refines : Refines client dialogue) {id : UInt64} (apart : dialogue.pending ≠ some id) :
    Refines { client with handlers := client.handlers.erase id } dialogue := by
  refine ⟨⟨refines.members, refines.input, refines.done, refines.authorization, refines.sent⟩,
    erase_sound refines.sound id, fun other => ?_, refines.entered⟩
  dsimp only
  by_cases same : other = id
  · rw [same, Map.erase_same]
    simpa using apart
  · rw [Map.erase_other _ same]
    exact refines.pending other

/-- The open question is answered. -/
private theorem answers (refines : Refines client dialogue) {id : UInt64} (own : dialogue.pending = some id) :
    Refines { client with handlers := client.handlers.erase id } { dialogue with pending := none } := by
  refine ⟨⟨refines.members, refines.input, refines.done, refines.authorization, refines.sent⟩,
    erase_sound refines.sound id, fun other => ?_, by simp⟩
  dsimp only
  by_cases same : other = id
  · rw [same, Map.erase_same]
    simp
  · rw [Map.erase_other _ same, ← refines.pending other, own]
    simp [Ne.symm same]

/-- A question that is asked now has a query that was not sent before. -/
private theorem enter_newer {authorization : Authorization} {id : UInt64} (room : dialogue.sent.toNat + 2 < 2 ^ 64)
    (pending : (dialogue.enter authorization).1.pending = some id) : dialogue.sent.toNat < id.toNat := by
  unfold Dialogue.enter at pending
  split at pending
  next => cases pending
  next question _ =>
    have two : (2 : UInt64).toNat = 2 := rfl
    have one : (1 : UInt64).toNat = 1 := rfl
    rw [← Option.some.inj pending]
    split <;> rw [UInt64.toNat_add] <;> omega

/-- A response to a query. -/
private theorem Refines.response (refines : Refines client dialogue) (room : client.currentQueryId.toNat + 2 < 2 ^ 64)
    (fresh : client.authenticationQueryId.toNat + 1 < 2 ^ 64) {id : UInt64} (query : id ≠ 0) (object : Object) :
    (client.processResponse ⟨id, some object⟩).2 = (dialogue.next ⟨id, some object⟩).2 ∧
      Refines (client.processResponse ⟨id, some object⟩).1 (dialogue.next ⟨id, some object⟩).1 := by
  simp only [TDClient.processResponse, Dialogue.next, if_neg query]
  have waits := refines.pending id
  cases held : client.handlers id with
  | none =>
    rw [held] at waits
    rw [if_neg fun own => by simpa using waits.mp own]
    exact ⟨rfl, refines⟩
  | some handler =>
    rw [held] at waits
    by_cases own : dialogue.pending = some id
    · rw [if_pos own]
      cases Option.some.inj (waits.mp own)
      obtain ⟨authorization, given⟩ := Option.ne_none_iff_exists'.mp (refines.entered (by simp [own]))
      simp only [TDClient.handle, if_true]
      cases object with
      | error text =>
        simp only [given]
        obtain ⟨same, after⟩ :=
          updates client refines.sound room fresh refines.members refines.input refines.done refines.sent authorization
          (refines.authorization.trans given)
        have newer : (dialogue.enter authorization).1.pending ≠ some id := fun again => by
          have later := enter_newer (by rw [← refines.sent]; exact room) again
          have old := refines.sound.older id _ held
          rw [refines.sent] at old
          omega
        exact ⟨congrArg _ same, erases after newer⟩
      | updateAuthorizationState | other => exact ⟨rfl, answers refines own⟩
    · rw [if_neg own]
      have silent : client.handle object handler = (client, []) := by
        cases handler with
        | ignore => rfl
        | authentication captured =>
          have late : captured ≠ client.authenticationQueryId := fun same => own (waits.mpr (by rw [same]))
          simp only [TDClient.handle, if_neg late]
      dsimp only
      rw [silent]
      exact ⟨rfl, erases refines own⟩

/-- Each response means the same to the client and to the dialogue. -/
theorem Refines.step (refines : Refines client dialogue) (room : client.currentQueryId.toNat + 2 < 2 ^ 64)
    (fresh : client.authenticationQueryId.toNat + 1 < 2 ^ 64) (response : Response) :
    (client.processResponse response).2 = (dialogue.next response).2 ∧
      Refines (client.processResponse response).1 (dialogue.next response).1 := by
  obtain ⟨id, object⟩ := response
  cases object with
  | none => exact ⟨rfl, refines⟩
  | some object =>
    by_cases update : id = 0
    · simp only [TDClient.processResponse, Dialogue.next, if_pos update]
      cases object with
      | updateAuthorizationState authorization =>
        exact updates { client with authorizationState := some authorization }
          ⟨refines.sound.older, refines.sound.past⟩ room fresh
          refines.members refines.input refines.done refines.sent authorization rfl
      | error | other => exact ⟨rfl, refines⟩
    · exact refines.response room fresh update object

private theorem add_counts (id count : UInt64) : (id + count).toNat ≤ id.toNat + count.toNat := by
  rw [UInt64.toNat_add]
  exact Nat.mod_le _ _

private theorem update_counts (client : TDClient) :
    client.onAuthorizationStateUpdate.1.currentQueryId.toNat ≤ client.currentQueryId.toNat + 2 ∧
    client.onAuthorizationStateUpdate.1.authenticationQueryId.toNat ≤ client.authenticationQueryId.toNat + 1 := by
  have one := add_counts client.currentQueryId 1
  have two := add_counts (client.currentQueryId + 1) 1
  have next := add_counts client.authenticationQueryId 1
  have unit : (1 : UInt64).toNat = 1 := rfl
  unfold TDClient.onAuthorizationStateUpdate
  dsimp only
  split
  next => exact ⟨Nat.le_add_right _ _, by dsimp only; omega⟩
  next authorization _ =>
    rw [TDClient.onAuthorizationState_eq]
    split
    next => exact ⟨by dsimp only; omega, by dsimp only; omega⟩
    next question _ =>
      obtain ⟨prompts, other, query⟩ := question
      cases other <;> exact ⟨by simp only [TDClient.pose, TDClient.sendQuery]; omega,
        by simp only [TDClient.pose, TDClient.sendQuery]; omega⟩

theorem processResponse_counts (client : TDClient) (response : Response) :
    (client.processResponse response).1.currentQueryId.toNat ≤ client.currentQueryId.toNat + 2 ∧
      (client.processResponse response).1.authenticationQueryId.toNat ≤ client.authenticationQueryId.toNat + 1 := by
  have counts := update_counts client
  unfold TDClient.processResponse
  split
  next => exact ⟨Nat.le_add_right _ _, Nat.le_add_right _ _⟩
  next object _ =>
    split
    next =>
      cases object with
      | updateAuthorizationState authorization =>
        exact update_counts { client with authorizationState := some authorization }
      | error | other => exact ⟨Nat.le_add_right _ _, Nat.le_add_right _ _⟩
    next =>
      split
      next => exact ⟨Nat.le_add_right _ _, Nat.le_add_right _ _⟩
      next handler _ =>
        cases handler with
        | ignore => exact ⟨Nat.le_add_right _ _, Nat.le_add_right _ _⟩
        | authentication captured =>
          simp only [TDClient.handle]
          split
          · cases object with
            | error text => exact counts
            | updateAuthorizationState | other => exact ⟨Nat.le_add_right _ _, Nat.le_add_right _ _⟩
          · exact ⟨Nat.le_add_right _ _, Nat.le_add_right _ _⟩

private theorem runs (refines : Refines client dialogue) (responses : List Response)
    (room : client.currentQueryId.toNat + 2 * responses.length < 2 ^ 64)
    (fresh : client.authenticationQueryId.toNat + responses.length < 2 ^ 64) :
    (client.auth responses).2 = (dialogue.run responses).2 ∧
      Refines (client.auth responses).1 (dialogue.run responses).1 := by
  induction responses generalizing client dialogue with
  | nil => exact ⟨rfl, refines⟩
  | cons response responses ih =>
    rw [List.length_cons] at room fresh
    simp only [TDClient.auth, Dialogue.run, refines.done]
    split
    next => exact ⟨rfl, refines⟩
    next =>
      obtain ⟨same, after⟩ := refines.step (by omega) (by omega) response
      obtain ⟨queries, generations⟩ := processResponse_counts client response
      obtain ⟨rest, final⟩ := ih after (by omega) (by omega)
      exact ⟨by rw [same, rest], final⟩

/-- `gen_db` does what the dialogue does, whatever TDLib answers and however late: the map of handlers and the
ids that they captured come to one open question. -/
theorem auth_is_a_dialogue (members : Members) (input : List Text) (responses : List Response)
    (short : 2 * responses.length < 2 ^ 64) :
    (({ members, input } : TDClient).auth responses).2 = (({ members, input } : Dialogue).run responses).2 ∧
      (({ members, input } : TDClient).auth responses).1.input =
        (({ members, input } : Dialogue).run responses).1.input ∧
        (({ members, input } : TDClient).auth responses).1.sequenceDone =
          (({ members, input } : Dialogue).run responses).1.done := by
  have initial : Refines { members, input } { members, input } :=
    ⟨⟨rfl, rfl, rfl, rfl, rfl⟩, ⟨by simp, by simp⟩, by simp, by simp⟩
  have zero : (0 : UInt64).toNat = 0 := rfl
  obtain ⟨same, final⟩ := runs initial responses (by dsimp only; omega) (by dsimp only; omega)
  exact ⟨same, final.input, final.done⟩

/-- A code is refused, and refused again after the question was asked anew. -/
def sampleResponses : List Response := [
  ⟨0, some (.updateAuthorizationState { state := .waitCode })⟩,
  ⟨1, some (.error "PHONE_CODE_INVALID")⟩,
  ⟨1, some (.error "PHONE_CODE_INVALID")⟩,
  ⟨2, some .other⟩,
  ⟨0, some (.updateAuthorizationState { state := .ready })⟩]

theorem second_refusal_is_ignored : 2 * sampleResponses.length < 2 ^ 64 ∧
    (({ members := .read (.ofFile none), input := ["1".toList, "2".toList] } : TDClient).auth sampleResponses).2 = [
      .printed "Enter authentication code: ", .sent 1 (.checkAuthenticationCode "1".toList),
      .printed "Error: PHONE_CODE_INVALID",
      .printed "Enter authentication code: ", .sent 2 (.checkAuthenticationCode "2".toList),
      .printed "Authorization OK\n"] := by
  have short : 2 * sampleResponses.length < 2 ^ 64 := by decide
  exact ⟨short, (auth_is_a_dialogue _ _ sampleResponses short).1.trans (by decide)⟩

/-! What becomes of the words that are typed. -/

/-- What the user typed in a query. -/
def Query.words : Query → List Text
  | .request _ => []
  | .checkAuthenticationCode code => [code]
  | .registerUser firstName lastName => [firstName, lastName]
  | .checkAuthenticationPassword password => [password]
  | .setAuthenticationPhoneNumber phoneNumber => [phoneNumber]

def sentWords (seen : List Output) : List Text := seen.flatMap fun
  | .sent _ query => query.words
  | _ => []

@[simp] theorem sentWords_append (past seen : List Output) :
    sentWords (past ++ seen) = sentWords past ++ sentWords seen := List.flatMap_append

@[simp] theorem sentWords_printed (texts : List String) : sentWords (texts.map .printed) = [] := by
  simp [sentWords, List.flatMap_map]

@[simp] theorem sentWords_sent (id : UInt64) (query : Query) (seen : List Output) :
    sentWords (.sent id query :: seen) = query.words ++ sentWords seen := List.flatMap_cons

@[simp] theorem sentWords_nil : sentWords [] = [] := rfl

private theorem question_words {members : Members} {state : Tg.AuthorizationState} {asked : Question}
    (given : question members state = some asked) (input : List Text) :
    (asked.query (words input asked.prompts.length)).words = words input asked.prompts.length ∧
      ∀ other ∈ asked.other, other.words = [] := by
  cases state <;> cases given <;> simp [words, List.range_succ, Query.words]

private theorem words_add (input : List Text) (first second : Nat) :
    words input (first + second) = words input first ++ words (input.drop first) second := by
  simp [words, List.range_add, List.getD_eq_getElem?_getD, Function.comp_def]

/-- As many words are read as are sent. -/
private theorem update_words (client : TDClient) :
    ∃ count, sentWords client.onAuthorizationStateUpdate.2 = words client.input count ∧
    client.onAuthorizationStateUpdate.1.input = client.input.drop count := by
  unfold TDClient.onAuthorizationStateUpdate
  dsimp only
  split
  next => exact ⟨0, rfl, rfl⟩
  next authorization _ =>
    rw [TDClient.onAuthorizationState_eq]
    split
    next => exact ⟨0, rfl, rfl⟩
    next question given =>
      obtain ⟨own, aside⟩ := question_words given client.input
      obtain ⟨prompts, other, query⟩ := question
      refine ⟨prompts.length, ?_, ?_⟩
      · cases other with
        | none => simpa [TDClient.pose, TDClient.sendQuery] using own
        | some proxy =>
          have silent := aside proxy rfl
          simpa [TDClient.pose, TDClient.sendQuery, silent] using own
      · cases other <;> rfl

private theorem response_words (client : TDClient) (response : Response) :
    ∃ count, sentWords (client.processResponse response).2 = words client.input count ∧
    (client.processResponse response).1.input = client.input.drop count := by
  have none : ∃ count, sentWords [] = words client.input count ∧ client.input = client.input.drop count := ⟨0, rfl, rfl⟩
  unfold TDClient.processResponse
  split
  next => exact none
  next object _ =>
    split
    next =>
      cases object with
      | updateAuthorizationState authorization =>
        exact update_words { client with authorizationState := some authorization }
      | error | other => exact none
    next =>
      split
      next => exact none
      next handler _ =>
        cases handler with
        | ignore => exact none
        | authentication captured =>
          simp only [TDClient.handle]
          split
          · cases object with
            | error text => exact update_words client
            | updateAuthorizationState | other => exact none
          · exact none

/-- The words that are typed are sent in their order, each once and none but these, whatever TDLib answers. -/
theorem typed_words_are_sent (client : TDClient) (responses : List Response) : ∃ count,
    sentWords (client.auth responses).2 = words client.input count ∧
      (client.auth responses).1.input = client.input.drop count := by
  induction responses generalizing client with
  | nil => exact ⟨0, rfl, rfl⟩
  | cons response responses ih =>
    simp only [TDClient.auth]
    split
    next => exact ⟨0, rfl, rfl⟩
    next =>
      obtain ⟨first, sent, left⟩ := response_words client response
      obtain ⟨rest, later, final⟩ := ih (client.processResponse response).1
      refine ⟨first + rest, ?_, ?_⟩
      · rw [sentWords_append, sent, later, left, words_add]
      · rw [final, left, List.drop_drop]

/-! When it ends. -/

/-- A state that ends the loop was entered only by ending it. -/
def TDClient.Running (client : TDClient) : Prop :=
  ∀ authorization, client.authorizationState = some authorization → authorization.ends = true →
    client.sequenceDone = true

/-- The updates that end the loop. -/
def Response.ends (response : Response) : Prop :=
  response.id = 0 ∧ ∃ authorization, response.object = some (.updateAuthorizationState authorization) ∧
    authorization.ends = true

private theorem entered_done (client : TDClient) (authorization : Authorization) :
    (client.onAuthorizationState authorization).1.sequenceDone = (client.sequenceDone || authorization.ends) ∧
      (client.onAuthorizationState authorization).1.authorizationState = client.authorizationState := by
  rw [TDClient.onAuthorizationState_eq]
  split
  next => exact ⟨rfl, rfl⟩
  next question given =>
    have goes : authorization.ends = false := by
      obtain ⟨state, link⟩ := authorization
      cases state <;> first | rfl | cases given
    rw [goes, Bool.or_false]
    obtain ⟨prompts, other, query⟩ := question
    cases other <;> exact ⟨rfl, rfl⟩

private theorem update_done (client : TDClient) {authorization : Authorization}
    (given : client.authorizationState = some authorization) :
    client.onAuthorizationStateUpdate.1.sequenceDone = (client.sequenceDone || authorization.ends) ∧
      client.onAuthorizationStateUpdate.1.authorizationState = some authorization := by
  rw [TDClient.onAuthorizationStateUpdate_eq given]
  obtain ⟨done, same⟩ :=
    entered_done { client with authenticationQueryId := client.authenticationQueryId + 1 } authorization
  exact ⟨done, same.trans given⟩

/-- A refusal asks again, and ends nothing. -/
private theorem handle_done (client : TDClient) (running : client.Running) (object : Object) (handler : Handler) :
    (client.handle object handler).1.sequenceDone = client.sequenceDone ∧
      (client.handle object handler).1.authorizationState = client.authorizationState := by
  cases handler with
  | ignore => exact ⟨rfl, rfl⟩
  | authentication captured =>
    simp only [TDClient.handle]
    split
    next =>
      cases object with
      | updateAuthorizationState | other => exact ⟨rfl, rfl⟩
      | error text =>
        cases given : client.authorizationState with
        | none =>
          simp only [TDClient.checkAuthenticationError, TDClient.onAuthorizationStateUpdate, given, and_self]
        | some authorization =>
          obtain ⟨done, same⟩ := update_done client given
          refine ⟨done.trans ?_, same⟩
          cases ends : authorization.ends with
          | false => exact Bool.or_false _
          | true => rw [Bool.or_true, running authorization given ends]
    next => exact ⟨rfl, rfl⟩

private theorem response_done (client : TDClient) (running : client.Running) (response : Response) :
    (client.processResponse response).1.Running ∧
      ((client.processResponse response).1.sequenceDone = true ↔ client.sequenceDone = true ∨ response.ends) := by
  obtain ⟨id, object⟩ := response
  cases object with
  | none => exact ⟨running, by simp [TDClient.processResponse, Response.ends]⟩
  | some object =>
    by_cases update : id = 0
    · subst update
      cases object with
      | updateAuthorizationState authorization =>
        obtain ⟨done, entered⟩ := update_done { client with authorizationState := some authorization } rfl
        simp only [TDClient.processResponse, if_true, TDClient.processUpdate, TDClient.Running, done, entered,
          Response.ends]
        refine ⟨fun other same ends => ?_, by simp⟩
        rw [Option.some.inj same, ends, Bool.or_true]
      | error | other => exact ⟨running, by simp [TDClient.processResponse, TDClient.processUpdate, Response.ends]⟩
    · simp only [Response.ends, update, false_and, or_false, TDClient.processResponse, if_false]
      cases client.handlers id with
      | none => exact ⟨running, Iff.rfl⟩
      | some handler =>
        obtain ⟨done, same⟩ := handle_done client running object handler
        refine ⟨fun authorization given ends => ?_, by dsimp only; rw [done]⟩
        dsimp only at given ⊢
        rw [same] at given
        rw [done, running authorization given ends]

private theorem run_done (client : TDClient) (running : client.Running) (responses : List Response) :
    (client.auth responses).1.sequenceDone = true ↔
      client.sequenceDone = true ∨ ∃ response ∈ responses, response.ends := by
  induction responses generalizing client with
  | nil => simp [TDClient.auth]
  | cons response responses ih =>
    obtain ⟨still, done⟩ := response_done client running response
    cases ended : client.sequenceDone with
    | true => simp [TDClient.auth, ended]
    | false =>
      rw [ended] at done
      have later := ih _ still
      rw [done] at later
      simpa [TDClient.auth, ended] using later

/-- The loop ends if and only if TDLib says that the client is signed on, logs out or is closed: no answer to a
query ends it. -/
theorem auth_ends_iff (members : Members) (input : List Text) (responses : List Response) :
    (({ members, input } : TDClient).auth responses).1.sequenceDone = true ↔ ∃ response ∈ responses, response.ends := by
  have running : ({ members, input } : TDClient).Running := fun authorization given => nomatch given
  rw [run_done _ running]
  exact or_iff_right Bool.false_ne_true

end Tg2Sip.GenDb
