import Mathlib.Data.List.Induction
import Tg2Sip.Lib.Run
import Tg2Sip.TgClient

/-! Queries and responses. A query gets its number before its handler is registered, and its handler
is registered before it is sent, so that whatever the threads do in between no response
finds a handler that is not its own. -/

namespace Tg2Sip.Tg
open Lib

variable {τ φ ο : Type}

def Event.numbers : Event φ ο → Bool
  | .numbered .. => true
  | _ => false

def Event.fulfils (promise : Nat) : Event φ ο → Bool
  | .fulfilled other .. => decide (other = promise)
  | _ => false

/-- Whether a query is registered and no response has come since. -/
def waits (id : QueryId) (past : List (Event φ ο)) : Bool :=
  past.foldl (fun waiting event => match event with
    | .registered other => waiting || other == id
    | .received other _ => waiting && other != id
    | _ => waiting) false

@[simp] theorem waits_append (id : QueryId) (past : List (Event φ ο)) (event : Event φ ο) : waits id (past ++ [event]) =
    match event with
    | .registered other => waits id past || other == id
    | .received other _ => waits id past && other != id
    | _ => waits id past := by
  cases event <;> simp [waits]

theorem registered_of_waits {id : QueryId} {past : List (Event φ ο)} (waiting : waits id past = true) :
    .registered id ∈ past := by
  induction past using List.reverseRecOn with
  | nil => cases waiting
  | append_singleton past event ih =>
    rw [waits_append] at waiting
    refine List.mem_append.mpr ?_
    cases event with
    | registered other =>
      rcases Bool.or_eq_true_iff.mp waiting with old | now
      · exact .inl (ih old)
      · exact .inr (by simp [eq_of_beq now])
    | received other object => exact .inl (ih (Bool.and_eq_true_iff.mp waiting).1)
    | _ => exact .inl (ih waiting)

/-- A number was given, and if there is a handler for the response it is registered. -/
structure Ready (past : List (Event φ ο)) (id : QueryId) : Prop where
  numbered : ∃ handler, .numbered id handler ∈ past
  registered : ∀ handler, .numbered id (some handler) ∈ past → .registered id ∈ past

/-- Numbers are given once, and promises to one query each. -/
structure Numbered (past : List (Event φ ο)) (client : Client τ φ ο) : Prop where
  counted : client.currentQueryId.toNat = past.countP Event.numbers
  bounded : ∀ id handler, .numbered id handler ∈ past → 0 < id.toNat ∧ id.toNat ≤ client.currentQueryId.toNat
  unique : ∀ id first second, .numbered id first ∈ past → .numbered id second ∈ past → first = second
  made : ∀ id promise, .numbered id (some (.promise promise)) ∈ past → promise < client.promises
  single : ∀ first second promise, .numbered first (some (.promise promise)) ∈ past →
    .numbered second (some (.promise promise)) ∈ past → first = second

/-- Where the threads are. -/
structure Sendings (past : List (Event φ ο)) (client : Client τ φ ο) : Prop where
  registering : ∀ thread function handler id, client.sending thread = .register function handler id →
    .numbered id (some handler) ∈ past ∧ .registered id ∉ past
  apart : ∀ thread other function other' handler handler' id, client.sending thread = .register function handler id →
    client.sending other = .register other' handler' id → thread = other
  sending : ∀ thread function id, client.sending thread = .send function id → Ready past id
  sent : ∀ id function, .sent id function ∈ past → Ready past id
  registered : ∀ id, .registered id ∈ past → ∃ handler, .numbered id (some handler) ∈ past

/-- What the handlers and the promises say about the history. -/
structure Answers (past : List (Event φ ο)) (client : Client τ φ ο) : Prop where
  own : ∀ id handler, client.handlers id = some handler → .numbered id (some handler) ∈ past
  waiting : ∀ id, (client.handlers id).isSome = waits id past
  answered : ∀ id promise, .registered id ∈ past → .numbered id (some (.promise promise)) ∈ past →
    client.handlers id = some (.promise promise) ∨ ∃ object, .fulfilled promise id object ∈ past
  fulfilled : ∀ promise id object, .fulfilled promise id object ∈ past → .numbered id (some (.promise promise)) ∈ past ∧
    .registered id ∈ past ∧ client.handlers id = none ∧ .received id object ∈ past ∧ id ≠ 0
  set : ∀ promise object, client.values promise = some object → ∃ id, .fulfilled promise id object ∈ past
  once : ∀ promise, past.countP (Event.fulfils promise) = if (client.values promise).isSome then 1 else 0
  accepted : ∀ promise, .refused promise ∉ past

structure Correlated (past : List (Event φ ο)) (client : Client τ φ ο) : Prop where
  numbered : Numbered past client
  sendings : Sendings past client
  answers : Answers past client

theorem Correlated.initial : Correlated ([] : List (Event φ ο)) ({} : Client τ φ ο) := by
  refine ⟨⟨rfl, ?_, ?_, ?_, ?_⟩, ⟨?_, ?_, ?_, ?_, ?_⟩, ⟨?_, fun id => rfl, ?_, ?_, ?_, fun promise => rfl, ?_⟩⟩
  all_goals simp [Map.empty]

section Steps
variable {past seen : List (Event φ ο)} {client after : Client τ φ ο} {thread : τ} {function : φ}

/-- The number that a call gets is new. -/
theorem Numbered.fresh (numbered : Numbered past client) (few : past.countP Event.numbers + 1 < 2 ^ 64) :
    (client.currentQueryId + 1).toNat = client.currentQueryId.toNat + 1 ∧
      ∀ handler, .numbered (client.currentQueryId + 1) handler ∉ past := by
  have counted := numbered.counted
  have next : (client.currentQueryId + 1).toNat = client.currentQueryId.toNat + 1 := by
    rw [UInt64.toNat_add, show (1 : UInt64).toNat = 1 from rfl]
    omega
  refine ⟨next, fun handler old => ?_⟩
  have bounded := (numbered.bounded _ _ old).2
  omega

theorem Numbered.call (numbered : Numbered past client) (few : past.countP Event.numbers + 1 < 2 ^ 64)
    {handler : Option Handler} (more : client.promises ≤ after.promises)
    (counter : after.currentQueryId = client.currentQueryId + 1)
    (fresh : ∀ promise, handler = some (.promise promise) → client.promises ≤ promise ∧ promise < after.promises) :
    Numbered (past ++ [.numbered (client.currentQueryId + 1) handler]) after := by
  obtain ⟨next, new⟩ := numbered.fresh few
  have counted := numbered.counted
  refine ⟨?_, fun id other member => ?_, fun id first second given again => ?_, fun id promise member => ?_,
    fun first second promise given again => ?_⟩
  · simp [counter, next, counted, Event.numbers]
  · rw [counter, next]
    rcases List.mem_append.mp member with old | now
    · have bounded := numbered.bounded id other old
      omega
    · cases List.mem_singleton.mp now
      omega
  · rcases List.mem_append.mp given with old | now <;> rcases List.mem_append.mp again with oldToo | nowToo
    · exact numbered.unique id first second old oldToo
    · cases List.mem_singleton.mp nowToo; exact absurd old (new first)
    · cases List.mem_singleton.mp now; exact absurd oldToo (new second)
    · cases List.mem_singleton.mp now; cases List.mem_singleton.mp nowToo; rfl
  · rcases List.mem_append.mp member with old | now
    · exact Nat.lt_of_lt_of_le (numbered.made id promise old) more
    · cases List.mem_singleton.mp now; exact (fresh promise rfl).2
  · rcases List.mem_append.mp given with old | now <;> rcases List.mem_append.mp again with oldToo | nowToo
    · exact numbered.single first second promise old oldToo
    · cases List.mem_singleton.mp nowToo
      exact absurd (numbered.made first promise old) (Nat.not_lt_of_le (fresh promise rfl).1)
    · cases List.mem_singleton.mp now
      exact absurd (numbered.made second promise oldToo) (Nat.not_lt_of_le (fresh promise rfl).1)
    · cases List.mem_singleton.mp now; cases List.mem_singleton.mp nowToo; rfl

/-- Nothing else gives numbers. -/
theorem Numbered.keeps (numbered : Numbered past client)
    (counter : after.currentQueryId = client.currentQueryId) (promises : after.promises = client.promises)
    (quiet : ∀ id handler, .numbered id handler ∉ seen) : Numbered (past ++ seen) after := by
  have old : ∀ {id handler}, .numbered id handler ∈ past ++ seen → .numbered id handler ∈ past :=
    fun member => (List.mem_append.mp member).resolve_right (quiet _ _)
  have none : seen.countP Event.numbers = 0 := by
    refine List.countP_eq_zero.mpr fun event member => ?_
    cases event with
    | numbered id handler => exact absurd member (quiet id handler)
    | _ => simp [Event.numbers]
  refine ⟨?_, fun id handler member => ?_,
    fun id first second given again => numbered.unique id first second (old given) (old again),
    fun id promise member => ?_,
      fun first second promise given again => numbered.single first second promise (old given) (old again)⟩
  · rw [counter, List.countP_append, none, numbered.counted]
    rfl
  · rw [counter]
    exact numbered.bounded id handler (old member)
  · rw [promises]
    exact numbered.made id promise (old member)

theorem Ready.append {id : QueryId} (ready : Ready past id)
    (same : ∀ handler, .numbered id handler ∈ seen → .numbered id handler ∈ past) :
    Ready (past ++ seen) id := by
  obtain ⟨⟨handler, held⟩, registered⟩ := ready
  refine ⟨⟨handler, List.mem_append_left _ held⟩, fun handler member => List.mem_append_left _ (registered handler ?_)⟩
  rcases List.mem_append.mp member with old | now
  · exact old
  · exact same _ now

/-- Some threads go on. What they are about to do is checked, and what the others
were about to do stays as it was. -/
theorem Sendings.advance (sendings : Sendings past client) (moving : τ → Prop)
    (still : ∀ thread, ¬ moving thread → after.sending thread = client.sending thread)
    (numbers : ∀ id handler, .numbered id handler ∈ seen → ∀ other, .numbered id other ∉ past)
    (registering : ∀ thread function handler id, moving thread → after.sending thread = .register function handler id →
      .numbered id (some handler) ∈ past ++ seen ∧ .registered id ∉ past ++ seen ∧
        ∀ other function handler, after.sending other = .register function handler id → other = thread)
    (quiet : ∀ thread function handler id, ¬ moving thread → client.sending thread = .register function handler id →
      .registered id ∉ seen)
    (sending : ∀ thread function id, moving thread → after.sending thread = .send function id → Ready (past ++ seen) id)
    (sent : ∀ id function, .sent id function ∈ seen → Ready (past ++ seen) id)
    (registered : ∀ id, .registered id ∈ seen → ∃ handler, .numbered id (some handler) ∈ past ++ seen) :
    Sendings (past ++ seen) after := by
  have ready : ∀ id, Ready past id → Ready (past ++ seen) id := by
    intro id ready
    obtain ⟨old, held⟩ := ready.numbered
    exact ready.append fun handler member => absurd held (numbers id handler member old)
  refine ⟨fun thread function handler id held => ?_,
    fun thread other function function' handler handler' id held heldToo => ?_,
    fun thread function id held => ?_, fun id function member => ?_, fun id member => ?_⟩
  · by_cases moved : moving thread
    · obtain ⟨given, unregistered, _⟩ := registering thread function handler id moved held
      exact ⟨given, unregistered⟩
    · rw [still thread moved] at held
      obtain ⟨given, unregistered⟩ := sendings.registering thread function handler id held
      refine ⟨List.mem_append_left _ given, fun member => ?_⟩
      exact (List.mem_append.mp member).elim unregistered (quiet thread function handler id moved held)
  · by_cases moved : moving thread
    · exact ((registering thread function handler id moved held).2.2 other function' handler' heldToo).symm
    · by_cases movedToo : moving other
      · exact (registering other function' handler' id movedToo heldToo).2.2 thread function handler held
      · rw [still thread moved] at held
        rw [still other movedToo] at heldToo
        exact sendings.apart thread other function function' handler handler' id held heldToo
  · by_cases moved : moving thread
    · exact sending thread function id moved held
    · rw [still thread moved] at held
      exact ready id (sendings.sending thread function id held)
  · rcases List.mem_append.mp member with old | now
    · exact ready id (sendings.sent id function old)
    · exact sent id function now
  · rcases List.mem_append.mp member with old | now
    · obtain ⟨handler, given⟩ := sendings.registered id old
      exact ⟨handler, List.mem_append_left _ given⟩
    · exact registered id now

/-- Threads that stand still while nothing is said about their queries. -/
theorem Sendings.keeps (sendings : Sendings past client) (still : after.sending = client.sending)
    (quiet : ∀ event ∈ seen, (∀ id handler, event ≠ .numbered id handler) ∧ (∀ id, event ≠ .registered id) ∧
      ∀ id function, event ≠ .sent id function) : Sendings (past ++ seen) after := by
  refine sendings.advance (fun _ => False) (fun thread _ => by rw [still]) (fun id handler member => ?_)
    (fun _ _ _ _ moved => moved.elim) (fun _ _ _ id _ _ member => ?_) (fun _ _ _ moved => moved.elim)
    (fun id function member => ?_) (fun id member => ?_)
  · exact absurd rfl ((quiet _ member).1 id handler)
  · exact (quiet _ member).2.1 id rfl
  · exact absurd rfl ((quiet _ member).2.2 id function)
  · exact absurd rfl ((quiet _ member).2.1 id)

/-- A thread that got a number goes on to register its handler, or to send when it has none. -/
theorem Sendings.call (sendings : Sendings past client) (numbered : Numbered past client)
    (few : past.countP Event.numbers + 1 < 2 ^ 64) (handler : Option Handler)
    (still : ∀ other, other ≠ thread → after.sending other = client.sending other)
    (next : after.sending thread = match handler with
      | some handler => .register function handler (client.currentQueryId + 1)
      | none => .send function (client.currentQueryId + 1)) :
    Sendings (past ++ [.numbered (client.currentQueryId + 1) handler]) after := by
  obtain ⟨_, new⟩ := numbered.fresh few
  have unregistered : .registered (client.currentQueryId + 1) ∉ past := by
    intro member
    obtain ⟨other, given⟩ := sendings.registered _ member
    exact new _ given
  refine sendings.advance (fun other => other = thread) still (fun id other member => ?_)
    (fun current other waiting id moved held => ?_) (fun _ _ _ _ _ _ member => ?_)
      (fun current other id moved held => ?_)
    (fun id other member => ?_) (fun id member => ?_)
  · cases List.mem_singleton.mp member
    exact new
  · subst moved
    rw [next] at held
    cases handler with
    | none => cases held
    | some handler =>
      cases held
      refine ⟨List.mem_append_right _ (.head _), fun member => ?_, fun current function handler held => ?_⟩
      · rcases List.mem_append.mp member with old | now
        · exact unregistered old
        · cases List.mem_singleton.mp now
      · by_contra other
        rw [still current other] at held
        exact new _ (sendings.registering current function handler _ held).1
  · cases List.mem_singleton.mp member
  · subst moved
    rw [next] at held
    cases handler with
    | some handler => cases held
    | none =>
      cases held
      refine ⟨⟨none, List.mem_append_right _ (.head _)⟩, fun handler member => ?_⟩
      rcases List.mem_append.mp member with old | now
      · exact absurd old (new _)
      · cases List.mem_singleton.mp now
  · cases List.mem_singleton.mp member
  · cases List.mem_singleton.mp member

/-- A thread that has registered its handler goes on to send. -/
theorem Sendings.register {handler : Handler} {id : QueryId} (sendings : Sendings past client)
    (waiting : client.sending thread = .register function handler id)
    (still : ∀ other, other ≠ thread → after.sending other = client.sending other)
    (next : after.sending thread = .send function id) : Sendings (past ++ [.registered id]) after := by
  obtain ⟨given, _⟩ := sendings.registering thread function handler id waiting
  refine sendings.advance (fun other => other = thread) still (fun id other member => ?_)
    (fun current other waiting id moved held => ?_) (fun other _ _ number moved held member => ?_)
    (fun current other number moved held => ?_) (fun id other member => ?_) (fun number member => ?_)
  · cases List.mem_singleton.mp member
  · subst moved
    rw [next] at held
    cases held
  · cases List.mem_singleton.mp member
    exact moved (sendings.apart other thread _ _ _ _ id held waiting)
  · subst moved
    rw [next] at held
    cases held
    exact ⟨⟨_, List.mem_append_left _ given⟩, fun _ _ => List.mem_append_right _ (.head _)⟩
  · cases List.mem_singleton.mp member
  · cases List.mem_singleton.mp member
    exact ⟨handler, List.mem_append_left _ given⟩

/-- A thread that has sent is done. -/
theorem Sendings.send {id : QueryId} (sendings : Sendings past client)
    (waiting : client.sending thread = .send function id)
    (still : ∀ other, other ≠ thread → after.sending other = client.sending other)
    (next : after.sending thread = .idle) : Sendings (past ++ [.sent id function]) after := by
  refine sendings.advance (fun other => other = thread) still (fun id other member => ?_)
    (fun current other waiting id moved held => ?_) (fun other _ _ number moved held member => ?_)
    (fun current other number moved held => ?_) (fun number other member => ?_) (fun number member => ?_)
  · cases List.mem_singleton.mp member
  · subst moved
    rw [next] at held
    cases held
  · cases List.mem_singleton.mp member
  · subst moved
    rw [next] at held
    cases held
  · cases List.mem_singleton.mp member
    exact (sendings.sending thread function id waiting).append fun handler member => by
      cases List.mem_singleton.mp member
  · cases List.mem_singleton.mp member

/-- Events that neither register a query nor answer one. -/
def Event.quiet : Event φ ο → Bool
  | .numbered .. | .sent .. | .update _ => true
  | _ => false

theorem Answers.still_fulfilled {promise : Nat} {id : QueryId} {object : ο} (answers : Answers past client)
    (old : .fulfilled promise id object ∈ past)
    (free : .registered id ∈ past → client.handlers id = none → after.handlers id = none) :
    .numbered id (some (.promise promise)) ∈ past ++ seen ∧ .registered id ∈ past ++ seen ∧ after.handlers id = none ∧
      .received id object ∈ past ++ seen ∧ id ≠ 0 := by
  obtain ⟨given, registered, gone, received, nonzero⟩ := answers.fulfilled promise id object old
  exact ⟨List.mem_append_left _ given, List.mem_append_left _ registered, free registered gone,
    List.mem_append_left _ received, nonzero⟩

theorem Answers.still_answered {promise : Nat} {id : QueryId} (answers : Answers past client)
    (registered : .registered id ∈ past) (given : .numbered id (some (.promise promise)) ∈ past)
    (kept : client.handlers id = some (.promise promise) → after.handlers id = some (.promise promise)) :
    after.handlers id = some (.promise promise) ∨ ∃ object, .fulfilled promise id object ∈ past ++ seen := by
  rcases answers.answered id promise registered given with held | ⟨object, fulfilled⟩
  · exact .inl (kept held)
  · exact .inr ⟨object, List.mem_append_left _ fulfilled⟩

theorem Answers.still_set {promise : Nat} {object : ο} (answers : Answers past client)
    (held : client.values promise = some object) :
    ∃ id, .fulfilled promise id object ∈ past ++ seen := by
  obtain ⟨id, fulfilled⟩ := answers.set promise object held
  exact ⟨id, List.mem_append_left _ fulfilled⟩

theorem Answers.quiet (answers : Answers past client) {event : Event φ ο} (quiet : event.quiet = true)
    (handlers : after.handlers = client.handlers) (values : after.values = client.values)
    (new : ∀ id handler, event = .numbered id handler → .registered id ∉ past) : Answers (past ++ [event]) after := by
  refine ⟨fun id handler held => ?_, fun id => ?_, fun id promise member given => ?_,
    fun promise id object member => ?_, fun promise object held => ?_, fun promise => ?_, fun promise member => ?_⟩
  · rw [handlers] at held
    exact List.mem_append_left _ (answers.own id handler held)
  · rw [handlers, answers.waiting, waits_append]
    cases event <;> first | rfl | cases quiet
  · rw [handlers]
    rcases List.mem_append.mp member with old | now
    · rcases List.mem_append.mp given with given | now
      · exact answers.still_answered old given fun held => held
      · exact absurd old (new id _ (List.mem_singleton.mp now).symm)
    · cases List.mem_singleton.mp now
      cases quiet
  · rcases List.mem_append.mp member with old | now
    · exact answers.still_fulfilled old fun _ gone => handlers ▸ gone
    · cases List.mem_singleton.mp now
      cases quiet
  · exact answers.still_set (values ▸ held)
  · rw [values, List.countP_append, answers.once]
    cases event <;> first | rfl | cases quiet
  · rcases List.mem_append.mp member with old | now
    · exact answers.accepted promise old
    · cases List.mem_singleton.mp now
      cases quiet

/-- The handler that is registered was not there before, so that `emplace` stores it. -/
theorem Answers.register {handler : Handler} {id : QueryId} (answers : Answers past client)
    (numbered : Numbered past client) (given : .numbered id (some handler) ∈ past)
    (unregistered : .registered id ∉ past) (handlers : after.handlers = client.handlers.emplace id handler)
    (values : after.values = client.values) :
    Answers (past ++ [.registered id]) after := by
  have free : client.handlers id = none := by
    have waiting := answers.waiting id
    cases held : client.handlers id with
    | none => rfl
    | some other =>
      rw [held] at waiting
      exact absurd (registered_of_waits waiting.symm) unregistered
  have stored : after.handlers id = some handler := by rw [handlers, Map.emplace_same, free]; rfl
  have others : ∀ other, other ≠ id → after.handlers other = client.handlers other := by
    intro other different
    rw [handlers, Map.emplace_other _ _ different]
  refine ⟨fun other held' held => ?_, fun other => ?_, fun other promise member named => ?_,
    fun promise other object member => ?_,
    fun promise object held => ?_, fun promise => ?_, fun promise member => ?_⟩
  · by_cases same : other = id
    · subst same
      rw [stored] at held
      cases held
      exact List.mem_append_left _ given
    · rw [others other same] at held
      exact List.mem_append_left _ (answers.own other _ held)
  · rw [waits_append]
    by_cases same : other = id
    · subst same
      simp [stored]
    · simp [others other same, answers.waiting, Ne.symm same]
  · have named : .numbered other (some (.promise promise)) ∈ past := by simpa using named
    rcases List.mem_append.mp member with old | now
    · by_cases same : other = id
      · exact absurd (same ▸ old) unregistered
      · exact answers.still_answered old named fun held => (others other same).trans held
    · cases List.mem_singleton.mp now
      rw [stored]
      exact .inl (numbered.unique _ _ _ given named)
  · refine answers.still_fulfilled (by simpa using member) fun registered gone => ?_
    rw [others other fun same => unregistered (same ▸ registered), gone]
  · exact answers.still_set (values ▸ held)
  · rw [values, List.countP_append, answers.once]
    rfl
  · exact answers.accepted promise (by simpa using member)

/-- A response that no promise waits for only removes the handler of its number. -/
theorem Answers.receive {id : QueryId} {object : ο} (answers : Answers past client)
    (gone : after.handlers id = none)
    (others : ∀ other, other ≠ id → after.handlers other = client.handlers other)
    (values : after.values = client.values) (unmet : ∀ promise, client.handlers id ≠ some (.promise promise)) :
    Answers (past ++ [.received id object]) after := by
  refine ⟨fun other handler held => ?_, fun other => ?_, fun other promise member named => ?_,
    fun promise other object member => ?_, fun promise object held => ?_, fun promise => ?_, fun promise member => ?_⟩
  · by_cases same : other = id
    · rw [same, gone] at held
      cases held
    · rw [others other same] at held
      exact List.mem_append_left _ (answers.own other handler held)
  · rw [waits_append]
    by_cases same : other = id
    · subst same
      simp [gone]
    · simp [others other same, answers.waiting, Ne.symm same]
  · have registered : .registered other ∈ past := by simpa using member
    have named : .numbered other (some (.promise promise)) ∈ past := by simpa using named
    refine answers.still_answered registered named fun held => ?_
    rw [others other, held]
    intro same
    exact unmet promise (same ▸ held)
  · refine answers.still_fulfilled (by simpa using member) fun _ free => ?_
    by_cases same : other = id
    · rw [same, gone]
    · rw [others other same, free]
  · exact answers.still_set (values ▸ held)
  · rw [values, List.countP_append, answers.once]
    rfl
  · exact answers.accepted promise (by simpa using member)

/-- The promise that waits for a response has no value yet, and the response sets it. -/
theorem Answers.unset {promise : Nat} {id : QueryId} (answers : Answers past client) (numbered : Numbered past client)
    (held : client.handlers id = some (.promise promise)) : client.values promise = none := by
  cases value : client.values promise with
  | none => rfl
  | some object =>
    obtain ⟨other, fulfilled⟩ := answers.set promise object value
    obtain ⟨named, _, free, _⟩ := answers.fulfilled promise other object fulfilled
    rw [numbered.single other id promise named (answers.own id _ held), held] at free
    cases free

theorem Answers.fulfil {promise : Nat} {id : QueryId} {object : ο} (answers : Answers past client)
    (numbered : Numbered past client) (nonzero : id ≠ 0) (waited : client.handlers id = some (.promise promise))
    (gone : after.handlers id = none) (others : ∀ other, other ≠ id → after.handlers other = client.handlers other)
    (values : after.values = client.values.assign promise object) :
    Answers (past ++ [.received id object, .fulfilled promise id object]) after := by
  have own := answers.own id _ waited
  have registered : .registered id ∈ past := registered_of_waits (by rw [← answers.waiting, waited]; rfl)
  refine ⟨fun other handler held => ?_, fun other => ?_, fun other number member given => ?_,
    fun number other value member => ?_, fun number value held => ?_, fun number => ?_, fun number member => ?_⟩
  · by_cases same : other = id
    · rw [same, gone] at held
      cases held
    · rw [others other same] at held
      exact List.mem_append_left _ (answers.own other handler held)
  · rw [List.append_cons, waits_append, waits_append]
    by_cases same : other = id
    · subst same
      simp [gone]
    · simp [others other same, answers.waiting, Ne.symm same]
  · have earlier : .registered other ∈ past := by simpa using member
    have named : .numbered other (some (.promise number)) ∈ past := by simpa using given
    by_cases same : other = id
    · subst same
      cases numbered.unique other _ _ own named
      exact .inr ⟨object, List.mem_append_right _ (by simp)⟩
    · exact answers.still_answered earlier named fun held => (others other same).trans held
  · rcases List.mem_append.mp member with old | now
    · refine answers.still_fulfilled old fun _ free => ?_
      by_cases same : other = id
      · rw [same, gone]
      · rw [others other same, free]
    · simp only [List.mem_cons, reduceCtorEq, Event.fulfilled.injEq, List.not_mem_nil, or_false, false_or] at now
      obtain ⟨rfl, rfl, rfl⟩ := now
      exact ⟨List.mem_append_left _ own, List.mem_append_left _ registered, gone,
        List.mem_append_right _ (.head _), nonzero⟩
  · by_cases same : number = promise
    · subst same
      rw [values, Map.assign_same] at held
      cases held
      exact ⟨id, List.mem_append_right _ (by simp)⟩
    · rw [values, Map.assign_other _ _ same] at held
      exact answers.still_set held
  · rw [values, List.countP_append, answers.once]
    by_cases same : number = promise
    · subst same
      simp [answers.unset numbered waited, Event.fulfils]
    · simp [Map.assign_other _ _ same, Event.fulfils, Ne.symm same]
  · rcases List.mem_append.mp member with old | now
    · exact answers.accepted number old
    · simp at now

end Steps

variable [DecidableEq τ] {past seen : List (Event φ ο)} {client after : Client τ φ ο} {access : Access τ φ ο}

theorem Correlated.step (correlated : Correlated past client) (step : client.step access = some (after, seen))
    (few : (past ++ seen).countP Event.numbers < 2 ^ 64) : Correlated (past ++ seen) after := by
  obtain ⟨numbered, sendings, answers⟩ := correlated
  have new : past.countP Event.numbers + 1 < 2 ^ 64 → ∀ id handler other,
      Event.numbered (φ := φ) (ο := ο) (client.currentQueryId + 1) handler = .numbered id other →
          .registered id ∉ past := by
    intro few id handler other same member
    cases same
    obtain ⟨old, given⟩ := sendings.registered _ member
    exact (numbered.fresh few).2 _ given
  cases access with
  | sendQuery thread function callback =>
    simp only [Client.step] at step
    split at step
    next idle =>
      cases step
      have few : past.countP Event.numbers + 1 < 2 ^ 64 := by simpa [Client.call, Event.numbers] using few
      refine ⟨numbered.call few (Nat.le_refl _) rfl fun promise same => ?_,
        sendings.call numbered few _ (fun other different => Function.update_of_ne different _ _)
          (Function.update_self ..),
        answers.quiet rfl rfl rfl (new few · _ ·)⟩
      cases callback <;> cases same
    next => cases step
  | sendQueryAsync thread function =>
    simp only [Client.step] at step
    split at step
    next idle =>
      cases step
      have few : past.countP Event.numbers + 1 < 2 ^ 64 := by simpa [Client.call, Event.numbers] using few
      refine ⟨numbered.call few (Nat.le_succ _) rfl fun promise same => ?_,
        sendings.call numbered few _ (fun other different => Function.update_of_ne different _ _)
          (Function.update_self ..),
        answers.quiet rfl rfl rfl (new few · _ ·)⟩
      cases same
      exact ⟨Nat.le_refl _, Nat.lt_succ_self _⟩
    next => cases step
  | proceed thread =>
    simp only [Client.step] at step
    split at step
    next => cases step
    next function handler id waiting =>
      cases step
      obtain ⟨given, unregistered⟩ := sendings.registering thread function handler id waiting
      exact ⟨numbered.keeps rfl rfl (by simp),
        sendings.register waiting (fun other different => Function.update_of_ne different _ _)
          (Function.update_self ..),
        answers.register numbered given unregistered rfl rfl⟩
    next function id waiting =>
      cases step
      exact ⟨numbered.keeps rfl rfl (by simp),
        sendings.send waiting (fun other different => Function.update_of_ne different _ _) (Function.update_self ..),
        answers.quiet rfl rfl rfl (by simp)⟩
  | receive id object =>
    simp only [Client.step, Option.some.injEq] at step
    cases object with
    | none => cases step; simpa using ⟨numbered, sendings, answers⟩
    | some object =>
      simp only [Client.processResponse] at step
      split at step
      next zero =>
        cases step
        exact ⟨numbered.keeps rfl rfl (by simp), sendings.keeps rfl (by simp), answers.quiet rfl rfl rfl (by simp)⟩
      next nonzero =>
        split at step
        next unheld =>
          cases step
          exact ⟨numbered.keeps rfl rfl (by simp), sendings.keeps rfl (by simp),
            answers.receive unheld (fun _ _ => rfl) rfl (by simp [unheld])⟩
        next held =>
          cases step
          exact ⟨numbered.keeps rfl rfl (by simp), sendings.keeps rfl (by simp),
            answers.receive (Map.erase_same ..) (fun other different => Map.erase_other _ different) rfl
              (by simp [held])⟩
        next promise held =>
          simp only [Client.setValue, answers.unset numbered held] at step
          cases step
          exact ⟨numbered.keeps rfl rfl (by simp), sendings.keeps rfl (by simp),
            answers.fulfil numbered nonzero held (Map.erase_same ..)
              (fun other different => Map.erase_other _ different) rfl⟩

/-- The steps of the client as a relation, for `Lib.Run`. -/
def Client.Step : Client τ φ ο → List (Event φ ο) → Client τ φ ο → Prop :=
  Restricted (fun access before seen after => before.step access = some (after, seen)) fun _ _ _ => True

theorem Correlated.run (run : Run Client.Step ({} : Client τ φ ο) past client)
    (few : past.countP Event.numbers < 2 ^ 64) :
    Correlated past client := by
  refine run.invariant (fun past client => past.countP Event.numbers < 2 ^ 64 → Correlated past client)
    (fun _ => .initial) (fun past before seen after kept step few => ?_) few
  obtain ⟨access, _, step⟩ := step
  refine (kept ?_).step step few
  rw [List.countP_append] at few
  omega

omit [DecidableEq τ] in
/-- A response to a query that was sent finds the promise of its query, unless an earlier one did. -/
theorem Correlated.answered {id : QueryId} {function : φ} {promise : Nat} (correlated : Correlated past client)
    (sent : .sent id function ∈ past) (asked : .numbered id (some (.promise promise)) ∈ past) :
    (∃ object, .fulfilled promise id object ∈ past) ∨
      ∀ object, .fulfilled promise id object ∈ (client.processResponse id (some object)).2 := by
  obtain ⟨numbered, sendings, answers⟩ := correlated
  have registered := (sendings.sent id function sent).registered _ asked
  rcases answers.answered id promise registered asked with held | fulfilled
  · have nonzero : id ≠ 0 := by
      rintro rfl
      exact absurd (numbered.bounded _ _ asked).1 (Nat.lt_irrefl 0)
    refine .inr fun object => ?_
    simp [Client.processResponse, Client.setValue, nonzero, held, answers.unset numbered held]
  · exact .inl fulfilled

/-- Over all interleavings of threads that send queries with the responses of TDLib, fewer than 2^64 queries
given: a promise is fulfilled at most once, by a response with the number of its own query and
never by an update; a response to a query that was sent is not missed; and the handlers
are those of the queries that are registered and not answered since. -/
theorem responses_find_their_queries (run : Run Client.Step ({} : Client τ φ ο) past client)
    (few : past.countP Event.numbers < 2 ^ 64) :
    (∀ promise, past.countP (Event.fulfils promise) ≤ 1 ∧ .refused promise ∉ past) ∧
    (∀ promise id object, .fulfilled promise id object ∈ past →
      id ≠ 0 ∧ .received id object ∈ past ∧ .numbered id (some (.promise promise)) ∈ past ∧
        ∀ other, .numbered other (some (.promise promise)) ∈ past → other = id) ∧
    (∀ id function promise, .sent id function ∈ past → .numbered id (some (.promise promise)) ∈ past →
      (∃ object, .fulfilled promise id object ∈ past) ∨
        ∀ object, .fulfilled promise id object ∈ (client.processResponse id (some object)).2) ∧
    (∀ object, (client.processResponse 0 (some object)) = (client, [.update object])) ∧
    ∀ id, (client.handlers id).isSome = waits id past ∧
      ∀ handler, client.handlers id = some handler → .numbered id (some handler) ∈ past := by
  have correlated := Correlated.run run few
  obtain ⟨numbered, sendings, answers⟩ := correlated
  refine ⟨fun promise => ⟨?_, answers.accepted promise⟩, fun promise id object fulfilled => ?_,
    fun id function promise sent asked => Correlated.answered ⟨numbered, sendings, answers⟩ sent asked, fun _ => rfl,
    fun id => ⟨answers.waiting id, answers.own id⟩⟩
  · rw [answers.once]
    split <;> omega
  · obtain ⟨asked, _, _, received, nonzero⟩ := answers.fulfilled promise id object fulfilled
    exact ⟨nonzero, received, asked, fun other askedToo => numbered.single other id promise askedToo asked⟩

theorem first_query_is_answered : ∃ past, ∃ client : Client Nat String String,
    Run Client.Step {} past client ∧ .fulfilled 0 1 "user 42" ∈ past ∧
      (past.countP (Event.fulfils 0) ≤ 1 ∧ .refused 0 ∉ past) := by
  have ran : (execute (fun (client : Client Nat String String) => client.step) (fun _ _ _ => true)
      [.sendQueryAsync 0 "getUser", .sendQuery 1 "close" false, .proceed 0, .proceed 1, .proceed 0,
        .receive 0 (some "updateCall"), .receive 2 (some "ok"), .receive 1 (some "user 42"),
          .receive 1 (some "again")] {}).any
      (fun result => decide (.fulfilled 0 1 "user 42" ∈ result.2 ∧ result.2.countP Event.numbers < 2 ^ 64)) = true := by
    decide +kernel
  have reached : ∃ client past, Run Client.Step {} past client ∧ _ := execute_any ran
  obtain ⟨client, past, run, found⟩ := reached
  obtain ⟨fulfilled, few⟩ := of_decide_eq_true found
  exact ⟨past, client, run, fulfilled, (responses_find_their_queries run few).1 0⟩

end Tg2Sip.Tg
