import Mathlib.Algebra.Group.Nat.Defs
import Tg2Sip.Lib.Maps

/-! `tg::Client`: queries get numbers, and a response is handed to the handler of its number.
Any thread sends queries; TDLib's thread receives. `send_query` is taken apart into its
accesses to the counter, to the handlers and to TDLib. -/

namespace Tg2Sip.Tg
open Lib

abbrev QueryId := UInt64

/-- What `send_query` is given for the response. -/
inductive Handler where
  /-- The handler of `send_query_async`, which sets a promise. -/
  | promise (index : Nat)
  | callback
  deriving DecidableEq, Repr

/-- Where a thread is in `send_query`. -/
inductive Sending (φ : Type) where
  | idle
  | register (function : φ) (handler : Handler) (id : QueryId)
  | send (function : φ) (id : QueryId)

structure Client (τ φ ο : Type) where
  currentQueryId : QueryId := 0
  handlers : Map QueryId Handler := Map.empty
  sending : τ → Sending φ := fun _ => .idle
  /-- The promises that were made, and the values that were set. -/
  promises : Nat := 0
  values : Map Nat ο := Map.empty

inductive Event (φ ο : Type) where
  | numbered (id : QueryId) (handler : Option Handler)
  | registered (id : QueryId)
  | sent (id : QueryId) (function : φ)
  | received (id : QueryId) (object : ο)
  | fulfilled (promise : Nat) (id : QueryId) (object : ο)
  /-- `std::future_error`: the promise has a value already. -/
  | refused (promise : Nat)
  | update (object : ο)
  deriving DecidableEq, Repr

inductive Access (τ φ ο : Type) where
  /-- A thread calls `send_query` and increments the counter. -/
  | sendQuery (thread : τ) (function : φ) (callback : Bool)
  /-- A thread calls `send_query_async`, makes a promise and increments the counter. -/
  | sendQueryAsync (thread : τ) (function : φ)
  | proceed (thread : τ)
  | receive (id : QueryId) (object : Option ο)

namespace Client
variable {τ φ ο : Type} [DecidableEq τ]

/-- `send_query` up to `next_query_id`. -/
def call (client : Client τ φ ο) (thread : τ) (function : φ) (handler : Option Handler) :
    Client τ φ ο × List (Event φ ο) :=
  let id := client.currentQueryId + 1
  let next := match handler with
    | some handler => .register function handler id
    | none => .send function id
  ({ client with currentQueryId := id, sending := Function.update client.sending thread next }, [.numbered id handler])

/-- The handler of `send_query_async`. -/
def setValue (client : Client τ φ ο) (promise : Nat) (id : QueryId) (object : ο) : Client τ φ ο × List (Event φ ο) :=
  match client.values promise with
  | none => ({ client with values := client.values.assign promise object }, [.fulfilled promise id object])
  | some _ => (client, [.refused promise])

def processResponse (client : Client τ φ ο) (id : QueryId) : Option ο → Client τ φ ο × List (Event φ ο)
  | none => (client, [])
  | some object =>
    if id = 0 then (client, [.update object])
    else
      match client.handlers id with
      | none => (client, [.received id object])
      | some .callback => ({ client with handlers := client.handlers.erase id }, [.received id object])
      | some (.promise promise) =>
        let (client, seen) := client.setValue promise id object
        ({ client with handlers := client.handlers.erase id }, .received id object :: seen)

/-- A step of one thread. A call needs a thread that is not in another call. -/
def step (client : Client τ φ ο) : Access τ φ ο → Option (Client τ φ ο × List (Event φ ο))
  | .sendQuery thread function callback =>
    match client.sending thread with
    | .idle => some (client.call thread function (if callback then some .callback else none))
    | _ => none
  | .sendQueryAsync thread function =>
    match client.sending thread with
    | .idle =>
      some ({ client with promises := client.promises + 1 }.call thread function (some (.promise client.promises)))
    | _ => none
  | .proceed thread =>
    match client.sending thread with
    | .idle => none
    | .register function handler id =>
      some ({ client with
          handlers := client.handlers.emplace id handler
          sending := Function.update client.sending thread (.send function id) }, [.registered id])
    | .send function id =>
      some ({ client with sending := Function.update client.sending thread .idle }, [.sent id function])
  | .receive id object => some (client.processResponse id object)

end Client
end Tg2Sip.Tg
