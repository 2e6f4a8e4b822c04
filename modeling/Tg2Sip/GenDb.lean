import Tg2Sip.Configuration
import Tg2Sip.Lib.Maps

/-! `gen_db`, which signs a user on. `TDClient` asks for what TDLib waits for and makes a query of each answer. The
responses to earlier queries may come late, and are told apart by the id that a handler captured. -/

namespace Tg2Sip.GenDb
open Lib Ini Tg2Sip.Configuration

/-- `td_api::AuthorizationState`, with `link_` where it has one. -/
structure Authorization where
  state : Tg.AuthorizationState
  link : String := ""

inductive Query where
  | request (request : Request)
  | checkAuthenticationCode (code : Text)
  | registerUser (firstName lastName : Text)
  | checkAuthenticationPassword (password : Text)
  | setAuthenticationPhoneNumber (phoneNumber : Text)
  deriving DecidableEq

/-- The objects that a response can have. -/
inductive Object where
  | error (text : String)
  | updateAuthorizationState (authorization : Authorization)
  | other

structure Response where
  id : UInt64
  object : Option Object

inductive Handler where
  | ignore
  /-- `create_authentication_query_handler` -/
  | authentication (id : UInt64)
  deriving DecidableEq

inductive Output where
  | printed (text : String)
  | sent (id : UInt64) (query : Query)
  /-- A null pointer is used. -/
  | undefinedBehaviour
  deriving DecidableEq

/-- The words of the standard input that were not read yet stand in `input`. -/
structure TDClient where
  members : Members
  input : List Text
  sequenceDone : Bool := false
  authorizationState : Option Authorization := none
  currentQueryId : UInt64 := 0
  authenticationQueryId : UInt64 := 0
  handlers : Map UInt64 Handler := Map.empty

namespace TDClient

/-- `std::cin >> word`, after a prompt. At the end of the input the word is empty. -/
def ask (client : TDClient) (prompt : String) : Text × TDClient × List Output :=
  (client.input.headD [], { client with input := client.input.tail }, [.printed prompt])

def sendQuery (client : TDClient) (query : Query) (handler : Handler) : TDClient × List Output :=
  let id := client.currentQueryId + 1
  ({ client with currentQueryId := id, handlers := client.handlers.emplace id handler }, [.sent id query])

def createAuthenticationQueryHandler (client : TDClient) : Handler := .authentication client.authenticationQueryId

/-- The handlers of `on_authorization_state_update`. -/
def onAuthorizationState (client : TDClient) (authorization : Authorization) : TDClient × List Output :=
  match authorization.state with
  | .ready => ({ client with sequenceDone := true }, [.printed "Authorization OK\n"])
  | .loggingOut => ({ client with sequenceDone := true }, [.printed "Logging out\n"])
  | .closing => (client, [.printed "Closing\n"])
  | .closed => ({ client with sequenceDone := true }, [.printed "Terminated\n"])
  | .waitCode =>
    let (code, client, asked) := client.ask "Enter authentication code: "
    let (client, sent) := client.sendQuery (.checkAuthenticationCode code) client.createAuthenticationQueryHandler
    (client, asked ++ sent)
  | .waitRegistration =>
    let (firstName, client, first) := client.ask "Enter your first name: "
    let (lastName, client, last) := client.ask "Enter your last name: "
    let (client, sent) := client.sendQuery (.registerUser firstName lastName) client.createAuthenticationQueryHandler
    (client, first ++ last ++ sent)
  | .waitPassword =>
    let (password, client, asked) := client.ask "Enter authentication password: "
    let (client, sent) :=
      client.sendQuery (.checkAuthenticationPassword password) client.createAuthenticationQueryHandler
    (client, asked ++ sent)
  | .waitOtherDeviceConfirmation =>
    (client, [.printed ("Confirm this login link on another device: " ++ authorization.link ++ "\n")])
  | .waitPhoneNumber =>
    let (phoneNumber, client, asked) := client.ask "Enter phone number: "
    let (client, sent) :=
      client.sendQuery (.setAuthenticationPhoneNumber phoneNumber) client.createAuthenticationQueryHandler
    (client, asked ++ sent)
  | .waitPremiumPurchase =>
    (client, [.printed "This account requires a Telegram Premium purchase to log in - unsupported here\n"])
  | .waitEmailAddress => (client, [.printed "This account requires email-based login - unsupported here\n"])
  | .waitEmailCode => (client, [.printed "This account requires an email login code - unsupported here\n"])
  | .waitTdlibParameters =>
    let (client, proxy) := client.sendQuery (.request (initProxy client.members)) .ignore
    let (client, parameters) :=
      client.sendQuery (.request (initLibParameters client.members)) client.createAuthenticationQueryHandler
    (client, proxy ++ parameters)

def onAuthorizationStateUpdate (client : TDClient) : TDClient × List Output :=
  let client := { client with authenticationQueryId := client.authenticationQueryId + 1 }
  match client.authorizationState with
  | none => (client, [.undefinedBehaviour])
  | some authorization => client.onAuthorizationState authorization

def checkAuthenticationError (client : TDClient) : Object → TDClient × List Output
  | .error text =>
    let (client, seen) := client.onAuthorizationStateUpdate
    (client, .printed ("Error: " ++ text) :: seen)
  | _ => (client, [])

def handle (client : TDClient) (object : Object) : Handler → TDClient × List Output
  | .ignore => (client, [])
  | .authentication id =>
    if id = client.authenticationQueryId then client.checkAuthenticationError object else (client, [])

def processUpdate (client : TDClient) : Object → TDClient × List Output
  | .updateAuthorizationState authorization =>
    { client with authorizationState := some authorization }.onAuthorizationStateUpdate
  | _ => (client, [])

def processResponse (client : TDClient) (response : Response) : TDClient × List Output :=
  match response.object with
  | none => (client, [])
  | some object =>
    if response.id = 0 then client.processUpdate object
    else
      match client.handlers response.id with
      | none => (client, [])
      | some handler =>
        let (client, seen) := client.handle object handler
        ({ client with handlers := client.handlers.erase response.id }, seen)

/-- The loop, with what `receive` returns each time. -/
def auth (client : TDClient) : List Response → TDClient × List Output
  | [] => (client, [])
  | response :: responses =>
    if client.sequenceDone then (client, [])
    else
      let (client, seen) := client.processResponse response
      let (final, rest) := client.auth responses
      (final, seen ++ rest)

end TDClient

/-! What it is meant to do: a dialogue that has one question open at most. -/

/-- What is asked in a state: a word for each prompt, and the query that is made of them. -/
structure Question where
  prompts : List String
  other : Option Query := none
  query : List Text → Query

def question (members : Members) : Tg.AuthorizationState → Option Question
  | .waitCode =>
    some { prompts := ["Enter authentication code: "]
           query := fun words => .checkAuthenticationCode (words.getD 0 []) }
  | .waitRegistration => some {
      prompts := ["Enter your first name: ", "Enter your last name: "]
      query := fun words => .registerUser (words.getD 0 []) (words.getD 1 []) }
  | .waitPassword => some {
      prompts := ["Enter authentication password: "]
      query := fun words => .checkAuthenticationPassword (words.getD 0 []) }
  | .waitPhoneNumber =>
    some { prompts := ["Enter phone number: "], query := fun words => .setAuthenticationPhoneNumber (words.getD 0 []) }
  | .waitTdlibParameters => some {
      prompts := []
      other := some (.request (initProxy members))
      query := fun _ => .request (initLibParameters members) }
  | _ => none

/-- What is said in the other states. -/
def Authorization.notice (authorization : Authorization) : String :=
  match authorization.state with
  | .ready => "Authorization OK\n"
  | .loggingOut => "Logging out\n"
  | .closing => "Closing\n"
  | .closed => "Terminated\n"
  | .waitOtherDeviceConfirmation => "Confirm this login link on another device: " ++ authorization.link ++ "\n"
  | .waitPremiumPurchase => "This account requires a Telegram Premium purchase to log in - unsupported here\n"
  | .waitEmailAddress => "This account requires email-based login - unsupported here\n"
  | .waitEmailCode => "This account requires an email login code - unsupported here\n"
  | _ => ""

def Authorization.ends (authorization : Authorization) : Bool :=
  match authorization.state with
  | .ready | .loggingOut | .closed => true
  | _ => false

/-- The query that is still to be answered belongs to the last question. -/
structure Dialogue where
  members : Members
  input : List Text
  done : Bool := false
  authorization : Option Authorization := none
  sent : UInt64 := 0
  pending : Option UInt64 := none

/-- The first words of the input, and empty ones after its end. -/
def words (input : List Text) (count : Nat) : List Text := (List.range count).map fun i => input.getD i []

namespace Dialogue

def enter (dialogue : Dialogue) (authorization : Authorization) : Dialogue × List Output :=
  match question dialogue.members authorization.state with
  | none =>
    ({ dialogue with
        authorization := some authorization, pending := none, done := dialogue.done || authorization.ends },
      [.printed authorization.notice])
  | some question =>
    let others := question.other.toList.map fun query => Output.sent (dialogue.sent + 1) query
    let id := dialogue.sent + (if question.other.isSome then 2 else 1)
    ({ dialogue with
        authorization := some authorization
        pending := some id
        sent := id
        input := dialogue.input.drop question.prompts.length },
      question.prompts.map .printed ++ others ++
        [.sent id (question.query (words dialogue.input question.prompts.length))])

def next (dialogue : Dialogue) (response : Response) : Dialogue × List Output :=
  match response.object with
  | none => (dialogue, [])
  | some object =>
    if response.id = 0 then
      match object with
      | .updateAuthorizationState authorization => dialogue.enter authorization
      | _ => (dialogue, [])
    else if dialogue.pending = some response.id then
      match object, dialogue.authorization with
      | .error text, some authorization =>
        let (dialogue, seen) := dialogue.enter authorization
        (dialogue, .printed ("Error: " ++ text) :: seen)
      | _, _ => ({ dialogue with pending := none }, [])
    else (dialogue, [])

def run (dialogue : Dialogue) : List Response → Dialogue × List Output
  | [] => (dialogue, [])
  | response :: responses =>
    if dialogue.done then (dialogue, [])
    else
      let (dialogue, seen) := dialogue.next response
      let (final, rest) := dialogue.run responses
      (final, seen ++ rest)

end Dialogue
end Tg2Sip.GenDb
