/-! The part of TDLib's object types that the gateway reads. Byte strings are
lists of octets, identifiers are integers, and an answer is either the object
the function is declared to return or an error object. -/

namespace Tg2Sip.TdApi

abbrev UserId := Int
abbrev TgCallId := Int
abbrev Bytes := List UInt8

structure Error where
  code : Int
  message : String
  deriving DecidableEq, Repr

/-- What the future of `send_query_async` yields for a function returning `α`. -/
abbrev Answer (α : Type) := Except Error α

inductive CallServerType where
  | telegramReflector (peerTag : Bytes)
  | webrtc (username password : String) (supportsTurn supportsStun : Bool)
  deriving DecidableEq, Repr

structure CallServer where
  id : Int
  ipAddress : String
  ipv6Address : String
  port : Int
  type : CallServerType
  deriving DecidableEq, Repr

structure CallStateReady where
  servers : List CallServer
  encryptionKey : Bytes
  deriving DecidableEq, Repr

inductive CallState where
  | pending
  | exchangingKeys
  | ready (state : CallStateReady)
  | hangingUp
  | discarded
  | error
  deriving DecidableEq, Repr

/-- The constants `callState…::ID`. -/
inductive CallStateId where
  | pending | exchangingKeys | ready | hangingUp | discarded | error
  deriving DecidableEq, Repr

def CallState.getId : CallState → CallStateId
  | .pending => .pending
  | .exchangingKeys => .exchangingKeys
  | .ready _ => .ready
  | .hangingUp => .hangingUp
  | .discarded => .discarded
  | .error => .error

/-- The call that an `updateCall` carries. -/
structure Call where
  id : TgCallId
  userId : UserId
  isOutgoing : Bool
  state : CallState
  deriving DecidableEq, Repr

inductive MessageSender where
  | user (id : UserId)
  | chat (id : Int)
  deriving DecidableEq, Repr

inductive MessageContent where
  | text (text : String)
  | other
  deriving DecidableEq, Repr

structure Message where
  sender : MessageSender
  chatId : Int
  content : MessageContent
  deriving DecidableEq, Repr

/-- The updates that `tg::Client` queues for the gateway. -/
inductive Update where
  | call (call : Call)
  | newMessage (message : Message)
  | newCallSignalingData (callId : TgCallId) (data : Bytes)
  deriving DecidableEq, Repr

structure User where
  id : UserId
  firstName : String := ""
  lastName : String := ""
  /-- `usernames_->editable_username_`, when `usernames_` is not null. -/
  editableUsername : Option String := none
  phoneNumber : String := ""
  haveAccess : Bool := true
  deriving DecidableEq, Repr

structure Chat where
  id : Int
  isPrivate : Bool
  deriving DecidableEq, Repr

structure CallProtocol where
  udpP2p : Bool
  udpReflector : Bool
  minLayer : Int
  maxLayer : Int
  libraryVersions : List String
  deriving DecidableEq, Repr

/-- The functions sent to TDLib. -/
inductive Function where
  | getUser (userId : UserId)
  | acceptCall (callId : TgCallId) (protocol : CallProtocol)
  | createCall (userId : UserId) (protocol : CallProtocol) (isVideo : Bool)
  | discardCall (callId : TgCallId) (isDisconnected : Bool) (inviteLink : String) (duration : Int)
      (isVideo : Bool) (connectionId : Int)
  | importContacts (phoneNumber firstName : String)
  | searchPublicChat (username : String)
  | sendCallSignalingData (callId : TgCallId) (data : Bytes)
  deriving DecidableEq, Repr

end Tg2Sip.TdApi
