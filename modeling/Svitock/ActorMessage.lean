import Svitock.Json

/-!
# Messages between actors

`core/actor/actor_message.hpp` and `domain/message/message.hpp`.
-/

namespace Svitock

inductive ActorType
  | session
  | chat
  | message
  | storage
  deriving DecidableEq, Repr

instance : Fintype ActorType where
  elems := {.session, .chat, .message, .storage}
  complete a := by cases a <;> simp

structure AuthEvent where
  sessionId : String
  userId : String
  deriving DecidableEq

structure SendMessageEvent where
  sessionId : String
  chatId : String
  senderId : String
  recipientId : String
  text : String
  deriving DecidableEq

structure TypingEvent where
  chatId : String
  userId : String
  deriving DecidableEq

structure ReadEvent where
  chatId : String
  userId : String
  messageId : String
  deriving DecidableEq

structure StoragePersistMessage where
  chatId : String
  senderId : String
  content : String
  deriving DecidableEq

structure SessionOutgoingEvent where
  sessionId : String
  payload : Json

inductive ActorPayload
  | authEvent (event : AuthEvent)
  | sendMessageEvent (event : SendMessageEvent)
  | typingEvent (event : TypingEvent)
  | readEvent (event : ReadEvent)
  | storagePersistMessage (persist : StoragePersistMessage)
  | sessionOutgoingEvent (outgoing : SessionOutgoingEvent)

def ActorPayload.sendMessage? : ActorPayload → Option SendMessageEvent
  | .sendMessageEvent event => some event
  | _ => none

theorem sendMessage?_eq_some {p : ActorPayload} {event : SendMessageEvent} :
    p.sendMessage? = some event ↔ p = .sendMessageEvent event := by
  cases p <;> simp [ActorPayload.sendMessage?]

structure ActorEnvelope where
  destination : ActorType
  payload : ActorPayload

/-- A `boost::uuids::uuid`. -/
abbrev Uuid := BitVec 128

/-- A stored message; `createdAt` counts clock ticks. -/
structure Message where
  id : Uuid
  chatId : Uuid
  senderId : Uuid
  content : String
  createdAt : ℤ
  deriving DecidableEq

structure Record where
  chatId : Uuid
  senderId : Uuid
  content : String
  deriving DecidableEq

def Message.record (m : Message) : Record := ⟨m.chatId, m.senderId, m.content⟩

/-- A value together with the number of the frame it stems from. The number is
history: no function of the server reads it. -/
structure Traced (α : Type*) where
  origin : ℕ
  value : α
  deriving DecidableEq

/-- The third-party functions that the server calls. `parse` is the parse of
nlohmann that reports an error as `discarded`, `stringGenerator` the UUID parser
of Boost, which throws where this is `none`. -/
structure Libraries where
  parse : ByteArray → Json
  dump : Json → String
  stringGenerator : String → Option Uuid

end Svitock
