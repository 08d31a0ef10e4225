import Svitock.ActorRuntime
import Svitock.MessageDispatcher

/-!
# The four actors

`infrastructure/actors/*.cpp`. A handler is the list of its atomic actions, in
the order in which it takes them; none of them depends on the result of an
earlier one, since the results of the sends are discarded and that of the
repository is only logged. Log lines are left out.
-/

namespace Svitock

open ActorRuntime

/-- What a handler does to the world outside the mailboxes: `SessionActor` hands
a payload to the transport of a session, `StorageActor` calls the repository. -/
inductive Effect
  | deliver (sessionId : String) (payload : Json)
  | create (chatId senderId : Uuid) (content : String)

/-- What a handler throws: `string_generator` on a text that is not a UUID. -/
inductive HandlerError
  | invalidUuid
  deriving DecidableEq, Repr

abbrev Action := Act ActorType ActorPayload Effect HandlerError

def SessionActor.handle : ActorPayload → List Action
  | .sessionOutgoingEvent outgoing => [.emit (.deliver outgoing.sessionId outgoing.payload)]
  | _ => []

namespace ChatActor

def echo (event : SendMessageEvent) : Json :=
  .braces [
    .braces [.string "type", .string "message_delivered"],
    .braces [.string "chat_id", .string event.chatId],
    .braces [.string "payload", .braces [.braces [.string "text", .string event.text]]]]

def incoming (event : SendMessageEvent) : Json :=
  .braces [
    .braces [.string "type", .string "incoming_message"],
    .braces [.string "chat_id", .string event.chatId],
    .braces [.string "payload", .braces [
      .braces [.string "text", .string event.text],
      .braces [.string "from", .string event.senderId]]]]

def handle : ActorPayload → List Action
  | .sendMessageEvent event =>
    [.send .storage (.storagePersistMessage ⟨event.chatId, event.senderId, event.text⟩),
      .send .session (.sessionOutgoingEvent ⟨event.sessionId, echo event⟩)] ++
    if event.recipientId ≠ "" then
      [.send .session (.sessionOutgoingEvent ⟨event.recipientId, incoming event⟩)]
    else []
  | _ => []

end ChatActor

def MessageActor.handle : ActorPayload → List Action
  | .sendMessageEvent event => [.send .chat (.sendMessageEvent event)]
  | _ => []

def StorageActor.handle (lib : Libraries) : ActorPayload → List Action
  | .storagePersistMessage persist =>
    match lib.stringGenerator persist.chatId with
    | none => [.fail .invalidUuid]
    | some chatId =>
      match lib.stringGenerator persist.senderId with
      | none => [.fail .invalidUuid]
      | some senderId => [.emit (.create chatId senderId persist.content)]
  | _ => []

/-- `Actor::handle` of the actor registered under a type. -/
def handle (lib : Libraries) : ActorType → ActorPayload → List Action
  | .session => SessionActor.handle
  | .chat => ChatActor.handle
  | .message => MessageActor.handle
  | .storage => StorageActor.handle lib

abbrev Envelope := Traced ActorPayload

abbrev ActorSystem := State ActorType Envelope (Traced Effect) HandlerError

abbrev TracedAct := Act ActorType Envelope (Traced Effect) HandlerError

/-- Every action of a handler passes on the number of the frame. -/
def trace (origin : ℕ) : Action → TracedAct
  | .send d p => .send d ⟨origin, p⟩
  | .emit e => .emit ⟨origin, e⟩
  | .fail e => .fail e

/-- The runtime of `ActorSystem` when its map of actors iterates in `order`. -/
def runtime (lib : Libraries) (order : List ActorType) :
    Runtime ActorType Envelope (Traced Effect) HandlerError where
  order := order
  handle a m := (handle lib a m.value).map (trace m.origin)

/-- The state after `registerActor` and `start(workerThreads)`. -/
def ActorSystem.start (mailboxCapacity workerThreads : ℕ) : ActorSystem where
  mailbox _ := ⟨[], mailboxCapacity, true⟩
  workers := List.replicate workerThreads (.poll [])
  running := true
  accepted := []
  refused := []
  dropped := []
  emitted := []
  failed := []

theorem runtime_handle (lib : Libraries) (order : List ActorType) (a : ActorType) (m : Envelope) :
    (runtime lib order).handle a m = (handle lib a m.value).map (trace m.origin) := rfl

inductive Does (lib : Libraries) : ActorType → Envelope → TracedAct → Prop
  | forward (o : ℕ) (event : SendMessageEvent) :
      Does lib .message ⟨o, .sendMessageEvent event⟩ (.send .chat ⟨o, .sendMessageEvent event⟩)
  | persist (o : ℕ) (event : SendMessageEvent) :
      Does lib .chat ⟨o, .sendMessageEvent event⟩
        (.send .storage ⟨o, .storagePersistMessage ⟨event.chatId, event.senderId, event.text⟩⟩)
  | echo (o : ℕ) (event : SendMessageEvent) :
      Does lib .chat ⟨o, .sendMessageEvent event⟩
        (.send .session ⟨o, .sessionOutgoingEvent ⟨event.sessionId, ChatActor.echo event⟩⟩)
  | incoming (o : ℕ) (event : SendMessageEvent) (hr : event.recipientId ≠ "") :
      Does lib .chat ⟨o, .sendMessageEvent event⟩
        (.send .session ⟨o, .sessionOutgoingEvent ⟨event.recipientId, ChatActor.incoming event⟩⟩)
  | deliver (o : ℕ) (outgoing : SessionOutgoingEvent) :
      Does lib .session ⟨o, .sessionOutgoingEvent outgoing⟩
        (.emit ⟨o, .deliver outgoing.sessionId outgoing.payload⟩)
  | create (o : ℕ) (persist : StoragePersistMessage) {chatId senderId : Uuid}
      (hc : lib.stringGenerator persist.chatId = some chatId)
      (hs : lib.stringGenerator persist.senderId = some senderId) :
      Does lib .storage ⟨o, .storagePersistMessage persist⟩
        (.emit ⟨o, .create chatId senderId persist.content⟩)
  | raise (o : ℕ) (persist : StoragePersistMessage) (e : HandlerError)
      (h : lib.stringGenerator persist.chatId = none ∨
        lib.stringGenerator persist.senderId = none) :
      Does lib .storage ⟨o, .storagePersistMessage persist⟩ (.fail e)

theorem does_of_mem {lib : Libraries} {order : List ActorType} {a : ActorType} {m : Envelope}
    {act : TracedAct} (h : act ∈ (runtime lib order).handle a m) : Does lib a m act := by
  obtain ⟨o, p⟩ := m
  obtain ⟨x, hx, rfl⟩ := List.mem_map.mp h
  cases a with
  | session =>
    cases p <;> simp only [handle, SessionActor.handle, List.not_mem_nil, List.mem_singleton] at hx
    subst hx
    exact .deliver o _
  | message =>
    cases p <;> simp only [handle, MessageActor.handle, List.not_mem_nil, List.mem_singleton] at hx
    subst hx
    exact .forward o _
  | chat =>
    cases p <;> simp only [handle, ChatActor.handle, List.not_mem_nil, List.mem_append,
      List.mem_cons, or_false] at hx
    rcases hx with (rfl | rfl) | hx
    · exact .persist o _
    · exact .echo o _
    · split at hx
      · next hr =>
        obtain rfl := List.mem_singleton.mp hx
        exact .incoming o _ hr
      · cases hx
  | storage =>
    cases p <;> simp only [handle, StorageActor.handle, List.not_mem_nil] at hx
    split at hx
    · next hc =>
      obtain rfl := List.mem_singleton.mp hx
      exact .raise o _ _ (.inl hc)
    · next hc =>
      split at hx
      · next hs =>
        obtain rfl := List.mem_singleton.mp hx
        exact .raise o _ _ (.inr hs)
      · next hs =>
        obtain rfl := List.mem_singleton.mp hx
        exact .create o _ hc hs

theorem ChatActor.echo_eq (event : SendMessageEvent) : echo event =
    .object [("type", .string "message_delivered"), ("chat_id", .string event.chatId),
      ("payload", .object [("text", .string event.text)])] := rfl

theorem ChatActor.incoming_eq (event : SendMessageEvent) : incoming event =
    .object [("type", .string "incoming_message"), ("chat_id", .string event.chatId),
      ("payload", .object [("text", .string event.text), ("from", .string event.senderId)])] := rfl

end Svitock
