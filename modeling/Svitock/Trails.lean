import Svitock.Actors
import Svitock.RuntimeOrder

namespace Svitock

open ActorRuntime

def created? : Traced Effect → Option (Traced Record)
  | ⟨o, .create chatId senderId content⟩ => some ⟨o, ⟨chatId, senderId, content⟩⟩
  | _ => none

def delivered? : Traced Effect → Option (ℕ × String × Json)
  | ⟨o, .deliver sessionId payload⟩ => some (o, sessionId, payload)
  | _ => none

/-- What storing a message directly creates: nothing when an id is no UUID. -/
def store (lib : Libraries) (o : ℕ) (chatId senderId content : String) : List (Traced Record) :=
  match lib.stringGenerator chatId, lib.stringGenerator senderId with
  | some chat, some sender => [⟨o, ⟨chat, sender, content⟩⟩]
  | _, _ => []

/-- What emitting an event directly delivers: the echo, then the message to the
recipient if there is one. -/
def emit (o : ℕ) (event : SendMessageEvent) : List (ℕ × String × Json) :=
  (o, event.sessionId, ChatActor.echo event) ::
    if event.recipientId ≠ "" then [(o, event.recipientId, ChatActor.incoming event)] else []

def storageTrail (lib : Libraries) :
    Trail ActorType Envelope (Traced Effect) (Traced Record) where
  message
    | .message, ⟨o, .sendMessageEvent event⟩ =>
      store lib o event.chatId event.senderId event.text
    | .chat, ⟨o, .sendMessageEvent event⟩ => store lib o event.chatId event.senderId event.text
    | .storage, ⟨o, .storagePersistMessage persist⟩ =>
      store lib o persist.chatId persist.senderId persist.content
    | _, _ => []
  output x := (created? x).toList

def sessionTrail : Trail ActorType Envelope (Traced Effect) (ℕ × String × Json) where
  message
    | .message, ⟨o, .sendMessageEvent event⟩ => emit o event
    | .chat, ⟨o, .sendMessageEvent event⟩ => emit o event
    | .session, ⟨o, .sessionOutgoingEvent outgoing⟩ => [(o, outgoing.sessionId, outgoing.payload)]
    | _, _ => []
  output x := (delivered? x).toList

def storageChain : List ActorType := [.storage, .chat, .message]

def sessionChain : List ActorType := [.session, .chat, .message]

theorem storageTrail_along (lib : Libraries) (order : List ActorType) :
    (storageTrail lib).Along (runtime lib order) storageChain where
  nodup := by decide
  message := by
    rintro a ⟨o, p⟩
    rw [runtime_handle]
    cases a with
    | session => cases p <;> rfl
    | message =>
      cases p with
      | sendMessageEvent event =>
        simp [storageTrail, handle, MessageActor.handle, trace, Trail.act]
      | _ => rfl
    | chat =>
      cases p with
      | sendMessageEvent event =>
        simp only [handle, ChatActor.handle]
        split <;> simp [storageTrail, trace, Trail.act]
      | _ => rfl
    | storage =>
      cases p with
      | storagePersistMessage persist =>
        simp only [storageTrail, store, handle, StorageActor.handle]
        cases hc : lib.stringGenerator persist.chatId <;>
          cases hs : lib.stringGenerator persist.senderId <;>
          simp [trace, Trail.act, created?]
      | _ => rfl
  outside := by
    rintro a ha ⟨o, p⟩
    cases a with
    | session => cases p <;> rfl
    | _ => simp [storageChain] at ha
  emit := by
    intro a m x hx hne
    cases does_of_mem hx with
    | deliver o outgoing => exact absurd rfl hne
    | create o persist hc hs => exact ⟨_, rfl⟩
  send := by
    intro a m d m' hm hne
    cases does_of_mem hm with
    | forward o event => exact ⟨[.storage], [], rfl⟩
    | persist o event => exact ⟨[], [.message], rfl⟩
    | echo o event => exact absurd rfl hne
    | incoming o event hr => exact absurd rfl hne

theorem sessionTrail_along (lib : Libraries) (order : List ActorType) :
    sessionTrail.Along (runtime lib order) sessionChain where
  nodup := by decide
  message := by
    rintro a ⟨o, p⟩
    rw [runtime_handle]
    cases a with
    | session =>
      cases p <;> simp [sessionTrail, handle, SessionActor.handle, trace, Trail.act, delivered?]
    | message => cases p <;> simp [sessionTrail, handle, MessageActor.handle, trace, Trail.act]
    | chat =>
      cases p with
      | sendMessageEvent event =>
        simp only [handle, ChatActor.handle, sessionTrail, emit]
        split <;> simp [trace, Trail.act]
      | _ => rfl
    | storage =>
      cases p with
      | storagePersistMessage persist =>
        simp only [sessionTrail, handle, StorageActor.handle]
        cases hc : lib.stringGenerator persist.chatId <;>
          cases hs : lib.stringGenerator persist.senderId <;>
          simp [trace, Trail.act, delivered?]
      | _ => rfl
  outside := by
    rintro a ha ⟨o, p⟩
    cases a with
    | storage => cases p <;> rfl
    | _ => simp [sessionChain] at ha
  emit := by
    intro a m x hx hne
    cases does_of_mem hx with
    | deliver o outgoing => exact ⟨_, rfl⟩
    | create o persist hc hs => exact absurd rfl hne
  send := by
    intro a m d m' hm hne
    cases does_of_mem hm with
    | forward o event => exact ⟨[.session], [], rfl⟩
    | persist o event => exact absurd rfl hne
    | echo o event => exact ⟨[], [.message], rfl⟩
    | incoming o event hr => exact ⟨[], [.message], rfl⟩

end Svitock
