import Svitock.ActorMessage

/-!
# The dispatcher of WebSocket frames

`infrastructure/dispatcher/message_dispatcher.cpp`. A frame gives at most one
envelope, which the caller sends; a field of the wrong type raises.
-/

namespace Svitock

namespace MessageDispatcher

/-- `MessageDispatcher::dispatch`, up to the final send: the envelope it sends, if any. -/
def dispatch (lib : Libraries) (sessionId : String) (rawMessage : ByteArray) :
    Except JsonError (Option ActorEnvelope) := do
  let json := lib.parse rawMessage
  if json.isObject = false then return none
  let type ← json.value "type" ""
  if type = "auth" then
    let userId ← json.value "user_id" ""
    return some ⟨.session, .authEvent ⟨sessionId, userId⟩⟩
  if type = "send_message" then
    let payload ← json.valueJson "payload" (.object [])
    let chatId ← json.value "chat_id" ""
    let senderId ← json.value "sender_id" ""
    let recipientId ← json.value "recipient_session_id" ""
    let text ← payload.value "text" ""
    return some ⟨.message, .sendMessageEvent ⟨sessionId, chatId, senderId, recipientId, text⟩⟩
  if type = "typing" then
    let chatId ← json.value "chat_id" ""
    let userId ← json.value "user_id" ""
    return some ⟨.message, .typingEvent ⟨chatId, userId⟩⟩
  if type = "message_read" then
    let chatId ← json.value "chat_id" ""
    let userId ← json.value "user_id" ""
    let messageId ← json.value "message_id" ""
    return some ⟨.message, .readEvent ⟨chatId, userId, messageId⟩⟩
  return none

/-- The JSON under `payload`, an empty object when there is none. -/
def payloadOf (json : Json) : Json := (json.field? "payload").getD (.object [])

/-- Every field that the type of the frame makes the dispatcher read is absent or
of the type it is read as. -/
def wellTyped (json : Json) : Bool :=
  json.stringOrAbsent "type" &&
    if json.text "type" = "auth" then json.stringOrAbsent "user_id"
    else if json.text "type" = "send_message" then
      json.stringOrAbsent "chat_id" && json.stringOrAbsent "sender_id" &&
        json.stringOrAbsent "recipient_session_id" &&
        (payloadOf json).isObject && (payloadOf json).stringOrAbsent "text"
    else if json.text "type" = "typing" then
      json.stringOrAbsent "chat_id" && json.stringOrAbsent "user_id"
    else if json.text "type" = "message_read" then
      json.stringOrAbsent "chat_id" && json.stringOrAbsent "user_id" &&
        json.stringOrAbsent "message_id"
    else true

def sendMessageEventOf (sessionId : String) (json : Json) : SendMessageEvent :=
  ⟨sessionId, json.text "chat_id", json.text "sender_id", json.text "recipient_session_id",
    (payloadOf json).text "text"⟩

def envelopeOf (sessionId : String) (json : Json) : Option ActorEnvelope :=
  if json.text "type" = "auth" then
    some ⟨.session, .authEvent ⟨sessionId, json.text "user_id"⟩⟩
  else if json.text "type" = "send_message" then
    some ⟨.message, .sendMessageEvent (sendMessageEventOf sessionId json)⟩
  else if json.text "type" = "typing" then
    some ⟨.message, .typingEvent ⟨json.text "chat_id", json.text "user_id"⟩⟩
  else if json.text "type" = "message_read" then
    some ⟨.message, .readEvent ⟨json.text "chat_id", json.text "user_id", json.text "message_id"⟩⟩
  else none

variable {lib : Libraries} {sessionId : String} {raw : ByteArray}

theorem dispatch_of_not_object (h : (lib.parse raw).isObject = false) :
    dispatch lib sessionId raw = .ok none := by
  simp [dispatch, h]
  rfl

theorem dispatch_of_wellTyped (ho : (lib.parse raw).isObject = true)
    (h : wellTyped (lib.parse raw) = true) :
    dispatch lib sessionId raw = .ok (envelopeOf sessionId (lib.parse raw)) := by
  unfold wellTyped at h
  unfold dispatch envelopeOf
  generalize lib.parse raw = json at ho h ⊢
  obtain ⟨ht, h⟩ := (Bool.and_eq_true _ _).mp h
  have hv : ∀ key, json.stringOrAbsent key = true → json.value key "" = .ok (json.text key) :=
    fun key => Json.value_of_stringOrAbsent ho
  have hp : json.valueJson "payload" (.object []) = .ok (payloadOf json) := by
    simp [Json.valueJson, ho, payloadOf]
  simp only [ho, hv "type" ht, Except.bind, bind, pure, Except.pure, Bool.true_eq_false, if_false]
  split_ifs at h ⊢ with hauth hsend htyping hread
  · simp [hv "user_id" h]
  · simp only [Bool.and_eq_true] at h
    obtain ⟨⟨⟨⟨hc, hs⟩, hr⟩, hpo⟩, htx⟩ := h
    simp [hp, hv _ hc, hv _ hs, hv _ hr, Json.value_of_stringOrAbsent hpo htx, sendMessageEventOf]
  · obtain ⟨hc, hu⟩ := (Bool.and_eq_true _ _).mp h
    simp [hv _ hc, hv _ hu]
  · simp only [Bool.and_eq_true] at h
    obtain ⟨⟨hc, hu⟩, hm⟩ := h
    simp [hv _ hc, hv _ hu, hv _ hm]
  · rfl

/-- A dispatch that did not raise has read every field of its type. -/
theorem wellTyped_of_dispatch {envelope : Option ActorEnvelope}
    (ho : (lib.parse raw).isObject = true) (h : dispatch lib sessionId raw = .ok envelope) :
    wellTyped (lib.parse raw) = true := by
  unfold dispatch at h
  generalize lib.parse raw = json at ho h ⊢
  simp only [ho, Bool.true_eq_false, if_false] at h
  have hread {key s : String} (hv : json.value key "" = .ok s) : json.stringOrAbsent key = true :=
    (Json.exists_value_iff.mp ⟨s, hv⟩).2
  obtain ⟨type, ht, h⟩ := Json.ok_of_bind h
  unfold wellTyped
  rw [hread ht, Json.text_of_value ht, Bool.true_and]
  split_ifs at h ⊢
  · obtain ⟨userId, hu, -⟩ := Json.ok_of_bind h
    exact hread hu
  · obtain ⟨payload, hp, h⟩ := Json.ok_of_bind h
    obtain ⟨chatId, hc, h⟩ := Json.ok_of_bind h
    obtain ⟨senderId, hs, h⟩ := Json.ok_of_bind h
    obtain ⟨recipientId, hr, h⟩ := Json.ok_of_bind h
    obtain ⟨text, htext, -⟩ := Json.ok_of_bind h
    obtain ⟨hpo, hpt⟩ := Json.exists_value_iff.mp ⟨text, htext⟩
    have hpayload : payloadOf json = payload := Json.getD_of_valueJson hp
    simp [hread hc, hread hs, hread hr, hpayload, hpo, hpt]
  · obtain ⟨chatId, hc, h⟩ := Json.ok_of_bind h
    obtain ⟨userId, hu, -⟩ := Json.ok_of_bind h
    simp [hread hc, hread hu]
  · obtain ⟨chatId, hc, h⟩ := Json.ok_of_bind h
    obtain ⟨userId, hu, h⟩ := Json.ok_of_bind h
    obtain ⟨messageId, hm, -⟩ := Json.ok_of_bind h
    simp [hread hc, hread hu, hread hm]
  · rfl

theorem dispatch_of_not_wellTyped (ho : (lib.parse raw).isObject = true)
    (h : wellTyped (lib.parse raw) = false) :
    ∃ e, dispatch lib sessionId raw = .error e := by
  cases hd : dispatch lib sessionId raw with
  | error e => exact ⟨e, rfl⟩
  | ok envelope =>
    rw [wellTyped_of_dispatch ho hd] at h
    cases h

theorem envelopeOf_of_dispatch {envelope : ActorEnvelope}
    (h : dispatch lib sessionId raw = .ok (some envelope)) :
    (lib.parse raw).isObject = true ∧ wellTyped (lib.parse raw) = true ∧
      envelopeOf sessionId (lib.parse raw) = some envelope := by
  cases ho : (lib.parse raw).isObject with
  | false =>
    rw [dispatch_of_not_object ho] at h
    cases h
  | true =>
    have hw := wellTyped_of_dispatch ho h
    rw [dispatch_of_wellTyped ho hw] at h
    exact ⟨rfl, hw, Except.ok.inj h⟩

theorem envelopeOf_cases {json : Json} {envelope : ActorEnvelope}
    (h : envelopeOf sessionId json = some envelope) :
    (json.text "type" = "auth" ∧
      envelope = ⟨.session, .authEvent ⟨sessionId, json.text "user_id"⟩⟩) ∨
    (json.text "type" = "send_message" ∧
      envelope = ⟨.message, .sendMessageEvent (sendMessageEventOf sessionId json)⟩) ∨
    (∃ e, envelope = ⟨.message, .typingEvent e⟩) ∨ ∃ e, envelope = ⟨.message, .readEvent e⟩ := by
  unfold envelopeOf at h
  split_ifs at h with hauth hsend htyping hread
  · exact .inl ⟨hauth, (Option.some.inj h).symm⟩
  · exact .inr (.inl ⟨hsend, (Option.some.inj h).symm⟩)
  · exact .inr (.inr (.inl ⟨_, (Option.some.inj h).symm⟩))
  · exact .inr (.inr (.inr ⟨_, (Option.some.inj h).symm⟩))

end MessageDispatcher

end Svitock
