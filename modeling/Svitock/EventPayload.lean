import Svitock.Actors
import Svitock.UserSessions

namespace Svitock

/-- How both dispatchers read the text of a message. -/
def readText (json : Json) : Except JsonError String := do
  let payload ← json.valueJson "payload" (.object [])
  payload.value "text" ""

theorem readText_eq {json payload : Json}
    (hp : json.valueJson "payload" (.object []) = .ok payload) :
    readText json = payload.value "text" "" := by
  simp [readText, hp, bind, Except.bind]

theorem MessageDispatcher.readText_of_dispatch {lib : Libraries} {sessionId : String}
    {raw : ByteArray} {event : SendMessageEvent}
    (h : dispatch lib sessionId raw = .ok (some ⟨.message, .sendMessageEvent event⟩)) :
    readText (lib.parse raw) = .ok event.text := by
  obtain ⟨ho, hw, henvelope⟩ := envelopeOf_of_dispatch h
  have hpayload : (lib.parse raw).valueJson "payload" (.object []) =
      .ok (payloadOf (lib.parse raw)) := by
    simp [Json.valueJson, ho, payloadOf]
  -- of the four kinds of envelope only that of `send_message` carries such an event
  rcases envelopeOf_cases henvelope with ⟨_, heq⟩ | ⟨htype, heq⟩ | ⟨_, heq⟩ | ⟨_, heq⟩
  · cases heq
  · have hevent : event = sendMessageEventOf sessionId (lib.parse raw) := by
      injection heq with _ hpayload
      exact ActorPayload.sendMessageEvent.inj hpayload
    simp only [wellTyped, htype, String.reduceEq, if_true, if_false, Bool.and_eq_true] at hw
    rw [readText_eq hpayload, Json.value_of_stringOrAbsent hw.2.1.2 hw.2.2, hevent]
    rfl
  · cases heq
  · cases heq

theorem UserKeyed.MessageDispatcher.readText_of_sendFields {message : Json}
    {chatId toUserId text : String} (h : sendFields message = .ok (chatId, toUserId, text)) :
    readText message = .ok text := by
  obtain ⟨-, payload, hp, hx⟩ := sendFields_eq_ok h
  rw [readText_eq hp, hx]

/-- An event for a message, with the place it comes from. -/
inductive Emission
  | chatActor (event : SendMessageEvent) (outgoing : SessionOutgoingEvent)
      (h : .send .session (.sessionOutgoingEvent outgoing) ∈
        ChatActor.handle (.sendMessageEvent event))
  | handleSendMessage (chatId userId text : String)

namespace Emission

def json : Emission → Json
  | chatActor _ outgoing _ => outgoing.payload
  | handleSendMessage chatId userId text => UserKeyed.MessageDispatcher.outgoing chatId userId text

def text : Emission → String
  | chatActor event _ _ => event.text
  | handleSendMessage _ _ text => text

def byChatActor : Emission → Bool
  | chatActor _ _ _ => true
  | handleSendMessage _ _ _ => false

def payloadIsObject (emission : Emission) : Bool :=
  (emission.json.field? "payload").any Json.isObject

structure Decodes (emission : Emission) : Prop where
  isObject : emission.json.isObject = true
  payload : emission.payloadIsObject = true
  text : readText emission.json = .ok emission.text

theorem chatActor_cases {event : SendMessageEvent} {outgoing : SessionOutgoingEvent}
    (h : .send .session (.sessionOutgoingEvent outgoing) ∈
      ChatActor.handle (.sendMessageEvent event)) :
    outgoing.payload = ChatActor.echo event ∨ outgoing.payload = ChatActor.incoming event := by
  simp only [ChatActor.handle, List.mem_append, List.mem_cons, List.not_mem_nil, or_false] at h
  rcases h with (h | h) | h
  · cases h
  · cases h
    exact .inl rfl
  · split at h
    · cases List.mem_singleton.mp h
      exact .inr rfl
    · cases h

theorem decodes_chatActor {event : SendMessageEvent} {outgoing : SessionOutgoingEvent}
    (h : .send .session (.sessionOutgoingEvent outgoing) ∈
      ChatActor.handle (.sendMessageEvent event)) : (chatActor event outgoing h).Decodes := by
  have hemitted : (chatActor event outgoing h).json = outgoing.payload := rfl
  refine ⟨?_, ?_, ?_⟩ <;> simp only [payloadIsObject, hemitted]
  all_goals
    rcases chatActor_cases h with hjson | hjson
    · rw [hjson, ChatActor.echo_eq]
      rfl
    · rw [hjson, ChatActor.incoming_eq]
      rfl

/-- The payload of the user-keyed dispatcher is a list of two texts and no pair. -/
theorem not_payloadIsObject_handleSendMessage (chatId userId text : String) :
    (handleSendMessage chatId userId text).payloadIsObject = false := rfl

/-- The text of an event is found by the accessor of the dispatchers exactly if the event was
emitted by `ChatActor::handle`, and the two emitters never agree on the shape of the payload. -/
theorem decodes_iff_byChatActor (emission : Emission) :
    (emission.Decodes ↔ emission.byChatActor = true) ∧
      ∀ other : Emission, emission.payloadIsObject = other.payloadIsObject ↔
        emission.byChatActor = other.byChatActor := by
  have hshape (emission : Emission) : emission.payloadIsObject = emission.byChatActor := by
    cases emission with
    | chatActor event outgoing h => exact (decodes_chatActor h).payload
    | handleSendMessage chatId userId text =>
      exact not_payloadIsObject_handleSendMessage chatId userId text
  refine ⟨⟨fun hd => ?_, fun hb => ?_⟩, fun other => by rw [hshape emission, hshape other]⟩
  · rw [← hshape emission]
    exact hd.payload
  · cases emission with
    | chatActor event outgoing h => exact decodes_chatActor h
    | handleSendMessage chatId userId text => cases hb

/-- The event for the text `hi` has the payload `["text", "hi"]`, and reading it raises. -/
theorem delivered_text_is_not_read :
    (handleSendMessage "c" "u" "hi").json.field? "payload" =
        some (.array [.string "text", .string "hi"]) ∧
      readText (handleSendMessage "c" "u" "hi").json = .error .typeError306 ∧
      ¬ (handleSendMessage "c" "u" "hi").Decodes := by
  have hraises : readText (handleSendMessage "c" "u" "hi").json = .error .typeError306 := rfl
  refine ⟨rfl, hraises, fun hd => ?_⟩
  have htext := hd.text
  rw [hraises] at htext
  cases htext

end Emission

end Svitock
