import Svitock.ServerSteps

namespace Svitock

open ActorRuntime

/-- The field is present and no string. -/
def Json.Mistyped (json : Json) (key : String) : Prop :=
  ∃ v, json.field? key = some v ∧ ∀ text, v ≠ .string text

theorem Json.stringOrAbsent_eq_false {json : Json} {key : String} :
    json.stringOrAbsent key = false ↔ json.Mistyped key := by
  unfold stringOrAbsent Mistyped
  split
  · next h => simp [h]
  · next text h => simp [h]
  · next v hs h => simpa [h] using fun text => hs text

namespace MessageDispatcher

def types : List String := ["auth", "send_message", "typing", "message_read"]

/-- The text fields that a frame of a type is read for. -/
def fieldsRead (type : String) : List String :=
  if type = "auth" then ["user_id"]
  else if type = "send_message" then ["chat_id", "sender_id", "recipient_session_id"]
  else if type = "typing" then ["chat_id", "user_id"]
  else if type = "message_read" then ["chat_id", "user_id", "message_id"]
  else []

/-- `type` is no string, or one of the fields read for that type is none, or the
payload of a message is no object or has a text that is no string. -/
def IllTyped (json : Json) : Prop :=
  json.Mistyped "type" ∨
    ∃ type, json.field? "type" = some (.string type) ∧
      ((∃ key ∈ fieldsRead type, json.Mistyped key) ∨
        type = "send_message" ∧ ∃ payload, json.field? "payload" = some payload ∧
          (payload.isObject = false ∨ payload.Mistyped "text"))

/-- `type` is absent or a string that the dispatcher does not know. -/
def Unknown (json : Json) : Prop :=
  json.field? "type" = none ∨ ∃ type, json.field? "type" = some (.string type) ∧ type ∉ types

variable {json : Json} {lib : Libraries} {sessionId : String} {raw : ByteArray}

theorem payloadOf_illTyped : ((payloadOf json).isObject = false ∨
    (payloadOf json).stringOrAbsent "text" = false) ↔
      ∃ payload, json.field? "payload" = some payload ∧
        (payload.isObject = false ∨ payload.Mistyped "text") := by
  unfold payloadOf
  cases json.field? "payload" with
  | none => simp [Json.isObject, Json.stringOrAbsent, Json.field?]
  | some payload => simp [Json.stringOrAbsent_eq_false]

theorem wellTyped_eq_false : wellTyped json = false ↔ IllTyped json := by
  unfold wellTyped IllTyped
  by_cases ht : json.Mistyped "type"
  · simp [Json.stringOrAbsent_eq_false.mpr ht, ht]
  · have hs : json.stringOrAbsent "type" = true := by
      simpa using mt Json.stringOrAbsent_eq_false.mp ht
    rw [hs, Bool.true_and]
    simp only [ht, false_or]
    cases hf : json.field? "type" with
    | none => simp [Json.text, hf]
    | some v =>
      cases v with
      | string type =>
        have htext : json.text "type" = type := by simp [Json.text, hf]
        simp only [htext, Option.some.injEq, Json.string.injEq, exists_eq_left']
        simp only [fieldsRead]
        split_ifs with hauth hsend htyping hread
        · simp [hauth, Json.stringOrAbsent_eq_false]
        · simp only [hsend, true_and, ← payloadOf_illTyped, Bool.and_eq_false_iff,
            Json.stringOrAbsent_eq_false, List.mem_cons, List.not_mem_nil, or_false,
            exists_eq_or_imp, exists_eq_left, or_assoc]
        · simp [htyping, Bool.and_eq_false_iff, Json.stringOrAbsent_eq_false, -Bool.and_eq_false_imp]
        · simp [hread, Bool.and_eq_false_iff, Json.stringOrAbsent_eq_false, or_assoc,
            -Bool.and_eq_false_imp]
        · simp [hsend]
      | _ => exact absurd ⟨_, hf, by simp⟩ ht

/-- Dispatching raises exactly on the ill-typed objects. -/
theorem dispatch_error_iff : (∃ e, dispatch lib sessionId raw = .error e) ↔
    (lib.parse raw).isObject = true ∧ IllTyped (lib.parse raw) := by
  rw [← wellTyped_eq_false]
  constructor
  · rintro ⟨e, he⟩
    cases ho : (lib.parse raw).isObject with
    | false =>
      rw [dispatch_of_not_object ho] at he
      cases he
    | true =>
      refine ⟨rfl, ?_⟩
      by_contra hw
      rw [dispatch_of_wellTyped ho (by simpa using hw)] at he
      cases he
  · rintro ⟨ho, hw⟩
    exact dispatch_of_not_wellTyped ho hw

theorem envelopeOf_of_unknown (h : Unknown json) : envelopeOf sessionId json = none := by
  have ht : json.text "type" ∉ types := by
    rcases h with h | ⟨type, h, htype⟩
    · simp [Json.text, h, types]
    · simpa [Json.text, h] using htype
  simp only [types, List.mem_cons, List.not_mem_nil, or_false, not_or] at ht
  simp [envelopeOf, ht]

theorem dispatch_of_unknown (h : (lib.parse raw).isObject = false ∨ Unknown (lib.parse raw)) :
    dispatch lib sessionId raw = .ok none := by
  cases ho : (lib.parse raw).isObject with
  | false => exact dispatch_of_not_object ho
  | true =>
    have hu : Unknown (lib.parse raw) := by simpa [ho] using h
    have hw : wellTyped (lib.parse raw) = true := by
      by_contra hw
      rcases wellTyped_eq_false.mp (by simpa using hw) with ⟨v, hv, hne⟩ | ⟨type, ht, hbad⟩
      · rcases hu with hu | ⟨type, hu, -⟩
        · simp [hu] at hv
        · exact hne type (Option.some.inj (hv.symm.trans hu))
      · rcases hu with hu | ⟨type', hu, hknown⟩
        · simp [hu] at ht
        · -- a type that is not known has no fields to be read
          obtain rfl : type = type' := by simpa [ht] using hu
          simp only [types, List.mem_cons, List.not_mem_nil, or_false, not_or] at hknown
          simp [fieldsRead, hknown] at hbad
    rw [dispatch_of_wellTyped ho hw, envelopeOf_of_unknown hu]

structure IsEnvelopeOf (sessionId : String) (json : Json) (envelope : ActorEnvelope) : Prop where
  auth : json.text "type" = "auth" →
    envelope = ⟨.session, .authEvent ⟨sessionId, json.text "user_id"⟩⟩
  sendMessage : json.text "type" = "send_message" →
    envelope = ⟨.message, .sendMessageEvent ⟨sessionId, json.text "chat_id", json.text "sender_id",
      json.text "recipient_session_id", (payloadOf json).text "text"⟩⟩
  typing : json.text "type" = "typing" →
    envelope = ⟨.message, .typingEvent ⟨json.text "chat_id", json.text "user_id"⟩⟩
  messageRead : json.text "type" = "message_read" →
    envelope = ⟨.message, .readEvent ⟨json.text "chat_id", json.text "user_id",
      json.text "message_id"⟩⟩
  type : json.text "type" ∈ types

theorem isEnvelopeOf_envelopeOf {envelope : ActorEnvelope}
    (h : envelopeOf sessionId json = some envelope) : IsEnvelopeOf sessionId json envelope := by
  unfold envelopeOf at h
  split_ifs at h with hauth hsend htyping hread
  · obtain rfl := Option.some.inj h
    exact ⟨fun _ => rfl, by simp [hauth], by simp [hauth], by simp [hauth], by simp [hauth, types]⟩
  · obtain rfl := Option.some.inj h
    exact ⟨by simp [hsend], fun _ => rfl, by simp [hsend], by simp [hsend], by simp [hsend, types]⟩
  · obtain rfl := Option.some.inj h
    exact ⟨by simp [htyping], by simp [htyping], fun _ => rfl, by simp [htyping],
      by simp [htyping, types]⟩
  · obtain rfl := Option.some.inj h
    exact ⟨by simp [hread], by simp [hread], by simp [hread], fun _ => rfl, by simp [hread, types]⟩

theorem dispatch_of_known (ho : (lib.parse raw).isObject = true) (hu : ¬ Unknown (lib.parse raw))
    (hw : ¬ IllTyped (lib.parse raw)) :
    ∃ envelope, dispatch lib sessionId raw = .ok (some envelope) ∧
      IsEnvelopeOf sessionId (lib.parse raw) envelope := by
  have hwell : wellTyped (lib.parse raw) = true := by simpa using mt wellTyped_eq_false.mp hw
  rw [dispatch_of_wellTyped ho hwell]
  cases he : envelopeOf sessionId (lib.parse raw) with
  | some envelope => exact ⟨envelope, rfl, isEnvelopeOf_envelopeOf he⟩
  | none =>
    -- a well-typed object without an envelope is one of unknown type
    refine absurd ?_ hu
    cases hf : (lib.parse raw).field? "type" with
    | none => exact .inl hf
    | some v =>
      cases v with
      | string type =>
        refine .inr ⟨type, hf, fun hknown => ?_⟩
        have htext : (lib.parse raw).text "type" = type := by simp [Json.text, hf]
        unfold envelopeOf at he
        rw [htext] at he
        split_ifs at he with hauth hsend htyping hread
        simp [types, hauth, hsend, htyping, hread] at hknown
      | _ => exact absurd (.inl ⟨_, hf, by simp⟩) hw

end MessageDispatcher

namespace Server

open MessageDispatcher

variable {cfg : Config}

theorem onRead_actorSystem_of_none {w : Server} {i : ℕ} {s : WebSocketSession} {raw : ByteArray}
    (h : ∀ envelope, dispatch cfg.lib s.sessionId raw ≠ .ok (some envelope)) :
    (w.onRead cfg i s raw).actorSystem = w.actorSystem := by
  unfold onRead
  dsimp only
  split
  · rfl
  · rfl
  · next envelope he => exact absurd he (h envelope)

/-- One call of `ActorSystem::send`: the mailbox of the destination takes the envelope
if it can, the others stay as they are. -/
structure SentOnce (w w' : Server) (origin : ℕ) (envelope : ActorEnvelope) : Prop where
  pushed : w'.actorSystem.mailbox envelope.destination =
    ((w.actorSystem.mailbox envelope.destination).push ⟨origin, envelope.payload⟩).1
  others : ∀ a, a ≠ envelope.destination → w'.actorSystem.mailbox a = w.actorSystem.mailbox a
  once : w'.actorSystem.accepted.length + w'.actorSystem.refused.length =
    w.actorSystem.accepted.length + w.actorSystem.refused.length + 1

theorem sentOnce_onRead (w : Server) (i : ℕ) {s : WebSocketSession} {raw : ByteArray}
    {envelope : ActorEnvelope} (h : dispatch cfg.lib s.sessionId raw = .ok (some envelope)) :
    SentOnce w (w.onRead cfg i s raw) w.frames.length envelope := by
  simp only [onRead, h]
  have hd : envelope.destination ∈ cfg.runtime.order := cfg.complete _
  by_cases hroom : w.actorSystem.Room cfg.runtime envelope.destination
  · obtain ⟨-, hactive, hlt⟩ := hroom
    refine ⟨?_, fun a ha => receive_mailbox_of_ne _ _ _ ha, ?_⟩
    · rw [receive_of_room _ ⟨hd, hactive, hlt⟩]
      simp [State.enqueue, Mailbox.push, hactive, hlt]
    · rw [receive_of_room _ ⟨hd, hactive, hlt⟩]
      simp only [State.enqueue, List.length_append, List.length_singleton]
      omega
  · refine ⟨?_, fun a ha => receive_mailbox_of_ne _ _ _ ha, ?_⟩
    · rw [receive_of_not_room _ hroom]
      simp only [Mailbox.push]
      split_ifs with hactive hlt
      · rfl
      · exact absurd ⟨hd, by simpa using hactive, hlt⟩ hroom
      · rfl
    · rw [receive_of_not_room _ hroom]
      simp only [List.length_append, List.length_singleton]
      omega

/-- A frame that is no object, or of no known type, sends nothing and raises nothing; a
frame raises exactly if it is an ill-typed object, and then sends nothing; every other
frame sends one envelope with the frame's data and touches no other mailbox. -/
theorem dispatch_exact (cfg : Config) (w : Server) (i : ℕ) (s : WebSocketSession)
    (raw : ByteArray) :
    ((cfg.lib.parse raw).isObject = false ∨ Unknown (cfg.lib.parse raw) →
      dispatch cfg.lib s.sessionId raw = .ok none ∧
        (w.onRead cfg i s raw).actorSystem = w.actorSystem ∧
        (w.onRead cfg i s raw).exception = w.exception) ∧
    ((∃ e, dispatch cfg.lib s.sessionId raw = .error e) ↔
      (cfg.lib.parse raw).isObject = true ∧ IllTyped (cfg.lib.parse raw)) ∧
    ((∃ e, dispatch cfg.lib s.sessionId raw = .error e) →
      (w.onRead cfg i s raw).actorSystem = w.actorSystem) ∧
    ((cfg.lib.parse raw).isObject = true → ¬ Unknown (cfg.lib.parse raw) →
      ¬ IllTyped (cfg.lib.parse raw) →
      ∃ envelope, dispatch cfg.lib s.sessionId raw = .ok (some envelope) ∧
        IsEnvelopeOf s.sessionId (cfg.lib.parse raw) envelope ∧
        SentOnce w (w.onRead cfg i s raw) w.frames.length envelope) := by
  refine ⟨fun h => ?_, dispatch_error_iff, ?_, fun ho hu hw => ?_⟩
  · have hd : MessageDispatcher.dispatch cfg.lib s.sessionId raw = .ok none :=
      dispatch_of_unknown h
    exact ⟨hd, onRead_actorSystem_of_none (by simp [hd]), by simp [onRead, hd]⟩
  · rintro ⟨e, he⟩
    exact onRead_actorSystem_of_none (by simp [he])
  · obtain ⟨envelope, hd, he⟩ : ∃ envelope,
        MessageDispatcher.dispatch cfg.lib s.sessionId raw = .ok (some envelope) ∧
          IsEnvelopeOf s.sessionId (cfg.lib.parse raw) envelope := dispatch_of_known ho hu hw
    exact ⟨envelope, hd, he, sentOnce_onRead w i hd⟩

end Server

end Svitock
