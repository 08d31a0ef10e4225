import Svitock.Isolation
import Svitock.SessionTransport
import Svitock.StorageLeg

/-!
# The data transfer object of the events

`presentation/dto/message_event_dto.hpp`, and how it fits the server: a client that
reads its events with it can read every event, and gets the data of the frame that the
event is for. It cannot write a frame that would be stored, since the object has no
place for a sender.
-/

namespace Svitock

open ActorRuntime Transition

/-- `==` between a value and what the parser makes of its dump: objects are compared by
key, and a number that is not negative comes back as an unsigned one. -/
inductive Json.Same : Json → Json → Prop
  | refl (json : Json) : Same json json
  | number (n : ℕ) : Same (.numberInteger n) (.numberUnsigned n)
  | array {xs ys : List Json} (hlength : xs.length = ys.length)
      (h : ∀ (i : ℕ) (x y : Json), xs[i]? = some x → ys[i]? = some y → Same x y) :
      Same (.array xs) (.array ys)
  | object {xs ys : List (String × Json)}
      (hkeys : ∀ key, (xs.lookup key).isSome = (ys.lookup key).isSome)
      (h : ∀ key x y, xs.lookup key = some x → ys.lookup key = some y → Same x y) :
      Same (.object xs) (.object ys)

namespace Json

variable {a b x : Json} {key s : String}

theorem Same.field? (h : Same a b) (key : String) :
    (a.field? key = none ∧ b.field? key = none) ∨
      ∃ x y, a.field? key = some x ∧ b.field? key = some y ∧ Same x y := by
  cases h with
  | refl =>
    cases ha : a.field? key with
    | none => exact .inl ⟨rfl, rfl⟩
    | some x => exact .inr ⟨x, x, rfl, rfl, .refl x⟩
  | number n => exact .inl ⟨rfl, rfl⟩
  | array _ _ => exact .inl ⟨rfl, rfl⟩
  | @object xs ys hkeys h =>
    have hsome := hkeys key
    simp only [Json.field?]
    cases hx : xs.lookup key with
    | none =>
      rw [hx] at hsome
      exact .inl ⟨rfl, by simpa using hsome.symm⟩
    | some x =>
      rw [hx] at hsome
      obtain ⟨y, hy⟩ := Option.isSome_iff_exists.mp hsome.symm
      exact .inr ⟨x, y, rfl, hy, h key x y hx hy⟩

theorem Same.eq_string (h : Same (.string s) b) : b = .string s := by
  cases h
  rfl

theorem Same.field?_string (h : Same a b) (ha : a.field? key = some (.string s)) :
    b.field? key = some (.string s) := by
  rcases h.field? key with ⟨hnone, -⟩ | ⟨x, y, hx, hy, hxy⟩
  · rw [hnone] at ha
    cases ha
  · obtain rfl := Option.some.inj (hx.symm.trans ha)
    rw [hy, hxy.eq_string]

theorem Same.text_eq (h : Same a b) (key : String) : b.text key = a.text key := by
  unfold text
  rcases h.field? key with ⟨ha, hb⟩ | ⟨x, y, hx, hy, hxy⟩
  · rw [ha, hb]
  · rw [hx, hy]
    cases hxy <;> rfl

end Json

structure MessageEventDto where
  type : String
  chatId : String
  payload : Json

/-- The exceptions of `at` and `get_to`: 302, a value of another type, 304, a receiver that
is not an object, and 403, a key that is missing. -/
inductive DtoError
  | typeError302
  | typeError304
  | outOfRange403
  deriving DecidableEq, Repr

/-- `json.at(key)`. -/
def Json.atKey (json : Json) (key : String) : Except DtoError Json :=
  if json.isObject = false then .error .typeError304
  else
    match json.field? key with
    | none => .error .outOfRange403
    | some v => .ok v

/-- `get_to` for a string. -/
def Json.getString : Json → Except DtoError String
  | .string s => .ok s
  | _ => .error .typeError302

namespace MessageEventDto

def toJson (dto : MessageEventDto) : Json :=
  .braces [
    .braces [.string "type", .string dto.type],
    .braces [.string "chat_id", .string dto.chatId],
    .braces [.string "payload", dto.payload]]

/-- `from_json`, which fills an object that is there already: what was read before an
exception stays in it. -/
def fromJson (json : Json) (dto : MessageEventDto) : Except DtoError Unit × MessageEventDto :=
  match (json.atKey "type").bind Json.getString with
  | .error e => (.error e, dto)
  | .ok type =>
    let dto := { dto with type := type }
    match (json.atKey "chat_id").bind Json.getString with
    | .error e => (.error e, dto)
    | .ok chatId =>
      let dto := { dto with chatId := chatId }
      match json.atKey "payload" with
      | .error e => (.error e, dto)
      | .ok payload => (.ok (), { dto with payload := payload })

/-- `json.get<MessageEventDto>()`. -/
def get (json : Json) : Except DtoError MessageEventDto :=
  match fromJson json ⟨"", "", .null⟩ with
  | (.error e, _) => .error e
  | (.ok (), dto) => .ok dto

variable {json json' : Json} {dto : MessageEventDto}

theorem toJson_eq (dto : MessageEventDto) : dto.toJson = .object [("type", .string dto.type),
    ("chat_id", .string dto.chatId), ("payload", dto.payload)] := rfl

theorem atKey_eq_ok {key : String} {v : Json} :
    json.atKey key = .ok v ↔ json.field? key = some v := by
  unfold Json.atKey
  cases json with
  | object fields =>
    simp only [Json.isObject, Bool.true_eq_false, if_false]
    cases (Json.object fields).field? key <;> simp
  | _ => simp [Json.isObject, Json.field?]

theorem atKey_bind_eq_ok {key s : String} :
    (json.atKey key).bind Json.getString = .ok s ↔ json.field? key = some (.string s) := by
  rw [← atKey_eq_ok]
  cases json.atKey key with
  | error e => simp [Except.bind]
  | ok v => cases v <;> simp [Except.bind, Json.getString]

theorem get_eq_ok_iff : get json = .ok dto ↔
    json.field? "type" = some (.string dto.type) ∧
    json.field? "chat_id" = some (.string dto.chatId) ∧
    json.field? "payload" = some dto.payload := by
  rw [← atKey_bind_eq_ok, ← atKey_bind_eq_ok, ← atKey_eq_ok]
  obtain ⟨type, chatId, payload⟩ := dto
  unfold get fromJson
  cases (json.atKey "type").bind Json.getString with
  | error e => simp
  | ok t =>
    cases (json.atKey "chat_id").bind Json.getString with
    | error e => simp
    | ok c =>
      cases json.atKey "payload" with
      | error e => simp
      | ok p => simp [MessageEventDto.mk.injEq]

theorem get_of_same (h : json.Same json') (hget : get json = .ok dto) :
    ∃ dto', get json' = .ok dto' ∧ dto'.type = dto.type ∧ dto'.chatId = dto.chatId ∧
      dto.payload.Same dto'.payload := by
  obtain ⟨htype, hchat, hpayload⟩ := get_eq_ok_iff.mp hget
  rcases h.field? "payload" with ⟨hnone, -⟩ | ⟨p, p', hp, hp', hsame⟩
  · rw [hnone] at hpayload
    cases hpayload
  · obtain rfl := Option.some.inj (hp.symm.trans hpayload)
    have hget' : get json' = .ok ⟨dto.type, dto.chatId, p'⟩ :=
      get_eq_ok_iff.mpr ⟨h.field?_string htype, h.field?_string hchat, hp'⟩
    exact ⟨⟨dto.type, dto.chatId, p'⟩, hget', rfl, rfl, hsame⟩

end MessageEventDto

theorem Json.value_of_field? {json : Json} {key s : String}
    (h : json.field? key = some (.string s)) : json.value key "" = .ok s := by
  cases json with
  | object fields => simp [Json.value, Json.isObject, h]
  | _ => cases h

namespace Server

variable {cfg : Config} {w : Server} {ls : List Label} {i : ℕ} {f : Frame} {dto : MessageEventDto}

structure Carries (lib : Libraries) (i : ℕ) (f : Frame) (dto : MessageEventDto) : Prop where
  type : (lib.parse f.raw).text "type" = "send_message"
  chatId : dto.chatId = (lib.parse f.raw).text "chat_id"
  text : dto.payload.value "text" "" =
    .ok ((MessageDispatcher.payloadOf (lib.parse f.raw)).text "text")
  kind : (dto.type = "message_delivered" ∧ f.session = i) ∨
    (dto.type = "incoming_message" ∧
      (lib.parse f.raw).text "recipient_session_id" = sessionIdOf i ∧
      dto.payload.value "from" "" = .ok ((lib.parse f.raw).text "sender_id"))

theorem exists_handed_of_written (h : Runs cfg (run cfg) ls w) {text : String}
    (ht : text ∈ written cfg i (run cfg) ls) :
    ∃ x ∈ w.handed, x.session = i ∧ text = cfg.lib.dump x.payload := by
  have hall := written_of_runs h i
  have hmem : text ∈ w.textsTo cfg.lib i := hall ▸ List.mem_append_left _ ht
  obtain ⟨⟨o, p⟩, hp, rfl⟩ := List.mem_map.mp hmem
  obtain ⟨x, hx, hxp⟩ := List.mem_filterMap.mp hp
  split_ifs at hxp with hi
  cases hxp
  exact ⟨x, hx, hi, rfl⟩

theorem frame_of_handed (h : Runs cfg (run cfg) ls w) (hlt : w.sessions.length < 2 ^ 64)
    {x : Handed} (hx : x ∈ w.handed) :
    ∃ f ∈ w.frames, (cfg.lib.parse f.raw).text "type" = "send_message" ∧
      ((f.session = x.session ∧ x.payload =
          ChatActor.echo (MessageDispatcher.sendMessageEventOf f.sessionId (cfg.lib.parse f.raw))) ∨
        ((cfg.lib.parse f.raw).text "recipient_session_id" = sessionIdOf x.session ∧ x.payload =
          ChatActor.incoming
            (MessageDispatcher.sendMessageEventOf f.sessionId (cfg.lib.parse f.raw)))) := by
  have hn := netInv_of_runs h
  have hl := logInv_of_runs h
  obtain ⟨event, hacc, hcase⟩ := handed_stems_from_event h hx
  obtain ⟨f, hf, -, -, ht, rfl⟩ := hl.sendMessage hacc
  refine ⟨f, List.mem_of_getElem? hf, ht, ?_⟩
  rcases hcase with ⟨hsid, hp⟩ | ⟨-, hrid, hp⟩
  · obtain ⟨s, hs, hid, -⟩ := hn.frames f (List.mem_of_getElem? hf)
    have hsession : sessionIdOf f.session = sessionIdOf x.session :=
      ((hn.ids f.session s hs).symm.trans hid).trans hsid
    have hflt := (List.getElem?_eq_some_iff.mp hs).1
    have hxlt := hl.targets x hx
    exact .inl ⟨sessionIdOf_inj (by omega) (by omega) hsession, hp⟩
  · exact .inr ⟨hrid, hp⟩

theorem carries_of_handed (h : Runs cfg (run cfg) ls w) (hlt : w.sessions.length < 2 ^ 64)
    {x : Handed} (hx : x ∈ w.handed) {json : Json} (hsame : x.payload.Same json) :
    ∃ f ∈ w.frames, ∃ dto, MessageEventDto.get json = .ok dto ∧
      Carries cfg.lib x.session f dto := by
  obtain ⟨f, hf, ht, ⟨hsession, hp⟩ | ⟨hrecipient, hp⟩⟩ := frame_of_handed h hlt hx
  · have hread : MessageEventDto.get x.payload = .ok ⟨"message_delivered",
        (cfg.lib.parse f.raw).text "chat_id", .object [("text",
          .string ((MessageDispatcher.payloadOf (cfg.lib.parse f.raw)).text "text"))]⟩ := by
      rw [hp]
      rfl
    obtain ⟨dto, hget, htype, hchat, hpayload⟩ := MessageEventDto.get_of_same hsame hread
    exact ⟨f, hf, dto, hget, ht, hchat, Json.value_of_field? (hpayload.field?_string rfl),
      .inl ⟨htype, hsession⟩⟩
  · have hread : MessageEventDto.get x.payload = .ok ⟨"incoming_message",
        (cfg.lib.parse f.raw).text "chat_id", .object [("text",
          .string ((MessageDispatcher.payloadOf (cfg.lib.parse f.raw)).text "text")),
          ("from", .string ((cfg.lib.parse f.raw).text "sender_id"))]⟩ := by
      rw [hp]
      rfl
    obtain ⟨dto, hget, htype, hchat, hpayload⟩ := MessageEventDto.get_of_same hsame hread
    exact ⟨f, hf, dto, hget, ht, hchat, Json.value_of_field? (hpayload.field?_string rfl),
      .inr ⟨htype, hrecipient, Json.value_of_field? (hpayload.field?_string rfl)⟩⟩

theorem payloadOf_toJson {sent : MessageEventDto} {json : Json} (hs : sent.toJson.Same json) :
    sent.payload.Same (MessageDispatcher.payloadOf json) := by
  rcases hs.field? "payload" with ⟨hnone, -⟩ | ⟨p, p', hp, hp', hsame⟩
  · cases hnone
  · obtain rfl : sent.payload = p := Option.some.inj hp
    rw [MessageDispatcher.payloadOf, hp']
    exact hsame

theorem Carries.of_toJson (hc : Carries cfg.lib i f dto) {sent : MessageEventDto}
    (hs : sent.toJson.Same (cfg.lib.parse f.raw)) :
    dto.type = "message_delivered" ∧ f.session = i ∧ dto.chatId = sent.chatId ∧
      dto.payload.text "text" = sent.payload.text "text" := by
  have hchat : dto.chatId = sent.chatId := hc.chatId.trans (hs.text_eq "chat_id")
  have htext : dto.payload.text "text" = sent.payload.text "text" := by
    rw [Json.text_of_value hc.text]
    exact (payloadOf_toJson hs).text_eq "text"
  rcases hc.kind with ⟨htype, hsession⟩ | ⟨-, hrecipient, -⟩
  · exact ⟨htype, hsession, hchat, htext⟩
  · have hempty : (cfg.lib.parse f.raw).text "recipient_session_id" = "" :=
      hs.text_eq "recipient_session_id"
    exact absurd (hrecipient.symm.trans hempty) (sessionIdOf_ne_empty i)

theorem not_toJson_of_create (h : Runs cfg (run cfg) ls w)
    (hempty : cfg.lib.stringGenerator "" = none) {c : Traced Message} (hc : c ∈ w.creates)
    (hf : w.frames[c.origin]? = some f) (sent : MessageEventDto) :
    ¬ sent.toJson.Same (cfg.lib.parse f.raw) := by
  intro hs
  obtain ⟨event, hacc, -, hsender, -⟩ := create_stems_from_event h hc
  obtain ⟨f', hf', -, -, -, rfl⟩ := (logInv_of_runs h).sendMessage hacc
  obtain rfl := Option.some.inj (hf.symm.trans hf')
  have hnone : (cfg.lib.parse f.raw).text "sender_id" = "" := hs.text_eq "sender_id"
  simp only [MessageDispatcher.sendMessageEventOf, hnone, hempty] at hsender
  cases hsender

/-- Every text that a client is sent can be read as an object of the events, with the chat
and the text of a `send_message` frame that this client has sent or that names it; if that
frame was written as such an object, the client is its sender and gets its own data back. But
no message of a frame that was written so is ever stored. -/
theorem events_round_trip (h : Runs cfg (run cfg) ls w) (hlt : w.sessions.length < 2 ^ 64)
    (hlib : ∀ x ∈ w.handed, x.payload.Same (cfg.lib.parse (cfg.lib.dump x.payload).toByteArray)) :
    (∀ (i : ℕ) (text : String), text ∈ written cfg i (run cfg) ls →
      ∃ f ∈ w.frames, ∃ dto, MessageEventDto.get (cfg.lib.parse text.toByteArray) = .ok dto ∧
        Carries cfg.lib i f dto ∧
        ∀ sent : MessageEventDto, sent.toJson.Same (cfg.lib.parse f.raw) →
          dto.type = "message_delivered" ∧ f.session = i ∧ dto.chatId = sent.chatId ∧
            dto.payload.text "text" = sent.payload.text "text") ∧
    (cfg.lib.stringGenerator "" = none → ∀ c ∈ w.creates, ∀ f, w.frames[c.origin]? = some f →
      ∀ sent : MessageEventDto, ¬ sent.toJson.Same (cfg.lib.parse f.raw)) := by
  refine ⟨fun i text ht => ?_, fun hempty c hc f hf => not_toJson_of_create h hempty hc hf⟩
  obtain ⟨x, hx, rfl, rfl⟩ := exists_handed_of_written h ht
  obtain ⟨f, hf, dto, hget, hcarries⟩ := carries_of_handed h hlt hx (hlib x hx)
  exact ⟨f, hf, dto, hget, hcarries, fun sent hs => hcarries.of_toJson hs⟩

namespace DtoSample

def sent : MessageEventDto := ⟨"send_message", Sample.chatId, .object [("text", .string "hi")]⟩

def parsed (type : String) : ByteArray × Json :=
  (("\x7b\"chat_id\":\"" ++ Sample.chatId ++ "\",\"payload\":\x7b\"text\":\"hi\"\x7d,\"type\":\"" ++
      type ++ "\"\x7d").toByteArray,
    .object [("chat_id", .string Sample.chatId), ("payload", .object [("text", .string "hi")]),
      ("type", .string type)])

def config : Config := Sample.config [parsed "send_message", parsed "message_delivered"] 4 1

def labels : List Label :=
  Sample.connect 0 ++ Sample.frame 0 (parsed "send_message") ++ Sample.work 0 12 ++
    [.posted 0, .writeDone 0 true]

def echo : String :=
  Sample.dump (ChatActor.echo ⟨"1", Sample.chatId, "", "", "hi"⟩)

theorem parse_sent :
    config.lib.parse (parsed "send_message").1 = (parsed "send_message").2 := by
  simp [config, Sample.config, Sample.libraries]

theorem parse_echo : config.lib.parse echo.toByteArray = (parsed "message_delivered").2 := by
  have hne : ((parsed "send_message").1.data.toList == echo.toByteArray.data.toList) = false := by
    decide +kernel
  have heq : ((parsed "message_delivered").1.data.toList == echo.toByteArray.data.toList) =
      true := by
    decide +kernel
  simp only [config, Sample.config, Sample.libraries, List.find?, hne, heq]
  rfl

theorem same_parsed (type : String) :
    (MessageEventDto.toJson ⟨type, Sample.chatId, .object [("text", .string "hi")]⟩).Same
      (parsed type).2 := by
  have hlookup (key : String) : List.lookup key [("type", Json.string type),
      ("chat_id", .string Sample.chatId), ("payload", .object [("text", .string "hi")])] =
      List.lookup key [("chat_id", .string Sample.chatId),
        ("payload", .object [("text", .string "hi")]), ("type", .string type)] := by
    by_cases ht : key = "type"
    · subst ht
      rfl
    by_cases hc : key = "chat_id"
    · subst hc
      rfl
    by_cases hp : key = "payload"
    · subst hp
      rfl
    simp [List.lookup_cons, beq_false_of_ne ht, beq_false_of_ne hc, beq_false_of_ne hp]
  rw [MessageEventDto.toJson_eq]
  refine .object (fun key => by rw [hlookup]) fun key x y hx hy => ?_
  rw [hlookup, hy] at hx
  obtain rfl := Option.some.inj hx
  exact .refl _

end DtoSample

theorem events_round_trip_echo :
    ∃ w f dto, Runs DtoSample.config (run DtoSample.config) DtoSample.labels w ∧ f ∈ w.frames ∧
      written DtoSample.config 0 (run DtoSample.config) DtoSample.labels = [DtoSample.echo] ∧
      MessageEventDto.get (DtoSample.config.lib.parse DtoSample.echo.toByteArray) = .ok dto ∧
      Carries DtoSample.config.lib 0 f dto ∧ dto.chatId = DtoSample.sent.chatId ∧
      dto.payload.text "text" = "hi" := by
  obtain ⟨w, hrun, hlt, hframes, hwritten⟩ : ∃ w,
      Runs DtoSample.config (run DtoSample.config) DtoSample.labels w ∧
      w.sessions.length < 2 ^ 64 ∧
      w.frames.map Frame.raw = [(DtoSample.parsed "send_message").1] ∧
      written DtoSample.config 0 (run DtoSample.config) DtoSample.labels = [DtoSample.echo] :=
    exists_run _ (by decide +kernel)
  have hraw (f : Frame) (hf : f ∈ w.frames) : f.raw = (DtoSample.parsed "send_message").1 := by
    have hmem := List.mem_map_of_mem (f := Frame.raw) hf
    rw [hframes] at hmem
    exact List.mem_singleton.mp hmem
  have hlib (x : Handed) (hx : x ∈ w.handed) : x.payload.Same
      (DtoSample.config.lib.parse (DtoSample.config.lib.dump x.payload).toByteArray) := by
    obtain ⟨f, hf, -, ⟨-, hp⟩ | ⟨hrecipient, -⟩⟩ := frame_of_handed hrun hlt hx
    · rw [hraw f hf, DtoSample.parse_sent] at hp
      rw [hp]
      have hecho : DtoSample.config.lib.dump (ChatActor.echo (MessageDispatcher.sendMessageEventOf
        f.sessionId (DtoSample.parsed "send_message").2)) = DtoSample.echo := rfl
      rw [hecho, DtoSample.parse_echo]
      exact DtoSample.same_parsed "message_delivered"
    · rw [hraw f hf, DtoSample.parse_sent] at hrecipient
      exact absurd hrecipient.symm (sessionIdOf_ne_empty x.session)
  have hmem : DtoSample.echo ∈ written DtoSample.config 0 (run DtoSample.config)
      DtoSample.labels := by
    rw [hwritten]
    exact List.mem_singleton.mpr rfl
  obtain ⟨f, hf, dto, hget, hcarries, hback⟩ :=
    (events_round_trip hrun hlt hlib).1 0 DtoSample.echo hmem
  have hsent : DtoSample.sent.toJson.Same (DtoSample.config.lib.parse f.raw) := by
    rw [hraw f hf, DtoSample.parse_sent]
    exact DtoSample.same_parsed "send_message"
  obtain ⟨-, -, hchat, htext⟩ := hback DtoSample.sent hsent
  exact ⟨w, f, dto, hrun, hf, hwritten, hget, hcarries, hchat, htext⟩

end Server

end Svitock
