import Svitock.MessageReadBack
import Svitock.WriteQueue

/-!
# The server that is keyed by users

`infrastructure/websocket/`: sessions are found by the user that authenticated on
them. `SessionManager` maps user ids to weak pointers, `WebSocketSession` keeps the
user id of its own, and `MessageDispatcher` updates both. A pointer to a session is
its number in the order of the connections; a weak pointer can be locked while an
operation of the session is outstanding.

A frame is handled in one step here. That is enough for the map and the user ids: a handler
changes the map in one locked operation, and the user id of its session is read on its own
strand only. What is said of stored messages and of texts is said of handlers that run at the
same time, in `UserHandlers` and after it.
-/

namespace Svitock

open ByteString Transition

namespace UserKeyed

/-- `accepting` and `reading` say that the handshake or a read is outstanding; `closed`
is history, that `close` has been called. -/
structure WebSocketSession where
  userId : String
  accepting : Bool
  reading : Bool
  closed : Bool
  writeSide : WriteSide

namespace WebSocketSession

def run : WebSocketSession := ⟨"", true, false, false, .start⟩

/-- The outstanding operations hold a `shared_ptr`. -/
def alive (session : WebSocketSession) : Bool :=
  session.accepting || session.reading || !session.writeSide.posted.isEmpty ||
    !session.writeSide.outstanding.isEmpty

def onAccept (session : WebSocketSession) (ok : Bool) : WebSocketSession :=
  { session with
    accepting := false
    reading := ok }

def setUserId (session : WebSocketSession) (userId : String) : WebSocketSession :=
  { session with userId := userId }

def sendText (session : WebSocketSession) (message : String) : WebSocketSession :=
  { session with writeSide := session.writeSide.send message }

end WebSocketSession

abbrev SessionManager := String → Option ℕ

namespace SessionManager

def registerSession (manager : SessionManager) (userId : String) (session : ℕ) : SessionManager :=
  Function.update manager userId (some session)

def removeSession (manager : SessionManager) (userId : String) : SessionManager :=
  Function.update manager userId none

end SessionManager

inductive Event
  | frame (session : ℕ) (raw : ByteArray)
  | create (message : StoredMessage) (stored : Bool)
  | queued (session : ℕ) (text : String)

/-- The sessions in the order of their connections, the map and, as history, the frames
that were handled, the calls of `MessageRepository::create` with their results and the
texts that were handed to `sendText`. -/
structure State where
  sessions : List WebSocketSession
  manager : SessionManager
  log : List Event

namespace State

def start : State := ⟨[], fun _ => none, []⟩

def userId (s : State) (k : ℕ) : String := (s.sessions[k]?).elim "" WebSocketSession.userId

/-- `findSession`, whose `lock` gives null for a session that is gone. -/
def findSession (s : State) (userId : String) : Option ℕ :=
  (s.manager userId).filter fun k => (s.sessions[k]?).any WebSocketSession.alive

def modify (s : State) (k : ℕ) (f : WebSocketSession → WebSocketSession) : State :=
  { s with sessions := s.sessions.modify k f }

def sendText (s : State) (k : ℕ) (text : String) : State :=
  { s.modify k (·.sendText text) with log := s.log ++ [Event.queued k text] }

/-- `create`, of a repository that answers `stored`. -/
def create (stored : Bool) (s : State) (message : StoredMessage) : State × Bool :=
  ({ s with log := s.log ++ [Event.create message stored] }, stored)

def close (s : State) (k : ℕ) : State :=
  { s with
    -- the entry of the user goes, whichever session it points to
    manager := if s.userId k = "" then s.manager else s.manager.removeSession (s.userId k)
    sessions := s.sessions.modify k fun session => { session with closed := true } }

end State

/-- What the repository, the random generator and the clock give to a frame. -/
structure Outcome where
  stored : Bool
  id : Uuid
  now : ℤ

namespace MessageDispatcher

def errorText (message : String) : String :=
  "\x7b\"type\":\"error\",\"payload\":\x7b\"message\":\"" ++ message ++ "\"\x7d\x7d"

def authOk : String := "\x7b\"type\":\"auth_ok\"\x7d"

def pong : String := "\x7b\"type\":\"pong\"\x7d"

/-- The texts that are not made for a message. -/
def replies : List String :=
  [errorText "invalid json", errorText "unsupported type", errorText "user_id required",
    errorText "chat_id and payload.text required", errorText "auth required",
    errorText "message not stored", authOk, pong]

def outgoing (chatId userId text : String) : Json :=
  .braces [
    .braces [.string "type", .string "message_delivered"],
    .braces [.string "chat_id", .string chatId],
    .braces [.string "from_user_id", .string userId],
    .braces [.string "payload", .braces [.string "text", .string text]]]

/-- There is no state after an exception, which ends the process. -/
def handleAuth (s : State) (k : ℕ) (message : Json) : Option State :=
  match message.value "user_id" "" with
  | .error _ => none
  | .ok userId =>
    if userId = "" then some (s.sendText k (errorText "user_id required"))
    else
      -- an entry under the user id that the session had before stays
      let s := s.modify k (·.setUserId userId)
      let s := { s with manager := s.manager.registerSession userId k }
      some (s.sendText k authOk)

def sendFields (message : Json) : Except JsonError (String × String × String) := do
  let chatId ← message.value "chat_id" ""
  let toUserId ← message.value "to_user_id" ""
  let payload ← message.valueJson "payload" (.object [])
  let text ← payload.value "text" ""
  return (chatId, toUserId, text)

/-- `handleSendMessage` once the frame is found valid: the message is stored, then the event
goes to the sender and, if it names one that is found, to the recipient. -/
def storeAndSend (lib : Libraries) (s : State) (k : ℕ) (chatId senderId : Uuid)
    (chatIdStr toUserId text : String) (outcome : Outcome) : State :=
  let (s, stored) := SendMessageUseCase.execute (State.create outcome.stored) s chatId senderId
    (ofString text) outcome.id outcome.now
  if stored = false then s.sendText k (errorText "message not stored")
  else
    let outgoing := lib.dump (outgoing chatIdStr (s.userId k) text)
    let s := s.sendText k outgoing
    if toUserId = "" then s
    else
      match s.findSession toUserId with
      | none => s
      | some recipient => s.sendText recipient outgoing

def handleSendMessage (lib : Libraries) (s : State) (k : ℕ) (message : Json) (outcome : Outcome) :
    Option State :=
  match sendFields message with
  | .error _ => none
  | .ok (chatIdStr, toUserId, text) =>
    if chatIdStr = "" ∨ text = "" then
      some (s.sendText k (errorText "chat_id and payload.text required"))
    else if s.userId k = "" then some (s.sendText k (errorText "auth required"))
    else
      match lib.stringGenerator chatIdStr, lib.stringGenerator (s.userId k) with
      | some chatId, some senderId =>
        some (storeAndSend lib s k chatId senderId chatIdStr toUserId text outcome)
      | _, _ => none

/-- `dispatchMessage`; a text that cannot be parsed gives `discarded`. -/
def dispatchMessage (lib : Libraries) (s : State) (k : ℕ) (raw : ByteArray) (outcome : Outcome) :
    Option State :=
  match lib.parse raw with
  | .discarded => some (s.sendText k (errorText "invalid json"))
  | message =>
    match message.value "type" "" with
    | .error _ => none
    | .ok type =>
      if type = "auth" then handleAuth s k message
      else if type = "send_message" then handleSendMessage lib s k message outcome
      else if type = "typing" then some s
      else if type = "message_read" then some s
      else if type = "ping" then some (s.sendText k pong)
      else some (s.sendText k (errorText "unsupported type"))

end MessageDispatcher

/-- A connection, or the completion of an operation of a session: its handshake, a read
with a frame or with an error, which may be that the peer has closed, a send posted to
the strand, and the `n`-th outstanding write. -/
inductive Label
  | connect
  | handshake (k : ℕ) (ok : Bool)
  | frame (k : ℕ) (raw : ByteArray) (outcome : Outcome)
  | readError (k : ℕ)
  | posted (k : ℕ)
  | writeDone (k n : ℕ) (ok : Bool)

def step (lib : Libraries) (s : State) : Label → Option State
  | .connect => some { s with sessions := s.sessions ++ [.run] }
  | .handshake k ok =>
    match s.sessions[k]? with
    | some session => if session.accepting then some (s.modify k (·.onAccept ok)) else none
    | none => none
  | .frame k raw outcome =>
    match s.sessions[k]? with
    | some session =>
      -- the whole handler at once; the next read is started after it
      if session.reading then
        MessageDispatcher.dispatchMessage lib { s with log := s.log ++ [Event.frame k raw] } k raw
          outcome
      else none
    | none => none
  | .readError k =>
    match s.sessions[k]? with
    | some session =>
      if session.reading then
        some ((s.modify k fun session => { session with reading := false }).close k)
      else none
    | none => none
  | .posted k =>
    match s.sessions[k]? with
    | some session =>
      match session.writeSide.step .posted with
      | some writeSide => some (s.modify k fun session => { session with writeSide := writeSide })
      | none => none
    | none => none
  | .writeDone k n ok =>
    match s.sessions[k]? with
    | some session =>
      match session.writeSide.step (.writeDone n ok) with
      | some writeSide =>
        let s := s.modify k fun session => { session with writeSide := writeSide }
        some (if ok then s else s.close k)
      | none => none
    | none => none

/-- A session without its writing side. -/
structure Face where
  userId : String
  accepting : Bool
  reading : Bool
  closed : Bool
  deriving DecidableEq, Repr

def WebSocketSession.face (session : WebSocketSession) : Face :=
  ⟨session.userId, session.accepting, session.reading, session.closed⟩

def State.faces (s : State) : List Face := s.sessions.map WebSocketSession.face

def authenticates (lib : Libraries) (raw : ByteArray) : Option String :=
  if (lib.parse raw).text "type" = "auth" ∧ (lib.parse raw).text "user_id" ≠ "" then
    some ((lib.parse raw).text "user_id")
  else none

def Label.auths? (lib : Libraries) : Label → Option (ℕ × String)
  | frame k raw _ => (authenticates lib raw).map (k, ·)
  | _ => none

def Label.fails? : Label → Option ℕ
  | readError k => some k
  | writeDone k _ false => some k
  | _ => none

variable {lib : Libraries} {s s' : State} {l : Label} {k : ℕ}
  {f : WebSocketSession → WebSocketSession}

theorem faces_getElem? : s.faces[k]? = (s.sessions[k]?).map WebSocketSession.face :=
  List.getElem?_map

theorem faces_modify_of_same (h : ∀ session, (f session).face = session.face) :
    (s.modify k f).faces = s.faces := by
  refine List.ext_getElem? fun j => ?_
  simp only [faces_getElem?, State.modify, List.getElem?_modify]
  by_cases hj : k = j
  · simp [hj, Function.comp_def, h]
  · simp [hj]

theorem faces_modify {session : WebSocketSession} (hk : s.sessions[k]? = some session) :
    (s.modify k f).faces = s.faces.set k (f session).face := by
  obtain ⟨hlt, rfl⟩ := List.getElem?_eq_some_iff.mp hk
  refine List.ext_getElem? fun j => ?_
  simp only [State.modify, State.faces, List.getElem?_set, List.length_map]
  by_cases hj : k = j
  · subst hj
    simp [hlt]
  · simp [hj]

@[simp] theorem faces_sendText (s : State) (k : ℕ) (text : String) :
    (s.sendText k text).faces = s.faces :=
  faces_modify_of_same fun _ => rfl

def chatOf (lib : Libraries) (raw : ByteArray) : String := (lib.parse raw).text "chat_id"

def textOf (lib : Libraries) (raw : ByteArray) : String :=
  (((lib.parse raw).field? "payload").getD (.object [])).text "text"

/-- The message that a `send_message` frame of a user has stored. -/
structure Sends (lib : Libraries) (user : String) (raw : ByteArray) (m : StoredMessage) :
    Prop where
  type : (lib.parse raw).text "type" = "send_message"
  chat : chatOf lib raw ≠ ""
  text : textOf lib raw ≠ ""
  authenticated : user ≠ ""
  chatId : lib.stringGenerator (chatOf lib raw) = some m.chatId
  senderId : lib.stringGenerator user = some m.senderId
  content : m.content = ofString (textOf lib raw)

def deliveredText (lib : Libraries) (user : String) (raw : ByteArray) : String :=
  lib.dump (MessageDispatcher.outgoing (chatOf lib raw) user (textOf lib raw))

/-- Every state that `dispatchMessage` can leave. -/
inductive Dispatched (lib : Libraries) (s : State) (k : ℕ) (raw : ByteArray) (outcome : Outcome) :
    State → Prop
  | silent (ha : authenticates lib raw = none) : Dispatched lib s k raw outcome s
  | reply {text : String} (ha : authenticates lib raw = none)
      (ht : text ∈ MessageDispatcher.replies) : Dispatched lib s k raw outcome (s.sendText k text)
  | auth {u : String} (ha : authenticates lib raw = some u) :
      Dispatched lib s k raw outcome (State.sendText { s.modify k (·.setUserId u) with
        manager := s.manager.registerSession u k } k MessageDispatcher.authOk)
  | refused {m : StoredMessage} (hs : Sends lib (s.userId k) raw m)
      (hstored : outcome.stored = false) :
      Dispatched lib s k raw outcome
        ((s.create false m).1.sendText k (MessageDispatcher.errorText "message not stored"))
  | delivered {m : StoredMessage} (hs : Sends lib (s.userId k) raw m)
      (hstored : outcome.stored = true) :
      Dispatched lib s k raw outcome
        ((s.create true m).1.sendText k (deliveredText lib (s.userId k) raw))
  | forwarded {m : StoredMessage} {recipient : ℕ} (hs : Sends lib (s.userId k) raw m)
      (hstored : outcome.stored = true) :
      Dispatched lib s k raw outcome
        (((s.create true m).1.sendText k (deliveredText lib (s.userId k) raw)).sendText recipient
          (deliveredText lib (s.userId k) raw))

namespace MessageDispatcher

theorem sendFields_eq_ok {message : Json} {chatId toUserId text : String}
    (h : sendFields message = .ok (chatId, toUserId, text)) :
    message.value "chat_id" "" = .ok chatId ∧ ∃ payload,
      message.valueJson "payload" (.object []) = .ok payload ∧
        payload.value "text" "" = .ok text := by
  obtain ⟨c, hc, h⟩ := Json.ok_of_bind h
  obtain ⟨t, -, h⟩ := Json.ok_of_bind h
  obtain ⟨payload, hp, h⟩ := Json.ok_of_bind h
  obtain ⟨x, hx, h⟩ := Json.ok_of_bind h
  have hfields : (c, t, x) = (chatId, toUserId, text) := Except.ok.inj h
  simp only [Prod.mk.injEq] at hfields
  obtain ⟨rfl, -, rfl⟩ := hfields
  exact ⟨hc, payload, hp, hx⟩

variable {raw : ByteArray} {outcome : Outcome}

theorem authenticates_of_type {type : String} (h : (lib.parse raw).text "type" = type)
    (hne : type ≠ "auth") : authenticates lib raw = none := by
  simp [authenticates, h, hne]

theorem handleAuth_cases (ht : (lib.parse raw).text "type" = "auth")
    (h : handleAuth s k (lib.parse raw) = some s') : Dispatched lib s k raw outcome s' := by
  unfold handleAuth at h
  split at h
  · cases h
  · next userId hvalue =>
    have htext := Json.text_of_value hvalue
    split at h
    · next hempty =>
      obtain rfl := Option.some.inj h
      refine .reply ?_ (by simp [replies])
      simp [authenticates, htext, hempty]
    · next hne =>
      obtain rfl := Option.some.inj h
      refine .auth ?_
      simp [authenticates, ht, htext, hne]

theorem storeAndSend_cases {chatId senderId : Uuid} {chatIdStr toUserId text : String}
    (hs : Sends lib (s.userId k) raw ⟨outcome.id, chatId, senderId, ofString text, outcome.now⟩)
    (hdelivered : lib.dump (outgoing chatIdStr (s.userId k) text) =
      deliveredText lib (s.userId k) raw) :
    Dispatched lib s k raw outcome
      (storeAndSend lib s k chatId senderId chatIdStr toUserId text outcome) := by
  -- the check of the use case repeats one of the handler
  have hbytes : ofString text ≠ [] := by
    intro hnil
    apply hs.text
    have hdecode := decode?_ofString (textOf lib raw)
    rw [← hs.content, hnil] at hdecode
    exact (Option.some.inj hdecode).symm
  have huser : (State.create outcome.stored s
      ⟨outcome.id, chatId, senderId, ofString text, outcome.now⟩).1.userId k = s.userId k := rfl
  simp only [storeAndSend, SendMessageUseCase.execute, if_neg hbytes, huser, hdelivered]
  cases hstored : outcome.stored with
  | false =>
    simp only [State.create, if_true]
    exact .refused hs hstored
  | true =>
    simp only [State.create, Bool.true_eq_false, if_false]
    split
    · exact .delivered hs hstored
    · split
      · exact .delivered hs hstored
      · exact .forwarded hs hstored

theorem handleSendMessage_cases (ht : (lib.parse raw).text "type" = "send_message")
    (h : handleSendMessage lib s k (lib.parse raw) outcome = some s') :
    Dispatched lib s k raw outcome s' := by
  have ha : authenticates lib raw = none := authenticates_of_type ht (by decide)
  unfold handleSendMessage at h
  split at h
  · cases h
  · next chatIdStr toUserId text hfields =>
    obtain ⟨hc, payload, hp, hx⟩ := sendFields_eq_ok hfields
    have hchat : chatOf lib raw = chatIdStr := Json.text_of_value hc
    have htext : textOf lib raw = text := by
      rw [textOf, Json.getD_of_valueJson hp, Json.text_of_value hx]
    split at h
    · obtain rfl := Option.some.inj h
      exact .reply ha (by simp [replies])
    · next hempty =>
      split at h
      · obtain rfl := Option.some.inj h
        exact .reply ha (by simp [replies])
      · next huser =>
        split at h
        · next chatId senderId hchatId hsenderId =>
          have hsends : Sends lib (s.userId k) raw
              ⟨outcome.id, chatId, senderId, ofString text, outcome.now⟩ := by
            obtain ⟨hc, hx⟩ := not_or.mp hempty
            subst hchat htext
            exact ⟨ht, hc, hx, huser, hchatId, hsenderId, rfl⟩
          have hdelivered : lib.dump (outgoing chatIdStr (s.userId k) text) =
              deliveredText lib (s.userId k) raw := by
            subst hchat htext
            rfl
          obtain rfl := Option.some.inj h
          exact storeAndSend_cases hsends hdelivered
        · cases h

theorem dispatchMessage_cases (h : dispatchMessage lib s k raw outcome = some s') :
    Dispatched lib s k raw outcome s' := by
  unfold dispatchMessage at h
  split at h
  · next hparse =>
    obtain rfl := Option.some.inj h
    refine .reply ?_ (by simp [replies])
    simp [authenticates, hparse, Json.text, Json.field?]
  · split at h
    · cases h
    · next type hvalue =>
      have htype := Json.text_of_value hvalue
      split_ifs at h with hauth hsend htyping hread hping
      · exact handleAuth_cases (htype.trans hauth) h
      · exact handleSendMessage_cases (htype.trans hsend) h
      all_goals
        obtain rfl := Option.some.inj h
        have ha := authenticates_of_type htype hauth
      · exact .silent ha
      · exact .silent ha
      · exact .reply ha (by simp [replies])
      · exact .reply ha (by simp [replies])

end MessageDispatcher

/-- Every change of the map and of what it points to. -/
inductive Change (lib : Libraries) (s s' : State) (l : Label) : Prop
  | connect (ha : l.auths? lib = none) (hl : l.fails? = none)
      (hf : s'.faces = s.faces ++ [⟨"", true, false, false⟩]) (hm : s'.manager = s.manager)
  | handshake {k : ℕ} {face : Face} {ok : Bool} (ha : l.auths? lib = none) (hl : l.fails? = none)
      (hk : s.faces[k]? = some face) (hacc : face.accepting = true)
      (hf : s'.faces = s.faces.set k { face with accepting := false, reading := ok })
      (hm : s'.manager = s.manager)
  | auth {k : ℕ} {face : Face} {u : String} (ha : l.auths? lib = some (k, u)) (hl : l.fails? = none)
      (hu : u ≠ "") (hk : s.faces[k]? = some face) (hr : face.reading = true)
      (hf : s'.faces = s.faces.set k { face with userId := u })
      (hm : s'.manager = s.manager.registerSession u k)
  | close {k : ℕ} {face : Face} {r : Bool} (ha : l.auths? lib = none)
      (hl : l.fails? = some k) (hk : s.faces[k]? = some face) (hr : r = true → face.reading = true)
      (hf : s'.faces = s.faces.set k { face with reading := r, closed := true })
      (hm : s'.manager =
        if face.userId = "" then s.manager else s.manager.removeSession face.userId)
  | none (ha : l.auths? lib = none) (hl : l.fails? = none) (hf : s'.faces = s.faces)
      (hm : s'.manager = s.manager)

theorem Dispatched.change {raw : ByteArray} {outcome : Outcome} {session : WebSocketSession}
    (hk : s.sessions[k]? = some session) (hr : session.reading = true)
    (h : Dispatched lib { s with log := s.log ++ [Event.frame k raw] } k raw outcome s') :
    Change lib s s' (.frame k raw outcome) := by
  have hnone (ha : authenticates lib raw = none) :
      (Label.frame k raw outcome).auths? lib = none := by
    simp [Label.auths?, ha]
  cases h with
  | silent ha => exact .none (hnone ha) rfl rfl rfl
  | reply ha _ => exact .none (hnone ha) rfl (faces_sendText _ _ _) rfl
  | @auth u ha =>
    have hu : u ≠ "" := by
      unfold authenticates at ha
      split at ha
      · next hboth =>
        obtain rfl := Option.some.inj ha
        exact hboth.2
      · cases ha
    refine .auth (by simp [Label.auths?, ha]) rfl hu (by rw [faces_getElem?, hk]; rfl) hr ?_ rfl
    rw [faces_sendText]
    exact faces_modify hk
  | refused hs _ =>
    have ha := MessageDispatcher.authenticates_of_type hs.type (by decide)
    exact .none (hnone ha) rfl (faces_sendText _ _ _) rfl
  | delivered hs _ =>
    have ha := MessageDispatcher.authenticates_of_type hs.type (by decide)
    exact .none (hnone ha) rfl (faces_sendText _ _ _) rfl
  | forwarded hs _ =>
    have ha := MessageDispatcher.authenticates_of_type hs.type (by decide)
    refine .none (hnone ha) rfl ?_ rfl
    rw [faces_sendText, faces_sendText]
    rfl

theorem faces_close {session : WebSocketSession} (hk : s.sessions[k]? = some session) :
    (s.close k).faces = s.faces.set k { session.face with closed := true } := by
  have hmodify := faces_modify (f := fun session => { session with closed := true }) hk
  exact hmodify

theorem userId_eq {session : WebSocketSession} (hk : s.sessions[k]? = some session) :
    s.userId k = session.userId := by
  simp [State.userId, hk]

/-- Every step, with what must hold of the session before it. -/
inductive Step (lib : Libraries) (s : State) : Label → State → Prop
  | connect : Step lib s .connect { s with sessions := s.sessions ++ [.run] }
  | handshake {k : ℕ} {ok : Bool} {session : WebSocketSession}
      (hk : s.sessions[k]? = some session) (hacc : session.accepting = true) :
      Step lib s (.handshake k ok) (s.modify k (·.onAccept ok))
  | frame {k : ℕ} {raw : ByteArray} {outcome : Outcome} {session : WebSocketSession} {s' : State}
      (hk : s.sessions[k]? = some session) (hr : session.reading = true)
      (hd : Dispatched lib { s with log := s.log ++ [Event.frame k raw] } k raw outcome s') :
      Step lib s (.frame k raw outcome) s'
  | readError {k : ℕ} {session : WebSocketSession} (hk : s.sessions[k]? = some session)
      (hr : session.reading = true) :
      Step lib s (.readError k)
        ((s.modify k fun session => { session with reading := false }).close k)
  | posted {k : ℕ} {session : WebSocketSession} {writeSide : WriteSide}
      (hk : s.sessions[k]? = some session)
      (hw : session.writeSide.step .posted = some writeSide) :
      Step lib s (.posted k) (s.modify k fun session => { session with writeSide := writeSide })
  | written {k n : ℕ} {session : WebSocketSession} {writeSide : WriteSide}
      (hk : s.sessions[k]? = some session)
      (hw : session.writeSide.step (.writeDone n true) = some writeSide) :
      Step lib s (.writeDone k n true)
        (s.modify k fun session => { session with writeSide := writeSide })
  | writeError {k n : ℕ} {session : WebSocketSession} {writeSide : WriteSide}
      (hk : s.sessions[k]? = some session)
      (hw : session.writeSide.step (.writeDone n false) = some writeSide) :
      Step lib s (.writeDone k n false)
        ((s.modify k fun session => { session with writeSide := writeSide }).close k)

theorem step_cases (h : step lib s l = some s') : Step lib s l s' := by
  cases l with
  | connect =>
    obtain rfl := Option.some.inj h
    exact .connect
  | handshake k ok =>
    simp only [step] at h
    split at h
    · next session hk =>
      split at h
      · next hacc =>
        obtain rfl := Option.some.inj h
        exact .handshake hk hacc
      · cases h
    · cases h
  | frame k raw outcome =>
    simp only [step] at h
    split at h
    · next session hk =>
      split at h
      · next hr => exact .frame hk hr (MessageDispatcher.dispatchMessage_cases h)
      · cases h
    · cases h
  | readError k =>
    simp only [step] at h
    split at h
    · next session hk =>
      split at h
      · next hr =>
        obtain rfl := Option.some.inj h
        exact .readError hk hr
      · cases h
    · cases h
  | posted k =>
    simp only [step] at h
    split at h
    · next session hk =>
      split at h
      · next hw =>
        obtain rfl := Option.some.inj h
        exact .posted hk hw
      · cases h
    · cases h
  | writeDone k n ok =>
    simp only [step] at h
    split at h
    · next session hk =>
      split at h
      · next hw =>
        obtain rfl := Option.some.inj h
        cases ok with
        | true => exact .written hk hw
        | false => exact .writeError hk hw
      · cases h
    · cases h

theorem step_change (h : step lib s l = some s') : Change lib s s' l := by
  cases step_cases h with
  | connect =>
    exact .connect rfl rfl (by simp [State.faces, WebSocketSession.face, WebSocketSession.run]) rfl
  | handshake hk hacc =>
    exact .handshake rfl rfl (by rw [faces_getElem?, hk]; rfl) hacc (faces_modify hk) rfl
  | frame hk hr hd => exact hd.change hk hr
  | @readError k session hk _ =>
    -- `close` looks at the session after the read has ended
    have hk' : (s.modify k fun session => { session with reading := false }).sessions[k]? =
        some { session with reading := false } := by
      simp [State.modify, hk]
    refine .close (r := false) rfl rfl (by rw [faces_getElem?, hk]; rfl) (by simp) ?_ ?_
    · rw [faces_close hk', faces_modify hk, List.set_set]
      rfl
    · simp only [State.close, userId_eq hk']
      rfl
  | posted _ _ => exact .none rfl rfl (faces_modify_of_same fun _ => rfl) rfl
  | written _ _ => exact .none rfl rfl (faces_modify_of_same fun _ => rfl) rfl
  | @writeError k n session writeSide hk _ =>
    have hk' : (s.modify k fun session => { session with writeSide := writeSide }).sessions[k]? =
        some { session with writeSide := writeSide } := by
      simp [State.modify, hk]
    have hsame : (s.modify k fun session => { session with writeSide := writeSide }).faces =
        s.faces := faces_modify_of_same fun _ => rfl
    refine .close (r := session.reading) rfl rfl (by rw [faces_getElem?, hk]; rfl) id ?_ ?_
    · rw [faces_close hk', hsame]
      rfl
    · simp only [State.close, userId_eq hk']
      rfl

theorem userId_eq_faces (j : ℕ) : s.userId j = (s.faces[j]?).elim "" Face.userId := by
  rw [faces_getElem?, State.userId]
  cases s.sessions[j]? <;> rfl

theorem userId_set {faces : List Face} {face face' : Face} {j : ℕ} (hk : faces[k]? = some face)
    (hu : face'.userId = face.userId) :
    ((faces.set k face')[j]?).elim "" Face.userId = (faces[j]?).elim "" Face.userId := by
  obtain ⟨hlt, rfl⟩ := List.getElem?_eq_some_iff.mp hk
  rw [List.getElem?_set]
  split_ifs with hj
  · subst hj
    simp [hlt, hu]
  · rfl

/-- The user of a session changes only by an authentication on it. -/
theorem step_userId (h : step lib s l = some s') (j : ℕ) :
    s'.userId j =
      ((l.auths? lib).bind fun (k, u) => if k = j then some u else none).getD (s.userId j) := by
  simp only [userId_eq_faces]
  cases step_change h with
  | connect ha _ hf _ =>
    rw [ha, hf, List.getElem?_append]
    split_ifs with hj
    · rfl
    · have hnone : s.faces[j]? = none := List.getElem?_eq_none (by omega)
      rw [hnone]
      cases j - s.faces.length <;> rfl
  | handshake ha _ hk _ hf _ =>
    rw [ha, hf]
    exact userId_set hk rfl
  | @auth k face u ha _ _ hk _ hf _ =>
    obtain ⟨hlt, -⟩ := List.getElem?_eq_some_iff.mp hk
    rw [ha, hf, List.getElem?_set]
    by_cases hj : k = j
    · simp [← hj, hlt]
    · simp [hj]
  | close ha _ hk _ hf _ =>
    rw [ha, hf]
    exact userId_set hk rfl
  | none ha _ hf _ =>
    rw [ha, hf]
    rfl

end UserKeyed

end Svitock
