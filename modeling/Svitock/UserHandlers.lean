import Svitock.UserSessions

/-!
# Handlers of the user-keyed server that run at the same time

`infrastructure/websocket/message_dispatcher.cpp` with the handlers of several sessions
running at the same time. A handler runs on the strand of its session, so nothing else
happens to that session meanwhile, but between two of its accesses to what the sessions
share (the map, the table, the strands that texts are posted to) the others may do
anything. What a handler does is decided by its frame and the user of its session; only to
whom it forwards a text depends on the others.
-/

namespace Svitock

open ByteString Transition

namespace UserKeyed

/-- A frame as the dispatcher reads it. The events `typing` and `message_read` are only
logged. -/
inductive Request
  | invalid
  | auth (userId : String)
  | sendMessage (chatId toUserId text : String)
  | logged
  | ping
  | unsupported
  deriving DecidableEq, Repr

/-- An access of a handler to what the sessions share. The texts to the session itself are
replies; `forward` comes of a `find` that has found a session. -/
inductive Action
  | register (userId : String)
  | create (message : StoredMessage) (stored : Bool)
  | reply (text : String)
  | find (userId text : String)
  | forward (recipient : ℕ) (text : String)
  deriving DecidableEq

namespace Request

def readParsed (json : Json) : Except JsonError Request :=
  match json.value "type" "" with
  | .error e => .error e
  | .ok type =>
    if type = "auth" then (json.value "user_id" "").map auth
    else if type = "send_message" then
      (MessageDispatcher.sendFields json).map fun (chatId, toUserId, text) =>
        sendMessage chatId toUserId text
    else if type = "typing" ∨ type = "message_read" then .ok logged
    else if type = "ping" then .ok ping
    else .ok unsupported

def read : Json → Except JsonError Request
  | .discarded => .ok invalid
  | json => readParsed json

/-- What the handler does for a user, unless an exception ends the process. -/
def actions (lib : Libraries) (user : String) (outcome : Outcome) :
    Request → Option (List Action)
  | invalid => some [.reply (MessageDispatcher.errorText "invalid json")]
  | auth userId =>
    if userId = "" then some [.reply (MessageDispatcher.errorText "user_id required")]
    else some [.register userId, .reply MessageDispatcher.authOk]
  | sendMessage chatIdStr toUserId text =>
    if chatIdStr = "" ∨ text = "" then
      some [.reply (MessageDispatcher.errorText "chat_id and payload.text required")]
    else if user = "" then some [.reply (MessageDispatcher.errorText "auth required")]
    else
      match lib.stringGenerator chatIdStr, lib.stringGenerator user with
      | some chatId, some senderId =>
        let message := ⟨outcome.id, chatId, senderId, ofString text, outcome.now⟩
        if outcome.stored = false then
          some [.create message false, .reply (MessageDispatcher.errorText "message not stored")]
        else
          let outgoing := lib.dump (MessageDispatcher.outgoing chatIdStr user text)
          some ([.create message true, .reply outgoing] ++
            if toUserId = "" then [] else [.find toUserId outgoing])
      | _, _ => none
  | logged => some []
  | ping => some [.reply MessageDispatcher.pong]
  | unsupported => some [.reply (MessageDispatcher.errorText "unsupported type")]

end Request

def actions (lib : Libraries) (user : String) (raw : ByteArray) (outcome : Outcome) :
    Option (List Action) :=
  match Request.read (lib.parse raw) with
  | .error _ => none
  | .ok request => request.actions lib user outcome

/-- The server with what each running handler has still to do. The handler of a session that
reads runs in place of its read. -/
structure Concurrent where
  state : State
  handlers : ℕ → Option (List Action)

namespace Concurrent

def start : Concurrent := ⟨State.start, fun _ => none⟩

def todo (c : Concurrent) (k : ℕ) : List Action := (c.handlers k).getD []

/-- A session can be locked while an operation of it is outstanding, and while a handler is
about to send it a text. -/
def here (c : Concurrent) (j : ℕ) : Bool :=
  (c.state.sessions[j]?).any WebSocketSession.alive ||
    (List.range c.state.sessions.length).any fun k =>
      match c.todo k with
      | .forward recipient _ :: _ => recipient == j
      | _ => false

def findSession (c : Concurrent) (userId : String) : Option ℕ :=
  (c.state.manager userId).filter c.here

def perform (c : Concurrent) (k : ℕ) (rest : List Action) : Action → Concurrent
  | .register userId =>
    ⟨{ c.state.modify k (·.setUserId userId) with
        manager := c.state.manager.registerSession userId k },
      Function.update c.handlers k (some rest)⟩
  | .create message stored =>
    ⟨(c.state.create stored message).1, Function.update c.handlers k (some rest)⟩
  | .reply text => ⟨c.state.sendText k text, Function.update c.handlers k (some rest)⟩
  | .find userId text =>
    let found := (c.findSession userId).toList.map (Action.forward · text)
    { c with handlers := Function.update c.handlers k (some (found ++ rest)) }
  | .forward recipient text =>
    ⟨c.state.sendText recipient text, Function.update c.handlers k (some rest)⟩

end Concurrent

def Label.strand? : Label → Option ℕ
  | connect => none
  | handshake k _ | frame k _ _ | readError k | posted k | writeDone k _ _ => some k

namespace Concurrent

/-- A completion, or the next action of the handler of session `k`. -/
inductive Label
  | event (l : UserKeyed.Label)
  | act (k : ℕ)

def step (lib : Libraries) (c : Concurrent) : Label → Option Concurrent
  | .event (.frame k raw outcome) =>
    match c.state.sessions[k]? with
    | some session =>
      if session.reading = true ∧ c.handlers k = none then
        (actions lib (c.state.userId k) raw outcome).map fun actions =>
          ⟨{ c.state with log := c.state.log ++ [Event.frame k raw] },
            Function.update c.handlers k (some actions)⟩
      else none
    | none => none
  | .event l =>
    -- a strand that runs a handler runs nothing else
    if l.strand?.bind c.handlers = none then
      (UserKeyed.step lib c.state l).map fun state => { c with state := state }
    else none
  | .act k =>
    match c.handlers k with
    | none => none
    -- `doRead` at the end of `onRead`
    | some [] => some { c with handlers := Function.update c.handlers k none }
    | some (action :: rest) => some (c.perform k rest action)

end Concurrent

def Action.finds? : Action → Option String
  | find _ text => some text
  | _ => none

def Label.isFrame : Label → Bool
  | frame _ _ _ => true
  | _ => false

variable {lib : Libraries} {s s' : State} {k : ℕ} {raw : ByteArray} {outcome : Outcome}

theorem Request.read_of_ne {json : Json} (h : json ≠ .discarded) :
    read json = readParsed json := by
  cases json with
  | discarded => exact absurd rfl h
  | _ => rfl

namespace Concurrent

variable {c c' : Concurrent} {l : Label}

inductive Step (lib : Libraries) (c : Concurrent) : Label → Concurrent → Prop
  | frame {k : ℕ} {raw : ByteArray} {outcome : Outcome} {session : WebSocketSession}
      {acts : List Action} (hk : c.state.sessions[k]? = some session)
      (hr : session.reading = true) (hh : c.handlers k = none)
      (ha : actions lib (c.state.userId k) raw outcome = some acts) :
      Step lib c (.event (.frame k raw outcome))
        ⟨{ c.state with log := c.state.log ++ [Event.frame k raw] },
          Function.update c.handlers k (some acts)⟩
  | event {l : UserKeyed.Label} {state : State} (hl : l.isFrame = false)
      (hs : UserKeyed.step lib c.state l = some state) :
      Step lib c (.event l) { c with state := state }
  | read {k : ℕ} (hh : c.handlers k = some []) :
      Step lib c (.act k) { c with handlers := Function.update c.handlers k none }
  | act {k : ℕ} {action : Action} {rest : List Action}
      (hh : c.handlers k = some (action :: rest)) : Step lib c (.act k) (c.perform k rest action)

theorem step_cases (h : step lib c l = some c') : Step lib c l c' := by
  have hevent {l : UserKeyed.Label} (hl : l.isFrame = false)
      (h : (if l.strand?.bind c.handlers = none then
        (UserKeyed.step lib c.state l).map fun state => { c with state := state } else none) =
        some c') : Step lib c (.event l) c' := by
    split_ifs at h
    obtain ⟨state, hs, rfl⟩ := Option.map_eq_some_iff.mp h
    exact .event hl hs
  cases l with
  | event l =>
    cases l with
    | frame k raw outcome =>
      simp only [step] at h
      split at h
      · next session hk =>
        split_ifs at h with hboth
        obtain ⟨acts, ha, rfl⟩ := Option.map_eq_some_iff.mp h
        exact .frame hk hboth.1 hboth.2 ha
      · cases h
    | _ => exact hevent rfl h
  | act k =>
    simp only [step] at h
    split at h
    · cases h
    · next hh =>
      obtain rfl := Option.some.inj h
      exact .read hh
    · next action rest hh =>
      obtain rfl := Option.some.inj h
      exact .act hh

theorem todo_update (state : State) (handler : Option (List Action)) (k j : ℕ) :
    todo ⟨state, Function.update c.handlers k handler⟩ j =
      if j = k then handler.getD [] else c.todo j := by
  unfold todo
  dsimp only
  rw [Function.update_apply]
  split_ifs <;> rfl

theorem todo_of_handlers {handler : Option (List Action)} (h : c.handlers k = handler) :
    c.todo k = handler.getD [] := by
  rw [todo, h]

end Concurrent

/-- An action with nothing else in between; a session that is found is sent the text at
once. -/
def Action.run (k : ℕ) (s : State) : Action → State
  | register userId =>
    { s.modify k (·.setUserId userId) with manager := s.manager.registerSession userId k }
  | create message stored => (s.create stored message).1
  | reply text => s.sendText k text
  | find userId text =>
    match s.findSession userId with
    | none => s
    | some recipient => s.sendText recipient text
  | forward recipient text => s.sendText recipient text

namespace MessageDispatcher

theorem handleAuth_eq (lib : Libraries) (outcome : Outcome) (user : String) (s : State) (k : ℕ)
    (message : Json) :
    handleAuth s k message = match (message.value "user_id" "").map Request.auth with
      | .error _ => none
      | .ok request => (request.actions lib user outcome).map (·.foldl (Action.run k) s) := by
  unfold handleAuth
  cases message.value "user_id" "" with
  | error e => rfl
  | ok userId =>
    simp only [Except.map, Request.actions]
    split_ifs <;> rfl

theorem storeAndSend_eq {chatId senderId : Uuid} {chatIdStr toUserId text : String}
    (htext : text ≠ "") :
    storeAndSend lib s k chatId senderId chatIdStr toUserId text outcome =
      (if outcome.stored = false then
        [.create ⟨outcome.id, chatId, senderId, ofString text, outcome.now⟩ false,
          .reply (errorText "message not stored")]
      else [.create ⟨outcome.id, chatId, senderId, ofString text, outcome.now⟩ true,
          .reply (lib.dump (outgoing chatIdStr (s.userId k) text))] ++
        if toUserId = "" then []
        else [.find toUserId (lib.dump (outgoing chatIdStr (s.userId k) text))]).foldl
          (Action.run k) s := by
  have hbytes : ofString text ≠ [] := by
    intro hnil
    apply htext
    have hdecode := decode?_ofString text
    rw [hnil] at hdecode
    exact (Option.some.inj hdecode).symm
  have huser (m : StoredMessage) : (State.create outcome.stored s m).1.userId k = s.userId k := rfl
  simp only [storeAndSend, SendMessageUseCase.execute, if_neg hbytes, huser]
  cases hstored : outcome.stored with
  | false => rfl
  | true =>
    simp only [State.create, Bool.true_eq_false, if_false]
    split_ifs <;> rfl

theorem handleSendMessage_eq (message : Json) :
    handleSendMessage lib s k message outcome =
      match (sendFields message).map fun (chatId, toUserId, text) =>
        Request.sendMessage chatId toUserId text with
      | .error _ => none
      | .ok request =>
        (request.actions lib (s.userId k) outcome).map (·.foldl (Action.run k) s) := by
  unfold handleSendMessage
  cases sendFields message with
  | error e => rfl
  | ok fields =>
    obtain ⟨chatIdStr, toUserId, text⟩ := fields
    simp only [Except.map, Request.actions]
    by_cases hempty : chatIdStr = "" ∨ text = ""
    · simp only [if_pos hempty]
      rfl
    by_cases huser : s.userId k = ""
    · simp only [if_neg hempty, if_pos huser]
      rfl
    simp only [if_neg hempty, if_neg huser]
    cases lib.stringGenerator chatIdStr with
    | none => rfl
    | some chatId =>
      cases lib.stringGenerator (s.userId k) with
      | none => rfl
      | some senderId =>
        dsimp only
        rw [storeAndSend_eq (not_or.mp hempty).2]
        split_ifs <;> rfl

/-- The dispatcher performs the actions of the request one after another, and raises
exactly when there are none. -/
theorem dispatchMessage_eq (lib : Libraries) (s : State) (k : ℕ) (raw : ByteArray)
    (outcome : Outcome) : dispatchMessage lib s k raw outcome =
      (actions lib (s.userId k) raw outcome).map (·.foldl (Action.run k) s) := by
  unfold dispatchMessage actions
  split
  · next hparse =>
    rw [hparse]
    rfl
  · next hparse =>
    rw [Request.read_of_ne hparse, Request.readParsed]
    cases (lib.parse raw).value "type" "" with
    | error e => rfl
    | ok type =>
      dsimp only
      by_cases hauth : type = "auth"
      · simp only [if_pos hauth]
        rw [handleAuth_eq lib outcome (s.userId k)]
        cases (lib.parse raw).value "user_id" "" <;> rfl
      by_cases hsend : type = "send_message"
      · simp only [if_neg hauth, if_pos hsend]
        rw [handleSendMessage_eq]
        cases sendFields (lib.parse raw) <;> rfl
      simp only [if_neg hauth, if_neg hsend]
      by_cases hlogged : type = "typing" ∨ type = "message_read"
      · simp only [if_pos hlogged]
        rcases hlogged with rfl | rfl <;> rfl
      obtain ⟨htyping, hread⟩ := not_or.mp hlogged
      simp only [if_neg hlogged, if_neg htyping, if_neg hread]
      split_ifs <;> rfl

end MessageDispatcher

namespace Concurrent

def only (s : State) (k : ℕ) (acts : List Action) : Concurrent :=
  ⟨s, Function.update (fun _ => none) k (some acts)⟩

theorem todo_only (s : State) (k j : ℕ) (acts : List Action) :
    (only s k acts).todo j = if j = k then acts else [] := by
  unfold todo only
  dsimp only
  rw [Function.update_apply]
  split_ifs <;> rfl

theorem findSession_only (s : State) (k : ℕ) (user text : String) (rest : List Action) :
    (only s k (.find user text :: rest)).findSession user = s.findSession user := by
  -- no text is about to be forwarded
  have hhere : (only s k (.find user text :: rest)).here =
      fun j => (s.sessions[j]?).any WebSocketSession.alive := by
    funext j
    rw [here, List.any_eq_false.mpr fun i _ => ?_, Bool.or_false]
    · rfl
    · rw [todo_only]
      split_ifs <;> simp
  rw [findSession, hhere]
  rfl

theorem perform_only (s : State) (k : ℕ) (acts rest : List Action) {action : Action}
    (h : action.finds? = none) :
    (only s k acts).perform k rest action = only (action.run k s) k rest := by
  cases action with
  | find user text => cases h
  | _ => simp [perform, only, Action.run]

theorem perform_find_only (s : State) (k : ℕ) (user text : String) (rest : List Action) :
    (only s k (.find user text :: rest)).perform k rest (.find user text) =
      only s k ((s.findSession user).toList.map (Action.forward · text) ++ rest) := by
  simp only [perform, findSession_only]
  simp [only]

theorem run_only (lib : Libraries) (k : ℕ) (acts : List Action) (s : State) :
    ∃ ls, Run (step lib) Anything (only s k acts) ls
      ⟨acts.foldl (Action.run k) s, fun _ => none⟩ := by
  have hstep (s : State) (action : Action) (rest : List Action) :
      Run (step lib) Anything (only s k (action :: rest)) [.act k]
        ((only s k (action :: rest)).perform k rest action) := by
    refine Run.single trivial ?_
    simp [step, only]
  induction acts generalizing s with
  | nil =>
    refine ⟨[.act k], Run.single trivial ?_⟩
    simp [step, only]
  | cons action rest ih =>
    obtain ⟨ls, hrest⟩ := ih (action.run k s)
    have hfirst := hstep s action rest
    cases action with
    | find user text =>
      rw [perform_find_only] at hfirst
      cases hfound : s.findSession user with
      | none =>
        have hrun : Action.run k s (.find user text) = s := by simp [Action.run, hfound]
        rw [hfound] at hfirst
        rw [List.foldl_cons, hrun]
        rw [hrun] at hrest
        exact ⟨_, hfirst.trans hrest⟩
      | some r =>
        -- one more step sends the text
        have hrun : Action.run k s (.find user text) = Action.run k s (.forward r text) := by
          simp [Action.run, hfound]
        have hsecond := hstep s (.forward r text) rest
        rw [perform_only s k _ rest rfl] at hsecond
        rw [hfound] at hfirst
        rw [List.foldl_cons, hrun]
        rw [hrun] at hrest
        exact ⟨_, (hfirst.trans hsecond).trans hrest⟩
    | _ =>
      rw [perform_only s k _ rest rfl] at hfirst
      exact ⟨_, hfirst.trans hrest⟩

theorem step_idle {l : UserKeyed.Label} {s s' : State} (hl : l.isFrame = false)
    (h : UserKeyed.step lib s l = some s') :
    step lib ⟨s, fun _ => none⟩ (.event l) = some ⟨s', fun _ => none⟩ := by
  have hgate : l.strand?.bind (fun _ => (none : Option (List Action))) = none := by
    cases l.strand? <;> rfl
  cases l with
  | frame k raw outcome => cases hl
  | _ => simp [step, hgate, h]

/-- The runs in which every frame is handled at once are among the runs. -/
theorem run_of_run {ls : List UserKeyed.Label} {s : State}
    (h : Run (UserKeyed.step lib) Anything State.start ls s) :
    ∃ ls', Run (step lib) Anything start ls' ⟨s, fun _ => none⟩ := by
  induction h with
  | nil => exact ⟨[], .nil⟩
  | @snoc ls l s s' _ _ hs ih =>
    obtain ⟨ls', hrun⟩ := ih
    cases l with
    | frame k raw outcome =>
      simp only [UserKeyed.step] at hs
      split at hs
      · next session hk =>
        split_ifs at hs with hr
        rw [MessageDispatcher.dispatchMessage_eq] at hs
        obtain ⟨acts, ha, rfl⟩ := Option.map_eq_some_iff.mp hs
        have ha' : actions lib (s.userId k) raw outcome = some acts := ha
        obtain ⟨rest, hrest⟩ :=
          run_only lib k acts { s with log := s.log ++ [Event.frame k raw] }
        have hframe : step lib ⟨s, fun _ => none⟩ (.event (.frame k raw outcome)) =
            some (only { s with log := s.log ++ [Event.frame k raw] } k acts) := by
          simp [step, hk, hr, ha', only]
        exact ⟨_, (hrun.snoc trivial hframe).trans hrest⟩
      · cases hs
    | _ => exact ⟨_, hrun.snoc trivial (step_idle rfl hs)⟩

end Concurrent

namespace DeliverySample

def auth (user : String) : String :=
  "\x7b\"type\":\"auth\",\"user_id\":\"" ++ user ++ "\"\x7d"

def send : String :=
  "\x7b\"type\":\"send_message\",\"chat_id\":\"" ++ WebSample.uuidToString 3 ++
    "\",\"to_user_id\":\"" ++ WebSample.uuidToString 2 ++
    "\",\"payload\":\x7b\"text\":\"hi\"\x7d\x7d"

def parse (raw : ByteArray) : Json :=
  if raw.data.toList = ofString (auth (WebSample.uuidToString 1)) then
    .object [("type", .string "auth"), ("user_id", .string (WebSample.uuidToString 1))]
  else if raw.data.toList = ofString (auth (WebSample.uuidToString 2)) then
    .object [("type", .string "auth"), ("user_id", .string (WebSample.uuidToString 2))]
  else if raw.data.toList = ofString send then
    .object [("type", .string "send_message"), ("chat_id", .string (WebSample.uuidToString 3)),
      ("to_user_id", .string (WebSample.uuidToString 2)),
      ("payload", .object [("text", .string "hi")])]
  else .discarded

/-- The keys of an event come in alphabetical order. -/
def dump : Json → String
  | .object [(type, .string event), (chat, .string chatId), (sender, .string userId),
      (payload, .array [.string key, .string text])] =>
    "\x7b" ++ WebSample.member chat chatId ++ "," ++ WebSample.member sender userId ++ ",\"" ++
      payload ++ "\":[\"" ++ WebSample.escape key ++ "\",\"" ++ WebSample.escape text ++ "\"]," ++
      WebSample.member type event ++ "\x7d"
  | _ => ""

def libraries : Libraries := ⟨parse, dump, WebSample.stringGenerator⟩

def delivered : String :=
  "\x7b\"chat_id\":\"" ++ WebSample.uuidToString 3 ++ "\",\"from_user_id\":\"" ++
    WebSample.uuidToString 1 ++
    "\",\"payload\":[\"text\",\"hi\"],\"type\":\"message_delivered\"\x7d"

end DeliverySample

end UserKeyed

end Svitock
