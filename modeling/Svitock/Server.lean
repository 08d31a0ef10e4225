import Svitock.Actors
import Svitock.Transition
import Svitock.WebSocketSession

/-!
# The server

The WebSocket side of `infrastructure/network/server.cpp` as one transition
system: the listener and its sessions, the registry of transports in
`SessionActor`, the actor system with its workers, and the calls to the
repository. A label names the thread's next atomic step; any order of labels
that the guards allow is an interleaving.

A completion handler on a strand is one step, except that a read completion
first takes its frame out of the buffer and dispatches it in a step of its own.
An exception that escapes ends the process: no step follows it.
-/

namespace Svitock

open ActorRuntime

structure Frame where
  session : ℕ
  sessionId : String
  raw : ByteArray

/-- A payload that `SessionActor` handed to a transport; the transport gets its dump. -/
structure Handed where
  origin : ℕ
  session : ℕ
  payload : Json

/-- An exception that no one catches, by the thread it escapes on. -/
inductive Exception
  | network (error : JsonError)
  | worker (error : HandlerError)
  deriving DecidableEq, Repr

/-- The configuration, with the iteration order of the map of actors. -/
structure Config where
  lib : Libraries
  order : List ActorType
  complete : ∀ a, a ∈ order
  nodup : order.Nodup
  mailboxCapacity : ℕ
  actorThreads : ℕ

def Config.runtime (cfg : Config) : Runtime ActorType Envelope (Traced Effect) HandlerError :=
  Svitock.runtime cfg.lib cfg.order

/-- Sessions are numbered in the order in which they were accepted; the registry
refers to them by that number. `frames`, `creates` and `handed` are the logs of
the dispatched frames, the calls of `MessageRepository::create` and the payloads
given to transports. -/
structure Server where
  networkRunning : Bool
  stopReturned : Bool
  nextSessionId : ℕ
  sessions : List WebSocketSession
  transports : String → Option ℕ
  actorSystem : ActorSystem
  frames : List Frame
  creates : List (Traced Message)
  handed : List Handed
  exception : Option Exception

inductive Label
  | accept (ok : Bool)
  | handshake (i : ℕ) (ok : Bool)
  | readFrame (i : ℕ) (raw : ByteArray)
  | readError (i : ℕ)
  | dispatch (i : ℕ)
  | posted (i : ℕ)
  | writeDone (i : ℕ) (ok : Bool)
  | worker (k : ℕ) (id : Uuid) (now : ℤ)
  | stopNetwork
  | stopActors
  | stopReturn

namespace Server

def run (cfg : Config) : Server where
  networkRunning := true
  stopReturned := false
  nextSessionId := 0
  sessions := []
  transports _ := none
  actorSystem := ActorSystem.start cfg.mailboxCapacity cfg.actorThreads
  frames := []
  creates := []
  handed := []
  exception := none

def bindTransport (w : Server) (sessionId : String) (i : ℕ) : Server :=
  { w with transports := Function.update w.transports sessionId (some i) }

def unbindTransport (w : Server) (sessionId : String) : Server :=
  { w with transports := Function.update w.transports sessionId none }

def setSession (w : Server) (i : ℕ) (s : WebSocketSession) : Server :=
  { w with sessions := w.sessions.set i s }

/-- The rest of `SessionActor::handle` on an outgoing event: look the transport
up, lock it and send. -/
def deliver (lib : Libraries) (w : Server) (origin : ℕ) (sessionId : String) (payload : Json) :
    Server :=
  match w.transports sessionId with
  | none => w
  | some i =>
    match w.sessions[i]? with
    | none => w
    | some s =>
      if s.alive then
        { w with
          sessions := w.sessions.set i (s.send (lib.dump payload))
          handed := w.handed ++ [⟨origin, i, payload⟩] }
      else w

/-- `WebSocketListener::onAccept` without an error. The counter is a 64-bit word. -/
def listenerOnAccept (w : Server) : Server :=
  let id := (w.nextSessionId + 1) % 2 ^ 64
  { w with nextSessionId := id, sessions := w.sessions ++ [.run (toString id)] }

def onAccept (w : Server) (i : ℕ) (s : WebSocketSession) (ok : Bool) : Server :=
  let s' := { s with accepting := false }
  if ok then (w.bindTransport s.sessionId i).setSession i s'.doRead else w.setSession i s'

/-- `WebSocketSession::onRead` with an error. -/
def onReadError (w : Server) (i : ℕ) (s : WebSocketSession) : Server :=
  (w.unbindTransport s.sessionId).setSession i { s with reading := false }

/-- `WebSocketSession::onRead` with a frame: dispatch, then read on. -/
def onRead (cfg : Config) (w : Server) (i : ℕ) (s : WebSocketSession) (raw : ByteArray) : Server :=
  let frames := w.frames ++ [⟨i, s.sessionId, raw⟩]
  match MessageDispatcher.dispatch cfg.lib s.sessionId raw with
  | .error e => { w with frames := frames, exception := some (.network e) }
  | .ok none =>
    { w with frames := frames, sessions := w.sessions.set i { s with executing := none }.doRead }
  | .ok (some envelope) =>
    { w with
      frames := frames
      sessions := w.sessions.set i { s with executing := none }.doRead
      actorSystem := w.actorSystem.receive cfg.runtime envelope.destination
        ⟨w.frames.length, envelope.payload⟩ }

def onWrite (w : Server) (i : ℕ) (s : WebSocketSession) (ok : Bool) : Server :=
  if ok then w.setSession i s.onWrite
  else (w.unbindTransport s.sessionId).setSession i { s with writing := false }

/-- What the step of a worker does outside the mailboxes. `id` and `now` are what
the random generator and the clock give. -/
def perform (lib : Libraries) (w : Server) (id : Uuid) (now : ℤ) :
    Outcome ActorType Envelope (Traced Effect) HandlerError → Server
  | .emitted ⟨origin, .deliver sessionId payload⟩ => w.deliver lib origin sessionId payload
  | .emitted ⟨origin, .create chatId senderId content⟩ =>
    { w with creates := w.creates ++ [⟨origin, ⟨id, chatId, senderId, content, now⟩⟩] }
  | .failed e => { w with exception := some (.worker e) }
  | _ => w

def onStrand (w : Server) (i : ℕ) (f : WebSocketSession → Option Server) : Option Server :=
  if w.networkRunning then
    match w.sessions[i]? with
    | none => none
    | some s => if s.executing.isSome then none else f s
  else none

def step (cfg : Config) (w : Server) (l : Label) : Option Server :=
  if w.exception.isSome then none else
  match l with
  | .accept ok =>
    if w.networkRunning then some (if ok then w.listenerOnAccept else w) else none
  | .handshake i ok =>
    w.onStrand i fun s => if s.accepting then some (w.onAccept i s ok) else none
  | .readFrame i raw =>
    w.onStrand i fun s =>
      if s.reading then some (w.setSession i { s with reading := false, executing := some raw })
      else none
  | .readError i => w.onStrand i fun s => if s.reading then some (w.onReadError i s) else none
  | .dispatch i =>
    match w.sessions[i]? with
    | none => none
    | some s =>
      match s.executing with
      | none => none
      | some raw => some (w.onRead cfg i s raw)
  | .posted i =>
    w.onStrand i fun s =>
      match s.posted with
      | [] => none
      | payload :: rest => some (w.setSession i (s.runPosted payload rest))
  | .writeDone i ok => w.onStrand i fun s => if s.writing then some (w.onWrite i s ok) else none
  | .worker k id now =>
    match w.actorSystem.workerStep cfg.runtime k with
    | none => none
    | some (out, a) => some ({ w with actorSystem := a }.perform cfg.lib id now out)
  | .stopNetwork =>
    -- the pool joins its threads, so no handler is left executing
    if w.networkRunning && w.sessions.all (·.executing.isNone) then
      some { w with networkRunning := false }
    else none
  | .stopActors =>
    if !w.networkRunning && w.actorSystem.running then
      some { w with actorSystem := w.actorSystem.halt }
    else none
  | .stopReturn =>
    if !w.networkRunning && !w.actorSystem.running && w.actorSystem.workers.all (·.isExited) then
      some { w with stopReturned := true }
    else none

abbrev Runs (cfg : Config) (w : Server) (ls : List Label) (w' : Server) : Prop :=
  Transition.Run (step cfg) Transition.Anything w ls w'

end Server

namespace Sample

def chatId : String := "00000000-0000-0000-0000-000000000001"

def userId : String := "00000000-0000-0000-0000-000000000002"

def otherId : String := "00000000-0000-0000-0000-000000000003"

def sendMessage (chat sender recipient text : String) : ByteArray × Json :=
  (("\x7b\"type\":\"send_message\",\"chat_id\":\"" ++ chat ++ "\",\"sender_id\":\"" ++ sender ++
      "\",\"recipient_session_id\":\"" ++ recipient ++ "\",\"payload\":\x7b\"text\":\"" ++ text ++
      "\"\x7d\x7d").toUTF8,
    .object [("type", .string "send_message"), ("chat_id", .string chat),
      ("sender_id", .string sender), ("recipient_session_id", .string recipient),
      ("payload", .object [("text", .string text)])])

def greeting : ByteArray × Json := sendMessage chatId userId "" "hi"

def whisper : ByteArray × Json := sendMessage chatId userId "2" "hi"

def auth (user : String) : ByteArray × Json :=
  (("\x7b\"type\":\"auth\",\"user_id\":\"" ++ user ++ "\"\x7d").toUTF8,
    .object [("type", .string "auth"), ("user_id", .string user)])

def mistyped : ByteArray × Json :=
  ("\x7b\"type\":1\x7d".toUTF8, .object [("type", .numberUnsigned 1)])

def dump : Json → String
  | .object [("type", .string type), ("chat_id", .string chat),
      ("payload", .object [("text", .string text)])] =>
    "\x7b\"chat_id\":\"" ++ chat ++ "\",\"payload\":\x7b\"text\":\"" ++ text ++
      "\"\x7d,\"type\":\"" ++ type ++ "\"\x7d"
  | .object [("type", .string type), ("chat_id", .string chat),
      ("payload", .object [("text", .string text), ("from", .string sender)])] =>
    "\x7b\"chat_id\":\"" ++ chat ++ "\",\"payload\":\x7b\"from\":\"" ++ sender ++
      "\",\"text\":\"" ++ text ++ "\"\x7d,\"type\":\"" ++ type ++ "\"\x7d"
  | _ => ""

/-- Libraries that know the texts of a few frames, the dumps of the two events that `ChatActor`
emits and three UUIDs. -/
def libraries (frames : List (ByteArray × Json)) : Libraries where
  parse raw :=
    ((frames.find? fun f => f.1.data.toList == raw.data.toList).map Prod.snd).getD .discarded
  dump := dump
  stringGenerator s :=
    if s = chatId then some 1 else if s = userId then some 2
    else if s = otherId then some 3 else none

def config (frames : List (ByteArray × Json)) (mailboxCapacity actorThreads : ℕ) : Config where
  lib := libraries frames
  order := [.storage, .message, .chat, .session]
  complete a := by cases a <;> decide
  nodup := by decide
  mailboxCapacity := mailboxCapacity
  actorThreads := actorThreads

def frame (i : ℕ) (f : ByteArray × Json) : List Label := [.readFrame i f.1, .dispatch i]

def connect (i : ℕ) : List Label := [.accept true, .handshake i true]

def work (k n : ℕ) : List Label := List.replicate n (.worker k 9 0)

end Sample

end Svitock
