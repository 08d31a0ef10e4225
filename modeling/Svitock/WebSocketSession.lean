import Svitock.ActorMessage

/-!
# One WebSocket connection

`infrastructure/network/websocket/websocket_session.cpp`. A session is modelled
by its fields and by the asynchronous operations it has outstanding: the
handshake, a read, a write and the sends posted to its strand. Each of these
holds a `shared_ptr` to the session, so the session is alive while one of them
is outstanding or its completion is executing.
-/

namespace Svitock

structure WebSocketSession where
  sessionId : String
  accepting : Bool
  reading : Bool
  /-- The frame that `onRead` is handling. -/
  executing : Option ByteArray
  posted : List String
  writeQueue : List String
  writing : Bool

namespace WebSocketSession

/-- A new session right after `run`: its handshake is outstanding. -/
def run (sessionId : String) : WebSocketSession :=
  ⟨sessionId, true, false, none, [], [], false⟩

/-- Whether the `weak_ptr` kept by the registry can be locked. -/
def alive (s : WebSocketSession) : Bool :=
  s.accepting || s.reading || s.executing.isSome || s.writing || !s.posted.isEmpty

def doRead (s : WebSocketSession) : WebSocketSession := { s with reading := true }

def doWrite (s : WebSocketSession) : WebSocketSession := { s with writing := true }

def send (s : WebSocketSession) (payload : String) : WebSocketSession :=
  { s with posted := s.posted ++ [payload] }

/-- The posted part of `send`, for the payload at the front of the strand. -/
def runPosted (s : WebSocketSession) (payload : String) (rest : List String) : WebSocketSession :=
  let s' := { s with posted := rest, writeQueue := s.writeQueue ++ [payload] }
  if s.writeQueue.isEmpty then s'.doWrite else s'

def onWrite (s : WebSocketSession) : WebSocketSession :=
  let s' := { s with writing := false, writeQueue := s.writeQueue.tail }
  if s'.writeQueue.isEmpty then s' else s'.doWrite

/-- A read is pending or its completion is executing. -/
def Listening (s : WebSocketSession) : Prop := s.reading = true ∨ s.executing.isSome = true

theorem Listening.alive {s : WebSocketSession} (h : s.Listening) : s.alive = true := by
  rcases h with h | h <;> simp [WebSocketSession.alive, h]

structure SameReader (s s' : WebSocketSession) : Prop where
  sessionId : s'.sessionId = s.sessionId
  accepting : s'.accepting = s.accepting
  reading : s'.reading = s.reading
  executing : s'.executing = s.executing

theorem SameReader.listening_iff {s s' : WebSocketSession} (h : SameReader s s') :
    s'.Listening ↔ s.Listening := by
  rw [Listening, Listening, h.reading, h.executing]

theorem sameReader_send (s : WebSocketSession) (p : String) : SameReader s (s.send p) :=
  ⟨rfl, rfl, rfl, rfl⟩

theorem sameReader_runPosted (s : WebSocketSession) (p : String) (rest : List String) :
    SameReader s (s.runPosted p rest) := by
  unfold runPosted
  dsimp only
  split <;> exact ⟨rfl, rfl, rfl, rfl⟩

theorem sameReader_onWrite (s : WebSocketSession) : SameReader s s.onWrite := by
  unfold onWrite
  dsimp only
  split <;> exact ⟨rfl, rfl, rfl, rfl⟩

end WebSocketSession

end Svitock
