import Svitock.HttpRouter
import Svitock.Transition

/-!
# A connection of the HTTP server

`infrastructure/network/http/http_session.cpp`: one read, one write, and so on, each
started by the handler of the one before. The outstanding operations are a list
here, so that two at once are not ruled out by the model. Whether to close is asked
of the response, which `HttpRouter::route` builds without a look at the request's
version or its `Connection` header.
-/

namespace Svitock

open ByteString Transition

/-- What keeps a connection open: the version, 10 or 11, and the tokens of `Connection`. -/
structure ConnectionHeader where
  version : ℕ
  close : Bool
  keepAlive : Bool
  deriving DecidableEq, Repr

/-- `keep_alive()` of Beast. -/
def ConnectionHeader.keepsAlive (header : ConnectionHeader) : Bool :=
  if header.version < 11 then header.keepAlive else !header.close

def ConnectionHeader.asksToClose (header : ConnectionHeader) : Bool :=
  header.close || (decide (header.version < 11) && !header.keepAlive)

structure Reply extends Response where
  header : ConnectionHeader
  contentLength : Bool
  deriving DecidableEq, Repr

/-- `need_eof()` of Beast, for the statuses that have a body. -/
def Reply.needEof (reply : Reply) : Bool :=
  if reply.contentLength then !reply.header.keepsAlive else true

/-- The response of `route`: default-constructed but for its content, with the
`Content-Length` of `prepare_payload`. -/
def HttpRouter.reply (response : Response) : Reply :=
  { response with
    header := ⟨11, false, false⟩
    contentLength := true }

namespace HttpSession

structure Reception where
  request : Request
  header : ConnectionHeader
  repository : MessageRepository
  now : ℤ

def answer (jwt : JwtService) (lib : WebLibraries) (r : Reception) : Except HttpError Reply :=
  (HttpRouter.route jwt lib r.repository r.now r.request).map HttpRouter.reply

/-- An asynchronous operation; the handler of a write remembers whether to close. -/
inductive Operation
  | read
  | write (reply : Reply) (close : Bool)

inductive Event
  | readStarted
  | received (r : Reception)
  | writeStarted (reply : Reply)
  | written (reply : Reply)
  | shutdownSend

/-- The outstanding operations and, as history, what has happened. -/
structure State where
  pending : List Operation
  events : List Event

inductive ReadResult
  | request (r : Reception)
  | endOfStream
  | error

def doRead (s : State) : State := ⟨s.pending ++ [.read], s.events ++ [.readStarted]⟩

/-- `run`, which the listener calls once. -/
def run : State := doRead ⟨[], []⟩

/-- An exception of `route` ends the process: there is no state after it. -/
def onRead (jwt : JwtService) (lib : WebLibraries) (s : State) : ReadResult → Option State
  | .endOfStream => some { s with events := s.events ++ [.shutdownSend] }
  | .error => some s
  | .request r =>
    match answer jwt lib r with
    | .error _ => none
    | .ok reply =>
      -- `need_eof` is asked of the response, to which nothing of the request was copied
      some ⟨s.pending ++ [.write reply reply.needEof],
        s.events ++ [.received r, .writeStarted reply]⟩

def onWrite (s : State) (reply : Reply) (close ok : Bool) : State :=
  if ok = false then s
  else
    let s := { s with events := s.events ++ [.written reply] }
    if close then { s with events := s.events ++ [.shutdownSend] } else doRead s

inductive Label
  | readDone (k : ℕ) (result : ReadResult)
  | writeDone (k : ℕ) (ok : Bool)

def step (jwt : JwtService) (lib : WebLibraries) (s : State) : Label → Option State
  | .readDone k result =>
    match s.pending[k]? with
    | some .read => onRead jwt lib { s with pending := s.pending.eraseIdx k } result
    | _ => none
  | .writeDone k ok =>
    match s.pending[k]? with
    | some (.write reply close) =>
      some (onWrite { s with pending := s.pending.eraseIdx k } reply close ok)
    | _ => none

def Event.received? : Event → Option Reception
  | received r => some r
  | _ => none

def Event.started? : Event → Option Reply
  | writeStarted reply => some reply
  | _ => none

def Event.written? : Event → Option Reply
  | written reply => some reply
  | _ => none

def received (events : List Event) : List Reception := events.filterMap Event.received?

def started (events : List Event) : List Reply := events.filterMap Event.started?

def written (events : List Event) : List Reply := events.filterMap Event.written?

def asked (events : List Event) : Bool :=
  (received events).getLast?.any fun r => r.header.asksToClose

/-- One operation at a time; one response for each request, in their order; no read
before the response to the request before is written; and after the response to a
request that asks to close nothing but the end of sending. -/
structure Protocol (jwt : JwtService) (lib : WebLibraries) (s : State) : Prop where
  oneOutstanding : s.pending.length ≤ 1
  oneResponse : (started s.events).map .ok = (received s.events).map (answer jwt lib)
  inOrder : written s.events <+: started s.events
  readsWait : Preceded (fun before event => event = .readStarted →
    (received before).length = (written before).length) s.events
  closes : ∀ before reply after, s.events = before ++ .written reply :: after →
    asked before = true → after = [.shutdownSend]

/-- No response to a request that asks to close gets written. -/
def keeps (s : State) : Label → Bool
  | .writeDone _ true => !asked s.events
  | _ => true

variable {jwt : JwtService} {lib : WebLibraries} {s s' : State} {l : Label} {ls : List Label}

@[simp] theorem received_append (a b : List Event) : received (a ++ b) = received a ++ received b :=
  List.filterMap_append

@[simp] theorem started_append (a b : List Event) : started (a ++ b) = started a ++ started b :=
  List.filterMap_append

@[simp] theorem written_append (a b : List Event) : written (a ++ b) = written a ++ written b :=
  List.filterMap_append

@[simp] theorem received_singleton (e : Event) : received [e] = e.received?.toList := by
  cases e <;> rfl

@[simp] theorem started_singleton (e : Event) : started [e] = e.started?.toList := by
  cases e <;> rfl

@[simp] theorem written_singleton (e : Event) : written [e] = e.written?.toList := by
  cases e <;> rfl

/-- The response has its length, so it would have to say that it closes. -/
theorem needEof_of_answer {r : Reception} {reply : Reply} (h : answer jwt lib r = .ok reply) :
    reply.needEof = false := by
  unfold answer at h
  cases hroute : HttpRouter.route jwt lib r.repository r.now r.request with
  | error e =>
    rw [hroute] at h
    cases h
  | ok response =>
    rw [hroute] at h
    obtain rfl := Except.ok.inj h
    rfl

inductive Step (jwt : JwtService) (lib : WebLibraries) (s : State) : Label → State → Prop
  | request {k : ℕ} {r : Reception} {reply : Reply} (hk : s.pending[k]? = some .read)
      (hr : answer jwt lib r = .ok reply) :
      Step jwt lib s (.readDone k (.request r))
        ⟨s.pending.eraseIdx k ++ [.write reply false],
          s.events ++ [.received r] ++ [.writeStarted reply]⟩
  | endOfStream {k : ℕ} (hk : s.pending[k]? = some .read) :
      Step jwt lib s (.readDone k .endOfStream)
        ⟨s.pending.eraseIdx k, s.events ++ [.shutdownSend]⟩
  | readError {k : ℕ} (hk : s.pending[k]? = some .read) :
      Step jwt lib s (.readDone k .error) ⟨s.pending.eraseIdx k, s.events⟩
  | writeError {k : ℕ} {reply : Reply} {close : Bool}
      (hk : s.pending[k]? = some (.write reply close)) :
      Step jwt lib s (.writeDone k false) ⟨s.pending.eraseIdx k, s.events⟩
  | close {k : ℕ} {reply : Reply} (hk : s.pending[k]? = some (.write reply true)) :
      Step jwt lib s (.writeDone k true)
        ⟨s.pending.eraseIdx k, s.events ++ [.written reply] ++ [.shutdownSend]⟩
  | next {k : ℕ} {reply : Reply} (hk : s.pending[k]? = some (.write reply false)) :
      Step jwt lib s (.writeDone k true)
        ⟨s.pending.eraseIdx k ++ [.read], s.events ++ [.written reply] ++ [.readStarted]⟩

theorem step_cases (h : step jwt lib s l = some s') : Step jwt lib s l s' := by
  cases l with
  | readDone k result =>
    simp only [step] at h
    split at h
    · next hk =>
      cases result with
      | endOfStream =>
        obtain rfl := Option.some.inj h
        exact .endOfStream hk
      | error =>
        obtain rfl := Option.some.inj h
        exact .readError hk
      | request r =>
        simp only [onRead] at h
        split at h
        · cases h
        · next reply hr =>
          rw [needEof_of_answer hr] at h
          obtain rfl := Option.some.inj h
          simpa using Step.request hk hr
    · cases h
  | writeDone k ok =>
    simp only [step] at h
    split at h
    · next reply close hk =>
      obtain rfl := Option.some.inj h
      cases ok with
      | false => exact .writeError hk
      | true =>
        cases close with
        | false => exact .next hk
        | true => exact .close hk
    · cases h

inductive Phase (events : List Event) : List Operation → Prop
  | reading (h : started events = written events) : Phase events [.read]
  | writing {reply : Reply} (h : started events = written events ++ [reply]) :
      Phase events [.write reply false]
  | ended (h : written events <+: started events) : Phase events []

structure Inv (jwt : JwtService) (lib : WebLibraries) (s : State) : Prop where
  oneResponse : (started s.events).map .ok = (received s.events).map (answer jwt lib)
  phase : Phase s.events s.pending
  readsWait : Preceded (fun before event => event = .readStarted →
    (received before).length = (written before).length) s.events

theorem inv_run : Inv jwt lib run := by
  refine ⟨rfl, .reading rfl, ?_⟩
  have hwait : Preceded (fun before event => event = Event.readStarted →
      (received before).length = (written before).length) ([] ++ [Event.readStarted]) :=
    preceded_append_singleton.mpr ⟨preceded_nil, fun _ => rfl⟩
  exact hwait

theorem Phase.read {events : List Event} {pending : List Operation} {k : ℕ}
    (h : Phase events pending) (hk : pending[k]? = some .read) :
    pending.eraseIdx k = [] ∧ started events = written events := by
  cases h with
  | reading h =>
    obtain rfl : k = 0 := by
      by_contra hne
      simp [hne] at hk
    exact ⟨rfl, h⟩
  | writing h =>
    by_cases h0 : k = 0
    · simp [h0] at hk
    · simp [h0] at hk
  | ended h => simp at hk

theorem Phase.write {events : List Event} {pending : List Operation} {k : ℕ} {reply : Reply}
    {close : Bool} (h : Phase events pending) (hk : pending[k]? = some (.write reply close)) :
    pending.eraseIdx k = [] ∧ close = false ∧ started events = written events ++ [reply] := by
  cases h with
  | reading h =>
    by_cases h0 : k = 0
    · simp [h0] at hk
    · simp [h0] at hk
  | writing h =>
    obtain rfl : k = 0 := by
      by_contra hne
      simp [hne] at hk
    obtain ⟨rfl, rfl⟩ : _ = reply ∧ false = close := by simpa using hk
    exact ⟨rfl, rfl, h⟩
  | ended h => simp at hk

theorem Phase.length_le {events : List Event} {pending : List Operation} (h : Phase events pending) :
    pending.length ≤ 1 := by
  cases h <;> simp

theorem Phase.inOrder {events : List Event} {pending : List Operation} (h : Phase events pending) :
    written events <+: started events := by
  cases h with
  | reading h => rw [h]
  | writing h =>
    rw [h]
    exact List.prefix_append _ _
  | ended h => exact h

theorem Inv.step (h : Inv jwt lib s) (hs : Step jwt lib s l s') : Inv jwt lib s' := by
  have hone := h.oneResponse
  have hwait := h.readsWait
  cases hs with
  | @request k r reply hk hr =>
    obtain ⟨hpending, hphase⟩ := h.phase.read hk
    rw [hpending]
    refine ⟨?_, .writing ?_, ?_⟩
    · simp only [started_append, received_append, List.map_append, hone]
      simp [Event.started?, Event.received?, hr]
    · simp only [started_append, written_append, hphase]
      simp [Event.started?, Event.written?]
    · rw [preceded_append_singleton, preceded_append_singleton]
      exact ⟨⟨hwait, by simp⟩, by simp⟩
  | endOfStream hk =>
    obtain ⟨hpending, hphase⟩ := h.phase.read hk
    rw [hpending]
    refine ⟨?_, .ended ?_, ?_⟩
    · simp only [started_append, received_append, List.map_append, hone]
      rfl
    · simp only [started_append, written_append, hphase]
      exact List.prefix_rfl
    · rw [preceded_append_singleton]
      exact ⟨hwait, by simp⟩
  | readError hk =>
    obtain ⟨hpending, hphase⟩ := h.phase.read hk
    rw [hpending]
    exact ⟨hone, .ended (by rw [hphase]), hwait⟩
  | writeError hk =>
    obtain ⟨hpending, -, hphase⟩ := h.phase.write hk
    rw [hpending]
    exact ⟨hone, .ended (by rw [hphase]; exact List.prefix_append _ _), hwait⟩
  | close hk =>
    -- no response that `route` makes needs the end of the stream
    obtain ⟨-, hclose, -⟩ := h.phase.write hk
    cases hclose
  | @next k reply hk =>
    obtain ⟨hpending, -, hphase⟩ := h.phase.write hk
    rw [hpending]
    refine ⟨?_, .reading ?_, ?_⟩
    · simp only [started_append, received_append, List.map_append, hone]
      rfl
    · simp only [started_append, written_append, hphase]
      simp [Event.started?, Event.written?]
    · -- the response that has just been written is the one to the last request
      have hlength : (received s.events).length = (started s.events).length := by
        simpa using (congrArg List.length hone).symm
      rw [preceded_append_singleton, preceded_append_singleton]
      refine ⟨⟨hwait, by simp⟩, fun _ => ?_⟩
      rw [hphase] at hlength
      simpa [Event.received?, Event.written?] using hlength

theorem inv_of_run (h : Run (step jwt lib) Anything run ls s) : Inv jwt lib s :=
  h.invariant inv_run fun _ _ _ hi _ hs => hi.step (step_cases hs)

/-- A read was started after the response to a request that asked to close. -/
def ReadsOn (events : List Event) : Prop :=
  ∃ before reply after, events = before ++ .written reply :: .readStarted :: after ∧
    asked before = true

theorem Step.events_mono (hs : Step jwt lib s l s') : s.events <+: s'.events := by
  cases hs with
  | request hk hr =>
    rw [List.append_assoc]
    exact List.prefix_append _ _
  | endOfStream hk => exact List.prefix_append _ _
  | readError hk => exact List.prefix_rfl
  | writeError hk => exact List.prefix_rfl
  | close hk =>
    rw [List.append_assoc]
    exact List.prefix_append _ _
  | next hk =>
    rw [List.append_assoc]
    exact List.prefix_append _ _

theorem ReadsOn.mono {events events' : List Event} (h : ReadsOn events) (hp : events <+: events') :
    ReadsOn events' := by
  obtain ⟨before, reply, after, rfl, hasked⟩ := h
  obtain ⟨rest, rfl⟩ := hp
  exact ⟨before, reply, after ++ rest, by simp, hasked⟩

/-- Where a response to a request that asks to close is written, another read follows. -/
theorem readsOn_of_not_keeps (h : Inv jwt lib s) (hs : Step jwt lib s l s')
    (hk : keeps s l = false) : ReadsOn s'.events := by
  cases hs with
  | request _ _ => cases hk
  | endOfStream _ => cases hk
  | readError _ => cases hk
  | writeError _ => cases hk
  | close hpending =>
    obtain ⟨-, hclose, -⟩ := h.phase.write hpending
    cases hclose
  | @next k reply hpending =>
    exact ⟨s.events, reply, [], by simp, by simpa [keeps] using hk⟩

theorem keeps_of_not_readsOn (h : Run (step jwt lib) Anything run ls s)
    (hn : ¬ ReadsOn s.events) : Run (step jwt lib) (fun s l => keeps s l = true) run ls s := by
  induction h with
  | nil => exact .nil
  | @snoc ls l t u hrun _ hs ih =>
    have hstep := step_cases hs
    have hkeeps : keeps t l = true := by
      by_contra hne
      exact hn (readsOn_of_not_keeps (inv_of_run hrun) hstep (by simpa using hne))
    exact .snoc (ih fun hr => hn (hr.mono hstep.events_mono)) hkeeps hs

def NoneAsked (events : List Event) : Prop :=
  Preceded (fun before event => ∀ reply, event = .written reply → asked before = false) events

theorem NoneAsked.step (h : NoneAsked s.events) (hk : keeps s l = true)
    (hs : Step jwt lib s l s') : NoneAsked s'.events := by
  unfold NoneAsked at h ⊢
  cases hs with
  | request _ _ =>
    rw [preceded_append_singleton, preceded_append_singleton]
    exact ⟨⟨h, by simp⟩, by simp⟩
  | endOfStream _ =>
    rw [preceded_append_singleton]
    exact ⟨h, by simp⟩
  | readError _ => exact h
  | writeError _ => exact h
  | close _ =>
    rw [preceded_append_singleton, preceded_append_singleton]
    exact ⟨⟨h, fun _ _ => by simpa [keeps] using hk⟩, by simp⟩
  | next _ =>
    rw [preceded_append_singleton, preceded_append_singleton]
    exact ⟨⟨h, fun _ _ => by simpa [keeps] using hk⟩, by simp⟩

theorem noneAsked_of_keeps (h : Run (step jwt lib) (fun s l => keeps s l = true) run ls s) :
    NoneAsked s.events := by
  have hstart : NoneAsked run.events := by
    have hread : NoneAsked ([] ++ [Event.readStarted]) :=
      preceded_append_singleton.mpr ⟨preceded_nil, by simp⟩
    exact hread
  exact h.invariant (I := fun s => NoneAsked s.events) hstart
    fun _ _ _ hi hk hs => hi.step hk (step_cases hs)

/-- A connection follows the protocol exactly in the runs in which no response to a request
that asks to close gets written; in all others it goes on reading. -/
theorem protocol_iff_keeps (jwt : JwtService) (lib : WebLibraries) (ls : List Label) (s : State)
    (h : Run (step jwt lib) Anything run ls s) :
    Protocol jwt lib s ↔ Run (step jwt lib) (fun s l => keeps s l = true) run ls s := by
  constructor
  · intro hp
    refine keeps_of_not_readsOn h ?_
    rintro ⟨before, reply, after, hevents, hasked⟩
    have hafter := hp.closes before reply (.readStarted :: after) hevents hasked
    simp at hafter
  · intro hkeeps
    have hi := inv_of_run h
    refine ⟨hi.phase.length_le, hi.oneResponse, hi.phase.inOrder, hi.readsWait,
      fun before reply after hevents hasked => ?_⟩
    have hnone := noneAsked_of_keeps hkeeps before _ after hevents reply rfl
    rw [hnone] at hasked
    cases hasked

def sampleReception (header : ConnectionHeader) : Reception :=
  ⟨⟨.post, ofString "/register", [], []⟩, header, HttpRouter.total fun _ _ => [], 0⟩

theorem protocol_iff_keeps_two_requests :
    ∃ s, Run (step ⟨WebSample.secret⟩ (WebSample.libraries [])) Anything run
        [.readDone 0 (.request (sampleReception ⟨11, false, false⟩)), .writeDone 0 true,
          .readDone 0 (.request (sampleReception ⟨10, false, true⟩)), .writeDone 0 true,
          .readDone 0 .endOfStream] s ∧
      (written s.events).length = 2 ∧ Protocol ⟨WebSample.secret⟩ (WebSample.libraries []) s := by
  obtain ⟨s, hrun, hlength⟩ : ∃ s, Run (step ⟨WebSample.secret⟩ (WebSample.libraries []))
      (fun s l => keeps s l = true) run
        [.readDone 0 (.request (sampleReception ⟨11, false, false⟩)), .writeDone 0 true,
          .readDone 0 (.request (sampleReception ⟨10, false, true⟩)), .writeDone 0 true,
          .readDone 0 .endOfStream] s ∧ (written s.events).length = 2 :=
    exists_run _ (by decide +kernel)
  exact ⟨s, hrun.anything, hlength,
    (protocol_iff_keeps ⟨WebSample.secret⟩ (WebSample.libraries []) _ s hrun.anything).mpr hrun⟩

/-- A registration with `Connection: close`, after whose response the server reads on. -/
theorem close_is_not_honoured :
    ∃ s, Run (step ⟨WebSample.secret⟩ (WebSample.libraries [])) Anything run
        [.readDone 0 (.request (sampleReception ⟨11, true, false⟩)), .writeDone 0 true] s ∧
      (∃ before reply, s.events = before ++ [.written reply, .readStarted] ∧
        asked before = true) ∧
      ¬ Protocol ⟨WebSample.secret⟩ (WebSample.libraries []) s := by
  let reply := HttpRouter.reply
    ⟨.ok, (WebSample.libraries []).dump (HttpRouter.oneField "status" "ok")⟩
  let before : List Event :=
    [.readStarted, .received (sampleReception ⟨11, true, false⟩), .writeStarted reply]
  have hrun : Run (step ⟨WebSample.secret⟩ (WebSample.libraries [])) Anything run
      [.readDone 0 (.request (sampleReception ⟨11, true, false⟩)), .writeDone 0 true]
      ⟨[.read], before ++ [.written reply, .readStarted]⟩ := exec_run rfl
  refine ⟨_, hrun, ⟨before, reply, rfl, rfl⟩, fun hp => ?_⟩
  have hafter := hp.closes before reply [.readStarted] rfl rfl
  simp at hafter

end HttpSession

end Svitock
