import Svitock.Authenticity
import Svitock.ChatHistory
import Svitock.Composition
import Svitock.HttpSession
import Svitock.Observation

/-!
# Both sides of the server

The WebSocket side and the HTTP side of `infrastructure/network/server.cpp` run in the same
process, on the same threads and over the same table of messages: `StorageActor` adds rows
while `HttpSession`s on any number of connections, accepted by
`infrastructure/network/http/http_listener.cpp`, read histories from it. A call of the
repository is one step. An exception on either side ends the process.
-/

namespace Svitock

open ByteString Transition HttpRouter

structure BackendConfig extends Config where
  web : WebLibraries
  jwt : JwtService
  libraries : lib = web.toLibraries

structure Backend where
  server : Server
  table : List MessageRow
  connections : List HttpSession.State
  exception : Option HttpError

namespace Backend

def run (cfg : BackendConfig) : Backend where
  server := Server.run cfg.toConfig
  table := []
  connections := []
  exception := none

/-- The `k`-th outstanding operation of a connection completes; `now` is what the clock shows
while a request is routed, and `clock i` at the `i`-th row that is read for it. -/
inductive Completion
  | request (k : ℕ) (request : Request) (header : ConnectionHeader) (now : ℤ) (clock : ℕ → ℤ)
  | endOfStream (k : ℕ)
  | readError (k : ℕ)
  | writeDone (k : ℕ) (ok : Bool)

def reception (lib : WebLibraries) (table : List MessageRow) (request : Request)
    (header : ConnectionHeader) (now : ℤ) (clock : ℕ → ℤ) : HttpSession.Reception :=
  ⟨request, header, PostgresMessageRepository.repository lib table clock, now⟩

def Completion.label (lib : WebLibraries) (table : List MessageRow) :
    Completion → HttpSession.Label
  | .request k r header now clock => .readDone k (.request (reception lib table r header now clock))
  | .endOfStream k => .readDone k .endOfStream
  | .readError k => .readDone k .error
  | .writeDone k ok => .writeDone k ok

/-- What escapes from `route` on the way. -/
def Completion.raises (cfg : BackendConfig) (table : List MessageRow) (c : HttpSession.State) :
    Completion → Option HttpError
  | .request k r header now clock =>
    match c.pending[k]? with
    | some .read =>
      match HttpSession.answer cfg.jwt cfg.web (reception cfg.web table r header now clock) with
      | .error e => some e
      | .ok _ => none
    | _ => none
  | _ => none

/-- A step of the WebSocket side, with the time of the database if it stores a message; an
accept of the `HttpListener`; or a completion on a connection. -/
inductive Label
  | webSocket (l : Svitock.Label) (createdAt : ℤ)
  | accept (ok : Bool)
  | http (i : ℕ) (completion : Completion)

/-- The rows of the messages that the WebSocket side has created in the step. -/
def store (lib : WebLibraries) (table : List MessageRow) (createdAt : ℤ)
    (created : List (Traced Message)) : List MessageRow :=
  created.foldl (fun table c => (PostgresMessageRepository.create lib table
    ⟨c.value.id, c.value.chatId, c.value.senderId, ofString c.value.content, c.value.createdAt⟩
    createdAt).1) table

def step (cfg : BackendConfig) (s : Backend) : Label → Option Backend
  | .webSocket l createdAt =>
    if s.exception.isSome then none
    else (Server.step cfg.toConfig s.server l).map fun server =>
      { s with
        server := server
        table := store cfg.web s.table createdAt
          (server.creates.drop s.server.creates.length) }
  | .accept ok =>
    if s.exception.isSome || s.server.exception.isSome || !s.server.networkRunning then none
    else some (if ok then { s with connections := s.connections ++ [HttpSession.run] } else s)
  | .http i completion =>
    if s.exception.isSome || s.server.exception.isSome || !s.server.networkRunning then none
    else (s.connections[i]?).bind fun c =>
      match completion.raises cfg s.table c with
      | some e => some { s with exception := some e }
      | none => (HttpSession.step cfg.jwt cfg.web c (completion.label cfg.web s.table)).map
          fun c => { s with connections := s.connections.set i c }

/-- The clock of the database advances from one row to the next. -/
def Clocked (s : Backend) : Label → Prop
  | .webSocket _ createdAt => ∀ row ∈ s.table, row.createdAt < createdAt
  | _ => True

instance (s : Backend) : (l : Label) → Decidable (Clocked s l)
  | .webSocket _ createdAt =>
    inferInstanceAs (Decidable (∀ row ∈ s.table, row.createdAt < createdAt))
  | .accept _ => .isTrue trivial
  | .http _ _ => .isTrue trivial

/-- A request that was answered, with the number of rows there were at the time. -/
structure Read where
  connection : ℕ
  request : Request
  rows : ℕ
  reply : Reply

def reads (cfg : BackendConfig) (s : Backend) : Label → List Read
  | .http i (.request _ request header now clock) =>
    match HttpSession.answer cfg.jwt cfg.web
      (reception cfg.web s.table request header now clock) with
    | .ok reply => [⟨i, request, s.table.length, reply⟩]
    | .error _ => []
  | _ => []

def history (lib : WebLibraries) (chat : Uuid) (creates : List (Traced Message)) : List Json :=
  ((creates.filter fun c => c.value.chatId = chat).reverse.take 50).map fun c =>
    .object [("id", .string (lib.uuidToString c.value.id)), ("text", .string c.value.content)]

structure Printable (lib : WebLibraries) (m : Message) : Prop where
  id : StorageActor.RoundTrips lib m.id
  chatId : StorageActor.RoundTrips lib m.chatId
  senderId : StorageActor.RoundTrips lib m.senderId

variable {cfg : BackendConfig} {s s' : Backend} {l : Label} {ls : List Label}

inductive Taken (cfg : BackendConfig) (s : Backend) : Label → Backend → Prop
  | quiet {l : Svitock.Label} {t : ℤ} {server : Server}
      (hs : Server.step cfg.toConfig s.server l = some server)
      (hc : server.creates = s.server.creates) :
      Taken cfg s (.webSocket l t) { s with server := server }
  | create {l : Svitock.Label} {t : ℤ} {server : Server} {c : Traced Message}
      (hs : Server.step cfg.toConfig s.server l = some server)
      (hc : server.creates = s.server.creates ++ [c]) :
      Taken cfg s (.webSocket l t) { s with server := server, table := store cfg.web s.table t [c] }
  | accept : Taken cfg s (.accept true) { s with connections := s.connections ++ [HttpSession.run] }
  | acceptError : Taken cfg s (.accept false) s
  | raise {i : ℕ} {completion : Completion} {c : HttpSession.State} {e : HttpError}
      (hi : s.connections[i]? = some c) (he : completion.raises cfg s.table c = some e) :
      Taken cfg s (.http i completion) { s with exception := some e }
  | http {i : ℕ} {completion : Completion} {c c' : HttpSession.State}
      (hi : s.connections[i]? = some c)
      (hc : HttpSession.step cfg.jwt cfg.web c (completion.label cfg.web s.table) = some c') :
      Taken cfg s (.http i completion) { s with connections := s.connections.set i c' }

end Backend

theorem Server.creates_of_step {cfg : Config} {w w' : Server} {l : Svitock.Label}
    (h : Server.step cfg w l = some w') :
    w'.creates = w.creates ∨ ∃ c, w'.creates = w.creates ++ [c] := by
  cases (Server.step_cases h).2 with
  | accept _ => exact .inl rfl
  | acceptError => exact .inl rfl
  | handshake _ _ ok => cases ok <;> exact .inl rfl
  | readFrame _ _ raw => exact .inl rfl
  | readError _ _ => exact .inl rfl
  | dispatch _ _ =>
    left
    unfold onRead
    dsimp only
    split <;> rfl
  | posted _ _ => exact .inl rfl
  | writeDone _ _ ok => cases ok <;> exact .inl rfl
  | @worker k out a hk id now =>
    unfold perform
    split
    · next o sid p =>
      rcases deliver_cases cfg.lib { w with actorSystem := a } o sid p with
        ⟨i, s, -, -, -, h⟩ | ⟨-, h⟩ <;> exact .inl (by rw [h])
    · exact .inr ⟨_, rfl⟩
    · exact .inl rfl
    · exact .inl rfl
  | stopNetwork _ => exact .inl rfl
  | stopActors => exact .inl rfl
  | stopReturn _ _ => exact .inl rfl

namespace Backend

theorem step_cases (h : step cfg s l = some s') : Taken cfg s l s' := by
  cases l with
  | webSocket l t =>
    simp only [step] at h
    split at h
    · cases h
    obtain ⟨server, hs, rfl⟩ := Option.map_eq_some_iff.mp h
    rcases Server.creates_of_step hs with hc | ⟨c, hc⟩
    · have htable : store cfg.web s.table t (server.creates.drop s.server.creates.length) =
          s.table := by rw [hc, List.drop_length]; rfl
      rw [htable]
      exact .quiet hs hc
    · have hdrop : server.creates.drop s.server.creates.length = [c] := by
        rw [hc, List.drop_left]
      rw [hdrop]
      exact .create hs hc
  | accept ok =>
    simp only [step] at h
    split at h
    · cases h
    cases ok with
    | true =>
      cases h
      exact .accept
    | false =>
      cases h
      exact .acceptError
  | http i completion =>
    simp only [step] at h
    split at h
    · cases h
    obtain ⟨c, hi, h⟩ := Option.bind_eq_some_iff.mp h
    split at h
    · next e he =>
      cases h
      exact .raise hi he
    · obtain ⟨c', hc, rfl⟩ := Option.map_eq_some_iff.mp h
      exact .http hi hc

theorem server_of_run {C : Backend → Label → Prop} (h : Run (step cfg) C (run cfg) ls s) :
    ∃ ls', Server.Runs cfg.toConfig (Server.run cfg.toConfig) ls' s.server := by
  refine h.part Backend.server fun t l u hs => ?_
  cases step_cases hs with
  | quiet hserver _ => exact .inr ⟨_, hserver⟩
  | create hserver _ => exact .inr ⟨_, hserver⟩
  | accept => exact .inl rfl
  | acceptError => exact .inl rfl
  | raise _ _ => exact .inl rfl
  | http _ _ => exact .inl rfl

theorem connection_of_run {C : Backend → Label → Prop} (h : Run (step cfg) C (run cfg) ls s)
    (i : ℕ) (c : HttpSession.State) (hc : s.connections[i]? = some c) :
    ∃ ls', Run (HttpSession.step cfg.jwt cfg.web) Anything HttpSession.run ls' c := by
  refine h.component Backend.connections rfl (fun t l u hs => ?_) i c hc
  cases step_cases hs with
  | quiet _ _ => exact .none
  | create _ _ => exact .none
  | accept => exact .spawn
  | acceptError => exact .none
  | raise _ _ => exact .none
  | http hi hc => exact .own hi hc

def row (lib : WebLibraries) (x : Traced Message × ℤ) : MessageRow :=
  ⟨lib.uuidToString x.1.value.id, lib.uuidToString x.1.value.chatId,
    lib.uuidToString x.1.value.senderId, ofString x.1.value.content, x.2⟩

/-- The table has one row for each message that was created, in their order and with times
that increase. -/
def Stored (lib : WebLibraries) (creates : List (Traced Message)) (table : List MessageRow) :
    Prop :=
  ∃ xs : List (Traced Message × ℤ), xs.map Prod.fst = creates ∧ xs.map (row lib) = table ∧
    xs.Pairwise fun x y => x.2 < y.2

variable {lib : WebLibraries} {creates : List (Traced Message)} {table : List MessageRow}

theorem Stored.create (h : Stored lib creates table) {c : Traced Message} {t : ℤ}
    (ht : ∀ row ∈ table, row.createdAt < t) :
    Stored lib (creates ++ [c]) (store lib table t [c]) := by
  obtain ⟨xs, rfl, rfl, hsorted⟩ := h
  refine ⟨xs ++ [(c, t)], by simp, by rw [List.map_append]; rfl, ?_⟩
  rw [List.pairwise_append]
  refine ⟨hsorted, List.pairwise_singleton _ _, fun x hx y hy => ?_⟩
  obtain rfl := List.mem_singleton.mp hy
  exact ht _ (List.mem_map_of_mem hx)

theorem Stored.take (h : Stored lib creates table) (n : ℕ) :
    Stored lib (creates.take n) (table.take n) := by
  obtain ⟨xs, rfl, rfl, hsorted⟩ := h
  exact ⟨xs.take n, List.map_take, List.map_take, hsorted.sublist (List.take_sublist n xs)⟩

theorem Stored.length_eq (h : Stored lib creates table) : table.length = creates.length := by
  obtain ⟨xs, rfl, rfl, -⟩ := h
  simp

theorem stored_of_run (h : Run (step cfg) Clocked (run cfg) ls s) :
    Stored cfg.web s.server.creates s.table := by
  refine h.invariant (I := fun s => Stored cfg.web s.server.creates s.table)
    ⟨[], rfl, rfl, .nil⟩ ?_
  intro t l u hi hclock hs
  cases step_cases hs with
  | quiet _ hc =>
    show Stored cfg.web _ t.table
    rw [hc]
    exact hi
  | create _ hc =>
    show Stored cfg.web _ (store cfg.web t.table _ _)
    rw [hc]
    exact hi.create hclock
  | accept => exact hi
  | acceptError => exact hi
  | raise _ _ => exact hi
  | http _ _ => exact hi

/-- The event of `StorageActor` that leaves the row of a message. -/
def handling (lib : WebLibraries) (x : Traced Message × ℤ) : StorageActor.Handling :=
  ⟨⟨lib.uuidToString x.1.value.chatId, lib.uuidToString x.1.value.senderId, x.1.value.content⟩,
    x.1.value.id, x.1.value.createdAt, x.2⟩

theorem Printable.chatOf {x : Traced Message × ℤ} (h : Printable lib x.1.value) :
    StorageActor.chatOf lib (handling lib x) = some x.1.value.chatId := h.chatId

theorem Printable.senderOf {x : Traced Message × ℤ} (h : Printable lib x.1.value) :
    StorageActor.senderOf lib (handling lib x) = some x.1.value.senderId := h.senderId

theorem Printable.rowOf {x : Traced Message × ℤ} (h : Printable lib x.1.value) :
    StorageActor.rowOf lib (handling lib x) = row lib x := by
  rw [StorageActor.rowOf, h.chatOf, h.senderOf]
  rfl

theorem latest_handlings {xs : List (Traced Message × ℤ)} (chat : Uuid)
    (hprint : ∀ x ∈ xs, Printable lib x.1.value) :
    (StorageActor.latest lib chat (xs.map (handling lib))).map (StorageActor.entryOf lib) =
      history lib chat (xs.map Prod.fst) := by
  have hfilter : (xs.map (handling lib)).filter (fun h => StorageActor.chatOf lib h = some chat) =
      (xs.filter fun x => x.1.value.chatId = chat).map (handling lib) := by
    rw [List.filter_map]
    congr 1
    refine List.filter_congr fun x hx => ?_
    simp [(hprint x hx).chatOf]
  have hfilter' : (xs.map Prod.fst).filter (fun c => c.value.chatId = chat) =
      (xs.filter fun x => x.1.value.chatId = chat).map Prod.fst := by
    rw [List.filter_map]
    rfl
  rw [StorageActor.latest, StorageActor.ofChat, history, hfilter, hfilter', ← List.map_reverse,
    ← List.map_reverse, ← List.map_take, ← List.map_take, List.map_map, List.map_map]
  rfl

theorem getByChat_stored {xs : List (Traced Message × ℤ)} {chat : Uuid}
    (hprint : ∀ x ∈ xs, Printable lib x.1.value) (hchat : StorageActor.RoundTrips lib chat)
    (hsorted : xs.Pairwise fun x y => x.2 < y.2) (clock : ℕ → ℤ) :
    PostgresMessageRepository.getByChat lib (xs.map (row lib)) clock chat 50 =
      .ok ((StorageActor.latest lib chat (xs.map (handling lib))).mapIdx
        fun i h => StorageActor.storedOf lib (clock i) h) := by
  have hrows : xs.map (row lib) = (xs.map (handling lib)).map (StorageActor.rowOf lib) := by
    rw [List.map_map]
    exact List.map_congr_left fun x hx => (hprint x hx).rowOf.symm
  rw [hrows]
  refine StorageActor.getByChat_rows ?_ ?_ hchat (List.pairwise_map.mpr hsorted)
  · intro y hy
    obtain ⟨x, hx, rfl⟩ := List.mem_map.mp hy
    simp [(hprint x hx).chatOf, (hprint x hx).senderOf]
  · intro y hy id hid
    obtain ⟨x, hx, rfl⟩ := List.mem_map.mp hy
    have hp := hprint x hx
    simp only [StorageActor.uuidsOf, hp.chatOf, hp.senderOf, Option.toList_some,
      List.mem_cons, List.mem_append, List.not_mem_nil, or_false] at hid
    rcases hid with rfl | rfl | rfl
    · exact hp.id
    · exact hp.chatId
    · exact hp.senderId

/-- What a request for the history of a chat is answered. -/
theorem answer_history (h : Stored lib creates table)
    (hprint : ∀ c ∈ creates, Printable lib c.value) {jwt : JwtService} {request : Request}
    {header : ConnectionHeader} {now : ℤ} {clock : ℕ → ℤ} {c : String} {chat : Uuid}
    (hm : request.method = .get)
    (ht : request.target = ofString ("/chat/" ++ c ++ "/messages"))
    (hc : lib.stringGenerator c = some chat) (hchat : StorageActor.RoundTrips lib chat) :
    HttpSession.answer jwt lib (reception lib table request header now clock) =
      .ok (HttpRouter.reply ⟨.ok, lib.dump (.array (history lib chat creates))⟩) := by
  obtain ⟨xs, rfl, rfl, hsorted⟩ := h
  have hprint' (x : Traced Message × ℤ) (hx : x ∈ xs) : Printable lib x.1.value :=
    hprint x.1 (List.mem_map_of_mem hx)
  have hread := getByChat_stored hprint' hchat hsorted clock
  have hfront : ofString "/chat/" <+: request.target := by
    rw [ht, ofString_append, ofString_append, List.append_assoc]
    exact List.prefix_append _ _
  have hback : ofString "/messages" <:+ request.target := by
    rw [ht, ofString_append]
    exact List.suffix_append _ _
  have huuid : uuid lib (chatId request.target) = some chat := by
    rw [ht, StorageActor.chatId_target]
    simp [uuid, decode?_ofString, hc]
  have hentries :=
    StorageActor.entries_stored lib clock (StorageActor.latest lib chat (xs.map (handling lib)))
  rw [latest_handlings chat hprint'] at hentries
  simp only [HttpSession.answer, reception, route_messages hm hfront hback, messages, huuid,
    PostgresMessageRepository.repository, hread, bind, Except.bind, hentries, Except.map]

/-- The reads so far: later ones see no fewer rows, each was answered over the rows there
were, and each connection started to write the answers to its own requests. -/
structure ReadInv (cfg : BackendConfig) (seen : List Read) (s : Backend) : Prop where
  ordered : seen.Pairwise fun a b => a.rows ≤ b.rows
  bounded : ∀ r ∈ seen, r.rows ≤ s.table.length
  answered : ∀ r ∈ seen, ∃ header now clock, HttpSession.answer cfg.jwt cfg.web
    (reception cfg.web (s.table.take r.rows) r.request header now clock) = .ok r.reply
  connection : ∀ r ∈ seen, r.connection < s.connections.length
  started : ∀ (i : ℕ) (c : HttpSession.State), s.connections[i]? = some c →
    HttpSession.started c.events = (seen.filter (·.connection == i)).map Read.reply

variable {seen : List Read}

theorem readInv_run : ReadInv cfg [] (run cfg) :=
  ⟨.nil, by simp, by simp, by simp, by simp [run]⟩

theorem ReadInv.grow (h : ReadInv cfg seen s) {server : Server} (more : List MessageRow) :
    ReadInv cfg seen { s with server := server, table := s.table ++ more } where
  ordered := h.ordered
  bounded r hr := (h.bounded r hr).trans (by simp)
  answered r hr := by
    show ∃ header now clock, HttpSession.answer cfg.jwt cfg.web
      (reception cfg.web ((s.table ++ more).take r.rows) r.request header now clock) = .ok r.reply
    rw [List.take_append_of_le_length (h.bounded r hr)]
    exact h.answered r hr
  connection := h.connection
  started := h.started

theorem ReadInv.accept (h : ReadInv cfg seen s) :
    ReadInv cfg seen { s with connections := s.connections ++ [HttpSession.run] } where
  ordered := h.ordered
  bounded := h.bounded
  answered := h.answered
  connection r hr := (h.connection r hr).trans (by simp)
  started i c hc := by
    rcases getElem?_append_singleton_cases hc with hc | ⟨rfl, rfl⟩
    · exact h.started i c hc
    · have hnone : seen.filter (·.connection == s.connections.length) = [] := by
        rw [List.filter_eq_nil_iff]
        intro r hr heq
        have hlt := h.connection r hr
        simp only [beq_iff_eq] at heq
        omega
      rw [hnone]
      rfl

theorem started_of_http {i : ℕ} {completion : Completion} {c c' : HttpSession.State}
    (hc : HttpSession.step cfg.jwt cfg.web c (completion.label cfg.web s.table) = some c') :
    HttpSession.started c'.events =
      HttpSession.started c.events ++ (reads cfg s (.http i completion)).map Read.reply := by
  cases completion with
  | request k r header now clock =>
    cases HttpSession.step_cases hc with
    | @request _ _ reply hk hr =>
      have hreads : (reads cfg s (.http i (.request k r header now clock))).map Read.reply =
          [reply] := by
        simp [reads, hr]
      rw [hreads, HttpSession.started_append, HttpSession.started_append]
      simp [HttpSession.Event.started?]
  | endOfStream k =>
    cases HttpSession.step_cases hc with
    | endOfStream hk => simp [reads, HttpSession.Event.started?]
  | readError k =>
    cases HttpSession.step_cases hc with
    | readError hk => simp [reads]
  | writeDone k ok =>
    cases HttpSession.step_cases hc with
    | writeError hk => simp [reads]
    | close hk => simp [reads, HttpSession.started, HttpSession.Event.started?]
    | next hk => simp [reads, HttpSession.started, HttpSession.Event.started?]

theorem mem_reads {i : ℕ} {completion : Completion} {r : Read}
    (hr : r ∈ reads cfg s (.http i completion)) :
    r.connection = i ∧ r.rows = s.table.length ∧ ∃ header now clock,
      HttpSession.answer cfg.jwt cfg.web (reception cfg.web s.table r.request header now clock) =
        .ok r.reply := by
  cases completion with
  | request k request header now clock =>
    cases ha : HttpSession.answer cfg.jwt cfg.web
      (reception cfg.web s.table request header now clock) with
    | error e => simp [reads, ha] at hr
    | ok reply =>
      obtain rfl : r = ⟨i, request, s.table.length, reply⟩ := by simpa [reads, ha] using hr
      exact ⟨rfl, rfl, header, now, clock, ha⟩
  | endOfStream k => cases hr
  | readError k => cases hr
  | writeDone k ok => cases hr

theorem reads_of_raises {i : ℕ} {completion : Completion} {c : HttpSession.State} {e : HttpError}
    (he : completion.raises cfg s.table c = some e) : reads cfg s (.http i completion) = [] := by
  cases completion with
  | request k request header now clock =>
    cases ha : HttpSession.answer cfg.jwt cfg.web
      (reception cfg.web s.table request header now clock) with
    | error e => simp [reads, ha]
    | ok reply =>
      simp only [Completion.raises, ha] at he
      split at he <;> cases he
  | endOfStream k => rfl
  | readError k => rfl
  | writeDone k ok => rfl

theorem ReadInv.http (h : ReadInv cfg seen s) {i : ℕ} {completion : Completion}
    {c c' : HttpSession.State} (hi : s.connections[i]? = some c)
    (hc : HttpSession.step cfg.jwt cfg.web c (completion.label cfg.web s.table) = some c') :
    ReadInv cfg (seen ++ reads cfg s (.http i completion))
      { s with connections := s.connections.set i c' } where
  ordered := by
    have hone : (reads cfg s (.http i completion)).Pairwise fun a b => a.rows ≤ b.rows := by
      refine List.pairwise_of_forall_mem_list fun a ha b hb => ?_
      rw [(mem_reads ha).2.1, (mem_reads hb).2.1]
    rw [List.pairwise_append]
    refine ⟨h.ordered, hone, fun a ha b hb => ?_⟩
    rw [(mem_reads hb).2.1]
    exact h.bounded a ha
  bounded r hr := by
    rcases List.mem_append.mp hr with hr | hr
    · exact h.bounded r hr
    · exact Nat.le_of_eq (mem_reads hr).2.1
  answered r hr := by
    rcases List.mem_append.mp hr with hr | hr
    · exact h.answered r hr
    · obtain ⟨-, hrows, hanswer⟩ := mem_reads hr
      rw [hrows, List.take_length]
      exact hanswer
  connection r hr := by
    rw [List.length_set]
    rcases List.mem_append.mp hr with hr | hr
    · exact h.connection r hr
    · rw [(mem_reads hr).1]
      exact (List.getElem?_eq_some_iff.mp hi).1
  started j d hd := by
    rw [List.filter_append, List.map_append]
    rcases getElem?_set_cases hd with ⟨rfl, rfl⟩ | ⟨hne, hd⟩
    · rw [started_of_http (i := j) hc, h.started j c hi]
      congr 2
      refine (List.filter_eq_self.mpr fun r hr => ?_).symm
      simp [(mem_reads hr).1]
    · have hnone : (reads cfg s (.http i completion)).filter (·.connection == j) = [] := by
        rw [List.filter_eq_nil_iff]
        intro r hr
        simpa [(mem_reads hr).1] using Ne.symm hne
      rw [hnone, h.started j d hd]
      simp

theorem ReadInv.step (h : ReadInv cfg seen s) (hs : step cfg s l = some s') :
    ReadInv cfg (seen ++ reads cfg s l) s' := by
  cases step_cases hs with
  | quiet _ _ => simpa [reads] using h.grow []
  | @create _ t _ c _ _ =>
    have hstore : store cfg.web s.table t [c] = s.table ++ [row cfg.web (c, t)] := rfl
    rw [hstore]
    simpa [reads] using h.grow [row cfg.web (c, t)]
  | accept => simpa [reads] using h.accept
  | acceptError => simpa [reads] using h
  | raise hi he =>
    rw [reads_of_raises he, List.append_nil]
    exact ⟨h.ordered, h.bounded, h.answered, h.connection, h.started⟩
  | http hi hc => exact h.http hi hc

theorem readInv_of_run {C : Backend → Label → Prop} (h : Run (step cfg) C (run cfg) ls s) :
    ReadInv cfg (observe (step cfg) (reads cfg) (run cfg) ls) s :=
  h.observed readInv_run fun _ _ _ _ hi _ hs => hi.step hs

/-- A message that was created is one that a frame has asked for. -/
def Asked (lib : Libraries) (frames : List Frame) (c : Traced Message) : Prop :=
  ∃ f, frames[c.origin]? = some f ∧ (lib.parse f.raw).text "type" = "send_message" ∧
    lib.stringGenerator ((lib.parse f.raw).text "chat_id") = some c.value.chatId ∧
    (MessageDispatcher.sendMessageEventOf f.sessionId (lib.parse f.raw)).text = c.value.content

theorem asked_of_run {C : Backend → Label → Prop} (h : Run (step cfg) C (run cfg) ls s)
    {c : Traced Message} (hc : c ∈ s.server.creates) : Asked cfg.lib s.server.frames c := by
  obtain ⟨ls', hruns⟩ := server_of_run h
  obtain ⟨event, hacc, hchat, -, htext⟩ := Server.create_stems_from_event hruns hc
  obtain ⟨f, hf, -, -, ht, rfl⟩ := (Server.logInv_of_runs hruns).sendMessage hacc
  exact ⟨f, hf, ht, hchat, htext.symm⟩

namespace Sample

def web : WebLibraries :=
  { WebSample.libraries [] with
    parse := (Svitock.Sample.libraries [Svitock.Sample.greeting]).parse
    dump := fun json =>
      if Svitock.Sample.dump json = "" then WebSample.dump json else Svitock.Sample.dump json }

def config : BackendConfig :=
  { Svitock.Sample.config [Svitock.Sample.greeting] 4 1 with
    lib := web.toLibraries
    web := web
    jwt := ⟨WebSample.secret⟩
    libraries := rfl }

def labels : List Label :=
  [.accept true, .accept true,
    .http 0 (.request 0 ⟨.get, ofString ("/chat/" ++ Svitock.Sample.chatId ++ "/messages"), [], []⟩
      ⟨11, false, false⟩ 5 (5 + ·))] ++
  (Svitock.Sample.connect 0 ++ Svitock.Sample.frame 0 Svitock.Sample.greeting ++
    List.replicate 20 (Svitock.Label.worker 0 4 0)).mapIdx (fun i l => Label.webSocket l i) ++
  [.http 1 (.request 0 ⟨.get, ofString ("/chat/" ++ Svitock.Sample.chatId ++ "/messages"), [], []⟩
      ⟨11, false, false⟩ 30 (30 + ·)), .http 1 (.writeDone 0 true)]

end Sample

end Backend

end Svitock
