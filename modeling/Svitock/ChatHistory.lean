import Mathlib.Data.List.Sort
import Svitock.Actors
import Svitock.HttpRouter

/-!
# The history of a chat

`infrastructure/repositories/postgres_message_repository.cpp` between its two users.
`StorageActor` writes a row for every event it handles; `GET /chat/…/messages` reads
the latest rows of one chat. Identifiers are texts in the table: the writer and the
reader agree because both go through a UUID and back.
-/

namespace Svitock

open ByteString HttpRouter ActorRuntime

section Lists

variable {α β : Type*}

theorem orderedInsert_last {r : α → α → Prop} [DecidableRel r] {a : α} {l : List α}
    (h : ∀ b ∈ l, ¬ r a b) : l.orderedInsert r a = l ++ [a] := by
  induction l with
  | nil => rfl
  | cons b l ih =>
    obtain ⟨hb, hl⟩ := List.forall_mem_cons.mp h
    rw [List.orderedInsert_of_not_le r l hb, ih hl]
    rfl

theorem insertionSort_eq_reverse {r : α → α → Prop} [DecidableRel r] {l : List α}
    (h : l.Pairwise fun a b => ¬ r a b) : l.insertionSort r = l.reverse := by
  induction l with
  | nil => rfl
  | cons a l ih =>
    obtain ⟨ha, hl⟩ := List.pairwise_cons.mp h
    rw [List.insertionSort_cons, ih hl,
      orderedInsert_last fun b hb => ha b (List.mem_reverse.mp hb), List.reverse_cons]

theorem mapM_mapIdx_eq_some {γ : Type*} {f : β → Option γ} {g : ℕ → α → β} {k : ℕ → α → γ}
    {l : List α} (h : ∀ i, ∀ x ∈ l, f (g i x) = some (k i x)) :
    (l.mapIdx g).mapM f = some (l.mapIdx k) := by
  induction l generalizing g k with
  | nil => rfl
  | cons x l ih =>
    have hx := h 0 x List.mem_cons_self
    have hl := ih fun i y hy => h (i + 1) y (List.mem_cons_of_mem x hy)
    simp [List.mapIdx_cons, hx, hl]

theorem mapIdx_of_map {γ : Type*} (f : ℕ → β → γ) (g : α → β) (l : List α) :
    (l.map g).mapIdx f = l.mapIdx fun i x => f i (g x) := by
  refine List.ext_getElem? fun i => ?_
  simp [Function.comp_def]

theorem mapIdx_eq_map (f : α → β) (l : List α) : (l.mapIdx fun _ => f) = l.map f := by
  refine List.ext_getElem? fun i => ?_
  simp

end Lists

structure MessageRow where
  id : String
  chatId : String
  senderId : String
  content : Bytes
  createdAt : ℤ
  deriving DecidableEq

namespace PostgresMessageRepository

/-- The row has the time of the database, not that of the message. -/
def create (lib : WebLibraries) (table : List MessageRow) (message : StoredMessage) (now : ℤ) :
    List MessageRow × Bool :=
  (table ++ [⟨lib.uuidToString message.id, lib.uuidToString message.chatId,
    lib.uuidToString message.senderId, message.content, now⟩], true)

/-- `WHERE chat_id = … ORDER BY created_at DESC LIMIT …`. -/
def select (table : List MessageRow) (chatId : String) (limit : ℕ) : List MessageRow :=
  ((table.filter fun row => row.chatId = chatId).insertionSort
    fun a b => b.createdAt ≤ a.createdAt).take limit

/-- The message of a row, created at the time `now` at which the row is read. -/
def messageOf (lib : WebLibraries) (now : ℤ) (row : MessageRow) : Option StoredMessage := do
  let id ← lib.stringGenerator row.id
  let chatId ← lib.stringGenerator row.chatId
  let senderId ← lib.stringGenerator row.senderId
  return ⟨id, chatId, senderId, row.content, now⟩

/-- The clock is read anew for every row; `clock i` is its reading at row `i`. -/
def getByChat (lib : WebLibraries) (table : List MessageRow) (clock : ℕ → ℤ) (chatId : Uuid)
    (limit : ℕ) : Except HttpError (List StoredMessage) :=
  match ((select table (lib.uuidToString chatId) limit).mapIdx fun i row =>
      messageOf lib (clock i) row).mapM id with
  | none => .error .invalidUuid
  | some messages => .ok messages

def repository (lib : WebLibraries) (table : List MessageRow) (clock : ℕ → ℤ) :
    MessageRepository where
  getByChat := getByChat lib table clock

theorem getByChat_eq_ok {α : Type*} {lib : WebLibraries} {table : List MessageRow} {clock : ℕ → ℤ}
    {chatId : Uuid} {limit : ℕ} {selected : List α} {row : α → MessageRow}
    {message : ℕ → α → StoredMessage}
    (hselect : select table (lib.uuidToString chatId) limit = selected.map row)
    (hread : ∀ i, ∀ x ∈ selected, messageOf lib (clock i) (row x) = some (message i x)) :
    getByChat lib table clock chatId limit = .ok (selected.mapIdx message) := by
  have hdecoded : (selected.mapIdx fun i x => messageOf lib (clock i) (row x)).mapM id =
    some (selected.mapIdx message) := mapM_mapIdx_eq_some hread
  rw [getByChat, hselect, mapIdx_of_map, hdecoded]

end PostgresMessageRepository

namespace StorageActor

/-- An event that `StorageActor` handles, with what the random generator and the
clocks give on the way. -/
structure Handling where
  persist : StoragePersistMessage
  id : Uuid
  clock : ℤ
  createdAt : ℤ

def perform (lib : WebLibraries) (h : Handling) (table : List MessageRow) :
    Action → Except HandlerError (List MessageRow)
  | .emit (.create chatId senderId content) => .ok (PostgresMessageRepository.create lib table
      ⟨h.id, chatId, senderId, ofString content, h.clock⟩ h.createdAt).1
  | .fail e => .error e
  | _ => .ok table

def store (lib : WebLibraries) (table : List MessageRow) (h : Handling) :
    Except HandlerError (List MessageRow) :=
  (handle lib.toLibraries (.storagePersistMessage h.persist)).foldlM (perform lib h) table

def storeAll (lib : WebLibraries) (table : List MessageRow) (events : List Handling) :
    Except HandlerError (List MessageRow) :=
  events.foldlM (store lib) table

variable {lib : WebLibraries} {events : List Handling} {table : List MessageRow}

def chatOf (lib : WebLibraries) (h : Handling) : Option Uuid := lib.stringGenerator h.persist.chatId

def senderOf (lib : WebLibraries) (h : Handling) : Option Uuid :=
  lib.stringGenerator h.persist.senderId

/-- The row that an event leaves, if it leaves one. -/
def rowOf (lib : WebLibraries) (h : Handling) : MessageRow :=
  ⟨lib.uuidToString h.id, lib.uuidToString ((chatOf lib h).getD 0),
    lib.uuidToString ((senderOf lib h).getD 0), ofString h.persist.content, h.createdAt⟩

theorem store_eq_ok {h : Handling} {table' : List MessageRow}
    (hs : store lib table h = .ok table') :
    (chatOf lib h).isSome = true ∧ (senderOf lib h).isSome = true ∧
      table' = table ++ [rowOf lib h] := by
  unfold rowOf chatOf senderOf
  unfold store StorageActor.handle at hs
  cases hc : lib.stringGenerator h.persist.chatId with
  | none => simp [hc, perform] at hs
  | some chat =>
    cases hsender : lib.stringGenerator h.persist.senderId with
    | none => simp [hc, hsender, perform] at hs
    | some sender =>
      simp only [hc, hsender, List.foldlM_cons, List.foldlM_nil, perform,
        PostgresMessageRepository.create, bind_pure] at hs
      exact ⟨rfl, rfl, (Except.ok.inj hs).symm⟩

theorem storeAll_eq_ok {table' : List MessageRow} (hs : storeAll lib table events = .ok table') :
    (∀ h ∈ events, (chatOf lib h).isSome = true ∧ (senderOf lib h).isSome = true) ∧
      table' = table ++ events.map (rowOf lib) := by
  induction events generalizing table with
  | nil =>
    obtain rfl := Except.ok.inj hs
    simp
  | cons h events ih =>
    unfold storeAll at hs
    rw [List.foldlM_cons] at hs
    cases hstore : store lib table h with
    | error e =>
      rw [hstore] at hs
      cases hs
    | ok middle =>
      rw [hstore] at hs
      obtain ⟨hchat, hsender, rfl⟩ := store_eq_ok hstore
      obtain ⟨hall, rfl⟩ := ih hs
      exact ⟨List.forall_mem_cons.mpr ⟨⟨hchat, hsender⟩, hall⟩, by simp⟩

def uuidsOf (lib : WebLibraries) (h : Handling) : List Uuid :=
  h.id :: ((chatOf lib h).toList ++ (senderOf lib h).toList)

/-- `to_string` followed by `string_generator` gives a UUID back. -/
def RoundTrips (lib : WebLibraries) (id : Uuid) : Prop :=
  lib.stringGenerator (lib.uuidToString id) = some id

instance (lib : WebLibraries) (id : Uuid) : Decidable (RoundTrips lib id) :=
  inferInstanceAs (Decidable (_ = _))

def ofChat (lib : WebLibraries) (chat : Uuid) (events : List Handling) : List Handling :=
  events.filter fun h => chatOf lib h = some chat

variable {chat : Uuid}

theorem rowOf_chatId_eq_iff {h : Handling} (hsome : (chatOf lib h).isSome = true)
    (hrow : ∀ id ∈ uuidsOf lib h, RoundTrips lib id) (hchat : RoundTrips lib chat) :
    (rowOf lib h).chatId = lib.uuidToString chat ↔ chatOf lib h = some chat := by
  obtain ⟨id, hid⟩ := Option.isSome_iff_exists.mp hsome
  have htrip : RoundTrips lib id := hrow id (by simp [uuidsOf, hid])
  have hcolumn : (rowOf lib h).chatId = lib.uuidToString id := by simp [rowOf, hid]
  rw [hcolumn, hid, Option.some.injEq]
  constructor
  · intro heq
    have hsame : lib.stringGenerator (lib.uuidToString id) =
      lib.stringGenerator (lib.uuidToString chat) := congrArg _ heq
    rw [htrip, hchat] at hsame
    exact Option.some.inj hsame
  · intro heq
    rw [heq]

theorem filter_rows (hsome : ∀ h ∈ events, (chatOf lib h).isSome = true)
    (hrows : ∀ h ∈ events, ∀ id ∈ uuidsOf lib h, RoundTrips lib id) (hchat : RoundTrips lib chat) :
    (events.map (rowOf lib)).filter (fun row => row.chatId = lib.uuidToString chat) =
      (ofChat lib chat events).map (rowOf lib) := by
  rw [List.filter_map, ofChat]
  congr 1
  refine List.filter_congr fun h hh => ?_
  simp [rowOf_chatId_eq_iff (hsome h hh) (hrows h hh) hchat]

/-- The latest events of a chat, the newest first. -/
def latest (lib : WebLibraries) (chat : Uuid) (events : List Handling) : List Handling :=
  (ofChat lib chat events).reverse.take 50

theorem latest_subset : ∀ h ∈ latest lib chat events, h ∈ events := by
  intro h hh
  exact List.mem_of_mem_filter (List.mem_reverse.mp (List.mem_of_mem_take hh))

theorem select_rows (hsome : ∀ h ∈ events, (chatOf lib h).isSome = true)
    (hrows : ∀ h ∈ events, ∀ id ∈ uuidsOf lib h, RoundTrips lib id) (hchat : RoundTrips lib chat)
    (hincreasing : events.Pairwise fun a b => a.createdAt < b.createdAt) :
    PostgresMessageRepository.select (events.map (rowOf lib)) (lib.uuidToString chat) 50 =
      (latest lib chat events).map (rowOf lib) := by
  have hsorted : ((ofChat lib chat events).map (rowOf lib)).Pairwise
      fun a b => ¬ b.createdAt ≤ a.createdAt := by
    rw [List.pairwise_map]
    refine (hincreasing.filter _).imp fun hlt => ?_
    simpa [rowOf] using hlt
  rw [PostgresMessageRepository.select, filter_rows hsome hrows hchat,
    insertionSort_eq_reverse hsorted, ← List.map_reverse, latest, List.map_take]

def storedOf (lib : WebLibraries) (now : ℤ) (h : Handling) : StoredMessage :=
  ⟨h.id, (chatOf lib h).getD 0, (senderOf lib h).getD 0, ofString h.persist.content, now⟩

theorem messageOf_rowOf {now : ℤ} {h : Handling} (hchat : (chatOf lib h).isSome = true)
    (hsender : (senderOf lib h).isSome = true) (hrow : ∀ id ∈ uuidsOf lib h, RoundTrips lib id) :
    PostgresMessageRepository.messageOf lib now (rowOf lib h) = some (storedOf lib now h) := by
  obtain ⟨c, hc⟩ := Option.isSome_iff_exists.mp hchat
  obtain ⟨u, hu⟩ := Option.isSome_iff_exists.mp hsender
  have hid : lib.stringGenerator (lib.uuidToString h.id) = some h.id := hrow _ (by simp [uuidsOf])
  have hcid : lib.stringGenerator (lib.uuidToString c) = some c := hrow c (by simp [uuidsOf, hc])
  have huid : lib.stringGenerator (lib.uuidToString u) = some u := hrow u (by simp [uuidsOf, hu])
  simp [PostgresMessageRepository.messageOf, rowOf, storedOf, hc, hu, hid, hcid, huid]

def entryOf (lib : WebLibraries) (h : Handling) : Json :=
  .object [("id", .string (lib.uuidToString h.id)), ("text", .string h.persist.content)]

theorem entry_storedOf (now : ℤ) (h : Handling) :
    entry lib (storedOf lib now h) = some (entryOf lib h) := by
  simp only [entry, storedOf, decode?_ofString, Option.map_some]
  rfl

theorem chatId_target (c : String) :
    chatId (ofString ("/chat/" ++ c ++ "/messages")) = ofString c := by
  rw [ofString_append, ofString_append]
  exact chatId_between _

theorem getByChat_rows {clock : ℕ → ℤ}
    (hsome : ∀ h ∈ events, (chatOf lib h).isSome = true ∧ (senderOf lib h).isSome = true)
    (hrows : ∀ h ∈ events, ∀ id ∈ uuidsOf lib h, RoundTrips lib id) (hchat : RoundTrips lib chat)
    (hincreasing : events.Pairwise fun a b => a.createdAt < b.createdAt) :
    PostgresMessageRepository.getByChat lib (events.map (rowOf lib)) clock chat 50 =
      .ok ((latest lib chat events).mapIdx fun i h => storedOf lib (clock i) h) := by
  refine PostgresMessageRepository.getByChat_eq_ok
    (select_rows (fun h hh => (hsome h hh).1) hrows hchat hincreasing) fun i h hh => ?_
  have hmem := latest_subset h hh
  exact messageOf_rowOf (hsome h hmem).1 (hsome h hmem).2 (hrows h hmem)

/-- The response does not show when the messages were read. -/
theorem entries_stored (lib : WebLibraries) (clock : ℕ → ℤ) (events : List Handling) :
    (events.mapIdx fun i h => storedOf lib (clock i) h).mapM (entry lib) =
      some (events.map (entryOf lib)) := by
  have hentries : (events.mapIdx fun i h => storedOf lib (clock i) h).mapM (entry lib) =
      some (events.mapIdx fun _ => entryOf lib) :=
    mapM_mapIdx_eq_some fun i h _ => entry_storedOf (clock i) h
  rw [hentries, mapIdx_eq_map]

theorem latest_ids_nodup (hids : (events.map Handling.id).Nodup)
    (hrows : ∀ h ∈ events, ∀ id ∈ uuidsOf lib h, RoundTrips lib id) :
    ((latest lib chat events).map fun h => lib.uuidToString h.id).Nodup := by
  have hnodup : ((latest lib chat events).map Handling.id).Nodup := by
    have hsub : (((ofChat lib chat events).map Handling.id)).Sublist (events.map Handling.id) :=
      List.filter_sublist.map _
    have hreverse : ((ofChat lib chat events).reverse.map Handling.id).Nodup := by
      rw [List.map_reverse, List.nodup_reverse]
      exact hids.sublist hsub
    exact hreverse.sublist ((List.take_sublist _ _).map _)
  have htexts : ((latest lib chat events).map Handling.id).map lib.uuidToString =
      (latest lib chat events).map fun h => lib.uuidToString h.id := by
    simp
  rw [← htexts]
  refine hnodup.map_on fun x hx y hy hxy => ?_
  -- a UUID is read back from its text
  have htrip {z : Uuid} (hz : z ∈ (latest lib chat events).map Handling.id) : RoundTrips lib z := by
    obtain ⟨h, hh, rfl⟩ := List.mem_map.mp hz
    exact hrows h (latest_subset h hh) _ (by simp [uuidsOf])
  have hsame := congrArg lib.stringGenerator hxy
  rw [htrip hx, htrip hy] at hsame
  exact Option.some.inj hsame

/-- The history that is read of a chat, under any text of its identifier, is that of
the latest events that were handled for it. -/
theorem history_agrees (jwt : JwtService) (lib : WebLibraries) (events : List Handling)
    (table : List MessageRow) (c : String) (chat : Uuid) (now : ℤ) (clock : ℕ → ℤ)
    (body auth : Bytes)
    (hstore : storeAll lib [] events = .ok table)
    (hincreasing : events.Pairwise fun a b => a.createdAt < b.createdAt)
    (hids : (events.map Handling.id).Nodup)
    (hrows : ∀ h ∈ events, ∀ id ∈ uuidsOf lib h, RoundTrips lib id)
    (htarget : lib.stringGenerator c = some chat) (hchat : RoundTrips lib chat) :
    route jwt lib (PostgresMessageRepository.repository lib table clock) now
        ⟨.get, ofString ("/chat/" ++ c ++ "/messages"), body, auth⟩ =
          .ok ⟨.ok, lib.dump (.array ((latest lib chat events).map (entryOf lib)))⟩ ∧
      ((latest lib chat events).map (entryOf lib)).length =
        min 50 (events.countP fun h => chatOf lib h = some chat) ∧
      ((latest lib chat events).map fun h => lib.uuidToString h.id).Nodup := by
  obtain ⟨hsome, rfl⟩ := storeAll_eq_ok hstore
  refine ⟨?_, ?_, latest_ids_nodup hids hrows⟩
  · have hfront : ofString "/chat/" <+: ofString ("/chat/" ++ c ++ "/messages") := by
      rw [ofString_append, ofString_append, List.append_assoc]
      exact List.prefix_append _ _
    have hback : ofString "/messages" <:+ ofString ("/chat/" ++ c ++ "/messages") := by
      rw [ofString_append]
      exact List.suffix_append _ _
    have huuid : uuid lib (ofString c) = some chat := by
      simp [uuid, decode?_ofString, htarget]
    have hentries := entries_stored lib clock (latest lib chat events)
    rw [route_messages rfl hfront hback]
    simp only [messages, chatId_target, huuid, PostgresMessageRepository.repository,
      List.nil_append, getByChat_rows hsome hrows hchat hincreasing, bind, Except.bind, hentries]
  · simp [latest, ofChat, List.countP_eq_length_filter]

def sampleEvents : List Handling :=
  [⟨⟨WebSample.uuidToString 1, WebSample.uuidToString 3, "hi"⟩, 4, 0, 10⟩,
    ⟨⟨WebSample.uuidToString 2, WebSample.uuidToString 3, "psst"⟩, 5, 0, 11⟩,
    ⟨⟨WebSample.uuidToString 1, WebSample.uuidToString 3, "there"⟩, 6, 0, 12⟩]

theorem history_agrees_two_chats :
    storeAll (WebSample.libraries []) [] sampleEvents =
        .ok (sampleEvents.map (rowOf (WebSample.libraries []))) ∧
      route ⟨WebSample.secret⟩ (WebSample.libraries [])
        (PostgresMessageRepository.repository (WebSample.libraries [])
          (sampleEvents.map (rowOf (WebSample.libraries []))) (20 + ·)) 20
        ⟨.get, ofString ("/chat/" ++ "00000000000000000000000000000001" ++ "/messages"), [], []⟩ =
        .ok ⟨.ok, "[\x7b\"id\":\"00000000-0000-0000-0000-000000000006\",\"text\":\"there\"\x7d," ++
          "\x7b\"id\":\"00000000-0000-0000-0000-000000000004\",\"text\":\"hi\"\x7d]"⟩ := by
  have hstore : storeAll (WebSample.libraries []) [] sampleEvents =
    .ok (sampleEvents.map (rowOf (WebSample.libraries []))) := by decide +kernel
  have hrows : ∀ h ∈ sampleEvents, ∀ id ∈ uuidsOf (WebSample.libraries []) h,
      RoundTrips (WebSample.libraries []) id := by
    have hall : (sampleEvents.flatMap (uuidsOf (WebSample.libraries []))).all
      (fun id => decide (RoundTrips (WebSample.libraries []) id)) = true := by decide +kernel
    simpa using hall
  obtain ⟨hroute, -, -⟩ := history_agrees ⟨WebSample.secret⟩ (WebSample.libraries []) sampleEvents _
    "00000000000000000000000000000001" 1 20 (20 + ·) [] [] hstore (by decide) (by decide)
    hrows (by decide +kernel) (by decide +kernel)
  refine ⟨hstore, ?_⟩
  rw [hroute]
  decide +kernel

end StorageActor

end Svitock
