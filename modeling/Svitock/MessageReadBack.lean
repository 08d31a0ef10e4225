import Svitock.ChatHistory

/-!
# Reading a message back

`infrastructure/repositories/postgres_message_repository.cpp` field by field, with
`application/use_cases/send_message_use_case.cpp` as one of its writers. The row has
the time of the database and the query does not ask for it: the time of a message
that is read is a reading of the clock, a new one for every row.
-/

namespace Svitock

open ByteString

/-- `execute`, over any repository: the message gets a random `id` and the time `now`. -/
def SendMessageUseCase.execute {σ : Type*} (create : σ → StoredMessage → σ × Bool) (store : σ)
    (chatId senderId : Uuid) (content : Bytes) (id : Uuid) (now : ℤ) : σ × Bool :=
  if content = [] then (store, false)
  else create store ⟨id, chatId, senderId, content, now⟩

namespace PostgresMessageRepository

def rowOf (lib : WebLibraries) (message : StoredMessage) (now : ℤ) : MessageRow :=
  ⟨lib.uuidToString message.id, lib.uuidToString message.chatId, lib.uuidToString message.senderId,
    message.content, now⟩

def createAll (lib : WebLibraries) (stored : List (StoredMessage × ℤ)) : List MessageRow :=
  stored.foldl (fun table message => (create lib table message.1 message.2).1) []

structure Printable (lib : WebLibraries) (message : StoredMessage) : Prop where
  id : StorageActor.RoundTrips lib message.id
  chatId : StorageActor.RoundTrips lib message.chatId
  senderId : StorageActor.RoundTrips lib message.senderId

variable {lib : WebLibraries} {stored : List (StoredMessage × ℤ)} {message other : StoredMessage}
  {storedAt otherAt now : ℤ}

theorem createAll_eq (lib : WebLibraries) (stored : List (StoredMessage × ℤ)) :
    createAll lib stored = stored.map fun message => rowOf lib message.1 message.2 := by
  have hfold (table : List MessageRow) : stored.foldl
      (fun table message => (create lib table message.1 message.2).1) table =
        table ++ stored.map fun message => rowOf lib message.1 message.2 := by
    induction stored generalizing table with
    | nil => simp
    | cons message stored ih =>
      rw [List.foldl_cons, ih]
      simp [create, rowOf]
  rw [createAll, hfold, List.nil_append]

theorem messageOf_rowOf (h : Printable lib message) (storedAt now : ℤ) :
    messageOf lib now (rowOf lib message storedAt) = some { message with createdAt := now } := by
  have hid : lib.stringGenerator (lib.uuidToString message.id) = some message.id := h.id
  have hchat : lib.stringGenerator (lib.uuidToString message.chatId) = some message.chatId :=
    h.chatId
  have hsender : lib.stringGenerator (lib.uuidToString message.senderId) = some message.senderId :=
    h.senderId
  simp [messageOf, rowOf, hid, hchat, hsender]

/-- Messages with the same row differ in their own time at most. -/
theorem eq_of_rowOf_eq (h : Printable lib message) (h' : Printable lib other)
    (heq : rowOf lib other otherAt = rowOf lib message storedAt) :
    { other with createdAt := now } = { message with createdAt := now } := by
  have hread := messageOf_rowOf h' otherAt now
  rw [heq, messageOf_rowOf h storedAt now] at hread
  exact (Option.some.inj hread).symm

theorem exists_selected (lib : WebLibraries) (stored : List (StoredMessage × ℤ)) (chatId : String)
    (limit : ℕ) : ∃ selected : List (StoredMessage × ℤ), (∀ message ∈ selected, message ∈ stored) ∧
      select (createAll lib stored) chatId limit =
        selected.map fun message => rowOf lib message.1 message.2 := by
  have hrows : ∀ row ∈ select (createAll lib stored) chatId limit,
      ∃ message ∈ stored, rowOf lib message.1 message.2 = row := by
    intro row hrow
    have hsorted := List.mem_of_mem_take hrow
    rw [List.mem_insertionSort, createAll_eq] at hsorted
    exact List.mem_map.mp (List.mem_of_mem_filter hsorted)
  generalize select (createAll lib stored) chatId limit = rows at hrows
  induction rows with
  | nil => exact ⟨[], by simp, rfl⟩
  | cons row rows ih =>
    obtain ⟨⟨message, hmem, rfl⟩, hrest⟩ := List.forall_mem_cons.mp hrows
    obtain ⟨selected, hselected, rfl⟩ := ih hrest
    exact ⟨message :: selected, List.forall_mem_cons.mpr ⟨hmem, hselected⟩, rfl⟩

theorem getByChat_of_select {table : List MessageRow} {chatId : Uuid} {limit : ℕ}
    {selected : List (StoredMessage × ℤ)}
    (hselect : select table (lib.uuidToString chatId) limit =
      selected.map fun message => rowOf lib message.1 message.2)
    (hprint : ∀ message ∈ selected, Printable lib message.1) (clock : ℕ → ℤ) :
    getByChat lib table clock chatId limit =
      .ok (selected.mapIdx fun i message => { message.1 with createdAt := clock i }) :=
  getByChat_eq_ok hselect fun i message hmem =>
    messageOf_rowOf (hprint message hmem) message.2 (clock i)

/-- A message that was stored is read back with its identifiers and its content; it is the
message itself exactly when the clock shows its own time again, and two reads of the table
agree exactly when they read the clock alike. -/
theorem read_back_iff (lib : WebLibraries) (stored : List (StoredMessage × ℤ))
    (message : StoredMessage) (storedAt : ℤ) (limit i : ℕ) (clock clock' : ℕ → ℤ)
    (hprint : ∀ message ∈ stored, Printable lib message.1) (hmem : (message, storedAt) ∈ stored)
    (hreach : (select (createAll lib stored) (lib.uuidToString message.chatId) limit)[i]? =
      some (rowOf lib message storedAt)) :
    ∃ messages messages' returned,
      getByChat lib (createAll lib stored) clock message.chatId limit = .ok messages ∧
      getByChat lib (createAll lib stored) clock' message.chatId limit = .ok messages' ∧
      messages[i]? = some returned ∧ returned.id = message.id ∧
      returned.chatId = message.chatId ∧ returned.senderId = message.senderId ∧
      returned.content = message.content ∧
      (returned = message ↔ clock i = message.createdAt) ∧
      (messages = messages' ↔ ∀ j < messages.length, clock j = clock' j) := by
  obtain ⟨selected, hsub, hselect⟩ :=
    exists_selected lib stored (lib.uuidToString message.chatId) limit
  have hread (other : StoredMessage × ℤ) (hother : other ∈ selected) : Printable lib other.1 :=
    hprint other (hsub other hother)
  refine ⟨_, _, { message with createdAt := clock i },
    getByChat_of_select hselect hread clock, getByChat_of_select hselect hread clock',
    ?_, rfl, rfl, rfl, rfl, ?_, ?_⟩
  · -- the row at this place may be that of another message, which then reads the same
    rw [hselect, List.getElem?_map] at hreach
    obtain ⟨other, hother, hrow⟩ := Option.map_eq_some_iff.mp hreach
    have hm := hprint _ hmem
    have ho := hread other (List.mem_of_getElem? hother)
    rw [List.getElem?_mapIdx, hother, Option.map_some, eq_of_rowOf_eq hm ho hrow]
  · constructor
    · intro heq
      exact congrArg StoredMessage.createdAt heq
    · intro heq
      rw [heq]
  · rw [List.mapIdx_eq_mapIdx_iff]
    simp only [StoredMessage.mk.injEq, true_and, List.length_mapIdx]

def sampleStored : List (StoredMessage × ℤ) :=
  [(⟨4, 1, 3, ofString "hi", 10⟩, 11), (⟨5, 1, 3, ofString "there", 12⟩, 12)]

theorem sample_printable :
    ∀ message ∈ sampleStored, Printable (WebSample.libraries []) message.1 := by
  have hall : sampleStored.all (fun message =>
      decide (StorageActor.RoundTrips (WebSample.libraries []) message.1.id) &&
      decide (StorageActor.RoundTrips (WebSample.libraries []) message.1.chatId) &&
      decide (StorageActor.RoundTrips (WebSample.libraries []) message.1.senderId)) = true := by
    decide +kernel
  intro message hmem
  have hmessage := List.all_eq_true.mp hall message hmem
  simp only [Bool.and_eq_true, decide_eq_true_eq] at hmessage
  exact ⟨hmessage.1.1, hmessage.1.2, hmessage.2⟩

theorem read_back_iff_sample :
    ∃ messages : List StoredMessage,
      getByChat (WebSample.libraries []) (createAll (WebSample.libraries []) sampleStored)
        (fun i => 9 + i) 1 50 = .ok messages ∧
      messages[1]? = some ⟨4, 1, 3, ofString "hi", 10⟩ := by
  obtain ⟨messages, _, returned, hread, -, hreturned, -, -, -, -, hiff, -⟩ :=
    read_back_iff (WebSample.libraries []) sampleStored ⟨4, 1, 3, ofString "hi", 10⟩ 11 50 1
      (fun i => 9 + i) (fun _ => 0) sample_printable (by decide) (by decide +kernel)
  exact ⟨messages, hread, by rw [hreturned, hiff.mpr rfl]⟩

/-- A message that is sent at the time 10 and read at the times 20 and 21. -/
theorem times_are_not_stored :
    ∃ table messages messages',
      SendMessageUseCase.execute
        (fun table message => create (WebSample.libraries []) table message 11) [] 1 3
        (ofString "hi") 4 10 = (table, true) ∧
      table = createAll (WebSample.libraries []) [(⟨4, 1, 3, ofString "hi", 10⟩, 11)] ∧
      getByChat (WebSample.libraries []) table (fun _ => 20) 1 50 = .ok messages ∧
      getByChat (WebSample.libraries []) table (fun _ => 21) 1 50 = .ok messages' ∧
      messages.map StoredMessage.id = [4] ∧
      messages ≠ [⟨4, 1, 3, ofString "hi", 10⟩] ∧ messages ≠ messages' := by
  refine ⟨_, [⟨4, 1, 3, ofString "hi", 20⟩], [⟨4, 1, 3, ofString "hi", 21⟩], rfl, rfl, ?_, ?_, rfl,
    by decide, by decide⟩
  · decide +kernel
  · decide +kernel

end PostgresMessageRepository

end Svitock
