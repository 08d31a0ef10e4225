import Svitock.MessageReadBack
import Svitock.Simulation
import Svitock.UserLogin

/-!
# The application

`presentation/controllers/` over the use cases of `application/use_cases/` and the tables of
`infrastructure/repositories/`: accounts, chats and messages, called one after another. What
they are for is said by `Service` below: accounts by name, chats by identifier and the
messages with the newest first.
-/

namespace Svitock

open ByteString Simulation

/-- `enum class ChatType : std::uint8_t`, which may hold any value of its type. -/
structure ChatType where
  value : UInt8
  deriving DecidableEq, Repr

def ChatType.direct : ChatType := ⟨0⟩

def ChatType.group : ChatType := ⟨1⟩

def ChatType.toInt32 (type : ChatType) : ℤ := type.value.toNat

/-- `static_cast<ChatType>` of a 32-bit integer keeps its lowest byte. -/
def ChatType.ofInt32 (n : ℤ) : ChatType := ⟨UInt8.ofNat (n % 256).toNat⟩

theorem ChatType.ofInt32_toInt32 (type : ChatType) : ofInt32 type.toInt32 = type := by
  obtain ⟨value⟩ := type
  have hlt : value.toNat < 256 := value.toNat_lt
  have hmod : ((value.toNat : ℤ) % 256).toNat = value.toNat := by omega
  simp [ofInt32, toInt32, hmod]

structure Chat where
  id : Uuid
  type : ChatType
  createdAt : ℤ
  deriving DecidableEq, Repr

structure ChatRow where
  id : String
  type : ℤ
  createdAt : ℤ
  deriving DecidableEq, Repr

namespace PostgresChatRepository

/-- The row has the time of the database, not that of the chat. -/
def create (lib : WebLibraries) (table : List ChatRow) (chat : Chat) (createdAt : ℤ) :
    List ChatRow × Bool :=
  (table ++ [⟨lib.uuidToString chat.id, chat.type.toInt32, createdAt⟩], true)

/-- The first row of the result, created at the time of the call. -/
def findById (lib : WebLibraries) (table : List ChatRow) (id : Uuid) (now : ℤ) :
    Except HttpError (Option Chat) :=
  match table.find? fun row => row.id = lib.uuidToString id with
  | none => .ok none
  | some row =>
    match lib.stringGenerator row.id with
    | none => .error .invalidUuid
    | some id => .ok (some ⟨id, .ofInt32 row.type, now⟩)

end PostgresChatRepository

/-- `execute`: the chat gets a random `id` and the time `now`. -/
def CreateChatUseCase.execute (lib : WebLibraries) (table : List ChatRow) (type : ChatType)
    (id : Uuid) (now createdAt : ℤ) : List ChatRow × Bool :=
  PostgresChatRepository.create lib table ⟨id, type, now⟩ createdAt

def GetChatHistoryUseCase.execute (lib : WebLibraries) (table : List MessageRow) (chatId : Uuid)
    (limit : ℕ) (clock : ℕ → ℤ) : Except HttpError (List StoredMessage) :=
  PostgresMessageRepository.getByChat lib table clock chatId limit

structure Application where
  users : List User
  chats : List ChatRow
  messages : List MessageRow

namespace Application

/-- A call of a controller, or of `ChatRepository::findById`, with what the random generator,
the clock and the clock of the database give on the way; the clock of a `history` is read once
for every message. -/
inductive Call
  | registerUserByPassword (username passwordHash : String) (id : Uuid) (lookedUpAt now : ℤ)
  | loginUserByPassword (username passwordHash : String) (now : ℤ)
  | createDirectChat (id : Uuid) (now createdAt : ℤ)
  | createGroupChat (id : Uuid) (now createdAt : ℤ)
  | findById (id : Uuid) (now : ℤ)
  | send (chatId senderId : Uuid) (content : Bytes) (id : Uuid) (now createdAt : ℤ)
  | history (chatId : Uuid) (limit : ℕ) (clock : ℕ → ℤ)

inductive Answer
  | bool (result : Bool)
  | chat (result : Except HttpError (Option Chat))
  | messages (result : Except HttpError (List StoredMessage))

def empty : Application := ⟨[], [], []⟩

def call (lib : WebLibraries) (s : Application) : Call → Application × Answer
  | .registerUserByPassword username passwordHash id lookedUpAt now =>
    let (users, result) := RegisterUserUseCase.executeAtOnce PostgresUserRepository.repository
      s.users username passwordHash id lookedUpAt now
    ({ s with users := users }, .bool result)
  | .loginUserByPassword username passwordHash now =>
    (s, .bool (LoginUserUseCase.execute PostgresUserRepository.repository s.users username
      passwordHash now))
  | .createDirectChat id now createdAt =>
    let (chats, result) := CreateChatUseCase.execute lib s.chats .direct id now createdAt
    ({ s with chats := chats }, .bool result)
  | .createGroupChat id now createdAt =>
    let (chats, result) := CreateChatUseCase.execute lib s.chats .group id now createdAt
    ({ s with chats := chats }, .bool result)
  | .findById id now => (s, .chat (PostgresChatRepository.findById lib s.chats id now))
  | .send chatId senderId content id now createdAt =>
    let (messages, result) := SendMessageUseCase.execute
      (fun table message => PostgresMessageRepository.create lib table message createdAt)
      s.messages chatId senderId content id now
    ({ s with messages := messages }, .bool result)
  | .history chatId limit clock =>
    (s, .messages (GetChatHistoryUseCase.execute lib s.messages chatId limit clock))

/-- The UUIDs of a call survive printing and parsing, a new chat has a new one, and the
clock of the database advances from one message to the next. -/
def Admissible (lib : WebLibraries) (s : Application) : Call → Prop
  | .createDirectChat id _ _ | .createGroupChat id _ _ =>
    StorageActor.RoundTrips lib id ∧ ∀ row ∈ s.chats, row.id ≠ lib.uuidToString id
  | .findById id _ => StorageActor.RoundTrips lib id
  | .send chatId senderId _ id _ createdAt =>
    StorageActor.RoundTrips lib id ∧ StorageActor.RoundTrips lib chatId ∧
      StorageActor.RoundTrips lib senderId ∧ ∀ row ∈ s.messages, row.createdAt < createdAt
  | .history chatId _ _ => StorageActor.RoundTrips lib chatId
  | _ => True

instance (lib : WebLibraries) (s : Application) : (k : Call) → Decidable (Admissible lib s k)
  | .registerUserByPassword .. | .loginUserByPassword .. => .isTrue trivial
  | .createDirectChat id _ _ | .createGroupChat id _ _ => inferInstanceAs (Decidable
      (StorageActor.RoundTrips lib id ∧ ∀ row ∈ s.chats, row.id ≠ lib.uuidToString id))
  | .findById id _ => inferInstanceAs (Decidable (StorageActor.RoundTrips lib id))
  | .send chatId senderId _ id _ createdAt => inferInstanceAs (Decidable
      (StorageActor.RoundTrips lib id ∧ StorageActor.RoundTrips lib chatId ∧
        StorageActor.RoundTrips lib senderId ∧ ∀ row ∈ s.messages, row.createdAt < createdAt))
  | .history chatId _ _ => inferInstanceAs (Decidable (StorageActor.RoundTrips lib chatId))

end Application

/-- Accounts by name, chats by identifier, and the messages with the newest first. -/
structure Service where
  accounts : String → Option String
  chats : Uuid → Option ChatType
  messages : List StoredMessage

namespace Service

open Application

def empty : Service := ⟨fun _ => none, fun _ => none, []⟩

/-- The times in an answer are those of the call. -/
def call (t : Service) : Application.Call → Service × Answer
  | .registerUserByPassword username passwordHash _ _ _ =>
    if username ≠ "" ∧ passwordHash ≠ "" ∧ t.accounts username = none then
      ({ t with accounts := Function.update t.accounts username (some passwordHash) }, .bool true)
    else (t, .bool false)
  | .loginUserByPassword username passwordHash _ =>
    (t, .bool (t.accounts username == some passwordHash))
  | .createDirectChat id _ _ =>
    ({ t with chats := Function.update t.chats id (some .direct) }, .bool true)
  | .createGroupChat id _ _ =>
    ({ t with chats := Function.update t.chats id (some .group) }, .bool true)
  | .findById id now => (t, .chat (.ok ((t.chats id).map fun type => ⟨id, type, now⟩)))
  | .send chatId senderId content id now _ =>
    if content = [] then (t, .bool false)
    else ({ t with messages := ⟨id, chatId, senderId, content, now⟩ :: t.messages }, .bool true)
  | .history chatId limit clock =>
    (t, .messages (.ok (((t.messages.filter fun m => m.chatId = chatId).take limit).mapIdx
      fun i m => { m with createdAt := clock i })))

end Service

namespace Application

variable {lib : WebLibraries} {s : Application} {t : Service}

/-- Names are taken once, a chat is found under its identifier with its type, and the rows of
the messages are in the order in which they were sent. -/
structure Relates (lib : WebLibraries) (s : Application) (t : Service) : Prop where
  names : (s.users.map User.username).Nodup
  accounts : ∀ username passwordHash, t.accounts username = some passwordHash ↔
    ∃ user ∈ s.users, user.username = username ∧ user.passwordHash = passwordHash
  chats : ∀ id, StorageActor.RoundTrips lib id →
    (s.chats.find? fun row => row.id = lib.uuidToString id).map (fun row => .ofInt32 row.type) =
      t.chats id
  messages : ∃ xs : List (StoredMessage × ℤ),
    s.messages = xs.map (fun x => PostgresMessageRepository.rowOf lib x.1 x.2) ∧
    t.messages = (xs.map Prod.fst).reverse ∧ xs.Pairwise (fun x y => x.2 < y.2) ∧
    ∀ x ∈ xs, PostgresMessageRepository.Printable lib x.1

theorem relates_empty (lib : WebLibraries) : Relates lib empty Service.empty :=
  ⟨.nil, by simp [empty, Service.empty], by simp [empty, Service.empty],
    [], rfl, rfl, .nil, by simp⟩

theorem uuidToString_inj {id id' : Uuid} (h : StorageActor.RoundTrips lib id)
    (h' : StorageActor.RoundTrips lib id') (heq : lib.uuidToString id = lib.uuidToString id') :
    id = id' := by
  have hsame := congrArg lib.stringGenerator heq
  rw [show _ = _ from h, show _ = _ from h'] at hsame
  exact Option.some.inj hsame

theorem Relates.accounts_none (h : Relates lib s t) (username : String) :
    t.accounts username = none ↔ ∀ user ∈ s.users, user.username ≠ username := by
  rw [Option.eq_none_iff_forall_not_mem]
  constructor
  · intro hnone user huser hname
    exact hnone user.passwordHash ((h.accounts _ _).mpr ⟨user, huser, hname, rfl⟩)
  · intro hnone passwordHash hsome
    obtain ⟨user, huser, hname, -⟩ := (h.accounts _ _).mp hsome
    exact hnone user huser hname

theorem Relates.addUser (h : Relates lib s t) (user : User)
    (hnew : ∀ other ∈ s.users, other.username ≠ user.username) :
    Relates lib { s with users := s.users ++ [user] }
      { t with accounts := Function.update t.accounts user.username (some user.passwordHash) } := by
  refine ⟨?_, fun username passwordHash => ?_, h.chats, h.messages⟩
  · rw [List.map_append, List.nodup_append]
    refine ⟨h.names, List.nodup_singleton _, ?_⟩
    intro name hname other hother
    obtain ⟨row, hrow, rfl⟩ := List.mem_map.mp hname
    obtain rfl : other = user.username := by simpa using hother
    exact hnew row hrow
  · simp only [List.mem_append, List.mem_singleton]
    by_cases hname : username = user.username
    · subst hname
      rw [Function.update_self, Option.some.injEq]
      constructor
      · rintro rfl
        exact ⟨user, .inr rfl, rfl, rfl⟩
      · rintro ⟨other, hother | rfl, hsame, rfl⟩
        · exact absurd hsame (hnew other hother)
        · rfl
    · rw [Function.update_of_ne hname, h.accounts]
      constructor
      · rintro ⟨other, hother, hrest⟩
        exact ⟨other, .inl hother, hrest⟩
      · rintro ⟨other, hother | rfl, hsame, hhash⟩
        · exact ⟨other, hother, hsame, hhash⟩
        · exact absurd hsame.symm hname

theorem Relates.register (h : Relates lib s t) (username passwordHash : String) (id : Uuid)
    (lookedUpAt now : ℤ) :
    Relates lib (call lib s (.registerUserByPassword username passwordHash id lookedUpAt now)).1
        (t.call (.registerUserByPassword username passwordHash id lookedUpAt now)).1 ∧
      (call lib s (.registerUserByPassword username passwordHash id lookedUpAt now)).2 =
        (t.call (.registerUserByPassword username passwordHash id lookedUpAt now)).2 := by
  have hnone := h.accounts_none username
  rcases @UserAccounts.executeAtOnce_cases PostgresUserRepository.repository s.users
    username passwordHash id lookedUpAt now with ⟨hrefused, hwhy⟩ | ⟨htrue, hrows, hu, hp, hnew⟩
  · have hspec : ¬ (username ≠ "" ∧ passwordHash ≠ "" ∧ t.accounts username = none) := by
      rintro ⟨hu, hp, hfree⟩
      rcases hwhy with hwhy | hwhy | ⟨user, huser, hname⟩
      · exact hu hwhy
      · exact hp hwhy
      · exact hnone.mp hfree user huser hname
    simp only [call, Service.call, hrefused, if_neg hspec]
    exact ⟨h, trivial⟩
  · have hspec : username ≠ "" ∧ passwordHash ≠ "" ∧ t.accounts username = none :=
      ⟨hu, hp, hnone.mpr hnew⟩
    have hcreated : RegisterUserUseCase.executeAtOnce PostgresUserRepository.repository s.users
        username passwordHash id lookedUpAt now =
          (s.users ++ [⟨id, username, passwordHash, now⟩], true) := Prod.ext hrows htrue
    simp only [call, Service.call, hcreated, if_pos hspec]
    exact ⟨h.addUser ⟨id, username, passwordHash, now⟩ hnew, trivial⟩

theorem Relates.login (h : Relates lib s t) (username passwordHash : String) (now : ℤ) :
    LoginUserUseCase.execute PostgresUserRepository.repository s.users username passwordHash now =
      (t.accounts username == some passwordHash) := by
  rw [Bool.eq_iff_iff, beq_iff_eq, h.accounts]
  exact @UserAccounts.login_iff PostgresUserRepository.repository ⟨s.users, []⟩ username
    passwordHash h.names now

theorem Relates.createChat (h : Relates lib s t) {type : ChatType} {id : Uuid} {now createdAt : ℤ}
    (hid : StorageActor.RoundTrips lib id) (hnew : ∀ row ∈ s.chats, row.id ≠ lib.uuidToString id) :
    Relates lib { s with chats := (CreateChatUseCase.execute lib s.chats type id now createdAt).1 }
      { t with chats := Function.update t.chats id (some type) } := by
  refine ⟨h.names, h.accounts, fun id' hid' => ?_, h.messages⟩
  simp only [CreateChatUseCase.execute, PostgresChatRepository.create]
  rw [List.find?_append]
  by_cases hsame : id' = id
  · subst hsame
    have hnone : (s.chats.find? fun row => row.id = lib.uuidToString id') = none :=
      List.find?_eq_none.mpr fun row hrow => by simpa using hnew row hrow
    simp [hnone, ChatType.ofInt32_toInt32]
  · have hne : lib.uuidToString id ≠ lib.uuidToString id' := fun heq =>
      hsame (uuidToString_inj hid hid' heq).symm
    simp [hne, Function.update_of_ne hsame, ← h.chats id' hid']

theorem Relates.findById (h : Relates lib s t) {id : Uuid} (hid : StorageActor.RoundTrips lib id)
    (now : ℤ) : PostgresChatRepository.findById lib s.chats id now =
      .ok ((t.chats id).map fun type => ⟨id, type, now⟩) := by
  rw [← h.chats id hid]
  unfold PostgresChatRepository.findById
  cases hfind : s.chats.find? fun row => row.id = lib.uuidToString id with
  | none => rfl
  | some row =>
    have hrow : row.id = lib.uuidToString id := by simpa using List.find?_some hfind
    have hread : lib.stringGenerator row.id = some id := by
      rw [hrow]
      exact hid
    simp [hread]

theorem select_eq {table : List MessageRow} (chatId : String) (limit : ℕ)
    (hsorted : table.Pairwise fun a b => a.createdAt < b.createdAt) :
    PostgresMessageRepository.select table chatId limit =
      (table.filter fun row => row.chatId = chatId).reverse.take limit := by
  rw [PostgresMessageRepository.select, insertionSort_eq_reverse]
  exact (hsorted.filter _).imp fun hlt => Int.not_le.mpr hlt

theorem Relates.history (h : Relates lib s t) {chatId : Uuid}
    (hchat : StorageActor.RoundTrips lib chatId) (limit : ℕ) (clock : ℕ → ℤ) :
    GetChatHistoryUseCase.execute lib s.messages chatId limit clock =
      .ok (((t.messages.filter fun m => m.chatId = chatId).take limit).mapIdx
        fun i m => { m with createdAt := clock i }) := by
  obtain ⟨xs, hrows, hposts, hsorted, hprint⟩ := h.messages
  have hfilter : (s.messages.filter fun row => row.chatId = lib.uuidToString chatId) =
      (xs.filter fun x => x.1.chatId = chatId).map
        (fun x => PostgresMessageRepository.rowOf lib x.1 x.2) := by
    rw [hrows, List.filter_map]
    congr 1
    refine List.filter_congr fun x hx => ?_
    have hiff : lib.uuidToString x.1.chatId = lib.uuidToString chatId ↔ x.1.chatId = chatId :=
      ⟨uuidToString_inj (hprint x hx).chatId hchat, congrArg _⟩
    simp [PostgresMessageRepository.rowOf, hiff]
  have hselect : PostgresMessageRepository.select s.messages (lib.uuidToString chatId) limit =
      ((xs.filter fun x => x.1.chatId = chatId).reverse.take limit).map
        (fun x => PostgresMessageRepository.rowOf lib x.1 x.2) := by
    rw [select_eq _ _ (by rw [hrows]; exact List.pairwise_map.mpr hsorted), hfilter,
      ← List.map_reverse, ← List.map_take]
  have hread (x : StoredMessage × ℤ)
      (hx : x ∈ (xs.filter fun x => x.1.chatId = chatId).reverse.take limit) :
      PostgresMessageRepository.Printable lib x.1 :=
    hprint x (List.mem_of_mem_filter (List.mem_reverse.mp (List.mem_of_mem_take hx)))
  have hspec : (t.messages.filter fun m => m.chatId = chatId).take limit =
      ((xs.filter fun x => x.1.chatId = chatId).reverse.take limit).map Prod.fst := by
    rw [hposts, List.filter_reverse, List.filter_map, ← List.map_reverse, ← List.map_take]
    rfl
  rw [GetChatHistoryUseCase.execute, hspec, mapIdx_of_map]
  exact PostgresMessageRepository.getByChat_of_select hselect hread clock

theorem Relates.send (h : Relates lib s t) {m : StoredMessage} {createdAt : ℤ}
    (hprint : PostgresMessageRepository.Printable lib m)
    (hclock : ∀ row ∈ s.messages, row.createdAt < createdAt) :
    Relates lib { s with messages :=
        (PostgresMessageRepository.create lib s.messages m createdAt).1 }
      { t with messages := m :: t.messages } := by
  obtain ⟨xs, hrows, hposts, hsorted, hall⟩ := h.messages
  refine ⟨h.names, h.accounts, h.chats, xs ++ [(m, createdAt)], ?_, ?_, ?_, ?_⟩
  · rw [List.map_append, ← hrows]
    rfl
  · simp [hposts]
  · rw [List.pairwise_append]
    refine ⟨hsorted, List.pairwise_singleton _ _, fun x hx y hy => ?_⟩
    obtain rfl := List.mem_singleton.mp hy
    exact hclock _ (hrows ▸ List.mem_map_of_mem hx)
  · intro x hx
    rcases List.mem_append.mp hx with hx | hx
    · exact hall x hx
    · rw [List.mem_singleton.mp hx]
      exact hprint

theorem simulates (lib : WebLibraries) :
    Simulates (call lib) Service.call (Admissible lib) (Relates lib) := by
  intro s t k h hk
  cases k with
  | registerUserByPassword username passwordHash id lookedUpAt now =>
    exact h.register username passwordHash id lookedUpAt now
  | loginUserByPassword username passwordHash now =>
    exact ⟨h, congrArg Answer.bool (h.login username passwordHash now)⟩
  | createDirectChat id now createdAt => exact ⟨h.createChat hk.1 hk.2, rfl⟩
  | createGroupChat id now createdAt => exact ⟨h.createChat hk.1 hk.2, rfl⟩
  | findById id now => exact ⟨h, congrArg Answer.chat (h.findById hk now)⟩
  | history chatId limit clock => exact ⟨h, congrArg Answer.messages (h.history hk limit clock)⟩
  | send chatId senderId content id now createdAt =>
    obtain ⟨hid, hchat, hsender, hclock⟩ := hk
    by_cases hempty : content = []
    · simp only [call, Service.call, SendMessageUseCase.execute, if_pos hempty]
      exact ⟨h, trivial⟩
    · simp only [call, Service.call, SendMessageUseCase.execute, if_neg hempty]
      exact ⟨h.send ⟨hid, hchat, hsender⟩ hclock, rfl⟩

/-- Whatever is called, in whichever order, the controllers over the three tables answer as
the service does. -/
theorem application_refines_service (lib : WebLibraries) (calls : List Call)
    (h : Admits (call lib) (Admissible lib) empty calls) :
    answers (call lib) empty calls = answers Service.call Service.empty calls :=
  ((simulates lib).run (relates_empty lib) h).2

def sampleCalls : List Call :=
  [.registerUserByPassword "ann" "x" 3 0 0, .registerUserByPassword "ann" "y" 4 1 1,
    .loginUserByPassword "ann" "x" 2, .loginUserByPassword "ann" "y" 3, .createGroupChat 1 4 4,
    .findById 1 5, .findById 2 5, .send 1 3 (ofString "hi") 4 6 7, .send 1 3 [] 5 8 9,
    .send 1 3 (ofString "there") 5 8 9, .send 1 3 (ofString "all") 6 10 11,
    .history 1 2 (20 + ·)]

theorem application_refines_service_sample :
    answers (call (WebSample.libraries [])) empty sampleCalls =
      [.bool true, .bool false, .bool true, .bool false, .bool true,
        .chat (.ok (some ⟨1, .group, 5⟩)), .chat (.ok none), .bool true, .bool false, .bool true,
        .bool true,
        .messages (.ok [⟨6, 1, 3, ofString "all", 20⟩, ⟨5, 1, 3, ofString "there", 21⟩])] := by
  rw [application_refines_service (WebSample.libraries []) sampleCalls (by decide +kernel)]
  rfl

end Application

end Svitock
