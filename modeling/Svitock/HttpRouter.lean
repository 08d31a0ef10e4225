import Svitock.JwtService

/-!
# The HTTP router

`infrastructure/network/http/http_router.cpp`. A route reads texts that the peer
chooses: the target, the body and the `Authorization` header are byte strings of
any content. An exception leaves `route` and, as nothing above it catches, ends
the process.
-/

namespace Svitock

open ByteString

inductive Verb
  | get
  | post
  | other (name : String)
  deriving DecidableEq, Repr

/-- A header that is missing reads as empty. -/
structure Request where
  method : Verb
  target : Bytes
  body : Bytes
  authorization : Bytes

inductive Status
  | ok
  | accepted
  | unauthorized
  | notFound
  deriving DecidableEq, Repr

structure Response where
  status : Status
  body : String
  deriving DecidableEq, Repr

/-- What escapes from `route`: the errors of `json.value`, `type_error` 316 of a dump
that meets a string which is not UTF-8, and the error of `string_generator`. -/
inductive HttpError
  | json (error : JsonError)
  | typeError316
  | invalidUuid
  deriving DecidableEq, Repr

/-- A `Message` as a repository returns it: the content is any byte string. -/
structure StoredMessage where
  id : Uuid
  chatId : Uuid
  senderId : Uuid
  content : Bytes
  createdAt : ℤ
  deriving DecidableEq

structure MessageRepository where
  getByChat : Uuid → ℕ → Except HttpError (List StoredMessage)

namespace HttpRouter

def oneField (key value : String) : Json := .braces [.braces [.string key, .string value]]

def login (jwt : JwtService) (lib : WebLibraries) (now : ℤ) (request : Request) :
    Except HttpError Response := do
  let body := lib.parse (toByteArray request.body)
  let userId ← (body.value "user_id" "").mapError .json
  return ⟨.ok, lib.dump (oneField "access_token" (jwt.issueToken lib (ofString userId) 3600 now))⟩

/-- What follows the first space of the header, all of it when there is none. -/
def bearer (auth : Bytes) : Bytes := auth.drop ((find 32 auth).elim 0 (· + 1))

def refresh (jwt : JwtService) (lib : WebLibraries) (now : ℤ) (request : Request) :
    Except HttpError Response :=
  let token := bearer request.authorization
  if jwt.validateToken lib token = false then
    return ⟨.unauthorized, lib.dump (oneField "error" "invalid token")⟩
  else do
    let userId ← (JwtService.extractUserId lib token).mapError .json
    return ⟨.ok, lib.dump (.object
      [("access_token", .string (jwt.issueToken lib (ofString userId) 3600 now))])⟩

def user (lib : WebLibraries) (request : Request) : Except HttpError Response :=
  match decode? (request.target.drop 6) with
  | none => .error .typeError316
  | some id => .ok ⟨.ok, lib.dump (oneField "id" id)⟩

/-- The text between `/chat/` and `/messages`. The length is unsigned: it wraps around
when the two overlap. -/
def chatId (full : Bytes) : Bytes := substr full 6 (sizeSub (sizeSub full.length 6) 9)

/-- `string_generator` on a byte string: a UUID is written in ASCII. -/
def uuid (lib : WebLibraries) (text : Bytes) : Option Uuid := (decode? text).bind lib.stringGenerator

/-- One element of the history, unless its content cannot be dumped. -/
def entry (lib : WebLibraries) (message : StoredMessage) : Option Json :=
  (decode? message.content).map fun text =>
    .braces [.braces [.string "id", .string (lib.uuidToString message.id)],
      .braces [.string "text", .string text]]

def messages (lib : WebLibraries) (repository : MessageRepository) (request : Request) :
    Except HttpError Response :=
  match uuid lib (chatId request.target) with
  | none => .error .invalidUuid
  | some chat => do
    let messages ← repository.getByChat chat 50
    match messages.mapM (entry lib) with
    | none => .error .typeError316
    | some out => .ok ⟨.ok, lib.dump (.array out)⟩

/-- `HttpRouter::route` at the time `now`. -/
def route (jwt : JwtService) (lib : WebLibraries) (repository : MessageRepository) (now : ℤ)
    (request : Request) : Except HttpError Response :=
  if request.method = .post ∧ request.target = ofString "/register" then
    .ok ⟨.ok, lib.dump (oneField "status" "ok")⟩
  else if request.method = .post ∧ request.target = ofString "/login" then
    login jwt lib now request
  else if request.method = .post ∧ request.target = ofString "/refresh" then
    refresh jwt lib now request
  else if request.method = .get ∧ ofString "/user/" <+: request.target then
    user lib request
  else if request.method = .get ∧ ofString "/chat/" <+: request.target ∧
      ofString "/messages" <:+ request.target then
    messages lib repository request
  else if request.method = .post ∧ ofString "/chat/" <+: request.target ∧
      ofString "/message" <:+ request.target then
    .ok ⟨.accepted, lib.dump (oneField "status" "queued")⟩
  else
    .ok ⟨.notFound, lib.dump (oneField "error" "not found")⟩

variable {jwt : JwtService} {lib : WebLibraries} {repository : MessageRepository} {now : ℤ}
  {request : Request}

theorem route_login (hm : request.method = .post) (ht : request.target = ofString "/login") :
    route jwt lib repository now request = login jwt lib now request := by
  have hregister : ofString "/login" ≠ ofString "/register" := by decide
  simp [route, hm, ht, hregister]

theorem route_refresh (hm : request.method = .post) (ht : request.target = ofString "/refresh") :
    route jwt lib repository now request = refresh jwt lib now request := by
  have hregister : ofString "/refresh" ≠ ofString "/register" := by decide
  have hlogin : ofString "/refresh" ≠ ofString "/login" := by decide
  simp [route, hm, ht, hregister, hlogin]

theorem route_user (hm : request.method = .get) (ht : ofString "/user/" <+: request.target) :
    route jwt lib repository now request = user lib request := by
  simp [route, hm, ht]

theorem not_user_of_chat {target : Bytes} (h : ofString "/chat/" <+: target) :
    ¬ ofString "/user/" <+: target := by
  intro hu
  have heq := List.prefix_of_prefix_length_le h hu (by decide)
  revert heq
  decide

theorem route_messages (hm : request.method = .get) (hc : ofString "/chat/" <+: request.target)
    (ht : ofString "/messages" <:+ request.target) :
    route jwt lib repository now request = messages lib repository request := by
  simp [route, hm, hc, ht, not_user_of_chat hc]

/-- The length does not wrap around where the two do not overlap. -/
theorem chatId_length (id : Bytes) :
    sizeSub (sizeSub (ofString "/chat/" ++ id ++ ofString "/messages").length 6) 9 = id.length := by
  have hfront : (ofString "/chat/").length = 6 := by decide
  have hback : (ofString "/messages").length = 9 := by decide
  rw [List.length_append, List.length_append, hfront, hback]
  have hinner : sizeSub (6 + id.length + 9) 6 = id.length + 9 := by
    rw [sizeSub_of_le (by omega)]
    omega
  rw [hinner, sizeSub_of_le (by omega)]
  omega

theorem chatId_between (id : Bytes) :
    chatId (ofString "/chat/" ++ id ++ ofString "/messages") = id := by
  have hfront : (ofString "/chat/").length = 6 := by decide
  rw [chatId, chatId_length, ← hfront]
  exact substr_between _ _ _

theorem login_of_value {userId : String}
    (h : (lib.parse (toByteArray request.body)).value "user_id" "" = .ok userId) :
    login jwt lib now request = .ok
      ⟨.ok, lib.dump (oneField "access_token" (jwt.issueToken lib (ofString userId) 3600 now))⟩ := by
  simp [login, h, Except.mapError, bind, Except.bind, pure, Except.pure]

theorem login_answers_iff : (∃ response, login jwt lib now request = .ok response) ↔
    (lib.parse (toByteArray request.body)).isObject = true ∧
      (lib.parse (toByteArray request.body)).stringOrAbsent "user_id" = true := by
  rw [← Json.exists_value_iff]
  cases hv : (lib.parse (toByteArray request.body)).value "user_id" "" with
  | error e => simp [login, hv, Except.mapError, bind, Except.bind]
  | ok userId => simp [login_of_value hv]

def SubjectReadable (lib : WebLibraries) (token : Bytes) : Prop :=
  ∀ raw, JwtService.payloadRaw token = some raw →
    (lib.parse (toByteArray raw)).isObject = true →
    (lib.parse (toByteArray raw)).stringOrAbsent "sub" = true

theorem extractUserId_answers_iff {token : Bytes} :
    (∃ u, JwtService.extractUserId lib token = .ok u) ↔ SubjectReadable lib token := by
  rw [JwtService.extractUserId_eq]
  unfold SubjectReadable
  cases JwtService.payloadRaw token with
  | none => simp
  | some raw =>
    cases ho : (lib.parse (toByteArray raw)).isObject with
    | false => simp [JwtService.subject, ho]
    | true => simp [JwtService.subject, ho, Json.exists_value_iff]

theorem refresh_of_invalid
    (h : jwt.validateToken lib (bearer request.authorization) = false) :
    refresh jwt lib now request =
      .ok ⟨.unauthorized, lib.dump (oneField "error" "invalid token")⟩ := by
  simp [refresh, h, pure, Except.pure]

theorem refresh_of_valid {userId : String}
    (h : jwt.validateToken lib (bearer request.authorization) = true)
    (hu : JwtService.extractUserId lib (bearer request.authorization) = .ok userId) :
    refresh jwt lib now request = .ok
      ⟨.ok, lib.dump (oneField "access_token" (jwt.issueToken lib (ofString userId) 3600 now))⟩ := by
  simp [refresh, h, hu, Except.mapError, bind, Except.bind, pure, Except.pure]
  rfl

theorem refresh_answers_iff : (∃ response, refresh jwt lib now request = .ok response) ↔
    (jwt.validateToken lib (bearer request.authorization) = true →
      SubjectReadable lib (bearer request.authorization)) := by
  rw [← extractUserId_answers_iff]
  cases hv : jwt.validateToken lib (bearer request.authorization) with
  | false => simp [refresh_of_invalid hv]
  | true =>
    cases hu : JwtService.extractUserId lib (bearer request.authorization) with
    | error e => simp [refresh, hv, hu, Except.mapError, bind, Except.bind]
    | ok userId => simp [refresh_of_valid hv hu]

theorem user_answers_iff : (∃ response, user lib request = .ok response) ↔
    (decode? (request.target.drop 6)).isSome = true := by
  unfold user
  cases decode? (request.target.drop 6) <;> simp

theorem mapM_entry_isSome (lib : WebLibraries) (stored : List StoredMessage) :
    (stored.mapM (entry lib)).isSome = true ↔
      ∀ message ∈ stored, (decode? message.content).isSome = true := by
  induction stored with
  | nil => simp
  | cons message stored ih =>
    have hentry : (entry lib message).isSome = (decode? message.content).isSome := by simp [entry]
    rw [List.forall_mem_cons, ← ih, ← hentry, List.mapM_cons]
    cases entry lib message with
    | none => simp
    | some json => cases stored.mapM (entry lib) <;> simp

def total (history : Uuid → ℕ → List StoredMessage) : MessageRepository where
  getByChat chat limit := .ok (history chat limit)

variable {history : Uuid → ℕ → List StoredMessage}

theorem messages_answers_iff : (∃ response, messages lib (total history) request = .ok response) ↔
    ∃ chat, uuid lib (chatId request.target) = some chat ∧
      ∀ message ∈ history chat 50, (decode? message.content).isSome = true := by
  unfold messages
  cases uuid lib (chatId request.target) with
  | none => simp
  | some chat =>
    simp only [total, bind, Except.bind, Option.some.injEq, exists_eq_left']
    rw [← mapM_entry_isSome lib]
    cases (history chat 50).mapM (entry lib) <;> simp

/-- The texts that the branch of a request reads have the form it reads them in. -/
structure Answerable (jwt : JwtService) (lib : WebLibraries)
    (history : Uuid → ℕ → List StoredMessage) (request : Request) : Prop where
  login : request.method = .post → request.target = ofString "/login" →
    (lib.parse (toByteArray request.body)).isObject = true ∧
      (lib.parse (toByteArray request.body)).stringOrAbsent "user_id" = true
  refresh : request.method = .post → request.target = ofString "/refresh" →
    jwt.validateToken lib (bearer request.authorization) = true →
      SubjectReadable lib (bearer request.authorization)
  user : request.method = .get → ofString "/user/" <+: request.target →
    (decode? (request.target.drop 6)).isSome = true
  messages : request.method = .get → ofString "/chat/" <+: request.target →
    ofString "/messages" <:+ request.target →
    ∃ chat, uuid lib (chatId request.target) = some chat ∧
      ∀ message ∈ history chat 50, (decode? message.content).isSome = true

/-- A request is answered exactly when the texts its branch reads are well formed. -/
theorem route_answers_iff (jwt : JwtService) (lib : WebLibraries)
    (history : Uuid → ℕ → List StoredMessage) (now : ℤ) (request : Request) :
    (∃ response, route jwt lib (total history) now request = .ok response) ↔
      Answerable jwt lib history request := by
  constructor
  · intro h
    refine ⟨fun hm ht => ?_, fun hm ht => ?_, fun hm ht => ?_, fun hm hc ht => ?_⟩
    · rw [route_login hm ht] at h
      exact login_answers_iff.mp h
    · rw [route_refresh hm ht] at h
      exact refresh_answers_iff.mp h
    · rw [route_user hm ht] at h
      exact user_answers_iff.mp h
    · rw [route_messages hm hc ht] at h
      exact messages_answers_iff.mp h
  · intro h
    unfold route
    split_ifs with hregister hlogin hrefresh huser hmessages hmessage
    · exact ⟨_, rfl⟩
    · exact login_answers_iff.mpr (h.login hlogin.1 hlogin.2)
    · exact refresh_answers_iff.mpr (h.refresh hrefresh.1 hrefresh.2)
    · exact user_answers_iff.mpr (h.user huser.1 huser.2)
    · exact messages_answers_iff.mpr (h.messages hmessages.1 hmessages.2.1 hmessages.2.2)
    · exact ⟨_, rfl⟩
    · exact ⟨_, rfl⟩

theorem login_without_json_raises :
    route ⟨WebSample.secret⟩ (WebSample.libraries []) (total fun _ _ => []) 0
        ⟨.post, ofString "/login", ofString "hello", []⟩ = .error (.json .typeError306) ∧
      ¬ ∃ response, route ⟨WebSample.secret⟩ (WebSample.libraries []) (total fun _ _ => []) 0
        ⟨.post, ofString "/login", ofString "hello", []⟩ = .ok response := by
  have herror : route ⟨WebSample.secret⟩ (WebSample.libraries []) (total fun _ _ => []) 0
      ⟨.post, ofString "/login", ofString "hello", []⟩ = .error (.json .typeError306) := by
    rw [route_login rfl rfl]
    rfl
  refine ⟨herror, fun h => ?_⟩
  obtain ⟨response, hresponse⟩ := h
  rw [herror] at hresponse
  cases hresponse

end HttpRouter

end Svitock
