import Svitock.HttpRouter

/-!
# Chains of tokens

A client logs in and then refreshes, each time with the token of the response
before. The subject survives any number of refreshes at any times, whatever the
user is called. So does the token: `validateToken` does not look at the clock, so
a token that was issued is good for ever.
-/

namespace Svitock

open ByteString HttpRouter JwtService

namespace Client

def loginRequest (body : Bytes) : Request := ⟨.post, ofString "/login", body, []⟩

def refreshRequest (token body : Bytes) : Request :=
  ⟨.post, ofString "/refresh", body, ofString "Bearer " ++ token⟩

def accessToken (lib : WebLibraries) (response : Response) : Bytes :=
  ofString ((lib.parse response.body.toByteArray).text "access_token")

/-- The responses to refreshes at the given times with the given bodies, starting from
the token in `last`. -/
def refreshes (jwt : JwtService) (lib : WebLibraries) (repository : MessageRepository) :
    Response → List (ℤ × Bytes) → Except HttpError (List Response)
  | _, [] => .ok []
  | last, (now, body) :: rest => do
    let response ← route jwt lib repository now (refreshRequest (accessToken lib last) body)
    let responses ← refreshes jwt lib repository response rest
    return response :: responses

def session (jwt : JwtService) (lib : WebLibraries) (repository : MessageRepository) (now : ℤ)
    (body : Bytes) (rest : List (ℤ × Bytes)) : Except HttpError (List Response) := do
  let response ← route jwt lib repository now (loginRequest body)
  let responses ← refreshes jwt lib repository response rest
  return response :: responses

variable {jwt : JwtService} {lib : WebLibraries} {repository : MessageRepository} {u : String}

theorem bearer_append (token : Bytes) : bearer (ofString "Bearer " ++ token) = token := by
  have hsplit : ofString "Bearer " ++ token = ofString "Bearer" ++ 32 :: token := by
    rw [show ofString "Bearer " = ofString "Bearer" ++ [32] from by decide, List.append_assoc]
    rfl
  have hspace : (32 : UInt8) ∉ ofString "Bearer" := by decide
  rw [hsplit, bearer, find_append_cons hspace, Option.elim_some, drop_append_cons]

structure Grants (jwt : JwtService) (lib : WebLibraries) (u : String) (response : Response) :
    Prop where
  status : response.status = .ok
  valid : jwt.validateToken lib (accessToken lib response) = true
  subject : extractUserId lib (accessToken lib response) = .ok u

def granted (jwt : JwtService) (lib : WebLibraries) (u : String) (now : ℤ) : Response :=
  ⟨.ok, lib.dump (oneField "access_token" (jwt.issueToken lib (ofString u) 3600 now))⟩

/-- What the parser has to give back at the time `now`: the payload of a token for `u`,
and the response that carries it. -/
structure ReadableAt (jwt : JwtService) (lib : WebLibraries) (u : String) (now : ℤ) : Prop where
  payload : lib.ParsesBack (payload lib (ofString u) 3600 now)
  response : lib.ParsesBack (oneField "access_token" (jwt.issueToken lib (ofString u) 3600 now))

theorem accessToken_dump {token : String} (status : Status)
    (h : lib.ParsesBack (oneField "access_token" token)) :
    accessToken lib ⟨status, lib.dump (oneField "access_token" token)⟩ = ofString token := by
  have hfield := h.field "access_token" token rfl
  simp [accessToken, Json.text, hfield]

theorem granted_grants {now : ℤ} (hheader : lib.dump header = headerText)
    (hreplace : lib.replaceInvalid (ofString u) = u) (h : ReadableAt jwt lib u now) :
    Grants jwt lib u (granted jwt lib u now) := by
  have htoken := accessToken_dump .ok h.response
  refine ⟨rfl, ?_, ?_⟩
  · rw [granted, htoken]
    exact validateToken_issueToken
  · rw [granted, htoken]
    exact extractUserId_issueToken hheader hreplace h.payload

theorem route_loginRequest {now : ℤ} {body : Bytes}
    (ho : (lib.parse (toByteArray body)).isObject = true)
    (hu : (lib.parse (toByteArray body)).field? "user_id" = some (.string u)) :
    route jwt lib repository now (loginRequest body) = .ok (granted jwt lib u now) := by
  have hvalue : (lib.parse (toByteArray body)).value "user_id" "" = .ok u := by
    simp [Json.value, ho, hu]
  rw [route_login rfl rfl]
  exact login_of_value hvalue

theorem route_refreshRequest {now : ℤ} {token body : Bytes}
    (hvalid : jwt.validateToken lib token = true) (hsubject : extractUserId lib token = .ok u) :
    route jwt lib repository now (refreshRequest token body) = .ok (granted jwt lib u now) := by
  have hb : bearer (refreshRequest token body).authorization = token := bearer_append token
  rw [route_refresh rfl rfl]
  exact refresh_of_valid (by rw [hb]; exact hvalid) (by rw [hb]; exact hsubject)

theorem refreshes_grant (repository : MessageRepository) {last : Response} {rest : List (ℤ × Bytes)}
    (hheader : lib.dump header = headerText) (hreplace : lib.replaceInvalid (ofString u) = u)
    (hlast : Grants jwt lib u last) (hrest : ∀ r ∈ rest, ReadableAt jwt lib u r.1) :
    ∃ responses, refreshes jwt lib repository last rest = .ok responses ∧
      responses.length = rest.length ∧ ∀ response ∈ responses, Grants jwt lib u response := by
  induction rest generalizing last with
  | nil => exact ⟨[], rfl, rfl, by simp⟩
  | cons r rest ih =>
    obtain ⟨now, body⟩ := r
    have hgrants := granted_grants hheader hreplace (hrest (now, body) (by simp))
    obtain ⟨responses, hresponses, hlength, hall⟩ :=
      ih hgrants fun r hr => hrest r (List.mem_cons_of_mem _ hr)
    refine ⟨granted jwt lib u now :: responses, ?_, by simp [hlength], ?_⟩
    · simp only [refreshes, route_refreshRequest hlast.valid hlast.subject, bind, Except.bind,
        hresponses]
      rfl
    · exact List.forall_mem_cons.mpr ⟨hgrants, hall⟩

/-- A login and any number of refreshes are all answered with a valid token for the
user who logged in. -/
theorem session_keeps_subject (jwt : JwtService) (lib : WebLibraries)
    (repository : MessageRepository) (u : String) (now : ℤ) (body : Bytes)
    (rest : List (ℤ × Bytes)) (hheader : lib.dump header = headerText)
    (hreplace : lib.replaceInvalid (ofString u) = u)
    (hobject : (lib.parse (toByteArray body)).isObject = true)
    (huser : (lib.parse (toByteArray body)).field? "user_id" = some (.string u))
    (hreadable : ∀ t ∈ now :: rest.map Prod.fst, ReadableAt jwt lib u t) :
    ∃ responses, session jwt lib repository now body rest = .ok responses ∧
      responses.length = rest.length + 1 ∧
      ∀ response ∈ responses, response.status = .ok ∧
        jwt.validateToken lib (accessToken lib response) = true ∧
        extractUserId lib (accessToken lib response) = .ok u := by
  obtain ⟨hnow, hrest⟩ := List.forall_mem_cons.mp hreadable
  have hgrants := granted_grants hheader hreplace hnow
  obtain ⟨responses, hresponses, hlength, hall⟩ := refreshes_grant repository hheader
    hreplace hgrants fun r hr => hrest r.1 (List.mem_map_of_mem hr)
  refine ⟨granted jwt lib u now :: responses, ?_, by simp [hlength], ?_⟩
  · simp only [session, route_loginRequest hobject huser, bind, Except.bind, hresponses]
    rfl
  · intro response hr
    have h := List.forall_mem_cons.mpr ⟨hgrants, hall⟩ response hr
    exact ⟨h.status, h.valid, h.subject⟩

def sampleLibraries : WebLibraries :=
  WebSample.libraries ([0, 10].map (payload (WebSample.libraries []) (ofString "a.b") 3600) ++
    [oneField "user_id" "a.b"] ++
    [0, 10].map fun now => oneField "access_token"
      (issueToken ⟨WebSample.secret⟩ (WebSample.libraries []) (ofString "a.b") 3600 now))

theorem session_keeps_subject_dotted_user :
    ∃ responses, session ⟨WebSample.secret⟩ sampleLibraries (total fun _ _ => []) 0
        (ofString "\x7b\"user_id\":\"a.b\"\x7d") [(10, [])] = .ok responses ∧
      responses.length = 2 ∧
      ∀ response ∈ responses, response.status = .ok ∧
        validateToken ⟨WebSample.secret⟩ sampleLibraries (accessToken sampleLibraries response) =
          true ∧
        extractUserId sampleLibraries (accessToken sampleLibraries response) = .ok "a.b" := by
  have hbody : sampleLibraries.parse (toByteArray (ofString "\x7b\"user_id\":\"a.b\"\x7d")) =
    oneField "user_id" "a.b" := WebSample.parse_eq 2 (by decide +kernel) rfl
  refine session_keeps_subject ⟨WebSample.secret⟩ sampleLibraries (total fun _ _ => []) "a.b" 0 _
    [(10, [])] (by decide +kernel) (by decide +kernel) (by rw [hbody]; rfl) (by rw [hbody]; rfl) ?_
  intro t ht
  obtain rfl | rfl : t = 0 ∨ t = 10 := by simpa using ht
  · exact ⟨WebSample.parsesBack 0 (by decide +kernel) rfl,
      WebSample.parsesBack 3 (by decide +kernel) rfl⟩
  · exact ⟨WebSample.parsesBack 1 (by decide +kernel) rfl,
      WebSample.parsesBack 4 (by decide +kernel) rfl⟩

/-- From its expiry on, a token that was issued at `issuedAt` is rejected. -/
def ExpiryEnforced (jwt : JwtService) (lib : WebLibraries) (repository : MessageRepository)
    (userId : Bytes) (ttlSeconds : ℕ) (issuedAt : ℤ) : Prop :=
  ∀ now, issuedAt + ttlSeconds ≤ now →
    jwt.validateToken lib (ofString (jwt.issueToken lib userId ttlSeconds issuedAt)) = false ∧
    ∀ body, ∃ response, route jwt lib repository now (refreshRequest
        (ofString (jwt.issueToken lib userId ttlSeconds issuedAt)) body) = .ok response ∧
      response.status = .unauthorized

theorem status_of_refresh {now : ℤ} {token body : Bytes} {response : Response}
    (hvalid : jwt.validateToken lib token = true)
    (h : route jwt lib repository now (refreshRequest token body) = .ok response) :
    response.status = .ok := by
  have hb : bearer (refreshRequest token body).authorization = token := bearer_append token
  have hanswered : ∃ r, refresh jwt lib now (refreshRequest token body) = .ok r := by
    rw [route_refresh rfl rfl] at h
    exact ⟨response, h⟩
  rw [refresh_answers_iff, hb] at hanswered
  obtain ⟨u, hu⟩ := extractUserId_answers_iff.mpr (hanswered hvalid)
  rw [route_refreshRequest hvalid hu] at h
  obtain rfl := Except.ok.inj h
  rfl

/-- The expiry that a token names is never enforced: at every time the token is valid,
and a refresh with it that is answered succeeds. -/
theorem expiry_never_enforced (jwt : JwtService) (lib : WebLibraries)
    (repository : MessageRepository) (userId : Bytes) (ttlSeconds : ℕ) (issuedAt : ℤ) :
    ¬ ExpiryEnforced jwt lib repository userId ttlSeconds issuedAt ∧
      jwt.validateToken lib (ofString (jwt.issueToken lib userId ttlSeconds issuedAt)) = true ∧
      ∀ (now : ℤ) (body : Bytes) (response : Response),
        route jwt lib repository now (refreshRequest
          (ofString (jwt.issueToken lib userId ttlSeconds issuedAt)) body) = .ok response →
        response.status = .ok := by
  refine ⟨?_, validateToken_issueToken, ?_⟩
  · intro h
    obtain ⟨hinvalid, -⟩ := h (issuedAt + ttlSeconds) le_rfl
    rw [validateToken_issueToken] at hinvalid
    cases hinvalid
  · intro now body response h
    exact status_of_refresh validateToken_issueToken h

/-- An hour's token, a day later. -/
theorem expired_token_is_refreshed :
    (∃ response, route ⟨WebSample.secret⟩ sampleLibraries (total fun _ _ => []) 86400
        (refreshRequest (ofString (issueToken ⟨WebSample.secret⟩ sampleLibraries
          (ofString "a.b") 3600 0)) []) = .ok response ∧ response.status = .ok) ∧
      ¬ ExpiryEnforced ⟨WebSample.secret⟩ sampleLibraries (total fun _ _ => []) (ofString "a.b")
        3600 0 := by
  constructor
  · exact ⟨_, route_refreshRequest validateToken_issueToken
      (extractUserId_issueToken (by decide +kernel) (by decide +kernel)
        (WebSample.parsesBack 0 (by decide +kernel) rfl)), rfl⟩
  · intro h
    obtain ⟨hinvalid, -⟩ := h 86400 (by decide)
    rw [validateToken_issueToken] at hinvalid
    cases hinvalid

end Client

end Svitock
