import Svitock.HttpRouter

namespace Svitock

open ByteString

namespace HttpRouter

abbrev slash : UInt8 := 47

def IsId (id : Bytes) : Prop := id ≠ [] ∧ slash ∉ id

instance (id : Bytes) : Decidable (IsId id) := inferInstanceAs (Decidable (_ ∧ _))

/-- The endpoints of the README. -/
def Endpoint : Verb → Bytes → Prop
  | .get, target => (∃ id, IsId id ∧ target = ofString "/user/" ++ id) ∨
      ∃ id, IsId id ∧ target = ofString "/chat/" ++ id ++ ofString "/messages"
  | .post, target => target = ofString "/register" ∨ target = ofString "/login" ∨
      target = ofString "/refresh" ∨
      ∃ id, IsId id ∧ target = ofString "/chat/" ++ id ++ ofString "/message"
  | .other _, _ => False

/-- What stands in the place of `{id}` is empty or has several segments, or the slash
before it and the slash after it are the same. -/
def Loose : Verb → Bytes → Prop
  | .get, target => ∃ rest, ¬ IsId rest ∧ target = ofString "/user/" ++ rest
  | .post, target => target = ofString "/chat/message" ∨
      ∃ rest, ¬ IsId rest ∧ target = ofString "/chat/" ++ rest ++ ofString "/message"
  | .other _, _ => False

/-- The texts that `string_generator` accepts: hexadecimal digits with dashes, in
braces or not. -/
def IsUuidText (text : Bytes) : Prop :=
  text ≠ [] ∧ ∀ b ∈ text, b ∈ ofString "0123456789abcdefABCDEF-\x7b\x7d"

instance (text : Bytes) : Decidable (IsUuidText text) := inferInstanceAs (Decidable (_ ∧ _))

variable {jwt : JwtService} {lib : WebLibraries} {repository : MessageRepository} {now : ℤ}
  {request : Request} {response : Response} {target : Bytes}

theorem IsUuidText.isId {text : Bytes} (h : IsUuidText text) : IsId text := by
  refine ⟨h.1, fun hslash => ?_⟩
  have hbyte := h.2 _ hslash
  revert hbyte
  decide

theorem login_status (h : login jwt lib now request = .ok response) : response.status = .ok := by
  cases hv : (lib.parse (toByteArray request.body)).value "user_id" "" with
  | error e => simp [login, hv, Except.mapError, bind, Except.bind] at h
  | ok userId =>
    rw [login_of_value hv] at h
    rw [← Except.ok.inj h]

theorem refresh_status (h : refresh jwt lib now request = .ok response) :
    response.status ≠ .notFound := by
  cases hv : jwt.validateToken lib (bearer request.authorization) with
  | false =>
    rw [refresh_of_invalid hv] at h
    rw [← Except.ok.inj h]
    simp
  | true =>
    cases hu : JwtService.extractUserId lib (bearer request.authorization) with
    | error e => simp [refresh, hv, hu, Except.mapError, bind, Except.bind] at h
    | ok userId =>
      rw [refresh_of_valid hv hu] at h
      rw [← Except.ok.inj h]
      simp

theorem user_status (h : user lib request = .ok response) : response.status = .ok := by
  unfold user at h
  split at h
  · cases h
  · rw [← Except.ok.inj h]

theorem messages_status (h : messages lib repository request = .ok response) :
    response.status = .ok ∧ (uuid lib (chatId request.target)).isSome = true := by
  unfold messages at h
  split at h
  · cases h
  · next chat huuid =>
    refine ⟨?_, by simp [huuid]⟩
    cases hget : repository.getByChat chat 50 with
    | error e => simp [hget, bind, Except.bind] at h
    | ok stored =>
      simp only [hget, bind, Except.bind] at h
      split at h
      · cases h
      · rw [← Except.ok.inj h]

theorem overlap_cases {p q : Bytes} (hp : ofString "/chat/" <+: target) (hq : q <:+ target)
    (honly : ∀ n ≤ 6, (ofString "/chat/").drop n <+: q → n = 5 ∨ n = 6)
    (hslash : q = slash :: p) :
    (∃ middle, target = ofString "/chat/" ++ middle ++ q) ∨ target = ofString "/chat/" ++ p := by
  rcases prefix_suffix_cases hp hq with hmiddle | ⟨front, overlap, back, hchat, hback, rfl⟩
  · exact .inl hmiddle
  · have hlength : front.length ≤ 6 := by
      have htotal := congrArg List.length hchat
      have hsix : (ofString "/chat/").length = 6 := by decide
      rw [List.length_append, hsix] at htotal
      omega
    have hoverlap : (ofString "/chat/").drop front.length = overlap := by rw [hchat]; simp
    have hfront : (ofString "/chat/").take front.length = front := by rw [hchat]; simp
    rcases honly _ hlength (by rw [hoverlap, hback]; exact List.prefix_append _ _) with hn | hn
    · right
      have hone : overlap = [slash] := by rw [← hoverlap, hn]; decide
      have hp' : back = p := by
        rw [hone, hslash] at hback
        simpa using hback.symm
      rw [← hchat, hp']
    · left
      have hnone : overlap = [] := by rw [← hoverlap, hn]; decide
      refine ⟨[], ?_⟩
      rw [hback, hchat, hnone]
      simp

theorem message_cases (hp : ofString "/chat/" <+: target) (hq : ofString "/message" <:+ target) :
    target = ofString "/chat/message" ∨
      ∃ rest, target = ofString "/chat/" ++ rest ++ ofString "/message" := by
  have hoverlap : ofString "/chat/message" = ofString "/chat/" ++ ofString "message" := by decide
  rw [hoverlap]
  exact (overlap_cases hp hq (by decide) (by decide)).symm

theorem messages_cases (hp : ofString "/chat/" <+: target)
    (hq : ofString "/messages" <:+ target) :
    target = ofString "/chat/messages" ∨
      ∃ rest, target = ofString "/chat/" ++ rest ++ ofString "/messages" := by
  have hoverlap : ofString "/chat/messages" = ofString "/chat/" ++ ofString "messages" := by decide
  rw [hoverlap]
  exact (overlap_cases hp hq (by decide) (by decide)).symm

theorem endpoint_of_uuid (hp : ofString "/chat/" <+: target) (hq : ofString "/messages" <:+ target)
    (hgenerator : ∀ text, (lib.stringGenerator text).isSome = true → IsUuidText (ofString text))
    (huuid : (uuid lib (chatId target)).isSome = true) : Endpoint .get target := by
  have htext : IsUuidText (chatId target) := by
    obtain ⟨chat, hchat⟩ := Option.isSome_iff_exists.mp huuid
    obtain ⟨text, htext, hgen⟩ := Option.bind_eq_some_iff.mp hchat
    rw [← ofString_of_decode? htext]
    exact hgenerator text (by simp [hgen])
  rcases messages_cases hp hq with rfl | ⟨rest, rfl⟩
  · -- the wrapped length reaches to the end of the target, which is no UUID
    have hoverlap : ¬ IsUuidText (chatId (ofString "/chat/messages")) := by decide +kernel
    exact absurd htext hoverlap
  · rw [chatId_between] at htext
    exact .inr ⟨rest, htext.isId, rfl⟩

/-- The chat id is the text between `/chat/` and `/messages`, and its length is the
difference of the lengths. -/
structure ExtractsChat (full : Bytes) : Prop where
  length : (sizeSub (sizeSub full.length 6) 9 : ℤ) = (full.length : ℤ) - 6 - 9
  parts : full = ofString "/chat/" ++ chatId full ++ ofString "/messages"

theorem extractsChat_between (id : Bytes) :
    ExtractsChat (ofString "/chat/" ++ id ++ ofString "/messages") := by
  have hfront : (ofString "/chat/").length = 6 := by decide
  have hback : (ofString "/messages").length = 9 := by decide
  refine ⟨?_, by rw [chatId_between]⟩
  rw [chatId_length, List.length_append, List.length_append, hfront, hback]
  omega

/-- The two share a slash: the length wraps around. -/
theorem not_extractsChat_overlap : ¬ ExtractsChat (ofString "/chat/messages") := by
  intro h
  have hlength : (ofString "/chat/messages").length = 14 := by decide
  have hwrap : sizeSub (sizeSub 14 6) 9 = 2 ^ 64 - 1 := by decide
  have hdiff := h.length
  rw [hlength, hwrap] at hdiff
  omega

/-- A history is asked for under the text between the two, except where they share their
slash. -/
theorem extractsChat_iff (jwt : JwtService) (lib : WebLibraries) (repository : MessageRepository)
    (now : ℤ) (request : Request) (hm : request.method = .get)
    (hp : ofString "/chat/" <+: request.target) (hq : ofString "/messages" <:+ request.target) :
    route jwt lib repository now request = messages lib repository request ∧
      (ExtractsChat request.target ↔ request.target ≠ ofString "/chat/messages") := by
  refine ⟨route_messages hm hp hq, ?_⟩
  rcases messages_cases hp hq with h | ⟨rest, h⟩
  · rw [h]
    simp [not_extractsChat_overlap]
  · rw [h]
    refine ⟨fun hextracts heq => ?_, fun _ => extractsChat_between rest⟩
    rw [heq] at hextracts
    exact not_extractsChat_overlap hextracts

theorem extractsChat_iff_sample :
    ExtractsChat (ofString "/chat/00000000-0000-0000-0000-000000000001/messages") ∧
      chatId (ofString "/chat/00000000-0000-0000-0000-000000000001/messages") =
        ofString "00000000-0000-0000-0000-000000000001" := by
  have hiff := extractsChat_iff ⟨WebSample.secret⟩ (WebSample.libraries []) (total fun _ _ => []) 0
    ⟨.get, ofString "/chat/00000000-0000-0000-0000-000000000001/messages", [], []⟩ rfl
    (by decide) (by decide)
  exact ⟨hiff.2.mpr (by decide), by decide⟩

/-- The history of no chat: what is asked for is all that follows the shared slash, under
a length of `2 ^ 64 - 1`. -/
theorem chat_id_wraps_around :
    ofString "/chat/" <+: ofString "/chat/messages" ∧
      ofString "/messages" <:+ ofString "/chat/messages" ∧
      sizeSub (sizeSub (ofString "/chat/messages").length 6) 9 = 2 ^ 64 - 1 ∧
      chatId (ofString "/chat/messages") = ofString "messages" ∧
      route ⟨WebSample.secret⟩ (WebSample.libraries []) (total fun _ _ => []) 0
        ⟨.get, ofString "/chat/messages", [], []⟩ = .error .invalidUuid ∧
      ¬ ExtractsChat (ofString "/chat/messages") := by
  refine ⟨by decide, by decide, by decide, by decide +kernel, by decide +kernel, ?_⟩
  exact not_extractsChat_overlap

theorem endpoint_user {rest : Bytes} : Endpoint .get (ofString "/user/" ++ rest) ↔ IsId rest := by
  constructor
  · rintro (⟨id, hid, heq⟩ | ⟨id, -, heq⟩)
    · rwa [List.append_cancel_left heq]
    · have hchat : ofString "/chat/" <+: ofString "/user/" ++ rest := by
        rw [heq, List.append_assoc]
        exact List.prefix_append _ _
      exact absurd (List.prefix_append _ _) (not_user_of_chat hchat)
  · intro hid
    exact .inl ⟨rest, hid, rfl⟩

theorem loose_user {rest : Bytes} : Loose .get (ofString "/user/" ++ rest) ↔ ¬ IsId rest := by
  constructor
  · rintro ⟨id, hid, heq⟩
    rwa [List.append_cancel_left heq]
  · intro hid
    exact ⟨rest, hid, rfl⟩

theorem not_chat_of_fixed (h : target = ofString "/register" ∨ target = ofString "/login" ∨
    target = ofString "/refresh") : ¬ ofString "/chat/" <+: target := by
  rcases h with rfl | rfl | rfl <;> decide

theorem chat_of_message {rest : Bytes} :
    ofString "/chat/" <+: ofString "/chat/" ++ rest ++ ofString "/message" := by
  rw [List.append_assoc]
  exact List.prefix_append _ _

theorem endpoint_message {rest : Bytes} :
    Endpoint .post (ofString "/chat/" ++ rest ++ ofString "/message") ↔ IsId rest := by
  constructor
  · rintro (h | h | h | ⟨id, hid, heq⟩)
    · exact absurd chat_of_message (not_chat_of_fixed (.inl h))
    · exact absurd chat_of_message (not_chat_of_fixed (.inr (.inl h)))
    · exact absurd chat_of_message (not_chat_of_fixed (.inr (.inr h)))
    · rwa [List.append_cancel_left (List.append_cancel_right heq)]
  · intro hid
    exact .inr (.inr (.inr ⟨rest, hid, rfl⟩))

theorem message_ne_overlap {rest : Bytes} :
    ofString "/chat/" ++ rest ++ ofString "/message" ≠ ofString "/chat/message" := by
  intro heq
  have hlength := congrArg List.length heq
  have hfront : (ofString "/chat/").length = 6 := by decide
  have hback : (ofString "/message").length = 8 := by decide
  have hoverlap : (ofString "/chat/message").length = 13 := by decide
  rw [List.length_append, List.length_append, hfront, hback, hoverlap] at hlength
  omega

theorem loose_message {rest : Bytes} :
    Loose .post (ofString "/chat/" ++ rest ++ ofString "/message") ↔ ¬ IsId rest := by
  constructor
  · rintro (heq | ⟨id, hid, heq⟩)
    · exact absurd heq message_ne_overlap
    · rwa [List.append_cancel_left (List.append_cancel_right heq)]
  · intro hid
    exact .inr ⟨rest, hid, rfl⟩

theorem not_endpoint_overlap : ¬ Endpoint .post (ofString "/chat/message") := by
  rintro (h | h | h | ⟨id, -, heq⟩)
  · revert h; decide
  · revert h; decide
  · revert h; decide
  · exact message_ne_overlap heq.symm

theorem get_iff (hm : request.method = .get)
    (hgenerator : ∀ text, (lib.stringGenerator text).isSome = true → IsUuidText (ofString text))
    (hroute : route jwt lib repository now request = .ok response) :
    (response.status ≠ .notFound ↔ Endpoint .get request.target) ↔
      ¬ Loose .get request.target := by
  by_cases huser : ofString "/user/" <+: request.target
  · rw [route_user hm huser] at hroute
    obtain ⟨rest, hrest⟩ := huser
    rw [← hrest, endpoint_user, loose_user, user_status hroute]
    simp
  · have hloose : ¬ Loose .get request.target := by
      rintro ⟨rest, -, hrest⟩
      exact huser (hrest ▸ List.prefix_append _ _)
    by_cases hchat : ofString "/chat/" <+: request.target ∧ ofString "/messages" <:+ request.target
    · rw [route_messages hm hchat.1 hchat.2] at hroute
      -- a text that is no UUID gets no answer at all
      obtain ⟨hstatus, huuid⟩ := messages_status hroute
      have hendpoint := endpoint_of_uuid hchat.1 hchat.2 hgenerator huuid
      simp [hstatus, hendpoint, hloose]
    · have hstatus : response.status = .notFound := by
        simp only [route, hm, reduceCtorEq, false_and, if_false, true_and, huser, hchat] at hroute
        rw [← Except.ok.inj hroute]
      have hendpoint : ¬ Endpoint .get request.target := by
        rintro (⟨id, -, hid⟩ | ⟨id, -, hid⟩)
        · exact huser (hid ▸ List.prefix_append _ _)
        · refine hchat ⟨?_, hid ▸ List.suffix_append _ _⟩
          rw [hid, List.append_assoc]
          exact List.prefix_append _ _
      simp [hstatus, hendpoint, hloose]

theorem post_fixed_iff (hm : request.method = .post)
    (hroute : route jwt lib repository now request = .ok response)
    (hfixed : request.target = ofString "/register" ∨ request.target = ofString "/login" ∨
      request.target = ofString "/refresh") :
    (response.status ≠ .notFound ↔ Endpoint .post request.target) ↔
      ¬ Loose .post request.target := by
  have hloose : ¬ Loose .post request.target := by
    rintro (h | ⟨rest, -, h⟩)
    · exact not_chat_of_fixed hfixed (by rw [h]; decide)
    · exact not_chat_of_fixed hfixed (h ▸ chat_of_message)
  have hendpoint : Endpoint .post request.target := by
    rcases hfixed with h | h | h
    · exact .inl h
    · exact .inr (.inl h)
    · exact .inr (.inr (.inl h))
  have hstatus : response.status ≠ .notFound := by
    rcases hfixed with h | h | h
    · simp only [route, hm, h, true_and, if_true] at hroute
      rw [← Except.ok.inj hroute]
      simp
    · rw [route_login hm h] at hroute
      simp [login_status hroute]
    · rw [route_refresh hm h] at hroute
      exact refresh_status hroute
  simp [hstatus, hendpoint, hloose]

theorem post_iff (hm : request.method = .post)
    (hroute : route jwt lib repository now request = .ok response) :
    (response.status ≠ .notFound ↔ Endpoint .post request.target) ↔
      ¬ Loose .post request.target := by
  by_cases hfixed : request.target = ofString "/register" ∨ request.target = ofString "/login" ∨
      request.target = ofString "/refresh"
  · exact post_fixed_iff hm hroute hfixed
  · obtain ⟨hregister, hlogin, hrefresh⟩ : request.target ≠ ofString "/register" ∧
        request.target ≠ ofString "/login" ∧ request.target ≠ ofString "/refresh" := by
      simpa [not_or] using hfixed
    by_cases hchat : ofString "/chat/" <+: request.target ∧ ofString "/message" <:+ request.target
    · have hstatus : response.status = .accepted := by
        simp only [route, hm, hregister, hlogin, hrefresh, hchat, reduceCtorEq, false_and,
          and_false, if_false, true_and, and_true, if_true] at hroute
        rw [← Except.ok.inj hroute]
      rw [hstatus]
      -- both tests pass with something between them, or on the overlap
      rcases message_cases hchat.1 hchat.2 with h | ⟨rest, h⟩
      · have hloose : Loose .post (ofString "/chat/message") := .inl rfl
        simp [h, not_endpoint_overlap, hloose]
      · rw [h, endpoint_message, loose_message]
        simp
    · have hstatus : response.status = .notFound := by
        simp only [route, hm, hregister, hlogin, hrefresh, hchat, reduceCtorEq, false_and,
          and_false, if_false] at hroute
        rw [← Except.ok.inj hroute]
      have hendpoint : ¬ Endpoint .post request.target := by
        rintro (h | h | h | ⟨id, -, hid⟩)
        · exact hregister h
        · exact hlogin h
        · exact hrefresh h
        · exact hchat ⟨hid ▸ chat_of_message, hid ▸ List.suffix_append _ _⟩
      have hloose : ¬ Loose .post request.target := by
        rintro (h | ⟨rest, -, h⟩)
        · exact hchat (by rw [h]; decide)
        · exact hchat ⟨h ▸ chat_of_message, h ▸ List.suffix_append _ _⟩
      simp [hstatus, hendpoint, hloose]

/-- Requests that are answered are answered as the README says, with 404 for all but its
endpoints, except for those whose target only looks like one. -/
theorem accepts_endpoints_iff (jwt : JwtService) (lib : WebLibraries)
    (repository : MessageRepository) (now : ℤ) (request : Request) (response : Response)
    (hgenerator : ∀ text, (lib.stringGenerator text).isSome = true → IsUuidText (ofString text))
    (hroute : route jwt lib repository now request = .ok response) :
    (response.status ≠ .notFound ↔ Endpoint request.method request.target) ↔
      ¬ Loose request.method request.target := by
  cases hm : request.method with
  | get => exact get_iff hm hgenerator hroute
  | post => exact post_iff hm hroute
  | other name =>
    have hstatus : response.status = .notFound := by
      simp only [route, hm, reduceCtorEq, false_and, if_false] at hroute
      rw [← Except.ok.inj hroute]
    simp [hstatus, Endpoint, Loose]

theorem sample_isUuidText (values : List Json) (text : String)
    (h : ((WebSample.libraries values).stringGenerator text).isSome = true) :
    IsUuidText (ofString text) := by
  obtain ⟨id, hid⟩ := Option.isSome_iff_exists.mp h
  have hmem := List.mem_of_find?_eq_some hid
  have htext := List.find?_some hid
  have hall : [1, 2, 3, 4, 5, 6].all (fun id : Uuid =>
      decide (IsUuidText (ofString (WebSample.uuidToString id))) &&
        decide (IsUuidText (ofString ("0000000000000000000000000000000" ++
          String.ofList (Nat.toDigits 16 id.toNat))))) = true := by decide +kernel
  have hboth := List.all_eq_true.mp hall id hmem
  simp only [Bool.and_eq_true, decide_eq_true_eq, Bool.or_eq_true, beq_iff_eq] at hboth htext
  rcases htext with htext | htext
  · rw [htext]
    exact hboth.1
  · rw [htext]
    exact hboth.2

theorem accepts_endpoints_iff_samples :
    ¬ Loose .get (ofString "/user/7") ∧
      ((⟨.ok, "\x7b\"id\":\"7\"\x7d"⟩ : Response).status ≠ .notFound ↔
        Endpoint .get (ofString "/user/7")) ∧
      Loose .get (ofString "/user/") ∧
      ¬ ((⟨.ok, "\x7b\"id\":\"\"\x7d"⟩ : Response).status ≠ .notFound ↔
        Endpoint .get (ofString "/user/")) := by
  have hseven : ofString "/user/7" = ofString "/user/" ++ ofString "7" := by decide
  have hnone : ofString "/user/" = ofString "/user/" ++ [] := by simp
  have hstrict : ¬ Loose .get (ofString "/user/7") := by
    rw [hseven, loose_user]
    decide
  have hloose : Loose .get (ofString "/user/") := by
    rw [hnone, loose_user]
    decide
  have hiff := accepts_endpoints_iff ⟨WebSample.secret⟩ (WebSample.libraries [])
    (total fun _ _ => []) 0 ⟨.get, ofString "/user/7", [], []⟩ ⟨.ok, "\x7b\"id\":\"7\"\x7d"⟩
    (sample_isUuidText []) (by decide +kernel)
  have hempty := accepts_endpoints_iff ⟨WebSample.secret⟩ (WebSample.libraries [])
    (total fun _ _ => []) 0 ⟨.get, ofString "/user/", [], []⟩ ⟨.ok, "\x7b\"id\":\"\"\x7d"⟩
    (sample_isUuidText []) (by decide +kernel)
  exact ⟨hstrict, hiff.mpr hstrict, hloose, fun h => hempty.mp h hloose⟩

/-- A message to no chat: the slash before the identifier is also the one after it. -/
theorem message_to_no_chat_is_accepted :
    ∃ response, route ⟨WebSample.secret⟩ (WebSample.libraries []) (total fun _ _ => []) 0
        ⟨.post, ofString "/chat/message", [], []⟩ = .ok response ∧ response.status = .accepted ∧
      ¬ (response.status ≠ .notFound ↔ Endpoint .post (ofString "/chat/message")) := by
  refine ⟨⟨.accepted, "\x7b\"status\":\"queued\"\x7d"⟩, by decide +kernel, rfl, fun h => ?_⟩
  exact not_endpoint_overlap (h.mp (by decide))

end HttpRouter

end Svitock
