import Mathlib.Algebra.Group.Int.Defs
import Svitock.ActorMessage
import Svitock.ByteString

/-!
# Tokens

`core/security/jwt_service.cpp`. A token is a header, a payload and a signature
with dots between them. The first two are JSON texts as they are, not encoded,
so the payload may hold dots of its own; the signature is made of hexadecimal
digits and the header of a fixed text, so the separators are the first and the
last dot all the same.
-/

namespace Svitock

open ByteString

/-- The third-party functions on the HTTP side. A dump that replaces writes the
text `replaceInvalid s` for a byte string `s` that need not be UTF-8; `sha1` gives
the five words of a digest. -/
structure WebLibraries extends Libraries where
  replaceInvalid : Bytes → String
  sha1 : Bytes → Fin 5 → UInt32
  uuidToString : Uuid → String

/-- What is kept of a value when its dump is parsed: whether it is an object, and
its text fields. The order of fields and the type of a number need not be. -/
structure Libraries.ParsesBack (lib : Libraries) (json : Json) : Prop where
  isObject : (lib.parse (lib.dump json).toByteArray).isObject = json.isObject
  field : ∀ key s, json.field? key = some (.string s) →
    (lib.parse (lib.dump json).toByteArray).field? key = some (.string s)

theorem Libraries.ParsesBack.of_eq {lib : Libraries} {json : Json}
    (h : lib.parse (lib.dump json).toByteArray = json) : lib.ParsesBack json :=
  ⟨by rw [h], fun _ _ => by rw [h]; exact id⟩

structure JwtService where
  secret : Bytes

namespace JwtService

abbrev dot : UInt8 := 46

/-- Lower case, without leading zeros. -/
def toHex (value : UInt32) : String := String.ofList (Nat.toDigits 16 value.toNat)

def sign (jwt : JwtService) (lib : WebLibraries) (data : Bytes) : String :=
  (List.ofFn (lib.sha1 (data ++ jwt.secret))).foldl (fun signature part => signature ++ toHex part) ""

def header : Json :=
  .braces [.braces [.string "alg", .string "HS1"], .braces [.string "typ", .string "JWT"]]

/-- The sum of the signed clock and the unsigned lifetime is unsigned. -/
def payload (lib : WebLibraries) (userId : Bytes) (ttlSeconds : ℕ) (now : ℤ) : Json :=
  .braces [.braces [.string "sub", .string (lib.replaceInvalid userId)],
    .braces [.string "iat", .numberInteger now],
    .braces [.string "exp", .numberUnsigned ((now + ttlSeconds) % 2 ^ 64).toNat]]

def issueToken (jwt : JwtService) (lib : WebLibraries) (userId : Bytes) (ttlSeconds : ℕ) (now : ℤ) :
    String :=
  let raw := lib.dump header ++ "." ++ lib.dump (payload lib userId ttlSeconds now)
  raw ++ "." ++ jwt.sign lib (ofString raw)

def validateToken (jwt : JwtService) (lib : WebLibraries) (token : Bytes) : Bool :=
  match rfind dot token with
  | none => false
  | some lastDot =>
    let data := token.take lastDot
    let signature := token.drop (lastDot + 1)
    decide (ofString (jwt.sign lib data) = signature)

def subject (lib : WebLibraries) (payloadRaw : Bytes) : Except JsonError String :=
  let payload := lib.parse (toByteArray payloadRaw)
  if payload.isObject = false then .ok "" else payload.value "sub" ""

def extractUserId (lib : WebLibraries) (token : Bytes) : Except JsonError String :=
  match find dot token, rfind dot token with
  | some firstDot, some lastDot =>
    if firstDot = lastDot then .ok ""
    else subject lib (substr token (firstDot + 1) (lastDot - firstDot - 1))
  | _, _ => .ok ""

variable {jwt : JwtService} {lib : WebLibraries}

theorem mem_toDigits {b n : ℕ} {c : Char} (hb : 1 < b) (hc : c ∈ Nat.toDigits b n) :
    ∃ d < b, c = d.digitChar := by
  induction n using Nat.strong_induction_on with
  | _ n ih =>
    by_cases hn : n < b
    · rw [Nat.toDigits_of_lt_base hn] at hc
      exact ⟨n, hn, List.mem_singleton.mp hc⟩
    · rw [Nat.toDigits_of_base_le hb (by omega)] at hc
      rcases List.mem_append.mp hc with hc | hc
      · exact ih (n / b) (Nat.div_lt_self (by omega) hb) hc
      · exact ⟨n % b, Nat.mod_lt n (by omega), List.mem_singleton.mp hc⟩

theorem dot_not_mem_toHex (value : UInt32) : dot ∉ ofString (toHex value) := by
  rw [toHex, ofString_ofList]
  intro hdot
  obtain ⟨c, hc, hdot⟩ := List.mem_flatMap.mp hdot
  obtain ⟨d, hd, rfl⟩ := mem_toDigits (by omega) hc
  have hdigits : ∀ d < 16, dot ∉ String.utf8EncodeChar (Nat.digitChar d) := by decide
  exact hdigits d hd hdot

theorem dot_not_mem_foldl (words : List UInt32) :
    dot ∉ ofString (words.foldl (fun signature part => signature ++ toHex part) "") := by
  rw [ofString_foldl]
  intro hdot
  rcases List.mem_append.mp hdot with hdot | hdot
  · cases hdot
  · obtain ⟨part, -, hdot⟩ := List.mem_flatMap.mp hdot
    exact dot_not_mem_toHex part hdot

theorem dot_not_mem_sign (data : Bytes) : dot ∉ ofString (jwt.sign lib data) :=
  dot_not_mem_foldl _

theorem validateToken_append_cons (data : Bytes) {signature : Bytes} (h : dot ∉ signature) :
    jwt.validateToken lib (data ++ dot :: signature) =
      decide (ofString (jwt.sign lib data) = signature) := by
  simp [validateToken, rfind_append_cons data h]

def payloadRaw (token : Bytes) : Option Bytes :=
  (beforeLast dot token).bind fun data => (find dot data).map fun i => data.drop (i + 1)

theorem payloadRaw_of_two_dots {front signature : Bytes} (back : Bytes) (hf : dot ∉ front)
    (hs : dot ∉ signature) : payloadRaw (front ++ dot :: back ++ dot :: signature) = some back := by
  rw [payloadRaw, beforeLast_append_cons _ hs, Option.bind_some, find_append_cons hf,
    Option.map_some, drop_append_cons]

theorem extractUserId_eq (token : Bytes) :
    extractUserId lib token = (payloadRaw token).elim (.ok "") (subject lib) := by
  by_cases hdot : dot ∈ token
  · obtain ⟨data, signature, rfl, hs⟩ := exists_rfind hdot
    by_cases hdata : dot ∈ data
    · obtain ⟨front, back, rfl, hf⟩ := exists_find hdata
      have hfind : find dot (front ++ dot :: back ++ dot :: signature) = some front.length := by
        rw [List.append_assoc]
        exact find_append_cons hf _
      have hback : substr (front ++ dot :: back ++ dot :: signature) (front.length + 1)
          ((front ++ dot :: back).length - front.length - 1) = back := by
        simp [substr]
      have hne : front.length ≠ (front ++ dot :: back).length := by simp
      rw [payloadRaw_of_two_dots back hf hs]
      simp only [extractUserId, hfind, rfind_append_cons _ hs, if_neg hne, hback, Option.elim_some]
    · -- the first dot is the last
      simp [extractUserId, payloadRaw, find_append_cons hdata, rfind_append_cons _ hs,
        beforeLast_append_cons _ hs, find_of_not_mem hdata]
  · simp [extractUserId, payloadRaw, find_of_not_mem hdot, beforeLast_of_not_mem hdot]

def data (lib : WebLibraries) (userId : Bytes) (ttlSeconds : ℕ) (now : ℤ) : Bytes :=
  ofString (lib.dump header) ++ dot :: ofString (lib.dump (payload lib userId ttlSeconds now))

variable {userId : Bytes} {ttlSeconds : ℕ} {now : ℤ}

theorem ofString_issueToken : ofString (jwt.issueToken lib userId ttlSeconds now) =
    data lib userId ttlSeconds now ++
      dot :: ofString (jwt.sign lib (data lib userId ttlSeconds now)) := by
  have hdot : ofString "." = [dot] := by decide
  have hraw : ofString (lib.dump header ++ "." ++ lib.dump (payload lib userId ttlSeconds now)) =
      data lib userId ttlSeconds now := by
    simp [data, ofString_append, hdot]
  simp only [issueToken, ofString_append, hdot] at hraw ⊢
  simp [hraw]

/-- A token that was issued is accepted at all times. -/
theorem validateToken_issueToken :
    jwt.validateToken lib (ofString (jwt.issueToken lib userId ttlSeconds now)) = true := by
  rw [ofString_issueToken, validateToken_append_cons _ (dot_not_mem_sign _)]
  exact decide_eq_true rfl

theorem payload_eq : payload lib userId ttlSeconds now =
    .object [("sub", .string (lib.replaceInvalid userId)), ("iat", .numberInteger now),
      ("exp", .numberUnsigned ((now + ttlSeconds) % 2 ^ 64).toNat)] := rfl

/-- The text of the header, which no option of the token changes. -/
def headerText : String := "\x7b\"alg\":\"HS1\",\"typ\":\"JWT\"\x7d"

theorem subject_dump {json : Json} {u : String} (ho : json.isObject = true)
    (hsub : json.field? "sub" = some (.string u)) (h : lib.ParsesBack json) :
    subject lib (ofString (lib.dump json)) = .ok u := by
  have hobject := h.isObject.trans ho
  have hfield := h.field _ _ hsub
  simp [subject, hobject, hfield, Json.value]

theorem payloadRaw_issueToken (hheader : lib.dump header = headerText) :
    payloadRaw (ofString (jwt.issueToken lib userId ttlSeconds now)) =
      some (ofString (lib.dump (payload lib userId ttlSeconds now))) := by
  have hdot : dot ∉ ofString headerText := by decide
  rw [ofString_issueToken, data, hheader]
  exact payloadRaw_of_two_dots _ hdot (dot_not_mem_sign _)

theorem extractUserId_issueToken {u : String} (hheader : lib.dump header = headerText)
    (hreplace : lib.replaceInvalid (ofString u) = u)
    (hpayload : lib.ParsesBack (payload lib (ofString u) ttlSeconds now)) :
    extractUserId lib (ofString (jwt.issueToken lib (ofString u) ttlSeconds now)) = .ok u := by
  have hsub : (payload lib (ofString u) ttlSeconds now).field? "sub" = some (.string u) := by
    simp [payload_eq, hreplace, Json.field?]
  rw [extractUserId_eq, payloadRaw_issueToken hheader, Option.elim_some]
  exact subject_dump rfl hsub hpayload

/-- With the signed part of a token that was issued only its own signature goes. -/
theorem validateToken_other_signature {other : Bytes} {i : ℕ}
    (hne : other ≠ ofString (jwt.issueToken lib userId ttlSeconds now))
    (hi : rfind dot (ofString (jwt.issueToken lib userId ttlSeconds now)) = some i)
    (htake : other.take (i + 1) =
      (ofString (jwt.issueToken lib userId ttlSeconds now)).take (i + 1))
    (hdot : dot ∉ other.drop (i + 1)) : jwt.validateToken lib other = false := by
  rw [ofString_issueToken] at hne hi htake
  rw [rfind_append_cons _ (dot_not_mem_sign _)] at hi
  obtain rfl := Option.some.inj hi
  have hother := eq_of_take_eq htake
  rw [hother, validateToken_append_cons _ hdot]
  apply decide_eq_false
  intro hsign
  rw [← hsign] at hother
  exact hne hother

end JwtService

namespace WebSample

open JwtService

def escape (s : String) : String :=
  String.ofList ((ofString s).flatMap fun b =>
    if b = 34 ∨ b = 92 then ['\\', Char.ofNat b.toNat] else [Char.ofNat b.toNat])

def member (key s : String) : String := "\"" ++ key ++ "\":\"" ++ escape s ++ "\""

def dumpObject : Json → String
  | .object [(key, .string s)] => "\x7b" ++ member key s ++ "\x7d"
  | .object [(key, .string s), (key', .string s')] =>
    "\x7b" ++ member key s ++ "," ++ member key' s' ++ "\x7d"
  | .object [(_, .string sub), (_, .numberInteger iat), (_, .numberUnsigned exp)] =>
    "\x7b\"exp\":" ++ toString exp ++ ",\"iat\":" ++ toString iat ++ "," ++ member "sub" sub ++
      "\x7d"
  | _ => ""

def dump : Json → String
  | .array elements => "[" ++ ",".intercalate (elements.map dumpObject) ++ "]"
  | json => dumpObject json

def parse (values : List Json) (raw : ByteArray) : Json :=
  (values.find? fun json => ofString (dump json) == raw.data.toList).getD .discarded

def secret : Bytes := ofString "s"

def sha1 (data : Bytes) : Fin 5 → UInt32 :=
  if data = ofString (headerText ++ ".\x7b\"exp\":3600,\"iat\":0,\"sub\":\"a.b\"\x7ds") then
    fun i => [0x11cbd14f, 0x927771ea, 0x209e1423, 0x12dc8f88, 0x3432c43d].getD i 0
  else if data = ofString (headerText ++ ".\x7b\"exp\":3610,\"iat\":10,\"sub\":\"a.b\"\x7ds") then
    fun i => [0x1522cf8d, 0xa2e55847, 0x1217f0a0, 0x1545bb54, 0xce62fa22].getD i 0
  else fun _ => 0

def uuidToString (id : Uuid) : String :=
  "00000000-0000-0000-0000-00000000000" ++ String.ofList (Nat.toDigits 16 id.toNat)

def stringGenerator (s : String) : Option Uuid :=
  [1, 2, 3, 4, 5, 6].find? fun id => ofString s == ofString (uuidToString id) ||
    ofString s == ofString
      ("0000000000000000000000000000000" ++ String.ofList (Nat.toDigits 16 id.toNat))

/-- Libraries that dump flat objects and lists of them and parse the dumps of a few values; the
digests are those of SHA-1 on the data that the runs sign. -/
def libraries (values : List Json) : WebLibraries where
  parse := parse values
  dump := dump
  stringGenerator := stringGenerator
  replaceInvalid s := (decode? s).getD "\uFFFD"
  sha1 := sha1
  uuidToString := uuidToString

theorem parse_eq {values : List Json} {json : Json} {raw : ByteArray} (i : ℕ)
    (h : values.findIdx? (fun value => ofString (dump value) == raw.data.toList) = some i)
    (hi : values[i]? = some json) : (libraries values).parse raw = json := by
  obtain ⟨hlt, hv, hbefore⟩ := List.findIdx?_eq_some_iff_getElem.mp h
  have hfind : values.find? (fun value => ofString (dump value) == raw.data.toList) =
      some json := by
    rw [List.find?_eq_some_iff_getElem]
    obtain ⟨_, rfl⟩ := List.getElem?_eq_some_iff.mp hi
    exact ⟨hv, i, hlt, rfl, by simpa using hbefore⟩
  simp [libraries, parse, hfind]

theorem parsesBack {values : List Json} {json : Json} (i : ℕ)
    (h : values.findIdx? (fun value => ofString (dump value) == ofString (dump json)) = some i)
    (hi : values[i]? = some json) : (libraries values).ParsesBack json :=
  .of_eq (parse_eq i h hi)

def oneToken : WebLibraries := libraries [payload (libraries []) (ofString "a.b") 3600 0]

end WebSample

namespace JwtService

/-- Every token that was issued is accepted and names its user, no other signature
goes with its signed part, and the subject of any string depends on its signed part
alone. -/
theorem token_round_trip (jwt : JwtService) (lib : WebLibraries) (u : String) (ttlSeconds : ℕ)
    (now : ℤ) (hheader : lib.dump header = headerText)
    (hreplace : lib.replaceInvalid (ofString u) = u)
    (hpayload : lib.ParsesBack (payload lib (ofString u) ttlSeconds now)) :
    jwt.validateToken lib (ofString (jwt.issueToken lib (ofString u) ttlSeconds now)) = true ∧
      extractUserId lib (ofString (jwt.issueToken lib (ofString u) ttlSeconds now)) = .ok u ∧
      (∀ (other : Bytes) (i : ℕ),
        other ≠ ofString (jwt.issueToken lib (ofString u) ttlSeconds now) →
        rfind dot (ofString (jwt.issueToken lib (ofString u) ttlSeconds now)) = some i →
        other.take (i + 1) =
          (ofString (jwt.issueToken lib (ofString u) ttlSeconds now)).take (i + 1) →
        dot ∉ other.drop (i + 1) → jwt.validateToken lib other = false) ∧
      ∀ a b : Bytes, beforeLast dot a = beforeLast dot b →
        extractUserId lib a = extractUserId lib b := by
  refine ⟨validateToken_issueToken, extractUserId_issueToken hheader hreplace hpayload, ?_, ?_⟩
  · intro other i
    exact validateToken_other_signature
  · intro a b hab
    rw [extractUserId_eq, extractUserId_eq, payloadRaw, payloadRaw, hab]

theorem token_round_trip_dotted_user :
    ofString (issueToken ⟨WebSample.secret⟩ WebSample.oneToken (ofString "a.b") 3600 0) =
        ofString (headerText ++ ".\x7b\"exp\":3600,\"iat\":0,\"sub\":\"a.b\"\x7d" ++
          ".11cbd14f927771ea209e142312dc8f883432c43d") ∧
      validateToken ⟨WebSample.secret⟩ WebSample.oneToken
        (ofString (issueToken ⟨WebSample.secret⟩ WebSample.oneToken (ofString "a.b") 3600 0)) =
          true ∧
      extractUserId WebSample.oneToken
        (ofString (issueToken ⟨WebSample.secret⟩ WebSample.oneToken (ofString "a.b") 3600 0)) =
          .ok "a.b" := by
  obtain ⟨hvalid, hsubject, -, -⟩ := token_round_trip ⟨WebSample.secret⟩ WebSample.oneToken "a.b"
    3600 0 (by decide +kernel) (by decide +kernel) (WebSample.parsesBack 0 (by decide +kernel) rfl)
  exact ⟨by decide +kernel, hvalid, hsubject⟩

end JwtService

end Svitock
