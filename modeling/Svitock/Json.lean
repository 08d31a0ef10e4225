import Mathlib.Data.Fintype.Basic
import Mathlib.Data.Int.Notation

/-!
# JSON values

The values of `nlohmann::json` as far as the server reads and builds them. A
string holds the text of a valid UTF-8 byte string, which is what the parser
produces and what `dump` accepts. `discarded` is the result of a parse that
failed without throwing. Objects are read by key only, so the order of their
fields carries no meaning.
-/

namespace Svitock

inductive Json
  | null
  | boolean (b : Bool)
  | numberInteger (n : ℤ)
  | numberUnsigned (n : ℕ)
  | numberFloat (bits : UInt64)
  | string (s : String)
  | array (elements : List Json)
  | object (fields : List (String × Json))
  | discarded

/-- The two `type_error`s of `json.value`: 302, a value of another type, and 306,
a receiver that is not an object. -/
inductive JsonError
  | typeError302
  | typeError306
  deriving DecidableEq, Repr

namespace Json

def isObject : Json → Bool
  | object _ => true
  | _ => false

def field? : Json → String → Option Json
  | object fields, key => fields.lookup key
  | _, _ => none

/-- `json.value(key, default)` with a text default. -/
def value (json : Json) (key default : String) : Except JsonError String :=
  if json.isObject = false then .error .typeError306 else
  match json.field? key with
  | none => .ok default
  | some (string s) => .ok s
  | some _ => .error .typeError302

/-- `json.value(key, default)` with a JSON default, which takes a value of any type. -/
def valueJson (json : Json) (key : String) (default : Json) : Except JsonError Json :=
  if json.isObject = false then .error .typeError306 else .ok ((json.field? key).getD default)

def pair? : Json → Option (String × Json)
  | array [string key, v] => some (key, v)
  | _ => none

/-- A brace list: an object when every element is a two-element array that starts
with a string, an array otherwise. -/
def braces (elements : List Json) : Json :=
  match elements.mapM pair? with
  | some fields => object fields
  | none => array elements

theorem ok_of_bind {ε α β : Type} {x : Except ε α} {f : α → Except ε β} {b : β}
    (h : (x >>= f) = .ok b) : ∃ a, x = .ok a ∧ f a = .ok b := by
  cases x with
  | error e => cases h
  | ok a => exact ⟨a, rfl, h⟩

def stringOrAbsent (json : Json) (key : String) : Bool :=
  match json.field? key with
  | none => true
  | some (string _) => true
  | some _ => false

/-- The text of the field `key`, empty when it is absent or no string. -/
def text (json : Json) (key : String) : String :=
  match json.field? key with
  | some (string s) => s
  | _ => ""

theorem value_of_stringOrAbsent {json : Json} {key : String} (ho : json.isObject = true)
    (h : json.stringOrAbsent key = true) : json.value key "" = .ok (json.text key) := by
  unfold stringOrAbsent at h
  unfold value text
  rw [if_neg (by simp [ho])]
  split at h <;> simp_all

theorem value_of_mistyped {json : Json} {key : String} (ho : json.isObject = true)
    (h : json.stringOrAbsent key = false) : json.value key "" = .error .typeError302 := by
  unfold stringOrAbsent at h
  unfold value
  rw [if_neg (by simp [ho])]
  split at h <;> simp_all

theorem text_of_value {json : Json} {key s : String} (h : json.value key "" = .ok s) :
    json.text key = s := by
  unfold value at h
  unfold text
  split_ifs at h
  split at h <;> simp_all

theorem getD_of_valueJson {json v default : Json} {key : String}
    (h : json.valueJson key default = .ok v) : (json.field? key).getD default = v := by
  unfold valueJson at h
  split_ifs at h
  exact Except.ok.inj h

theorem exists_value_iff {json : Json} {key : String} :
    (∃ s, json.value key "" = .ok s) ↔ json.isObject = true ∧ json.stringOrAbsent key = true := by
  cases ho : json.isObject with
  | false => simp [value, ho]
  | true =>
    cases hk : json.stringOrAbsent key with
    | false => simp [value_of_mistyped ho hk]
    | true => simp [value_of_stringOrAbsent ho hk]

end Json

end Svitock
