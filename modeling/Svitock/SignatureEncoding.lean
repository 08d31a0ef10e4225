import Mathlib.Data.Fin.VecNotation
import Svitock.JwtService

namespace Svitock

open ByteString

namespace JwtService

theorem digitChar_inj {m n : ℕ} (hm : m < 16) (hn : n < 16) (h : m.digitChar = n.digitChar) :
    m = n := by
  have hall : ∀ m < 16, ∀ n < 16, Nat.digitChar m = Nat.digitChar n → m = n := by decide
  exact hall m hm n hn h

theorem toDigits_inj {b m n : ℕ} (hb : 1 < b) (hb' : b ≤ 16)
    (h : Nat.toDigits b m = Nat.toDigits b n) : m = n := by
  -- the last digit is split off; a numeral of one digit is not one of two or more
  induction m using Nat.strong_induction_on generalizing n with
  | _ m ih =>
    by_cases hm : m < b
    · rw [Nat.toDigits_of_lt_base hm] at h
      by_cases hn : n < b
      · rw [Nat.toDigits_of_lt_base hn] at h
        exact digitChar_inj (by omega) (by omega) (List.singleton_inj.mp h)
      · rw [Nat.toDigits_of_base_le hb (by omega)] at h
        have hlength := congrArg List.length h
        simp at hlength
    · rw [Nat.toDigits_of_base_le hb (by omega)] at h
      by_cases hn : n < b
      · rw [Nat.toDigits_of_lt_base hn] at h
        have hlength := congrArg List.length h
        simp at hlength
      · rw [Nat.toDigits_of_base_le hb (n := n) (by omega)] at h
        obtain ⟨hfront, hlast⟩ := List.append_inj' h rfl
        have hdiv := ih (m / b) (Nat.div_lt_self (by omega) hb) hfront
        have hm := Nat.mod_lt m (by omega : b > 0)
        have hn := Nat.mod_lt n (by omega : b > 0)
        have hmod := digitChar_inj (by omega) (by omega) (List.singleton_inj.mp hlast)
        calc m = b * (m / b) + m % b := (Nat.div_add_mod m b).symm
          _ = b * (n / b) + n % b := by rw [hdiv, hmod]
          _ = n := Nat.div_add_mod n b

def digits (word : UInt32) : List Char := Nat.toDigits 16 word.toNat

/-- The loop of `sign` over a digest. -/
def encode (digest : Fin 5 → UInt32) : String :=
  (List.ofFn digest).foldl (fun signature part => signature ++ toHex part) ""

variable {digest other : Fin 5 → UInt32} {word : UInt32}

theorem sign_eq_encode (jwt : JwtService) (lib : WebLibraries) (data : Bytes) :
    jwt.sign lib data = encode (lib.sha1 (data ++ jwt.secret)) := rfl

theorem digits_injective : Function.Injective digits := by
  intro v w h
  exact UInt32.toNat_inj.mp (toDigits_inj (by omega) (by omega) h)

theorem length_digits_le (word : UInt32) : (digits word).length ≤ 8 := by
  apply (Nat.length_toDigits_le_iff (by omega) (by omega)).mpr
  exact word.toNat_lt

theorem length_digits_eq_iff : (digits word).length = 8 ↔ 0x10000000 ≤ word := by
  have hseven : (digits word).length ≤ 7 ↔ word.toNat < 16 ^ 7 :=
    Nat.length_toDigits_le_iff (by omega) (by omega)
  have hle := length_digits_le word
  rw [UInt32.le_iff_toNat_le]
  show (digits word).length = 8 ↔ 16 ^ 7 ≤ word.toNat
  omega

theorem toList_foldl (words : List UInt32) (front : String) :
    (words.foldl (fun signature part => signature ++ toHex part) front).toList =
      front.toList ++ (words.map digits).flatten := by
  induction words generalizing front with
  | nil => simp
  | cons word words ih =>
    rw [List.foldl_cons, ih]
    simp [toHex, digits]

theorem toList_encode : (encode digest).toList = ((List.ofFn digest).map digits).flatten := by
  rw [encode, toList_foldl]
  rfl

/-- Words with as many digits each are told apart. -/
theorem encode_inj (hlength : ∀ i, (digits (digest i)).length = (digits (other i)).length)
    (h : encode digest = encode other) : digest = other := by
  have hflat := congrArg String.toList h
  rw [toList_encode, toList_encode] at hflat
  have hwords : (List.ofFn digest).map digits = (List.ofFn other).map digits := by
    refine List.eq_iff_flatten_eq.mpr ⟨hflat, ?_⟩
    simp only [List.map_ofFn, Function.comp_def, hlength]
  exact List.ofFn_injective ((List.map_injective_iff.mpr digits_injective) hwords)

theorem length_encode : (encode digest).length =
    (digits (digest 0)).length + (digits (digest 1)).length + (digits (digest 2)).length +
      (digits (digest 3)).length + (digits (digest 4)).length := by
  rw [← String.length_toList, toList_encode]
  simp [List.ofFn_succ, Nat.add_assoc]

theorem length_encode_eq_iff :
    (encode digest).length = 40 ↔ ∀ i, (digits (digest i)).length = 8 := by
  rw [length_encode]
  constructor
  · intro h i
    -- five lengths of at most eight
    have hle := fun i => length_digits_le (digest i)
    have h0 := hle 0
    have h1 := hle 1
    have h2 := hle 2
    have h3 := hle 3
    have h4 := hle 4
    match i with
    | 0 => omega
    | 1 => omega
    | 2 => omega
    | 3 => omega
    | 4 => omega
  · intro h
    simp [h]

/-- The signature of a digest has its full length, belongs to no other digest, and is accepted
only where the data has this digest. -/
structure Faithful (digest : Fin 5 → UInt32) : Prop where
  length : (encode digest).length = 40
  injective : ∀ other, encode other = encode digest → other = digest
  accepted : ∀ (jwt : JwtService) (lib : WebLibraries) (data : Bytes),
    jwt.validateToken lib (data ++ dot :: ofString (encode digest)) = true →
      lib.sha1 (data ++ jwt.secret) = digest

/-- A signature is faithful to the digest exactly when no word of it starts with a zero. -/
theorem faithful_iff (digest : Fin 5 → UInt32) :
    Faithful digest ↔ ∀ i, 0x10000000 ≤ digest i := by
  simp only [← length_digits_eq_iff]
  refine ⟨fun h => length_encode_eq_iff.mp h.length, fun hall => ?_⟩
  have hinjective (other : Fin 5 → UInt32) (h : encode other = encode digest) : other = digest := by
    -- another digest with this text has forty digits too, so its words end where these do
    have hother : (encode other).length = 40 := by
      rw [h]
      exact length_encode_eq_iff.mpr hall
    refine encode_inj (fun i => ?_) h
    rw [hall i, length_encode_eq_iff.mp hother i]
  refine ⟨length_encode_eq_iff.mpr hall, hinjective, fun jwt lib data hvalid => ?_⟩
  have hdot : dot ∉ ofString (encode digest) := dot_not_mem_foldl _
  rw [validateToken_append_cons data hdot, sign_eq_encode] at hvalid
  have hbytes := of_decide_eq_true hvalid
  apply hinjective
  have hdecoded := congrArg decode? hbytes
  rw [decode?_ofString, decode?_ofString] at hdecoded
  exact Option.some.inj hdecoded

/-- Two digests that differ in where the zero of the second word stands. -/
theorem signatures_collide :
    encode ![0x01234567, 0x89abcdef, 0x76543210, 0xf0e1d2c3, 0x10325476] =
        encode ![0x12345678, 0x09abcdef, 0x76543210, 0xf0e1d2c3, 0x10325476] ∧
      (encode ![0x01234567, 0x89abcdef, 0x76543210, 0xf0e1d2c3, 0x10325476]).length = 39 ∧
      (![0x01234567, 0x89abcdef, 0x76543210, 0xf0e1d2c3, 0x10325476] : Fin 5 → UInt32) ≠
        ![0x12345678, 0x09abcdef, 0x76543210, 0xf0e1d2c3, 0x10325476] := by
  refine ⟨by decide +kernel, by decide +kernel, fun h => ?_⟩
  have hfirst := congrFun h 0
  exact absurd hfirst (by decide)

end JwtService

end Svitock
