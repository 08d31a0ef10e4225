import Mathlib.Algebra.Group.Nat.Defs
import Mathlib.Data.List.Basic

/-!
# Byte strings

A `std::string` is a list of bytes. Searching gives a position or nothing, where
the library has `npos`; a substring may reach beyond the end. A text is carried
by its UTF-8 bytes. The facts below say where a search ends in a string that is
put together around a separator, which is all that a parser by separators needs.
-/

namespace ByteString

abbrev Bytes := List UInt8

section Search

variable {α : Type*} {c : α} {s a b : List α}

theorem drop_append_cons (a b : List α) : (a ++ c :: b).drop (a.length + 1) = b := by
  simp

theorem take_append_cons (a b : List α) : (a ++ c :: b).take (a.length + 1) = a ++ [c] := by
  rw [List.take_append, List.take_of_length_le (by omega)]
  simp

theorem eq_of_take_eq (h : s.take (a.length + 1) = (a ++ c :: b).take (a.length + 1)) :
    s = a ++ c :: s.drop (a.length + 1) := by
  calc s = s.take (a.length + 1) ++ s.drop (a.length + 1) := (List.take_append_drop _ _).symm
    _ = a ++ [c] ++ s.drop (a.length + 1) := by rw [h, take_append_cons]
    _ = a ++ c :: s.drop (a.length + 1) := by simp

theorem prefix_suffix_cases {p q : List α} (hp : p <+: s) (hq : q <:+ s) :
    (∃ middle, s = p ++ middle ++ q) ∨
      ∃ front overlap back, p = front ++ overlap ∧ q = overlap ++ back ∧
        s = front ++ overlap ++ back := by
  obtain ⟨back, rfl⟩ := hp
  obtain ⟨front, hs⟩ := hq
  rcases List.append_eq_append_iff.mp hs with ⟨c, rfl, rfl⟩ | ⟨c, rfl, rfl⟩
  · exact .inr ⟨front, c, back, rfl, rfl, rfl⟩
  · exact .inl ⟨c, by simp⟩

variable [DecidableEq α]

def find (c : α) : List α → Option ℕ
  | [] => none
  | b :: s => if b = c then some 0 else (find c s).map (· + 1)

def rfind (c : α) : List α → Option ℕ
  | [] => none
  | b :: s =>
    match rfind c s with
    | some i => some (i + 1)
    | none => if b = c then some 0 else none

theorem find_of_not_mem (h : c ∉ s) : find c s = none := by
  induction s with
  | nil => rfl
  | cons x s ih =>
    have hx : x ≠ c := fun hx => h (by simp [hx])
    simp [find, hx, ih fun hs => h (List.mem_cons_of_mem _ hs)]

theorem rfind_of_not_mem (h : c ∉ s) : rfind c s = none := by
  induction s with
  | nil => rfl
  | cons x s ih =>
    have hx : x ≠ c := fun hx => h (by simp [hx])
    simp [rfind, hx, ih fun hs => h (List.mem_cons_of_mem _ hs)]

theorem find_append_cons (h : c ∉ a) (b : List α) : find c (a ++ c :: b) = some a.length := by
  induction a with
  | nil => simp [find]
  | cons x a ih =>
    have hx : x ≠ c := fun hx => h (by simp [hx])
    simp [find, hx, ih fun ha => h (List.mem_cons_of_mem _ ha)]

theorem rfind_append_cons (a : List α) (h : c ∉ b) : rfind c (a ++ c :: b) = some a.length := by
  induction a with
  | nil => simp [rfind, rfind_of_not_mem h]
  | cons x a ih => simp [rfind, ih]

/-- A string that holds `c` splits at its last `c`. -/
theorem exists_rfind (h : c ∈ s) : ∃ a b, s = a ++ c :: b ∧ c ∉ b := by
  induction s with
  | nil => cases h
  | cons x s ih =>
    by_cases hs : c ∈ s
    · obtain ⟨a, b, rfl, hb⟩ := ih hs
      exact ⟨x :: a, b, rfl, hb⟩
    · obtain rfl | hc := List.mem_cons.mp h
      · exact ⟨[], s, rfl, hs⟩
      · exact absurd hc hs

/-- A string that holds `c` splits at its first `c`. -/
theorem exists_find (h : c ∈ s) : ∃ a b, s = a ++ c :: b ∧ c ∉ a := by
  obtain ⟨b, a, hs, hb⟩ := exists_rfind (List.mem_reverse.mpr h)
  refine ⟨a.reverse, b.reverse, ?_, by simpa using hb⟩
  rw [← List.reverse_reverse s, hs]
  simp

def beforeLast (c : α) (s : List α) : Option (List α) := (rfind c s).map s.take

theorem beforeLast_of_not_mem (h : c ∉ s) : beforeLast c s = none := by
  simp [beforeLast, rfind_of_not_mem h]

theorem beforeLast_append_cons (a : List α) (h : c ∉ b) : beforeLast c (a ++ c :: b) = some a := by
  simp [beforeLast, rfind_append_cons a h]

end Search

/-- `substr(pos, count)`, for a position inside the string. -/
def substr (s : Bytes) (pos count : ℕ) : Bytes := (s.drop pos).take count

/-- Subtraction of `std::size_t`. -/
def sizeSub (m n : ℕ) : ℕ := if n ≤ m then m - n else m + 2 ^ 64 - n

theorem sizeSub_of_le {m n : ℕ} (h : n ≤ m) : sizeSub m n = m - n := if_pos h

theorem substr_between (a b c : Bytes) : substr (a ++ b ++ c) a.length b.length = b := by
  simp [substr]

/-- The UTF-8 bytes of a text. -/
def ofString (s : String) : Bytes := s.toByteArray.data.toList

def toByteArray (s : Bytes) : ByteArray := ⟨s.toArray⟩

/-- The text whose bytes these are, if they are valid UTF-8. -/
def decode? (s : Bytes) : Option String := String.fromUTF8? (toByteArray s)

theorem ofString_append (s t : String) : ofString (s ++ t) = ofString s ++ ofString t := by
  simp [ofString, String.toByteArray_append]

@[simp] theorem toByteArray_ofString (s : String) : toByteArray (ofString s) = s.toByteArray := rfl

theorem decode?_ofString (s : String) : decode? (ofString s) = some s := by
  unfold decode? String.fromUTF8?
  rw [toByteArray_ofString, dif_pos s.isValidUTF8]
  rfl

theorem ofString_of_decode? {s : Bytes} {text : String} (h : decode? s = some text) :
    ofString text = s := by
  unfold decode? String.fromUTF8? at h
  split at h
  · obtain rfl := Option.some.inj h
    rfl
  · cases h

theorem ofString_ofList (l : List Char) :
    ofString (String.ofList l) = l.flatMap String.utf8EncodeChar := by
  simp [ofString, List.utf8Encode]

theorem ofString_foldl {ι : Type*} (f : ι → String) (l : List ι) (s : String) :
    ofString (l.foldl (fun text x => text ++ f x) s) =
      ofString s ++ l.flatMap fun x => ofString (f x) := by
  induction l generalizing s with
  | nil => simp
  | cons x l ih => simp [ih, ofString_append]

end ByteString
