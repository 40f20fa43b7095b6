import Mathlib.Algebra.Group.Nat.Defs
import Mathlib.Tactic.SplitIfs

/-!
# The order of texts and the order of their bytes

Texts are compared by their characters. Their encodings in UTF-8, compared byte by byte, stand in
the same order. An encoding is a first byte, which tells how many bytes follow, and in these the
digits of the code point to the base 64. A greater code point has a greater first byte, or else the
same and greater digits, so two encodings differ first where the code points decide, and the rest
of a text has no say in it.
-/

namespace TlsListener.Text

/-- The bytes of a text in UTF-8. -/
def utf8 (s : String) : List UInt8 :=
  s.toUTF8.data.toList

theorem utf8_eq_flatMap (s : String) : utf8 s = s.toList.flatMap String.utf8EncodeChar := by
  rw [utf8, String.toUTF8_eq_toByteArray, ← String.utf8Encode_toList, List.utf8Encode]
  simp

/-- The number of bytes that follow the first in the encoding of a code point. -/
def followers (n : Nat) : Nat :=
  if n ≤ 0x7F then 0 else if n ≤ 0x7FF then 1 else if n ≤ 0xFFFF then 2 else 3

/-- The first byte in the encoding of a code point. -/
def firstByte (n : Nat) : Nat :=
  if n ≤ 0x7F then n else if n ≤ 0x7FF then n / 64 + 0xC0
  else if n ≤ 0xFFFF then n / 4096 + 0xE0 else n / 262144 + 0xF0

/-- The last digits of a code point to the base 64, as bytes that follow the first. -/
def lastDigits (n : Nat) : Nat → List UInt8
  | 0 => []
  | count + 1 => UInt8.ofNat (n / 64 ^ count % 64 + 0x80) :: lastDigits n count

theorem toNat_val_lt (c : Char) : c.val.toNat < 0x110000 := by
  rcases c.valid with low | high
  · exact Nat.lt_trans low (by decide)
  · exact high.2

theorem utf8EncodeChar_eq (c : Char) :
    String.utf8EncodeChar c =
      UInt8.ofNat (firstByte c.val.toNat) ::
        lastDigits c.val.toNat (followers c.val.toNat) := by
  have bound := toNat_val_lt c
  simp only [String.utf8EncodeChar, firstByte, followers]
  generalize c.val.toNat = n at bound ⊢
  split
  · rfl
  · split
    · have digit : n / 64 % 32 = n / 64 := Nat.mod_eq_of_lt (by omega)
      simp [lastDigits, digit]
    · split
      · have digit : n / 4096 % 16 = n / 4096 := Nat.mod_eq_of_lt (by omega)
        simp [lastDigits, digit]
      · have digit : n / 262144 % 8 = n / 262144 := Nat.mod_eq_of_lt (by omega)
        simp [lastDigits, digit]

/-- Bytes are compared as the numbers that they are. -/
theorem ofNat_cons_lt {m n : Nat} {xs ys : List UInt8} (hm : m < 256) (hn : n < 256)
    (h : m < n ∨ m = n ∧ xs < ys) : UInt8.ofNat m :: xs < UInt8.ofNat n :: ys := by
  rw [List.cons_lt_cons_iff]
  rcases h with less | ⟨rfl, rest⟩
  · refine .inl (UInt8.lt_iff_toNat_lt.mpr ?_)
    rwa [UInt8.toNat_ofNat', UInt8.toNat_ofNat', Nat.mod_eq_of_lt hm, Nat.mod_eq_of_lt hn]
  · exact .inr ⟨rfl, rest⟩

theorem lastDigits_append_lt {m n count : Nat} (h : m % 64 ^ count < n % 64 ^ count)
    (xs ys : List UInt8) : lastDigits m count ++ xs < lastDigits n count ++ ys := by
  induction count with
  | zero => simp [Nat.mod_one] at h
  | succ count ih =>
      rw [lastDigits, lastDigits, List.cons_append, List.cons_append]
      refine ofNat_cons_lt (by omega) (by omega) ?_
      rw [Nat.pow_succ, Nat.mod_mul, Nat.mod_mul] at h
      rcases Nat.lt_trichotomy (m / 64 ^ count % 64) (n / 64 ^ count % 64) with less | same | more
      · exact .inl (by omega)
      · rw [same] at h
        exact .inr ⟨by rw [same], ih (by omega)⟩
      · have upper : n % 64 ^ count < 64 ^ count := Nat.mod_lt _ (Nat.pow_pos (by decide))
        have step : 64 ^ count * (n / 64 ^ count % 64 + 1) ≤ 64 ^ count * (m / 64 ^ count % 64) :=
          Nat.mul_le_mul_left _ more
        rw [Nat.mul_add] at step
        omega

/-- A smaller code point has a smaller first byte, or smaller digits after the same. -/
theorem firstByte_lt {m n : Nat} (less : m < n) :
    firstByte m < firstByte n ∨ firstByte m = firstByte n ∧ followers m = followers n ∧
      m % 64 ^ followers m < n % 64 ^ followers n := by
  simp only [firstByte, followers]
  split_ifs <;> omega

/-- A smaller character has a smaller encoding, whatever comes after it. -/
theorem utf8EncodeChar_append_lt {c d : Char} (h : c < d) (xs ys : List UInt8) :
    String.utf8EncodeChar c ++ xs < String.utf8EncodeChar d ++ ys := by
  have less : c.val.toNat < d.val.toNat := h
  have byte (e : Char) : firstByte e.val.toNat < 256 := by
    have bound := toNat_val_lt e
    simp only [firstByte]
    split_ifs <;> omega
  rw [utf8EncodeChar_eq, utf8EncodeChar_eq, List.cons_append, List.cons_append]
  refine ofNat_cons_lt (byte c) (byte d) ?_
  rcases firstByte_lt less with less | ⟨same, count, digits⟩
  · exact .inl less
  · rw [← count] at digits ⊢
    exact .inr ⟨same, lastDigits_append_lt digits xs ys⟩

/-- The bytes of texts stand in the order of the texts. -/
theorem utf8_lt_of_lt {s t : String} (h : s < t) : utf8 s < utf8 t := by
  rw [utf8_eq_flatMap, utf8_eq_flatMap]
  have h : List.Lex (· < ·) s.toList t.toList := h
  generalize s.toList = cs, t.toList = ds at h ⊢
  induction h with
  | @nil d ds =>
      rw [List.flatMap_nil, List.flatMap_cons, utf8EncodeChar_eq]
      exact List.nil_lt_cons _ _
  | rel less => exact utf8EncodeChar_append_lt less _ _
  | cons rest ih => exact List.append_left_lt ih

end TlsListener.Text
