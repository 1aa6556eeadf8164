import Mathlib.Data.Nat.Digits.Defs
import Mathlib.Tactic.Common
import Mathlib.Tactic.Ring
import WarehouseAccess.Number.Digits

/-!
# Words of a few bytes

What bytes make up a number and back.  A word is the number whose digits of base 256 are its bytes
(`ofDigits_two`, `ofDigits_four`), and the bytes of a number are the only ones that make it up
(`ofDigits_littleEndian32`, `littleEndian32_word32`).  Read as a signed number a word is the one of
least absolute value (`signed_eq_bmod`), and `unsigned_cases` says what a signed number becomes when
it is taken as an unsigned one.
-/

namespace WarehouseAccess

/-! ### Bytes and words -/

/-- Two bytes make up a number of 16 bits. -/
lemma word16_lt (a b : UInt8) : word16 a b < 2 ^ 16 := by
  have ha := a.toNat_lt
  have hb := b.toNat_lt
  unfold word16
  omega

/-- Four bytes make up a number of 32 bits. -/
lemma word32_lt (a b c d : UInt8) : word32 a b c d < 2 ^ 32 := by
  have ha := a.toNat_lt
  have hb := b.toNat_lt
  have hc := c.toNat_lt
  have hd := d.toNat_lt
  unfold word32
  omega

/-- Two bytes make up the number whose digits they are, least significant first. -/
lemma ofDigits_two (a b : UInt8) : Nat.ofDigits 256 ([a, b].map UInt8.toNat) = word16 a b := by
  simp only [List.map_cons, List.map_nil, Nat.ofDigits_cons, Nat.ofDigits_nil, word16]
  ring

/-- Four bytes make up the number whose digits they are, least significant first. -/
lemma ofDigits_four (a b c d : UInt8) :
    Nat.ofDigits 256 ([a, b, c, d].map UInt8.toNat) = word32 a b c d := by
  simp only [List.map_cons, List.map_nil, Nat.ofDigits_cons, Nat.ofDigits_nil, word32]
  ring

/-- The four bytes of a number are its digits, as far as 32 bits go. -/
lemma ofDigits_littleEndian32 (n : ℕ) :
    Nat.ofDigits 256 ((littleEndian32 n).map UInt8.toNat) = n % 2 ^ 32 := by
  simp only [littleEndian32, List.map_cons, List.map_nil, Nat.ofDigits_cons, Nat.ofDigits_nil,
    Nat.toUInt8, UInt8.toNat_ofNat']
  omega

/-- Four bytes are those of the number that they make up. -/
lemma littleEndian32_word32 (a b c d : UInt8) : littleEndian32 (word32 a b c d) = [a, b, c, d] := by
  have ha := a.toNat_lt
  have hb := b.toNat_lt
  have hc := c.toNat_lt
  have hd := d.toNat_lt
  have hbyte (x : UInt8) (n : ℕ) (hn : n % 2 ^ 8 = x.toNat) : n.toUInt8 = x := by
    apply UInt8.toNat_inj.mp
    rw [Nat.toUInt8, UInt8.toNat_ofNat', hn]
  unfold word32 littleEndian32
  rw [hbyte a _ (by omega), hbyte b _ (by omega), hbyte c _ (by omega), hbyte d _ (by omega)]

/-! ### Signed numbers -/

/-- A number of so many bits, read as a signed one, is the number of least absolute value that has
the same bits. -/
lemma signed_eq_bmod {bits n : ℕ} (hbits : 0 < bits) (h : n < 2 ^ bits) :
    signed bits n = (n : ℤ).bmod (2 ^ bits) := by
  obtain ⟨m, rfl⟩ : ∃ m, bits = m + 1 := ⟨bits - 1, by omega⟩
  have hhalf : Nat.pow 2 (m + 1 - 1) = 2 ^ m := rfl
  have hfull : Nat.pow 2 (m + 1) = 2 ^ (m + 1) := rfl
  have hsmall : (n : ℤ) % (2 ^ (m + 1) : ℕ) = n := Int.emod_eq_of_lt (by omega) (by omega)
  have hdouble : 2 ^ (m + 1) = 2 * 2 ^ m := by ring
  rw [signed, hhalf, hfull, Int.bmod_def, hsmall, hdouble]
  split_ifs <;> omega

/-- A signed number that is not negative is the unsigned one of the same bits. -/
lemma eq_of_signed_eq {n m : ℕ} (h : signed 32 n = m) (hn : n < 2 ^ 32) : n = m ∧ m < 2 ^ 31 := by
  have hhalf : Nat.pow 2 (32 - 1) = 2147483648 := rfl
  have hfull : Nat.pow 2 32 = 4294967296 := rfl
  rw [signed, hhalf, hfull] at h
  split_ifs at h <;> omega

/-- A number of 16 bits with a sign, taken as an unsigned one of 32 bits, is what it was, or too
large for any of 16 bits if it was negative. -/
lemma unsigned_cases {n : ℤ} (h : -2 ^ 15 ≤ n ∧ n < 2 ^ 15) :
    0 ≤ n ∧ (unsigned 32 n : ℤ) = n ∨ n < 0 ∧ 2 ^ 31 ≤ unsigned 32 n := by
  have hfull : (Nat.pow 2 32 : ℕ) = 4294967296 := rfl
  unfold unsigned
  rw [hfull]
  omega

/-- A number of 16 bits that is not negative, or small as an unsigned number, is what it was. -/
lemma unsigned_eq {n : ℤ} (h : -2 ^ 15 ≤ n ∧ n < 2 ^ 15) (hn : 0 ≤ n ∨ unsigned 32 n < 2 ^ 31) :
    (unsigned 32 n : ℤ) = n := by
  have hcases := unsigned_cases h
  omega

end WarehouseAccess
