import Mathlib.Data.Nat.Digits.Lemmas
import Mathlib.Tactic.IntervalCases
import WarehouseAccess.Number.Digits

/-!
# Spelled integers

Which texts are read as an integer, and as which one.  `SpellsNumber` says it by the digits, without
the function that reads them.
-/

namespace WarehouseAccess

/-- The text spells the number: its decimal digits, at least one of them, and in front of them a
plus sign or nothing. -/
def SpellsNumber (s : String) (n : Nat) : Prop :=
  ∃ digits : List Nat, digits ≠ [] ∧ (∀ d ∈ digits, d < 10) ∧ Nat.ofDigits 10 digits.reverse = n ∧
    (s.toList = digits.map Nat.digitChar ∨ s.toList = '+' :: digits.map Nat.digitChar)

/-- A character has the value of a digit just when it is that digit. -/
lemma digitValue_eq_some_iff {c : Char} {d : Nat} :
    digitValue c = some d ↔ d < 10 ∧ c = Nat.digitChar d := by
  constructor
  · intro h
    unfold digitValue at h
    split_ifs at h with hdigit
    obtain rfl := Option.some.inj h
    have hrange : 48 ≤ c.toNat ∧ c.toNat ≤ 57 := by
      simpa [Char.le_def, UInt32.le_iff_toNat_le] using hdigit
    refine ⟨by omega, Char.toNat_inj.mp ?_⟩
    rw [Nat.toNat_digitChar_of_lt_ten (by omega)]
    omega
  · rintro ⟨hd, rfl⟩
    interval_cases d <;> rfl

/-- What digits continue a number to is what comes of taking them in one after the other. -/
lemma readDigits_eq_some_iff {n m : Nat} {l : List Char} :
    readDigits n l = some m ↔ ∃ digits : List Nat, (∀ d ∈ digits, d < 10) ∧
      l = digits.map Nat.digitChar ∧ digits.foldl (fun k d => d + 10 * k) n = m := by
  induction l generalizing n with
  | nil => simp [readDigits, eq_comm]
  | cons c rest ih =>
    unfold readDigits
    constructor
    · intro h
      split at h
      next d hd =>
        obtain ⟨hlt, rfl⟩ := digitValue_eq_some_iff.mp hd
        -- the digit comes in front of those that the rest spells
        obtain ⟨digits, hdigits, rfl, hfold⟩ := ih.mp h
        refine ⟨d :: digits, List.forall_mem_cons.mpr ⟨hlt, hdigits⟩, rfl, ?_⟩
        rw [List.foldl_cons, Nat.add_comm d, hfold]
      next => cases h
    · rintro ⟨digits, hdigits, hl, hfold⟩
      cases digits with
      | nil => cases hl
      | cons d digits =>
        obtain ⟨hlt, hdigits⟩ := List.forall_mem_cons.mp hdigits
        obtain ⟨rfl, rfl⟩ := List.cons.inj hl
        rw [digitValue_eq_some_iff.mpr ⟨hlt, rfl⟩]
        refine ih.mpr ⟨digits, hdigits, rfl, ?_⟩
        rw [← hfold, List.foldl_cons, Nat.add_comm d]

/-- The characters that stand for the digits of a text: those behind a plus sign, or all of them
where there is none. -/
def IsBehindSign (s : String) (l : List Char) : Prop :=
  s.toList = '+' :: l ∨ s.toList = l ∧ l.head? ≠ some '+'

/-- Every text has such characters. -/
lemma exists_isBehindSign (s : String) : ∃ l, IsBehindSign s l := by
  by_cases h : s.toList.head? = some '+'
  · obtain ⟨rest, hrest⟩ := List.head?_eq_some_iff.mp h
    exact ⟨rest, .inl hrest⟩
  · exact ⟨s.toList, .inr ⟨rfl, h⟩⟩

/-- A text is read by those characters. -/
lemma readUnsigned_eq_some_iff_of_isBehindSign {bound n : Nat} {s : String} {l : List Char}
    (h : IsBehindSign s l) :
    readUnsigned bound s = some n ↔ l ≠ [] ∧ readDigits 0 l = some n ∧ n < bound := by
  have hdigits : readUnsigned bound s =
      if l.isEmpty then none
      else (readDigits 0 l).bind fun n => if n < bound then some n else none := by
    unfold readUnsigned
    rcases h with h | ⟨h, hhead⟩
    · simp only [h]
      cases readDigits 0 l <;> rfl
    · rw [h]
      split
      next rest => exact absurd rfl hhead
      next =>
        dsimp only
        cases readDigits 0 l <;> rfl
  simp only [hdigits, List.isEmpty_iff, Option.ite_none_left_eq_some, Option.bind_eq_some_iff,
    Option.ite_none_right_eq_some, Option.some.injEq]
  constructor
  · rintro ⟨hne, m, hread, hlt, rfl⟩
    exact ⟨hne, hread, hlt⟩
  · rintro ⟨hne, hread, hlt⟩
    exact ⟨hne, n, hread, hlt, rfl⟩

/-- Digits do not begin with a plus sign. -/
lemma head?_map_digitChar_ne {digits : List Nat} (h : ∀ d ∈ digits, d < 10) :
    (digits.map Nat.digitChar).head? ≠ some '+' := by
  cases digits with
  | nil => simp
  | cons d digits =>
    have hd : d < 10 := h d List.mem_cons_self
    rw [List.map_cons, List.head?_cons, ne_eq, Option.some.injEq]
    interval_cases d <;> decide

/-- Those characters are the spelled digits of a text that spells a number. -/
lemma spellsNumber_iff_of_isBehindSign {n : Nat} {s : String} {l : List Char}
    (h : IsBehindSign s l) : SpellsNumber s n ↔ l ≠ [] ∧ readDigits 0 l = some n := by
  have hvalue (digits : List Nat) :
      Nat.ofDigits 10 digits.reverse = digits.foldl (fun k d => d + 10 * k) 0 := by
    rw [Nat.ofDigits_eq_foldr, List.foldr_reverse]
    rfl
  rw [readDigits_eq_some_iff]
  constructor
  · rintro ⟨digits, hne, hdigits, hn, hs⟩
    obtain rfl : l = digits.map Nat.digitChar := by
      have hplain := head?_map_digitChar_ne hdigits
      rcases h with h | ⟨h, hhead⟩ <;> rcases hs with hs | hs
      · exact absurd (by rw [← hs, h]; rfl) hplain
      · exact List.tail_eq_of_cons_eq (h.symm.trans hs)
      · exact h.symm.trans hs
      · exact absurd (by rw [← h, hs]; rfl) hhead
    exact ⟨by simpa using hne, digits, hdigits, rfl, (hvalue digits).symm.trans hn⟩
  · rintro ⟨hne, digits, hdigits, rfl, hn⟩
    refine ⟨digits, by simpa using hne, hdigits, (hvalue digits).trans hn, ?_⟩
    exact h.symm.imp And.left id

/-- A text is read as a number just when it spells it and the number is in range. -/
theorem readUnsigned_eq_some_iff {bound n : Nat} {s : String} :
    readUnsigned bound s = some n ↔ SpellsNumber s n ∧ n < bound := by
  obtain ⟨l, hl⟩ := exists_isBehindSign s
  rw [readUnsigned_eq_some_iff_of_isBehindSign hl, spellsNumber_iff_of_isBehindSign hl, and_assoc]

/-- A sign and zeros may stand in front. -/
example : readUnsigned (2 ^ 64) "+007" = some 7 := by decide

end WarehouseAccess
