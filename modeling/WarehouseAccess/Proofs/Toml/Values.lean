import WarehouseAccess.Proofs.Number.Integer
import WarehouseAccess.Proofs.Toml.Strings
import WarehouseAccess.Profile.Basic

/-!
# Written values

What the reader makes of a value that is written on a line: of a text, of a whole number with or
without sign, of a flag.  A value is written up to the end of its line, and that is where the reader
stops.
-/

namespace WarehouseAccess

namespace TomlReader

open TomlPrinter

/-- The characters stand for the value when a line ends behind them. -/
structure WrittenAs (written : List Char) (v : Toml) : Prop where
  /-- No blank goes before a value. -/
  not_gap : ∀ rest, skipGap (written ++ '\n' :: rest) = written ++ '\n' :: rest
  read : ∀ fuel levels rest,
    readValue (fuel + 1) levels (written ++ '\n' :: rest) = some (v, '\n' :: rest)

/-! ### Digits -/

lemma isDigit_toDigits {n : ℕ} {c : Char} (h : c ∈ Nat.toDigits 10 n) : c.isDigit = true :=
  Nat.isDigit_of_mem_toDigits (by decide) (by decide) h

/-- A number has a first digit. -/
lemma exists_toDigits_eq_cons (n : ℕ) :
    ∃ c digits, Nat.toDigits 10 n = c :: digits ∧ c.isDigit = true := by
  obtain ⟨c, digits, hdigits⟩ :=
    List.exists_cons_of_ne_nil (Nat.toDigits_ne_nil (n := n) (b := 10))
  exact ⟨c, digits, hdigits, isDigit_toDigits (n := n) (hdigits ▸ List.mem_cons_self)⟩

/-- Decimal digits begin with a zero only when nothing follows it. -/
lemma eq_nil_of_toDigits_eq {n : ℕ} {l : List Char} (h : Nat.toDigits 10 n = '0' :: l) :
    l = [] := by
  induction n using Nat.base_induction 10 (by decide) generalizing l with
  | single m hm =>
    rw [Nat.toDigits_of_lt_base hm] at h
    exact (List.cons.inj h).2.symm
  | digit m k hk hm ih =>
    obtain ⟨c, digits, hdigits, -⟩ := exists_toDigits_eq_cons m
    rw [← Nat.toDigits_append_toDigits (by decide) hm hk, hdigits] at h
    obtain ⟨rfl, -⟩ := List.cons.inj h
    have hzero : Nat.ofDigitChars 10 (Nat.toDigits 10 m) 0 = 0 := by
      rw [hdigits, ih hdigits]
      rfl
    rw [Nat.ofDigitChars_ten_toDigits] at hzero
    omega

/-- Decimal digits spell their number. -/
lemma inBase_toDigits (n : ℕ) : inBase 10 (Nat.toDigits 10 n) = n := by
  have hvalue : ∀ c : Char, c.isDigit = true → (hexValue c).getD 0 = c.toNat - '0'.toNat := by
    intro c hc
    have hrange : ('0' ≤ c && c ≤ '9') = true := hc
    rw [hexValue, if_pos hrange]
    rfl
  calc inBase 10 (Nat.toDigits 10 n)
      = Nat.ofDigitChars 10 (Nat.toDigits 10 n) 0 :=
        List.foldl_ext _ _ _ fun m c hc => by rw [hvalue c (isDigit_toDigits hc)]
    _ = n := Nat.ofDigitChars_ten_toDigits

lemma readGrouped_go_append {digits : List Char} (h : ∀ c ∈ digits, c.isDigit = true)
    (rest : List Char) :
    readGrouped.go Char.isDigit (digits ++ '\n' :: rest) = some (digits, '\n' :: rest) := by
  induction digits with
  | nil => rfl
  | cons c digits ih =>
    obtain ⟨hc, hdigits⟩ := List.forall_mem_cons.mp h
    have hne : c ≠ '_' := by rintro rfl; cases hc
    simp [readGrouped.go, hc, ih hdigits, hne]

/-- The digits of a number are a whole number without superfluous zeros. -/
lemma readWhole_toDigits (n : ℕ) (rest : List Char) :
    readWhole (Nat.toDigits 10 n ++ '\n' :: rest) = some (Nat.toDigits 10 n, '\n' :: rest) := by
  obtain ⟨c, digits, hdigits, hc⟩ := exists_toDigits_eq_cons n
  by_cases hzero : c = '0'
  · subst hzero
    rw [hdigits, eq_nil_of_toDigits_eq hdigits]
    rfl
  · have hmore : ∀ d ∈ digits, d.isDigit = true := fun d hd =>
      isDigit_toDigits (n := n) (hdigits ▸ List.mem_cons_of_mem c hd)
    rw [hdigits]
    simp [readWhole, readGrouped, hzero, hc, readGrouped_go_append hmore]

/-- The digits of a number are read back as an integer. -/
lemma readDecimal_toDigits (negative : Bool) (n : ℕ) (rest : List Char) :
    readDecimal negative (Nat.toDigits 10 n ++ '\n' :: rest) =
      (integer? (if negative then -n else n)).map (·, '\n' :: rest) := by
  simp only [Option.map_eq_bind]
  simp [readDecimal, readWhole_toDigits, inBase_toDigits]

/-! ### Dates and times are no numbers -/

/-- A field of a date or time is made of digits. -/
lemma forall_isDigit_of_readField {l r : List Char} {width lo hi n : ℕ}
    (h : readField width lo hi l = some (n, r)) :
    (∀ c ∈ l.take width, c.isDigit = true) ∧ width ≤ l.length ∧ r = l.drop width := by
  simp only [readField] at h
  split_ifs at h with hlength
  obtain ⟨m, hread, hrange⟩ := Option.bind_eq_some_iff.mp h
  obtain ⟨digits, hdigits, htake, -⟩ := readDigits_eq_some_iff.mp hread
  simp only [Option.ite_none_right_eq_some, Option.some.injEq, Prod.mk.injEq] at hrange
  refine ⟨?_, by simpa using hlength, hrange.2.2.symm⟩
  rw [htake, List.forall_mem_map]
  exact fun d hd => by simpa [Nat.isDigit_digitChar] using hdigits d hd

/-- Where a line of digits ends no separator follows a field. -/
lemma skipChar_of_readField {digits rest r : List Char} {width lo hi n : ℕ} {c : Char}
    (hdigits : ∀ d ∈ digits, d.isDigit = true) (hc : c.isDigit = false) (hend : c ≠ '\n')
    (h : readField width lo hi (digits ++ '\n' :: rest) = some (n, r)) : skipChar c r = none := by
  obtain ⟨htake, hlength, rfl⟩ := forall_isDigit_of_readField h
  have hwidth : width ≤ digits.length := by
    by_contra hlt
    obtain ⟨k, rfl⟩ := Nat.exists_eq_add_of_lt (Nat.lt_of_not_le hlt)
    have hmem : '\n' ∈ (digits ++ '\n' :: rest).take (digits.length + k + 1) := by
      simp [List.take_append, Nat.add_assoc]
    exact absurd (htake _ hmem) (by decide)
  rw [List.drop_append_of_le_length hwidth]
  cases hdrop : digits.drop width with
  | nil => simp [skipChar, hend.symm]
  | cons d more =>
    have hd := hdigits d (List.mem_of_mem_drop (hdrop ▸ List.mem_cons_self))
    have hne : d ≠ c := by
      rintro rfl
      rw [hc] at hd
      cases hd
    simp [skipChar, hne]

lemma readMoment_eq_none {l : List Char}
    (hdate : ∀ n r, readField 4 0 9999 l = some (n, r) → skipChar '-' r = none)
    (htime : ∀ n r, readField 2 0 23 l = some (n, r) → skipChar ':' r = none) :
    readMoment l = none := by
  have hskipDate : skipDate l = none := by
    cases h : readField 4 0 9999 l with
    | none => simp [skipDate, h]
    | some p => simp [skipDate, h, hdate p.1 p.2 h]
  have hskipTime : skipTime l = none := by
    cases h : readField 2 0 23 l with
    | none => simp [skipTime, h]
    | some p => simp [skipTime, h, htime p.1 p.2 h]
  simp [readMoment, hskipDate, hskipTime]

/-- A whole number is no date and no time. -/
lemma readMoment_digits {digits : List Char} (h : ∀ c ∈ digits, c.isDigit = true)
    (rest : List Char) : readMoment (digits ++ '\n' :: rest) = none :=
  readMoment_eq_none (fun _ _ => skipChar_of_readField h (by decide) (by decide))
    (fun _ _ => skipChar_of_readField h (by decide) (by decide))

/-- No date and no time begins with a minus. -/
lemma readMoment_minus (l : List Char) : readMoment ('-' :: l) = none := by
  have hfield : ∀ width lo hi n r, readField (width + 1) lo hi ('-' :: l) ≠ some (n, r) := by
    intro width lo hi n r h
    exact absurd ((forall_isDigit_of_readField h).1 '-' (by simp)) (by decide)
  exact readMoment_eq_none (fun n r h => absurd h (hfield _ _ _ n r))
    (fun n r h => absurd h (hfield _ _ _ n r))

/-! ### Values -/

/-- A number that is no date, no time and in no other base is read in decimal behind its sign. -/
lemma readNumber_eq_readDecimal {l more : List Char} {negative : Bool} {d : Char}
    (hmoment : readMoment l = none) (hmark : ∀ c more, c ≠ '\n' → l ≠ '0' :: c :: more)
    (hsign : readSign l = (negative, d :: more)) (hd : d.isDigit = true) :
    readNumber l = readDecimal negative (d :: more) := by
  have hinf : JsonSyntax.expect "inf".toList (d :: more) = none := by
    have hne : 'i' ≠ d := by rintro rfl; cases hd
    simp [JsonSyntax.expect, List.isPrefixOf, hne]
  have hnan : JsonSyntax.expect "nan".toList (d :: more) = none := by
    have hne : 'n' ≠ d := by rintro rfl; cases hd
    simp [JsonSyntax.expect, List.isPrefixOf, hne]
  rw [readNumber, hmoment]
  · dsimp only
    rw [hsign, hinf, hnan]
  · exact fun rest => hmark 'x' rest (by decide)
  · exact fun rest => hmark 'o' rest (by decide)
  · exact fun rest => hmark 'b' rest (by decide)

lemma readNumber_toDigits (n : ℕ) (rest : List Char) :
    readNumber (Nat.toDigits 10 n ++ '\n' :: rest) = (integer? n).map (·, '\n' :: rest) := by
  have hdecimal := readDecimal_toDigits false n rest
  have hmoment := readMoment_digits (fun c => isDigit_toDigits (n := n)) rest
  obtain ⟨c, digits, hdigits, hc⟩ := exists_toDigits_eq_cons n
  rw [hdigits, List.cons_append] at hdecimal hmoment ⊢
  refine (readNumber_eq_readDecimal hmoment ?_ ?_ hc).trans hdecimal
  · -- A zero has nothing behind it, so no mark of another base either.
    rintro d more hd heq
    obtain ⟨rfl, htail⟩ := List.cons.inj heq
    rw [eq_nil_of_toDigits_eq hdigits] at htail
    exact hd (List.cons.inj htail).1.symm
  · unfold readSign
    split
    next heq => obtain ⟨rfl, -⟩ := List.cons.inj heq; cases hc
    next heq => obtain ⟨rfl, -⟩ := List.cons.inj heq; cases hc
    next => rfl

lemma readNumber_minus (n : ℕ) (rest : List Char) :
    readNumber ('-' :: (Nat.toDigits 10 n ++ '\n' :: rest)) =
      (integer? (-n)).map (·, '\n' :: rest) := by
  have hdecimal := readDecimal_toDigits true n rest
  obtain ⟨c, digits, hdigits, hc⟩ := exists_toDigits_eq_cons n
  rw [hdigits, List.cons_append] at hdecimal ⊢
  refine (readNumber_eq_readDecimal (readMoment_minus _) ?_ rfl hc).trans hdecimal
  exact fun d more hd heq => absurd (List.cons.inj heq).1 (by decide)

/-- A value that is no array and no table is read without regard to the levels of nesting. -/
lemma readValue_cons {c : Char} (hbracket : c ≠ '[') (hbrace : c.toNat ≠ 0x7B) (fuel levels : ℕ)
    (l : List Char) :
    readValue (fuel + 1) levels (c :: l) =
      if c == '"' || c == '\'' then (readString (c :: l)).map fun (s, rest) => (.text s, rest)
      else if c == 't' then (JsonSyntax.expect "true".toList (c :: l)).map (.boolean true, ·)
      else if c == 'f' then (JsonSyntax.expect "false".toList (c :: l)).map (.boolean false, ·)
      else readNumber (c :: l) := by
  cases levels <;> simp [readValue, hbracket, hbrace]

/-- Digits and the minus begin a number. -/
lemma readValue_of_number {c : Char} (hc : c.isDigit = true ∨ c = '-') (fuel levels : ℕ)
    (l : List Char) : readValue (fuel + 1) levels (c :: l) = readNumber (c :: l) := by
  have hne : ∀ d : Char, d.isDigit = false → d ≠ '-' → c ≠ d := by
    rintro d hd hminus rfl
    rcases hc with hc | hc
    · rw [hd] at hc
      cases hc
    · exact hminus hc
  have hbrace : c.toNat ≠ 0x7B := fun h => hne (Char.ofNat 0x7B) (by decide) (by decide)
    (by rw [← h, Char.ofNat_toNat])
  rw [readValue_cons (hne _ (by decide) (by decide)) hbrace]
  simp [hne '"' (by decide) (by decide), hne '\'' (by decide) (by decide),
    hne 't' (by decide) (by decide), hne 'f' (by decide) (by decide)]

/-- A text begins with a quote. -/
lemma exists_quote_of_readString {l : List Char} {r : String × List Char}
    (h : readString l = some r) : ∃ c more, (c = '"' ∨ c = '\'') ∧ l = c :: more := by
  unfold readString at h
  split at h
  · exact ⟨_, _, .inl rfl, rfl⟩
  · exact ⟨_, _, .inr rfl, rfl⟩
  · exact ⟨_, _, .inl rfl, rfl⟩
  · exact ⟨_, _, .inr rfl, rfl⟩
  · cases h

/-- A text is written by any of its forms. -/
theorem writtenAs_text (s : String) : WrittenAs (renderText s) (.text s) := by
  refine ⟨fun rest => ?_, fun fuel levels rest => ?_⟩
  · obtain ⟨c, more, rfl | rfl, heq⟩ := exists_quote_of_readString (readString_renderText s rest)
    all_goals
      rw [heq]
      rfl
  · have hread := readString_renderText s rest
    obtain ⟨c, more, hc, heq⟩ := exists_quote_of_readString hread
    have hquote : (c == '"' || c == '\'') = true := by simpa using hc
    rw [heq] at hread ⊢
    rw [readValue_cons (by rcases hc with rfl | rfl <;> decide)
      (by rcases hc with rfl | rfl <;> decide), if_pos hquote, hread]
    rfl

/-- A number is written by its digits. -/
theorem writtenAs_integer {n : ℤ} (hlo : -2 ^ 63 ≤ n) (hhi : n < 2 ^ 63) :
    WrittenAs (toString n).toList (.integer n) := by
  have hrange : integer? n = some (.integer n) := if_pos (by simp; omega)
  cases n with
  | ofNat n =>
    have htext : (toString (Int.ofNat n)).toList = Nat.toDigits 10 n := Nat.toList_repr
    obtain ⟨c, digits, hdigits, hc⟩ := exists_toDigits_eq_cons n
    rw [htext]
    refine ⟨fun rest => ?_, fun fuel levels rest => ?_⟩
    · have hgap : isGap c = false := by
        have hspace : c ≠ ' ' := by rintro rfl; cases hc
        have htab : c ≠ '\t' := by rintro rfl; cases hc
        simp [isGap, hspace, htab]
      rw [hdigits]
      exact List.dropWhile_cons_of_neg (by simp [hgap])
    · have hnumber := readNumber_toDigits n rest
      rw [hdigits, List.cons_append] at hnumber ⊢
      rw [readValue_of_number (.inl hc), hnumber]
      exact congrArg (Option.map _) hrange
  | negSucc n =>
    have htext : (toString (Int.negSucc n)).toList = '-' :: Nat.toDigits 10 (n + 1) := by
      change ("-" ++ (n + 1).repr).toList = _
      rw [String.toList_append, Nat.toList_repr]
      rfl
    rw [htext]
    refine ⟨fun rest => rfl, fun fuel levels rest => ?_⟩
    rw [List.cons_append, readValue_of_number (.inr rfl), readNumber_minus]
    exact congrArg (Option.map _) hrange

/-- A natural number is written by its digits. -/
theorem writtenAs_decimalDigits {n : ℕ} (h : n < 2 ^ 63) :
    WrittenAs (decimalDigits n) (.integer n) := by
  have htext : (toString (n : ℤ)).toList = decimalDigits n := Nat.toList_repr
  exact htext ▸ writtenAs_integer (by omega) (by omega)

/-- A flag is written as true or false. -/
theorem writtenAs_flag (b : Bool) : WrittenAs (Profile.flagText b).toList (.boolean b) := by
  refine ⟨fun rest => ?_, fun fuel levels rest => ?_⟩
  · cases b <;> rfl
  · cases b with
    | false =>
      exact readValue_cons (by decide) (by decide) fuel levels _
    | true =>
      exact readValue_cons (by decide) (by decide) fuel levels _

end TomlReader

end WarehouseAccess
