import WarehouseAccess.Calendar.Reading
import WarehouseAccess.Proofs.Number.Integer

/-!
# Reading the written form of dates and times

The written form of a date and time can be read back, up to what it leaves out: a fraction is cut
down to microseconds.  `takeIso` and `takeOffset` read it, `takeIso_isoText` and
`takeOffset_offsetText` say that they read what is written.

A number padded with zeros to its full width is read by its width; where the width is not known, as
with years of more than four digits, the number is read up to the first character that is no digit.
-/

namespace WarehouseAccess

namespace DateTime

/-! ### Padded numbers -/

/-- The decimal digits are the digits. -/
lemma isDigit_eq (c : Char) : isDigit c = c.isDigit := by
  have hrange : ('0' ≤ c && c ≤ '9') = c.isDigit := rfl
  unfold isDigit digitValue
  rw [hrange]
  cases c.isDigit <;> rfl

/-- Digits spell the number that they stand for in decimal. -/
lemma numberOf_eq {digits : List Char} (h : ∀ c ∈ digits, isDigit c = true) :
    numberOf digits = Nat.ofDigitChars 10 digits 0 := by
  refine List.foldl_ext _ _ _ fun n c hc => ?_
  have hrange : ('0' ≤ c && c ≤ '9') = true := by
    rw [← h c hc, isDigit_eq]
    rfl
  rw [digitValue, if_pos hrange]
  rfl

/-- A padded number is made of digits. -/
lemma isDigit_of_mem_zeroPadded {width n : ℕ} {c : Char} (h : c ∈ zeroPadded width n) :
    isDigit c = true := by
  rw [isDigit_eq]
  rcases List.mem_append.mp h with h | h
  · rw [(List.mem_replicate.mp h).2]
    rfl
  · exact Nat.isDigit_of_mem_toDigits (by decide) (by decide) h

/-- The zeros in front do not count. -/
lemma numberOf_zeroPadded (width n : ℕ) : numberOf (zeroPadded width n) = n := by
  have hzeros (k : ℕ) : Nat.ofDigitChars 10 (List.replicate k '0') 0 = 0 := by
    induction k with
    | zero => rfl
    | succ k ih => exact ih
  rw [numberOf_eq fun c => isDigit_of_mem_zeroPadded]
  unfold zeroPadded
  rw [Nat.ofDigitChars_append, hzeros]
  exact Nat.ofDigitChars_ten_toDigits

/-- A number that fits is as wide as it is padded to. -/
lemma length_zeroPadded {width n : ℕ} (hwidth : 0 < width) (h : n < 10 ^ width) :
    (zeroPadded width n).length = width := by
  have hdigits : (decimalDigits n).length ≤ width :=
    (Nat.length_toDigits_le_iff (by decide) hwidth).mpr h
  unfold zeroPadded
  rw [List.length_append, List.length_replicate]
  omega

/-- A padded number has a first digit. -/
lemma exists_zeroPadded_eq_cons (width n : ℕ) :
    ∃ c digits, zeroPadded width n = c :: digits ∧ isDigit c = true := by
  have hne : zeroPadded width n ≠ [] := List.append_ne_nil_of_right_ne_nil _ Nat.toDigits_ne_nil
  obtain ⟨c, digits, hdigits⟩ := List.exists_cons_of_ne_nil hne
  exact ⟨c, digits, hdigits, isDigit_of_mem_zeroPadded (hdigits ▸ List.mem_cons_self)⟩

/-- Nothing that begins with a digit is in front of the text. -/
def EndsDigits (rest : List Char) : Prop := ∀ c ∈ rest.head?, isDigit c = false

/-- A padded number is read up to its end, if this is where the width or the digits end. -/
lemma takeDigits_zeroPadded {width n k : ℕ} {rest : List Char}
    (hle : (zeroPadded width n).length ≤ k)
    (hend : (zeroPadded width n).length = k ∨ EndsDigits rest) :
    takeDigits k (zeroPadded width n ++ rest) = some (zeroPadded width n, rest) := by
  obtain ⟨c, digits, hcons, -⟩ := exists_zeroPadded_eq_cons width n
  have hall : ∀ d ∈ zeroPadded width n, isDigit d = true := fun d => isDigit_of_mem_zeroPadded
  have hnone : (rest.take (k - (zeroPadded width n).length)).takeWhile isDigit = [] := by
    rcases hend with hfull | hrest
    · rw [hfull, Nat.sub_self]
      rfl
    · cases rest with
      | nil => simp
      | cons d rest =>
        have hd := hrest d rfl
        cases k - (zeroPadded width n).length with
        | zero => rfl
        | succ m => simp [hd]
  have htake : ((zeroPadded width n ++ rest).take k).takeWhile isDigit = zeroPadded width n := by
    rw [List.take_append, List.take_of_length_le hle, List.takeWhile_append_of_pos hall, hnone,
      List.append_nil]
  unfold takeDigits
  rw [htake]
  dsimp only
  rw [List.drop_left, hcons]
  rfl

/-- Digits are no blanks. -/
lemma isBlank_of_isDigit {c : Char} (h : isDigit c = true) : isBlank c = false := by
  obtain ⟨d, hd⟩ := Option.isSome_iff_exists.mp h
  obtain ⟨hlt, rfl⟩ := digitValue_eq_some_iff.mp hd
  interval_cases d <;> rfl

/-- There are no blanks in front of a padded number. -/
lemma dropWhile_zeroPadded (width n : ℕ) (rest : List Char) :
    (zeroPadded width n ++ rest).dropWhile isBlank = zeroPadded width n ++ rest := by
  obtain ⟨c, digits, hcons, hc⟩ := exists_zeroPadded_eq_cons width n
  rw [hcons, List.cons_append, List.dropWhile_cons, isBlank_of_isDigit hc]
  rfl

/-- A number of two digits is read whatever follows it. -/
lemma takeNumber_two {n : ℕ} (h : n < 100) (rest : List Char) :
    takeNumber 2 (zeroPadded 2 n ++ rest) = some (n, rest) := by
  have hlength : (zeroPadded 2 n).length = 2 := length_zeroPadded (by decide) h
  unfold takeNumber
  rw [dropWhile_zeroPadded, takeDigits_zeroPadded hlength.le (.inl hlength), Option.map_some]
  dsimp only
  rw [numberOf_zeroPadded]

/-! ### Years and fractions -/

lemma takeYear_minus (l : List Char) :
    takeYear ('-' :: l) =
      (takeDigits l.length l).map fun (digits, rest) => (-(numberOf digits : ℤ), rest) := rfl

lemma takeYear_plus (l : List Char) :
    takeYear ('+' :: l) =
      (takeDigits l.length l).map fun (digits, rest) => ((numberOf digits : ℤ), rest) := rfl

/-- Without a sign a year has four digits at most. -/
lemma takeYear_zeroPadded (width n : ℕ) (rest : List Char) :
    takeYear (zeroPadded width n ++ rest) =
      (takeDigits 4 (zeroPadded width n ++ rest)).map fun (digits, rest) =>
        ((numberOf digits : ℤ), rest) := by
  obtain ⟨c, digits, hcons, hc⟩ := exists_zeroPadded_eq_cons width n
  have hsign {sign : Char} {l : List Char} (hnot : isDigit sign = false)
      (h : zeroPadded width n ++ rest = sign :: l) : False := by
    rw [hcons, List.cons_append] at h
    rw [(List.cons.inj h).1, hnot] at hc
    cases hc
  unfold takeYear
  rw [dropWhile_zeroPadded]
  split
  next h => exact (hsign rfl h).elim
  next h => exact (hsign rfl h).elim
  next => rfl

/-- A year is read up to the dash behind it. -/
lemma takeYear_yearText (year : ℤ) (rest : List Char) :
    takeYear (yearText year ++ '-' :: rest) = some (year, '-' :: rest) := by
  -- the dash behind the year ends its digits
  have hend : EndsDigits ('-' :: rest) := by
    intro c hc
    obtain rfl := Option.some.inj hc
    rfl
  have hsigned (n : ℕ) : takeDigits (zeroPadded 4 n ++ '-' :: rest).length
      (zeroPadded 4 n ++ '-' :: rest) = some (zeroPadded 4 n, '-' :: rest) :=
    takeDigits_zeroPadded (by rw [List.length_append]; omega) (.inr hend)
  unfold yearText
  split_ifs with hfour hneg
  · have hrange : 0 ≤ year ∧ year ≤ 9999 := by simpa using hfour
    have hvalue : (year.toNat : ℤ) = year := by omega
    have hlength : (zeroPadded 4 year.toNat).length = 4 := length_zeroPadded (by decide) (by omega)
    rw [takeYear_zeroPadded, takeDigits_zeroPadded hlength.le (.inl hlength), Option.map_some]
    dsimp only
    rw [numberOf_zeroPadded, hvalue]
  · have hvalue : -(year.natAbs : ℤ) = year := by omega
    rw [List.cons_append, takeYear_minus, hsigned, Option.map_some]
    dsimp only
    rw [numberOf_zeroPadded, hvalue]
  · have hvalue : (year.natAbs : ℤ) = year := by omega
    rw [List.cons_append, takeYear_plus, hsigned, Option.map_some]
    dsimp only
    rw [numberOf_zeroPadded, hvalue]

/-- Neither a fraction nor more of one begins the text. -/
def EndsFraction (rest : List Char) : Prop := EndsDigits rest ∧ rest.head? ≠ some '.'

/-- The nanoseconds that the written fraction of a number of them shows. -/
lemma takeFraction_written (t : DateTime) {rest : List Char} (hrest : EndsFraction rest) :
    takeFraction ((if t.nanosecond = 0 then [] else '.' :: zeroPadded 6 t.microsecond) ++ rest) =
      some (1000 * t.microsecond, rest) := by
  obtain ⟨hdigits, hpoint⟩ := hrest
  split_ifs with hzero
  · have hmicro : t.microsecond = 0 := by
      unfold microsecond
      rw [hzero]
    rw [hmicro, List.nil_append]
    unfold takeFraction
    split
    next => exact absurd rfl hpoint
    next => rfl
  · have hlt : t.microsecond < 10 ^ 6 := by
      unfold microsecond
      omega
    have hlength : (zeroPadded 6 t.microsecond).length = 6 := length_zeroPadded (by decide) hlt
    -- behind the six digits there is none to pass over
    have hstop : rest.dropWhile isDigit = rest := by
      cases rest with
      | nil => rfl
      | cons c rest => rw [List.dropWhile_cons, hdigits c rfl]; rfl
    rw [List.cons_append, takeFraction, takeDigits_zeroPadded (by omega) (.inr hdigits),
      Option.map_some]
    dsimp only
    rw [numberOf_zeroPadded, hlength, hstop, Nat.mul_comm]

/-! ### Dates and times -/

/-- The date and time to the microsecond. -/
def toMicrosecond (t : DateTime) : DateTime :=
  { t with nanosecond := t.nanosecond / 1000 * 1000 }

/-- The date and time that the written form begins with, and the rest. -/
def takeIso (l : List Char) : Option (DateTime × List Char) :=
  (takeFields (takeChar 'T') l).map fun (t, rest) => (t.settleLeapSecond, rest)

/-- What is read of the shown second and its fraction is what they show. -/
lemma settleLeapSecond_shown {t : DateTime} (h : t.HasTime) :
    settleLeapSecond { t with second := t.shownSecond, nanosecond := 1000 * t.microsecond } =
      t.toMicrosecond := by
  obtain ⟨-, -, hsecond, hnanosecond⟩ := h
  unfold settleLeapSecond toMicrosecond
  dsimp only
  split_ifs with hleap
  · have hs : 59 = t.second := by
      unfold shownSecond at hleap
      omega
    have hn : 1000 * t.microsecond + 1000000000 = t.nanosecond / 1000 * 1000 := by
      unfold shownSecond at hleap
      unfold microsecond
      omega
    rw [hn, hs]
  · have hs : t.shownSecond = t.second := by
      unfold shownSecond at hleap ⊢
      omega
    have hn : 1000 * t.microsecond = t.nanosecond / 1000 * 1000 := by
      unfold shownSecond at hleap
      unfold microsecond
      omega
    rw [hn, hs]

lemma takeChar_cons (c : Char) (l : List Char) : takeChar c (c :: l) = some l := if_pos rfl

/-- A date and time is read back from its written form, to the microsecond. -/
theorem takeIso_isoText {t : DateTime} (h : t.Exists) {rest : List Char}
    (hrest : EndsFraction rest) :
    takeIso (t.isoText ++ rest) = some (t.toMicrosecond, rest) := by
  obtain ⟨⟨-, hmonth, -, hday⟩, htime⟩ := h
  have ⟨hhour, hminute, hsecond, hnanosecond⟩ := htime
  have hmonthDays : daysInMonth t.year t.month ≤ 31 := by
    unfold daysInMonth
    split_ifs <;> omega
  have hshown : t.shownSecond < 100 := by
    unfold shownSecond
    omega
  unfold takeIso takeFields isoText
  simp only [List.append_assoc, List.cons_append, takeYear_yearText, takeChar_cons,
    takeNumber_two (show t.month < 100 by omega), takeNumber_two (show t.day < 100 by omega),
    takeNumber_two (show t.hour < 100 by omega), takeNumber_two (show t.minute < 100 by omega),
    takeNumber_two hshown, takeFraction_written t hrest, Option.bind_eq_bind, Option.bind_some,
    Option.pure_def, Option.map_some]
  exact congrArg (fun t => some (t, rest)) (settleLeapSecond_shown htime)

end DateTime

namespace OffsetDateTime

open DateTime

/-! ### Offsets -/

/-- The seconds of an offset, none when they are not shown, and the rest. -/
def takeSeconds : List Char → Option (ℕ × List Char)
  | ':' :: l => takeNumber 2 l
  | l => some (0, l)

/-- The size of an offset in seconds, and the rest. -/
def takeSpan (l : List Char) : Option (ℕ × List Char) := do
  let (hours, l) ← takeNumber 2 l
  let (minutes, l) ← takeNumber 2 (← takeChar ':' l)
  let (seconds, l) ← takeSeconds l
  return (3600 * hours + 60 * minutes + seconds, l)

/-- An offset in seconds, and the rest. -/
def takeOffset : List Char → Option (ℤ × List Char)
  | '+' :: l => (takeSpan l).map fun (n, rest) => ((n : ℤ), rest)
  | '-' :: l => (takeSpan l).map fun (n, rest) => (-(n : ℤ), rest)
  | _ => none

/-- The seconds are read whether they are shown or not. -/
lemma takeSeconds_written (n : ℕ) :
    takeSeconds (if n % 60 = 0 then [] else ':' :: zeroPadded 2 (n % 60)) = some (n % 60, []) := by
  split_ifs with hzero
  · rw [hzero]
    rfl
  · have hread := takeNumber_two (show n % 60 < 100 by omega) []
    rwa [List.append_nil] at hread

/-- The size of an offset of less than a hundred hours is read back. -/
lemma takeSpan_written {n : ℕ} (h : n < 360000) :
    takeSpan (zeroPadded 2 (n / 3600) ++ ':' :: (zeroPadded 2 (n / 60 % 60) ++
      (if n % 60 = 0 then [] else ':' :: zeroPadded 2 (n % 60)))) = some (n, []) := by
  have hvalue : 3600 * (n / 3600) + 60 * (n / 60 % 60) + n % 60 = n := by omega
  unfold takeSpan
  simp only [takeNumber_two (show n / 3600 < 100 by omega), takeChar_cons,
    takeNumber_two (show n / 60 % 60 < 100 by omega), takeSeconds_written, Option.bind_eq_bind,
    Option.bind_some, Option.pure_def, hvalue]

/-- An offset is read back from its written form, to the second. -/
theorem takeOffset_offsetText {offset : ℤ} (h : -86400 < offset ∧ offset < 86400) :
    takeOffset (offsetText offset) = some (offset, []) := by
  have hspan := takeSpan_written (show offset.natAbs < 360000 by omega)
  unfold offsetText
  simp only [List.append_assoc, List.cons_append]
  rcases lt_or_ge offset 0 with hneg | hpos
  · have hvalue : -(offset.natAbs : ℤ) = offset := by omega
    rw [if_pos hneg, takeOffset, hspan, Option.map_some]
    dsimp only
    rw [hvalue]
  · have hvalue : (offset.natAbs : ℤ) = offset := by omega
    rw [if_neg (not_lt.mpr hpos), takeOffset, hspan, Option.map_some]
    dsimp only
    rw [hvalue]

/-- An offset begins with its sign. -/
lemma exists_offsetText_eq_cons (offset : ℤ) :
    ∃ sign rest, (sign = '-' ∨ sign = '+') ∧ offsetText offset = sign :: rest := by
  refine ⟨if offset < 0 then '-' else '+', _, ?_, rfl⟩
  exact (em (offset < 0)).imp (fun h => if_pos h) fun h => if_neg h

/-- No offset can be taken for a part of the fraction in front of it. -/
lemma endsFraction_offsetText (offset : ℤ) : EndsFraction (offsetText offset) := by
  obtain ⟨sign, rest, hsign, htext⟩ := exists_offsetText_eq_cons offset
  rw [htext]
  constructor
  · intro c hc
    obtain rfl := Option.some.inj hc
    rcases hsign with rfl | rfl <;> rfl
  · rcases hsign with rfl | rfl <;> simp

end OffsetDateTime

end WarehouseAccess
