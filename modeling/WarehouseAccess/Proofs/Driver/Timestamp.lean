import WarehouseAccess.Driver.Timestamp
import WarehouseAccess.Proofs.Number.Words

/-!
# Reading timestamps

Which buffers are read as a timestamp, and as which one.

### Outline

* `shortAt` and `wordAt` are the numbers that stand in a buffer, and `ofBytes_eq` says that these
  are the fields that are read;
* `IsGregorianDate` is the calendar without the table of its months, and `hasDate_iff` that the
  dates are those of it;
* a field that is in range when it is taken as an unsigned number was not negative before
  (`isGregorianDate_unsigned`, `exists_offsetDateTime_iff`);
* `timestamp_of_buffer` puts these together, for every buffer.
-/

namespace WarehouseAccess

/-! ### The numbers in a buffer -/

/-- The signed number of two bytes that begins at a place of a buffer, least significant byte
first. -/
def shortAt (buffer : List UInt8) (place : ℕ) : ℤ :=
  ((Nat.ofDigits 256 (((buffer.drop place).take 2).map UInt8.toNat) : ℕ) : ℤ).bmod (2 ^ 16)

/-- The unsigned number of four bytes that begins at a place of a buffer, least significant byte
first. -/
def wordAt (buffer : List UInt8) (place : ℕ) : ℕ :=
  Nat.ofDigits 256 (((buffer.drop place).take 4).map UInt8.toNat)

/-- A signed number of two bytes. -/
lemma shortAt_range (buffer : List UInt8) (place : ℕ) :
    -2 ^ 15 ≤ shortAt buffer place ∧ shortAt buffer place < 2 ^ 15 := by
  unfold shortAt
  generalize ((Nat.ofDigits 256 (((buffer.drop place).take 2).map UInt8.toNat) : ℕ) : ℤ) = n
  have hle : -((2 ^ 16 : ℕ) / 2 : ℤ) ≤ n.bmod (2 ^ 16) := Int.le_bmod (by decide)
  have hlt : n.bmod (2 ^ 16) < ((2 ^ 16 : ℕ) + 1) / 2 := Int.bmod_lt (by decide)
  omega

/-- Two bytes make up a signed number. -/
lemma signed_word16 (a b : UInt8) :
    signed 16 (word16 a b) =
      ((Nat.ofDigits 256 ([a, b].map UInt8.toNat) : ℕ) : ℤ).bmod (2 ^ 16) := by
  rw [signed_eq_bmod (by decide) (word16_lt a b), ofDigits_two]

/-- The fields that stand in a buffer. -/
def storedFields (buffer : List UInt8) : TimestampFields where
  year := shortAt buffer 0
  month := shortAt buffer 2
  day := shortAt buffer 4
  hour := shortAt buffer 6
  minute := shortAt buffer 8
  second := shortAt buffer 10
  nanosecond := wordAt buffer 12
  offsetHours := shortAt buffer 16
  offsetMinutes := shortAt buffer 18

/-- The fields are read from buffers of the right size. -/
lemma ofBytes_eq (buffer : List UInt8) :
    TimestampFields.ofBytes buffer =
      if buffer.length = timestampSize then some (storedFields buffer) else none := by
  unfold TimestampFields.ofBytes
  split
  · simp only [signed_word16, ← ofDigits_four]
    rfl
  · rename_i hother
    rw [if_neg]
    intro hsize
    match buffer, hsize with
    | [y0, y1, mo0, mo1, d0, d1, h0, h1, mi0, mi1, s0, s1, n0, n1, n2, n3, oh0, oh1, om0, om1], _ =>
      exact hother _ _ _ _ _ _ _ _ _ _ _ _ _ _ _ _ _ _ _ _ rfl

-- What the numbers are does not matter any more, and unfolding them is slow.
attribute [local irreducible] shortAt wordAt

/-! ### Dates -/

/-- The date is one of the Gregorian calendar: a month has 31 or 30 days, and the second one 28 or,
in leap years, 29.  Every fourth year is a leap year, but of the full centuries every fourth
only. -/
def IsGregorianDate (year month day : ℤ) : Prop :=
  1 ≤ day ∧
    (month ∈ ({1, 3, 5, 7, 8, 10, 12} : Set ℤ) ∧ day ≤ 31 ∨
      month ∈ ({4, 6, 9, 11} : Set ℤ) ∧ day ≤ 30 ∨
      month = 2 ∧ (day ≤ 28 ∨ day = 29 ∧ 4 ∣ year ∧ (100 ∣ year → 400 ∣ year)))

/-- The leap years are those of the Gregorian calendar. -/
lemma isLeapYear_iff (year : ℤ) :
    isLeapYear year = true ↔ 4 ∣ year ∧ (100 ∣ year → 400 ∣ year) := by
  simp only [isLeapYear, Bool.and_eq_true, Bool.or_eq_true, beq_iff_eq, bne_iff_ne]
  omega

/-- The dates that exist are those of the Gregorian calendar. -/
lemma hasDate_iff (t : DateTime) : t.HasDate ↔ IsGregorianDate t.year t.month t.day := by
  unfold DateTime.HasDate IsGregorianDate daysInMonth
  simp only [Set.mem_insert_iff, Set.mem_singleton_iff, ← isLeapYear_iff, beq_iff_eq,
    Bool.or_eq_true]
  cases isLeapYear t.year with
  | false =>
    simp only [Bool.false_eq_true, if_false, and_false, or_false]
    split_ifs <;> omega
  | true =>
    simp only [if_true, and_true]
    split_ifs <;> omega

/-! ### Fields in range -/

/-- What the fields in a buffer have to be like. -/
structure HoldsTimestamp (buffer : List UInt8) : Prop where
  size : buffer.length = 20
  date : IsGregorianDate (shortAt buffer 0) (shortAt buffer 2) (shortAt buffer 4)
  hour : 0 ≤ shortAt buffer 6 ∧ shortAt buffer 6 < 24
  minute : 0 ≤ shortAt buffer 8 ∧ shortAt buffer 8 < 60
  second : 0 ≤ shortAt buffer 10 ∧ shortAt buffer 10 < 60
  fraction : wordAt buffer 12 < 10 ^ 9 ∨ shortAt buffer 10 = 59 ∧ wordAt buffer 12 < 2 * 10 ^ 9
  offset : -1440 < 60 * shortAt buffer 16 + shortAt buffer 18 ∧
    60 * shortAt buffer 16 + shortAt buffer 18 < 1440

/-- The timestamp has the fields of the buffer, the fraction cut down to microseconds. -/
structure ShowsFields (buffer : List UInt8) (t : OffsetDateTime) : Prop where
  year : t.wall.year = shortAt buffer 0
  month : t.wall.month = shortAt buffer 2
  day : t.wall.day = shortAt buffer 4
  hour : t.wall.hour = shortAt buffer 6
  minute : t.wall.minute = shortAt buffer 8
  second : t.wall.second = shortAt buffer 10
  nanosecond : t.wall.nanosecond = wordAt buffer 12 / 1000 * 1000
  offset : t.offset = 60 * (60 * shortAt buffer 16 + shortAt buffer 18)

/-- Months and days are counted from one. -/
lemma IsGregorianDate.range {year month day : ℤ} (h : IsGregorianDate year month day) :
    (1 ≤ month ∧ month ≤ 12) ∧ 1 ≤ day ∧ day ≤ 31 := by
  obtain ⟨hday, h | h | h⟩ := h
  · simp only [Set.mem_insert_iff, Set.mem_singleton_iff] at h
    omega
  · simp only [Set.mem_insert_iff, Set.mem_singleton_iff] at h
    omega
  · omega

/-- A negative month or day makes no date, also when it is taken as an unsigned number. -/
lemma isGregorianDate_unsigned {year month day : ℤ} (hmonth : -2 ^ 15 ≤ month ∧ month < 2 ^ 15)
    (hday : -2 ^ 15 ≤ day ∧ day < 2 ^ 15) :
    IsGregorianDate year (unsigned 32 month) (unsigned 32 day) ↔
      IsGregorianDate year month day := by
  constructor
  · intro h
    have hrange := h.range
    rwa [unsigned_eq hmonth (.inr (by omega)), unsigned_eq hday (.inr (by omega))] at h
  · intro h
    have hrange := h.range
    rwa [unsigned_eq hmonth (.inl (by omega)), unsigned_eq hday (.inl (by omega))]

/-- The timestamp of the fields in a buffer. -/
lemma offsetDateTime_storedFields (buffer : List UInt8) :
    (storedFields buffer).offsetDateTime =
      { wall :=
          { year := shortAt buffer 0
            month := unsigned 32 (shortAt buffer 2)
            day := unsigned 32 (shortAt buffer 4)
            hour := unsigned 32 (shortAt buffer 6)
            minute := unsigned 32 (shortAt buffer 8)
            second := unsigned 32 (shortAt buffer 10)
            nanosecond := wordAt buffer 12 / 1000 * 1000 }
        offset := 60 * (60 * shortAt buffer 16 + shortAt buffer 18) } := by
  simp only [TimestampFields.offsetDateTime, TimestampFields.dateTime, TimestampFields.totalMinutes,
    storedFields]

/-- The timestamp of the fields in a buffer exists just when they are in range. -/
lemma exists_offsetDateTime_iff {buffer : List UInt8} (hsize : buffer.length = 20) :
    (storedFields buffer).offsetDateTime.Exists ↔ HoldsTimestamp buffer := by
  have hdate : IsGregorianDate (shortAt buffer 0) (unsigned 32 (shortAt buffer 2))
      (unsigned 32 (shortAt buffer 4)) ↔
        IsGregorianDate (shortAt buffer 0) (shortAt buffer 2) (shortAt buffer 4) :=
    isGregorianDate_unsigned (shortAt_range buffer 2) (shortAt_range buffer 4)
  -- a field that is in range as an unsigned number was not negative
  have hhour := unsigned_cases (shortAt_range buffer 6)
  have hminute := unsigned_cases (shortAt_range buffer 8)
  have hsecond := unsigned_cases (shortAt_range buffer 10)
  rw [offsetDateTime_storedFields, OffsetDateTime.Exists, DateTime.Exists, hasDate_iff, hdate,
    DateTime.HasTime]
  dsimp only
  constructor
  · rintro ⟨⟨hdate', hh, hm, hs, hfraction⟩, hwest, heast⟩
    exact ⟨hsize, hdate', by omega, by omega, by omega, by omega, by omega⟩
  · rintro ⟨-, hdate', hh, hm, hs, hfraction, hwest, heast⟩
    exact ⟨⟨hdate', by omega, by omega, by omega, by omega⟩, by omega, by omega⟩

/-! ### All buffers -/

/-- A buffer in range is read as the timestamp of its fields, and any other is not read. -/
lemma decodeTimestamp_cases (buffer : List UInt8) :
    HoldsTimestamp buffer ∧ decodeTimestamp buffer = .ok (storedFields buffer).offsetDateTime ∨
      ¬ HoldsTimestamp buffer ∧ ∃ fault, decodeTimestamp buffer = .error fault := by
  unfold decodeTimestamp
  rw [ofBytes_eq]
  by_cases hsize : buffer.length = timestampSize
  · rw [if_pos hsize]
    dsimp only
    split_ifs with hexists
    · exact .inl ⟨(exists_offsetDateTime_iff hsize).mp hexists, rfl⟩
    · refine .inr ⟨fun h => hexists ?_, _, rfl⟩
      exact (exists_offsetDateTime_iff hsize).mpr h
  · rw [if_neg hsize]
    exact .inr ⟨fun h => hsize h.size, _, rfl⟩

/-- The timestamp of the fields of a buffer in range shows them. -/
lemma HoldsTimestamp.showsFields {buffer : List UInt8} (h : HoldsTimestamp buffer) :
    ShowsFields buffer (storedFields buffer).offsetDateTime := by
  obtain ⟨⟨hmonth, -⟩, hday, -⟩ := h.date.range
  have hfield {place : ℕ} (hnonneg : 0 ≤ shortAt buffer place) :
      (unsigned 32 (shortAt buffer place) : ℤ) = shortAt buffer place :=
    unsigned_eq (shortAt_range buffer place) (.inl hnonneg)
  rw [offsetDateTime_storedFields]
  exact {
    year := rfl
    month := hfield (by omega)
    day := hfield (by omega)
    hour := hfield h.hour.1
    minute := hfield h.minute.1
    second := hfield h.second.1
    nanosecond := rfl
    offset := rfl }

/-- Only one timestamp shows the fields of a buffer. -/
lemma ShowsFields.unique {buffer : List UInt8} {t t' : OffsetDateTime} (h : ShowsFields buffer t)
    (h' : ShowsFields buffer t') : t = t' := by
  have hmonth : t.wall.month = t'.wall.month := Int.ofNat_inj.mp (h.month.trans h'.month.symm)
  have hday : t.wall.day = t'.wall.day := Int.ofNat_inj.mp (h.day.trans h'.day.symm)
  have hhour : t.wall.hour = t'.wall.hour := Int.ofNat_inj.mp (h.hour.trans h'.hour.symm)
  have hminute : t.wall.minute = t'.wall.minute := Int.ofNat_inj.mp (h.minute.trans h'.minute.symm)
  have hsecond : t.wall.second = t'.wall.second := Int.ofNat_inj.mp (h.second.trans h'.second.symm)
  have hyear := h.year.trans h'.year.symm
  have hnanosecond := h.nanosecond.trans h'.nanosecond.symm
  have hoffset := h.offset.trans h'.offset.symm
  rcases t with ⟨⟨year, month, day, hour, minute, second, nanosecond⟩, offset⟩
  rcases t' with ⟨⟨year', month', day', hour', minute', second', nanosecond'⟩, offset'⟩
  simp only [OffsetDateTime.mk.injEq, DateTime.mk.injEq]
  exact ⟨⟨hyear, hmonth, hday, hhour, hminute, hsecond, hnanosecond⟩, hoffset⟩

/-- The number is a signed one of 32 bits. -/
def FitsSigned32 (n : ℤ) : Prop := -2 ^ 31 ≤ n ∧ n < 2 ^ 31

/-- The offset arithmetic stays within signed numbers of 32 bits. -/
lemma offset_fitsSigned32 (buffer : List UInt8) :
    FitsSigned32 (60 * shortAt buffer 16) ∧
      FitsSigned32 (60 * shortAt buffer 16 + shortAt buffer 18) ∧
      FitsSigned32 (60 * (60 * shortAt buffer 16 + shortAt buffer 18)) := by
  have hhours := shortAt_range buffer 16
  have hminutes := shortAt_range buffer 18
  unfold FitsSigned32
  omega

/-- What becomes of every buffer.  It is read as a timestamp just when it has twenty bytes, its
fields are a date of the Gregorian calendar and a time of day, a leap second behind second 59
included, and its offset is less than a day; the timestamp is the one that shows these fields, the
fraction cut down to microseconds.  Reading any other buffer is a data error.  The offset never
leaves the signed numbers of 32 bits on the way, and no negative field is in any range when it is
taken as unsigned. -/
theorem timestamp_of_buffer (buffer : List UInt8) :
    (∀ t, decodeTimestamp buffer = .ok t ↔ HoldsTimestamp buffer ∧ ShowsFields buffer t) ∧
    ((∃ t, decodeTimestamp buffer = .ok t) ↔ HoldsTimestamp buffer) ∧
    ((∃ message, (decodeTimestamp buffer).mapError TimestampFault.toDriverError =
      .error ⟨.data, message⟩) ↔ ¬ HoldsTimestamp buffer) ∧
    (FitsSigned32 (60 * shortAt buffer 16) ∧
      FitsSigned32 (60 * shortAt buffer 16 + shortAt buffer 18) ∧
      FitsSigned32 (60 * (60 * shortAt buffer 16 + shortAt buffer 18))) ∧
    ∀ place,
      0 ≤ shortAt buffer place ∧
        (unsigned 32 (shortAt buffer place) : ℤ) = shortAt buffer place ∨
      shortAt buffer place < 0 ∧ 2 ^ 31 ≤ unsigned 32 (shortAt buffer place) := by
  have hcasts (place : ℕ) := unsigned_cases (shortAt_range buffer place)
  rcases decodeTimestamp_cases buffer with ⟨hholds, hread⟩ | ⟨hholds, fault, hread⟩
  · refine ⟨fun t => ?_, ?_, ?_, offset_fitsSigned32 buffer, hcasts⟩
    · rw [hread, Except.ok.injEq, and_iff_right hholds]
      constructor
      · rintro rfl
        exact hholds.showsFields
      · exact hholds.showsFields.unique
    · exact iff_of_true ⟨_, hread⟩ hholds
    · rw [hread]
      exact iff_of_false (by rintro ⟨message, hmessage⟩; cases hmessage) (not_not.mpr hholds)
  · refine ⟨fun t => ?_, ?_, ?_, offset_fitsSigned32 buffer, hcasts⟩
    · rw [hread]
      exact iff_of_false nofun fun h => hholds h.1
    · rw [hread]
      exact iff_of_false (by rintro ⟨t, ht⟩; cases ht) hholds
    · rw [hread]
      exact iff_of_true ⟨fault.message, rfl⟩ hholds

end WarehouseAccess
