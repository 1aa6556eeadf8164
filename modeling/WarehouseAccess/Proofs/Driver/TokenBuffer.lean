import WarehouseAccess.Driver.TokenBuffer
import WarehouseAccess.Proofs.Number.Words

/-!
# Reading a token back

A token is put into a buffer behind the length of its payload, two bytes for each of its own.  The
length is a signed number of 32 bits, so it is the length of tokens of fewer than `2 ^ 30` bytes
only: these are read back as they were, and the buffers of longer ones store no token at all.

### Outline

* `StoresToken` says which buffers store which token, and `decodeToken_eq_ok_iff` that these are
  read as that token.  The length that a buffer states is `statedLength`;
* `storesToken_encodeToken_iff` applies it to the buffers that are written;
* `encodeUtf16` is what a driver takes a payload for, and `drop_encodeToken_eq_encodeUtf16_iff` says
  when that is right;
* `tokenBuffer_codec` puts these together, for every token and every buffer.
-/

namespace WarehouseAccess

/-! ### Texts -/

/-- The bytes of a text are those that it is made of. -/
lemma encodeUtf8_eq (s : String) : encodeUtf8 s = s.toByteArray.data.toList := by
  rw [← String.utf8Encode_toList, List.utf8Encode, List.data_toByteArray, encodeUtf8]

/-- Bytes are read as the text whose bytes they are. -/
lemma decodeUtf8_eq_ok_iff {bytes : List UInt8} {s : String} :
    decodeUtf8 bytes = .ok s ↔ bytes = encodeUtf8 s := by
  have hbytes : bytes = encodeUtf8 s ↔ s.toByteArray = ⟨bytes.toArray⟩ := by
    rw [encodeUtf8_eq, ByteArray.ext_iff, Array.toList_inj.symm]
    exact eq_comm
  rw [hbytes, decodeUtf8, String.fromUTF8?]
  split_ifs with hvalid
  · rw [Except.ok.injEq, ← String.toByteArray_inj]
    exact eq_comm
  · have hother : s.toByteArray ≠ ⟨bytes.toArray⟩ := fun h => hvalid (h ▸ s.isValidUTF8)
    simp [hother]

/-- A text is read back from its bytes. -/
lemma decodeUtf8_encodeUtf8 (s : String) : decodeUtf8 (encodeUtf8 s) = .ok s :=
  decodeUtf8_eq_ok_iff.mpr rfl

/-- No two texts have the same bytes. -/
lemma encodeUtf8_inj {s t : String} : encodeUtf8 s = encodeUtf8 t ↔ s = t := by
  rw [← decodeUtf8_eq_ok_iff, decodeUtf8_encodeUtf8, Except.ok.injEq]

/-- A text has as many bytes as it is long in UTF-8. -/
lemma length_encodeUtf8 (s : String) : (encodeUtf8 s).length = s.utf8ByteSize := by
  rw [encodeUtf8_eq]
  rfl

/-! ### Payloads -/

/-- The bytes at the even places. -/
lemma getElem?_narrow {payload : List UInt8} (h : payload.length % 2 = 0) (i : ℕ) :
    (narrow payload)[i]? = payload[2 * i]? := by
  fun_induction narrow payload generalizing i with
  | case1 a b rest ih =>
    cases i with
    | zero => rfl
    | succ i =>
      have hrest : rest.length % 2 = 0 := by
        simp only [List.length_cons] at h
        omega
      exact ih hrest i
  | case2 payload hshort =>
    -- a payload of one byte is odd
    have hempty : payload = [] := by
      match payload with
      | [] => rfl
      | [_] => simp at h
      | a :: b :: rest => exact absurd rfl (hshort a b rest)
    rw [hempty]
    rfl

/-- The length that the first four bytes of a buffer state: a signed number, least significant byte
first. -/
def statedLength (buffer : List UInt8) : ℤ :=
  ((Nat.ofDigits 256 ((buffer.take 4).map UInt8.toNat) : ℕ) : ℤ).bmod (2 ^ 32)

/-- The length that is read from the first four bytes is the one that they state. -/
lemma signed_word32 (a b c d : UInt8) (payload : List UInt8) :
    signed 32 (word32 a b c d) = statedLength (a :: b :: c :: d :: payload) := by
  rw [signed_eq_bmod (by decide) (word32_lt a b c d), ← ofDigits_four]
  rfl

/-! ### Buffers -/

/-- The buffer stores the token: it states the length of its payload, which is even and has the
bytes of the token at its even places. -/
structure StoresToken (buffer : List UInt8) (token : String) : Prop where
  prefixed : 4 ≤ buffer.length
  stated : statedLength buffer = (buffer.drop 4).length
  paired : (buffer.drop 4).length % 2 = 0
  bytes : ∀ i : ℕ, (buffer.drop 4)[2 * i]? = (encodeUtf8 token)[i]?

/-- A token is read from the buffers that store it. -/
lemma decodeToken_eq_ok_iff {buffer : List UInt8} {token : String} :
    decodeToken buffer = .ok token ↔ StoresToken buffer token := by
  match buffer with
  | [] | [_] | [_, _] | [_, _, _] =>
    refine ⟨nofun, fun h => ?_⟩
    have hlong := h.prefixed
    simp at hlong
  | a :: b :: c :: d :: payload =>
    rw [decodeToken, signed_word32 a b c d payload]
    split_ifs with h
    · obtain ⟨hlength, heven⟩ := h
      have hbytes : decodeUtf8 (narrow payload) = .ok token ↔
          ∀ i : ℕ, payload[2 * i]? = (encodeUtf8 token)[i]? := by
        simp only [decodeUtf8_eq_ok_iff, ← getElem?_narrow heven]
        exact ⟨fun h i => by rw [h], List.ext_getElem?⟩
      have hread : decodeUtf8 (narrow payload) = .ok token ↔
          StoresToken (a :: b :: c :: d :: payload) token := by
        rw [hbytes]
        exact ⟨fun h => ⟨by simp, hlength, heven, h⟩, fun h => h.bytes⟩
      rw [← hread]
      cases decodeUtf8 (narrow payload) <;> simp
    · refine ⟨nofun, fun hstores => ?_⟩
      exact absurd ⟨hstores.stated, hstores.paired⟩ h

/-- What is read from a buffer that stores no token is an interface error. -/
lemma decodeToken_of_not_stores {buffer : List UInt8} (h : ¬ ∃ token, StoresToken buffer token) :
    ∃ message, (decodeToken buffer).mapError TokenBufferFault.toDriverError =
      .error ⟨.interface, message⟩ := by
  cases hread : decodeToken buffer with
  | ok token => exact absurd ⟨token, decodeToken_eq_ok_iff.mp hread⟩ h
  | error fault => exact ⟨fault.message, rfl⟩

/-- The payload of a token. -/
lemma drop_encodeToken (token : String) :
    (encodeToken token).drop 4 = widen (encodeUtf8 token) := rfl

/-- A payload has two bytes for each of its token. -/
lemma length_payload (token : String) :
    (widen (encodeUtf8 token)).length = 2 * token.utf8ByteSize := by
  rw [length_widen, length_encodeUtf8]

/-- The bytes of a token stand at the even places of its payload. -/
lemma getElem?_payload (token : String) (i : ℕ) :
    (widen (encodeUtf8 token))[2 * i]? = (encodeUtf8 token)[i]? := by
  rw [← getElem?_narrow (by rw [length_payload]; omega), narrow_widen]

/-- In front of the payload stands its length. -/
lemma take_encodeToken (token : String) :
    (encodeToken token).take 4 = littleEndian32 (2 * token.utf8ByteSize) := by
  rw [encodeToken, length_payload]
  rfl

/-- The buffer of a token states the length of its payload, as far as 32 bits with a sign go. -/
lemma statedLength_encodeToken (token : String) :
    statedLength (encodeToken token) = ((2 * token.utf8ByteSize : ℕ) : ℤ).bmod (2 ^ 32) := by
  unfold statedLength
  rw [take_encodeToken, ofDigits_littleEndian32]
  generalize 2 * token.utf8ByteSize = n
  exact Int.emod_bmod n (2 ^ 32)

/-- The buffer of a token stores that token, as long as it is of fewer than `2 ^ 30` bytes, and
never another one. -/
lemma storesToken_encodeToken_iff {token token' : String} :
    StoresToken (encodeToken token) token' ↔ token' = token ∧ token.utf8ByteSize < 2 ^ 30 := by
  have hfits : ((2 * token.utf8ByteSize : ℕ) : ℤ).bmod (2 ^ 32) = (2 * token.utf8ByteSize : ℕ) ↔
      token.utf8ByteSize < 2 ^ 30 := by
    rw [Int.bmod_def]
    norm_num
    split_ifs <;> omega
  constructor
  · intro h
    have hbytes : encodeUtf8 token = encodeUtf8 token' := by
      apply List.ext_getElem?
      intro i
      rw [← getElem?_payload, ← drop_encodeToken, h.bytes]
    have hstated := h.stated
    rw [statedLength_encodeToken, drop_encodeToken, length_payload, hfits] at hstated
    exact ⟨(encodeUtf8_inj.mp hbytes).symm, hstated⟩
  · rintro ⟨rfl, hsize⟩
    refine ⟨by simp [encodeToken, littleEndian32], ?_, ?_, getElem?_payload token'⟩
    · rw [statedLength_encodeToken, drop_encodeToken, length_payload, hfits]
      exact hsize
    · rw [drop_encodeToken, length_payload]
      omega

/-- A token of fewer than `2 ^ 30` bytes is read back from its buffer. -/
theorem decodeToken_encodeToken {token : String} (h : token.utf8ByteSize < 2 ^ 30) :
    decodeToken (encodeToken token) = .ok token :=
  decodeToken_eq_ok_iff.mpr (storesToken_encodeToken_iff.mpr ⟨rfl, h⟩)

/-! ### Payloads as wide characters -/

/-- The units of 16 bits of a character: one for the first `2 ^ 16` code points, and two for those
beyond. -/
def utf16Units (c : Char) : List ℕ :=
  if c.toNat < 0x10000 then [c.toNat]
  else [0xD800 + (c.toNat - 0x10000) / 0x400, 0xDC00 + (c.toNat - 0x10000) % 0x400]

/-- The bytes of a character in UTF-16, the less significant one of a unit first. -/
def utf16Bytes (c : Char) : List UInt8 :=
  (utf16Units c).flatMap fun unit => [unit.toUInt8, (unit / 0x100).toUInt8]

/-- The bytes of a text in UTF-16. -/
def encodeUtf16 (s : String) : List UInt8 := s.toList.flatMap utf16Bytes

lemma widen_append (first second : List UInt8) :
    widen (first ++ second) = widen first ++ widen second := by
  induction first with
  | nil => rfl
  | cons b first ih => rw [List.cons_append, widen, widen, ih, List.cons_append, List.cons_append]

/-- An ASCII character is as wide in UTF-16 as in a payload, and the same there. -/
lemma widen_utf8EncodeChar_of_ascii {c : Char} (h : c.toNat < 0x80) :
    widen (String.utf8EncodeChar c) = utf16Bytes c := by
  have hone : c.utf8Size = 1 := by
    rw [Char.utf8Size_eq_one_iff, UInt32.le_iff_toNat_le]
    exact Nat.le_of_lt_succ h
  have hhigh : (c.toNat / 0x100).toUInt8 = 0 := by
    rw [Nat.div_eq_of_lt (by omega)]
    rfl
  rw [String.utf8EncodeChar_eq_singleton hone, utf16Bytes, utf16Units, if_pos (by omega)]
  simp only [List.flatMap_cons, List.flatMap_nil, List.append_nil, hhigh]
  rfl

/-- A payload has two bytes for each byte of a character. -/
lemma length_widen_utf8EncodeChar (c : Char) :
    (widen (String.utf8EncodeChar c)).length = 2 * c.utf8Size := by
  rw [length_widen, String.length_utf8EncodeChar]

/-- No character is longer in UTF-16 than in a payload, and those beyond ASCII are shorter. -/
lemma length_utf16Bytes (c : Char) :
    (utf16Bytes c).length ≤ 2 * c.utf8Size ∧
      (¬ c.toNat < 0x80 → (utf16Bytes c).length < 2 * c.utf8Size) := by
  have hpos : 0 < c.utf8Size := c.utf8Size_pos
  rw [utf16Bytes, utf16Units]
  split_ifs with hplane
  · have hunit : (List.flatMap (fun unit => [unit.toUInt8, (unit / 0x100).toUInt8])
        [c.toNat]).length = 2 := rfl
    rw [hunit]
    refine ⟨by omega, fun hwide => ?_⟩
    have hone : c.utf8Size ≠ 1 := by
      rw [Ne, Char.utf8Size_eq_one_iff, UInt32.le_iff_toNat_le]
      exact fun h => hwide (Nat.lt_succ_of_le h)
    omega
  · have hfour : c.utf8Size = 4 := by
      rw [Char.utf8Size_eq_four_iff, UInt32.lt_iff_toNat_lt]
      exact Nat.lt_of_succ_le (Nat.le_of_not_lt hplane)
    simp [hfour]

/-- The payload of a text, character by character. -/
lemma widen_flatMap_cons (c : Char) (text : List Char) :
    widen ((c :: text).flatMap String.utf8EncodeChar) =
      widen (String.utf8EncodeChar c) ++ widen (text.flatMap String.utf8EncodeChar) := by
  rw [List.flatMap_cons, widen_append]

/-- A payload is at least as long as the text in UTF-16. -/
lemma length_flatMap_utf16Bytes_le (text : List Char) :
    (text.flatMap utf16Bytes).length ≤ (widen (text.flatMap String.utf8EncodeChar)).length := by
  induction text with
  | nil => exact Nat.le_refl 0
  | cons c text ih =>
    have hchar := (length_utf16Bytes c).1
    rw [widen_flatMap_cons, List.flatMap_cons, List.length_append, List.length_append,
      length_widen_utf8EncodeChar]
    omega

/-- The payload of a token is its UTF-16 exactly when the token is ASCII: a wider character makes
the payload the longer of the two. -/
lemma drop_encodeToken_eq_encodeUtf16_iff {token : String} :
    (encodeToken token).drop 4 = encodeUtf16 token ↔ ∀ c ∈ token.toList, c.toNat < 0x80 := by
  rw [drop_encodeToken, encodeUtf8, encodeUtf16]
  induction token.toList with
  | nil => simp [widen]
  | cons c text ih =>
    rw [widen_flatMap_cons, List.flatMap_cons, List.forall_mem_cons, ← ih]
    by_cases hascii : c.toNat < 0x80
    · rw [widen_utf8EncodeChar_of_ascii hascii, List.append_cancel_left_eq]
      exact (and_iff_right hascii).symm
    · refine ⟨fun h => ?_, fun h => absurd h.1 hascii⟩
      have hlength := congrArg List.length h
      have hchar := (length_utf16Bytes c).2 hascii
      have hrest := length_flatMap_utf16Bytes_le text
      rw [List.length_append, List.length_append, length_widen_utf8EncodeChar] at hlength
      omega

/-! ### All tokens and all buffers -/

/-- What holds of all buffers of tokens.  A token of fewer than `2 ^ 30` bytes is read back from its
buffer, and from the buffer of a longer one nothing is read; the payload is the token in UTF-16 if
that is ASCII, and only then.  Of any buffer whatsoever, either it stores a token, which is what is
read from it, or reading it is an interface error. -/
theorem tokenBuffer_codec :
    (∀ token : String,
      (decodeToken (encodeToken token) = .ok token ↔ token.utf8ByteSize < 2 ^ 30) ∧
      (¬ token.utf8ByteSize < 2 ^ 30 →
        ∃ message, (decodeToken (encodeToken token)).mapError TokenBufferFault.toDriverError =
          .error ⟨.interface, message⟩) ∧
      ((encodeToken token).drop 4 = encodeUtf16 token ↔ ∀ c ∈ token.toList, c.toNat < 0x80)) ∧
    ∀ buffer : List UInt8,
      (∀ token, decodeToken buffer = .ok token ↔ StoresToken buffer token) ∧
      ((¬ ∃ token, StoresToken buffer token) →
        ∃ message, (decodeToken buffer).mapError TokenBufferFault.toDriverError =
          .error ⟨.interface, message⟩) := by
  refine ⟨fun token => ⟨?_, ?_, drop_encodeToken_eq_encodeUtf16_iff⟩, fun buffer =>
    ⟨fun token => decodeToken_eq_ok_iff, decodeToken_of_not_stores⟩⟩
  · rw [decodeToken_eq_ok_iff, storesToken_encodeToken_iff]
    exact and_iff_right rfl
  · intro hlarge
    apply decodeToken_of_not_stores
    rintro ⟨token', hstores⟩
    exact hlarge (storesToken_encodeToken_iff.mp hstores).2

end WarehouseAccess
