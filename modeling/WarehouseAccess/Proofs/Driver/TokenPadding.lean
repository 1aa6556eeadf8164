import WarehouseAccess.Proofs.Driver.TokenBuffer

/-!
# The padding of a token

In the buffer of a token every byte is followed by a zero byte.  These zero bytes are the padding:
reading passes over them, whatever they are.  So the buffers that a token is read from are those
that agree with its own buffer everywhere but in the padding (`decodeToken_eq_ok_iff_agree`), and
its own buffer is the one among them whose padding is zero (`buffers_of_token`).
-/

namespace WarehouseAccess

/-- The places of the padding: behind the four bytes of the length, every other one. -/
def IsPadding (place : ℕ) : Prop := 4 ≤ place ∧ place % 2 = 1

/-- There is nothing but zero in the padding of the buffer. -/
def ZeroPadded (buffer : List UInt8) : Prop :=
  ∀ place, IsPadding place → ∀ b, buffer[place]? = some b → b = 0

/-- The buffers are of one length and have the same bytes everywhere but in the padding. -/
structure AgreeButPadding (buffer buffer' : List UInt8) : Prop where
  length : buffer.length = buffer'.length
  bytes : ∀ place, ¬ IsPadding place → buffer[place]? = buffer'[place]?

namespace AgreeButPadding

variable {buffer buffer' : List UInt8}

lemma symm (h : AgreeButPadding buffer buffer') : AgreeButPadding buffer' buffer :=
  ⟨h.length.symm, fun place hplace => (h.bytes place hplace).symm⟩

/-- What is in front of the payload is the same. -/
lemma take_eq (h : AgreeButPadding buffer buffer') : buffer.take 4 = buffer'.take 4 := by
  apply List.ext_getElem?
  intro place
  rw [List.getElem?_take, List.getElem?_take]
  split_ifs with hplace
  · exact h.bytes place fun hpadding => by
      have := hpadding.1
      omega
  · rfl

/-- The payloads are of one length. -/
lemma length_payload (h : AgreeButPadding buffer buffer') :
    (buffer.drop 4).length = (buffer'.drop 4).length := by
  rw [List.length_drop, List.length_drop, h.length]

/-- The bytes at the even places of the payload are the same. -/
lemma getElem?_payload (h : AgreeButPadding buffer buffer') (i : ℕ) :
    (buffer.drop 4)[2 * i]? = (buffer'.drop 4)[2 * i]? := by
  rw [List.getElem?_drop, List.getElem?_drop]
  refine h.bytes (4 + 2 * i) fun hpadding => ?_
  have hodd := hpadding.2
  omega

/-- Which token a buffer stores does not depend on its padding. -/
lemma storesToken {token : String} (h : AgreeButPadding buffer buffer')
    (hstores : StoresToken buffer' token) : StoresToken buffer token where
  prefixed := by
    rw [h.length]
    exact hstores.prefixed
  stated := by
    have hstated : statedLength buffer = statedLength buffer' := by
      unfold statedLength
      rw [h.take_eq]
    rw [hstated, hstores.stated, h.length_payload]
  paired := by
    rw [h.length_payload]
    exact hstores.paired
  bytes i := by
    rw [h.getElem?_payload]
    exact hstores.bytes i

/-- Buffers without anything in their padding have no other difference. -/
lemma eq_of_zeroPadded (h : AgreeButPadding buffer buffer') (hzero : ZeroPadded buffer)
    (hzero' : ZeroPadded buffer') : buffer = buffer' := by
  apply List.ext_getElem h.length
  intro place hplace hplace'
  by_cases hpadding : IsPadding place
  · have hbyte := hzero place hpadding buffer[place] (List.getElem?_eq_getElem hplace)
    have hbyte' := hzero' place hpadding buffer'[place] (List.getElem?_eq_getElem hplace')
    rw [hbyte, hbyte']
  · have hbytes := h.bytes place hpadding
    rw [List.getElem?_eq_getElem hplace, List.getElem?_eq_getElem hplace'] at hbytes
    exact Option.some.inj hbytes

end AgreeButPadding

/-! ### Buffers of one token -/

/-- Behind every byte there is a zero byte. -/
lemma getElem?_widen_odd (l : List UInt8) (i : ℕ) :
    (widen l)[2 * i + 1]? = l[i]?.map fun _ => 0 := by
  induction l generalizing i with
  | nil => rfl
  | cons b rest ih =>
    cases i with
    | zero => rfl
    | succ i => exact ih i

/-- The padding of the buffer of a token is zero. -/
lemma zeroPadded_encodeToken (token : String) : ZeroPadded (encodeToken token) := by
  intro place hpadding b hb
  obtain ⟨hfour, hodd⟩ := hpadding
  obtain ⟨i, rfl⟩ : ∃ i, place = 4 + (2 * i + 1) := ⟨(place - 5) / 2, by omega⟩
  rw [← List.getElem?_drop, drop_encodeToken, getElem?_widen_odd, Option.map_eq_some_iff] at hb
  obtain ⟨_, _, hzero⟩ := hb
  exact hzero.symm

/-- Half of the bytes are left. -/
lemma length_narrow (payload : List UInt8) : (narrow payload).length = payload.length / 2 := by
  fun_induction narrow payload with
  | case1 a b rest ih =>
    simp only [List.length_cons, ih]
    omega
  | case2 payload hshort =>
    rcases payload with _ | ⟨a, _ | ⟨b, rest⟩⟩
    · rfl
    · simp
    · exact absurd rfl (hshort a b rest)

/-- The payload of a buffer that stores a token has two bytes for each of the token. -/
lemma StoresToken.length_drop {buffer : List UInt8} {token : String}
    (h : StoresToken buffer token) : (buffer.drop 4).length = 2 * token.utf8ByteSize := by
  have hnarrow : narrow (buffer.drop 4) = encodeUtf8 token := by
    apply List.ext_getElem?
    intro i
    rw [getElem?_narrow h.paired, h.bytes]
  have hlength := length_narrow (buffer.drop 4)
  rw [hnarrow, length_encodeUtf8] at hlength
  have heven := h.paired
  omega

/-- A length that fits is stated by its own four bytes only. -/
lemma take_eq_littleEndian32 {buffer : List UInt8} {n : ℕ} (h : 4 ≤ buffer.length)
    (hstated : statedLength buffer = n) : buffer.take 4 = littleEndian32 n ∧ n < 2 ^ 31 := by
  rcases buffer with _ | ⟨a, _ | ⟨b, _ | ⟨c, _ | ⟨d, payload⟩⟩⟩⟩
  case cons.cons.cons.cons =>
    rw [← signed_word32] at hstated
    obtain ⟨hword, hsmall⟩ := eq_of_signed_eq hstated (word32_lt a b c d)
    refine ⟨?_, hsmall⟩
    rw [← hword, littleEndian32_word32]
    rfl
  all_goals simp at h

/-- A buffer that stores a token is the token's own one but for the padding. -/
lemma StoresToken.agreeButPadding {buffer : List UInt8} {token : String}
    (h : StoresToken buffer token) :
    token.utf8ByteSize < 2 ^ 30 ∧ AgreeButPadding buffer (encodeToken token) := by
  have hpayload := h.length_drop
  have hown : ((encodeToken token).drop 4).length = 2 * token.utf8ByteSize := by
    rw [drop_encodeToken, length_payload]
  have hstated := h.stated
  rw [hpayload] at hstated
  obtain ⟨hhead, hsmall⟩ := take_eq_littleEndian32 h.prefixed hstated
  refine ⟨by omega, ⟨?_, fun place hplace => ?_⟩⟩
  · have hprefixed := h.prefixed
    have hprefixed' : 4 ≤ (encodeToken token).length := by simp [encodeToken, littleEndian32]
    rw [List.length_drop] at hpayload hown
    omega
  · rcases Nat.lt_or_ge place 4 with hfront | hbehind
    · have htake : (buffer.take 4)[place]? = ((encodeToken token).take 4)[place]? := by
        rw [hhead, take_encodeToken]
      rwa [List.getElem?_take_of_lt hfront, List.getElem?_take_of_lt hfront] at htake
    · have heven : place % 2 ≠ 1 := fun hodd => hplace ⟨hbehind, hodd⟩
      obtain ⟨i, rfl⟩ : ∃ i, place = 4 + 2 * i := ⟨(place - 4) / 2, by omega⟩
      rw [← List.getElem?_drop, ← List.getElem?_drop, h.bytes, drop_encodeToken, getElem?_payload]

/-- A token is read from the buffers that are its own one but for the padding, if it is of fewer
than `2 ^ 30` bytes, and from no others. -/
lemma decodeToken_eq_ok_iff_agree {buffer : List UInt8} {token : String} :
    decodeToken buffer = .ok token ↔
      token.utf8ByteSize < 2 ^ 30 ∧ AgreeButPadding buffer (encodeToken token) := by
  rw [decodeToken_eq_ok_iff]
  constructor
  · intro h
    exact h.agreeButPadding
  · rintro ⟨hsize, hagree⟩
    apply hagree.storesToken
    exact storesToken_encodeToken_iff.mpr ⟨rfl, hsize⟩

/-- Which buffers a token is read from, and which of them is its own one.  What stands in the
padding makes no difference to reading, so of a token of fewer than `2 ^ 30` bytes these are all the
buffers that agree with its own one elsewhere; only where the padding is zero is it the same
buffer. -/
theorem buffers_of_token (buffer : List UInt8) (token : String) :
    (decodeToken buffer = .ok token ↔
      token.utf8ByteSize < 2 ^ 30 ∧ AgreeButPadding buffer (encodeToken token)) ∧
    (decodeToken buffer = .ok token ∧ ZeroPadded buffer ↔
      token.utf8ByteSize < 2 ^ 30 ∧ buffer = encodeToken token) := by
  refine ⟨decodeToken_eq_ok_iff_agree, ?_⟩
  rw [decodeToken_eq_ok_iff_agree, and_assoc]
  apply and_congr_right
  intro _
  constructor
  · rintro ⟨hagree, hzero⟩
    exact hagree.eq_of_zeroPadded hzero (zeroPadded_encodeToken token)
  · rintro rfl
    exact ⟨⟨rfl, fun _ _ => rfl⟩, zeroPadded_encodeToken token⟩

/-- A token is read from a buffer that is not its own. -/
theorem token_behind_padding :
    decodeToken [2, 0, 0, 0, 97, 1] = .ok "a" ∧ encodeToken "a" ≠ [2, 0, 0, 0, 97, 1] := by
  constructor
  · decide +kernel
  · decide

end WarehouseAccess
