import Mathlib.Algebra.Group.Nat.Defs
import Mathlib.Algebra.Ring.Int.Defs
import WarehouseAccess.Proofs.Token.Cache
import WarehouseAccess.Token.Script

/-!
# How long a remembered token is used

A remembered token is used again unless it expires within the margin of the profile.  The margin is
an unsigned number of 64 bits, the seconds are signed ones, and the comparison is made in 64 bits
with sign.  `reuses_iff` says what that comes to over the integers: where neither the margin nor the
difference of expiry and clock leaves the range of signed numbers, the token is used again just when
at least the margin remains.  `expired_token_reused` is a margin that leaves it.
-/

namespace WarehouseAccess

namespace TokenAuthority

variable {σ : Type}

/-- The call for a token of the database is answered with the remembered one, and nobody is
asked. -/
def Reuses (a : TokenAuthority σ) (p : Profile) (s : TokenStrategy) (token : AccessToken) (w : σ) :
    Prop :=
  let step := a.step (.cachedToken p s) (some token) w
  step.result = .token (.ok token) ∧ step.asked = []

/-- The seconds that a token has left at the clock of a world, as an integer. -/
def remaining (a : TokenAuthority σ) (token : AccessToken) (w : σ) : Int :=
  token.expiresOn.toInt - (a.now w).1.toInt

/-- The margin that a profile sets, as an integer. -/
def marginOf (p : Profile) : Int := p.tokenRefreshMarginSecs.toNat

/-- Neither the margin of a profile nor the time that a token has left leaves the range of signed
numbers of 64 bits. -/
def FitsMargin (a : TokenAuthority σ) (p : Profile) (token : AccessToken) (w : σ) : Prop :=
  marginOf p < 2 ^ 63 ∧ -2 ^ 63 ≤ a.remaining token w ∧ a.remaining token w < 2 ^ 63

/-- A margin is never negative. -/
lemma marginOf_nonneg (p : Profile) : 0 ≤ marginOf p := Int.natCast_nonneg _

/-- A word of 64 bits as a signed number. -/
lemma toInt_toInt64 (n : UInt64) : n.toInt64.toInt = (n.toNat : Int).bmod (2 ^ 64) :=
  BitVec.toInt_eq_toNat_bmod n.toBitVec

/-- A number in the range of signed numbers of 64 bits is kept. -/
lemma bmod_of_inRange {n : Int} (hlo : -2 ^ 63 ≤ n) (hhi : n < 2 ^ 63) : n.bmod (2 ^ 64) = n :=
  Int.bmod_eq_of_le (by omega) (by omega)

/-- A number above that range comes out below zero. -/
lemma bmod_of_above {n : Int} (hlo : 2 ^ 63 ≤ n) (hhi : n < 2 ^ 64) :
    n.bmod (2 ^ 64) = n - 2 ^ 64 := by
  have hwraps : (n - 2 ^ 64).bmod (2 ^ 64) = n.bmod (2 ^ 64) := Int.sub_bmod_right n (2 ^ 64)
  rw [← hwraps]
  exact bmod_of_inRange (by omega) (by omega)

/-- Expiry within a margin, over the integers. -/
lemma expiresWithin_eq_false_iff (token : AccessToken) (margin now : Int64) :
    token.expiresWithin margin now = false ↔
      margin.toInt ≤ (token.expiresOn.toInt - now.toInt).bmod (2 ^ 64) := by
  rw [AccessToken.expiresWithin, decide_eq_false_iff_not, Int64.lt_iff_toInt_lt, Int64.toInt_sub,
    Int.not_lt]

/-- Expiry within the margin of a profile, in signed numbers of 64 bits: less than the margin
remains. -/
lemma expiresWithin_eq_false_iff_bmod (a : TokenAuthority σ) (p : Profile) (token : AccessToken)
    (w : σ) :
    token.expiresWithin p.tokenRefreshMarginSecs.toInt64 (a.now w).1 = false ↔
      (marginOf p).bmod (2 ^ 64) ≤ (a.remaining token w).bmod (2 ^ 64) := by
  rw [expiresWithin_eq_false_iff, toInt_toInt64]
  rfl

/-- Where nothing leaves their range, that is so over the integers. -/
lemma expiresWithin_eq_false_iff_le {a : TokenAuthority σ} {p : Profile} {token : AccessToken}
    {w : σ} (h : a.FitsMargin p token w) :
    token.expiresWithin p.tokenRefreshMarginSecs.toInt64 (a.now w).1 = false ↔
      marginOf p ≤ a.remaining token w := by
  obtain ⟨hmargin, hlo, hhi⟩ := h
  have hnonneg := marginOf_nonneg p
  rw [expiresWithin_eq_false_iff_bmod, bmod_of_inRange (by omega) hmargin, bmod_of_inRange hlo hhi]

/-- Where nothing leaves their range, a remembered token can be used again when at least the margin
remains. -/
lemma reusable_some_of_fits {a : TokenAuthority σ} {p : Profile} {token : AccessToken} {w : σ}
    (h : a.FitsMargin p token w) :
    a.reusable p (some token) w =
      if marginOf p ≤ a.remaining token w then some token else none := by
  have hfresh := expiresWithin_eq_false_iff_le h
  split_ifs with hmargin
  · simp [reusable, hfresh.mpr hmargin]
  · have hexpires : token.expiresWithin p.tokenRefreshMarginSecs.toInt64 (a.now w).1 = true := by
      simpa using mt hfresh.mp hmargin
    simp [reusable, hexpires]

/-- The remembered token is used again just when it can be by the rules. -/
lemma reuses_iff_expiresWithin (a : TokenAuthority σ) (p : Profile) (s : TokenStrategy)
    (token : AccessToken) (w : σ) :
    a.Reuses p s token w ↔
      token.expiresWithin p.tokenRefreshMarginSecs.toInt64 (a.now w).1 = false := by
  obtain ⟨outcome, hresult, hfinds⟩ := a.findsToken_cachedToken p s (some token) w
  constructor
  · rintro ⟨hreused, hasked⟩
    obtain rfl : outcome = .ok token := TokenReturn.token.inj (hresult.symm.trans hreused)
    rcases hfinds.source_of_ok with hnew | ⟨-, -, hfresh⟩
    · rw [hasked] at hnew
      cases hnew
    · exact hfresh
  · intro hfresh
    obtain ⟨houtcome, hasked⟩ := hfinds.reused token (by simp [reusable, hfresh])
    exact ⟨by rw [hresult, houtcome], hasked⟩

/-- The remembered token is used again when, in signed numbers of 64 bits, at least the margin
remains. -/
lemma reuses_iff_bmod (a : TokenAuthority σ) (p : Profile) (s : TokenStrategy)
    (token : AccessToken) (w : σ) :
    a.Reuses p s token w ↔
      (marginOf p).bmod (2 ^ 64) ≤ (a.remaining token w).bmod (2 ^ 64) := by
  rw [reuses_iff_expiresWithin, expiresWithin_eq_false_iff_bmod]

/-- When the remembered token is used again, for any expiry, clock and margin.

In signed numbers of 64 bits at least the margin remains.  For a margin in their range and a
difference of expiry and clock in it, that is so over the integers as well; then an expired token is
never used again.  Raising the margin within the range never makes a token be used again.  A margin
above the range counts as one below zero. -/
theorem reuses_iff (a : TokenAuthority σ) (p : Profile) (s : TokenStrategy) (token : AccessToken)
    (w : σ) :
    (a.Reuses p s token w ↔
      (marginOf p).bmod (2 ^ 64) ≤ (a.remaining token w).bmod (2 ^ 64)) ∧
    (-2 ^ 63 ≤ a.remaining token w → a.remaining token w < 2 ^ 63 →
      (marginOf p < 2 ^ 63 →
        (a.Reuses p s token w ↔ marginOf p ≤ a.remaining token w) ∧
        (a.remaining token w < 0 → ¬ a.Reuses p s token w)) ∧
      (2 ^ 63 ≤ marginOf p →
        (a.Reuses p s token w ↔ marginOf p - 2 ^ 64 ≤ a.remaining token w))) ∧
    ∀ higher : Profile, marginOf p ≤ marginOf higher → marginOf higher < 2 ^ 63 →
      a.Reuses higher s token w → a.Reuses p s token w := by
  refine ⟨a.reuses_iff_bmod p s token w, fun hlo hhi => ⟨fun hmargin => ?_, fun hmargin => ?_⟩,
    fun higher hle hhigher hreuses => ?_⟩
  · have hiff : a.Reuses p s token w ↔ marginOf p ≤ a.remaining token w := by
      rw [reuses_iff_expiresWithin, expiresWithin_eq_false_iff_le ⟨hmargin, hlo, hhi⟩]
    refine ⟨hiff, fun hexpired hreuses => ?_⟩
    have henough := hiff.mp hreuses
    have hnonneg := marginOf_nonneg p
    omega
  · have hlt : marginOf p < 2 ^ 64 := by
      have hword := p.tokenRefreshMarginSecs.toNat_lt
      rw [marginOf]
      omega
    rw [reuses_iff_bmod, bmod_of_above hmargin hlt, bmod_of_inRange hlo hhi]
  · have hnonneg := marginOf_nonneg p
    rw [reuses_iff_bmod, bmod_of_inRange (by omega) hhigher] at hreuses
    rw [reuses_iff_bmod, bmod_of_inRange (by omega) (by omega)]
    exact Int.le_trans hle hreuses

/-- A profile with a margin. -/
def marginProfile (margin : UInt64) : Profile :=
  { Profile.new "abc" "sales" "dbo" with tokenRefreshMarginSecs := margin }

/-- An authority whose clock stands where its world says. -/
def clockAuthority : TokenAuthority ScriptedTokens := .empty ScriptedTokens.bareSystem

/-- A token with 300 seconds left is used again with a margin of so many, and so with a smaller one,
and it is not with a larger one. -/
theorem reuses_at_margin :
    let token : AccessToken := ⟨"token-1", 1000⟩
    let w : ScriptedTokens := { clock := 700 }
    (-2 ^ 63 ≤ clockAuthority.remaining token w ∧ clockAuthority.remaining token w < 2 ^ 63) ∧
      marginOf (marginProfile 299) ≤ marginOf (marginProfile 300) ∧
      marginOf (marginProfile 301) < 2 ^ 63 ∧
      clockAuthority.Reuses (marginProfile 300) .cli token w ∧
      clockAuthority.Reuses (marginProfile 299) .cli token w ∧
      ¬ clockAuthority.Reuses (marginProfile 301) .cli token w := by
  intro token w
  have hlo : -2 ^ 63 ≤ clockAuthority.remaining token w := by decide
  have hhi : clockAuthority.remaining token w < 2 ^ 63 := by decide
  have hequal : clockAuthority.Reuses (marginProfile 300) .cli token w :=
    (((clockAuthority.reuses_iff (marginProfile 300) .cli token w).2.1 hlo hhi).1 (by decide)).1.mpr
      (by decide)
  have hsmaller : clockAuthority.Reuses (marginProfile 299) .cli token w :=
    (clockAuthority.reuses_iff (marginProfile 299) .cli token w).2.2 (marginProfile 300) (by decide)
      (by decide) hequal
  have hlarger : ¬ clockAuthority.Reuses (marginProfile 301) .cli token w := fun hreuses =>
    absurd ((((clockAuthority.reuses_iff (marginProfile 301) .cli token w).2.1 hlo hhi).1
      (by decide)).1.mp hreuses) (by decide)
  exact ⟨⟨hlo, hhi⟩, by decide, by decide, hequal, hsmaller, hlarger⟩

/-- A margin above the range of signed numbers: a token that expired 1000 seconds ago is used again,
though it would not be with a margin of 300 seconds. -/
theorem expired_token_reused :
    let token : AccessToken := ⟨"token-1", 1000⟩
    let w : ScriptedTokens := { clock := 2000 }
    clockAuthority.remaining token w = -1000 ∧
      marginOf (marginProfile 0x8000000000000000) = 2 ^ 63 ∧
      clockAuthority.Reuses (marginProfile 0x8000000000000000) .cli token w ∧
      ¬ clockAuthority.Reuses (marginProfile 300) .cli token w := by
  refine ⟨by decide, by decide, ⟨rfl, rfl⟩, fun hreuses => ?_⟩
  have hfresh := (clockAuthority.reuses_iff_expiresWithin _ _ _ _).mp hreuses
  exact absurd hfresh (by decide)

end TokenAuthority

end WarehouseAccess
