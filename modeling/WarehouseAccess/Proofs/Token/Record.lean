import Mathlib.Tactic.Common
import WarehouseAccess.Token.Authority

/-!
# What providers are asked

A token authority shows its results but not whom it asked for them.  `TokenAuthority.recorded` is
the authority whose world keeps, beside itself, a record of what providers were asked and what they
gave. Keeping the record changes nothing else: `cachedToken_recorded`, `preAuthAttributes_recorded`
and `controlPlaneToken_recorded` say so of the three ways to a token.
-/

namespace WarehouseAccess

/-- Whom an authority asks for a token. -/
inductive TokenSource where
  | strategy (s : TokenStrategy)
  /-- The provider for service principals. -/
  | principal
deriving DecidableEq, Repr

/-- A request to a provider and what came of it. -/
structure TokenAsk where
  source : TokenSource
  profile : Profile
  scope : String
  outcome : Except AuthError AccessToken

variable {σ : Type}

/-- The provider, with its requests put on record under a source. -/
def TokenProvider.recorded (provider : TokenProvider σ) (source : TokenSource) :
    TokenProvider (σ × List TokenAsk) where
  name := provider.name
  request p scope w :=
    let (outcome, world) := provider.request p scope w.1
    (outcome, world, w.2 ++ [⟨source, p, scope, outcome⟩])

namespace TokenAuthority

/-- The authority, with all requests to its providers put on record. -/
def recorded (a : TokenAuthority σ) : TokenAuthority (σ × List TokenAsk) where
  now w :=
    let (now, world) := a.now w.1
    (now, world, w.2)
  provider? s := (a.provider? s).map fun provider => provider.recorded (.strategy s)
  principal := a.principal.recorded .principal

/-- What stands on record after a new token of a strategy was asked for. -/
def asksOf (a : TokenAuthority σ) (p : Profile) (s : TokenStrategy) (scope : String) (w : σ) :
    List TokenAsk :=
  match a.provider? s with
  | none => []
  | some provider => [⟨.strategy s, p, scope, (provider.request p scope w).1⟩]

/-- A new token with the requests on record: the provider of the strategy, if there is one, is asked
once. -/
lemma fetch_recorded (a : TokenAuthority σ) (p : Profile) (s : TokenStrategy) (scope : String)
    (w : σ) (asked : List TokenAsk) :
    a.recorded.fetch p s scope (w, asked) =
      ((a.fetch p s scope w).1, (a.fetch p s scope w).2, asked ++ a.asksOf p s scope w) := by
  cases hprovider : a.provider? s with
  | none => simp [fetch, asksOf, recorded, hprovider]
  | some provider => simp [fetch, asksOf, recorded, TokenProvider.recorded, hprovider]

/-- A new token for the database with the requests on record. -/
lemma refresh_recorded (a : TokenAuthority σ) (p : Profile) (s : TokenStrategy)
    (cache : TokenCache) (w : σ) (asked : List TokenAsk) :
    a.recorded.refresh p s cache (w, asked) =
      ((a.refresh p s cache w).1, (a.refresh p s cache w).2.1, (a.refresh p s cache w).2.2,
        asked ++ a.asksOf p s databaseScope w) := by
  unfold refresh
  rw [fetch_recorded]
  rcases a.fetch p s databaseScope w with ⟨outcome, w'⟩
  cases outcome <;> rfl

/-- Without a remembered token a new one is fetched. -/
lemma cachedToken_none (a : TokenAuthority σ) (p : Profile) (s : TokenStrategy) (w : σ) :
    a.cachedToken p s none w = a.refresh p s none w := rfl

/-- A remembered token is used again unless it expires within the margin. -/
lemma cachedToken_some (a : TokenAuthority σ) (p : Profile) (s : TokenStrategy)
    (token : AccessToken) (w : σ) :
    a.cachedToken p s (some token) w =
      if token.expiresWithin p.tokenRefreshMarginSecs.toInt64 (a.now w).1 then
        a.refresh p s (some token) (a.now w).2
      else (.ok token, some token, (a.now w).2) := rfl

/-- The clock is not put on record. -/
lemma now_recorded (a : TokenAuthority σ) (w : σ) (asked : List TokenAsk) :
    a.recorded.now (w, asked) = ((a.now w).1, (a.now w).2, asked) := rfl

/-- Keeping a record does not change how the token for the database is found. -/
theorem cachedToken_recorded (a : TokenAuthority σ) (p : Profile) (s : TokenStrategy)
    (cache : TokenCache) (w : σ) (asked : List TokenAsk) :
    let (outcome, cache', world, _) := a.recorded.cachedToken p s cache (w, asked)
    (outcome, cache', world) = a.cachedToken p s cache w := by
  cases cache with
  | none => rw [cachedToken_none, cachedToken_none, refresh_recorded]
  | some token =>
    rw [cachedToken_some, cachedToken_some, now_recorded]
    dsimp only
    split_ifs
    · rw [refresh_recorded]
    · rfl

/-- Keeping a record does not change the attributes of a login. -/
theorem preAuthAttributes_recorded (a : TokenAuthority σ) (p : Profile) (b : Backend)
    (cache : TokenCache) (w : σ) (asked : List TokenAsk) :
    let (outcome, cache', world, _) := a.recorded.preAuthAttributes p b cache (w, asked)
    (outcome, cache', world) = a.preAuthAttributes p b cache w := by
  unfold preAuthAttributes
  split_ifs
  · cases p.authentication with
    | token s =>
      have h := a.cachedToken_recorded p s cache w asked
      dsimp only at h ⊢
      generalize a.recorded.cachedToken p s cache (w, asked) = answer at h ⊢
      obtain ⟨outcome, cache', world, asked'⟩ := answer
      rw [← h]
      cases outcome <;> rfl
    | _ => rfl
  · rfl

/-- Keeping a record does not change how a token for the control plane is found. -/
theorem controlPlaneToken_recorded (a : TokenAuthority σ) (p : Profile) (w : σ)
    (asked : List TokenAsk) :
    let (outcome, world, _) := a.recorded.controlPlaneToken p (w, asked)
    (outcome, world) = a.controlPlaneToken p w := by
  unfold controlPlaneToken
  cases p.authentication with
  | token s =>
    dsimp only
    rw [fetch_recorded]
  | _ => rfl

end TokenAuthority

end WarehouseAccess
