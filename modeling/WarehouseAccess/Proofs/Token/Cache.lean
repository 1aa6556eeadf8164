import WarehouseAccess.Proofs.Token.Record

/-!
# The remembered token

An authority remembers the last token for the database.  Here it is called any number of times, in
any order, for any profiles and strategies and at any clock, and every call is put on record: what
it returned, which providers it asked, and the remembered token before and after it.

### Outline

* `TokenAuthority.step` and `TokenAuthority.history` are one call and the calls of a run;
* `TokenAuthority.FindsToken` are the rules by which a token for the database is found, and
  `findsToken_recorded` shows that they are kept;
* `TokenAuthority.IgnoresCache` says that a call neither reads nor changes what is remembered;
* `rules_of_history` puts the calls of a run together, and says which token is remembered at every
  moment of it.
-/

namespace WarehouseAccess

variable {σ : Type}

/-- What an authority is called for. -/
inductive TokenCall where
  | cachedToken (p : Profile) (s : TokenStrategy)
  | preAuthAttributes (p : Profile) (b : Backend)
  | controlPlaneToken (p : Profile)
  /-- The remembered token is forgotten. -/
  | clear
deriving DecidableEq

/-- What a call returns. -/
inductive TokenReturn where
  | token (outcome : Except AuthError AccessToken)
  | attributes (outcome : Except AuthError LoginAttributes)
  | bearer (outcome : Except AuthError String)
  | nothing

/-- A call as it went. -/
structure TokenStep (σ : Type) where
  call : TokenCall
  /-- What was remembered before the call. -/
  cache : TokenCache
  world : σ
  result : TokenReturn
  /-- What providers were asked, in order. -/
  asked : List TokenAsk
  cacheAfter : TokenCache
  worldAfter : σ

namespace TokenAuthority

/-- What a call returns, what is remembered after it, and the world after it. -/
def perform (a : TokenAuthority σ) (call : TokenCall) (cache : TokenCache) (w : σ) :
    TokenReturn × TokenCache × σ :=
  match call with
  | .cachedToken p s =>
    let (outcome, cache, w) := a.cachedToken p s cache w
    (.token outcome, cache, w)
  | .preAuthAttributes p b =>
    let (outcome, cache, w) := a.preAuthAttributes p b cache w
    (.attributes outcome, cache, w)
  | .controlPlaneToken p =>
    let (outcome, w) := a.controlPlaneToken p w
    (.bearer outcome, cache, w)
  | .clear => (.nothing, TokenCache.clear cache, w)

/-- A call with what providers were asked. -/
def step (a : TokenAuthority σ) (call : TokenCall) (cache : TokenCache) (w : σ) : TokenStep σ :=
  let (result, cacheAfter, worldAfter, asked) := a.recorded.perform call cache (w, [])
  { call, cache, world := w, result, asked, cacheAfter, worldAfter }

/-- Calls one after the other. -/
def history (a : TokenAuthority σ) : List TokenCall → TokenCache → σ → List (TokenStep σ)
  | [], _, _ => []
  | call :: rest, cache, w =>
    let step := a.step call cache w
    step :: history a rest step.cacheAfter step.worldAfter

/-- A call that is put on record goes as the call itself. -/
theorem step_eq_perform (a : TokenAuthority σ) (call : TokenCall) (cache : TokenCache) (w : σ) :
    ((a.step call cache w).result, (a.step call cache w).cacheAfter,
      (a.step call cache w).worldAfter) = a.perform call cache w := by
  cases call with
  | cachedToken p s =>
    have h := a.cachedToken_recorded p s cache w []
    dsimp only at h
    simp only [step, perform, ← h]
  | preAuthAttributes p b =>
    have h := a.preAuthAttributes_recorded p b cache w []
    dsimp only at h
    simp only [step, perform, ← h]
  | controlPlaneToken p =>
    have h := a.controlPlaneToken_recorded p w []
    dsimp only at h
    simp only [step, perform, ← h]
  | clear => rfl

/-! ### Finding a token for the database -/

/-- The remembered token, if there is one that does not expire within the margin of the profile. -/
def reusable (a : TokenAuthority σ) (p : Profile) (cache : TokenCache) (w : σ) : TokenCache :=
  cache.filter fun token => !token.expiresWithin p.tokenRefreshMarginSecs.toInt64 (a.now w).1

/-- The rules by which a token for the database is found. -/
structure FindsToken (a : TokenAuthority σ) (p : Profile) (s : TokenStrategy) (cache : TokenCache)
    (w : σ) (outcome : Except AuthError AccessToken) (asked : List TokenAsk)
    (cacheAfter : TokenCache) : Prop where
  /-- A remembered token that can be used again is, and nobody is asked. -/
  reused : ∀ token, a.reusable p cache w = some token → outcome = .ok token ∧ asked = []
  /-- Otherwise the provider of the strategy is asked once, for a token of the database. -/
  asked_once : a.reusable p cache w = none → (a.provider? s).isSome →
    asked = [⟨.strategy s, p, databaseScope, outcome⟩]
  /-- If there is no such provider, the error says so. -/
  unprovided : a.reusable p cache w = none → a.provider? s = none →
    outcome = .error (.noProvider s.text) ∧ asked = []
  /-- The token that is found is remembered, however soon it expires. -/
  remembered : ∀ token, outcome = .ok token → cacheAfter = some token
  /-- Without one what was remembered stays. -/
  kept : ∀ e, outcome = .error e → cacheAfter = cache

namespace FindsToken

variable {a : TokenAuthority σ} {p : Profile} {s : TokenStrategy} {cache cacheAfter : TokenCache}
  {w : σ} {token : AccessToken} {outcome : Except AuthError AccessToken} {asked : List TokenAsk}

/-- The remembered token is used again. -/
lemma of_reusable (h : a.reusable p (some token) w = some token) :
    a.FindsToken p s (some token) w (.ok token) [] (some token) where
  reused token' htoken := ⟨congrArg Except.ok (Option.some.inj (h.symm.trans htoken)), rfl⟩
  asked_once hnone := by simp [h] at hnone
  unprovided hnone := by simp [h] at hnone
  remembered token' htoken := congrArg some (Except.ok.inj htoken)
  kept _ _ := rfl

/-- There is nobody to ask. -/
lemma of_noProvider (h : a.reusable p cache w = none) (hprovider : a.provider? s = none) :
    a.FindsToken p s cache w (.error (.noProvider s.text)) [] cache where
  reused token htoken := by simp [h] at htoken
  asked_once _ hsome := by simp [hprovider] at hsome
  unprovided _ _ := ⟨rfl, rfl⟩
  remembered token htoken := by simp at htoken
  kept _ _ := rfl

/-- The provider is asked, and the token that it hands out is remembered. -/
lemma of_asked (h : a.reusable p cache w = none) (hprovider : (a.provider? s).isSome)
    (hremembered : ∀ token, outcome = .ok token → cacheAfter = some token)
    (hkept : ∀ e, outcome = .error e → cacheAfter = cache) :
    a.FindsToken p s cache w outcome [⟨.strategy s, p, databaseScope, outcome⟩] cacheAfter where
  reused token htoken := by simp [h] at htoken
  asked_once _ _ := rfl
  unprovided _ hnone := by simp [hnone] at hprovider
  remembered := hremembered
  kept := hkept

end FindsToken

/-- A new token for the database is found by the rules when none can be used again. -/
lemma findsToken_refresh (a : TokenAuthority σ) (p : Profile) (s : TokenStrategy)
    (cache : TokenCache) (w w' : σ) (h : a.reusable p cache w = none) :
    let (outcome, cacheAfter, _, asked) := a.recorded.refresh p s cache (w', [])
    a.FindsToken p s cache w outcome asked cacheAfter := by
  rw [refresh_recorded]
  unfold refresh fetch asksOf
  cases hprovider : a.provider? s with
  | none => exact .of_noProvider h hprovider
  | some provider =>
    have hsome : (a.provider? s).isSome = true := by rw [hprovider, Option.isSome_some]
    dsimp only
    rcases provider.request p databaseScope w' with ⟨outcome, w''⟩
    cases outcome with
    | ok token =>
      exact .of_asked h hsome (fun _ htoken => congrArg some (Except.ok.inj htoken)) nofun
    | error e => exact .of_asked h hsome nofun fun _ _ => rfl

/-- A token for the database is found by the rules. -/
theorem findsToken_recorded (a : TokenAuthority σ) (p : Profile) (s : TokenStrategy)
    (cache : TokenCache) (w : σ) :
    let (outcome, cacheAfter, _, asked) := a.recorded.cachedToken p s cache (w, [])
    a.FindsToken p s cache w outcome asked cacheAfter := by
  cases cache with
  | none => exact a.findsToken_refresh p s none w w rfl
  | some token =>
    rw [cachedToken_some, now_recorded]
    dsimp only
    by_cases hexpires :
        token.expiresWithin p.tokenRefreshMarginSecs.toInt64 (a.now w).1 = true
    · rw [if_pos hexpires]
      exact a.findsToken_refresh p s (some token) w (a.now w).2 (by simp [reusable, hexpires])
    · rw [if_neg hexpires]
      exact .of_reusable (by simpa [reusable] using hexpires)

/-- Without a provider for the strategy only what is remembered can be found. -/
lemma FindsToken.outcome_of_unprovided {a : TokenAuthority σ} {p : Profile} {s : TokenStrategy}
    {cache cacheAfter : TokenCache} {w : σ} {outcome : Except AuthError AccessToken}
    {asked : List TokenAsk} (h : a.FindsToken p s cache w outcome asked cacheAfter)
    (hprovider : a.provider? s = none) :
    outcome = match a.reusable p cache w with
      | none => .error (.noProvider s.text)
      | some token => .ok token := by
  cases hreusable : a.reusable p cache w with
  | none => exact (h.unprovided hreusable hprovider).1
  | some token => exact (h.reused token hreusable).1

/-- A token that was found by the rules was given by its provider just now, or it was remembered and
does not expire within the margin. -/
lemma FindsToken.source_of_ok {a : TokenAuthority σ} {p : Profile} {s : TokenStrategy}
    {cache cacheAfter : TokenCache} {w : σ} {token : AccessToken} {asked : List TokenAsk}
    (h : a.FindsToken p s cache w (.ok token) asked cacheAfter) :
    asked = [⟨.strategy s, p, databaseScope, .ok token⟩] ∨
      asked = [] ∧ cache = some token ∧
        token.expiresWithin p.tokenRefreshMarginSecs.toInt64 (a.now w).1 = false := by
  cases hreusable : a.reusable p cache w with
  | some token' =>
    obtain ⟨houtcome, hasked⟩ := h.reused token' hreusable
    obtain rfl := Except.ok.inj houtcome
    obtain ⟨hcache, hexpires⟩ := Option.filter_eq_some_iff.mp hreusable
    exact .inr ⟨hasked, hcache, by simpa using hexpires⟩
  | none =>
    cases hprovider : a.provider? s with
    | none =>
      obtain ⟨houtcome, -⟩ := h.unprovided hreusable hprovider
      simp at houtcome
    | some provider => exact .inl (h.asked_once hreusable (by rw [hprovider]; rfl))

/-- A call for a token for the database finds it by the rules. -/
lemma findsToken_cachedToken (a : TokenAuthority σ) (p : Profile) (s : TokenStrategy)
    (cache : TokenCache) (w : σ) :
    let step := a.step (.cachedToken p s) cache w
    ∃ outcome, step.result = .token outcome ∧
      a.FindsToken p s cache w outcome step.asked step.cacheAfter :=
  ⟨_, rfl, a.findsToken_recorded p s cache w⟩

/-- A call for the attributes of a login that hold a token of a strategy finds it by the rules. -/
lemma findsToken_preAuthAttributes (a : TokenAuthority σ) (p : Profile) (b : Backend)
    (s : TokenStrategy) (cache : TokenCache) (w : σ) (hbytes : b.requiresTokenBytes = true)
    (hmode : p.authentication = .token s) :
    let step := a.step (.preAuthAttributes p b) cache w
    ∃ outcome, step.result =
        .attributes (outcome.map fun token => .accessToken (encodeToken token.token)) ∧
      a.FindsToken p s cache w outcome step.asked step.cacheAfter := by
  have hfinds := a.findsToken_recorded p s cache w
  simp only [step, perform, preAuthAttributes, hbytes, hmode, if_true]
  generalize a.recorded.cachedToken p s cache (w, []) = answer at hfinds ⊢
  obtain ⟨outcome, cacheAfter, worldAfter, asked⟩ := answer
  refine ⟨outcome, ?_⟩
  cases outcome with
  | ok token => exact ⟨rfl, hfinds⟩
  | error e => exact ⟨rfl, hfinds⟩

/-! ### Calls that leave the remembered token alone -/

/-- The call neither reads what is remembered nor changes it: whatever had been remembered instead,
the call would have gone the same and left that. -/
def IgnoresCache (a : TokenAuthority σ) (step : TokenStep σ) : Prop :=
  step.cacheAfter = step.cache ∧
    ∀ cache, a.step step.call cache step.world = { step with cache, cacheAfter := cache }

/-- The attributes of a login have nothing to do with the remembered token unless they hold one of a
strategy. -/
lemma ignoresCache_preAuthAttributes (a : TokenAuthority σ) (p : Profile) (b : Backend)
    (cache : TokenCache) (w : σ)
    (h : b.requiresTokenBytes = false ∨ p.authentication.strategy? = none) :
    (a.step (.preAuthAttributes p b) cache w).asked = [] ∧
      a.IgnoresCache (a.step (.preAuthAttributes p b) cache w) := by
  have hstep : ∃ outcome, ∀ cache, a.step (.preAuthAttributes p b) cache w =
      { call := .preAuthAttributes p b, cache, world := w, result := .attributes outcome,
        asked := [], cacheAfter := cache, worldAfter := w } := by
    by_cases hbytes : b.requiresTokenBytes = true
    · have hmode : p.authentication.strategy? = none := by simpa [hbytes] using h
      cases hauth : p.authentication with
      | token s => simp [hauth, AuthenticationMode.strategy?] at hmode
      | _ =>
        exact ⟨_, fun cache => by simp only [step, perform, preAuthAttributes, hbytes, hauth]; rfl⟩
    · exact ⟨.ok [], fun cache => by
        simp only [step, perform, preAuthAttributes, if_neg hbytes]⟩
  obtain ⟨outcome, hstep⟩ := hstep
  rw [IgnoresCache, hstep cache]
  exact ⟨rfl, rfl, hstep⟩

/-- A token for the control plane has nothing to do with the remembered one, and providers are asked
for the scope of the control plane only. -/
lemma ignoresCache_controlPlaneToken (a : TokenAuthority σ) (p : Profile) (cache : TokenCache)
    (w : σ) :
    (∀ ask ∈ (a.step (.controlPlaneToken p) cache w).asked, ask.scope = controlPlaneScope) ∧
      a.IgnoresCache (a.step (.controlPlaneToken p) cache w) := by
  refine ⟨?_, rfl, fun _ => rfl⟩
  simp only [step, perform, controlPlaneToken]
  cases p.authentication with
  | token s =>
    dsimp only
    rw [fetch_recorded, asksOf]
    cases a.provider? s <;> simp
  | activeDirectoryServicePrincipal => simp [recorded, TokenProvider.recorded]
  | _ => simp

/-! ### Runs of calls -/

/-- The token that providers gave for the database, if they gave one. -/
def databaseGrant (asked : List TokenAsk) : TokenCache :=
  asked.findSome? fun ask => if ask.scope = databaseScope then ask.outcome.toOption else none

/-- What is remembered after calls: the last token that was given for the database since the last
time it was forgotten, and what was remembered at the beginning if there is none. -/
def remembered : TokenCache → List (TokenStep σ) → TokenCache
  | cache, [] => cache
  | cache, step :: rest =>
    if step.call = .clear then remembered none rest
    else remembered ((databaseGrant step.asked).or cache) rest

/-- Finding a token for the database, the rules leave the token remembered that was given for it, if
one was. -/
lemma FindsToken.cacheAfter_eq {a : TokenAuthority σ} {p : Profile} {s : TokenStrategy}
    {cache cacheAfter : TokenCache} {w : σ} {outcome : Except AuthError AccessToken}
    {asked : List TokenAsk} (h : a.FindsToken p s cache w outcome asked cacheAfter) :
    cacheAfter = (databaseGrant asked).or cache := by
  cases hreusable : a.reusable p cache w with
  | some token =>
    obtain ⟨houtcome, hasked⟩ := h.reused token hreusable
    have hcache : cache = some token := (Option.filter_eq_some_iff.mp hreusable).1
    rw [h.remembered token houtcome, hasked, hcache]
    rfl
  | none =>
    cases hprovider : a.provider? s with
    | none =>
      obtain ⟨houtcome, hasked⟩ := h.unprovided hreusable hprovider
      rw [h.kept _ houtcome, hasked]
      rfl
    | some provider =>
      rw [h.asked_once hreusable (by rw [hprovider]; rfl)]
      cases outcome with
      | ok token => exact h.remembered token rfl
      | error e => exact h.kept e rfl

/-- A call leaves the token remembered that was given for the database, if one was, and none when it
is to be forgotten. -/
lemma cacheAfter_step (a : TokenAuthority σ) (call : TokenCall) (cache : TokenCache) (w : σ) :
    (a.step call cache w).cacheAfter =
      if call = .clear then none
      else (databaseGrant (a.step call cache w).asked).or cache := by
  cases call with
  | cachedToken p s =>
    obtain ⟨outcome, -, hfinds⟩ := a.findsToken_cachedToken p s cache w
    exact hfinds.cacheAfter_eq
  | preAuthAttributes p b =>
    rw [if_neg (by simp)]
    by_cases h : b.requiresTokenBytes = false ∨ p.authentication.strategy? = none
    · -- no token is needed, or the mode has none: the memory is not looked at
      obtain ⟨hasked, hcache, -⟩ := a.ignoresCache_preAuthAttributes p b cache w h
      rw [hcache, hasked]
      rfl
    · push Not at h
      obtain ⟨hbytes, hmode⟩ := h
      cases hauth : p.authentication with
      | token s =>
        obtain ⟨outcome, -, hfinds⟩ := a.findsToken_preAuthAttributes p b s cache w
          (by simpa using hbytes) hauth
        exact hfinds.cacheAfter_eq
      | _ => simp [hauth, AuthenticationMode.strategy?] at hmode
  | controlPlaneToken p =>
    obtain ⟨hscope, hcache, -⟩ := a.ignoresCache_controlPlaneToken p cache w
    -- tokens of the control plane are for another scope
    have hgrant : databaseGrant (a.step (.controlPlaneToken p) cache w).asked = none := by
      refine List.findSome?_eq_none_iff.mpr fun ask hask => if_neg ?_
      rw [hscope ask hask]
      decide
    rw [if_neg (by simp), hcache, hgrant]
    rfl
  | clear => rfl

/-- At every moment of a run that token is remembered which the calls so far leave. -/
lemma cache_eq_remembered (a : TokenAuthority σ) (calls : List TokenCall) (cache : TokenCache)
    (w : σ) (earlier : List (TokenStep σ)) (step : TokenStep σ) (later : List (TokenStep σ))
    (h : a.history calls cache w = earlier ++ step :: later) :
    step.cache = remembered cache earlier := by
  induction calls generalizing cache w earlier with
  | nil => simp [history] at h
  | cons call rest ih =>
    cases earlier with
    | nil =>
      obtain ⟨hstep, -⟩ := List.cons.inj h
      rw [← hstep]
      rfl
    | cons first earlier =>
      obtain ⟨hfirst, hrest⟩ := List.cons.inj h
      have hcache := ih _ _ earlier hrest
      rw [cacheAfter_step] at hcache
      rw [remembered, ← hfirst, hcache]
      exact apply_ite (remembered · earlier) _ _ _

/-- Every call of a run goes as it would by itself. -/
lemma eq_step_of_mem_history (a : TokenAuthority σ) (calls : List TokenCall) (cache : TokenCache)
    (w : σ) : ∀ step ∈ a.history calls cache w, step = a.step step.call step.cache step.world := by
  induction calls generalizing cache w with
  | nil => simp [history]
  | cons call rest ih =>
    intro step hstep
    rcases List.mem_cons.mp hstep with rfl | hstep
    · rfl
    · exact ih _ _ step hstep

/-- Any calls on an authority, in any order and at any clock, whatever its providers do.

A token for the database, and one of a strategy for the attributes of a login, is found by the rules
of `FindsToken` from what is remembered at that moment.  Attributes of a login for another mode or
backend, and tokens for the control plane, neither read nor change what is remembered; the former
ask nobody, and the latter never for the scope of the database.  Forgetting leaves nothing
remembered and asks nobody.  At every moment the remembered token is the last one that was given for
the database since it was forgotten. -/
theorem rules_of_history (a : TokenAuthority σ) (calls : List TokenCall) (cache : TokenCache)
    (w : σ) :
    (∀ step ∈ a.history calls cache w,
      match step.call with
      | .cachedToken p s => ∃ outcome, step.result = .token outcome ∧
          a.FindsToken p s step.cache step.world outcome step.asked step.cacheAfter
      | .preAuthAttributes p b =>
        (b.requiresTokenBytes = true → ∀ s, p.authentication = .token s → ∃ outcome,
          step.result =
              .attributes (outcome.map fun token => .accessToken (encodeToken token.token)) ∧
            a.FindsToken p s step.cache step.world outcome step.asked step.cacheAfter) ∧
        (b.requiresTokenBytes = false ∨ p.authentication.strategy? = none →
          step.asked = [] ∧ a.IgnoresCache step)
      | .controlPlaneToken _ =>
        (∀ ask ∈ step.asked, ask.scope = controlPlaneScope) ∧ a.IgnoresCache step
      | .clear => step.asked = [] ∧ step.cacheAfter = none) ∧
    ∀ earlier step later, a.history calls cache w = earlier ++ step :: later →
      step.cache = remembered cache earlier := by
  refine ⟨fun step hstep => ?_, a.cache_eq_remembered calls cache w⟩
  have heq := a.eq_step_of_mem_history calls cache w step hstep
  generalize step.call = call at heq
  generalize hbefore : step.cache = before at heq
  generalize hworld : step.world = world at heq
  subst heq
  cases call with
  | cachedToken p s => exact a.findsToken_cachedToken p s before world
  | preAuthAttributes p b =>
    exact ⟨fun hbytes s hmode => a.findsToken_preAuthAttributes p b s before world hbytes hmode,
      a.ignoresCache_preAuthAttributes p b before world⟩
  | controlPlaneToken p => exact a.ignoresCache_controlPlaneToken p before world
  | clear => exact ⟨rfl, rfl⟩

end TokenAuthority

end WarehouseAccess
