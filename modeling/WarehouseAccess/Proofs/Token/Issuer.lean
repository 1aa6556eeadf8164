import WarehouseAccess.Proofs.Token.Expiry

/-!
# Who issued a token

All strategies share the one remembered token.  So a call for a token of a strategy is answered
either by the provider of that strategy or with the token that is remembered, and that one was
issued to the last call that fetched one, for whatever strategy.  `issuer_of_history` says so of the
calls of a run, and `token_of_other_strategy` shows two strategies that get the same token.
-/

namespace WarehouseAccess

variable {σ : Type}

namespace TokenStep

/-- The provider of a strategy issued the token, for the database, during the call. -/
def IssuedBy (step : TokenStep σ) (s : TokenStrategy) (token : AccessToken) : Prop :=
  ∃ p, ⟨.strategy s, p, databaseScope, .ok token⟩ ∈ step.asked

/-- The call leaves what is remembered alone: it does not forget it, and no token for the database
was issued during it. -/
def Leaves (step : TokenStep σ) : Prop :=
  step.call ≠ .clear ∧ ∀ s token, ¬ step.IssuedBy s token

end TokenStep

namespace TokenAuthority

/-- Of the tokens for the database that were issued during calls this is the last, the provider of
the strategy issued it, and it was not forgotten since. -/
def LastIssued (steps : List (TokenStep σ)) (s : TokenStrategy) (token : AccessToken) : Prop :=
  ∃ before issuing since, steps = before ++ issuing :: since ∧ issuing.IssuedBy s token ∧
    ∀ step ∈ since, step.Leaves

/-- The provider behind a source. -/
def providerOf? (a : TokenAuthority σ) : TokenSource → Option (TokenProvider σ)
  | .strategy s => a.provider? s
  | .principal => some a.principal

/-- What is on record of a request is what the provider behind its source answered. -/
def Answered (a : TokenAuthority σ) (ask : TokenAsk) : Prop :=
  ∃ provider w, a.providerOf? ask.source = some provider ∧
    ask.outcome = (provider.request ask.profile ask.scope w).1

/-! ### One call -/

/-- A request on record was answered by a provider, and requests for the database go to the
providers of strategies. -/
def Recorded (a : TokenAuthority σ) (ask : TokenAsk) : Prop :=
  a.Answered ask ∧ (ask.scope = databaseScope → ∃ s, ask.source = .strategy s)

/-- The request for a new token of a strategy. -/
lemma recorded_asksOf (a : TokenAuthority σ) (p : Profile) (s : TokenStrategy) (scope : String)
    (w : σ) : ∀ ask ∈ a.asksOf p s scope w, a.Recorded ask := by
  intro ask hask
  unfold asksOf at hask
  cases hprovider : a.provider? s with
  | none => simp [hprovider] at hask
  | some provider =>
    rw [hprovider] at hask
    obtain rfl := List.mem_singleton.mp hask
    exact ⟨⟨provider, w, hprovider, rfl⟩, fun _ => ⟨s, rfl⟩⟩

/-- The requests for a token of the database. -/
lemma recorded_cachedToken (a : TokenAuthority σ) (p : Profile) (s : TokenStrategy)
    (cache : TokenCache) (w : σ) :
    ∀ ask ∈ (a.recorded.cachedToken p s cache (w, [])).2.2.2, a.Recorded ask := by
  cases cache with
  | none =>
    rw [cachedToken_none, refresh_recorded]
    exact a.recorded_asksOf p s databaseScope w
  | some token =>
    rw [cachedToken_some, now_recorded]
    dsimp only
    split_ifs
    · rw [refresh_recorded]
      exact a.recorded_asksOf p s databaseScope _
    · simp

/-- The requests of a call. -/
lemma recorded_step (a : TokenAuthority σ) (call : TokenCall) (cache : TokenCache) (w : σ) :
    ∀ ask ∈ (a.step call cache w).asked, a.Recorded ask := by
  cases call with
  | cachedToken p s => exact a.recorded_cachedToken p s cache w
  | preAuthAttributes p b =>
    have hcached (s : TokenStrategy) := a.recorded_cachedToken p s cache w
    simp only [step, perform, preAuthAttributes]
    split_ifs
    · cases p.authentication with
      | token s =>
        have hrecorded := hcached s
        dsimp only
        generalize a.recorded.cachedToken p s cache (w, []) = answer at hrecorded ⊢
        obtain ⟨outcome, cacheAfter, worldAfter, asked⟩ := answer
        cases outcome <;> exact hrecorded
      | _ => simp
    · simp
  | controlPlaneToken p =>
    simp only [step, perform, controlPlaneToken]
    cases p.authentication with
    | token s =>
      dsimp only
      rw [fetch_recorded]
      exact a.recorded_asksOf p s controlPlaneScope w
    | activeDirectoryServicePrincipal =>
      intro ask hask
      obtain rfl := List.mem_singleton.mp hask
      -- the principal is asked for the control plane only
      have hother : controlPlaneScope ≠ databaseScope := by decide
      exact ⟨⟨a.principal, w, rfl, rfl⟩, fun hscope => absurd hscope hother⟩
    | _ => simp
  | clear => simp [step, perform]

/-- The token that was given for the database was issued by the provider of a strategy. -/
lemma exists_issuedBy_of_databaseGrant {a : TokenAuthority σ} {step : TokenStep σ}
    {token : AccessToken} (hrecorded : ∀ ask ∈ step.asked, a.Recorded ask)
    (h : databaseGrant step.asked = some token) : ∃ s, step.IssuedBy s token := by
  obtain ⟨ask, hask, hgrant⟩ := List.exists_of_findSome?_eq_some h
  rw [Option.ite_none_right_eq_some] at hgrant
  obtain ⟨hscope, houtcome⟩ := hgrant
  obtain ⟨s, hsource⟩ := (hrecorded ask hask).2 hscope
  obtain ⟨source, p, scope, outcome⟩ := ask
  obtain rfl : source = .strategy s := hsource
  obtain rfl : scope = databaseScope := hscope
  cases outcome with
  | error e => simp [Except.toOption] at houtcome
  | ok token' =>
    obtain rfl := Option.some.inj houtcome
    exact ⟨s, p, hask⟩

/-- When none was given, none was issued. -/
lemma not_issuedBy_of_databaseGrant {step : TokenStep σ} (h : databaseGrant step.asked = none)
    (s : TokenStrategy) (token : AccessToken) : ¬ step.IssuedBy s token := by
  rintro ⟨p, hask⟩
  have hnone := List.findSome?_eq_none_iff.mp h _ hask
  simp [Except.toOption] at hnone

/-! ### Runs of calls -/

/-- What was issued last stays so when calls went before. -/
lemma LastIssued.cons {steps : List (TokenStep σ)} {s : TokenStrategy} {token : AccessToken}
    (h : LastIssued steps s token) (step : TokenStep σ) : LastIssued (step :: steps) s token := by
  obtain ⟨before, issuing, since, rfl, hissued, hleaves⟩ := h
  exact ⟨step :: before, issuing, since, rfl, hissued, hleaves⟩

/-- A token that is remembered after calls was issued last among them, or it was remembered before
them and none of them touched it. -/
lemma lastIssued_of_remembered {a : TokenAuthority σ} {steps : List (TokenStep σ)}
    {cache : TokenCache} {token : AccessToken}
    (hrecorded : ∀ step ∈ steps, ∀ ask ∈ step.asked, a.Recorded ask)
    (h : remembered cache steps = some token) :
    (cache = some token ∧ ∀ step ∈ steps, step.Leaves) ∨ ∃ s, LastIssued steps s token := by
  induction steps generalizing cache with
  | nil => exact .inl ⟨h, by simp⟩
  | cons step rest ih =>
    obtain ⟨hstep, hrest⟩ := List.forall_mem_cons.mp hrecorded
    rw [remembered] at h
    split_ifs at h with hclear
    · rcases ih hrest h with ⟨hnone, -⟩ | ⟨s, hlast⟩
      · cases hnone
      · exact .inr ⟨s, hlast.cons step⟩
    · rcases ih hrest h with ⟨hsome, hleaves⟩ | ⟨s, hlast⟩
      · cases hgrant : databaseGrant step.asked with
        | none =>
          rw [hgrant, Option.none_or] at hsome
          exact .inl ⟨hsome, List.forall_mem_cons.mpr
            ⟨⟨hclear, not_issuedBy_of_databaseGrant hgrant⟩, hleaves⟩⟩
        | some granted =>
          rw [hgrant, Option.some_or] at hsome
          obtain rfl := Option.some.inj hsome
          obtain ⟨s, hissued⟩ := exists_issuedBy_of_databaseGrant hstep hgrant
          exact .inr ⟨s, [], step, rest, rfl, hissued, hleaves⟩
      · exact .inr ⟨s, hlast.cons step⟩

/-- The requests of all calls of a run. -/
lemma recorded_of_mem_history (a : TokenAuthority σ) (calls : List TokenCall) (cache : TokenCache)
    (w : σ) : ∀ step ∈ a.history calls cache w, ∀ ask ∈ step.asked, a.Recorded ask := by
  intro step hstep
  rw [a.eq_step_of_mem_history calls cache w step hstep]
  exact a.recorded_step _ _ _

/-- Who issued the tokens of a run, in which an authority that remembers nothing is called any
number of times, for any profiles and strategies.

Whatever stands on record was answered by the registered provider.  A token that a call for a
strategy returns was issued to that very call by the provider of the strategy, or it was remembered,
does not expire within the margin, and is the last one that was issued before, to a call for
whatever strategy; so it is of the provider of the strategy when no other strategy's provider issued
one.  For a strategy without a provider the call fails, unless there is such a remembered token.

Where neither the margin nor the time that the token has left leaves the range of signed numbers of
64 bits, it does not expire within the margin just when at least the margin remains. -/
theorem issuer_of_history (a : TokenAuthority σ) (calls : List TokenCall) (w : σ) :
    (∀ step ∈ a.history calls none w, ∀ ask ∈ step.asked, a.Answered ask) ∧
    ∀ earlier step later, a.history calls none w = earlier ++ step :: later →
      ∀ p s, step.call = .cachedToken p s →
        (∀ token, step.result = .token (.ok token) →
          (step.asked = [⟨.strategy s, p, databaseScope, .ok token⟩] ∨
            step.asked = [] ∧ a.reusable p step.cache step.world = some token ∧
              (a.FitsMargin p token step.world → marginOf p ≤ a.remaining token step.world) ∧
              ∃ s', LastIssued earlier s' token) ∧
          ((∀ before ∈ earlier, ∀ s' issued, before.IssuedBy s' issued → s' = s) →
            ∃ issuing ∈ earlier ++ [step], issuing.IssuedBy s token)) ∧
        (a.provider? s = none →
          (match a.reusable p step.cache step.world with
            | none => step.result = .token (.error (.noProvider s.text))
            | some token => step.result = .token (.ok token)) ∧
          (step.cache = none → step.result = .token (.error (.noProvider s.text))) ∧
          ∀ token, step.cache = some token → a.FitsMargin p token step.world →
            step.result = .token (if marginOf p ≤ a.remaining token step.world then .ok token
              else .error (.noProvider s.text))) := by
  refine ⟨fun step hstep ask hask => (a.recorded_of_mem_history calls none w step hstep ask hask).1,
    fun earlier step later hsplit p s hcall => ?_⟩
  have hmem : ∀ before ∈ earlier ++ step :: later, before ∈ a.history calls none w := by
    simp [hsplit]
  have hcache := a.cache_eq_remembered calls none w earlier step later hsplit
  -- the call finds its token by the rules, in the memory that the earlier ones left
  obtain ⟨outcome, hresult, hfinds⟩ : ∃ outcome, step.result = .token outcome ∧
      a.FindsToken p s step.cache step.world outcome step.asked step.cacheAfter := by
    have hfinds := a.findsToken_cachedToken p s step.cache step.world
    rwa [← hcall, ← a.eq_step_of_mem_history calls none w step (hmem step (by simp))] at hfinds
  refine ⟨fun token htoken => ?_, fun hprovider => ?_⟩
  · obtain rfl : outcome = .ok token := TokenReturn.token.inj (hresult.symm.trans htoken)
    have hsource : step.asked = [⟨.strategy s, p, databaseScope, .ok token⟩] ∨
        step.asked = [] ∧ a.reusable p step.cache step.world = some token ∧
          (a.FitsMargin p token step.world → marginOf p ≤ a.remaining token step.world) ∧
          ∃ s', LastIssued earlier s' token := by
      rcases hfinds.source_of_ok with hasked | ⟨hasked, hheld, hfresh⟩
      · exact .inl hasked
      · have hrecorded : ∀ before ∈ earlier, ∀ ask ∈ before.asked, a.Recorded ask :=
          fun before hbefore => a.recorded_of_mem_history calls none w before
            (hmem before (List.mem_append_left _ hbefore))
        rcases lastIssued_of_remembered hrecorded (hcache.symm.trans hheld) with ⟨hnone, -⟩ | hlast
        · cases hnone
        · exact .inr ⟨hasked, by simp [reusable, hheld, hfresh],
            fun hfits => (expiresWithin_eq_false_iff_le hfits).mp hfresh, hlast⟩
    -- where all tokens were issued to calls for one strategy, so was the last
    refine ⟨hsource, fun hsame => ?_⟩
    rcases hsource with hasked | ⟨-, -, -, s', before, issuing, since, rfl, hissued, -⟩
    · exact ⟨step, by simp, p, by simp [hasked]⟩
    · obtain rfl := hsame issuing (by simp) s' token hissued
      exact ⟨issuing, by simp, hissued⟩
  · -- without a provider only what is remembered can be handed out
    have hanswer : step.result =
        .token (match a.reusable p step.cache step.world with
          | none => .error (.noProvider s.text)
          | some token => .ok token) :=
      hresult.trans (congrArg TokenReturn.token (hfinds.outcome_of_unprovided hprovider))
    refine ⟨?_, fun hempty => ?_, fun token hheld hfits => ?_⟩
    · rw [hanswer]
      cases a.reusable p step.cache step.world <;> rfl
    · rw [hanswer, hempty]
      rfl
    · rw [hanswer, hheld, reusable_some_of_fits hfits]
      split_ifs <;> rfl

/-! ### Two strategies -/

/-- An authority with providers for the command-line tool and for the environment. -/
def sharedAuthority : TokenAuthority ScriptedTokens :=
  ((empty ScriptedTokens.bareSystem).withProvider .cli
    (ScriptedTokens.provider "cli" "cli")).withProvider .environment
      (ScriptedTokens.provider "environment" "environment")

/-- Each provider has one token to give. -/
def sharedWorld : ScriptedTokens where
  clock := 1000
  scripts := [("cli", [.lasting "token-1" 3600]), ("environment", [.lasting "token-2" 3600])]

/-- Somebody who signs in with the command-line tool, then somebody who does so with the
environment, and then somebody in a notebook, for which there is no provider. -/
def sharedCalls : List TokenCall :=
  let p := Profile.new "abc" "sales" "dbo"
  [.cachedToken p .cli, .cachedToken p .environment, .cachedToken p .fabricNotebook]

/-- The second of the three gets the token that was issued last, and so does the third, though there
is no provider for it. -/
theorem issuer_of_sharedCalls :
    ∃ first second third, sharedAuthority.history sharedCalls none sharedWorld =
        [first] ++ second :: [third] ∧
      second.result = .token (.ok ⟨"token-1", 4600⟩) ∧
      (∃ s, LastIssued [first] s ⟨"token-1", 4600⟩) ∧
      third.result = .token (.ok ⟨"token-1", 4600⟩) := by
  let p := Profile.new "abc" "sales" "dbo"
  have hrun := (sharedAuthority.issuer_of_history sharedCalls sharedWorld).2
  refine ⟨_, _, _, rfl, rfl, ?_, ?_⟩
  · rcases (((hrun [_] _ [_] rfl p .environment rfl).1 ⟨"token-1", 4600⟩ rfl).1) with
      hasked | ⟨-, -, -, hlast⟩
    · cases hasked
    · exact hlast
  · exact ((hrun [_, _] _ [] rfl p .fabricNotebook rfl).2 rfl).1

/-- All three get the token that was issued for the command-line tool. -/
theorem token_of_other_strategy :
    ∃ first second third, sharedAuthority.history sharedCalls none sharedWorld =
        [first, second, third] ∧
      first.IssuedBy .cli ⟨"token-1", 4600⟩ ∧
      (∃ p, second.call = .cachedToken p .environment) ∧
      second.result = .token (.ok ⟨"token-1", 4600⟩) ∧
      (∀ step ∈ [first, second, third], ¬ step.IssuedBy .environment ⟨"token-1", 4600⟩) ∧
      (∃ p, third.call = .cachedToken p .fabricNotebook) ∧
      sharedAuthority.provider? .fabricNotebook = none ∧
      third.result = .token (.ok ⟨"token-1", 4600⟩) := by
  refine ⟨_, _, _, rfl, ⟨Profile.new "abc" "sales" "dbo", ?_⟩, ⟨_, rfl⟩, rfl, ?_, ⟨_, rfl⟩, rfl,
    rfl⟩
  · exact List.mem_singleton.mpr rfl
  · simp only [List.forall_mem_cons]
    refine ⟨?_, ?_, ?_, by simp⟩
    · rintro ⟨p, hasked⟩
      have hsource := congrArg TokenAsk.source (List.mem_singleton.mp hasked)
      exact TokenStrategy.noConfusion (TokenSource.strategy.inj hsource)
    · rintro ⟨p, hasked⟩
      exact List.not_mem_nil hasked
    · rintro ⟨p, hasked⟩
      exact List.not_mem_nil hasked

end TokenAuthority

end WarehouseAccess
