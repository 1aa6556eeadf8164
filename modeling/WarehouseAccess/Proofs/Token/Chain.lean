import Mathlib.Data.List.Basic
import WarehouseAccess.Token.Script

/-!
# Chains of providers

A chain hands out the first token that one of its providers has.  To see whom it asks, every
provider of it is put on record under its place (`onRecord`), which changes nothing else.

### Outline

* `AskedInTurn` says that providers are asked one after the other, each in the world that the one
  before it left, and `ChainEnd` says after which of them a chain stops and what it makes of it;
* `exists_requestFirst_eq` is how a chain goes on from some place with some failures behind it;
* `first_token_of_chain` is a whole request.
-/

namespace WarehouseAccess

variable {σ : Type}

/-- A request to the provider at a place of a chain, and what came of it. -/
structure ChainAsk where
  /-- How many providers stand before this one. -/
  place : ℕ
  profile : Profile
  scope : String
  outcome : Except AuthError AccessToken

namespace TokenProvider

/-- The provider, with its requests put on record under a place. -/
def atPlace (provider : TokenProvider σ) (place : ℕ) : TokenProvider (σ × List ChainAsk) where
  name := provider.name
  request p scope w :=
    let (outcome, world) := provider.request p scope w.1
    (outcome, world, w.2 ++ [⟨place, p, scope, outcome⟩])

/-- The providers, with their requests put on record under their places, the first of which is
given. -/
def onRecord : (first : ℕ) → List (TokenProvider σ) → List (TokenProvider (σ × List ChainAsk))
  | _, [] => []
  | first, provider :: rest => provider.atPlace first :: onRecord (first + 1) rest

/-- A request that is put on record goes as it would by itself. -/
lemma request_atPlace (provider : TokenProvider σ) (place : ℕ) (p : Profile) (scope : String)
    (w : σ) (before : List ChainAsk) :
    (provider.atPlace place).request p scope (w, before) =
      ((provider.request p scope w).1, (provider.request p scope w).2,
        before ++ [⟨place, p, scope, (provider.request p scope w).1⟩]) := rfl

/-- The first providers of a list are asked one after the other, each once, for a profile and a
scope.  The first of the list has the place `first`, and the world goes from `w` to `world`. -/
inductive AskedInTurn (p : Profile) (scope : String) : (first : ℕ) → List (TokenProvider σ) →
    (w : σ) → (asked : List ChainAsk) → (world : σ) → Prop
  /-- Nobody else is asked. -/
  | nobody {first : ℕ} {providers : List (TokenProvider σ)} {w : σ} :
    AskedInTurn p scope first providers w [] w
  /-- The next provider is asked, and then those behind it. -/
  | next {first : ℕ} {provider : TokenProvider σ} {rest : List (TokenProvider σ)}
      {w between world : σ} {outcome : Except AuthError AccessToken} {asked : List ChainAsk}
      (hask : provider.request p scope w = (outcome, between))
      (hrest : AskedInTurn p scope (first + 1) rest between asked world) :
    AskedInTurn p scope first (provider :: rest) w (⟨first, p, scope, outcome⟩ :: asked) world

namespace AskedInTurn

variable {p : Profile} {scope : String} {first : ℕ} {providers : List (TokenProvider σ)}
  {w world : σ} {asked : List ChainAsk}

/-- The places of those who are asked follow one another. -/
lemma map_place (h : AskedInTurn p scope first providers w asked world) :
    asked.map ChainAsk.place = List.range' first asked.length := by
  induction h with
  | nobody => rfl
  | next _ _ ih => rw [List.map_cons, ih, List.length_cons, List.range'_succ]

/-- All are asked for the same profile and scope. -/
lemma same_request (h : AskedInTurn p scope first providers w asked world) :
    ∀ ask ∈ asked, ask.profile = p ∧ ask.scope = scope := by
  induction h with
  | nobody => simp
  | next _ _ ih => exact List.forall_mem_cons.mpr ⟨⟨rfl, rfl⟩, ih⟩

end AskedInTurn

/-- Where a chain of so many providers stops and what it has found by then.  `failures` are the
errors of providers that were asked before. -/
inductive ChainEnd (providers : ℕ) (failures : List String) :
    (asked : List ChainAsk) → Except (List String) AccessToken → Prop
  /-- The provider that was asked last has a token, and nobody who was asked before it has one. -/
  | token {earlier : List ChainAsk} {last : ChainAsk} {token : AccessToken}
      (hearlier : ∀ ask ∈ earlier, ∃ e, ask.outcome = .error e) (hlast : last.outcome = .ok token) :
    ChainEnd providers failures (earlier ++ [last]) (.ok token)
  /-- All providers were asked, and none has a token. -/
  | exhausted {asked : List ChainAsk} {errors : List AuthError} (hall : asked.length = providers)
      (herrors : asked.map ChainAsk.outcome = errors.map .error) :
    ChainEnd providers failures asked (.error (failures ++ errors.map AuthError.message))

/-- A provider without a token stands before those with which a chain ends. -/
lemma ChainEnd.cons {providers : ℕ} {failures : List String} {asked : List ChainAsk}
    {outcome : Except (List String) AccessToken} {ask : ChainAsk} {e : AuthError}
    (hask : ask.outcome = .error e)
    (h : ChainEnd providers (failures ++ [e.message]) asked outcome) :
    ChainEnd (providers + 1) failures (ask :: asked) outcome := by
  cases h with
  | token hearlier hlast =>
    rw [← List.cons_append]
    exact .token (List.forall_mem_cons.mpr ⟨⟨e, hask⟩, hearlier⟩) hlast
  | @exhausted _ errors hall herrors =>
    have houtcomes : (ask :: asked).map ChainAsk.outcome = (e :: errors).map .error := by
      rw [List.map_cons, List.map_cons, hask, herrors]
    rw [List.append_assoc, List.singleton_append, ← List.map_cons]
    exact .exhausted (congrArg (· + 1) hall) houtcomes

/-- A chain asks its providers in turn until it ends, on record as without it. -/
lemma exists_requestFirst_eq (p : Profile) (scope : String) (failures : List String) (first : ℕ)
    (providers : List (TokenProvider σ)) (w : σ) (before : List ChainAsk) :
    ∃ outcome world asked,
      requestFirst p scope failures (onRecord first providers) (w, before) =
        (outcome, world, before ++ asked) ∧
      requestFirst p scope failures providers w = (outcome, world) ∧
      AskedInTurn p scope first providers w asked world ∧
      ChainEnd providers.length failures asked outcome := by
  induction providers generalizing failures first w before with
  | nil =>
    have hend : ChainEnd 0 failures [] (.error (failures ++ ([] : List AuthError).map _)) :=
      .exhausted rfl rfl
    rw [List.map_nil, List.append_nil] at hend
    exact ⟨.error failures, w, [], by rw [List.append_nil]; rfl, rfl, .nobody, hend⟩
  | cons provider rest ih =>
    rw [onRecord, requestFirst, requestFirst, request_atPlace]
    rcases hask : provider.request p scope w with ⟨outcome, between⟩
    cases outcome with
    | ok token =>
      have hend : ChainEnd (rest.length + 1) failures ([] ++ [⟨first, p, scope, .ok token⟩])
          (.ok token) := .token (by simp) rfl
      exact ⟨.ok token, between, _, rfl, rfl, .next hask .nobody, hend⟩
    | error e =>
      -- this one has no token, and its message stands in front of those to come
      let ask : ChainAsk := ⟨first, p, scope, .error e⟩
      obtain ⟨outcome, world, asked, hrecorded, hplain, hturn, hend⟩ :=
        ih (failures ++ [e.message]) (first + 1) between (before ++ [ask])
      have hbefore : before ++ ask :: asked = before ++ [ask] ++ asked := List.append_cons ..
      refine ⟨outcome, world, ask :: asked, ?_, hplain, .next hask hturn, hend.cons rfl⟩
      rw [hbefore]
      exact hrecorded

/-- A request to a chain of any providers, whatever state they act on.

The providers are asked in order, each once at most, for the profile and the scope of the request.
Either the one that was asked last is the first with a token, and this token is the answer; or all
were asked, perhaps none, and the answer is an error of the chain in which the errors of all of them
stand in order. -/
theorem first_token_of_chain (providers : List (TokenProvider σ)) (p : Profile) (scope : String)
    (w : σ) :
    let (outcome, world, asked) := (chain (onRecord 0 providers)).request p scope (w, [])
    (chain providers).request p scope w = (outcome, world) ∧
    AskedInTurn p scope 0 providers w asked world ∧
    asked.map ChainAsk.place = List.range asked.length ∧
    (∀ ask ∈ asked, ask.profile = p ∧ ask.scope = scope) ∧
    ((∃ earlier last token, asked = earlier ++ [last] ∧
        (∀ ask ∈ earlier, ∃ e, ask.outcome = .error e) ∧
        last.outcome = .ok token ∧ outcome = .ok token) ∨
      ∃ (errors : List AuthError) (fault : TokenFault), asked.length = providers.length ∧
        asked.map ChainAsk.outcome = errors.map .error ∧
        outcome = .error (.provider "auto" fault) ∧
        fault.message = String.intercalate "; " (errors.map AuthError.message)) := by
  obtain ⟨found, world, asked, hrecorded, hplain, hturn, hend⟩ :=
    exists_requestFirst_eq p scope [] 0 providers w []
  simp only [chain, hrecorded, hplain, List.nil_append]
  have hplaces : asked.map ChainAsk.place = List.range asked.length := by
    rw [hturn.map_place, List.range_eq_range']
  refine ⟨trivial, hturn, hplaces, hturn.same_request, ?_⟩
  cases hend with
  | token hearlier hlast => exact .inl ⟨_, _, _, rfl, hearlier, hlast, rfl⟩
  | exhausted hall herrors => exact .inr ⟨_, _, hall, herrors, rfl, rfl⟩

example :
    ((chain [ScriptedTokens.provider "1" "environment", ScriptedTokens.provider "2" "cli"]).request
      (Profile.new "abc" "sales" "dbo") databaseScope { clock := 0 }).1.mapError AuthError.message =
    .error ("auto token provider failed: environment token provider failed: script exhausted; " ++
      "cli token provider failed: script exhausted") := by
  decide

end TokenProvider

end WarehouseAccess
