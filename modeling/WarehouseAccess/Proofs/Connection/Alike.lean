import WarehouseAccess.Proofs.Connection.Connecting

/-!
# Alike sessions

A session has its world, which tokens come from, and the life of its run.  Apart from the search for
a token nothing that is done to connect looks at the one, and nothing at all looks at the other; nor
do statements look at either.  `Session.Alike` says that two sessions differ in these alone, and
that both are related in some way.  From alike sessions all these operations have the same outcome,
and they lead to alike sessions.

For connecting that needs a search for a token that goes the same in related worlds, as
`TokenAuthority.FindsAlike` says.
-/

namespace WarehouseAccess

variable {σ σ' τ τ' : Type}

/-- In related worlds the attributes of a login of the profile are the same, and so is what is
remembered then; the worlds stay related. -/
def TokenAuthority.FindsAlike (a : TokenAuthority σ) (a' : TokenAuthority σ') (p : Profile)
    (onWorlds : σ → σ' → Prop) : Prop :=
  ∀ b cache w w', onWorlds w w' →
    (a'.preAuthAttributes p b cache w').1 = (a.preAuthAttributes p b cache w).1 ∧
      (a'.preAuthAttributes p b cache w').2.1 = (a.preAuthAttributes p b cache w).2.1 ∧
      onWorlds (a.preAuthAttributes p b cache w).2.2 (a'.preAuthAttributes p b cache w').2.2

/-- Sessions that differ in their worlds and in the lives of their runs alone, which are related. -/
structure Session.Alike (onWorlds : σ → σ' → Prop)
    (onLives : Option (RunLifecycle τ) → Option (RunLifecycle τ') → Prop)
    (s : Session σ τ) (s' : Session σ' τ') : Prop where
  drivers : s'.drivers = s.drivers
  world : onWorlds s.world s'.world
  resolver : s'.resolver = s.resolver
  poolingSettled : s'.poolingSettled = s.poolingSettled
  override : s'.override = s.override
  tokens : s'.tokens = s.tokens
  pauses : s'.pauses = s.pauses
  lifecycle : onLives s.lifecycle s'.lifecycle

variable {onWorlds : σ → σ' → Prop}
  {onLives : Option (RunLifecycle τ) → Option (RunLifecycle τ') → Prop}
  {s : Session σ τ} {s' : Session σ' τ'}

namespace Session.Alike

/-- Pausing keeps sessions alike. -/
lemma pause (h : s.Alike onWorlds onLives s') (d : Duration) :
    (s.pause d).Alike onWorlds onLives (s'.pause d) :=
  { h with pauses := congrArg (· ++ [d]) h.pauses }

/-- Settling the pooling keeps sessions alike. -/
lemma settlePooling (h : s.Alike onWorlds onLives s') (b : Backend) (enabled : Bool) :
    (s.settlePooling b enabled).Alike onWorlds onLives (s'.settlePooling b enabled) := by
  unfold Session.settlePooling
  rw [h.poolingSettled]
  split_ifs
  · exact h
  · exact { h with poolingSettled := rfl, drivers := by rw [h.drivers] }

/-- The same backend is chosen. -/
lemma backendFor (h : s.Alike onWorlds onLives s') (p : Profile) :
    (s'.backendFor p).1 = (s.backendFor p).1 ∧
      (s.backendFor p).2.Alike onWorlds onLives (s'.backendFor p).2 := by
  have hresolves : s'.resolver.resolveEffective s'.drivers p.driverBackend s'.override =
      s.resolver.resolveEffective s.drivers p.driverBackend s.override := by
    rw [h.resolver, h.drivers, h.override]
  unfold Session.backendFor
  rw [hresolves]
  rcases s.resolver.resolveEffective s.drivers p.driverBackend s.override with ⟨outcome, resolver⟩
  have hresolved : Alike onWorlds onLives { s with resolver } { s' with resolver } :=
    { h with resolver := rfl }
  cases outcome with
  | error e => exact ⟨rfl, hresolved⟩
  | ok b => exact ⟨rfl, hresolved.settlePooling b p.pooling⟩

/-- A driver does the same. -/
lemma act {α : Type} {b : Backend} {default a a' : α} {f : ScriptedDriver → α × ScriptedDriver}
    {s₁ : Session σ τ} {s₁' : Session σ' τ'} (h : s.Alike onWorlds onLives s')
    (hact : s.act b default f = (a, s₁)) (hact' : s'.act b default f = (a', s₁')) :
    a' = a ∧ s₁.Alike onWorlds onLives s₁' := by
  obtain ⟨rfl, rfl⟩ := Prod.mk.inj hact
  obtain ⟨rfl, rfl⟩ := Prod.mk.inj hact'
  rw [h.drivers]
  exact ⟨rfl, { h with drivers := rfl }⟩

end Session.Alike

namespace ConnectionManager

variable (m : ConnectionManager) {services : Services σ τ} {services' : Services σ' τ'}

section Connecting

variable (hfinds : services.authority.FindsAlike services'.authority m.profile onWorlds)
include hfinds

/-- One try to connect goes the same. -/
lemma attempt_alike (b : Backend) (text : String) (h : s.Alike onWorlds onLives s') :
    (m.attempt services' b text s').1 = (m.attempt services b text s).1 ∧
      (m.attempt services b text s).2.Alike onWorlds onLives (m.attempt services' b text s').2 := by
  obtain ⟨hattributes, htokens, hworlds⟩ := hfinds b s.tokens s.world s'.world h.world
  unfold attempt
  rw [h.tokens]
  generalize services.authority.preAuthAttributes m.profile b s.tokens s.world = found at *
  generalize services'.authority.preAuthAttributes m.profile b s.tokens s'.world = found' at *
  obtain ⟨outcome, tokens, world⟩ := found
  obtain ⟨outcome', tokens', world'⟩ := found'
  obtain rfl : outcome' = outcome := hattributes
  obtain rfl : tokens' = tokens := htokens
  have hfound : Session.Alike onWorlds onLives { s with tokens := tokens', world }
      { s' with tokens := tokens', world := world' } := { h with tokens := rfl, world := hworlds }
  cases outcome' with
  | error e => exact ⟨rfl, hfound⟩
  | ok attributes =>
    dsimp only
    rcases hact : Session.act { s with tokens := tokens', world } b _ _ with ⟨answer, s₁⟩
    rcases hact' : Session.act { s' with tokens := tokens', world := world' } b _ _ with
      ⟨answer', s₁'⟩
    obtain ⟨rfl, hafter⟩ := hfound.act hact hact'
    cases answer' <;> exact ⟨rfl, hafter⟩

/-- However often it is tried to connect, it goes the same. -/
lemma tries_alike (b : Backend) (text : String) (h : s.Alike onWorlds onLives s') :
    (m.tries services' b text s').1 = (m.tries services b text s).1 ∧
      (m.tries services b text s).2.Alike onWorlds onLives (m.tries services' b text s').2 :=
  RetryPolicy.run_related (Session.Alike onWorlds onLives) _
    (fun _ _ _ halike => m.attempt_alike hfinds b text halike)
    (fun d _ _ halike => halike.pause d) h

/-- Connecting goes the same. -/
lemma connect_alike (h : s.Alike onWorlds onLives s') :
    (m.connect services' s').1 = (m.connect services s).1 ∧
      (m.connect services s).2.Alike onWorlds onLives (m.connect services' s').2 := by
  obtain ⟨hchosen, hbackend⟩ := h.backendFor m.profile
  unfold connect
  generalize s.backendFor m.profile = choice at *
  generalize s'.backendFor m.profile = choice' at *
  obtain ⟨outcome, s₁⟩ := choice
  obtain ⟨outcome', s₁'⟩ := choice'
  obtain rfl : outcome' = outcome := hchosen
  cases outcome' with
  | error e => exact ⟨rfl, hbackend⟩
  | ok b =>
    dsimp only
    cases m.connectionString b with
    | error e => exact ⟨rfl, hbackend⟩
    | ok text =>
      -- from related sessions the same backend is tried, and the same becomes of it
      obtain ⟨houtcome, htried⟩ := m.tries_alike hfinds b text hbackend
      unfold tries at houtcome htried
      dsimp only at houtcome htried ⊢
      generalize RetryPolicy.run _ _ _ _ s₁ = result at *
      generalize RetryPolicy.run _ _ _ _ s₁' = result' at *
      obtain ⟨outcome, s₂⟩ := result
      obtain ⟨outcome', s₂'⟩ := result'
      obtain rfl : outcome' = outcome := houtcome
      cases outcome' with
      | error e => exact ⟨rfl, htried⟩
      | ok value =>
        dsimp only
        rcases hact : s₂.act b () _ with ⟨_, s₃⟩
        rcases hact' : s₂'.act b () _ with ⟨_, s₃'⟩
        exact ⟨rfl, (htried.act hact hact').2⟩

end Connecting

section Statements

/-- Behind the boundary around statements an action goes the same that goes the same without it. -/
lemma withBoundary_alike {α : Type} (c : Connection)
    {action : Backend → Connection → Session σ τ →
      Except ConnectionError α × Connection × Session σ τ}
    {action' : Backend → Connection → Session σ' τ' →
      Except ConnectionError α × Connection × Session σ' τ'}
    (haction : ∀ b c s s', s.Alike onWorlds onLives s' →
      (action' b c s').1 = (action b c s).1 ∧ (action' b c s').2.1 = (action b c s).2.1 ∧
        (action b c s).2.2.Alike onWorlds onLives (action' b c s').2.2)
    (h : s.Alike onWorlds onLives s') :
    (m.withBoundary c s' action').1 = (m.withBoundary c s action).1 ∧
      (m.withBoundary c s' action').2.1 = (m.withBoundary c s action).2.1 ∧
      (m.withBoundary c s action).2.2.Alike onWorlds onLives (m.withBoundary c s' action').2.2 := by
  obtain ⟨hchosen, hbackend⟩ := h.backendFor m.profile
  unfold withBoundary
  generalize s.backendFor m.profile = choice at *
  generalize s'.backendFor m.profile = choice' at *
  obtain ⟨outcome, s₁⟩ := choice
  obtain ⟨outcome', s₁'⟩ := choice'
  obtain rfl : outcome' = outcome := hchosen
  cases outcome' with
  | error e => exact ⟨rfl, rfl, hbackend⟩
  | ok b =>
    obtain ⟨houtcome, hconnection, hafter⟩ := haction b c s₁ s₁' hbackend
    dsimp only
    generalize action b c s₁ = result at *
    generalize action' b c s₁' = result' at *
    obtain ⟨outcome, c₂, s₂⟩ := result
    obtain ⟨outcome', c₂', s₂'⟩ := result'
    obtain rfl : outcome' = outcome := houtcome
    obtain rfl : c₂' = c₂ := hconnection
    cases outcome' with
    | ok value => exact ⟨rfl, rfl, hafter⟩
    -- what the boundary does is up to the error and the drivers, which are the same
    | error e =>
      dsimp only
      rw [hafter.drivers]
      exact ⟨rfl, rfl, { hafter with drivers := rfl }⟩

/-- Carrying out a statement goes the same. -/
lemma runStatement_alike (sql : String) (bindings : Option (List SqlValue)) (b : Backend)
    (c : Connection) (h : s.Alike onWorlds onLives s') :
    (m.runStatement sql bindings b c s').1 = (m.runStatement sql bindings b c s).1 ∧
      (m.runStatement sql bindings b c s').2.1 = (m.runStatement sql bindings b c s).2.1 ∧
      (m.runStatement sql bindings b c s).2.2.Alike onWorlds onLives
        (m.runStatement sql bindings b c s').2.2 := by
  unfold runStatement
  cases c.requireHandle with
  | error e => exact ⟨rfl, rfl, h⟩
  | ok handle =>
    dsimp only
    rcases hact : s.act handle.backend _ _ with ⟨⟨outcome, pauses⟩, s₁⟩
    rcases hact' : s'.act handle.backend _ _ with ⟨⟨outcome', pauses'⟩, s₁'⟩
    obtain ⟨hanswer, hafter⟩ := h.act hact hact'
    obtain ⟨rfl, rfl⟩ := Prod.mk.inj hanswer
    have hpaused : Session.Alike onWorlds onLives { s₁ with pauses := s₁.pauses ++ pauses' }
        { s₁' with pauses := s₁'.pauses ++ pauses' } :=
      { hafter with pauses := congrArg (· ++ pauses') hafter.pauses }
    cases outcome' with
    | error e => exact ⟨rfl, rfl, hpaused⟩
    | ok cursor => exact ⟨rfl, rfl, hpaused⟩

/-- Carrying out a statement behind the boundary goes the same. -/
lemma addQuery_alike (c : Connection) (sql : String) (bindings : Option (List SqlValue))
    (h : s.Alike onWorlds onLives s') :
    (m.addQuery c sql bindings s').1 = (m.addQuery c sql bindings s).1 ∧
      (m.addQuery c sql bindings s').2.1 = (m.addQuery c sql bindings s).2.1 ∧
      (m.addQuery c sql bindings s).2.2.Alike onWorlds onLives
        (m.addQuery c sql bindings s').2.2 :=
  m.withBoundary_alike c (fun b c _ _ => m.runStatement_alike sql bindings b c) h

/-- Collecting what a statement returned goes the same. -/
lemma collect_alike (q : QueryCursor) (fetch : Bool) (limit : Option Nat) (b : Backend)
    (c : Connection) (h : s.Alike onWorlds onLives s') :
    (collect q fetch limit b c s').1 = (collect q fetch limit b c s).1 ∧
      (collect q fetch limit b c s').2.1 = (collect q fetch limit b c s).2.1 ∧
      (collect q fetch limit b c s).2.2.Alike onWorlds onLives
        (collect q fetch limit b c s').2.2 := by
  unfold collect
  rcases hact : s.act q.backend _ _ with ⟨outcome, s₁⟩
  rcases hact' : s'.act q.backend _ _ with ⟨outcome', s₁'⟩
  obtain ⟨rfl, hafter⟩ := h.act hact hact'
  exact ⟨rfl, rfl, hafter⟩

/-- Carrying out a statement and collecting what it returns goes the same. -/
lemma execute_alike (c : Connection) (sql : String) (fetch : Bool) (limit : Option Nat)
    (h : s.Alike onWorlds onLives s') :
    (m.execute c sql fetch limit s').1 = (m.execute c sql fetch limit s).1 ∧
      (m.execute c sql fetch limit s').2.1 = (m.execute c sql fetch limit s).2.1 ∧
      (m.execute c sql fetch limit s).2.2.Alike onWorlds onLives
        (m.execute c sql fetch limit s').2.2 := by
  obtain ⟨houtcome, hconnection, hafter⟩ := m.addQuery_alike c sql none h
  unfold execute
  generalize m.addQuery c sql none s = result at *
  generalize m.addQuery c sql none s' = result' at *
  obtain ⟨outcome, c₁, s₁⟩ := result
  obtain ⟨outcome', c₁', s₁'⟩ := result'
  obtain rfl : outcome' = outcome := houtcome
  obtain rfl : c₁' = c₁ := hconnection
  cases outcome' with
  | error e => exact ⟨rfl, rfl, hafter⟩
  | ok q =>
    exact m.withBoundary_alike c₁' (fun b c _ _ => collect_alike q fetch limit b c) hafter

end Statements

end ConnectionManager

end WarehouseAccess
