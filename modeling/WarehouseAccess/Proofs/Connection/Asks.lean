import WarehouseAccess.Proofs.Connection.Alike
import WarehouseAccess.Proofs.Token.Record

/-!
# What the connector is asked

A run reaches its control plane through a connector, which does not show when it was asked.
`ControlPlaneConnector.recorded` is the connector whose world keeps, beside itself, a record of the
asks.  Everything else that acts on that world has to act beside the record: `TokenAuthority.beside`
and `Session.beside` are the authority and the session that do.

### Outline

* `startOnce_recorded` says what stands on record after the life of a run was to begin;
* `connect_beside` says that signing in neither asks the connector nor depends on the record;
* `openConnection_recorded` puts both together for an opening: keeping the record changes nothing;
* `openConnection_of_error` and `openConnection_of_ok` say when an opening asks.
-/

namespace WarehouseAccess

variable {σ τ ρ : Type}

/-! ### Acting beside a record -/

/-- The provider, in a world with something beside it. -/
def TokenProvider.beside (ρ : Type) (provider : TokenProvider σ) : TokenProvider (σ × ρ) where
  name := provider.name
  request p scope w :=
    let (outcome, world) := provider.request p scope w.1
    (outcome, world, w.2)

namespace TokenAuthority

/-- The authority, in a world with something beside it. -/
def beside (ρ : Type) (a : TokenAuthority σ) : TokenAuthority (σ × ρ) where
  now w :=
    let (now, world) := a.now w.1
    (now, world, w.2)
  provider? s := (a.provider? s).map (TokenProvider.beside ρ)
  principal := a.principal.beside ρ

/-- What stands beside the world does not matter for a new token. -/
lemma refresh_beside (a : TokenAuthority σ) (p : Profile) (s : TokenStrategy) (cache : TokenCache)
    (w : σ) (r : ρ) :
    (a.beside ρ).refresh p s cache (w, r) =
      ((a.refresh p s cache w).1, (a.refresh p s cache w).2.1, (a.refresh p s cache w).2.2, r) := by
  have hfetch : (a.beside ρ).fetch p s databaseScope (w, r) =
      ((a.fetch p s databaseScope w).1, (a.fetch p s databaseScope w).2, r) := by
    cases hprovider : a.provider? s with
    | none => simp [fetch, beside, hprovider]
    | some provider => simp [fetch, beside, TokenProvider.beside, hprovider]
  unfold refresh
  rw [hfetch]
  rcases a.fetch p s databaseScope w with ⟨outcome, w'⟩
  cases outcome <;> rfl

/-- What stands beside the world does not matter for a token for the database. -/
lemma cachedToken_beside (a : TokenAuthority σ) (p : Profile) (s : TokenStrategy)
    (cache : TokenCache) (w : σ) (r : ρ) :
    (a.beside ρ).cachedToken p s cache (w, r) =
      ((a.cachedToken p s cache w).1, (a.cachedToken p s cache w).2.1,
        (a.cachedToken p s cache w).2.2, r) := by
  cases cache with
  | none => exact a.refresh_beside p s none w r
  | some token =>
    have hnow : (a.beside ρ).now (w, r) = ((a.now w).1, (a.now w).2, r) := rfl
    rw [cachedToken_some, cachedToken_some, hnow]
    dsimp only
    split_ifs
    · exact a.refresh_beside p s (some token) (a.now w).2 r
    · rfl

/-- What stands beside the world does not matter for the attributes of a login. -/
lemma preAuthAttributes_beside (a : TokenAuthority σ) (p : Profile) (b : Backend)
    (cache : TokenCache) (w : σ) (r : ρ) :
    (a.beside ρ).preAuthAttributes p b cache (w, r) =
      ((a.preAuthAttributes p b cache w).1, (a.preAuthAttributes p b cache w).2.1,
        (a.preAuthAttributes p b cache w).2.2, r) := by
  unfold preAuthAttributes
  split_ifs
  · cases p.authentication with
    | token s =>
      dsimp only
      rw [cachedToken_beside]
      rcases a.cachedToken p s cache w with ⟨outcome, cache', w'⟩
      cases outcome <;> rfl
    | _ => rfl
  · rfl

end TokenAuthority

/-- The session, in a world with something beside it. -/
def Session.beside (s : Session σ τ) (r : ρ) : Session (σ × ρ) τ where
  drivers := s.drivers
  world := (s.world, r)
  resolver := s.resolver
  poolingSettled := s.poolingSettled
  override := s.override
  tokens := s.tokens
  pauses := s.pauses
  lifecycle := s.lifecycle

/-- A session that is alike to another but for what stands beside the world. -/
lemma Session.Alike.eq_beside {s : Session σ τ} {s' : Session (σ × ρ) τ} {r : ρ}
    (h : s.Alike (fun w w' => w' = (w, r)) (fun l l' => l' = l) s') : s' = s.beside r := by
  obtain ⟨drivers, world, resolver, poolingSettled, override, tokens, pauses, lifecycle⟩ := s'
  obtain ⟨rfl, rfl, rfl, rfl, rfl, rfl, rfl, rfl⟩ := h
  rfl

/-! ### The record -/

/-- The connector was asked to reach the control plane of a workspace. -/
structure ReachAsk (τ : Type) where
  profile : Profile
  workspaceId : String
  outcome : Except ConnectionError (ControlPlaneLink τ)
  /-- The state of the control plane afterwards. -/
  service : τ

namespace ControlPlaneConnector

/-- What stands on record after one ask. -/
def ask (k : ControlPlaneConnector σ τ) (p : Profile) (workspaceId : String) (w : σ)
    (service : τ) : ReachAsk τ where
  profile := p
  workspaceId := workspaceId
  outcome := (k.connect p workspaceId w service).1
  service := (k.connect p workspaceId w service).2.2

/-- The connector, with what it is asked put on record. -/
def recorded (k : ControlPlaneConnector σ τ) :
    ControlPlaneConnector (σ × List (ReachAsk τ)) τ where
  connect p workspaceId w service :=
    ((k.connect p workspaceId w.1 service).1,
      ((k.connect p workspaceId w.1 service).2.1, w.2 ++ [k.ask p workspaceId w.1 service]),
      (k.connect p workspaceId w.1 service).2.2)

/-- An ask that is put on record goes as it would without. -/
lemma connect_recorded (k : ControlPlaneConnector σ τ) (p : Profile) (workspaceId : String) (w : σ)
    (asked : List (ReachAsk τ)) (service : τ) :
    k.recorded.connect p workspaceId (w, asked) service =
      ((k.connect p workspaceId w service).1,
        ((k.connect p workspaceId w service).2.1, asked ++ [k.ask p workspaceId w service]),
        (k.connect p workspaceId w service).2.2) := rfl

end ControlPlaneConnector

/-- The services, with what the connector is asked put on record. -/
def Services.recorded (services : Services σ τ) : Services (σ × List (ReachAsk τ)) τ where
  authority := services.authority.beside _
  connector := services.connector.recorded

namespace RunLifecycle

/-- What stands on record after the life of a run was to begin with a profile: one ask, unless it is
not to begin, has begun before, or the profile names no workspace. -/
def asks (l : RunLifecycle τ) (k : ControlPlaneConnector σ τ) (p : Profile) (w : σ) :
    List (ReachAsk τ) :=
  if l.shouldRun && !l.started then
    p.workspaceId.toList.map fun workspaceId => k.ask p workspaceId w l.service
  else []

/-- Letting the life of a run begin with what is asked on record goes as it would without. -/
lemma startOnce_recorded (l : RunLifecycle τ) (k : ControlPlaneConnector σ τ) (p : Profile) (w : σ)
    (asked : List (ReachAsk τ)) :
    l.startOnce k.recorded p (w, asked) =
      ((l.startOnce k p w).1, (l.startOnce k p w).2, asked ++ l.asks k p w) := by
  unfold startOnce asks
  split_ifs
  · unfold reach
    cases p.workspaceId with
    | none => simp
    | some workspaceId =>
      dsimp only [Option.toList, List.map]
      rw [ControlPlaneConnector.connect_recorded]
      rcases k.connect p workspaceId w l.service with ⟨outcome, w', service⟩
      cases outcome <;> rfl
  · simp

end RunLifecycle

/-! ### Openings -/

namespace ConnectionManager

variable (m : ConnectionManager) (services : Services σ τ)

/-- Connecting does not ask the connector. -/
lemma connect_beside (s : Session σ τ) (asked : List (ReachAsk τ)) :
    m.connect services.recorded (s.beside asked) =
      ((m.connect services s).1, (m.connect services s).2.beside asked) := by
  have hfinds : services.authority.FindsAlike services.recorded.authority m.profile
      fun w w' => w' = (w, asked) := by
    rintro b cache w _ rfl
    have hfound := services.authority.preAuthAttributes_beside m.profile b cache w asked
    exact ⟨congrArg Prod.fst hfound, congrArg (fun found => found.2.1) hfound,
      congrArg (fun found => found.2.2) hfound⟩
  have hbeside : s.Alike (fun w w' => w' = (w, asked)) (fun l l' => l' = l) (s.beside asked) :=
    ⟨rfl, rfl, rfl, rfl, rfl, rfl, rfl, rfl⟩
  obtain ⟨houtcome, halike⟩ := m.connect_alike hfinds hbeside
  exact Prod.ext houtcome halike.eq_beside

/-- Choosing a backend does not touch the life of the run. -/
lemma lifecycle_backendFor (s : Session σ τ) (p : Profile) :
    (s.backendFor p).2.lifecycle = s.lifecycle := by
  unfold Session.backendFor
  split
  · rfl
  · unfold Session.settlePooling
    split <;> rfl

/-- Connecting does not touch the life of the run. -/
lemma lifecycle_connect (s : Session σ τ) :
    (m.connect services s).2.lifecycle = s.lifecycle := by
  have hchosen := lifecycle_backendFor s m.profile
  have htried (b : Backend) (text : String) (s' : Session σ τ)
      (h : s'.lifecycle = s.lifecycle) :
      (m.tries services b text s').2.lifecycle = s.lifecycle := by
    obtain ⟨_, _, _, _, htries⟩ := m.exists_tries_eq services b text s'
    rw [htries]
    exact h
  have hconnects := m.connects_connect services s
  generalize m.connect services s = result at hconnects ⊢
  cases hconnects with
  | noBackend hbackend => rwa [hbackend] at hchosen
  | noText hbackend _ => rwa [hbackend] at hchosen
  | @failed b s₁ _ text _ hbackend _ htries =>
    rw [hbackend] at hchosen
    have hlast := htried b text s₁ hchosen
    rwa [htries] at hlast
  | @connected b s₁ _ text hbackend _ htries =>
    rw [hbackend] at hchosen
    have hlast := htried b text s₁ hchosen
    rwa [htries] at hlast

/-- Keeping the record does not change an opening, which adds to it and else leaves it as it is. -/
theorem openConnection_recorded (c : Connection) (s : Session σ τ) (asked : List (ReachAsk τ)) :
    let (outcome, c', s') := m.openConnection services c s
    ∃ more, m.openConnection services.recorded c (s.beside asked) =
      (outcome, c', s'.beside (asked ++ more)) := by
  cases hopen : c.isOpen with
  | true =>
    rw [openConnection_of_isOpen hopen]
    exact ⟨[], by rw [openConnection_of_isOpen hopen, List.append_nil]⟩
  | false =>
    -- connecting asks the connector nothing, so all that is added comes from the start of the run
    have hbeside := m.connect_beside services s asked
    rcases hconnect : m.connect services s with ⟨outcome, s'⟩
    rw [hconnect] at hbeside
    cases outcome with
    | error e =>
      rw [openConnection_of_connect_error hopen hconnect]
      exact ⟨[], by rw [openConnection_of_connect_error hopen hbeside, List.append_nil]⟩
    | ok handle =>
      rw [openConnection_of_connect_ok hopen hconnect]
      cases hl : s'.lifecycle with
      | none =>
        have hbesideLifecycle : (s'.beside asked).lifecycle = none := hl
        refine ⟨[], ?_⟩
        rw [openConnection_of_connect_ok hopen hbeside, List.append_nil]
        simp only [Session.startLifecycle, hl, hbesideLifecycle]
      | some l =>
        have hbesideLifecycle : (s'.beside asked).lifecycle = some l := hl
        have hstart := l.startOnce_recorded services.connector m.profile s'.world asked
        refine ⟨l.asks services.connector m.profile s'.world, ?_⟩
        rw [openConnection_of_connect_ok hopen hbeside]
        simp only [Session.startLifecycle, hl, hbesideLifecycle]
        rw [show l.startOnce services.recorded.connector m.profile (s'.beside asked).world = _
          from hstart]
        rfl

/-- An opening that fails does not ask the connector, and leaves the life of the run as it is. -/
lemma openConnection_of_error {c : Connection} (h : c.isOpen = false) {s : Session σ τ}
    {e : ConnectionError} (he : (m.openConnection services c s).1 = .error e)
    (asked : List (ReachAsk τ)) :
    (m.openConnection services c s).2.2.lifecycle = s.lifecycle ∧
      (m.openConnection services.recorded c (s.beside asked)).2.2.world.2 = asked := by
  have hlifecycle := m.lifecycle_connect services s
  have hbeside := m.connect_beside services s asked
  rcases hconnect : m.connect services s with ⟨outcome, s'⟩
  rw [hconnect] at hlifecycle hbeside
  cases outcome with
  | error e' =>
    rw [openConnection_of_connect_error h hconnect, openConnection_of_connect_error h hbeside]
    exact ⟨hlifecycle, rfl⟩
  | ok handle => simp [openConnection_of_connect_ok h hconnect] at he

/-- An opening that succeeds lets the life of the run begin with the profile of the manager, and
asks the connector for nothing else. -/
lemma openConnection_of_ok {c : Connection} (h : c.isOpen = false) {s : Session σ τ}
    (hok : (m.openConnection services c s).1 = .ok ()) {l : RunLifecycle τ}
    (hl : s.lifecycle = some l) (asked : List (ReachAsk τ)) :
    ∃ w, (m.openConnection services c s).2.2.lifecycle =
        some (l.startOnce services.connector m.profile w).1 ∧
      (m.openConnection services.recorded c (s.beside asked)).2.2.world.2 =
        asked ++ l.asks services.connector m.profile w := by
  have hlifecycle := m.lifecycle_connect services s
  have hbeside := m.connect_beside services s asked
  rcases hconnect : m.connect services s with ⟨outcome, s'⟩
  rw [hconnect] at hbeside
  rw [hconnect, hl] at hlifecycle
  cases outcome with
  | error e' => simp [openConnection_of_connect_error h hconnect] at hok
  | ok handle =>
    have hl' : s'.lifecycle = some l := hlifecycle
    have hbesideLifecycle : (s'.beside asked).lifecycle = some l := hl'
    have hstart := l.startOnce_recorded services.connector m.profile s'.world asked
    rw [openConnection_of_connect_ok h hconnect, openConnection_of_connect_ok h hbeside]
    refine ⟨s'.world, ?_, ?_⟩
    · simp only [Session.startLifecycle, hl']
    · simp only [Session.startLifecycle, hbesideLifecycle]
      exact congrArg (fun r => r.2.2) hstart

end ConnectionManager

end WarehouseAccess
