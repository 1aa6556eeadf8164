import Mathlib.Data.List.Forall2
import WarehouseAccess.Proofs.Connection.Alike
import WarehouseAccess.Proofs.Connection.Workplace
import WarehouseAccess.Proofs.Token.Record
import WarehouseAccess.Token.Script

/-!
# Connections without the life of a run

When the life of a run begins with an opening, a good deal can go wrong on the way to its snapshot:
the control plane cannot be reached, it refuses or fails at any request, it answers with something
else, or it is never done.  None of this can be seen from a connection.  `Workplace.detached` takes
the life of the run out of a workplace; moves made without it have the outcomes that they have with
it, and leave connections, drivers and pauses as it does.

All that the connector has to keep to is `ControlPlaneConnector.SparesTokens`: it may change the
world that tokens come from, but not what the clock and the strategies that connections sign in with
answer there.  One that drew from the scripts of those strategies could leave connections without.

### Outline

* `TokenAuthority.Respects` is what a relation of worlds needs for logins to go the same in related
  worlds, as `findsAlike_of_respects` shows; `SameAnswers` is such a relation;
* `Session.Spared` are a session and the same one without the life of a run, in related worlds:
  `RunLifecycle.related_startOnce` is where it is used that the connector keeps worlds related;
* `perform_spared` says the rest for one use of a connection, `step_spared` for one move and
  `history_spared` for moves one after the other.
-/

namespace WarehouseAccess

variable {σ τ : Type}

/-! ### What logins ask -/

/-- What a login asks of the world that tokens come from. -/
inductive LoginQuestion where
  /-- What time it is. -/
  | now
  /-- A new token for the database, of a strategy and on behalf of a profile. -/
  | fetch (p : Profile) (s : TokenStrategy)

/-- Logins of these profiles ask it. -/
def LoginQuestion.AskedFor (profiles : List Profile) : LoginQuestion → Prop
  | now => True
  | fetch p s => p ∈ profiles ∧ p.authentication = .token s

namespace TokenAuthority

variable (a : TokenAuthority σ) (profiles : List Profile)

/-- The answers to questions that are asked one after the other. -/
def answers : List LoginQuestion → σ → List (Int64 ⊕ Except AuthError AccessToken)
  | [], _ => []
  | .now :: rest, w =>
    let (time, w) := a.now w
    .inl time :: answers rest w
  | .fetch p s :: rest, w =>
    let (outcome, w) := a.fetch p s databaseScope w
    .inr outcome :: answers rest w

/-- In both worlds logins of these profiles get the same answers, whatever they ask and however
often. -/
def SameAnswers (w w' : σ) : Prop :=
  ∀ questions : List LoginQuestion, (∀ q ∈ questions, q.AskedFor profiles) →
    a.answers questions w' = a.answers questions w

/-- In related worlds logins of these profiles get the same answer to a question, and the worlds
stay related. -/
structure Respects (related : σ → σ → Prop) : Prop where
  now : ∀ w w', related w w' → (a.now w').1 = (a.now w).1 ∧ related (a.now w).2 (a.now w').2
  fetch : ∀ p ∈ profiles, ∀ s, p.authentication = .token s → ∀ w w', related w w' →
    (a.fetch p s databaseScope w').1 = (a.fetch p s databaseScope w).1 ∧
      related (a.fetch p s databaseScope w).2 (a.fetch p s databaseScope w').2

/-- A world is related to itself alone. -/
lemma respects_eq : a.Respects profiles Eq where
  now := by
    rintro w _ rfl
    exact ⟨rfl, rfl⟩
  fetch := by
    rintro p - s - w _ rfl
    exact ⟨rfl, rfl⟩

/-- Worlds with the same answers have the same answers to what is asked next. -/
lemma respects_sameAnswers : a.Respects profiles (a.SameAnswers profiles) where
  now w w' h := by
    have hasked (rest : List LoginQuestion) (hrest : ∀ q ∈ rest, q.AskedFor profiles) :=
      List.cons.inj (h (.now :: rest) (List.forall_mem_cons.mpr ⟨trivial, hrest⟩))
    exact ⟨Sum.inl.inj (hasked [] (by simp)).1, fun rest hrest => (hasked rest hrest).2⟩
  fetch p hp s hmode w w' h := by
    have hasked (rest : List LoginQuestion) (hrest : ∀ q ∈ rest, q.AskedFor profiles) :=
      List.cons.inj (h (.fetch p s :: rest) (List.forall_mem_cons.mpr ⟨⟨hp, hmode⟩, hrest⟩))
    exact ⟨Sum.inr.inj (hasked [] (by simp)).1, fun rest hrest => (hasked rest hrest).2⟩

/-- Related worlds give the same answers, if that relation is kept by what logins ask. -/
lemma Respects.sameAnswers {a : TokenAuthority σ} {profiles : List Profile}
    {related : σ → σ → Prop} (h : a.Respects profiles related) {w w' : σ} (hw : related w w') :
    a.SameAnswers profiles w w' := by
  intro questions hquestions
  induction questions generalizing w w' with
  | nil => rfl
  | cons question rest ih =>
    obtain ⟨hquestion, hrest⟩ := List.forall_mem_cons.mp hquestions
    cases question with
    | now =>
      obtain ⟨htime, hafter⟩ := h.now w w' hw
      exact congrArg₂ List.cons (congrArg Sum.inl htime) (ih hafter hrest)
    | fetch p s =>
      obtain ⟨houtcome, hafter⟩ := h.fetch p hquestion.1 s hquestion.2 w w' hw
      exact congrArg₂ List.cons (congrArg Sum.inr houtcome) (ih hafter hrest)

/-- Worlds that logins cannot tell from a third one they cannot tell from each other. -/
lemma SameAnswers.trans {a : TokenAuthority σ} {profiles : List Profile} {w w' w'' : σ}
    (h : a.SameAnswers profiles w w') (h' : a.SameAnswers profiles w' w'') :
    a.SameAnswers profiles w w'' :=
  fun questions hasked => (h' questions hasked).trans (h questions hasked)

/-- It does not matter which of two worlds comes first. -/
lemma SameAnswers.symm {a : TokenAuthority σ} {profiles : List Profile} {w w' : σ}
    (h : a.SameAnswers profiles w w') : a.SameAnswers profiles w' w :=
  fun questions hasked => (h questions hasked).symm

section Respecting

variable {a profiles} {related : σ → σ → Prop} (h : a.Respects profiles related)
include h

/-- A new token of a strategy is found alike in related worlds. -/
lemma Respects.refresh {p : Profile} (hp : p ∈ profiles) {s : TokenStrategy}
    (hmode : p.authentication = .token s) (cache : TokenCache) {w w' : σ} (hw : related w w') :
    (a.refresh p s cache w').1 = (a.refresh p s cache w).1 ∧
      (a.refresh p s cache w').2.1 = (a.refresh p s cache w).2.1 ∧
      related (a.refresh p s cache w).2.2 (a.refresh p s cache w').2.2 := by
  obtain ⟨houtcome, hafter⟩ := h.fetch p hp s hmode w w' hw
  unfold TokenAuthority.refresh
  generalize a.fetch p s databaseScope w = fetched at *
  generalize a.fetch p s databaseScope w' = fetched' at *
  obtain ⟨outcome, w₁⟩ := fetched
  obtain ⟨outcome', w₁'⟩ := fetched'
  obtain rfl : outcome' = outcome := houtcome
  cases outcome' <;> exact ⟨rfl, rfl, hafter⟩

/-- A token for the database is found alike in related worlds. -/
lemma Respects.cachedToken {p : Profile} (hp : p ∈ profiles) {s : TokenStrategy}
    (hmode : p.authentication = .token s) (cache : TokenCache) {w w' : σ} (hw : related w w') :
    (a.cachedToken p s cache w').1 = (a.cachedToken p s cache w).1 ∧
      (a.cachedToken p s cache w').2.1 = (a.cachedToken p s cache w).2.1 ∧
      related (a.cachedToken p s cache w).2.2 (a.cachedToken p s cache w').2.2 := by
  cases cache with
  | none => exact h.refresh hp hmode none hw
  | some token =>
    obtain ⟨htime, hafter⟩ := h.now w w' hw
    rw [cachedToken_some, cachedToken_some]
    generalize a.now w = read at *
    generalize a.now w' = read' at *
    obtain ⟨time, w₁⟩ := read
    obtain ⟨time', w₁'⟩ := read'
    obtain rfl : time' = time := htime
    dsimp only
    split_ifs
    · exact h.refresh hp hmode (some token) hafter
    · exact ⟨rfl, rfl, hafter⟩

/-- The attributes of a login are found alike in related worlds. -/
lemma findsAlike_of_respects {p : Profile} (hp : p ∈ profiles) : a.FindsAlike a p related := by
  intro b cache w w' hw
  unfold preAuthAttributes
  split_ifs
  · cases hmode : p.authentication with
    | token s =>
      obtain ⟨houtcome, hcache, hafter⟩ := h.cachedToken hp hmode cache hw
      dsimp only
      generalize a.cachedToken p s cache w = found at *
      generalize a.cachedToken p s cache w' = found' at *
      obtain ⟨outcome, cache₁, w₁⟩ := found
      obtain ⟨outcome', cache₁', w₁'⟩ := found'
      obtain rfl : outcome' = outcome := houtcome
      obtain rfl : cache₁' = cache₁ := hcache
      cases outcome' <;> exact ⟨rfl, rfl, hafter⟩
    | _ => exact ⟨rfl, rfl, hw⟩
  · exact ⟨rfl, rfl, hw⟩

end Respecting

end TokenAuthority

/-! ### The beginning of a run -/

namespace ControlPlaneConnector

/-- Reaching the control plane for one of these profiles, in its workspace, changes nothing of what
their logins get to know: it may change the world, but not what the clock and the strategies that
they sign in with answer. -/
def SparesTokens (k : ControlPlaneConnector σ τ) (a : TokenAuthority σ) (profiles : List Profile) :
    Prop :=
  ∀ p ∈ profiles, ∀ workspaceId, p.workspaceId = some workspaceId → ∀ w service,
    a.SameAnswers profiles w (k.connect p workspaceId w service).2.1

/-- Reaching the control plane for one of these profiles, in its workspace, leaves the world as it
is. -/
def LeavesWorld (k : ControlPlaneConnector σ τ) (profiles : List Profile) : Prop :=
  ∀ p ∈ profiles, ∀ workspaceId, p.workspaceId = some workspaceId → ∀ w service,
    (k.connect p workspaceId w service).2.1 = w

/-- Reaching the control plane for one of these profiles keeps a world related to another. -/
def Keeps (k : ControlPlaneConnector σ τ) (profiles : List Profile) (related : σ → σ → Prop) :
    Prop :=
  ∀ p ∈ profiles, ∀ workspaceId, p.workspaceId = some workspaceId → ∀ w service w',
    related w w' → related (k.connect p workspaceId w service).2.1 w'

/-- What logins get to know stays the same. -/
lemma SparesTokens.keeps {k : ControlPlaneConnector σ τ} {a : TokenAuthority σ}
    {profiles : List Profile} (h : k.SparesTokens a profiles) :
    k.Keeps profiles (a.SameAnswers profiles) :=
  fun p hp workspaceId hid w service _ hw => (h p hp workspaceId hid w service).symm.trans hw

/-- A world that is left as it is stays the same. -/
lemma LeavesWorld.keeps {k : ControlPlaneConnector σ τ} {profiles : List Profile}
    (h : k.LeavesWorld profiles) : k.Keeps profiles Eq :=
  fun p hp workspaceId hid w service _ hw => (h p hp workspaceId hid w service).trans hw

end ControlPlaneConnector

/-- The beginning of a run keeps a world related to another, whatever comes of it. -/
lemma RunLifecycle.related_startOnce {k : ControlPlaneConnector σ τ} {profiles : List Profile}
    {related : σ → σ → Prop} (hkeeps : k.Keeps profiles related) (l : RunLifecycle τ) {p : Profile}
    (hp : p ∈ profiles) {w w' : σ} (hw : related w w') : related (l.startOnce k p w).2 w' := by
  unfold startOnce
  split_ifs
  · unfold reach
    cases hid : p.workspaceId with
    | none => exact hw
    | some workspaceId =>
      have hreached := hkeeps p hp workspaceId hid w l.service w' hw
      dsimp only
      generalize k.connect p workspaceId w l.service = result at *
      obtain ⟨outcome, w₁, service⟩ := result
      cases outcome <;> exact hreached
  · exact hw

/-! ### Two runs -/

/-- The second session is the first one without the life of a run, in a related world. -/
abbrev Session.Spared (related : σ → σ → Prop) : Session σ τ → Session σ τ → Prop :=
  Session.Alike related fun _ l' => l' = none

/-- The session without the life of a run. -/
def Session.detached (s : Session σ τ) : Session σ τ := { s with lifecycle := none }

section Openings

variable {services : Services σ τ} {profiles : List Profile} {related : σ → σ → Prop}
  (hrespects : services.authority.Respects profiles related)
  (hkeeps : services.connector.Keeps profiles related)

include hkeeps in
/-- The beginning of a run changes nothing but its life and the world. -/
lemma Session.Alike.startLifecycle {s s' : Session σ τ} (h : s.Spared related s') {p : Profile}
    (hp : p ∈ profiles) :
    (s.startLifecycle services p).Spared related (s'.startLifecycle services p) := by
  have hnone : s'.startLifecycle services p = s' := by
    unfold Session.startLifecycle
    rw [h.lifecycle]
  rw [hnone]
  unfold Session.startLifecycle
  cases s.lifecycle with
  | none => exact h
  | some l => exact { h with world := l.related_startOnce hkeeps hp h.world }

include hrespects hkeeps

/-- An opening goes the same without the life of a run. -/
lemma ConnectionManager.openConnection_spared (m : ConnectionManager) (hm : m.profile ∈ profiles)
    (c : Connection) {s s' : Session σ τ} (h : s.Spared related s') :
    (m.openConnection services c s').1 = (m.openConnection services c s).1 ∧
      (m.openConnection services c s').2.1 = (m.openConnection services c s).2.1 ∧
      (m.openConnection services c s).2.2.Spared related (m.openConnection services c s').2.2 := by
  cases hopen : c.isOpen with
  | true =>
    rw [openConnection_of_isOpen hopen, openConnection_of_isOpen hopen]
    exact ⟨rfl, rfl, h⟩
  | false =>
    obtain ⟨houtcome, hafter⟩ :=
      m.connect_alike (TokenAuthority.findsAlike_of_respects hrespects hm) h
    rcases hconnect : m.connect services s with ⟨outcome, s₁⟩
    rcases hconnect' : m.connect services s' with ⟨outcome', s₁'⟩
    rw [hconnect, hconnect'] at houtcome hafter
    obtain rfl : outcome' = outcome := houtcome
    cases outcome' with
    | error e =>
      rw [openConnection_of_connect_error hopen hconnect,
        openConnection_of_connect_error hopen hconnect']
      exact ⟨rfl, rfl, hafter⟩
    | ok handle =>
      rw [openConnection_of_connect_ok hopen hconnect, openConnection_of_connect_ok hopen hconnect']
      exact ⟨rfl, rfl, hafter.startLifecycle hkeeps hm⟩

/-- Whatever is done with a connection, it goes the same without the life of a run. -/
lemma ConnectionUse.perform_spared (use : ConnectionUse)
    (huse : ∀ m, use = .openBy m → m.profile ∈ profiles) (c : Connection) {s s' : Session σ τ}
    (h : s.Spared related s') :
    (use.perform services c s').1 = (use.perform services c s).1 ∧
      (use.perform services c s').2.1 = (use.perform services c s).2.1 ∧
      (use.perform services c s).2.2.Spared related (use.perform services c s').2.2 := by
  cases use with
  | openBy m => exact m.openConnection_spared hrespects hkeeps (huse m rfl) c h
  | addQuery m sql bindings =>
    obtain ⟨houtcome, hconnection, hafter⟩ := m.addQuery_alike c sql bindings h
    exact ⟨congrArg (Except.map fun _ => ()) houtcome, hconnection, hafter⟩
  | execute m sql fetch limit =>
    obtain ⟨houtcome, hconnection, hafter⟩ := m.execute_alike c sql fetch limit h
    exact ⟨congrArg (Except.map fun _ => ()) houtcome, hconnection, hafter⟩
  | releaseByManager =>
    rw [perform, perform, h.drivers]
    exact ⟨rfl, rfl, { h with drivers := rfl }⟩
  | release =>
    rw [perform, perform, h.drivers]
    exact ⟨rfl, rfl, { h with drivers := rfl }⟩
  | rollback =>
    rw [perform, perform, h.drivers]
    exact ⟨rfl, rfl, { h with drivers := rfl }⟩

end Openings

/-- The profile of the manager that opens a connection, if the move is an opening. -/
def Move.opener? (move : Move) : Option Profile :=
  match move.use with
  | .openBy m => some m.profile
  | _ => none

namespace Workplace

/-- The workplace without the life of a run. -/
def detached (w : Workplace σ τ) : Workplace σ τ := { w with session := w.session.detached }

/-- The outcomes of moves, one after the other, each with the workplace that the move leaves. -/
def history (services : Services σ τ) :
    Workplace σ τ → List Move → List (Except ConnectionError Unit × Workplace σ τ)
  | _, [] => []
  | w, move :: rest => w.step services move :: history services (w.step services move).2 rest

/-- The second workplace is the first one without the life of a run, in a related world. -/
structure Spared (related : σ → σ → Prop) (w w' : Workplace σ τ) : Prop where
  connections : w'.connections = w.connections
  session : w.session.Spared related w'.session

/-- A move ends alike with and without the life of a run: with the same outcome, and in the same
workplace but for that. -/
structure EndsAlike (related : σ → σ → Prop)
    (done done' : Except ConnectionError Unit × Workplace σ τ) : Prop where
  outcome : done'.1 = done.1
  workplace : done.2.Spared related done'.2

/-- A workplace without the life of a run, in the same world. -/
lemma Spared.eq_detached {w w' : Workplace σ τ} (h : w.Spared Eq w') : w' = w.detached := by
  obtain ⟨⟨drivers, world, resolver, poolingSettled, override, tokens, pauses, lifecycle⟩,
    connections⟩ := w'
  obtain ⟨rfl, hsession⟩ := h
  obtain ⟨rfl, rfl, rfl, rfl, rfl, rfl, rfl, rfl⟩ := hsession
  rfl

section Moves

variable {services : Services σ τ} {profiles : List Profile} {related : σ → σ → Prop}
  (hrespects : services.authority.Respects profiles related)
  (hkeeps : services.connector.Keeps profiles related)
include hrespects hkeeps

/-- A move goes the same without the life of a run. -/
lemma step_spared {w w' : Workplace σ τ} (h : w.Spared related w') (move : Move)
    (hmove : ∀ p, move.opener? = some p → p ∈ profiles) :
    EndsAlike related (w.step services move) (w'.step services move) := by
  unfold step
  rw [h.connections]
  cases w.connections[move.connection]? with
  | none => exact ⟨rfl, h⟩
  | some c =>
    have hfound : (w.sessionFor move).Spared related (w'.sessionFor move) :=
      { h.session with override := rfl }
    have hopens (m : ConnectionManager) (huse : move.use = .openBy m) : m.profile ∈ profiles :=
      hmove m.profile (by rw [Move.opener?, huse])
    obtain ⟨houtcome, hconnection, hafter⟩ :=
      move.use.perform_spared hrespects hkeeps hopens c hfound
    dsimp only
    generalize move.use.perform services c (w.sessionFor move) = result at *
    generalize move.use.perform services c (w'.sessionFor move) = result' at *
    obtain ⟨outcome, c₁, s₁⟩ := result
    obtain ⟨outcome', c₁', s₁'⟩ := result'
    obtain rfl : outcome' = outcome := houtcome
    obtain rfl : c₁' = c₁ := hconnection
    exact ⟨rfl, rfl, hafter⟩

/-- Moves go the same without the life of a run, one after the other. -/
lemma history_spared {w w' : Workplace σ τ} (h : w.Spared related w') (moves : List Move)
    (hmoves : ∀ p ∈ moves.filterMap Move.opener?, p ∈ profiles) :
    List.Forall₂ (EndsAlike related) (w.history services moves) (w'.history services moves) := by
  induction moves generalizing w w' with
  | nil => exact .nil
  | cons move moves ih =>
    have hstep := step_spared hrespects hkeeps h move fun p hp =>
      hmoves p (List.mem_filterMap.mpr ⟨move, List.mem_cons_self, hp⟩)
    refine .cons hstep (ih hstep.workplace fun p hp => hmoves p ?_)
    obtain ⟨later, hlater, hp⟩ := List.mem_filterMap.mp hp
    exact List.mem_filterMap.mpr ⟨later, List.mem_cons_of_mem _ hlater, hp⟩

end Moves

/-- Any moves that managers make with connections go the same without the life of a run as with it,
whatever the connector and the control plane do.  For every move the outcome is the same, and so are
afterwards the connections with their states, the drivers with all that they were called for, the
pauses between tries, and everything else but the life of the run itself and the world, where logins
get the same answers in both cases.

A connector that leaves the world as it is leaves no difference in the worlds either. -/
theorem history_detached (services : Services σ τ) (w : Workplace σ τ) (moves : List Move)
    (hspares : services.connector.SparesTokens services.authority
      (moves.filterMap Move.opener?)) :
    List.Forall₂ (EndsAlike (services.authority.SameAnswers (moves.filterMap Move.opener?)))
      (w.history services moves) (w.detached.history services moves) ∧
    (services.connector.LeavesWorld (moves.filterMap Move.opener?) →
      w.detached.history services moves =
        (w.history services moves).map fun (outcome, w') => (outcome, w'.detached)) := by
  have hdetached {related : σ → σ → Prop} (hrefl : ∀ world, related world world) :
      w.Spared related w.detached := ⟨rfl, rfl, hrefl _, rfl, rfl, rfl, rfl, rfl, rfl⟩
  refine ⟨history_spared (services.authority.respects_sameAnswers _) hspares.keeps
    (hdetached fun _ _ _ => rfl) moves fun _ hp => hp, fun hleaves => ?_⟩
  have hspared := history_spared (services.authority.respects_eq _) hleaves.keeps
    (hdetached fun _ => rfl) moves fun _ hp => hp
  symm
  rw [← List.forall₂_eq_eq_eq, List.forall₂_map_left_iff]
  exact hspared.imp fun done done' hends =>
    Prod.ext hends.outcome.symm hends.workplace.eq_detached.symm

end Workplace

/-! ### A connector with a script of its own -/

namespace ScriptedTokens

/-- What stands under a key once another value was put under some key that was there. -/
lemma lookup_replace {β : Type} (entries : List (String × β)) (key key' : String) (b : β) :
    (entries.map fun e => if e.1 == key then (key, b) else e).lookup key' =
      if key' = key then (entries.lookup key').map fun _ => b else entries.lookup key' := by
  induction entries with
  | nil => simp
  | cons e rest ih =>
    obtain ⟨k, b'⟩ := e
    rw [List.map_cons]
    by_cases hkey : key' = k
    · subst hkey
      by_cases hk : key' = key <;> simp [hk]
    · have hother : (key' == k) = false := beq_false_of_ne hkey
      by_cases hk : k = key
      · subst hk
        simpa [List.lookup_cons, hother, hkey] using ih
      · simpa [List.lookup_cons, hother, hk] using ih

/-- The next answer of a script is taken from that script alone. -/
lemma lookup_scripts_next (w : ScriptedTokens) (key key' : String) :
    (w.next key).2.scripts.lookup key' =
      if key' = key then (w.scripts.lookup key').map List.tail else w.scripts.lookup key' := by
  unfold next
  split
  · next hnone =>
    split_ifs with hkey
    · subst hkey
      cases hscript : w.scripts.lookup key' <;> simp_all
    · rfl
  · next a rest hsome =>
    dsimp only
    rw [lookup_replace]
    split_ifs with hkey
    · subst hkey
      cases hscript : w.scripts.lookup key' <;> simp_all
    · rfl

/-- The clock stands still. -/
lemma clock_next (w : ScriptedTokens) (key : String) : (w.next key).2.clock = w.clock := by
  unfold next
  split <;> rfl

end ScriptedTokens

/-- Signing in to the control plane leaves the world as the search for the token does. -/
lemma ControlPlaneConnector.world_signingIn (a : TokenAuthority σ)
    (transport : String → Except ControlPlaneError (Exchange.Peer τ)) (p : Profile)
    (workspaceId : String) (w : σ) (service : τ) :
    ((signingIn a transport).connect p workspaceId w service).2.1 =
      (a.controlPlaneToken p w).2 := by
  unfold signingIn
  dsimp only
  rcases a.controlPlaneToken p w with ⟨outcome, w'⟩
  cases outcome with
  | error e => rfl
  | ok token =>
    dsimp only
    cases transport token <;> rfl

namespace Workplace

/-- Somebody who signs in with the command-line tool, and who wants a snapshot. -/
def toolProfile : Profile :=
  { (Profile.new "warehouse.example" "sales" "dbo").withSnapshot "ws-1" "nightly" with
    authentication := .token .cli }

/-- The command-line tool and service principals have a script each. -/
def twoScripts : TokenAuthority ScriptedTokens :=
  ((TokenAuthority.empty ScriptedTokens.bareSystem).withProvider .cli
    (ScriptedTokens.provider "cli" "cli")).withPrincipal
    (ScriptedTokens.provider ScriptedTokens.principalKey ScriptedTokens.principalKey)

/-- A control plane where no request gets through. -/
def brokenPeer : Exchange.Peer Unit where
  answer _ s := (.failure "connection reset", s)
  now s := (0, s)

/-- For that control plane the connector signs in as a service principal, whoever the profile is
of. -/
def brokenServices : Services ScriptedTokens Unit where
  authority := twoScripts
  connector := ⟨fun p =>
    (ControlPlaneConnector.signingIn twoScripts fun _ => .ok brokenPeer).connect
      { p with authentication := .activeDirectoryServicePrincipal }⟩

/-- The clock is the same, and so is what is left of the script of the command-line tool. -/
def SameTool (w w' : ScriptedTokens) : Prop :=
  w'.clock = w.clock ∧ w'.scripts.lookup "cli" = w.scripts.lookup "cli"

/-- The command-line tool goes by the clock and by its own script. -/
lemma respects_sameTool (profiles : List Profile) (hprofiles : ∀ p ∈ profiles, p = toolProfile) :
    brokenServices.authority.Respects profiles SameTool where
  now w w' h := ⟨h.1, h⟩
  fetch p hp s hmode w w' h := by
    obtain rfl := hprofiles p hp
    obtain rfl : TokenStrategy.cli = s := AuthenticationMode.token.inj hmode
    obtain ⟨hclock, hscript⟩ := h
    have hanswer : (w'.next "cli").1 = (w.next "cli").1 := by
      unfold ScriptedTokens.next
      rw [hscript]
      split <;> rfl
    have hafter : SameTool (w.next "cli").2 (w'.next "cli").2 := by
      refine ⟨?_, ?_⟩
      · rw [ScriptedTokens.clock_next, ScriptedTokens.clock_next, hclock]
      · rw [ScriptedTokens.lookup_scripts_next, ScriptedTokens.lookup_scripts_next, hscript]
    have hfetch (w : ScriptedTokens) :
        brokenServices.authority.fetch toolProfile .cli databaseScope w =
          (ScriptedTokens.provider "cli" "cli").request toolProfile databaseScope w := rfl
    rw [hfetch, hfetch]
    refine ⟨?_, hafter⟩
    unfold ScriptedTokens.provider
    dsimp only
    rw [hanswer, hafter.1]

/-- The connector draws from the script of service principals alone. -/
lemma sparesTokens_brokenServices (profiles : List Profile)
    (hprofiles : ∀ p ∈ profiles, p = toolProfile) :
    brokenServices.connector.SparesTokens brokenServices.authority profiles := by
  intro p hp workspaceId hid w service
  refine (respects_sameTool profiles hprofiles).sameAnswers ?_
  have hdrawn : SameTool w (w.next ScriptedTokens.principalKey).2 := by
    refine ⟨w.clock_next _, ?_⟩
    rw [ScriptedTokens.lookup_scripts_next, if_neg (by decide)]
  have hworld : (brokenServices.connector.connect p workspaceId w service).2.1 =
      (brokenServices.authority.controlPlaneToken
        { p with authentication := .activeDirectoryServicePrincipal } w).2 :=
    ControlPlaneConnector.world_signingIn twoScripts (fun _ => .ok brokenPeer) _ workspaceId w
      service
  rw [hworld]
  exact hdrawn

/-- Two openings by somebody who signs in with the command-line tool, at second 1000.  The first one
gets a token that has expired, so the second one fetches a new one.  The run that begins with the
first one draws a token for service principals, and then fails at its first request. -/
theorem history_detached_broken :
    let opening : ConnectionUse := .openBy ⟨toolProfile, defaultApplicationName⟩
    let moves : List Move := [⟨0, none, opening⟩, ⟨1, none, opening⟩]
    let session : Session ScriptedTokens Unit :=
      { drivers := { odbc := some { script := {} } }
        world :=
          { clock := 1000
            scripts := [("cli", [.expiring "token-1" 1000, .lasting "token-2" 3600]),
              (ScriptedTokens.principalKey, [.lasting "token-3" 3600])] } }
    let l : RunLifecycle Unit := { command := some "run", service := () }
    let attached : Workplace ScriptedTokens Unit :=
      ⟨{ session with lifecycle := some l }, [.new "first", .new "second"]⟩
    let world := (attached.run brokenServices moves).session.world
    let world' := (attached.detached.run brokenServices moves).session.world
    brokenServices.connector.SparesTokens brokenServices.authority
        (moves.filterMap Move.opener?) ∧
      (attached.run brokenServices moves).session.lifecycle.map (fun l =>
        ((Exchange.requests l.events).length, l.hook.isNone)) = some (1, true) ∧
      (attached.history brokenServices moves).map Prod.fst = [.ok (), .ok ()] ∧
      (world.scopes "cli" = [databaseScope, databaseScope] ∧
        world.scopes ScriptedTokens.principalKey = [controlPlaneScope]) ∧
      (world'.scopes "cli" = [databaseScope, databaseScope] ∧
        world'.scopes ScriptedTokens.principalKey = []) ∧
      List.Forall₂ (EndsAlike (brokenServices.authority.SameAnswers (moves.filterMap Move.opener?)))
        (attached.history brokenServices moves)
        (attached.detached.history brokenServices moves) := by
  intro opening moves session l attached world world'
  have hspares := sparesTokens_brokenServices (moves.filterMap Move.opener?)
    (by simp [moves, opening, Move.opener?])
  exact ⟨hspares, by decide +kernel, by decide +kernel, by decide +kernel, by decide +kernel,
    (history_detached brokenServices attached moves hspares).1⟩

end Workplace

end WarehouseAccess
