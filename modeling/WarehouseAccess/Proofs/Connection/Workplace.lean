import WarehouseAccess.Proofs.Connection.Handles

/-!
# Connections in use

A workplace is a session and the connections that are used in it.  A move lets one manager do one
thing with one connection.  After any moves from the start the drivers have opened just as many
connections more than they were told to close as there are open connections, and releasing a
connection for a second time asks nothing of a driver.
-/

namespace WarehouseAccess

/-- What can be done with a connection. -/
inductive ConnectionUse where
  | openBy (m : ConnectionManager)
  | addQuery (m : ConnectionManager) (sql : String) (bindings : Option (List SqlValue))
  | execute (m : ConnectionManager) (sql : String) (fetch : Bool) (limit : Option Nat)
  /-- Releases the connection as managers do, after a try to roll back. -/
  | releaseByManager
  | release
  | rollback

namespace ConnectionUse

variable {σ τ : Type}

/-- Does it, and tells whether it succeeded. -/
def perform (services : Services σ τ) (c : Connection) (s : Session σ τ) :
    ConnectionUse → Except ConnectionError Unit × Connection × Session σ τ
  | openBy m => m.openConnection services c s
  | addQuery m sql bindings =>
    let (outcome, c, s) := m.addQuery c sql bindings s
    (outcome.map fun _ => (), c, s)
  | execute m sql fetch limit =>
    let (outcome, c, s) := m.execute c sql fetch limit s
    (outcome.map fun _ => (), c, s)
  | releaseByManager =>
    let (outcome, c, drivers) := ConnectionManager.release c s.drivers
    (outcome, c, { s with drivers })
  | release =>
    let (outcome, c, drivers) := c.release s.drivers
    (outcome.mapError .driver, c, { s with drivers })
  | rollback =>
    let (outcome, drivers) := c.rollback s.drivers
    (outcome.mapError .driver, c, { s with drivers })

/-- It opens the connection. -/
def Opens : ConnectionUse → Prop
  | openBy _ => True
  | _ => False

/-- It releases the connection. -/
def Releases : ConnectionUse → Prop
  | releaseByManager => True
  | release => True
  | _ => False

/-- Whatever is done with a connection, no handle is lost. -/
lemma keeps_perform (services : Services σ τ) {c : Connection} {s : Session σ τ} (hc : c.Settled)
    (hb : c.Backed s.drivers) (use : ConnectionUse) :
    c.Keeps s.drivers (use.perform services c s).2.1 (use.perform services c s).2.2.drivers := by
  cases use with
  | openBy m => exact m.keeps_openConnection services hc hb
  | addQuery m sql bindings => exact m.keeps_addQuery sql bindings hc hb
  | execute m sql fetch limit => exact m.keeps_execute sql fetch limit hc hb
  | releaseByManager => exact ConnectionManager.keeps_release hc hb
  | release => exact Connection.keeps_release hb
  | rollback => exact .of_tracks hc hb (c.tracks_rollback s.drivers c.held)

/-- A use that does not open gives no handle to a connection without one. -/
lemma handle_perform (services : Services σ τ) {c : Connection} (s : Session σ τ)
    (h : c.handle = none) (use : ConnectionUse) (hopens : ¬ use.Opens) :
    (use.perform services c s).2.1.handle = none := by
  cases use with
  | openBy m => exact absurd trivial hopens
  | addQuery m sql bindings => exact m.handle_addQuery sql bindings s h
  | execute m sql fetch limit => exact m.handle_execute sql fetch limit s h
  | releaseByManager => exact c.handle_release _
  | release => exact c.handle_release _
  | rollback => exact h

/-- A use that releases leaves no handle. -/
lemma handle_perform_of_releases (services : Services σ τ) (c : Connection) (s : Session σ τ)
    (use : ConnectionUse) (huse : use.Releases) : (use.perform services c s).2.1.handle = none := by
  cases use with
  | releaseByManager => exact c.handle_release _
  | release => exact c.handle_release _
  | openBy m => exact huse.elim
  | addQuery m sql bindings => exact huse.elim
  | execute m sql fetch limit => exact huse.elim
  | rollback => exact huse.elim

/-- Releasing a connection without handle asks nothing of a driver and succeeds. -/
lemma perform_of_releases (services : Services σ τ) {c : Connection} (s : Session σ τ)
    (h : c.handle = none) (use : ConnectionUse) (huse : use.Releases) :
    (use.perform services c s).1 = .ok () ∧
      (use.perform services c s).2.2.drivers = s.drivers := by
  have hrollback := Connection.rollback_of_handle_eq_none h s.drivers
  have hrelease := Connection.release_of_handle_eq_none h s.drivers
  cases use with
  | releaseByManager =>
    simp [perform, ConnectionManager.release, hrollback, hrelease, Except.mapError]
  | release => simp [perform, hrelease, Except.mapError]
  | openBy m => exact huse.elim
  | addQuery m sql bindings => exact huse.elim
  | execute m sql fetch limit => exact huse.elim
  | rollback => exact huse.elim

end ConnectionUse

/-- A session and the connections that are used in it. -/
structure Workplace (σ τ : Type) where
  session : Session σ τ
  connections : List Connection

/-- One use of one connection. -/
structure Move where
  /-- The place of the connection. -/
  connection : Nat
  /-- What the environment says about the choice of a backend at that time. -/
  override : Option String
  use : ConnectionUse

namespace Workplace

variable {σ τ : Type}

/-- A workplace where nothing was done yet: drivers that only have their scripts, and connections
that were never opened. -/
def start (s : Session σ τ) (native odbc : Option DriverScript) (names : List String) :
    Workplace σ τ where
  session :=
    { s with drivers := ⟨native.map fun script => { script }, odbc.map fun script => { script }⟩ }
  connections := names.map Connection.new

/-- The session as a move finds it. -/
def sessionFor (w : Workplace σ τ) (move : Move) : Session σ τ :=
  { w.session with override := move.override }

/-- Makes a move.  Where there is no connection nothing is done. -/
def step (services : Services σ τ) (w : Workplace σ τ) (move : Move) :
    Except ConnectionError Unit × Workplace σ τ :=
  match w.connections[move.connection]? with
  | none => (.ok (), w)
  | some c =>
    let (outcome, c, session) := move.use.perform services c (w.sessionFor move)
    (outcome, ⟨session, w.connections.set move.connection c⟩)

/-- Makes moves one after the other. -/
def run (services : Services σ τ) (w : Workplace σ τ) (moves : List Move) : Workplace σ τ :=
  moves.foldl (fun w move => (w.step services move).2) w

/-- How many connections the drivers opened. -/
def opens (w : Workplace σ τ) : Nat := w.session.drivers.total ScriptedDriver.opens

/-- How often the drivers were told to close a connection. -/
def closes (w : Workplace σ τ) : Nat := w.session.drivers.total fun d => d.record.closes

/-- Every connection is settled, and the drivers have to close just what the connections hold. -/
structure Balanced (w : Workplace σ τ) : Prop where
  /-- State and handle of every connection agree. -/
  settled : ∀ c ∈ w.connections, c.Settled
  /-- The account of each backend. -/
  outstanding : ∀ b, w.session.drivers.outstanding b = w.connections.countP fun c => c.holds b

/-- Nothing is held at the start. -/
lemma balanced_start (s : Session σ τ) (native odbc : Option DriverScript) (names : List String) :
    (start s native odbc names).Balanced := by
  refine ⟨fun c hc => ?_, fun b => ?_⟩
  · obtain ⟨name, -, rfl⟩ := List.mem_map.mp hc
    exact ⟨by simp [Connection.new], by simp [Connection.new]⟩
  · have hnone : (names.map Connection.new).countP (fun c => c.holds b) = 0 := by
      rw [List.countP_eq_zero]
      intro c hc
      obtain ⟨name, -, rfl⟩ := List.mem_map.mp hc
      simp [Connection.new, Connection.holds]
    have hfresh : ∀ script : Option DriverScript,
        ((script.map fun script => ({ script } : ScriptedDriver)).map
          ScriptedDriver.outstanding).getD 0 = 0 := by
      intro script
      cases script <;> rfl
    rw [start, hnone]
    cases b with
    | native => exact hfresh native
    | odbc => exact hfresh odbc

/-- A handle that a connection holds has its driver, since something is still to be closed. -/
lemma Balanced.backed {w : Workplace σ τ} (h : w.Balanced) {c : Connection}
    (hc : c ∈ w.connections) : c.Backed w.session.drivers := by
  intro b hholds
  have hpos : 0 < w.connections.countP fun c => c.holds b := List.countP_pos_iff.mpr ⟨c, hc, hholds⟩
  have hout := h.outstanding b
  cases hd : w.session.drivers.get? b with
  | some d => rfl
  | none =>
    rw [Drivers.outstanding, hd] at hout
    simp only [Option.map_none, Option.getD_none] at hout
    omega

/-- A move keeps the balance. -/
lemma Balanced.step {w : Workplace σ τ} (h : w.Balanced) (services : Services σ τ) (move : Move) :
    (w.step services move).2.Balanced := by
  unfold Workplace.step
  split
  · exact h
  · next c hget =>
    obtain ⟨hlt, hc⟩ := List.getElem?_eq_some_iff.mp hget
    have hmem : c ∈ w.connections := List.mem_of_getElem? hget
    have hkeeps : c.Keeps w.session.drivers _ _ :=
      move.use.keeps_perform services (s := w.sessionFor move) (h.settled c hmem) (h.backed hmem)
    rcases hp : move.use.perform services c (w.sessionFor move) with ⟨outcome, c', s'⟩
    rw [hp] at hkeeps
    refine ⟨fun c'' hc'' => ?_, fun b => ?_⟩
    · rcases List.mem_or_eq_of_mem_set hc'' with hold | rfl
      · exact h.settled c'' hold
      · exact hkeeps.settled
    · have hout := h.outstanding b
      have htracks := hkeeps.tracks.outstanding b
      -- the connection that moved is counted before and after
      have hle : (if c.holds b then 1 else 0) ≤ w.connections.countP fun c => c.holds b := by
        split_ifs with hholds
        · exact List.countP_pos_iff.mpr ⟨c, hmem, hholds⟩
        · exact Nat.zero_le _
      have hcount : (w.connections.set move.connection c').countP (fun c => c.holds b) =
          (w.connections.countP fun c => c.holds b) - (if c.holds b then 1 else 0) +
            (if c'.holds b then 1 else 0) := by
        rw [List.countP_set hlt, hc]
      change s'.drivers.outstanding b = _
      rw [hcount]
      dsimp only [Connection.held] at htracks
      cases hcb : c.holds b <;> cases hcb' : c'.holds b <;>
        simp only [hcb, hcb', Bool.false_eq_true, if_true, if_false] at htracks hle ⊢ <;> omega

/-- Moves keep the balance. -/
lemma Balanced.run {w : Workplace σ τ} (h : w.Balanced) (services : Services σ τ)
    (moves : List Move) : (w.run services moves).Balanced := by
  induction moves generalizing w with
  | nil => exact h
  | cons move moves ih => exact ih (h.step services move)

/-- Of settled connections, those that are open are those that hold a handle on one backend or the
other. -/
lemma countP_isOpen {connections : List Connection} (h : ∀ c ∈ connections, c.Settled) :
    connections.countP Connection.isOpen =
      (connections.countP fun c => c.holds .native) +
        connections.countP fun c => c.holds .odbc := by
  induction connections with
  | nil => rfl
  | cons c connections ih =>
    have hrest := ih fun c' hc' => h c' (List.mem_cons_of_mem c hc')
    have hc : (if c.isOpen then 1 else 0) =
        (if c.holds .native then 1 else 0) + if c.holds .odbc then 1 else 0 := by
      rw [(h c List.mem_cons_self).isOpen_eq, Connection.holds, Connection.holds]
      cases c.handle with
      | none => rfl
      | some handle =>
        cases hb : handle.backend <;> simp [hb]
    rw [List.countP_cons, List.countP_cons, List.countP_cons, hrest, hc]
    omega

/-! ### Releasing twice -/

/-- Where a move that does not open the connection finds no handle, it leaves none. -/
lemma handle_step (services : Services σ τ) {w : Workplace σ τ} {move : Move} {i : Nat}
    (hopens : move.connection = i → ¬ move.use.Opens)
    (h : ∀ c, w.connections[i]? = some c → c.handle = none) :
    ∀ c, (w.step services move).2.connections[i]? = some c → c.handle = none := by
  unfold step
  split
  · exact h
  · next c hget =>
    intro c' hc'
    dsimp only at hc'
    by_cases hi : move.connection = i
    · subst hi
      have hlt := (List.getElem?_eq_some_iff.mp hget).1
      rw [List.getElem?_set_self hlt, Option.some.injEq] at hc'
      rw [← hc']
      exact move.use.handle_perform services (w.sessionFor move) (h c hget) (hopens rfl)
    · rw [List.getElem?_set_ne hi] at hc'
      exact h c' hc'

/-- Where moves that do not open the connection find no handle, they leave none. -/
lemma handle_run (services : Services σ τ) {w : Workplace σ τ} {moves : List Move} {i : Nat}
    (hopens : ∀ move ∈ moves, move.connection = i → ¬ move.use.Opens)
    (h : ∀ c, w.connections[i]? = some c → c.handle = none) :
    ∀ c, (w.run services moves).connections[i]? = some c → c.handle = none := by
  induction moves generalizing w with
  | nil => exact h
  | cons move moves ih =>
    exact ih (fun move' hmem => hopens move' (List.mem_cons_of_mem _ hmem))
      (handle_step services (hopens move List.mem_cons_self) h)

/-- After a move that releases a connection it has no handle. -/
lemma handle_step_of_releases (services : Services σ τ) (w : Workplace σ τ) {move : Move}
    (h : move.use.Releases) :
    ∀ c, (w.step services move).2.connections[move.connection]? = some c → c.handle = none := by
  unfold step
  split
  · next hget =>
    intro c hc
    simp [hget] at hc
  · next c hget =>
    intro c' hc'
    have hlt := (List.getElem?_eq_some_iff.mp hget).1
    dsimp only at hc'
    rw [List.getElem?_set_self hlt, Option.some.injEq] at hc'
    rw [← hc']
    exact move.use.handle_perform_of_releases services c (w.sessionFor move) h

/-- Where a move that releases a connection finds no handle, it asks nothing of a driver and
succeeds. -/
lemma step_of_releases (services : Services σ τ) {w : Workplace σ τ} {move : Move}
    (huse : move.use.Releases)
    (h : ∀ c, w.connections[move.connection]? = some c → c.handle = none) :
    (w.step services move).1 = .ok () ∧
      (w.step services move).2.session.drivers = w.session.drivers := by
  unfold step
  split
  · exact ⟨rfl, rfl⟩
  · next c hget =>
    exact move.use.perform_of_releases services (w.sessionFor move) (h c hget) huse

/-- After any moves of any managers on connections that start unopened, whatever the drivers, the
providers of tokens and the control plane do:

* every connection is open just when it holds a handle, and none is left half open;
* the connections that drivers opened, less those that they were told to close, are as many as the
  open connections;
* once a connection was released, releasing it again succeeds and asks nothing of a driver, as long
  as it was not opened in between. -/
theorem opened_sub_closed_eq_open (services : Services σ τ) (s : Session σ τ)
    (native odbc : Option DriverScript) (names : List String) (moves : List Move) :
    let w := (start s native odbc names).run services moves
    (∀ c ∈ w.connections, (c.state = .opened ↔ c.handle.isSome) ∧ c.state ≠ .opening) ∧
      (w.opens : Int) - w.closes = w.connections.countP Connection.isOpen ∧
      ∀ (first second : Move) (between : List Move), first.use.Releases → second.use.Releases →
        second.connection = first.connection →
        (∀ move ∈ between, move.connection = first.connection → ¬ move.use.Opens) →
        let w' := (w.step services first).2.run services between
        (w'.step services second).1 = .ok () ∧
          (w'.step services second).2.session.drivers = w'.session.drivers := by
  intro w
  have hbalanced : w.Balanced := (balanced_start s native odbc names).run services moves
  refine ⟨fun c hc => ?_, ?_, ?_⟩
  · have hsettled := hbalanced.settled c hc
    exact ⟨hsettled.opened_iff, hsettled.ne_opening⟩
  · rw [opens, closes, Drivers.total_opens_sub_closes, hbalanced.outstanding,
      hbalanced.outstanding, countP_isOpen hbalanced.settled]
    push_cast
    rfl
  · intro first second between hfirst hsecond hsame hbetween w'
    have hreleased := handle_step_of_releases services w hfirst
    have hstill := handle_run services hbetween hreleased
    rw [← hsame] at hstill
    exact step_of_releases services hsecond hstill

end Workplace

end WarehouseAccess
