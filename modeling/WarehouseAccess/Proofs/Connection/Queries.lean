import WarehouseAccess.Proofs.Connection.Boundary
import WarehouseAccess.Proofs.Connection.Views

/-!
# Statements take effect once

A statement gets one cursor, and is then tried until it succeeds, fails for good, or was tried often
enough.  What drivers were asked about statements is read off their `StatementLog`.

### Outline

* `ScriptedDriver.Carries` says how a statement is carried out, with all its calls and pauses;
  `carries_executeWithRetry` shows it of every statement;
* `ConnectionManager.QueryEnd` says the same of a statement of a manager on a connection that holds
  a handle;
* `Workplace.statementsAlong` are the statements of moves that succeeded, and
  `statements_run` shows that the drivers carried out these and no others;
* `statement_of_query` puts it together.
-/

namespace WarehouseAccess

/-- What a driver was asked about statements. -/
structure StatementLog where
  cursors : Nat := 0
  /-- Calls that carry out a statement, failed ones among them. -/
  attempts : Nat := 0
  statements : List Statement := []
  converters : List Int := []
deriving DecidableEq, Repr

/-- A driver that is not there was asked nothing. -/
instance : Inhabited StatementLog := ⟨{}⟩

namespace ScriptedDriver

/-- What the driver was asked about statements. -/
def log (d : ScriptedDriver) : StatementLog :=
  ⟨d.record.cursors, d.record.attempts, d.record.statements, d.record.converters⟩

/-- Calling to connect is not about statements. -/
lemma log_connect (d : ScriptedDriver) (text : String) (timeout : Nat) (autocommit : Bool)
    (attributes : LoginAttributes) :
    (d.connect text timeout autocommit attributes).2.log = d.log := by
  unfold connect
  split <;> rfl

/-- Rolling back is not about statements. -/
lemma log_rollback (d : ScriptedDriver) : d.rollback.2.log = d.log := by
  unfold rollback
  split <;> rfl

/-- Closing is not about statements. -/
lemma log_close (d : ScriptedDriver) : d.close.2.log = d.log := by
  unfold close
  split <;> rfl

/-- A cursor that is refused is not in the log. -/
lemma log_of_cursor_error {d d' : ScriptedDriver} {e : DriverError}
    (h : d.cursor = (.error e, d')) : d'.log = d.log := by
  unfold cursor at h
  split at h <;> cases h
  rfl

/-- A cursor that is given is counted. -/
lemma log_of_cursor_ok {d d' : ScriptedDriver} {c : Cursor} (h : d.cursor = (.ok c, d')) :
    d'.log = { d.log with cursors := d.log.cursors + 1 } := by
  unfold cursor at h
  split at h <;> cases h
  rfl

/-- A step to the next set is not in the log. -/
lemma log_nextSet (d : ScriptedDriver) (c : Cursor) : (d.nextSet c).2.2.log = d.log := by
  have hsteps := d.steps_nextSet c
  generalize d.nextSet c = result at hsteps ⊢
  cases hsteps <;> rfl

end ScriptedDriver

/-- What the driver of a backend was asked about statements. -/
def Drivers.log (ds : Drivers) (b : Backend) : StatementLog := ds.viewOn ScriptedDriver.log b

/-- Putting a driver in place changes the log of its backend only. -/
lemma Drivers.log_set (ds : Drivers) (b b' : Backend) (d : ScriptedDriver) :
    (ds.set b d).log b' = if b = b' then d.log else ds.log b' := by
  split_ifs with hb
  · subst hb
    exact viewOn_set_self _ _ _ _
  · exact viewOn_set_other _ _ _ hb

/-! ### One statement -/

/-- A statement takes effect once when it succeeds, and not at all when it fails. -/
def Statement.effect {ε α : Type} (statement : Statement) : Except ε α → List Statement
  | .ok _ => [statement]
  | .error _ => []

namespace StatementRun

/-- What carrying out a statement once can do. -/
inductive Attempts (sql : String) (parameters : Option (List SqlValue)) (r : StatementRun) :
    Except DriverError Unit × StatementRun → Prop
  /-- It fails; the call is counted, and the cursor stays as it is. -/
  | failed {e : DriverError} {d : ScriptedDriver}
    (hlog : d.log = { r.driver.log with attempts := r.driver.log.attempts + 1 }) :
    Attempts sql parameters r (.error e, { r with driver := d })
  /-- It succeeds; the call is counted, and the statement has taken effect. -/
  | succeeded {d : ScriptedDriver} {cursor : Cursor}
    (hlog : d.log = { r.driver.log with
      attempts := r.driver.log.attempts + 1
      statements := r.driver.log.statements ++ [⟨sql, parameters⟩] }) :
    Attempts sql parameters r (.ok (), { r with driver := d, cursor })

/-- Carrying out a statement once does one of these. -/
lemma attempts_attempt (sql : String) (parameters : Option (List SqlValue)) (r : StatementRun) :
    Attempts sql parameters r (r.attempt sql parameters) := by
  simp only [attempt, ScriptedDriver.execute]
  split
  · exact .failed rfl
  · split
    · exact .failed rfl
    · exact .succeeded rfl

/-- Carrying out a statement once makes no pause. -/
lemma Attempts.pauses_eq {sql : String} {parameters : Option (List SqlValue)} {r : StatementRun}
    {result : Except DriverError Unit × StatementRun} (h : Attempts sql parameters r result) :
    result.2.pauses = r.pauses := by
  cases h <;> rfl

/-- The tries to carry out a statement on a cursor. -/
def tries (b : Backend) (limit : Nat) (sql : String) (parameters : Option (List SqlValue))
    (r : StatementRun) : Except DriverError Unit × StatementRun :=
  (RetryPolicy.new limit retryInterval).run b.isRetryable StatementRun.pause
    (fun _ => StatementRun.attempt sql parameters) r

/-- Calls that begin in these states are all made on one cursor and counted, and the statement takes
effect if the last of them succeeds. -/
structure Logged (sql : String) (parameters : Option (List SqlValue)) (r : StatementRun)
    (calls : List StatementRun) (final : Except DriverError Unit × StatementRun) : Prop where
  /-- All calls are made on one cursor. -/
  cursor : ∀ call ∈ calls, call.cursor = r.cursor
  /-- All calls are counted, and the statement takes effect once at most. -/
  log : final.2.driver.log = { r.driver.log with
    attempts := r.driver.log.attempts + calls.length
    statements := r.driver.log.statements ++ Statement.effect ⟨sql, parameters⟩ final.1 }

/-- One call. -/
lemma logged_single (sql : String) (parameters : Option (List SqlValue)) (r : StatementRun) :
    Logged sql parameters r [r] (r.attempt sql parameters) := by
  have hone := r.attempts_attempt sql parameters
  generalize r.attempt sql parameters = result at hone ⊢
  refine ⟨fun call hcall => by rw [List.mem_singleton.mp hcall], ?_⟩
  cases hone with
  | failed hlog =>
    dsimp only [Statement.effect]
    rw [hlog, List.append_nil]
    rfl
  | succeeded hlog => exact hlog

/-- A call that fails, and the calls after it. -/
lemma logged_cons {sql : String} {parameters : Option (List SqlValue)} {r : StatementRun}
    {e : DriverError} {calls : List StatementRun} {final : Except DriverError Unit × StatementRun}
    {d : Duration} (hfails : (r.attempt sql parameters).1 = .error e)
    (hrest : Logged sql parameters ((r.attempt sql parameters).2.pause d) calls final) :
    Logged sql parameters r (r :: calls) final := by
  have hone := r.attempts_attempt sql parameters
  generalize r.attempt sql parameters = result at hone hfails hrest
  cases hone with
  | succeeded => cases hfails
  | failed hlog =>
    refine ⟨List.forall_mem_cons.mpr ⟨rfl, hrest.cursor⟩, ?_⟩
    have hafter := hrest.log
    dsimp only [StatementRun.pause] at hafter
    rw [hafter, hlog, List.length_cons]
    simp only [Nat.add_assoc, Nat.add_comm 1]

end StatementRun

namespace ScriptedDriver

/-- How the calls that carry out a statement on a cursor go, where `calls` are the states that they
begin in. -/
structure Executes (b : Backend) (limit : Nat) (sql : String) (parameters : Option (List SqlValue))
    (d : ScriptedDriver) (cursor : Cursor) (calls : List StatementRun)
    (outcome : Except DriverError Unit) (r : StatementRun) : Prop where
  /-- Every call passes the same statement and parameters.  It is made again, after a pause of a
  second, as long as the error is worth it for the backend and calls are left. -/
  course : RetryPolicy.Course b.isRetryable (StatementRun.pause (.ofSecs 1))
    (fun _ => StatementRun.attempt sql parameters) limit 1 ⟨d, cursor, []⟩ calls (outcome, r)
  /-- All calls are made on the one cursor. -/
  cursor : ∀ call ∈ calls, call.cursor = cursor
  /-- Between every two calls there is one pause. -/
  pauses : r.pauses = List.replicate (calls.length - 1) (.ofSecs 1)
  /-- All calls are counted, and the statement has taken effect once if it succeeded in the end. -/
  log : r.driver.log = { d.log with
    attempts := d.log.attempts + calls.length
    statements := d.log.statements ++ Statement.effect ⟨sql, parameters⟩ outcome }

/-- How a statement is carried out: the cursor that is returned, the driver, and the pauses. -/
inductive Carries (b : Backend) (limit : Nat) (sql : String) (bindings : Option (List SqlValue))
    (d : ScriptedDriver) : Except DriverError Cursor → ScriptedDriver → List Duration → Prop
  /-- The cursor cannot be had, and nothing else is asked. -/
  | noCursor {e : DriverError} {d' : ScriptedDriver} (hcursor : d.cursor = (.error e, d'))
    (hlog : d'.log = d.log) : Carries b limit sql bindings d (.error e) d' []
  /-- The last call on the cursor fails. -/
  | failed {d₁ : ScriptedDriver} {cursor : Cursor} {calls : List StatementRun} {e : DriverError}
    {r : StatementRun} (hcursor : d.cursor = (.ok cursor, d₁))
    (hlog : d₁.log = { d.log with cursors := d.log.cursors + 1 })
    (hcalls : Executes b limit sql (bindParameters bindings) d₁ cursor calls (.error e) r) :
    Carries b limit sql bindings d (.error e) r.driver r.pauses
  /-- The last call on the cursor succeeds, and then the converter for timestamps is registered. -/
  | succeeded {d₁ : ScriptedDriver} {cursor : Cursor} {calls : List StatementRun}
    {r : StatementRun} (hcursor : d.cursor = (.ok cursor, d₁))
    (hlog : d₁.log = { d.log with cursors := d.log.cursors + 1 })
    (hcalls : Executes b limit sql (bindParameters bindings) d₁ cursor calls (.ok ()) r) :
    Carries b limit sql bindings d (.ok r.cursor) (r.driver.addConverter timestampTypeCode) r.pauses

/-- Trying to carry out a statement on a cursor makes its calls. -/
lemma exists_executes (b : Backend) {limit : Nat} (hlimit : 1 ≤ limit) (sql : String)
    (parameters : Option (List SqlValue)) (d : ScriptedDriver) (cursor : Cursor) :
    ∃ calls, Executes b limit sql parameters d cursor calls
      (StatementRun.tries b limit sql parameters ⟨d, cursor, []⟩).1
      (StatementRun.tries b limit sql parameters ⟨d, cursor, []⟩).2 := by
  let policy := RetryPolicy.new limit retryInterval
  let operation := fun _ : Nat => StatementRun.attempt sql parameters
  have hcourse := policy.course_starts (Nat.le_max_right _ _) b.isRetryable StatementRun.pause
    operation ⟨d, cursor, []⟩
  have hpauses := RetryPolicy.view_run StatementRun.pauses retryInterval policy b.isRetryable
    (fun _ r => (r.attempts_attempt sql parameters).pauses_eq)
    (fun r => (rfl : (r.pause retryInterval).pauses = r.pauses ++ [retryInterval]))
    ⟨d, cursor, []⟩
  have hlogged := RetryPolicy.starts_induction b.isRetryable operation
    (StatementRun.Logged sql parameters) policy StatementRun.pause
    (fun _ r => r.logged_single sql parameters)
    (fun _ _ _ _ _ hfails _ hrest => StatementRun.logged_cons hfails hrest) ⟨d, cursor, []⟩
  change RetryPolicy.Course _ _ operation (max limit 1) 1 _ _ _ at hcourse
  rw [Nat.max_eq_left hlimit] at hcourse
  exact ⟨_, hcourse, hlogged.cursor, hpauses, hlogged.log⟩

/-- A statement is carried out in one of these ways. -/
lemma carries_executeWithRetry (d : ScriptedDriver) (b : Backend) {limit : Nat}
    (hlimit : 1 ≤ limit) (sql : String) (bindings : Option (List SqlValue)) :
    Carries b limit sql bindings d (d.executeWithRetry b limit sql bindings).1
      (d.executeWithRetry b limit sql bindings).2.1
      (d.executeWithRetry b limit sql bindings).2.2 := by
  unfold executeWithRetry
  rcases hcursor : d.cursor with ⟨outcome, d₁⟩
  cases outcome with
  | error e => exact .noCursor hcursor (log_of_cursor_error hcursor)
  | ok cursor =>
    obtain ⟨calls, hcalls⟩ := exists_executes b hlimit sql (bindParameters bindings) d₁ cursor
    dsimp only
    rcases htries : StatementRun.tries b limit sql (bindParameters bindings) ⟨d₁, cursor, []⟩ with
      ⟨outcome, r⟩
    rw [htries] at hcalls
    unfold StatementRun.tries at htries
    rw [htries]
    cases outcome with
    | error e => exact .failed hcursor (log_of_cursor_ok hcursor) hcalls
    | ok value => exact .succeeded hcursor (log_of_cursor_ok hcursor) hcalls

/-- The statements of a driver after one more. -/
lemma Carries.statements {b : Backend} {limit : Nat} {sql : String}
    {bindings : Option (List SqlValue)} {d d' : ScriptedDriver}
    {outcome : Except DriverError Cursor} {pauses : List Duration}
    (h : Carries b limit sql bindings d outcome d' pauses) :
    d'.log.statements =
      d.log.statements ++ Statement.effect ⟨sql, bindParameters bindings⟩ outcome := by
  cases h with
  | noCursor _ hlog => rw [hlog, Statement.effect, List.append_nil]
  | failed _ hlog hcalls =>
    rw [hcalls.log, hlog]
    rfl
  | succeeded _ hlog hcalls =>
    have hcalled := congrArg StatementLog.statements hcalls.log
    rw [hlog] at hcalled
    exact hcalled

end ScriptedDriver

/-! ### Statements of managers -/

variable {σ τ : Type}

namespace ConnectionManager

/-- How a statement of a manager on a connection that holds a handle ends: what is returned, and
what is left of the session. -/
inductive QueryEnd (m : ConnectionManager) (sql : String) (bindings : Option (List SqlValue))
    (c : Connection) (s : Session σ τ) :
    Except ConnectionError QueryCursor → Session σ τ → Prop
  /-- No backend can be had, and nothing is asked of a driver. -/
  | noBackend {e : BackendError} {s' : Session σ τ}
    (hbackend : s.backendFor m.profile = (.error (.backend e), s'))
    (hlog : ∀ b, s'.drivers.log b = s.drivers.log b) (hpauses : s'.pauses = s.pauses) :
    QueryEnd m sql bindings c s (.error (.backend e)) s'
  /-- The driver of the handle is asked to carry it out, and the cursor that it yields is
  returned. -/
  | carried {handle : ConnectionHandle} {b : Backend} {s₁ s' : Session σ τ} {d d' : ScriptedDriver}
    {outcome : Except DriverError Cursor} {pauses : List Duration}
    {result : Except ConnectionError QueryCursor} (hhandle : c.handle = some handle)
    (hbackend : s.backendFor m.profile = (.ok b, s₁))
    (hdriver : s₁.drivers.get? handle.backend = some d)
    (hbefore : d.log = s.drivers.log handle.backend)
    (hcarries : d.Carries b (max m.profile.retries.toNat 3) sql bindings outcome d' pauses)
    (hlog : ∀ b', s'.drivers.log b' =
      if handle.backend = b' then d'.log else s.drivers.log b')
    (hpauses : s'.pauses = s.pauses ++ pauses)
    (hresult : result.toOption = outcome.toOption.map (QueryCursor.mk handle.backend)) :
    QueryEnd m sql bindings c s result s'

/-- A statement may always be tried once. -/
lemma one_le_queryLimit (m : ConnectionManager) : 1 ≤ m.queryLimit :=
  Nat.le_trans (by decide) (Nat.le_max_right _ _)

/-- Carrying out a statement where the connection has a handle and the handle a driver. -/
lemma runStatement_of_handle (m : ConnectionManager) (sql : String)
    (bindings : Option (List SqlValue)) (b : Backend) {c : Connection} {s : Session σ τ}
    {handle : ConnectionHandle} {d : ScriptedDriver} (hhandle : c.handle = some handle)
    (hdriver : s.drivers.get? handle.backend = some d) :
    let carried := d.executeWithRetry b m.queryLimit sql bindings
    m.runStatement sql bindings b c s =
      ((carried.1.mapError .driver).map (QueryCursor.mk handle.backend), c,
        { s with
          drivers := s.drivers.set handle.backend carried.2.1
          pauses := s.pauses ++ carried.2.2 }) := by
  simp only [runStatement, Connection.requireHandle, hhandle, Session.act,
    Drivers.act_of_get?_eq_some hdriver]
  cases (d.executeWithRetry b m.queryLimit sql bindings).1 <;> rfl

/-- A statement on a connection with a handle that has its driver ends in one of these ways. -/
lemma queryEnd_addQuery (m : ConnectionManager) (sql : String)
    (bindings : Option (List SqlValue)) {c : Connection} {s : Session σ τ}
    {handle : ConnectionHandle} (hhandle : c.handle = some handle)
    (hdriver : (s.drivers.get? handle.backend).isSome) :
    m.QueryEnd sql bindings c s (m.addQuery c sql bindings s).1
      (m.addQuery c sql bindings s).2.2 := by
  -- choosing a backend is not about statements
  have hlog (b : Backend) : (s.backendFor m.profile).2.drivers.log b = s.drivers.log b :=
    s.viewOn_backendFor (fun _ _ _ => rfl) m.profile b
  have hpauses := s.pauses_backendFor m.profile
  have hinstalled := (s.quiet_backendFor m.profile).installed handle.backend
  unfold addQuery withBoundary
  rcases hbackend : s.backendFor m.profile with ⟨outcome, s₁⟩
  rw [hbackend] at hlog hpauses hinstalled
  cases outcome with
  | error e =>
    obtain ⟨⟨e, rfl⟩, -⟩ := eq_backend_of_backendFor hbackend
    exact .noBackend hbackend hlog hpauses
  | ok b =>
    rw [hdriver] at hinstalled
    obtain ⟨d, hd⟩ := Option.isSome_iff_exists.mp hinstalled
    have hcarries := d.carries_executeWithRetry b m.one_le_queryLimit sql bindings
    have hbefore : d.log = s.drivers.log handle.backend := by
      rw [← hlog, Drivers.log, Drivers.viewOn_of_get? _ hd]
    -- whatever happens behind the statement, the logs are those that it leaves
    have hafter (b' : Backend) (ds : Drivers)
        (hds : ds.log b' = (s₁.drivers.set handle.backend
          (d.executeWithRetry b m.queryLimit sql bindings).2.1).log b') :
        ds.log b' = if handle.backend = b' then
          (d.executeWithRetry b m.queryLimit sql bindings).2.1.log else s.drivers.log b' := by
      rw [hds, Drivers.log_set, hlog]
    dsimp only
    rw [m.runStatement_of_handle sql bindings b hhandle hd]
    generalize d.executeWithRetry b m.queryLimit sql bindings = carried at hcarries hafter ⊢
    obtain ⟨outcome, d', pauses⟩ := carried
    cases outcome with
    | error e =>
      refine .carried hhandle hbackend hd hbefore hcarries (fun b' => hafter b' _ ?_) ?_ rfl
      · -- the boundary may roll back and close, which is not about statements either
        exact viewOn_settle ScriptedDriver.log_rollback ScriptedDriver.log_close _ _ _ b'
      · exact congrArg (· ++ pauses) hpauses
    | ok cursor =>
      refine .carried hhandle hbackend hd hbefore hcarries (fun b' => hafter b' _ rfl) ?_ rfl
      exact congrArg (· ++ pauses) hpauses

end ConnectionManager

/-! ### Statements along a run -/

/-- The statements that the driver of a backend carried out, in order. -/
def Drivers.statements (ds : Drivers) (b : Backend) : List Statement := (ds.log b).statements

/-- Of statements and the backends of their drivers, the statements of one backend. -/
def statementsOn (b : Backend) (carried : List (Backend × Statement)) : List Statement :=
  (carried.filter fun entry => entry.1 == b).map Prod.snd

/-- The statement that a query has carried out, if it has returned a cursor. -/
def carriedOut (sql : String) (bindings : Option (List SqlValue))
    (result : Except ConnectionError QueryCursor) : Option (Backend × Statement) :=
  result.toOption.map fun q => (q.backend, ⟨sql, bindParameters bindings⟩)

/-- The statement that a use of a connection carries out.  What comes after a statement that is
collected does not count. -/
def ConnectionUse.statement? (c : Connection) (s : Session σ τ) :
    ConnectionUse → Option (Backend × Statement)
  | addQuery m sql bindings => carriedOut sql bindings (m.addQuery c sql bindings s).1
  | execute m sql _ _ => carriedOut sql none (m.addQuery c sql none s).1
  | _ => none

/-- The statements of one list and then of another. -/
lemma statementsOn_append (b : Backend) (first second : List (Backend × Statement)) :
    statementsOn b (first ++ second) = statementsOn b first ++ statementsOn b second := by
  rw [statementsOn, List.filter_append, List.map_append, statementsOn, statementsOn]

/-- A view that does not see the log does not see statements either. -/
lemma Drivers.statements_eq {ds ds' : Drivers} {b : Backend} (h : ds'.log b = ds.log b) :
    ds'.statements b = ds.statements b := congrArg StatementLog.statements h

namespace ConnectionManager

/-- What has been carried out where a driver was asked: the statement, on the backend of that
driver, if there was a cursor for it. -/
lemma statementsOn_carriedOut (sql : String) (bindings : Option (List SqlValue))
    (outcome : Except DriverError Cursor) (b b' : Backend) :
    statementsOn b' (carriedOut sql bindings
        ((outcome.mapError ConnectionError.driver).map (QueryCursor.mk b))).toList =
      if b = b' then Statement.effect ⟨sql, bindParameters bindings⟩ outcome else [] := by
  cases outcome with
  | error e =>
    rw [Statement.effect, ite_self]
    rfl
  | ok cursor =>
    simp only [carriedOut, statementsOn, Statement.effect, Except.mapError, Except.map,
      Except.toOption, Option.map_some, Option.toList_some, List.filter_cons, beq_iff_eq]
    split_ifs <;> rfl

/-- A query that yields a cursor has added its statement to those of its driver, and another adds
none. -/
lemma statements_runStatement (m : ConnectionManager) (sql : String)
    (bindings : Option (List SqlValue)) (b : Backend) (c : Connection) (s : Session σ τ)
    (b' : Backend) :
    (m.runStatement sql bindings b c s).2.2.drivers.statements b' =
      s.drivers.statements b' ++
        statementsOn b' (carriedOut sql bindings (m.runStatement sql bindings b c s).1).toList := by
  -- a statement that reaches no driver adds nothing
  have hnothing {e : ConnectionError} {s' : Session σ τ}
      (hrun : m.runStatement sql bindings b c s = (.error e, c, s'))
      (hdrivers : s'.drivers = s.drivers) :
      (m.runStatement sql bindings b c s).2.2.drivers.statements b' = s.drivers.statements b' ++
        statementsOn b' (carriedOut sql bindings
          (m.runStatement sql bindings b c s).1).toList := by
    rw [hrun]
    exact hdrivers ▸ (List.append_nil _).symm
  cases hhandle : c.handle with
  | none => exact hnothing (by rw [runStatement, Connection.requireHandle, hhandle]) rfl
  | some handle =>
    cases hd : s.drivers.get? handle.backend with
    | none =>
      have hrun : m.runStatement sql bindings b c s = (.error (.driver noDriver), c, s) := by
        simp only [runStatement, Connection.requireHandle, hhandle, Session.act,
          Drivers.act_of_get?_eq_none hd, List.append_nil]
      exact hnothing hrun rfl
    | some d =>
      have hcarries := (d.carries_executeWithRetry b m.one_le_queryLimit sql bindings).statements
      have hbefore : s.drivers.log handle.backend = d.log := Drivers.viewOn_of_get? _ hd
      rw [m.runStatement_of_handle sql bindings b hhandle hd]
      generalize d.executeWithRetry b m.queryLimit sql bindings = carried at hcarries ⊢
      obtain ⟨outcome, d', pauses⟩ := carried
      dsimp only at hcarries ⊢
      -- only the driver of the handle got the statement
      rw [Drivers.statements, Drivers.log_set, statementsOn_carriedOut]
      split_ifs with hb
      · subst hb
        rw [hcarries, Drivers.statements, hbefore]
      · exact (List.append_nil _).symm

/-- Behind the boundary, a query that yields a cursor has added its statement to those of its
driver, and another adds none. -/
lemma statements_addQuery (m : ConnectionManager) (sql : String)
    (bindings : Option (List SqlValue)) (c : Connection) (s : Session σ τ) (b : Backend) :
    (m.addQuery c sql bindings s).2.2.drivers.statements b =
      s.drivers.statements b ++
        statementsOn b (carriedOut sql bindings (m.addQuery c sql bindings s).1).toList := by
  have hbackend : (s.backendFor m.profile).2.drivers.log b = s.drivers.log b :=
    s.viewOn_backendFor (fun _ _ _ => rfl) m.profile b
  unfold addQuery withBoundary
  rcases hs : s.backendFor m.profile with ⟨outcome, s₁⟩
  rw [hs] at hbackend
  have hchosen : s₁.drivers.statements b = s.drivers.statements b := Drivers.statements_eq hbackend
  cases outcome with
  | error e => exact hchosen.trans (List.append_nil _).symm
  | ok b' =>
    have hrun := m.statements_runStatement sql bindings b' c s₁ b
    rw [hchosen] at hrun
    dsimp only
    rcases ha : m.runStatement sql bindings b' c s₁ with ⟨outcome, c', s₂⟩
    rw [ha] at hrun
    cases outcome with
    | ok q => exact hrun
    | error e =>
      refine Eq.trans ?_ hrun
      exact Drivers.statements_eq
        (viewOn_settle ScriptedDriver.log_rollback ScriptedDriver.log_close e c' s₂.drivers b)

end ConnectionManager

/-- Whatever is done with a connection, the drivers carry out the statement of this use, if there is
one, and no other. -/
lemma ConnectionUse.statements_perform (services : Services σ τ) (c : Connection) (s : Session σ τ)
    (use : ConnectionUse) (b : Backend) :
    (use.perform services c s).2.2.drivers.statements b =
      s.drivers.statements b ++ statementsOn b (use.statement? c s).toList := by
  have hnothing {ds : Drivers} (h : ds.log b = s.drivers.log b) :
      ds.statements b = s.drivers.statements b ++ statementsOn b [] :=
    (Drivers.statements_eq h).trans (List.append_nil _).symm
  cases use with
  | addQuery m sql bindings => exact m.statements_addQuery sql bindings c s b
  | execute m sql fetch limit =>
    have hquery := m.statements_addQuery sql none c s b
    dsimp only [perform, statement?]
    unfold ConnectionManager.execute
    rcases hq : m.addQuery c sql none s with ⟨outcome, c', s'⟩
    rw [hq] at hquery
    cases outcome with
    | error e => exact hquery
    | ok q =>
      -- collecting carries out no other statement
      refine Eq.trans (Drivers.statements_eq ?_) hquery
      exact ConnectionManager.viewOn_withBoundary ScriptedDriver.log_rollback
        ScriptedDriver.log_close (fun _ _ _ => rfl)
        (fun b' c'' s'' => ConnectionManager.viewOn_collect ScriptedDriver.log_nextSet q fetch limit
          b' c'' s'' b) m c' s'
  | openBy m =>
    exact hnothing (m.viewOn_openConnection ScriptedDriver.log_connect (fun _ _ _ => rfl)
      (fun _ _ => rfl) services c s b)
  | releaseByManager =>
    exact hnothing (ConnectionManager.viewOn_release ScriptedDriver.log_rollback
      ScriptedDriver.log_close c s.drivers b)
  | release => exact hnothing (c.viewOn_release ScriptedDriver.log_close s.drivers b)
  | rollback => exact hnothing (c.viewOn_rollback ScriptedDriver.log_rollback s.drivers b)

namespace Workplace

/-- The statement that a move carries out. -/
def statement? (w : Workplace σ τ) (move : Move) : Option (Backend × Statement) :=
  w.connections[move.connection]?.bind fun c => move.use.statement? c (w.sessionFor move)

/-- The statements that moves carry out one after the other. -/
def statementsAlong (services : Services σ τ) :
    Workplace σ τ → List Move → List (Backend × Statement)
  | _, [] => []
  | w, move :: moves =>
    (w.statement? move).toList ++ statementsAlong services (w.step services move).2 moves

/-- In a move the drivers carry out its statement and no other. -/
lemma statements_step (services : Services σ τ) (w : Workplace σ τ) (move : Move) (b : Backend) :
    (w.step services move).2.session.drivers.statements b =
      w.session.drivers.statements b ++ statementsOn b (w.statement? move).toList := by
  unfold step statement?
  cases w.connections[move.connection]? with
  | none => exact (List.append_nil _).symm
  | some c => exact move.use.statements_perform services c (w.sessionFor move) b

/-- In a run the drivers carry out the statements of its moves, in order, and no others. -/
lemma statements_run (services : Services σ τ) (w : Workplace σ τ) (moves : List Move)
    (b : Backend) :
    (w.run services moves).session.drivers.statements b =
      w.session.drivers.statements b ++ statementsOn b (statementsAlong services w moves) := by
  induction moves generalizing w with
  | nil => exact (List.append_nil _).symm
  | cons move moves ih =>
    have hrest := ih (w.step services move).2
    rw [statements_step, List.append_assoc, ← statementsOn_append] at hrest
    exact hrest

/-- At the start no statement was carried out. -/
lemma statements_start (s : Session σ τ) (native odbc : Option DriverScript) (names : List String)
    (b : Backend) : (start s native odbc names).session.drivers.statements b = [] := by
  cases b with
  | native => cases native <;> rfl
  | odbc => cases odbc <;> rfl

/-- After any moves of any managers on connections that start unopened, whatever the drivers, the
providers of tokens and the control plane do:

* A statement of a manager on an open connection ends in one of the ways of
  `ConnectionManager.QueryEnd`.  Without a backend nothing is asked of a driver.  Otherwise the
  driver of the connection is asked for one cursor, which ends it if it fails.  On that cursor the
  statement is tried, three times at most or as often as the profile says if that is more, with a
  second between two tries, until it succeeds or fails with an error that is not worth another one.
  When the cursor is returned, the statement has taken effect once and the converter for timestamps
  was registered once, and neither of it otherwise.
* The statements that the drivers carried out are those of the queries that returned a cursor, in
  order. -/
theorem statement_of_query (services : Services σ τ) (s : Session σ τ)
    (native odbc : Option DriverScript) (names : List String) (moves : List Move)
    (m : ConnectionManager) (override : Option String) (sql : String)
    (bindings : Option (List SqlValue)) :
    let first := start s native odbc names
    let w := first.run services moves
    let now := { w.session with override }
    (∀ c ∈ w.connections, c.isOpen = true →
      m.QueryEnd sql bindings c now (m.addQuery c sql bindings now).1
        (m.addQuery c sql bindings now).2.2) ∧
    ∀ b, w.session.drivers.statements b =
      statementsOn b (statementsAlong services first moves) := by
  intro first w now
  have hbalanced : w.Balanced := (balanced_start s native odbc names).run services moves
  refine ⟨fun c hc hopen => ?_, fun b => ?_⟩
  · have hsome : c.handle.isSome := (hbalanced.settled c hc).isOpen_eq ▸ hopen
    obtain ⟨handle, hhandle⟩ := Option.isSome_iff_exists.mp hsome
    have hdriver : (now.drivers.get? handle.backend).isSome :=
      hbalanced.backed hc handle.backend (by simp [Connection.holds, hhandle])
    exact m.queryEnd_addQuery sql bindings hhandle hdriver
  · rw [statements_run, statements_start, List.nil_append]

/-- An open connection on which a statement gets no cursor, though its driver would yield one: the
environment names no backend that there is. -/
theorem no_cursor_without_backend :
    let m : ConnectionManager := { profile := Profile.new "warehouse.example" "sales" "dbo" }
    let s : Session Unit Unit := { drivers := {}, world := () }
    let w := (start s none (some {}) ["model"]).run bareServices [⟨0, none, .openBy m⟩]
    let now := { w.session with override := some "sqlite" }
    ∃ c ∈ w.connections, c.isOpen = true ∧
      (∃ why, (m.addQuery c "select 1" none now).1 = .error (.backend (.invalidPreference why))) ∧
      (m.addQuery c "select 1" none now).2.2.drivers.log .odbc = { cursors := 0 } ∧
      ∃ d, now.drivers.get? .odbc = some d ∧ d.cursor.1 = .ok {} := by
  intro m s w now
  refine ⟨_, List.mem_cons_self, rfl, ⟨_, rfl⟩, rfl, ⟨_, rfl, rfl⟩⟩

end Workplace

end WarehouseAccess
