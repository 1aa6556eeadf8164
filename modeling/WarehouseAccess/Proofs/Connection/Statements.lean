import WarehouseAccess.Connection.Manager
import WarehouseAccess.Proofs.Connection.Collecting
import WarehouseAccess.Proofs.Connection.Retry
import WarehouseAccess.Proofs.Driver.Record

/-!
# What statements leave alone

Carrying out a statement and collecting what it returns is quiet for the driver: nothing is opened,
rolled back or closed, whatever fails.  So it is for all drivers of a session, as is the choice of a
backend before it, and the connection stays what it was.
-/

namespace WarehouseAccess

namespace ScriptedDriver

/-- Trying to carry out a statement is quiet, however often it is tried. -/
lemma quiet_executeWithRetry (d : ScriptedDriver) (backend : Backend) (attempts : Nat)
    (sql : String) (bindings : Option (List SqlValue)) :
    d.Quiet (d.executeWithRetry backend attempts sql bindings).2.1 := by
  have hcursor := d.quiet_cursor
  unfold executeWithRetry
  rcases hc : d.cursor with ⟨outcome, d₁⟩
  rw [hc] at hcursor
  cases outcome with
  | error e => exact hcursor
  | ok cursor =>
    -- no attempt is about connections, so no number of them is
    have hattempt (r : StatementRun) (hr : d.Quiet r.driver) :
        d.Quiet (r.attempt sql (bindParameters bindings)).2.driver :=
      hr.trans (r.driver.quiet_execute r.cursor sql (bindParameters bindings))
    have hrun : d.Quiet ((RetryPolicy.new attempts retryInterval).run backend.isRetryable
        StatementRun.pause (fun _ => StatementRun.attempt sql (bindParameters bindings))
        ⟨d₁, cursor, []⟩).2.driver :=
      RetryPolicy.run_induction (fun r : StatementRun => d.Quiet r.driver)
        (fun _ (r : StatementRun) => d.Quiet r.driver) _ (fun _ => hattempt) (fun _ _ hr => hr) _
        hcursor
    dsimp only
    split
    · next hr => rwa [hr] at hrun
    · next hr =>
      rw [hr] at hrun
      exact hrun.trans (quiet_addConverter _ _)

/-- Collecting what a statement returned is quiet, since each call on its cursor is. -/
lemma quiet_collectResults (d : ScriptedDriver) (c : Cursor) (fetch : Bool)
    (limit : Option Nat) : d.Quiet (d.collectResults c fetch limit).2.2 := by
  obtain ⟨calls, hcollects⟩ := d.exists_collects c fetch limit
  exact hcollects.account.makes.induction (fun d' => d.Quiet d')
    (fun d' c' hd => hd.trans (d'.quiet_nextSet c')) (.refl d)

end ScriptedDriver

/-! ### Statements of managers -/

variable {σ τ : Type}

/-- Choosing a backend is quiet. -/
lemma Session.quiet_backendFor (s : Session σ τ) (p : Profile) :
    s.drivers.Quiet (s.backendFor p).2.drivers := by
  unfold Session.backendFor
  split
  · exact .refl _
  · unfold Session.settlePooling
    split
    · exact .refl _
    · exact s.drivers.quiet_configurePooling _ _ poolSize

/-- Setting how long queries may take is quiet. -/
lemma Session.quiet_setQueryTimeout (s : Session σ τ) (b : Backend) (seconds : Nat) :
    s.drivers.Quiet (s.act b () fun d => ((), d.setQueryTimeout seconds)).2.drivers :=
  s.drivers.quiet_act b () (f := fun d => ((), d.setQueryTimeout seconds))
    fun d => d.quiet_setQueryTimeout seconds

namespace ConnectionManager

/-- A statement leaves the connection as it is. -/
lemma runStatement_connection (m : ConnectionManager) (sql : String)
    (bindings : Option (List SqlValue)) (b : Backend) (c : Connection) (s : Session σ τ) :
    (m.runStatement sql bindings b c s).2.1 = c := by
  unfold runStatement
  split
  · rfl
  · dsimp only
    split <;> rfl

/-- Carrying out a statement is quiet. -/
lemma quiet_runStatement (m : ConnectionManager) (sql : String)
    (bindings : Option (List SqlValue)) (b : Backend) (c : Connection) (s : Session σ τ) :
    s.drivers.Quiet (m.runStatement sql bindings b c s).2.2.drivers := by
  unfold runStatement
  split
  · exact .refl s.drivers
  · next handle _ =>
    have hact := s.drivers.quiet_act handle.backend
      ((.error noDriver, []) : Except DriverError Cursor × List Duration)
      (f := fun d => (((d.executeWithRetry b m.queryLimit sql bindings).1,
        (d.executeWithRetry b m.queryLimit sql bindings).2.2),
        (d.executeWithRetry b m.queryLimit sql bindings).2.1))
      fun d => d.quiet_executeWithRetry b m.queryLimit sql bindings
    dsimp only
    split <;> exact hact

/-- Collecting what a statement returned is quiet. -/
lemma quiet_collect (q : QueryCursor) (fetch : Bool) (limit : Option Nat) (b : Backend)
    (c : Connection) (s : Session σ τ) :
    s.drivers.Quiet (collect q fetch limit b c s).2.2.drivers :=
  s.drivers.quiet_act q.backend
    (.error noDriver : Except DriverError (StatementResponse × List Row))
    (f := fun d => ((d.collectResults q.cursor fetch limit).1,
      (d.collectResults q.cursor fetch limit).2.2))
    fun d => d.quiet_collectResults q.cursor fetch limit

end ConnectionManager

end WarehouseAccess
