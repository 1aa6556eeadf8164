import WarehouseAccess.Driver.Script
import WarehouseAccess.Duration.Document
/-!
# Statements

Carrying out one statement on a connection and collecting what it returns.  One cursor is acquired,
and failing to get it is final; the statement itself is tried again after errors that are worth it.
Of the result sets only the first one with columns is fetched, and all are stepped through.

An operation that can fail is tried until it succeeds, fails for good, or has been tried often
enough, with a pause of fixed length between two attempts.  The operation acts on a state, as does
the pause, so what happened can be read off the state afterwards.
-/

namespace WarehouseAccess

/-! ### Trying again -/

/-- How often to try, and how long to pause between two attempts. -/
structure RetryPolicy where
  attempts : Nat
  interval : Duration
deriving DecidableEq, Repr

/-- The pause between two attempts to connect or to carry out a statement. -/
def retryInterval : Duration := .ofSecs 1

namespace RetryPolicy

/-- A policy with at least one attempt. -/
def new (attempts : Nat) (interval : Duration) : RetryPolicy := ⟨max attempts 1, interval⟩

/-- Makes the attempt of the given number and at most `left` more. -/
def runFrom {σ ε α : Type} (isRetryable : ε → Bool) (pause : σ → σ)
    (operation : Nat → σ → Except ε α × σ) : (left attempt : Nat) → σ → Except ε α × σ
  | 0, attempt, s => operation attempt s
  | left + 1, attempt, s =>
    match operation attempt s with
    | (.ok value, s) => (.ok value, s)
    | (.error e, s) =>
      if isRetryable e then runFrom isRetryable pause operation left (attempt + 1) (pause s)
      else (.error e, s)

/-- Tries an operation, which is told the number of the attempt, beginning with one.  The outcome is
that of the last attempt. -/
def run {σ ε α : Type} (policy : RetryPolicy) (isRetryable : ε → Bool) (pause : Duration → σ → σ)
    (operation : Nat → σ → Except ε α × σ) (s : σ) : Except ε α × σ :=
  runFrom isRetryable (pause policy.interval) operation (policy.attempts - 1) 1 s

end RetryPolicy

/-! ### Carrying out a statement -/

/-- How often a statement is tried at least. -/
def minQueryAttempts : Nat := 3

/-- How often a statement is tried, given what the profile says. -/
def queryAttempts (configured : Nat) : Nat := max configured minQueryAttempts

/-- How a statement went. -/
structure StatementResponse where
  message : String
  /-- The rows affected, -1 when the driver does not know. -/
  rowsAffected : Int
deriving DecidableEq, Repr

/-- The response for a number of affected rows. -/
def StatementResponse.ofRowcount (n : Int) : StatementResponse := ⟨"OK", n⟩

/-- What retrying a statement acts on: its driver, its cursor, and the pauses made so far. -/
structure StatementRun where
  driver : ScriptedDriver
  cursor : Cursor
  pauses : List Duration := []
deriving DecidableEq, Repr

namespace StatementRun

/-- Carries the statement out once. -/
def attempt (sql : String) (parameters : Option (List SqlValue)) (r : StatementRun) :
    Except DriverError Unit × StatementRun :=
  let (outcome, cursor, driver) := r.driver.execute r.cursor sql parameters
  (outcome, { r with driver, cursor })

/-- Makes a pause. -/
def pause (d : Duration) (r : StatementRun) : StatementRun :=
  { r with pauses := r.pauses ++ [d] }

end StatementRun

namespace ScriptedDriver

/-- Carries a statement out on a new cursor, trying again as long as the backend finds the error
worth it and attempts are left.  Once it succeeds the converter for timestamps is registered.  The
pauses made are returned as well. -/
def executeWithRetry (d : ScriptedDriver) (backend : Backend) (attempts : Nat) (sql : String)
    (bindings : Option (List SqlValue)) :
    Except DriverError Cursor × ScriptedDriver × List Duration :=
  match d.cursor with
  | (.error e, d) => (.error e, d, [])
  | (.ok cursor, d) =>
    match (RetryPolicy.new attempts retryInterval).run backend.isRetryable StatementRun.pause
        (fun _ => StatementRun.attempt sql (bindParameters bindings)) ⟨d, cursor, []⟩ with
    | (.error e, r) => (.error e, r.driver, r.pauses)
    | (.ok (), r) => (.ok r.cursor, r.driver.addConverter timestampTypeCode, r.pauses)

/-- A step to the next set leaves fewer sets. -/
theorem length_sets_nextSet {d d' : ScriptedDriver} {c c' : Cursor}
    (h : d.nextSet c = (.ok true, c', d')) : c'.sets.length < c.sets.length := by
  unfold nextSet at h
  dsimp only at h
  split at h
  · simp at h
  · split at h
    · next hsets =>
      simp only [Prod.mk.injEq] at h
      obtain ⟨-, rfl, -⟩ := h
      simp [hsets]
    · simp at h

/-- Steps on until a set with columns is the current one; false when there is none. -/
def seekColumns (d : ScriptedDriver) (c : Cursor) :
    Except DriverError Bool × Cursor × ScriptedDriver :=
  if c.hasColumns then (.ok true, c, d)
  else
    match _h : d.nextSet c with
    | (.error e, c, d) => (.error e, c, d)
    | (.ok false, c, d) => (.ok false, c, d)
    | (.ok true, c, d) => seekColumns d c
termination_by c.sets.length
decreasing_by exact length_sets_nextSet ‹_›

/-- Steps through the sets that are left. -/
def skipSets (d : ScriptedDriver) (c : Cursor) :
    Except DriverError Unit × Cursor × ScriptedDriver :=
  match _h : d.nextSet c with
  | (.error e, c, d) => (.error e, c, d)
  | (.ok false, c, d) => (.ok (), c, d)
  | (.ok true, c, d) => skipSets d c
termination_by c.sets.length
decreasing_by exact length_sets_nextSet ‹_›

/-- The rows of the first set with columns, at most `limit` of them; none without such a set. -/
def fetchFirst (d : ScriptedDriver) (c : Cursor) (limit : Option Nat) :
    Except DriverError (List Row) × Cursor × ScriptedDriver :=
  match d.seekColumns c with
  | (.error e, c, d) => (.error e, c, d)
  | (.ok false, c, d) => (.ok [], c, d)
  | (.ok true, c, d) =>
    match d.fetchAll c with
    | (.error e, c) => (.error e, c, d)
    | (.ok rows, c) =>
      (.ok (match limit with
        | some n => rows.take n
        | none => rows), c, d)

/-- What a statement returned: the response, and the rows if they are wanted. -/
def collectResults (d : ScriptedDriver) (c : Cursor) (fetch : Bool) (limit : Option Nat) :
    Except DriverError (StatementResponse × List Row) × Cursor × ScriptedDriver :=
  let response := StatementResponse.ofRowcount c.rowcount
  match (if fetch then d.fetchFirst c limit else (.ok [], c, d)) with
  | (.error e, c, d) => (.error e, c, d)
  | (.ok rows, c, d) =>
    match d.skipSets c with
    | (.error e, c, d) => (.error e, c, d)
    | (.ok (), c, d) => (.ok (response, rows), c, d)

end ScriptedDriver

end WarehouseAccess
