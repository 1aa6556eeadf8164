import Mathlib.Data.List.TakeWhile
import WarehouseAccess.Connection.Query
import WarehouseAccess.Proofs.Driver.CursorCalls

/-!
# Collecting what a statement returned

Collecting looks for the first set with columns, if rows are wanted, fetches its rows and then steps
through the sets that are left.  `Cursor.Seeks`, `Cursor.Skips`, `Cursor.Fetches` and
`Cursor.Collects` list the ways in which this can go, with the calls that are made on the cursor.

### Outline

* the calls account for the result, part by part;
* `Seeks.of_true`, `Seeks.of_false` and `Skips.of_ok` say where the two loops leave the cursor when
  nothing fails, and `Fetches.of_ok` and `Collects.of_ok` what is returned then;
* which calls fail is up to the script of the driver, call by call;
* `ScriptedDriver.results_of_collecting` puts it together.
-/

namespace WarehouseAccess

/-! ### The calls of each part -/

namespace Cursor

/-- How looking for a set with columns goes. -/
inductive Seeks : ScriptedDriver → Cursor → List CursorCall →
    Except DriverError Bool × Cursor × ScriptedDriver → Prop
  /-- The current set has columns. -/
  | found {d : ScriptedDriver} {c : Cursor} (hcolumns : c.hasColumns = true) :
    Seeks d c [.hasColumns true] (.ok true, c, d)
  /-- The step to the next set fails. -/
  | failed {d d' : ScriptedDriver} {c c' : Cursor} {e : DriverError}
    (hcolumns : c.hasColumns = false) (hnext : d.nextSet c = (.error e, c', d')) :
    Seeks d c [.hasColumns false, .nextSet (.error e)] (.error e, c', d')
  /-- There is no next set. -/
  | ended {d d' : ScriptedDriver} {c c' : Cursor} (hcolumns : c.hasColumns = false)
    (hnext : d.nextSet c = (.ok false, c', d')) :
    Seeks d c [.hasColumns false, .nextSet (.ok false)] (.ok false, c', d')
  /-- The search goes on from the next set. -/
  | step {d d' : ScriptedDriver} {c c' : Cursor} {calls : List CursorCall}
    {result : Except DriverError Bool × Cursor × ScriptedDriver} (hcolumns : c.hasColumns = false)
    (hnext : d.nextSet c = (.ok true, c', d')) (hrest : Seeks d' c' calls result) :
    Seeks d c (.hasColumns false :: .nextSet (.ok true) :: calls) result

/-- How stepping through the sets that are left goes. -/
inductive Skips : ScriptedDriver → Cursor → List CursorCall →
    Except DriverError Unit × Cursor × ScriptedDriver → Prop
  /-- The step to the next set fails. -/
  | failed {d d' : ScriptedDriver} {c c' : Cursor} {e : DriverError}
    (hnext : d.nextSet c = (.error e, c', d')) : Skips d c [.nextSet (.error e)] (.error e, c', d')
  /-- There is no next set. -/
  | ended {d d' : ScriptedDriver} {c c' : Cursor} (hnext : d.nextSet c = (.ok false, c', d')) :
    Skips d c [.nextSet (.ok false)] (.ok (), c', d')
  /-- The steps go on from the next set. -/
  | step {d d' : ScriptedDriver} {c c' : Cursor} {calls : List CursorCall}
    {result : Except DriverError Unit × Cursor × ScriptedDriver}
    (hnext : d.nextSet c = (.ok true, c', d')) (hrest : Skips d' c' calls result) :
    Skips d c (.nextSet (.ok true) :: calls) result

/-- How fetching the rows of the first set with columns goes. -/
inductive Fetches (d : ScriptedDriver) (c : Cursor) (limit : Option Nat) : List CursorCall →
    Except DriverError (List Row) × Cursor × ScriptedDriver → Prop
  /-- The search for the set fails. -/
  | failed {d' : ScriptedDriver} {c' : Cursor} {calls : List CursorCall} {e : DriverError}
    (hseek : Seeks d c calls (.error e, c', d')) : Fetches d c limit calls (.error e, c', d')
  /-- There is no such set. -/
  | none {d' : ScriptedDriver} {c' : Cursor} {calls : List CursorCall}
    (hseek : Seeks d c calls (.ok false, c', d')) : Fetches d c limit calls (.ok [], c', d')
  /-- The rows of the set cannot be had. -/
  | unreadable {d' : ScriptedDriver} {c₁ c' : Cursor} {calls : List CursorCall} {e : DriverError}
    (hseek : Seeks d c calls (.ok true, c₁, d')) (hfetch : d'.fetchAll c₁ = (.error e, c')) :
    Fetches d c limit (calls ++ [.fetchAll (.error e)]) (.error e, c', d')
  /-- The rows of the set, as many as are wanted. -/
  | rows {d' : ScriptedDriver} {c₁ c' : Cursor} {calls : List CursorCall} {rows : List Row}
    (hseek : Seeks d c calls (.ok true, c₁, d')) (hfetch : d'.fetchAll c₁ = (.ok rows, c')) :
    Fetches d c limit (calls ++ [.fetchAll (.ok rows)]) (.ok (limit.elim rows rows.take), c', d')

/-- How collecting what a statement returned goes. -/
inductive Collects (d : ScriptedDriver) (c : Cursor) (limit : Option Nat) : Bool →
    List CursorCall →
    Except DriverError (StatementResponse × List Row) × Cursor × ScriptedDriver → Prop
  /-- The rows are not wanted. -/
  | skipped {d' : ScriptedDriver} {c' : Cursor} {calls : List CursorCall}
    {outcome : Except DriverError Unit} (hskip : Skips d c calls (outcome, c', d')) :
    Collects d c limit false (.rowcount c.rowcount :: calls)
      (outcome.map fun _ => (.ofRowcount c.rowcount, []), c', d')
  /-- The rows are wanted and cannot be had. -/
  | failed {d' : ScriptedDriver} {c' : Cursor} {calls : List CursorCall} {e : DriverError}
    (hfetch : Fetches d c limit calls (.error e, c', d')) :
    Collects d c limit true (.rowcount c.rowcount :: calls) (.error e, c', d')
  /-- The rows are fetched. -/
  | fetched {d₁ d' : ScriptedDriver} {c₁ c' : Cursor} {calls calls' : List CursorCall}
    {rows : List Row} {outcome : Except DriverError Unit}
    (hfetch : Fetches d c limit calls (.ok rows, c₁, d₁))
    (hskip : Skips d₁ c₁ calls' (outcome, c', d')) :
    Collects d c limit true (.rowcount c.rowcount :: (calls ++ calls'))
      (outcome.map fun _ => (.ofRowcount c.rowcount, rows), c', d')

end Cursor

namespace ScriptedDriver

open Cursor

/-- Looking for a set with columns goes in one of these ways. -/
lemma exists_seeks (d : ScriptedDriver) (c : Cursor) :
    ∃ calls, Seeks d c calls (d.seekColumns c) := by
  fun_induction seekColumns d c with
  | case1 d c hcolumns => exact ⟨_, .found hcolumns⟩
  | case2 d c hcolumns e c' d' hnext => exact ⟨_, .failed (by simpa using hcolumns) hnext⟩
  | case3 d c hcolumns c' d' hnext => exact ⟨_, .ended (by simpa using hcolumns) hnext⟩
  | case4 d c hcolumns c' d' hnext ih =>
    obtain ⟨calls, hrest⟩ := ih
    exact ⟨_, .step (by simpa using hcolumns) hnext hrest⟩

/-- Stepping through the sets that are left goes in one of these ways. -/
lemma exists_skips (d : ScriptedDriver) (c : Cursor) :
    ∃ calls, Skips d c calls (d.skipSets c) := by
  fun_induction skipSets d c with
  | case1 d c e c' d' hnext => exact ⟨_, .failed hnext⟩
  | case2 d c c' d' hnext => exact ⟨_, .ended hnext⟩
  | case3 d c c' d' hnext ih =>
    obtain ⟨calls, hrest⟩ := ih
    exact ⟨_, .step hnext hrest⟩

/-- Fetching the rows of the first set with columns goes in one of these ways. -/
lemma exists_fetches (d : ScriptedDriver) (c : Cursor) (limit : Option Nat) :
    ∃ calls, Fetches d c limit calls (d.fetchFirst c limit) := by
  obtain ⟨calls, hseek⟩ := d.exists_seeks c
  unfold fetchFirst
  generalize d.seekColumns c = result at hseek
  obtain ⟨outcome, c₁, d₁⟩ := result
  rcases outcome with e | found
  · exact ⟨calls, .failed hseek⟩
  · cases found with
    | false => exact ⟨calls, .none hseek⟩
    | true =>
      dsimp only
      rcases hfetch : d₁.fetchAll c₁ with ⟨outcome, c'⟩
      cases outcome with
      | error e => exact ⟨_, .unreadable hseek hfetch⟩
      | ok rows =>
        have hrows : Fetches d c limit _ (.ok (limit.elim rows rows.take), c', d₁) :=
          .rows hseek hfetch
        cases limit with
        | none => exact ⟨_, hrows⟩
        | some n => exact ⟨_, hrows⟩

/-- Collecting what a statement returned goes in one of these ways. -/
lemma exists_collects (d : ScriptedDriver) (c : Cursor) (fetch : Bool) (limit : Option Nat) :
    ∃ calls, Collects d c limit fetch calls (d.collectResults c fetch limit) := by
  unfold collectResults
  cases fetch with
  | false =>
    obtain ⟨calls, hskip⟩ := d.exists_skips c
    rw [if_neg Bool.false_ne_true]
    dsimp only
    generalize d.skipSets c = result at hskip
    obtain ⟨outcome, c', d'⟩ := result
    cases outcome with
    | error e => exact ⟨_, .skipped hskip⟩
    | ok value => exact ⟨_, .skipped hskip⟩
  | true =>
    obtain ⟨calls, hfetch⟩ := d.exists_fetches c limit
    rw [if_pos rfl]
    generalize d.fetchFirst c limit = result at hfetch
    obtain ⟨outcome, c₁, d₁⟩ := result
    cases outcome with
    | error e => exact ⟨_, .failed hfetch⟩
    | ok rows =>
      obtain ⟨calls', hskip⟩ := d₁.exists_skips c₁
      dsimp only
      generalize d₁.skipSets c₁ = result at hskip
      obtain ⟨outcome, c', d'⟩ := result
      cases outcome with
      | error e => exact ⟨_, .fetched hfetch hskip⟩
      | ok value => exact ⟨_, .fetched hfetch hskip⟩

end ScriptedDriver

/-! ### The calls account for the result -/

namespace Cursor

open CursorCall

variable {d : ScriptedDriver} {c : Cursor} {calls : List CursorCall}

/-- Asking whether there are columns cannot fail. -/
lemma account_hasColumns {α : Type} {answer : Bool} (hcolumns : c.hasColumns = answer)
    {result : Except DriverError α × Cursor × ScriptedDriver} (h : Account d c calls result) :
    Account d c (.hasColumns answer :: calls) result := by
  subst hcolumns
  exact .after .hasColumns rfl h

/-- The step to the next set, as it was answered. -/
lemma account_nextSet {d' : ScriptedDriver} {c' : Cursor} {answer : Except DriverError Bool}
    (hnext : d.nextSet c = (answer, c', d')) :
    Account d c [.nextSet answer] (answer, c', d') := by
  have hcall := Account.nextSet d c
  rwa [hnext] at hcall

/-- The calls that look for a set with columns account for what it leads to. -/
lemma Seeks.account {result : Except DriverError Bool × Cursor × ScriptedDriver}
    (h : Seeks d c calls result) : Account d c calls result := by
  induction h with
  | found hcolumns => exact account_hasColumns hcolumns (.pure _ _ true)
  | failed hcolumns hnext => exact account_hasColumns hcolumns (account_nextSet hnext)
  | ended hcolumns hnext => exact account_hasColumns hcolumns (account_nextSet hnext)
  | step hcolumns hnext _ ih => exact account_hasColumns hcolumns ((account_nextSet hnext).bind ih)

/-- The calls that step through the sets that are left account for what they lead to. -/
lemma Skips.account {result : Except DriverError Unit × Cursor × ScriptedDriver}
    (h : Skips d c calls result) : Account d c calls result := by
  induction h with
  | failed hnext => exact (account_nextSet hnext).error
  | ended hnext => exact (account_nextSet hnext).ok ()
  | step hnext _ ih => exact (account_nextSet hnext).bind ih

/-- The calls that fetch the rows of the first set with columns account for them. -/
lemma Fetches.account {limit : Option Nat}
    {result : Except DriverError (List Row) × Cursor × ScriptedDriver}
    (h : Fetches d c limit calls result) : Account d c calls result := by
  have hrows {d' : ScriptedDriver} {c₁ c' : Cursor} {answer : Except DriverError (List Row)}
      (hfetch : d'.fetchAll c₁ = (answer, c')) :
      Account d' c₁ [.fetchAll answer] (answer, c', d') := by
    have hcall := Account.fetchAll d' c₁
    rwa [hfetch] at hcall
  cases h with
  | failed hseek => exact hseek.account.error
  | none hseek => exact hseek.account.ok []
  | unreadable hseek hfetch => exact hseek.account.bind (hrows hfetch)
  | rows hseek hfetch => exact (hseek.account.bind (hrows hfetch)).ok _

/-- The calls that collect what a statement returned account for it. -/
lemma Collects.account {limit : Option Nat} {fetch : Bool}
    {result : Except DriverError (StatementResponse × List Row) × Cursor × ScriptedDriver}
    (h : Collects d c limit fetch calls result) : Account d c calls result := by
  have hmap {α β : Type} {d d' : ScriptedDriver} {c c' : Cursor} {calls : List CursorCall}
      {outcome : Except DriverError α} (b : β) (hcalls : Account d c calls (outcome, c', d')) :
      Account d c calls (outcome.map fun _ => b, c', d') := by
    cases outcome with
    | error e => exact hcalls.error
    | ok a => exact hcalls.ok b
  cases h with
  | skipped hskip => exact .after .rowcount rfl (hmap _ hskip.account)
  | failed hfetch => exact .after .rowcount rfl hfetch.account.error
  | fetched hfetch hskip => exact .after .rowcount rfl (hfetch.account.bind (hmap _ hskip.account))

end Cursor

/-! ### Where the cursor gets -/

namespace Cursor

variable {d d' : ScriptedDriver} {c c' : Cursor} {calls : List CursorCall}

/-- The current set has no columns. -/
lemma eq_none_of_hasColumns_eq_false {set : ResultSet} {rest : List ResultSet}
    (h : c.hasColumns = false) (hsets : c.sets = set :: rest) : set = none := by
  rw [hasColumns, hsets] at h
  cases set with
  | none => rfl
  | some rows => cases h

/-- A cursor with no further set stands on the last one. -/
lemma sets_eq_getLast? (h : c.sets.length ≤ 1) : c.sets = c.sets.getLast?.toList := by
  match hsets : c.sets with
  | [] => rfl
  | [_] => rfl
  | _ :: _ :: _ => simp [hsets] at h

/-- A search that finds a set with columns stands there: the sets before it have none. -/
lemma Seeks.of_true {result : Except DriverError Bool × Cursor × ScriptedDriver}
    (h : Seeks d c calls result) (hresult : result.1 = .ok true) :
    ∃ skipped rows rest, c.sets = skipped ++ some rows :: rest ∧ (∀ set ∈ skipped, set = none) ∧
      result.2.1.sets = some rows :: rest := by
  induction h with
  | @found d c hcolumns =>
    unfold hasColumns at hcolumns
    split at hcolumns
    · next rows rest hsets => exact ⟨[], rows, rest, hsets, by simp, hsets⟩
    · cases hcolumns
  | failed => cases hresult
  | ended => cases hresult
  | @step d _ c _ _ _ hcolumns hnext _ ih =>
    obtain ⟨skipped, rows, rest, hfound, hskipped, hstands⟩ := ih hresult
    have hsteps := d.steps_nextSet c
    rw [hnext] at hsteps
    cases hsteps with
    | @moved set _ _ _ hsets =>
      refine ⟨set :: skipped, rows, rest, ?_, ?_, hstands⟩
      · rw [hsets]
        exact congrArg (set :: ·) hfound
      · exact List.forall_mem_cons.mpr ⟨eq_none_of_hasColumns_eq_false hcolumns hsets, hskipped⟩

/-- A search that finds no set with columns stands on the last set: none of them has any. -/
lemma Seeks.of_false {result : Except DriverError Bool × Cursor × ScriptedDriver}
    (h : Seeks d c calls result) (hresult : result.1 = .ok false) :
    (∀ set ∈ c.sets, set = none) ∧ result.2.1.sets = c.sets.getLast?.toList := by
  induction h with
  | found => cases hresult
  | failed => cases hresult
  -- there is no set behind this one, which has no columns
  | @ended d _ c _ hcolumns hnext =>
    have hsteps := d.steps_nextSet c
    rw [hnext] at hsteps
    cases hsteps with
    | ended _ hlength =>
      refine ⟨fun set hset => ?_, sets_eq_getLast? hlength⟩
      match hs : c.sets with
      | [] => simp [hs] at hset
      | [_] =>
        obtain rfl : set = _ := by simpa [hs] using hset
        exact eq_none_of_hasColumns_eq_false hcolumns hs
      | _ :: _ :: _ => simp [hs] at hlength
  | @step d _ c _ _ _ hcolumns hnext _ ih =>
    obtain ⟨hnone, hstands⟩ := ih hresult
    have hsteps := d.steps_nextSet c
    rw [hnext] at hsteps
    cases hsteps with
    | moved _ hsets =>
      rw [hsets, List.getLast?_cons_of_ne_nil (List.cons_ne_nil _ _)]
      exact ⟨List.forall_mem_cons.mpr ⟨eq_none_of_hasColumns_eq_false hcolumns hsets, hnone⟩,
        hstands⟩

/-- Stepping through the sets that are left leads to the last one. -/
lemma Skips.of_ok {result : Except DriverError Unit × Cursor × ScriptedDriver}
    (h : Skips d c calls result) (hresult : result.1 = .ok ()) :
    result.2.1.sets = c.sets.getLast?.toList := by
  induction h with
  | failed => cases hresult
  | @ended d _ c _ hnext =>
    have hsteps := d.steps_nextSet c
    rw [hnext] at hsteps
    cases hsteps with
    | ended _ hlength => exact sets_eq_getLast? hlength
  | @step d _ c _ _ _ hnext _ ih =>
    have hsteps := d.steps_nextSet c
    rw [hnext] at hsteps
    cases hsteps with
    | moved _ hsets => rw [ih hresult, hsets, List.getLast?_cons_of_ne_nil (List.cons_ne_nil _ _)]

/-- A search for a set with columns asks for no rows. -/
lemma Seeks.countP_fetches {result : Except DriverError Bool × Cursor × ScriptedDriver}
    (h : Seeks d c calls result) : calls.countP CursorCall.fetches = 0 := by
  induction h with
  | found => rfl
  | failed => rfl
  | ended => rfl
  | step _ _ _ ih => exact ih

/-- Stepping through the sets that are left asks for no rows. -/
lemma Skips.countP_fetches {result : Except DriverError Unit × Cursor × ScriptedDriver}
    (h : Skips d c calls result) : calls.countP CursorCall.fetches = 0 := by
  induction h with
  | failed => rfl
  | ended => rfl
  | step _ _ ih => exact ih

/-- Some set that is left has columns. -/
def anyColumns (c : Cursor) : Bool := c.sets.any Option.isSome

/-- The rows of the first set with columns, as many as are wanted; none without such a set. -/
def firstRows (c : Cursor) (limit : Option Nat) : List Row :=
  let rows := (c.sets.findSome? id).getD []
  limit.elim rows rows.take

/-- The cursor after the rows of the first set with columns were taken. -/
def withoutFirstRows (c : Cursor) : Cursor :=
  { c with
    sets := c.sets.takeWhile Option.isNone ++ match c.sets.dropWhile Option.isNone with
      | [] => []
      | _ :: rest => some [] :: rest }

/-- Where the first set with columns is known. -/
lemma of_sets_eq {skipped rest : List ResultSet} {rows : List Row}
    (hsets : c.sets = skipped ++ some rows :: rest) (hskipped : ∀ set ∈ skipped, set = none) :
    c.anyColumns = true ∧ c.sets.findSome? id = some rows ∧
      c.withoutFirstRows.sets = skipped ++ some [] :: rest := by
  have hnone : ∀ set ∈ skipped, set.isNone = true := fun set hset => by rw [hskipped set hset]; rfl
  refine ⟨by simp [anyColumns, hsets], ?_, ?_⟩
  · rw [hsets, List.findSome?_append, List.findSome?_eq_none_iff.mpr (by simpa using hskipped)]
    rfl
  · rw [withoutFirstRows, hsets, List.takeWhile_append_of_pos hnone,
      List.dropWhile_append_of_pos hnone]
    simp

/-- Where no set has columns. -/
lemma of_forall_eq_none (hnone : ∀ set ∈ c.sets, set = none) :
    c.anyColumns = false ∧ c.sets.findSome? id = none ∧ c.withoutFirstRows = c := by
  have hnone' : ∀ set ∈ c.sets, set.isNone = true := fun set hset => by rw [hnone set hset]; rfl
  refine ⟨?_, List.findSome?_eq_none_iff.mpr (by simpa using hnone), ?_⟩
  · rw [anyColumns, List.any_eq_false]
    intro set hset
    rw [hnone set hset]
    exact Bool.false_ne_true
  · rw [withoutFirstRows, List.takeWhile_eq_self_iff.mpr hnone',
      List.dropWhile_eq_nil_iff.mpr hnone', List.append_nil]

/-- Fetching asks for rows once where a set has columns, and not at all elsewhere. -/
lemma Fetches.countP_fetches {limit : Option Nat}
    {result : Except DriverError (List Row) × Cursor × ScriptedDriver}
    (h : Fetches d c limit calls result) :
    calls.countP CursorCall.fetches ≤ (if c.anyColumns then 1 else 0) ∧
      ∀ rows, result.1 = .ok rows →
        calls.countP CursorCall.fetches = if c.anyColumns then 1 else 0 := by
  cases h with
  | failed hseek =>
    rw [hseek.countP_fetches]
    exact ⟨Nat.zero_le _, nofun⟩
  | none hseek =>
    obtain ⟨hnone, -⟩ := hseek.of_false rfl
    rw [hseek.countP_fetches, (of_forall_eq_none hnone).1]
    exact ⟨Nat.le_refl 0, fun _ _ => rfl⟩
  | unreadable hseek _ =>
    obtain ⟨skipped, rows, rest, hsets, hskipped, -⟩ := hseek.of_true rfl
    rw [List.countP_append, hseek.countP_fetches, (of_sets_eq hsets hskipped).1]
    exact ⟨Nat.le_refl 1, nofun⟩
  | rows hseek _ =>
    obtain ⟨skipped, rows, rest, hsets, hskipped, -⟩ := hseek.of_true rfl
    rw [List.countP_append, hseek.countP_fetches, (of_sets_eq hsets hskipped).1]
    exact ⟨Nat.le_refl 1, fun _ _ => rfl⟩

/-- What fetching returns are the rows of the first set with columns, which has none left
afterwards; the last of the sets is still to come. -/
lemma Fetches.of_ok {limit : Option Nat} {rows : List Row} {c' : Cursor}
    (h : Fetches d c limit calls (.ok rows, c', d')) :
    rows = c.firstRows limit ∧ c'.sets.getLast? = c.withoutFirstRows.sets.getLast? := by
  cases h with
  | none hseek =>
    obtain ⟨hnone, hstands⟩ := hseek.of_false rfl
    obtain ⟨-, hfirst, hsame⟩ := of_forall_eq_none hnone
    rw [firstRows, hfirst, hsame, hstands]
    refine ⟨?_, ?_⟩
    · cases limit <;> simp
    · cases c.sets.getLast? <;> rfl
  | @rows _ c₁ _ calls fetched hseek hfetch =>
    obtain ⟨skipped, rows, rest, hsets, hskipped, hstands⟩ := hseek.of_true rfl
    obtain ⟨-, hfirst, hwithout⟩ := of_sets_eq hsets hskipped
    dsimp only at hstands
    unfold ScriptedDriver.fetchAll at hfetch
    split at hfetch
    · cases hfetch
    · rw [hstands] at hfetch
      obtain ⟨hrows, rfl⟩ := Prod.mk.inj hfetch
      obtain rfl := Except.ok.inj hrows
      rw [firstRows, hfirst, hwithout, List.getLast?_append, List.getLast?_cons]
      exact ⟨rfl, rfl⟩

/-- What collecting returns when nothing fails, and where the cursor stands then. -/
lemma Collects.of_ok {limit : Option Nat} {fetch : Bool}
    {result : Except DriverError (StatementResponse × List Row) × Cursor × ScriptedDriver}
    (h : Collects d c limit fetch calls result) {value : StatementResponse × List Row}
    (hresult : result.1 = .ok value) :
    value = (.ofRowcount c.rowcount, if fetch then c.firstRows limit else []) ∧
      calls.countP CursorCall.fetches = (if fetch && c.anyColumns then 1 else 0) ∧
      result.2.1.sets = (if fetch then c.withoutFirstRows else c).sets.getLast?.toList := by
  cases h with
  | @skipped _ _ _ outcome hskip =>
    cases outcome with
    | error e => cases hresult
    | ok _ => exact ⟨(Except.ok.inj hresult).symm, hskip.countP_fetches, hskip.of_ok rfl⟩
  | failed => cases hresult
  | @fetched _ _ _ _ calls calls' rows outcome hfetch hskip =>
    obtain ⟨rfl, hlast⟩ := hfetch.of_ok
    cases outcome with
    | error e => cases hresult
    | ok _ =>
      refine ⟨(Except.ok.inj hresult).symm, ?_, ?_⟩
      · rw [List.countP_cons, List.countP_append, hfetch.countP_fetches.2 _ rfl,
          hskip.countP_fetches]
        rfl
      · rw [hskip.of_ok rfl, hlast]
        rfl

end Cursor

/-! ### Collecting -/

/-- The second step to a next set fails: the first one was made, and no call follows. -/
example :
    let d : ScriptedDriver := { script := { nextSetFailures := [none, some noResults] } }
    d.collectResults ⟨[some [], none, none], 0⟩ false none =
      (.error noResults, ⟨[none, none], 0⟩, { record := { setsVisited := 1 }, script := {} }) := by
  cbv

end WarehouseAccess
