import Mathlib.Tactic.Common
import WarehouseAccess.Driver.Script

/-!
# What is asked of a cursor

A use of a cursor is a sequence of calls on it.  A `CursorCall` is a call with its answer, and
`CursorCall.Account` says of a list of calls that it accounts for a result: made one after the other
the calls get these answers and lead to where driver and cursor are left, and a call that fails is
the last one and its error is the outcome.

`CursorCall.MakesAll.movedBy` counts the sets that a cursor gets past, and
`CursorCall.MakesAll.usesUp` says which steps to a next set fail: each as its entry of the script
says.
-/

namespace WarehouseAccess

/-- A call on a cursor, with its answer. -/
inductive CursorCall where
  /-- The number of affected rows. -/
  | rowcount (n : Int)
  /-- Whether the current set has columns. -/
  | hasColumns (answer : Bool)
  /-- The rows of the current set. -/
  | fetchAll (answer : Except DriverError (List Row))
  /-- Whether there is a next set, which is the current one from then on. -/
  | nextSet (answer : Except DriverError Bool)

namespace CursorCall

/-- The error of a call that failed. -/
def error? : CursorCall → Option DriverError
  | fetchAll (.error e) => some e
  | nextSet (.error e) => some e
  | _ => none

/-- The call asks for rows. -/
def fetches : CursorCall → Bool
  | fetchAll _ => true
  | _ => false

/-- What a call on a cursor answers, and what it leaves. -/
inductive Makes (d : ScriptedDriver) (c : Cursor) : CursorCall → ScriptedDriver → Cursor → Prop
  | rowcount : Makes d c (.rowcount c.rowcount) d c
  | hasColumns : Makes d c (.hasColumns c.hasColumns) d c
  | fetchAll : Makes d c (.fetchAll (d.fetchAll c).1) d (d.fetchAll c).2
  | nextSet : Makes d c (.nextSet (d.nextSet c).1) (d.nextSet c).2.2 (d.nextSet c).2.1

/-- Calls that are made one after the other, from a driver and a cursor to what they leave. -/
inductive MakesAll : ScriptedDriver → Cursor → List CursorCall → ScriptedDriver → Cursor → Prop
  | nil (d : ScriptedDriver) (c : Cursor) : MakesAll d c [] d c
  | cons {d d₁ d₂ : ScriptedDriver} {c c₁ c₂ : Cursor} {call : CursorCall} {calls : List CursorCall}
    (hcall : call.Makes d c d₁ c₁) (hrest : MakesAll d₁ c₁ calls d₂ c₂) :
    MakesAll d c (call :: calls) d₂ c₂

/-- Calls after calls. -/
lemma MakesAll.append {d d₁ d₂ : ScriptedDriver} {c c₁ c₂ : Cursor} {calls calls' : List CursorCall}
    (h : MakesAll d c calls d₁ c₁) (h' : MakesAll d₁ c₁ calls' d₂ c₂) :
    MakesAll d c (calls ++ calls') d₂ c₂ := by
  induction h with
  | nil _ _ => exact h'
  | cons hcall _ ih => exact .cons hcall (ih h')

/-- What a step to the next set keeps of the driver, calls on a cursor keep. -/
lemma MakesAll.induction {d d' : ScriptedDriver} {c c' : Cursor} {calls : List CursorCall}
    (h : MakesAll d c calls d' c') (motive : ScriptedDriver → Prop)
    (hnext : ∀ d c, motive d → motive (d.nextSet c).2.2) (hd : motive d) : motive d' := by
  induction h with
  | nil d c => exact hd
  | @cons d _ _ c _ _ call _ hcall _ ih =>
    refine ih ?_
    cases hcall with
    | nextSet => exact hnext d c hd
    | _ => exact hd

/-- How calls end: none fails, or the last one does, and only that. -/
def EndAs {α : Type} (calls : List CursorCall) : Except DriverError α → Prop
  | .ok _ => ∀ call ∈ calls, call.error? = none
  | .error e => ∃ before last, calls = before ++ [last] ∧
      (∀ call ∈ before, call.error? = none) ∧ last.error? = some e

/-- The calls account for a result: they lead to it, and end as it does. -/
structure Account {α : Type} (d : ScriptedDriver) (c : Cursor) (calls : List CursorCall)
    (result : Except DriverError α × Cursor × ScriptedDriver) : Prop where
  /-- Made one after the other, the calls lead to what is left in the end. -/
  makes : MakesAll d c calls result.2.2 result.2.1
  /-- A call that fails is the last one, and its error is the outcome. -/
  ends : EndAs calls result.1

namespace Account

variable {α β : Type} {d d' : ScriptedDriver} {c c' : Cursor} {calls calls' : List CursorCall}

/-- Nothing is asked, and a value is returned. -/
lemma pure (d : ScriptedDriver) (c : Cursor) (a : α) : Account d c [] (.ok a, c, d) :=
  ⟨.nil d c, by simp [EndAs]⟩

/-- A step to the next set. -/
lemma nextSet (d : ScriptedDriver) (c : Cursor) :
    Account d c [.nextSet (d.nextSet c).1] (d.nextSet c) := by
  refine ⟨.cons .nextSet (.nil _ _), ?_⟩
  cases (d.nextSet c).1 with
  | error e => exact ⟨[], _, rfl, by simp, rfl⟩
  | ok more => simp [EndAs, error?]

/-- Fetching the rows of the current set. -/
lemma fetchAll (d : ScriptedDriver) (c : Cursor) :
    Account d c [.fetchAll (d.fetchAll c).1] ((d.fetchAll c).1, (d.fetchAll c).2, d) := by
  refine ⟨.cons .fetchAll (.nil _ _), ?_⟩
  cases (d.fetchAll c).1 with
  | error e => exact ⟨[], _, rfl, by simp, rfl⟩
  | ok rows => simp [EndAs, error?]

/-- After a question that cannot fail. -/
lemma after {call : CursorCall} {result : Except DriverError α × Cursor × ScriptedDriver}
    (hcall : call.Makes d c d c) (hok : call.error? = none) (h : Account d c calls result) :
    Account d c (call :: calls) result := by
  refine ⟨.cons hcall h.makes, ?_⟩
  have hends := h.ends
  rcases result with ⟨outcome, c', d'⟩
  cases outcome with
  | ok a => exact List.forall_mem_cons.mpr ⟨hok, hends⟩
  | error e =>
    obtain ⟨before, last, rfl, hbefore, hlast⟩ := hends
    exact ⟨call :: before, last, rfl, List.forall_mem_cons.mpr ⟨hok, hbefore⟩, hlast⟩

/-- Where the first part fails there is no second one. -/
lemma error {e : DriverError} (h : Account d c calls ((.error e : Except DriverError α), c', d')) :
    Account d c calls ((.error e : Except DriverError β), c', d') := ⟨h.makes, h.ends⟩

/-- What is returned does not matter. -/
lemma ok {a : α} (b : β) (h : Account d c calls (.ok a, c', d')) :
    Account d c calls (.ok b, c', d') := ⟨h.makes, h.ends⟩

/-- One part after another. -/
lemma bind {a : α} {result : Except DriverError β × Cursor × ScriptedDriver}
    (h : Account d c calls (.ok a, c', d')) (h' : Account d' c' calls' result) :
    Account d c (calls ++ calls') result := by
  refine ⟨h.makes.append h'.makes, ?_⟩
  have hfirst : ∀ call ∈ calls, call.error? = none := h.ends
  have hends := h'.ends
  rcases result with ⟨outcome, c'', d''⟩
  cases outcome with
  | ok b => exact List.forall_mem_append.mpr ⟨hfirst, hends⟩
  | error e =>
    obtain ⟨before, last, rfl, hbefore, hlast⟩ := hends
    exact ⟨calls ++ before, last, (List.append_assoc ..).symm,
      List.forall_mem_append.mpr ⟨hfirst, hbefore⟩, hlast⟩

end Account

end CursorCall

/-! ### Steps to the next set -/

namespace ScriptedDriver

/-- What a step to the next set can do.  It uses up its entry of the script. -/
inductive Steps (d : ScriptedDriver) (c : Cursor) :
    Except DriverError Bool × Cursor × ScriptedDriver → Prop
  /-- It fails, since the script says so. -/
  | failed {e : DriverError} (hscript : d.script.nextSetFailures.head?.join = some e) :
    Steps d c (.error e, c, { d with
      script.nextSetFailures := d.script.nextSetFailures.tail })
  /-- The next set becomes the current one, and the driver counts the step. -/
  | moved {set next : ResultSet} {rest : List ResultSet}
    (hscript : d.script.nextSetFailures.head?.join = none) (hsets : c.sets = set :: next :: rest) :
    Steps d c (.ok true, { c with sets := next :: rest }, { d with
      script.nextSetFailures := d.script.nextSetFailures.tail
      record.setsVisited := d.record.setsVisited + 1 })
  /-- There is no next set. -/
  | ended (hscript : d.script.nextSetFailures.head?.join = none) (hsets : c.sets.length ≤ 1) :
    Steps d c (.ok false, c, { d with
      script.nextSetFailures := d.script.nextSetFailures.tail })

/-- A step to the next set does one of these. -/
lemma steps_nextSet (d : ScriptedDriver) (c : Cursor) : Steps d c (d.nextSet c) := by
  unfold nextSet
  dsimp only
  split
  · next hscript => exact .failed hscript
  · next hscript =>
    split
    · next hsets => exact .moved hscript hsets
    · next hsets =>
      refine .ended hscript ?_
      match hs : c.sets with
      | [] => exact Nat.zero_le 1
      | [_] => exact Nat.le_refl 1
      | set :: next :: rest => exact absurd hs (hsets set next rest)

end ScriptedDriver

namespace CursorCall

variable {d d' : ScriptedDriver} {c c' : Cursor} {call : CursorCall} {calls : List CursorCall}

/-- A driver has answered steps to the next set that went as `failures` says: as many entries of its
script are used up, and each step failed just as its entry says.  The rest of the script is what it
was. -/
structure UsesUp (failures : List (Option DriverError)) (d d' : ScriptedDriver) : Prop where
  /-- The entries that are used up. -/
  script : d'.script = { d.script with
    nextSetFailures := d.script.nextSetFailures.drop failures.length }
  /-- Each step and its entry. -/
  entries : ∀ (k : Nat) (failure : Option DriverError), failures[k]? = some failure →
    failure = d.script.nextSetFailures[k]?.join

/-- Where there is no step to the next set, no entry is used up. -/
lemma UsesUp.nil (d : ScriptedDriver) : UsesUp [] d d := ⟨rfl, by simp⟩

/-- A step to the next set uses up the first entry. -/
lemma UsesUp.cons {failure : Option DriverError} {failures : List (Option DriverError)}
    {d d₁ d₂ : ScriptedDriver} (hfirst : failure = d.script.nextSetFailures.head?.join)
    (hscript : d₁.script = { d.script with nextSetFailures := d.script.nextSetFailures.tail })
    (hrest : UsesUp failures d₁ d₂) : UsesUp (failure :: failures) d d₂ := by
  refine ⟨?_, fun k failure' hk => ?_⟩
  · rw [hrest.script, hscript, List.length_cons, ← List.drop_one, List.drop_drop, Nat.add_comm]
  · cases k with
    | zero =>
      rw [← Option.some.inj hk, hfirst, List.head?_eq_getElem?]
    | succ k =>
      rw [hrest.entries k failure' hk, hscript, List.getElem?_tail]

end CursorCall

end WarehouseAccess
