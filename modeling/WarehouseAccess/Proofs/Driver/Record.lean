import Mathlib.Tactic.Common
import WarehouseAccess.Connection.Query
import WarehouseAccess.Driver.Registry

/-!
# What drivers were asked

The record of a driver tells which connections it opened and closed.  `Quiet` says of what was done
between two moments that nothing was opened, rolled back or closed, which holds of everything that
statements do; `Drivers.Quiet` says it of all drivers at once.

`outstanding` counts the connections of a driver that are still to be closed, and `Drivers.Tracks`
says that this number changes for each backend just as what is held does.
-/

namespace WarehouseAccess

namespace ScriptedDriver

/-- How many connections the driver opened. -/
def opens (d : ScriptedDriver) : Nat := d.record.connectCalls.countP ConnectCall.accepted

/-- How many connections of the driver are still to be closed. -/
def outstanding (d : ScriptedDriver) : Int := d.opens - d.record.closes

/-- Nothing was opened, rolled back or closed in between. -/
structure Quiet (d d' : ScriptedDriver) : Prop where
  /-- No connection was asked for. -/
  connectCalls : d'.record.connectCalls = d.record.connectCalls
  /-- Nothing was rolled back. -/
  rollbacks : d'.record.rollbacks = d.record.rollbacks
  /-- Nothing was closed. -/
  closes : d'.record.closes = d.record.closes

namespace Quiet

/-- Nothing happens between a moment and itself. -/
@[refl]
lemma refl (d : ScriptedDriver) : d.Quiet d := ⟨rfl, rfl, rfl⟩

/-- Two quiet stretches make one. -/
@[trans]
lemma trans {d d' d'' : ScriptedDriver} (h : d.Quiet d') (h' : d'.Quiet d'') : d.Quiet d'' :=
  ⟨h'.connectCalls.trans h.connectCalls, h'.rollbacks.trans h.rollbacks,
    h'.closes.trans h.closes⟩

end Quiet

/-! ### Quiet calls -/

/-- Asking for a cursor is quiet. -/
lemma quiet_cursor (d : ScriptedDriver) : d.Quiet d.cursor.2 := by
  unfold cursor
  split <;> exact ⟨rfl, rfl, rfl⟩

/-- Carrying out a statement is quiet. -/
lemma quiet_execute (d : ScriptedDriver) (c : Cursor) (sql : String)
    (bindings : Option (List SqlValue)) : d.Quiet (d.execute c sql bindings).2.2 := by
  unfold execute
  split
  · exact ⟨rfl, rfl, rfl⟩
  · split <;> exact ⟨rfl, rfl, rfl⟩

/-- Moving on to the next set is quiet. -/
lemma quiet_nextSet (d : ScriptedDriver) (c : Cursor) : d.Quiet (d.nextSet c).2.2 := by
  unfold nextSet
  dsimp only
  split
  · exact ⟨rfl, rfl, rfl⟩
  · split <;> exact ⟨rfl, rfl, rfl⟩

/-- Setting the pooling is quiet. -/
lemma quiet_setPooling (d : ScriptedDriver) (enabled : Bool) (max : Nat) :
    d.Quiet (d.setPooling enabled max) := ⟨rfl, rfl, rfl⟩

/-- Setting how long queries may take is quiet. -/
lemma quiet_setQueryTimeout (d : ScriptedDriver) (seconds : Nat) :
    d.Quiet (d.setQueryTimeout seconds) := ⟨rfl, rfl, rfl⟩

/-- Registering a converter is quiet. -/
lemma quiet_addConverter (d : ScriptedDriver) (typeCode : Int) :
    d.Quiet (d.addConverter typeCode) := ⟨rfl, rfl, rfl⟩

/-! ### Calls that open and close -/

/-- An accepted connection is one more to be closed. -/
lemma outstanding_of_connect_ok {d d' : ScriptedDriver} {text : String} {timeout : Nat}
    {autocommit : Bool} {attributes : LoginAttributes}
    (h : d.connect text timeout autocommit attributes = (.ok (), d')) :
    d'.outstanding = d.outstanding + 1 := by
  unfold connect at h
  split at h
  · cases h
  · cases h
    simp only [outstanding, opens, List.countP_append, List.countP_singleton]
    push_cast
    omega

/-- A refused connection leaves none to be closed. -/
lemma outstanding_of_connect_error {d d' : ScriptedDriver} {text : String} {timeout : Nat}
    {autocommit : Bool} {attributes : LoginAttributes} {e : DriverError}
    (h : d.connect text timeout autocommit attributes = (.error e, d')) :
    d'.outstanding = d.outstanding := by
  unfold connect at h
  split at h
  · cases h
    simp [outstanding, opens]
  · cases h

/-- Rolling back leaves as many connections to be closed as before. -/
lemma outstanding_rollback (d : ScriptedDriver) : d.rollback.2.outstanding = d.outstanding := by
  unfold rollback
  split <;> rfl

/-- A call that closes leaves one connection less to be closed, even when it fails. -/
lemma outstanding_close (d : ScriptedDriver) : d.close.2.outstanding = d.outstanding - 1 := by
  unfold close
  split <;> simp only [outstanding, opens] <;> push_cast <;> omega

end ScriptedDriver

namespace Drivers

/-! ### Reading the record of one driver -/

/-- What a view shows of the driver of a backend; the default where there is none. -/
def viewOn {β : Type} [Inhabited β] (view : ScriptedDriver → β) (ds : Drivers) (b : Backend) : β :=
  ((ds.get? b).map view).getD default

/-- How often the driver of a backend was told to roll back. -/
def rollbacks (ds : Drivers) (b : Backend) : Nat := ds.viewOn (fun d => d.record.rollbacks) b

/-- How often the driver of a backend was told to close a connection. -/
def closes (ds : Drivers) (b : Backend) : Nat := ds.viewOn (fun d => d.record.closes) b

/-- The calls to connect that the driver of a backend got, in order. -/
def connectCalls (ds : Drivers) (b : Backend) : List ConnectCall :=
  ds.viewOn (fun d => d.record.connectCalls) b

section View

variable {α β : Type} [Inhabited β] (view : ScriptedDriver → β)
  {f : ScriptedDriver → α × ScriptedDriver}

/-- The view of the driver that was installed. -/
lemma viewOn_set_self (ds : Drivers) (b : Backend) (d : ScriptedDriver) :
    (ds.set b d).viewOn view b = view d := by
  simp [viewOn]

/-- Installing a driver does not change the view of the other. -/
lemma viewOn_set_other (ds : Drivers) {b b' : Backend} (d : ScriptedDriver) (h : b ≠ b') :
    (ds.set b d).viewOn view b' = ds.viewOn view b' := by
  rw [viewOn, get?_set_other ds d h, viewOn]

/-- The view of a driver that is there. -/
lemma viewOn_of_get? {ds : Drivers} {b : Backend} {d : ScriptedDriver} (h : ds.get? b = some d) :
    ds.viewOn view b = view d := by
  simp [viewOn, h]

/-- The act of a driver that is not there changes nothing. -/
lemma act_of_get?_eq_none {ds : Drivers} {b : Backend} (h : ds.get? b = none) (a : α)
    (f : ScriptedDriver → α × ScriptedDriver) : ds.act b a f = (a, ds) := by
  simp [act, h]

/-- The act of a driver that is there. -/
lemma act_of_get?_eq_some {ds : Drivers} {b : Backend} {d : ScriptedDriver}
    (h : ds.get? b = some d) (a : α) (f : ScriptedDriver → α × ScriptedDriver) :
    ds.act b a f = ((f d).1, ds.set b (f d).2) := by
  simp [act, h]

/-- The act of a driver does not change the view of the other. -/
lemma viewOn_act_other (ds : Drivers) {b b' : Backend} (a : α) (h : b ≠ b') :
    (ds.act b a f).2.viewOn view b' = ds.viewOn view b' := by
  cases hd : ds.get? b with
  | none => rw [act_of_get?_eq_none hd]
  | some d => rw [act_of_get?_eq_some hd, viewOn_set_other view ds _ h]

/-- An act that a view does not show changes the view of no driver. -/
lemma viewOn_act_of_eq (ds : Drivers) (b : Backend) (a : α)
    (hf : ∀ d, view (f d).2 = view d) (b' : Backend) :
    (ds.act b a f).2.viewOn view b' = ds.viewOn view b' := by
  by_cases hb : b = b'
  · subst hb
    cases hd : ds.get? b with
    | none => rw [act_of_get?_eq_none hd]
    | some d => rw [act_of_get?_eq_some hd, viewOn_set_self, viewOn_of_get? view hd, hf]
  · exact viewOn_act_other view ds a hb

/-- The same backends have a driver after an act. -/
lemma isSome_get?_act (ds : Drivers) (b : Backend) (a : α)
    (f : ScriptedDriver → α × ScriptedDriver) (b' : Backend) :
    ((ds.act b a f).2.get? b').isSome = (ds.get? b').isSome := by
  cases hd : ds.get? b with
  | none => rw [act_of_get?_eq_none hd]
  | some d =>
    rw [act_of_get?_eq_some hd]
    by_cases hb : b = b'
    · subst hb
      simp [hd]
    · rw [get?_set_other ds _ hb]

end View

/-! ### Quiet stretches -/

/-- Of no driver anything was opened, rolled back or closed in between. -/
structure Quiet (ds ds' : Drivers) : Prop where
  /-- No driver was installed or removed. -/
  installed : ∀ b, (ds'.get? b).isSome = (ds.get? b).isSome
  /-- No connection was asked for. -/
  connectCalls : ∀ b, ds'.connectCalls b = ds.connectCalls b
  /-- Nothing was rolled back. -/
  rollbacks : ∀ b, ds'.rollbacks b = ds.rollbacks b
  /-- Nothing was closed. -/
  closes : ∀ b, ds'.closes b = ds.closes b

namespace Quiet

/-- Nothing happens between a moment and itself. -/
lemma refl (ds : Drivers) : ds.Quiet ds := ⟨fun _ => rfl, fun _ => rfl, fun _ => rfl, fun _ => rfl⟩

/-- Two quiet stretches make one. -/
lemma trans {ds ds' ds'' : Drivers} (h : ds.Quiet ds') (h' : ds'.Quiet ds'') : ds.Quiet ds'' :=
  ⟨fun b => (h'.installed b).trans (h.installed b),
    fun b => (h'.connectCalls b).trans (h.connectCalls b),
    fun b => (h'.rollbacks b).trans (h.rollbacks b), fun b => (h'.closes b).trans (h.closes b)⟩

end Quiet

/-- The act of a driver that is quiet for it is quiet for all. -/
lemma quiet_act {α : Type} (ds : Drivers) (b : Backend) (a : α)
    {f : ScriptedDriver → α × ScriptedDriver} (hf : ∀ d : ScriptedDriver, d.Quiet (f d).2) :
    ds.Quiet (ds.act b a f).2 where
  installed := ds.isSome_get?_act b a f
  connectCalls := ds.viewOn_act_of_eq _ b a fun d => (hf d).connectCalls
  rollbacks := ds.viewOn_act_of_eq _ b a fun d => (hf d).rollbacks
  closes := ds.viewOn_act_of_eq _ b a fun d => (hf d).closes

/-- Setting the pooling is the act of a driver. -/
lemma configurePooling_eq_act (ds : Drivers) (b : Backend) (enabled : Bool) (max : Nat) :
    ds.configurePooling b enabled max = (ds.act b () fun d => ((), match b with
      | .native => if enabled then d.setPooling true max else d
      | .odbc => d.setPooling enabled max)).2 := by
  unfold configurePooling
  cases hd : ds.get? b with
  | none => rw [act_of_get?_eq_none hd]
  | some d =>
    rw [act_of_get?_eq_some hd]
    cases b with
    | odbc => rfl
    | native =>
      cases enabled with
      | true => rfl
      | false =>
        have hnative : ds.native = some d := hd
        simp [set, ← hnative]

/-- Setting the pooling is quiet. -/
lemma quiet_configurePooling (ds : Drivers) (b : Backend) (enabled : Bool) (max : Nat) :
    ds.Quiet (ds.configurePooling b enabled max) := by
  rw [configurePooling_eq_act]
  refine ds.quiet_act b () fun d => ?_
  split
  · split_ifs
    · exact d.quiet_setPooling true max
    · exact .refl d
  · exact d.quiet_setPooling enabled max

/-! ### What is still to be closed -/

/-- How many connections of a backend's driver are still to be closed. -/
def outstanding (ds : Drivers) (b : Backend) : Int :=
  ((ds.get? b).map ScriptedDriver.outstanding).getD 0

/-- What is still to be closed is what was accepted less what was closed. -/
lemma outstanding_eq (ds : Drivers) (b : Backend) :
    ds.outstanding b = ((ds.connectCalls b).countP ConnectCall.accepted : Int) - ds.closes b := by
  unfold outstanding connectCalls closes viewOn
  cases ds.get? b with
  | none => rfl
  | some d => rfl

/-- The sum of a count over the drivers. -/
def total (count : ScriptedDriver → Nat) (ds : Drivers) : Nat :=
  ((ds.get? .native).map count).getD 0 + ((ds.get? .odbc).map count).getD 0

/-- What the drivers have to close is what they opened less what they were told to close. -/
lemma total_opens_sub_closes (ds : Drivers) :
    (ds.total ScriptedDriver.opens : Int) - ds.total (fun d => d.record.closes) =
      ds.outstanding .native + ds.outstanding .odbc := by
  unfold total outstanding ScriptedDriver.outstanding
  cases ds.get? .native <;> cases ds.get? .odbc <;>
    simp only [Option.map_none, Option.map_some, Option.getD_none, Option.getD_some] <;> omega

/-- What is still to be closed changes from one moment to another just as what is held does, and the
same backends have a driver. -/
structure Tracks (ds ds' : Drivers) (held held' : Backend → Int) : Prop where
  /-- No driver was installed or removed. -/
  installed : ∀ b, (ds'.get? b).isSome = (ds.get? b).isSome
  /-- What is to be closed beyond what is held stays the same. -/
  outstanding : ∀ b, ds'.outstanding b - held' b = ds.outstanding b - held b

namespace Tracks

variable {ds ds' ds'' : Drivers} {held held' held'' : Backend → Int}

/-- Nothing changes between a moment and itself. -/
lemma refl (ds : Drivers) (held : Backend → Int) : ds.Tracks ds held held :=
  ⟨fun _ => rfl, fun _ => rfl⟩

/-- Changes one after the other. -/
lemma trans (h : ds.Tracks ds' held held') (h' : ds'.Tracks ds'' held' held'') :
    ds.Tracks ds'' held held'' :=
  ⟨fun b => (h'.installed b).trans (h.installed b),
    fun b => (h'.outstanding b).trans (h.outstanding b)⟩

end Tracks

/-- In a quiet stretch nothing changes. -/
lemma Quiet.tracks {ds ds' : Drivers} (h : ds.Quiet ds') (held : Backend → Int) :
    ds.Tracks ds' held held :=
  ⟨h.installed, fun b => by
    rw [outstanding_eq, outstanding_eq, h.connectCalls, h.closes]⟩

/-- What is still to be closed changes by what changes of the one driver that is replaced. -/
lemma tracks_set {ds : Drivers} {b : Backend} {d d' : ScriptedDriver} {held held' : Backend → Int}
    (hd : ds.get? b = some d) (hself : d'.outstanding - held' b = d.outstanding - held b)
    (hother : ∀ b', b ≠ b' → held' b' = held b') : ds.Tracks (ds.set b d') held held' := by
  refine ⟨fun b' => ?_, fun b' => ?_⟩
  · by_cases hb : b = b'
    · subst hb
      simp [hd]
    · rw [get?_set_other ds _ hb]
  · by_cases hb : b = b'
    · subst hb
      simpa [outstanding, hd] using hself
    · rw [outstanding, get?_set_other ds _ hb, hother b' hb, outstanding]

/-- What is still to be closed changes by what the act of a driver changes that is there. -/
lemma tracks_act {α : Type} {ds : Drivers} {b : Backend} {d : ScriptedDriver} (default : α)
    (f : ScriptedDriver → α × ScriptedDriver) {held held' : Backend → Int}
    (hd : ds.get? b = some d)
    (hself : (f d).2.outstanding - held' b = d.outstanding - held b)
    (hother : ∀ b', b ≠ b' → held' b' = held b') :
    ds.Tracks (ds.act b default f).2 held held' := by
  rw [act_of_get?_eq_some hd]
  exact tracks_set hd hself hother

/-- An act that leaves every driver as many connections to be closed changes nothing. -/
lemma tracks_act_of_eq {α : Type} (ds : Drivers) (b : Backend) (default : α)
    {f : ScriptedDriver → α × ScriptedDriver} (held : Backend → Int)
    (hf : ∀ d, (f d).2.outstanding = d.outstanding) :
    ds.Tracks (ds.act b default f).2 held held := by
  cases hd : ds.get? b with
  | none =>
    rw [act_of_get?_eq_none hd]
    exact .refl ds held
  | some d => exact tracks_act default f hd (by rw [hf d]) fun _ _ => rfl

end Drivers

end WarehouseAccess
