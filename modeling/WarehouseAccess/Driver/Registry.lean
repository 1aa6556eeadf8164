import WarehouseAccess.Driver.Script
/-!
# Choosing a backend

The host installs drivers; a profile and the environment say which is wanted.  An explicit
preference never yields the other backend; without one the native backend is taken where its driver
is installed and can run, and else the one behind the driver manager.

The choice is remembered together with the preference that led to it.
-/

namespace WarehouseAccess

/-- Why a backend cannot be had. -/
inductive BackendError where
  | invalidPreference (why : InvalidSetting)
  | unavailable (backend : Backend) (reason : String)
deriving DecidableEq, Repr

/-- The name of an error's kind. -/
def BackendError.kind : BackendError → String
  | invalidPreference _ => "InvalidPreference"
  | unavailable .. => "Unavailable"

/-- The wording of an error. -/
def BackendError.message : BackendError → String
  | invalidPreference why => "Invalid configuration: " ++ why.message
  | unavailable backend reason =>
    backend.text ++ " driver backend is not available: " ++ reason

/-- The drivers that are installed. -/
structure Drivers where
  native : Option ScriptedDriver := none
  odbc : Option ScriptedDriver := none
deriving DecidableEq, Repr

namespace Drivers

/-- The driver of a backend. -/
def get? (ds : Drivers) : Backend → Option ScriptedDriver
  | .native => ds.native
  | .odbc => ds.odbc

/-- Installs the driver of a backend in place of an earlier one. -/
def set (ds : Drivers) (b : Backend) (d : ScriptedDriver) : Drivers :=
  match b with
  | .native => { ds with native := some d }
  | .odbc => { ds with odbc := some d }

/-- The driver that was installed is the one of its backend. -/
@[simp]
theorem get?_set_self (ds : Drivers) (b : Backend) (d : ScriptedDriver) :
    (ds.set b d).get? b = some d := by
  cases b <;> rfl

/-- Installing a driver leaves the other backend as it is. -/
theorem get?_set_other (ds : Drivers) {b b' : Backend} (d : ScriptedDriver) (h : b ≠ b') :
    (ds.set b d).get? b' = ds.get? b' := by
  cases b <;> cases b' <;> first | rfl | exact absurd rfl h

/-- Lets the driver of a backend act; a backend without a driver gives the default. -/
def act {α : Type} (ds : Drivers) (b : Backend) (default : α)
    (f : ScriptedDriver → α × ScriptedDriver) : α × Drivers :=
  match ds.get? b with
  | none => (default, ds)
  | some d =>
    let (a, d) := f d
    (a, ds.set b d)

/-- The backends with a driver. -/
def installed (ds : Drivers) : List Backend :=
  [Backend.native, Backend.odbc].filter fun b => (ds.get? b).isSome

/-- A backend can be had: its driver is installed and can run. -/
def probe (ds : Drivers) (b : Backend) : Except BackendError Backend :=
  match ds.get? b with
  | none => .error (.unavailable b "driver is not installed")
  | some d =>
    match d.script.unsupported with
    | some reason => .error (.unavailable b reason)
    | none => .ok b

/-- The backend for a preference. -/
def resolve (ds : Drivers) : DriverPreference → Except BackendError Backend
  | .native => ds.probe .native
  | .odbc => ds.probe .odbc
  | .auto =>
    match ds.probe .native with
    | .ok b => .ok b
    | .error _ => ds.probe .odbc

/-- The backend for a setting of the profile and an override of the environment. -/
def resolveEffective (ds : Drivers) (setting : DriverPreference) (override : Option String) :
    Except BackendError Backend :=
  match setting.effective override with
  | .error why => .error (.invalidPreference why)
  | .ok preference => ds.resolve preference

end Drivers

/-- The last choice that was made: the preference and the backend it led to. -/
abbrev ResolverCache := Option (DriverPreference × Backend)

namespace ResolverCache

/-- The backend for a preference, from memory where the last choice was for the same one. -/
def resolve (cache : ResolverCache) (ds : Drivers) (preference : DriverPreference) :
    Except BackendError Backend × ResolverCache :=
  match cache with
  | some (p, b) =>
    if p = preference then (.ok b, cache)
    else
      match ds.resolve preference with
      | .ok b => (.ok b, some (preference, b))
      | .error e => (.error e, cache)
  | none =>
    match ds.resolve preference with
    | .ok b => (.ok b, some (preference, b))
    | .error e => (.error e, none)

/-- The backend for a setting and an override. -/
def resolveEffective (cache : ResolverCache) (ds : Drivers) (setting : DriverPreference)
    (override : Option String) : Except BackendError Backend × ResolverCache :=
  match setting.effective override with
  | .error why => (.error (.invalidPreference why), cache)
  | .ok preference => cache.resolve ds preference

end ResolverCache

namespace Drivers

/-- Sets the pooling of a backend's driver.  The native driver pools by itself, so it is told only
to do so. -/
def configurePooling (ds : Drivers) (b : Backend) (enabled : Bool) (max : Nat) : Drivers :=
  match ds.get? b with
  | none => ds
  | some d =>
    match b with
    | .native => if enabled then ds.set b (d.setPooling true max) else ds
    | .odbc => ds.set b (d.setPooling enabled max)

end Drivers

/-- The description of the installed drivers. -/
def Drivers.describe (ds : Drivers) : String :=
  "DriverRegistry \x7b drivers: [" ++
    String.intercalate ", " (ds.installed.map fun b => quoted b.text) ++ "] \x7d"

/-- The description of a backend with its driver. -/
def Backend.describe (b : Backend) : String :=
  "DriverBackend \x7b kind: " ++ b.tag ++ ", driver: " ++ quoted b.text ++ " \x7d"

end WarehouseAccess
