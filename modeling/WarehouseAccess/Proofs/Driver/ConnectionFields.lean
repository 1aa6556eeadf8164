import Mathlib.Tactic.Common
import WarehouseAccess.Driver.Backend

/-!
# What connection strings hold

The connection strings for both drivers are made from the same target and have to say the same.  The
driver manager is given the fields of the native driver and three of its own; what differs besides
is the spelling of two keys, and that user and secret stand in braces.

`ConnectionTarget.Holds` lists, key by key, which values the fields for a backend hold and when, and
`connectionStrings_agree` puts both strings side by side.
-/

namespace WarehouseAccess

/-! ### Fields by their keys -/

/-- The values that fields give for a key, in order. -/
def valuesOf (key : String) (fields : List ConnectionField) : List String :=
  fields.filterMap fun f => if f.key = key then some f.value else none

/-- The values in two parts of a list. -/
lemma valuesOf_append (key : String) (fields fields' : List ConnectionField) :
    valuesOf key (fields ++ fields') = valuesOf key fields ++ valuesOf key fields' :=
  List.filterMap_append

/-- The values of a field and those behind it. -/
lemma valuesOf_cons (key : String) (f : ConnectionField) (fields : List ConnectionField) :
    valuesOf key (f :: fields) =
      (if f.key = key then [f.value] else []) ++ valuesOf key fields := by
  unfold valuesOf
  split_ifs with h <;> simp [h]

/-- No field gives no value. -/
lemma valuesOf_nil (key : String) : valuesOf key [] = [] := rfl

/-- The values of a field that stands there if there is something to say. -/
lemma valuesOf_optional (key key' : String) (value : Option String) (braced : Bool) :
    valuesOf key (value.toList.map fun v => (⟨key', v, braced⟩ : ConnectionField)) =
      if key' = key then value.toList else [] := by
  cases value with
  | none => simp [valuesOf]
  | some v => simp [valuesOf_cons, valuesOf_nil]

/-- Fields joined by semicolons are what stands between them, one after the other. -/
lemma renderFields_eq_intercalate (fields : List ConnectionField) :
    renderFields fields = [';'].intercalate (fields.map ConnectionField.render) := by
  induction fields with
  | nil => rfl
  | cons f fields ih =>
    cases fields with
    | nil => simp [renderFields]
    | cons g fields =>
      rw [renderFields, ih]
      · simp
      · simp

/-! ### Spellings of a backend -/

namespace Backend

/-- The key of the field for integrated login. -/
def trustedKey : Backend → String
  | native => "Trusted_Connection"
  | odbc => "trusted_connection"

/-- The key of the field for encryption. -/
def encryptKey : Backend → String
  | native => "Encrypt"
  | odbc => "encrypt"

/-- The keys that a connection string can have. -/
def keys (b : Backend) : List String :=
  (match b with
    | native => []
    | odbc => ["DRIVER", "Pooling", "SQL_ATTR_TRACE"]) ++
  ["SERVER", "Database", b.trustedKey, "Authentication", "UID", "PWD", b.encryptKey,
    "TrustServerCertificate", "APP", "ConnectRetryCount", "ConnectRetryInterval"]

end Backend

namespace ConnectionTarget

/-- The connection names its authentication mode. -/
def namesMode (t : ConnectionTarget) : Bool := !t.windowsLogin && t.authentication.emitsField

/-- What the fields for a backend hold, key by key. -/
structure Holds (t : ConnectionTarget) (b : Backend) (fields : List ConnectionField) : Prop where
  server : valuesOf "SERVER" fields = [t.host]
  database : valuesOf "Database" fields = [t.database]
  /-- Integrated login is asked for just when the flag is set. -/
  trusted : valuesOf b.trustedKey fields = if t.windowsLogin then ["Yes"] else []
  /-- Otherwise the mode is named if it is one of those that are. -/
  authentication : valuesOf "Authentication" fields =
    if t.namesMode then [t.authentication.text] else []
  /-- Beside the mode stands the user, where the mode needs one and there is one. -/
  user : valuesOf "UID" fields =
    if t.namesMode && t.authentication.needsLoginHint then t.uid.toList else []
  /-- And the secret, where the mode needs one and there is one. -/
  secret : valuesOf "PWD" fields =
    if t.namesMode && t.authentication.needsSecret then t.pwd.toList else []
  encryption : valuesOf b.encryptKey fields = [if t.encrypt then "Yes" else "No"]
  trust : valuesOf "TrustServerCertificate" fields = [if t.trustCert then "Yes" else "No"]
  application : valuesOf "APP" fields = [t.applicationName]
  retryCount : valuesOf "ConnectRetryCount" fields = ["3"]
  retryInterval : valuesOf "ConnectRetryInterval" fields = ["10"]
  /-- There are no other fields. -/
  keys : ∀ f ∈ fields, f.key ∈ b.keys

/-- The values of the fields that say how to sign in. -/
lemma valuesOf_loginFields (t : ConnectionTarget) (key trustedKey : String) (braced : Bool) :
    valuesOf key (t.loginFields trustedKey braced) =
      (if trustedKey = key ∧ t.windowsLogin = true then ["Yes"] else []) ++
      (if "Authentication" = key ∧ t.namesMode = true then [t.authentication.text] else []) ++
      (if "UID" = key ∧ (t.namesMode && t.authentication.needsLoginHint) = true then t.uid.toList
        else []) ++
      (if "PWD" = key ∧ (t.namesMode && t.authentication.needsSecret) = true then t.pwd.toList
        else []) := by
  unfold loginFields namesMode
  cases t.windowsLogin with
  | true => simp [valuesOf_cons, valuesOf_nil]
  | false =>
    cases t.authentication.emitsField with
    | false => simp [valuesOf_nil]
    | true =>
      cases t.authentication.needsLoginHint <;> cases t.authentication.needsSecret <;>
        simp [valuesOf_cons, valuesOf_append, valuesOf_optional, valuesOf_nil]

/-- What is true of the fields that say how to sign in. -/
lemma forall_mem_loginFields_iff (t : ConnectionTarget) (trustedKey : String) (braced : Bool)
    (P : ConnectionField → Prop) :
    (∀ f ∈ t.loginFields trustedKey braced, P f) ↔
      (t.windowsLogin = true → P ⟨trustedKey, "Yes", false⟩) ∧
      (t.namesMode = true → P ⟨"Authentication", t.authentication.text, false⟩) ∧
      ((t.namesMode && t.authentication.needsLoginHint) = true →
        ∀ uid ∈ t.uid, P ⟨"UID", uid, braced⟩) ∧
      ((t.namesMode && t.authentication.needsSecret) = true →
        ∀ pwd ∈ t.pwd, P ⟨"PWD", pwd, braced⟩) := by
  unfold loginFields namesMode
  cases t.windowsLogin with
  | true => simp
  | false =>
    cases t.authentication.emitsField with
    | false => simp
    | true =>
      cases t.authentication.needsLoginHint <;> cases t.authentication.needsSecret <;>
        simp [or_imp, forall_and]

/-- The fields for a backend have its keys only. -/
lemma key_of_mem_fields {t : ConnectionTarget} {b : Backend} {f : ConnectionField}
    (h : f ∈ b.fields t) : f.key ∈ b.keys := by
  have hlogin (braced : Bool) : ∀ f ∈ t.loginFields b.trustedKey braced, f.key ∈ b.keys := by
    refine (t.forall_mem_loginFields_iff _ _ _).mpr ⟨?_, ?_, ?_, ?_⟩ <;> simp [Backend.keys]
  have hfinal : ∀ f ∈ t.finalFields b.encryptKey, f.key ∈ b.keys := by
    simp [finalFields, Backend.keys]
  cases b with
  | native =>
    rcases List.mem_append.mp h with h | h
    · rcases List.mem_append.mp h with h | h
      · simp only [List.mem_cons, List.not_mem_nil, or_false] at h
        rcases h with rfl | rfl <;> simp [Backend.keys]
      · exact hlogin false f h
    · exact hfinal f h
  | odbc =>
    rcases List.mem_append.mp h with h | h
    · rcases List.mem_append.mp h with h | h
      · simp only [List.mem_cons, List.not_mem_nil, or_false] at h
        rcases h with rfl | rfl | rfl | rfl | rfl <;> simp [Backend.keys]
      · exact hlogin true f h
    · exact hfinal f h

/-- The fields for a backend hold what they should. -/
lemma holds_fields (t : ConnectionTarget) (b : Backend) : t.Holds b (b.fields t) := by
  constructor
  case keys => exact fun f hf => key_of_mem_fields hf
  all_goals
    cases b <;>
      simp [Backend.fields, nativeFields, odbcFields, finalFields, valuesOf_append, valuesOf_cons,
        valuesOf_nil, valuesOf_loginFields, Backend.trustedKey, Backend.encryptKey, yesNo]

end ConnectionTarget

/-! ### The fields for the driver manager -/

/-- A field for the native driver as the driver manager is given it: two keys are in lower case, and
user and secret stand in braces. -/
def ConnectionField.managed (f : ConnectionField) : ConnectionField where
  key :=
    if f.key = "Trusted_Connection" then "trusted_connection"
    else if f.key = "Encrypt" then "encrypt"
    else f.key
  value := f.value
  braced := f.key == "UID" || f.key == "PWD"

namespace ConnectionTarget

/-- The field that stands first for the driver manager. -/
def driverField (t : ConnectionTarget) : ConnectionField :=
  ⟨"DRIVER", t.driver.getD defaultDriverName, true⟩

/-- The fields that stand behind the database for the driver manager. -/
def poolingFields (t : ConnectionTarget) : List ConnectionField :=
  [⟨"Pooling", "true", false⟩,
    ⟨"SQL_ATTR_TRACE", if t.traceFlag then "SQL_OPT_TRACE_ON" else "SQL_OPT_TRACE_OFF", false⟩]

/-- The fields for the driver manager, made from those for the native driver: the name of the driver
is put first, and pooling and tracing right behind the database. -/
def managedFields (t : ConnectionTarget) (fields : List ConnectionField) : List ConnectionField :=
  t.driverField :: fields.flatMap fun f =>
    f.managed :: if f.key = "Database" then t.poolingFields else []

/-- No field for the native driver stands in braces. -/
lemma braced_of_mem_nativeFields {t : ConnectionTarget} {f : ConnectionField}
    (h : f ∈ t.nativeFields) : f.braced = false := by
  unfold nativeFields at h
  rcases List.mem_append.mp h with h | h
  · rcases List.mem_append.mp h with h | h
    · simp only [List.mem_cons, List.not_mem_nil, or_false] at h
      rcases h with rfl | rfl <;> rfl
    · refine (t.forall_mem_loginFields_iff _ _ fun f => f.braced = false).mpr ?_ f h
      exact ⟨fun _ => rfl, fun _ => rfl, fun _ _ _ => rfl, fun _ _ _ => rfl⟩
  · simp only [finalFields, List.mem_cons, List.not_mem_nil, or_false] at h
    rcases h with rfl | rfl | rfl | rfl | rfl <;> rfl

/-- The fields for the driver manager are made from those for the native driver. -/
lemma odbcFields_eq_managedFields (t : ConnectionTarget) :
    t.odbcFields = t.managedFields t.nativeFields := by
  have hlogin : (t.loginFields "Trusted_Connection" false).flatMap (fun f =>
      f.managed :: if f.key = "Database" then t.poolingFields else []) =
        t.loginFields "trusted_connection" true := by
    unfold loginFields
    cases t.windowsLogin with
    | true => rfl
    | false =>
      cases t.authentication.emitsField with
      | false => rfl
      | true =>
        cases t.authentication.needsLoginHint <;> cases t.authentication.needsSecret <;>
          cases t.uid <;> cases t.pwd <;> rfl
  have hfinal : (t.finalFields "Encrypt").flatMap (fun f =>
      f.managed :: if f.key = "Database" then t.poolingFields else []) =
        t.finalFields "encrypt" := rfl
  rw [odbcFields, managedFields, nativeFields, List.flatMap_append, List.flatMap_append, hlogin,
    hfinal]
  rfl

/-- For every target the strings for both drivers are refused, or both are made.  They are refused,
for the same reason, just when the mode is that of a database user and integrated login is not asked
for.  Otherwise the driver manager is given the fields of the native driver as `managedFields` makes
them over, none of which stood in braces before, and the fields of both hold the same. -/
theorem connectionStrings_agree (t : ConnectionTarget) :
    let text (fields : List ConnectionField) : String :=
      String.ofList ([';'].intercalate (fields.map ConnectionField.render))
    if t.windowsLogin = false ∧ t.authentication = .sql then
      ∀ b : Backend, b.connectionString t =
        .error ⟨.database, "SQL Authentication is not supported by Microsoft Fabric"⟩
    else ∃ fields : List ConnectionField,
      Backend.native.connectionString t = .ok (text fields) ∧
      Backend.odbc.connectionString t = .ok (text (t.managedFields fields)) ∧
      (∀ f ∈ fields, f.braced = false) ∧
      t.Holds .native fields ∧ t.Holds .odbc (t.managedFields fields) := by
  intro text
  have hstring (b : Backend) : b.connectionString t =
      if t.IsRefused then .error refusal else .ok (text (b.fields t)) := by
    unfold Backend.connectionString
    rw [renderFields_eq_intercalate]
  have hmanaged : t.managedFields t.nativeFields = Backend.odbc.fields t :=
    t.odbcFields_eq_managedFields.symm
  split_ifs with hrefused
  · intro b
    rw [hstring, if_pos (show t.IsRefused from hrefused)]
    rfl
  · have haccepted : ¬ t.IsRefused := hrefused
    refine ⟨t.nativeFields, ?_, ?_, fun f hf => braced_of_mem_nativeFields hf,
      t.holds_fields .native, ?_⟩
    · rw [hstring, if_neg haccepted]
      rfl
    · rw [hstring, if_neg haccepted, hmanaged]
    · rw [hmanaged]
      exact t.holds_fields .odbc

end ConnectionTarget

end WarehouseAccess
