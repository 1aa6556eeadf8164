import Mathlib.Data.List.TakeWhile
import Mathlib.Tactic.Common
import WarehouseAccess.Proofs.Driver.ConnectionFields

/-!
# How drivers read connection strings

A driver takes a connection string apart again: fields `key=value` between semicolons, where a value
that starts with an opening brace (`'\x7b'`) runs to the first closing brace (`'\x7d'`) that is not
doubled, and a doubled one stands for a single one.  `readConnectionString` is that reader.

Values are written as they are: no closing brace is doubled inside of braces, and nothing keeps a
semicolon from standing outside of them.  So what a driver reads is what was written just when every
value is legible, as `read_connectionString` says.  A user name that is not can write fields of its
own, one that turns encryption off among them: `encryption_from_user`.

### Outline

`readBraced_eq_some_iff` says which texts are read as which value in braces.  From it follow the two
lemmas about one value, `readValue_of_legible` and `legible_of_readValue`: a legible value is read
back, and no other is, whatever stands behind it.  `readFields_renderFields` carries both along the
list of fields.
-/

namespace WarehouseAccess

/-! ### Values in braces -/

/-- Reads a value behind its opening brace, up to the first closing brace that is not doubled; the
second part is what stands behind it. -/
def readBraced : List Char → Option (List Char × List Char)
  | '\x7d' :: '\x7d' :: text => (readBraced text).map fun (value, rest) => ('\x7d' :: value, rest)
  | '\x7d' :: rest => some ([], rest)
  | c :: text => (readBraced text).map fun (value, rest) => (c :: value, rest)
  | [] => none

/-- A value with its closing braces doubled. -/
def doubled : List Char → List Char
  | [] => []
  | c :: value => if c = '\x7d' then c :: c :: doubled value else c :: doubled value

/-- A value without closing braces has none to double. -/
lemma doubled_of_not_mem {value : List Char} (h : '\x7d' ∉ value) : doubled value = value := by
  induction value with
  | nil => rfl
  | cons c value ih =>
    rw [List.mem_cons, not_or] at h
    rw [doubled, if_neg (Ne.symm h.1), ih h.2]

/-- A value in braces is read from the texts that start with it, its closing braces doubled, and a
last one that is not. -/
lemma readBraced_eq_some_iff {text value rest : List Char} :
    readBraced text = some (value, rest) ↔
      text = doubled value ++ '\x7d' :: rest ∧ rest.head? ≠ some '\x7d' := by
  constructor
  · intro h
    fun_induction readBraced text generalizing value with
    -- a doubled brace is a brace of the value
    | case1 text ih =>
      obtain ⟨⟨value', rest'⟩, hread, heq⟩ := Option.map_eq_some_iff.mp h
      cases heq
      obtain ⟨rfl, hrest⟩ := ih hread
      exact ⟨rfl, hrest⟩
    -- a single one ends it
    | case2 rest' hne =>
      cases h
      refine ⟨rfl, fun hhead => ?_⟩
      obtain ⟨text, rfl⟩ := List.head?_eq_some_iff.mp hhead
      exact hne text rfl
    | case3 c text hne hc ih =>
      obtain ⟨⟨value', rest'⟩, hread, heq⟩ := Option.map_eq_some_iff.mp h
      cases heq
      obtain ⟨rfl, hrest⟩ := ih hread
      exact ⟨by rw [doubled, if_neg hc, List.cons_append], hrest⟩
    | case4 => cases h
  · rintro ⟨rfl, hrest⟩
    induction value with
    | nil =>
      cases rest with
      | nil => rfl
      | cons c rest =>
        have hc : c ≠ '\x7d' := fun h => hrest (by rw [h, List.head?_cons])
        simp [doubled, readBraced, hc]
    | cons c value ih =>
      by_cases hc : c = '\x7d'
      · simp [doubled, readBraced, hc, ih]
      · simp [doubled, readBraced, hc, ih]

example : readBraced "a\x7d\x7d;b\x7d;c".toList = some ("a\x7d;b".toList, ";c".toList) := by decide

/-! ### The reader -/

/-- Reads a value, in braces or up to the next semicolon. -/
def readValue : List Char → Option (List Char × List Char)
  | '\x7b' :: text => readBraced text
  | text => some (text.takeWhile (· ≠ ';'), text.dropWhile (· ≠ ';'))

/-- A character that can stand in a key. -/
def standsInKey (c : Char) : Bool := c ≠ '=' && c ≠ ';'

/-- Reads a field: its key, which goes up to the equals sign, and its value. -/
def readField (text : List Char) : Option ((String × String) × List Char) :=
  match text.dropWhile standsInKey with
  | '=' :: behind =>
    (readValue behind).map fun (value, rest) =>
      ((String.ofList (text.takeWhile standsInKey), String.ofList value), rest)
  | _ => none

/-- A value takes nothing that is not there. -/
lemma length_of_readValue {text value rest : List Char}
    (h : readValue text = some (value, rest)) : rest.length ≤ text.length := by
  unfold readValue at h
  split at h
  case h_1 text =>
    obtain ⟨rfl, -⟩ := readBraced_eq_some_iff.mp h
    simp only [List.length_cons, List.length_append]
    omega
  case h_2 text _ =>
    cases h
    exact List.length_dropWhile_le _ _

/-- A field takes something of the text. -/
lemma length_of_readField {text rest : List Char} {entry : String × String}
    (h : readField text = some (entry, rest)) : rest.length < text.length := by
  unfold readField at h
  split at h
  case h_1 behind hdrop =>
    obtain ⟨⟨value, rest'⟩, hvalue, heq⟩ := Option.map_eq_some_iff.mp h
    cases heq
    have hrest := length_of_readValue hvalue
    have hbehind := List.length_dropWhile_le standsInKey text
    rw [hdrop, List.length_cons] at hbehind
    omega
  case h_2 => cases h

/-- Reads the fields of a text; behind each has to stand a semicolon or nothing. -/
def readFields (text : List Char) : Option (List (String × String)) :=
  if text = [] then some []
  else match h : readField text with
    | some (entry, []) => some [entry]
    | some (entry, ';' :: rest) =>
      have := length_of_readField h
      (readFields rest).map (entry :: ·)
    | _ => none
termination_by text.length
decreasing_by
  simp only [List.length_cons] at this
  omega

/-- What a driver reads: the keys of the fields with their values. -/
def readConnectionString (text : String) : Option (List (String × String)) :=
  readFields text.toList

/-- The values that were read for a key, in order. -/
def valuesRead (key : String) (entries : List (String × String)) : List String :=
  (entries.filter fun e => e.1 = key).map Prod.snd

/-! ### Reading one value -/

/-- A value that is written without braces is read back: no semicolon ends it, and it does not open
braces itself. -/
def StandsBare (value : String) : Prop :=
  ';' ∉ value.toList ∧ value.toList.head? ≠ some '\x7b'

/-- A value that is written in braces is read back: none of its characters closes them. -/
def StandsBraced (value : String) : Prop := '\x7d' ∉ value.toList

instance (value : String) : Decidable (StandsBare value) := inferInstanceAs (Decidable (_ ∧ _))

instance (value : String) : Decidable (StandsBraced value) := inferInstanceAs (Decidable (_ ∉ _))

namespace ConnectionField

/-- The value of a field is read back. -/
def Legible (f : ConnectionField) : Prop :=
  if f.braced then StandsBraced f.value else StandsBare f.value

instance (f : ConnectionField) : Decidable f.Legible :=
  inferInstanceAs (Decidable (if f.braced then StandsBraced f.value else StandsBare f.value))

/-- A field without braces is legible if its value stands for itself without them. -/
@[simp] lemma legible_bare_iff (key value : String) :
    (⟨key, value, false⟩ : ConnectionField).Legible ↔ StandsBare value := by
  simp [Legible]

/-- And a field in braces, if its value does so within them. -/
@[simp] lemma legible_braced_iff (key value : String) :
    (⟨key, value, true⟩ : ConnectionField).Legible ↔ StandsBraced value := by
  simp [Legible]

/-- What a driver should read. -/
def entry (f : ConnectionField) : String × String := (f.key, f.value)

/-- The value as it is written. -/
def written (f : ConnectionField) : List Char :=
  if f.braced then '\x7b' :: (f.value.toList ++ ['\x7d']) else f.value.toList

/-- A field is its key, the equals sign and its value. -/
lemma render_eq (f : ConnectionField) : f.render = f.key.toList ++ '=' :: f.written := rfl

end ConnectionField

/-- What can stand behind a value: another field, or nothing. -/
def EndsValue (rest : List Char) : Prop := ∀ c ∈ rest.head?, c = ';'

/-- A value that does not open braces goes up to the next semicolon. -/
lemma readValue_of_head_ne {text : List Char} (h : text.head? ≠ some '\x7b') :
    readValue text = some (text.takeWhile (· ≠ ';'), text.dropWhile (· ≠ ';')) := by
  unfold readValue
  split
  case h_1 => exact absurd rfl h
  case h_2 => rfl

/-- A text is taken apart where its characters stop to be of a kind. -/
lemma takeWhile_dropWhile_append {kind : Char → Bool} {front rest : List Char}
    (hfront : ∀ c ∈ front, kind c = true) (hrest : ∀ c ∈ rest.head?, kind c = false) :
    (front ++ rest).takeWhile kind = front ∧ (front ++ rest).dropWhile kind = rest := by
  rw [List.takeWhile_append_of_pos hfront, List.dropWhile_append_of_pos hfront]
  cases rest with
  | nil => simp
  | cons c rest =>
    have hc : kind c = false := hrest c rfl
    simp [hc]

/-- What stands behind a value does not open braces. -/
lemma EndsValue.head?_append_ne {value rest : List Char} (h : EndsValue rest)
    (hvalue : value.head? ≠ some '\x7b') : (value ++ rest).head? ≠ some '\x7b' := by
  cases value with
  | nil => exact fun hhead => absurd (h _ hhead) (by decide)
  | cons c value => exact hvalue

/-- A legible value is read back. -/
lemma readValue_of_legible {f : ConnectionField} {rest : List Char} (h : f.Legible)
    (hrest : EndsValue rest) : readValue (f.written ++ rest) = some (f.value.toList, rest) := by
  unfold ConnectionField.Legible at h
  unfold ConnectionField.written
  split_ifs at h ⊢
  · have hread : readBraced (f.value.toList ++ '\x7d' :: rest) = some (f.value.toList, rest) := by
      refine readBraced_eq_some_iff.mpr ⟨by rw [doubled_of_not_mem h], fun hhead => ?_⟩
      exact absurd (hrest _ hhead) (by decide)
    simpa [readValue] using hread
  · obtain ⟨hsemicolon, hbrace⟩ := h
    have hvalue : ∀ c ∈ f.value.toList, decide (c ≠ ';') = true := by
      intro c hc
      exact decide_eq_true fun h => hsemicolon (h ▸ hc)
    have hstops : ∀ c ∈ rest.head?, decide (c ≠ ';') = false := by
      intro c hc
      simp [hrest c hc]
    obtain ⟨htake, hdrop⟩ := takeWhile_dropWhile_append hvalue hstops
    rw [readValue_of_head_ne (hrest.head?_append_ne hbrace), htake, hdrop]

/-- A value that opens braces itself is not found behind them: each of its characters would have to
be an opening brace, and so would what ends it. -/
lemma ne_opening_append {value rest behind : List Char} (hrest : EndsValue rest) :
    value ++ rest ≠ '\x7b' :: (doubled value ++ '\x7d' :: behind) := by
  induction value with
  | nil =>
    rintro rfl
    exact absurd (hrest _ rfl) (by decide)
  | cons c value ih =>
    intro h
    obtain ⟨rfl, h⟩ := List.cons.inj h
    exact ih h

/-- Where a closing brace was not doubled, the value is not found: each of the characters behind it
would have to be a closing brace, and so would what stands behind the value. -/
lemma ne_replicate_append {value rest behind : List Char} (n : ℕ)
    (hrest : rest.head? ≠ some '\x7d') :
    value ++ '\x7d' :: rest ≠
      List.replicate (n + 1) '\x7d' ++ (doubled value ++ '\x7d' :: behind) := by
  induction value generalizing n with
  | nil =>
    intro h
    have hbehind : rest = List.replicate n '\x7d' ++ '\x7d' :: behind := (List.cons.inj h).2
    refine hrest ?_
    rw [hbehind]
    cases n <;> rfl
  | cons c value ih =>
    intro h
    obtain ⟨rfl, h⟩ := List.cons.inj h
    refine ih (n + 1) (h.trans ?_)
    simp [doubled, List.replicate_succ']

/-- Doubling goes through a value part by part. -/
lemma doubled_append (value value' : List Char) :
    doubled (value ++ value') = doubled value ++ doubled value' := by
  induction value with
  | nil => rfl
  | cons c value ih =>
    rw [List.cons_append, doubled, doubled]
    split_ifs <;> simp [ih]

/-- Only legible values are read back, whatever stands behind them. -/
lemma legible_of_readValue {f : ConnectionField} {rest behind : List Char} (hrest : EndsValue rest)
    (h : readValue (f.written ++ rest) = some (f.value.toList, behind)) : f.Legible := by
  unfold ConnectionField.Legible
  unfold ConnectionField.written at h
  split_ifs at h ⊢
  · -- within braces, a single closing one would end the value early
    intro hmem
    obtain ⟨before, value, hvalue, hbefore⟩ := List.eq_append_cons_of_mem hmem
    have hread : readBraced (f.value.toList ++ '\x7d' :: rest) = some (f.value.toList, behind) := by
      simpa [readValue] using h
    have htext := (readBraced_eq_some_iff.mp hread).1
    rw [hvalue, doubled_append, doubled_of_not_mem hbefore, List.append_assoc, List.append_assoc]
      at htext
    have hvalue : value ++ '\x7d' :: rest = '\x7d' :: (doubled value ++ '\x7d' :: behind) :=
      (List.cons.inj (List.append_cancel_left htext)).2
    exact ne_replicate_append 0 (fun hhead => absurd (hrest _ hhead) (by decide)) hvalue
  · -- without braces, a leading one would be taken for theirs, and a separator would end the value
    have hbrace : f.value.toList.head? ≠ some '\x7b' := by
      intro hhead
      obtain ⟨value, hvalue⟩ := List.head?_eq_some_iff.mp hhead
      have hread : readBraced (value ++ rest) = some ('\x7b' :: value, behind) := by
        rw [hvalue] at h
        exact h
      exact ne_opening_append hrest (readBraced_eq_some_iff.mp hread).1
    refine ⟨fun hmem => ?_, hbrace⟩
    rw [readValue_of_head_ne (hrest.head?_append_ne hbrace), Option.some.injEq, Prod.mk.injEq] at h
    rw [← h.1] at hmem
    exact absurd (List.mem_takeWhile_imp hmem) (by decide)

/-! ### Reading all fields -/

/-- A key that is read back. -/
def KeyStands (key : String) : Prop := ∀ c ∈ key.toList, standsInKey c = true

instance (key : String) : Decidable (KeyStands key) :=
  List.decidableBAll (fun c => standsInKey c = true) key.toList

/-- A field is read back just when its value is. -/
lemma readField_render_iff {f : ConnectionField} (hkey : KeyStands f.key)
    {rest behind : List Char} :
    readField (f.render ++ rest) = some (f.entry, behind) ↔
      readValue (f.written ++ rest) = some (f.value.toList, behind) := by
  have hstops : ∀ c ∈ ('=' :: (f.written ++ rest)).head?, standsInKey c = false := by
    rintro c ⟨⟩
    rfl
  obtain ⟨htake, hdrop⟩ := takeWhile_dropWhile_append hkey hstops
  have hread : readField (f.render ++ rest) =
      (readValue (f.written ++ rest)).map fun (value, behind) =>
        ((f.key, String.ofList value), behind) := by
    rw [f.render_eq, List.append_assoc, List.cons_append]
    unfold readField
    rw [hdrop, htake, String.ofList_toList]
    rfl
  rw [hread, Option.map_eq_some_iff]
  constructor
  · rintro ⟨⟨value, behind'⟩, hvalue, heq⟩
    simp only [ConnectionField.entry, Prod.mk.injEq, true_and] at heq
    obtain ⟨hf, rfl⟩ := heq
    rw [hvalue, ← hf, String.toList_ofList]
  · intro hvalue
    exact ⟨_, hvalue, by simp [ConnectionField.entry]⟩

/-- What stands behind the first of some fields. -/
def renderBehind : List ConnectionField → List Char
  | [] => []
  | fields => ';' :: renderFields fields

/-- The first field and what stands behind it. -/
lemma renderFields_cons (f : ConnectionField) (fields : List ConnectionField) :
    renderFields (f :: fields) = f.render ++ renderBehind fields := by
  cases fields <;> simp [renderFields, renderBehind]

/-- Another field or nothing stands behind the first one. -/
lemma endsValue_renderBehind (fields : List ConnectionField) : EndsValue (renderBehind fields) := by
  intro c hc
  cases fields with
  | nil => cases hc
  | cons g fields => exact (Option.some.inj hc).symm

/-- Once the first field is read, the others are. -/
lemma readFields_of_readField {text rest : List Char} {entry : String × String}
    (h : readField text = some (entry, rest)) (hrest : EndsValue rest) :
    readFields text = (readFields rest.tail).map (entry :: ·) := by
  have hne : text ≠ [] := by
    rintro rfl
    cases h
  rw [readFields, if_neg hne]
  split
  case h_1 hfirst =>
    cases hfirst.symm.trans h
    simp [readFields]
  case h_2 hfirst =>
    cases hfirst.symm.trans h
    rfl
  case h_3 hnil hcons =>
    cases rest with
    | nil => exact absurd h (hnil entry)
    | cons c rest =>
      obtain rfl : c = ';' := hrest c rfl
      exact absurd h (hcons entry rest)

/-- Fields that are read start with the first one. -/
lemma exists_of_readFields_eq_cons {text : List Char} {entry : String × String}
    {entries : List (String × String)} (h : readFields text = some (entry :: entries)) :
    ∃ rest, readField text = some (entry, rest) := by
  rw [readFields] at h
  split_ifs at h
  · cases h
  · split at h
    case h_1 hfirst =>
      cases h
      exact ⟨_, hfirst⟩
    case h_2 hfirst =>
      obtain ⟨_, -, heq⟩ := Option.map_eq_some_iff.mp h
      cases heq
      exact ⟨_, hfirst⟩
    case h_3 => cases h

/-- Reading fields that were written: the first by its value, and then the others. -/
lemma readFields_renderFields_cons {f : ConnectionField} (hkey : KeyStands f.key)
    (fields : List ConnectionField) (entries : List (String × String)) :
    readFields (renderFields (f :: fields)) = some (f.entry :: entries) ↔
      f.Legible ∧ readFields (renderFields fields) = some entries := by
  have hbehind := endsValue_renderBehind fields
  have htail : (renderBehind fields).tail = renderFields fields := by cases fields <;> rfl
  have hrest (h : f.Legible) : readFields (f.render ++ renderBehind fields) =
      (readFields (renderFields fields)).map (f.entry :: ·) := by
    have hread := (readField_render_iff hkey).mpr (readValue_of_legible h hbehind)
    rw [readFields_of_readField hread hbehind, htail]
  rw [renderFields_cons]
  constructor
  · intro h
    obtain ⟨rest, hread⟩ := exists_of_readFields_eq_cons h
    have hlegible := legible_of_readValue hbehind ((readField_render_iff hkey).mp hread)
    rw [hrest hlegible] at h
    obtain ⟨entries', hentries, heq⟩ := Option.map_eq_some_iff.mp h
    exact ⟨hlegible, (List.cons.inj heq).2 ▸ hentries⟩
  · rintro ⟨hlegible, hentries⟩
    rw [hrest hlegible, hentries, Option.map_some]

/-- Written fields are read back just when all values are legible. -/
lemma readFields_renderFields {fields : List ConnectionField}
    (hkeys : ∀ f ∈ fields, KeyStands f.key) :
    readFields (renderFields fields) = some (fields.map ConnectionField.entry) ↔
      ∀ f ∈ fields, f.Legible := by
  induction fields with
  | nil => simp [readFields, renderFields]
  | cons f fields ih =>
    obtain ⟨hkey, hkeys⟩ := List.forall_mem_cons.mp hkeys
    rw [List.map_cons, readFields_renderFields_cons hkey, ih hkeys, List.forall_mem_cons]

/-! ### Connection strings -/

/-- The values that should be read for a key are those of the fields. -/
lemma valuesRead_entries (key : String) (fields : List ConnectionField) :
    valuesRead key (fields.map ConnectionField.entry) = valuesOf key fields := by
  induction fields with
  | nil => rfl
  | cons f fields ih =>
    rw [valuesOf_cons, ← ih]
    by_cases hkey : f.key = key <;> simp [valuesRead, ConnectionField.entry, hkey]

/-- A user or secret is read back from the connection string for a backend. -/
def Backend.Stands : Backend → String → Prop
  | .native => StandsBare
  | .odbc => StandsBraced

/-- The keys of all fields are read back. -/
lemma keyStands_of_mem_keys {b : Backend} {key : String} (h : key ∈ b.keys) : KeyStands key := by
  revert key
  cases b <;> decide

namespace ConnectionTarget

/-- Every value that a connection string is made from is read back from it, if it is in it. -/
structure Legible (t : ConnectionTarget) (b : Backend) : Prop where
  host : StandsBare t.host
  database : StandsBare t.database
  application : StandsBare t.applicationName
  mode : t.namesMode = true → StandsBare t.authentication.text
  user : (t.namesMode && t.authentication.needsLoginHint) = true → ∀ uid ∈ t.uid, b.Stands uid
  secret : (t.namesMode && t.authentication.needsSecret) = true → ∀ pwd ∈ t.pwd, b.Stands pwd
  /-- Only the driver manager is given the name of a driver. -/
  driver : b = .odbc → ∀ name ∈ t.driver, StandsBraced name

/-- Of the fields behind the login, only the name of the application might not be legible. -/
lemma forall_legible_finalFields_iff (t : ConnectionTarget) (encryptKey : String) :
    (∀ f ∈ t.finalFields encryptKey, f.Legible) ↔ StandsBare t.applicationName := by
  have hflag (flag : Bool) : StandsBare (yesNo flag) := by cases flag <;> decide
  have hretries : StandsBare "3" ∧ StandsBare "10" := by decide
  simp [finalFields, hflag, hretries]

/-- The driver that is loaded when none is named has a legible name. -/
lemma standsBraced_driver_iff (t : ConnectionTarget) :
    StandsBraced (t.driver.getD defaultDriverName) ↔ ∀ name ∈ t.driver, StandsBraced name := by
  have hdefault : StandsBraced defaultDriverName := by decide
  cases t.driver <;> simp [hdefault]

/-- The fields for a backend are legible just when what they are made from is. -/
lemma forall_legible_iff (t : ConnectionTarget) (b : Backend) :
    (∀ f ∈ b.fields t, f.Legible) ↔ t.Legible b := by
  -- what the program itself writes is always legible, so only the settings count
  have hyes : StandsBare "Yes" := by decide
  cases b with
  | native =>
    simp only [Backend.fields, nativeFields, List.forall_mem_append, List.forall_mem_cons,
      forall_mem_loginFields_iff, forall_legible_finalFields_iff,
      ConnectionField.legible_bare_iff]
    constructor
    · rintro ⟨⟨⟨host, database, -⟩, -, mode, user, secret⟩, application⟩
      exact ⟨host, database, application, mode, user, secret, fun h => absurd h (by decide)⟩
    · rintro ⟨host, database, application, mode, user, secret, -⟩
      exact ⟨⟨⟨host, database, List.forall_mem_nil _⟩, fun _ => hyes, mode, user, secret⟩,
        application⟩
  | odbc =>
    have htrace : StandsBare (if t.traceFlag then "SQL_OPT_TRACE_ON" else "SQL_OPT_TRACE_OFF") := by
      cases t.traceFlag <;> decide
    have hpooling : StandsBare "true" := by decide
    simp only [Backend.fields, odbcFields, List.forall_mem_append, List.forall_mem_cons,
      forall_mem_loginFields_iff, forall_legible_finalFields_iff,
      ConnectionField.legible_bare_iff, ConnectionField.legible_braced_iff,
      standsBraced_driver_iff]
    constructor
    · rintro ⟨⟨⟨driver, host, database, -⟩, -, mode, user, secret⟩, application⟩
      exact ⟨host, database, application, mode, user, secret, fun _ => driver⟩
    · rintro ⟨host, database, application, mode, user, secret, driver⟩
      exact ⟨⟨⟨driver rfl, host, database, hpooling, htrace, List.forall_mem_nil _⟩,
        fun _ => hyes, mode, user, secret⟩, application⟩

/-- Whenever a connection string is made, a driver reads from it the fields that were written just
when every value is legible: each user, secret and name as it was given.  Then there is one field
for encryption and one for trust, as their flags say. -/
theorem read_connectionString (b : Backend) (t : ConnectionTarget) (text : String)
    (h : b.connectionString t = .ok text) :
    (readConnectionString text = some ((b.fields t).map ConnectionField.entry) ↔ t.Legible b) ∧
      t.Holds b (b.fields t) ∧
      (t.Legible b →
        (readConnectionString text).map (valuesRead b.encryptKey) = some [yesNo t.encrypt] ∧
          (readConnectionString text).map (valuesRead "TrustServerCertificate") =
            some [yesNo t.trustCert]) := by
  have hkeys : ∀ f ∈ b.fields t, KeyStands f.key := fun f hf =>
    keyStands_of_mem_keys (key_of_mem_fields hf)
  have htext : text = String.ofList (renderFields (b.fields t)) := by
    unfold Backend.connectionString at h
    split_ifs at h
    exact (Except.ok.inj h).symm
  have hread : readConnectionString text = some ((b.fields t).map ConnectionField.entry) ↔
      t.Legible b := by
    rw [readConnectionString, htext, String.toList_ofList, readFields_renderFields hkeys,
      forall_legible_iff]
  have hholds := t.holds_fields b
  refine ⟨hread, hholds, fun hlegible => ?_⟩
  rw [hread.mpr hlegible, Option.map_some, Option.map_some, valuesRead_entries, valuesRead_entries,
    hholds.encryption, hholds.trust]
  exact ⟨rfl, rfl⟩

/-- A target with semicolons and an opening brace in user and secret. -/
def punctuated : ConnectionTarget where
  host := "abc.datawarehouse.fabric.microsoft.com"
  database := "sales"
  authentication := .activeDirectoryPassword
  encrypt := true
  trustCert := false
  applicationName := "app"
  traceFlag := false
  driver := none
  uid := some "a;encrypt=No;x=b"
  pwd := some "\x7bs3;cret"
  windowsLogin := false

/-- The driver manager takes them in braces, and so reads them as they are. -/
theorem read_punctuated : ∃ text, Backend.odbc.connectionString punctuated = .ok text ∧
    readConnectionString text =
      some ((Backend.odbc.fields punctuated).map ConnectionField.entry) ∧
    (readConnectionString text).map (valuesRead Backend.odbc.encryptKey) = some ["Yes"] := by
  have hlegible : punctuated.Legible .odbc := (forall_legible_iff _ _).mp (by decide)
  obtain ⟨hread, -, hflags⟩ := read_connectionString .odbc punctuated _ rfl
  exact ⟨_, rfl, hread.mpr hlegible, (hflags hlegible).1⟩

/-- A target whose user name closes the braces it is written in. -/
def forged : ConnectionTarget :=
  { punctuated with uid := some "a\x7d;encrypt=No;x=\x7bb", pwd := some "s3cret" }

/-- The fields that a driver reads for it: user and secret, with two fields between them that nobody
asked for. -/
def forgedFields : List ConnectionField :=
  [⟨"DRIVER", defaultDriverName, true⟩, ⟨"SERVER", forged.host, false⟩,
    ⟨"Database", forged.database, false⟩, ⟨"Pooling", "true", false⟩,
    ⟨"SQL_ATTR_TRACE", "SQL_OPT_TRACE_OFF", false⟩,
    ⟨"Authentication", "ActiveDirectoryPassword", false⟩, ⟨"UID", "a", true⟩,
    ⟨"encrypt", "No", false⟩, ⟨"x", "b", true⟩, ⟨"PWD", "s3cret", true⟩] ++
  forged.finalFields "encrypt"

/-- Such a user name can turn encryption off: a driver reads two fields for it, and the first is not
the one that was asked for. -/
theorem encryption_from_user : ∃ text, Backend.odbc.connectionString forged = .ok text ∧
    forged.encrypt = true ∧
    (readConnectionString text).map (valuesRead Backend.odbc.encryptKey) = some ["No", "Yes"] := by
  refine ⟨_, rfl, rfl, ?_⟩
  -- The same text could have been made from these fields, and they are legible.
  have htext : renderFields (Backend.odbc.fields forged) = renderFields forgedFields := rfl
  have hkeys : ∀ f ∈ forgedFields, KeyStands f.key := by decide
  have hlegible : ∀ f ∈ forgedFields, f.Legible := by decide
  have hread := (readFields_renderFields hkeys).mpr hlegible
  rw [readConnectionString, String.toList_ofList, htext, hread, Option.map_some, valuesRead_entries]
  rfl

end ConnectionTarget

end WarehouseAccess
