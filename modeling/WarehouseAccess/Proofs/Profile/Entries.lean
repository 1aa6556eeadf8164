import Mathlib.Data.List.Basic
import Mathlib.Tactic.Common
import WarehouseAccess.Profile.Reading

/-!
# Profiles from entries

A document gives the fields of a profile in some order, each under any of its names, and among
entries that are none of the profile's.  What profile it gives depends on nothing but the values
under the names of each field.

### Outline

* `ProfileField.Takes` says what the values given for one field make of it.  It composes along lists
  of values, so taking up entries one after the other is the same as settling every field by the
  values in all of them: `ProfileDraft.addEntries_eq_ok_iff`;
* `Profile.SettledBy` adds the defaults, and `Profile.ofEntries_eq_ok_iff` is what is cited of
  reading afterwards;
* `ownNamed` rewrites entries to the own names of their fields and drops the others, which keeps the
  values of every field.
-/

namespace WarehouseAccess

/-! ### Names -/

namespace ProfileField

/-- The fields that have no default. -/
def required : List ProfileField := [host, database, schema]

/-- The values under the names of a field, in order. -/
def valuesIn {α : Type} (f : ProfileField) (entries : List (String × α)) : List α :=
  entries.filterMap fun e => if e.1 ∈ f.names then some e.2 else none

/-- No name stands for two fields. -/
lemma ofName?_eq_some_iff {name : String} {f : ProfileField} :
    ofName? name = some f ↔ name ∈ f.names := by
  constructor
  · intro h
    simpa using List.find?_some h
  · intro h
    have hnames : ∀ name ∈ f.names, ofName? name = some f := by
      cases f <;> decide
    exact hnames name h

lemma name_mem_names (f : ProfileField) : f.name ∈ f.names := List.mem_cons_self

lemma ofName?_name (f : ProfileField) : ofName? f.name = some f :=
  ofName?_eq_some_iff.mpr f.name_mem_names

section Values

variable {α β : Type} (f : ProfileField)

lemma valuesIn_append (entries entries' : List (String × α)) :
    f.valuesIn (entries ++ entries') = f.valuesIn entries ++ f.valuesIn entries' :=
  List.filterMap_append

/-- One entry gives its value to the field that its name stands for. -/
lemma valuesIn_singleton (name : String) (a : α) :
    f.valuesIn [(name, a)] = if ofName? name = some f then [a] else [] := by
  rw [valuesIn, List.filterMap_cons, List.filterMap_nil]
  by_cases h : name ∈ f.names
  · rw [if_pos h, if_pos (ofName?_eq_some_iff.mpr h)]
  · rw [if_neg h, if_neg (ofName?_eq_some_iff.not.mpr h)]

/-- Changing the values changes nothing of the names. -/
lemma valuesIn_map (g : α → β) (entries : List (String × α)) :
    f.valuesIn (entries.map fun e => (e.1, g e.2)) = (f.valuesIn entries).map g := by
  rw [valuesIn, valuesIn, List.filterMap_map, List.map_filterMap]
  congr 1
  funext e
  dsimp only [Function.comp_apply]
  split_ifs <;> rfl

/-- What is held for a field, under its own name, is given to that field and no other. -/
lemma valuesIn_ownName (g : ProfileField) (held : Option α) :
    f.valuesIn (held.map (g.name, ·)).toList = if g = f then held.toList else [] := by
  cases held with
  | none => exact (ite_self _).symm
  | some a =>
    refine (f.valuesIn_singleton g.name a).trans ?_
    simp only [g.ofName?_name, Option.some.injEq]
    rfl

/-- Under their own names fields are given what is held for them. -/
lemma valuesIn_ownNames (held : ProfileField → Option α) {fields : List ProfileField}
    (hfields : fields.Nodup) :
    f.valuesIn (fields.filterMap fun g => (held g).map (g.name, ·)) =
      if f ∈ fields then (held f).toList else [] := by
  induction fields with
  | nil => rfl
  | cons g fields ih =>
    obtain ⟨hnew, hrest⟩ := List.nodup_cons.mp hfields
    have hentries : ((g :: fields).filterMap fun g => (held g).map (g.name, ·)) =
        ((held g).map (g.name, ·)).toList ++
          fields.filterMap fun g => (held g).map (g.name, ·) := by
      rw [List.filterMap_cons]
      cases held g <;> rfl
    rw [hentries, f.valuesIn_append, valuesIn_ownName, ih hrest]
    by_cases hg : g = f
    · subst hg
      rw [if_pos rfl, if_neg hnew, if_pos List.mem_cons_self, List.append_nil]
    · simp [hg, Ne.symm hg]

end Values

end ProfileField

/-- The entries that give fields, each under the own name of its field. -/
def ownNamed {α : Type} (entries : List (String × α)) : List (String × α) :=
  entries.filterMap fun e => (ProfileField.ofName? e.1).map fun f => (f.name, e.2)

/-- Under the own names every field has the values that it had before. -/
lemma valuesIn_ownNamed {α : Type} (f : ProfileField) (entries : List (String × α)) :
    f.valuesIn (ownNamed entries) = f.valuesIn entries := by
  induction entries with
  | nil => rfl
  | cons e entries ih =>
    have hhead : f.valuesIn (ownNamed [e]) = f.valuesIn [e] := by
      obtain ⟨name, a⟩ := e
      rw [f.valuesIn_singleton, ownNamed, List.filterMap_cons]
      cases h : ProfileField.ofName? name with
      | none => rfl
      | some g =>
        refine (f.valuesIn_singleton g.name a).trans ?_
        rw [g.ofName?_name]
    have hsplit : ownNamed (e :: entries) = ownNamed [e] ++ ownNamed entries :=
      @List.filterMap_append _ _ [e] entries _
    rw [hsplit, f.valuesIn_append, hhead, ih, ← f.valuesIn_append, List.singleton_append]

/-! ### Drafts -/

/-- What values make of a field.  Without one it stays as it is; one value is read into a field that
was not given before.  There is nothing that a value of another type, or two values, can make. -/
inductive ProfileField.Takes (f : ProfileField) (before : Option f.kind.Value) :
    List Datum → Option f.kind.Value → Prop
  /-- No value is given. -/
  | nothing : f.Takes before [] before
  /-- One value is given. -/
  | one {d : Datum} {value : f.kind.Value} (hbefore : before = none)
    (hread : d.read f.kind = .ok value) : f.Takes before [d] (some value)

namespace ProfileField

variable {f : ProfileField} {before after : Option f.kind.Value}

lemma takes_nil_iff : f.Takes before [] after ↔ after = before := by
  constructor
  · rintro ⟨⟩
    rfl
  · rintro rfl
    exact .nothing

lemma takes_singleton_iff {d : Datum} :
    f.Takes before [d] after ↔
      before = none ∧ ∃ value, d.read f.kind = .ok value ∧ after = some value := by
  constructor
  · rintro (_ | ⟨hbefore, hread⟩)
    exact ⟨hbefore, _, hread, rfl⟩
  · rintro ⟨hbefore, value, hread, rfl⟩
    exact .one hbefore hread

/-- Values are taken one after the other. -/
lemma takes_append_iff {first second : List Datum} :
    f.Takes before (first ++ second) after ↔
      ∃ between, f.Takes before first between ∧ f.Takes between second after := by
  constructor
  · intro h
    cases first with
    | nil => exact ⟨before, .nothing, h⟩
    | cons d rest =>
      -- there is one value at most, so it is the first and no other
      generalize hall : (d :: rest) ++ second = values at h
      cases h with
      | nothing => simp at hall
      | one hbefore hread =>
        obtain ⟨rfl, rfl, rfl⟩ : _ = d ∧ rest = [] ∧ second = [] := by
          simpa [eq_comm] using hall
        exact ⟨_, .one hbefore hread, .nothing⟩
  · rintro ⟨between, hfirst, hsecond⟩
    cases hfirst with
    | nothing => exact hsecond
    | one hbefore hread =>
      cases hsecond with
      | nothing => exact .one hbefore hread
      | one hbetween _ => cases hbetween

end ProfileField

namespace ProfileDraft

open ProfileField

/-- The value of one entry is taken by the field that it is for, and the others stay as they are. -/
lemma forall_takes_entry_iff {draft next : ProfileDraft} {name : String} {d : Datum}
    {g : ProfileField} (hname : ofName? name = some g) :
    (∀ f : ProfileField, f.Takes (draft f) (f.valuesIn [(name, d)]) (next f)) ↔
      (draft g = none ∧ ∃ value, d.read g.kind = .ok value ∧ next g = some value) ∧
        ∀ f, g ≠ f → next f = draft f := by
  have hself : g.valuesIn [(name, d)] = [d] := by
    rw [g.valuesIn_singleton, if_pos hname]
  have hother (f : ProfileField) (hf : g ≠ f) : f.valuesIn [(name, d)] = [] := by
    rw [f.valuesIn_singleton, hname, if_neg fun h => hf (Option.some.inj h)]
  constructor
  · intro h
    refine ⟨takes_singleton_iff.mp (hself ▸ h g), fun f hf => ?_⟩
    exact takes_nil_iff.mp (hother f hf ▸ h f)
  · rintro ⟨hg, hothers⟩ f
    by_cases hf : g = f
    · subst hf
      rw [hself]
      exact takes_singleton_iff.mpr hg
    · rw [hother f hf]
      exact takes_nil_iff.mpr (hothers f hf)

/-- A draft with one more value is the one that has it and is the same elsewhere. -/
lemma set_eq_iff {draft next : ProfileDraft} {g : ProfileField} {value : g.kind.Value} :
    draft.set g value = next ↔ next g = some value ∧ ∀ f, g ≠ f → next f = draft f := by
  constructor
  · rintro rfl
    exact ⟨draft.set_self g value, fun f hf => draft.set_other value hf⟩
  · rintro ⟨hg, hothers⟩
    funext f
    by_cases hf : g = f
    · subst hf
      rw [draft.set_self, hg]
    · rw [draft.set_other value hf, hothers f hf]

/-- An entry is taken up when its value is taken by every field. -/
lemma addEntry_eq_ok_iff {draft next : ProfileDraft} {name : String} {d : Datum} :
    draft.addEntry name d = .ok next ↔
      ∀ f : ProfileField, f.Takes (draft f) (f.valuesIn [(name, d)]) (next f) := by
  unfold addEntry
  cases hname : ofName? name with
  | none =>
    -- an entry for no field is passed over
    have hvalues (f : ProfileField) : f.valuesIn [(name, d)] = [] := by
      rw [f.valuesIn_singleton, hname, if_neg nofun]
    simp only [hvalues, takes_nil_iff, Except.ok.injEq]
    exact ⟨fun h f => congrFun h.symm f, fun h => (funext h).symm⟩
  | some g =>
    rw [forall_takes_entry_iff hname]
    dsimp only
    cases hgiven : draft g with
    | some value => simp
    | none =>
      cases hread : d.read g.kind with
      | error fault => simp [Except.map]
      | ok value => simp [Except.map, set_eq_iff]

/-- Entries are taken up when their values are taken by every field. -/
lemma addEntries_eq_ok_iff {draft result : ProfileDraft} {entries : List (String × Datum)} :
    draft.addEntries entries = .ok result ↔
      ∀ f : ProfileField, f.Takes (draft f) (f.valuesIn entries) (result f) := by
  induction entries generalizing draft with
  | nil =>
    have hvalues (f : ProfileField) : f.valuesIn ([] : List (String × Datum)) = [] := rfl
    simp only [addEntries, hvalues, takes_nil_iff, Except.ok.injEq]
    exact ⟨fun h f => congrFun h.symm f, fun h => (funext h).symm⟩
  | cons e entries ih =>
    obtain ⟨name, d⟩ := e
    have hstep : draft.addEntries ((name, d) :: entries) = .ok result ↔
        ∃ next, draft.addEntry name d = .ok next ∧ next.addEntries entries = .ok result := by
      rw [addEntries]
      cases draft.addEntry name d <;> simp
    rw [hstep]
    simp only [addEntry_eq_ok_iff, ih, ← forall_and]
    -- the drafts between the two steps are chosen field by field
    refine (Classical.skolem (p := fun (f : ProfileField) between =>
      f.Takes (draft f) (f.valuesIn [(name, d)]) between ∧
        f.Takes between (f.valuesIn entries) (result f))).symm.trans ?_
    refine forall_congr' fun f => ?_
    rw [← takes_append_iff, ← f.valuesIn_append, List.singleton_append]

end ProfileDraft

/-! ### Profiles -/

namespace Profile

open ProfileField

/-- Two profiles with the same value in every field are the same. -/
lemma ext_get {p q : Profile} (h : ∀ f, p.get f = q.get f) : p = q := by
  cases p
  cases q
  rw [Profile.mk.injEq]
  exact ⟨h .host, h .database, h .schema, h .driverBackend, h .driver, h .uid, h .pwd,
    h .windowsLogin, h .traceFlag, h .tenantId, h .clientId, h .clientSecret, h .accessToken,
    h .accessTokenExpiresOn, h .authentication, h .encrypt, h .trustCert, h .retries,
    h .schemaAuthorization, h .loginTimeout, h .queryTimeout, h .workspaceId,
    h .warehouseSnapshotName, h .warehouseSnapshotId, h .snapshotTimestamp, h .apiUrl, h .pooling,
    h .tokenRefreshMarginSecs, h .snapshotPollMaxRetries, h .snapshotPollDelaySecs⟩

/-- The profile of the same target with every setting at its default. -/
def atDefaults (p : Profile) : Profile := new p.host p.database p.schema

/-- The fields of a draft are those that were given and for the rest the defaults. -/
lemma get_toProfile {draft : ProfileDraft} {host database schema : String}
    (hhost : draft .host = some host) (hdatabase : draft .database = some database)
    (hschema : draft .schema = some schema) :
    ∃ p, draft.toProfile = .ok p ∧
      ∀ f, p.get f = (draft f).getD ((new host database schema).get f) := by
  rw [ProfileDraft.toProfile, hhost, hdatabase, hschema]
  refine ⟨_, rfl, fun f => ?_⟩
  cases f with
  | host => rw [hhost]; rfl
  | database => rw [hdatabase]; rfl
  | schema => rw [hschema]; rfl
  | _ => rfl

/-- A draft of a profile gives its target. -/
lemma target_of_toProfile {draft : ProfileDraft} {p : Profile} (h : draft.toProfile = .ok p) :
    ∃ host database schema, draft .host = some host ∧ draft .database = some database ∧
      draft .schema = some schema := by
  unfold ProfileDraft.toProfile at h
  cases hhost : draft .host with
  | none =>
    rw [hhost] at h
    exact nomatch h
  | some host =>
    cases hdatabase : draft .database with
    | none =>
      rw [hhost, hdatabase] at h
      exact nomatch h
    | some database =>
      cases hschema : draft .schema with
      | none =>
        rw [hhost, hdatabase, hschema] at h
        exact nomatch h
      | some schema => exact ⟨host, database, schema, rfl, rfl, rfl⟩

/-- The target of a profile that has what a draft gives. -/
lemma atDefaults_eq {draft : ProfileDraft} {p base : Profile}
    (hget : ∀ f, p.get f = (draft f).getD (base.get f)) {host database schema : String}
    (hhost : draft .host = some host) (hdatabase : draft .database = some database)
    (hschema : draft .schema = some schema) : p.atDefaults = new host database schema := by
  have hh : p.host = host := (hget .host).trans (by rw [hhost]; rfl)
  have hd : p.database = database := (hget .database).trans (by rw [hdatabase]; rfl)
  have hs : p.schema = schema := (hget .schema).trans (by rw [hschema]; rfl)
  rw [atDefaults, hh, hd, hs]

/-- A draft becomes a profile when the fields without default are given, and the profile has what
was given and the defaults of all else. -/
lemma toProfile_eq_ok_iff {draft : ProfileDraft} {p : Profile} :
    draft.toProfile = .ok p ↔
      (∀ f ∈ required, draft f ≠ none) ∧ ∀ f, p.get f = (draft f).getD (p.atDefaults.get f) := by
  constructor
  · intro h
    obtain ⟨host, database, schema, hhost, hdatabase, hschema⟩ := target_of_toProfile h
    obtain ⟨q, hq, hget⟩ := get_toProfile hhost hdatabase hschema
    obtain rfl : q = p := Except.ok.inj (hq.symm.trans h)
    rw [atDefaults_eq hget hhost hdatabase hschema]
    refine ⟨?_, hget⟩
    simp [required, hhost, hdatabase, hschema]
  · rintro ⟨hgiven, hget⟩
    simp only [required, List.forall_mem_cons, Option.ne_none_iff_exists'] at hgiven
    obtain ⟨⟨host, hhost⟩, ⟨database, hdatabase⟩, ⟨schema, hschema⟩, -⟩ := hgiven
    obtain ⟨q, hq, hget'⟩ := get_toProfile hhost hdatabase hschema
    rw [atDefaults_eq hget hhost hdatabase hschema] at hget
    rw [hq, ext_get fun f => (hget' f).trans (hget f).symm]

/-- A field of a profile is settled by the values that are given for it: it has its default when
there is none, if it has a default, and it is what is read from the value when there is one. -/
inductive SettledBy (p : Profile) (f : ProfileField) : List Datum → Prop
  /-- No value is given, and the field has its default. -/
  | default (hoptional : f ∉ required) (hdefault : p.get f = p.atDefaults.get f) : p.SettledBy f []
  /-- One value is given, and the field is read from it. -/
  | value {d : Datum} (hread : d.read f.kind = .ok (p.get f)) : p.SettledBy f [d]

/-- Entries give a profile when every field of it is settled by the values under its names. -/
lemma ofEntries_eq_ok_iff {entries : List (String × Datum)} {p : Profile} :
    ofEntries entries = .ok p ↔ ∀ f : ProfileField, p.SettledBy f (f.valuesIn entries) := by
  have hdrafts : ofEntries entries = .ok p ↔
      ∃ draft, ProfileDraft.empty.addEntries entries = .ok draft ∧ draft.toProfile = .ok p := by
    unfold ofEntries
    cases ProfileDraft.empty.addEntries entries <;> simp
  rw [hdrafts]
  simp only [ProfileDraft.addEntries_eq_ok_iff, toProfile_eq_ok_iff]
  constructor
  · -- field by field: the draft has the value, or the default stands in for it
    rintro ⟨draft, htaken, hrequired, hget⟩ f
    have hf := htaken f
    have hvalue := hget f
    generalize hdraft : draft f = after at hf hvalue
    generalize f.valuesIn entries = values at hf ⊢
    cases hf with
    | nothing => exact .default (fun h => hrequired f h hdraft) hvalue
    | one _ hread => exact .value (hvalue ▸ hread)
  · intro h
    -- the draft is made from the profile: it has the fields that some entry is for
    refine ⟨fun f => if f.valuesIn entries = [] then none else some (p.get f), fun f => ?_,
      fun f hf => ?_, fun f => ?_⟩
    all_goals
      dsimp only
      have hsettled := h f
      generalize f.valuesIn entries = values at hsettled ⊢
      cases hsettled
    · exact .nothing
    · exact .one rfl ‹_›
    · contradiction
    · simp
    · assumption
    · rfl

/-- A field is given once at most. -/
lemma SettledBy.length_le_one {p : Profile} {f : ProfileField} {values : List Datum}
    (h : p.SettledBy f values) : values.length ≤ 1 := by
  cases h <;> simp

/-- The order of the values does not count, since there is one at most. -/
lemma SettledBy.of_perm {p : Profile} {f : ProfileField} {values values' : List Datum}
    (h : p.SettledBy f values) (hperm : values.Perm values') : p.SettledBy f values' := by
  cases h with
  | default hoptional hdefault =>
    rw [List.nil_perm.mp hperm]
    exact .default hoptional hdefault
  | value hread =>
    rw [← List.singleton_perm.mp hperm]
    exact .value hread

/-- A JSON object gives a profile when every field of it is settled by the values under its
names. -/
lemma ofJson_object_eq_ok_iff {entries : List (String × Json)} {p : Profile} :
    ofJson (.object entries) = .ok p ↔
      ∀ f : ProfileField, p.SettledBy f ((f.valuesIn entries).map Datum.ofJson) := by
  simp only [← valuesIn_map]
  exact ofEntries_eq_ok_iff

/-- An object that gives no profile is at fault. -/
lemma exists_fault_of_not_settled {entries : List (String × Json)} {f : ProfileField}
    (h : ∀ p : Profile, ¬ p.SettledBy f ((f.valuesIn entries).map Datum.ofJson)) :
    ∃ fault, ofJson (.object entries) = .error fault := by
  cases hread : ofJson (.object entries) with
  | error fault => exact ⟨fault, rfl⟩
  | ok p => exact absurd (ofJson_object_eq_ok_iff.mp hread f) (h p)

/-- What profile a JSON object gives depends on nothing but the values under the names of each
field.

* The object gives a profile just when each field of the profile is settled by its values;
* so neither the order of the keys counts, nor which name of a field is used, nor any other key: the
  same profile, or none, is given by the entries under their own names in any order;
* an object that gives a field twice is at fault;
* so is an object that does not give host, database and schema, and every other field that it does
  not give is as in a new profile. -/
theorem reading_of_object (entries : List (String × Json)) :
    (∀ p : Profile, ofJson (.object entries) = .ok p ↔
      ∀ f : ProfileField, p.SettledBy f ((f.valuesIn entries).map Datum.ofJson)) ∧
    (∀ rewritten : List (String × Json), rewritten.Perm (ownNamed entries) →
      ∀ p : Profile, ofJson (.object rewritten) = .ok p ↔ ofJson (.object entries) = .ok p) ∧
    (∀ f : ProfileField, 2 ≤ (f.valuesIn entries).length →
      ∃ fault, ofJson (.object entries) = .error fault) ∧
    ∀ f : ProfileField, f.valuesIn entries = [] →
      if f ∈ required then ∃ fault, ofJson (.object entries) = .error fault
      else ∀ p : Profile, ofJson (.object entries) = .ok p →
        p.get f = (new p.host p.database p.schema).get f := by
  refine ⟨fun p => ofJson_object_eq_ok_iff, fun rewritten hperm p => ?_, fun f htwice => ?_,
    fun f habsent => ?_⟩
  · -- own names and another order leave each field its values, up to their order
    have hvalues (f : ProfileField) : (f.valuesIn rewritten).Perm (f.valuesIn entries) := by
      have hnamed := hperm.filterMap fun e => if e.1 ∈ f.names then some e.2 else none
      rwa [← valuesIn_ownNamed f entries]
    rw [ofJson_object_eq_ok_iff, ofJson_object_eq_ok_iff]
    refine forall_congr' fun f => ⟨fun h => ?_, fun h => ?_⟩
    · exact h.of_perm ((hvalues f).map _)
    · exact h.of_perm ((hvalues f).symm.map _)
  · refine exists_fault_of_not_settled (f := f) fun p hsettled => ?_
    have hone := hsettled.length_le_one
    rw [List.length_map] at hone
    omega
  · split_ifs with hrequired
    · refine exists_fault_of_not_settled (f := f) fun p hsettled => ?_
      rw [habsent] at hsettled
      cases hsettled with
      | default hoptional _ => exact hoptional hrequired
    · intro p hread
      have hsettled := ofJson_object_eq_ok_iff.mp hread f
      rw [habsent] at hsettled
      cases hsettled with
      | default _ hdefault => exact hdefault

/-- An object with an array that is no field of a profile, and most of its keys other names. -/
def aliasedObject : List (String × Json) :=
  [("zones", .array [.int 1, .null]), ("server", .text "abc"), ("PWD", .null),
    ("user", .text "alice"), ("schema", .text "dbo"), ("retries", .int 5),
    ("database", .text "sales")]

/-- The object gives the same profile under the own names of the fields and in another order, and no
profile when it gives the user once more. -/
theorem reading_of_aliasedObject :
    let p : Profile := { new "abc" "sales" "dbo" with uid := some "alice", retries := 5 }
    let rewritten : List (String × Json) :=
      [("database", .text "sales"), ("retries", .int 5), ("schema", .text "dbo"),
        ("uid", .text "alice"), ("pwd", .null), ("host", .text "abc")]
    rewritten.Perm (ownNamed aliasedObject) ∧ ofJson (.object aliasedObject) = .ok p ∧
      ofJson (.object rewritten) = .ok p ∧
      ∃ fault, ofJson (.object (("uid", .text "bob") :: aliasedObject)) = .error fault := by
  intro p rewritten
  have hreverse : rewritten = (ownNamed aliasedObject).reverse := by rfl
  have hperm : rewritten.Perm (ownNamed aliasedObject) := by
    rw [hreverse]
    exact List.reverse_perm _
  have hread : ofJson (.object aliasedObject) = .ok p := by decide
  refine ⟨hperm, hread, ((reading_of_object aliasedObject).2.1 rewritten hperm p).mpr hread, ?_⟩
  exact (reading_of_object _).2.2.1 .uid (by decide)

end Profile

end WarehouseAccess
