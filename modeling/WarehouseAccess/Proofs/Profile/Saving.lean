import WarehouseAccess.Profile.Document
import WarehouseAccess.Proofs.Driver.TokenBuffer
import WarehouseAccess.Proofs.Profile.Entries
import WarehouseAccess.Proofs.Profile.Modes
import WarehouseAccess.Proofs.Toml.Lines

/-!
# Saved profiles

What becomes of a profile that is saved and loaded again.  Every field that is written is read back;
a field that is left out has its default, which is not always what was left out.
-/

namespace WarehouseAccess

open TomlReader

/-! ### Fields -/

namespace ProfileField

lemma isBareKey_name (f : ProfileField) : IsBareKey f.name := by
  cases f <;> decide

end ProfileField

/-- An integer in range is read. -/
lemma Datum.readInteger_of_le {lo hi n : ℤ} {expected : String} (hlo : lo ≤ n) (hhi : n ≤ hi) :
    (Datum.integer n).readInteger lo hi expected = .ok n :=
  if_pos (by simp [hlo, hhi])

namespace FieldKind

/-- The value that a document holds for a value of a field; an absent option is left out. -/
def toToml? : (kind : FieldKind) → kind.Value → Option Toml
  | .text, s => some (.text s)
  | .optionalText, s => s.map .text
  | .flag, b => some (.boolean b)
  | .word32, n => some (.integer n.toNat)
  | .word64, n => some (.integer n.toNat)
  | .optionalInteger, n => n.map fun n => .integer n.toInt
  | .authentication, mode => some (.text mode.text)
  | .driverPreference, p => some (.text p.text)

/-- A value that a document can hold: a number is in the range of its integers, and a mode is one
that some text spells. -/
def Storable : (kind : FieldKind) → kind.Value → Prop
  | .word64, n => n.toNat < 2 ^ 63
  | .authentication, mode => ∃ s, AuthenticationMode.ofText? s = some mode
  | _, _ => True

/-- A value that a document can hold is written as the document holds it. -/
lemma writeValue_of_storable {kind : FieldKind} {v : kind.Value} (h : kind.Storable v) :
    ∃ written, Profile.writeValue kind v = some written ∧
      Option.Rel WrittenAs written (kind.toToml? v) := by
  cases kind with
  | text => exact ⟨_, rfl, .some (writtenAs_text v)⟩
  | optionalText =>
    cases v with
    | none => exact ⟨_, rfl, .none⟩
    | some s => exact ⟨_, rfl, .some (writtenAs_text s)⟩
  | flag => exact ⟨_, rfl, .some (writtenAs_flag v)⟩
  | word32 =>
    have hlt := v.toNat_lt
    exact ⟨_, rfl, .some (writtenAs_decimalDigits (by omega))⟩
  | word64 => exact ⟨_, if_pos h, .some (writtenAs_decimalDigits h)⟩
  | optionalInteger =>
    cases v with
    | none => exact ⟨_, rfl, .none⟩
    | some n => exact ⟨_, rfl, .some (writtenAs_integer n.le_toInt n.toInt_lt)⟩
  | authentication => exact ⟨_, rfl, .some (writtenAs_text _)⟩
  | driverPreference => exact ⟨_, rfl, .some (writtenAs_text _)⟩

/-- A value that is no mode, or a mode that some text spells. -/
def IsSpelled : (kind : FieldKind) → kind.Value → Prop
  | .authentication, mode => mode.IsSpelled
  | _, _ => True

/-- What is shown of a value in JSON is read as the value. -/
lemma read_valueToJson {kind : FieldKind} {v : kind.Value} (h : kind.IsSpelled v) :
    (Datum.ofJson (Profile.valueToJson kind v)).read kind = .ok v := by
  cases kind with
  | text => rfl
  | optionalText => cases v <;> rfl
  | flag => rfl
  | word32 =>
    have hlt := v.toNat_lt
    exact (congrArg (Except.map _) (Datum.readInteger_of_le (by omega) (by omega))).trans
      (congrArg Except.ok v.ofNat_toNat)
  | word64 =>
    have hlt := v.toNat_lt
    exact (congrArg (Except.map _) (Datum.readInteger_of_le (by omega) (by omega))).trans
      (congrArg Except.ok v.ofNat_toNat)
  | optionalInteger =>
    cases v with
    | none => rfl
    | some n =>
      have hlo := n.le_toInt
      have hhi := n.toInt_lt
      exact (congrArg (Except.map _) (Datum.readInteger_of_le (by omega) (by omega))).trans
        (congrArg (Except.ok ∘ some) n.ofInt_toInt)
  | authentication =>
    obtain ⟨s, hs⟩ := h
    have hread : (Datum.text v.text).readAuthentication = .ok v := by
      rw [Datum.readAuthentication, Datum.readText]
      dsimp only
      rw [AuthenticationMode.ofText?_text hs]
    exact hread
  | driverPreference =>
    have hread : (Datum.text v.text).readPreference = .ok v := by
      cases v <;> rfl
    exact hread

/-- A document holds for a value what is shown of it in JSON. -/
lemma ofToml_of_toToml? {kind : FieldKind} {v : kind.Value} {t : Toml}
    (ht : kind.toToml? v = some t) :
    Datum.ofToml t = Datum.ofJson (Profile.valueToJson kind v) := by
  cases kind with
  | optionalText | optionalInteger =>
    obtain ⟨_, rfl, rfl⟩ := Option.map_eq_some_iff.mp ht
    rfl
  | _ =>
    obtain rfl := Option.some.inj ht
    rfl

/-- What a document holds for a value is read as the value. -/
lemma read_of_toToml? {kind : FieldKind} {v : kind.Value} (h : kind.Storable v) {t : Toml}
    (ht : kind.toToml? v = some t) : (Datum.ofToml t).read kind = .ok v := by
  rw [ofToml_of_toToml? ht]
  refine read_valueToJson ?_
  cases kind with
  | authentication => exact h
  | _ => trivial

end FieldKind

/-! ### Documents -/

namespace Profile

/-- A document can hold every field of the profile. -/
def Storable (p : Profile) : Prop := ∀ f : ProfileField, f.kind.Storable (p.get f)

/-- The settings that the document of a profile holds for the given fields. -/
def settings (p : Profile) (fields : List ProfileField) : List (String × Toml) :=
  fields.filterMap fun f => (f.kind.toToml? (p.get f)).map (f.name, ·)

/-- What is written for fields is a document of their settings. -/
lemma isDocument_writeFields {p : Profile} (h : p.Storable) (fields : List ProfileField) :
    ∃ lines, p.writeFields fields = some lines ∧ IsDocument lines (p.settings fields) := by
  induction fields with
  | nil => exact ⟨[], rfl, .nil⟩
  | cons f fields ih =>
    obtain ⟨lines, hlines, hdocument⟩ := ih
    obtain ⟨written, hwritten, hrel⟩ := FieldKind.writeValue_of_storable (h f)
    rw [writeFields, hwritten, hlines, settings, List.filterMap_cons]
    revert hrel
    generalize f.kind.toToml? (p.get f) = held
    rintro (hvalue | -)
    · exact ⟨_, rfl, .cons f.isBareKey_name hvalue hdocument⟩
    · exact ⟨_, rfl, hdocument⟩

lemma keys_settings_sublist (p : Profile) (fields : List ProfileField) :
    ((p.settings fields).map Prod.fst).Sublist (fields.map ProfileField.name) := by
  induction fields with
  | nil => exact .slnil
  | cons f fields ih =>
    rw [settings, List.filterMap_cons]
    cases f.kind.toToml? (p.get f) with
    | none => exact ih.cons _
    | some t => exact ih.cons_cons _

/-- The settings of fields give each of them the value that the document holds for it. -/
lemma valuesIn_settings (p : Profile) {fields : List ProfileField} (hfields : fields.Nodup)
    (f : ProfileField) :
    f.valuesIn (p.settings fields) =
      if f ∈ fields then (f.kind.toToml? (p.get f)).toList else [] :=
  f.valuesIn_ownNames (fun g => g.kind.toToml? (p.get g)) hfields

/-! ### Loading what was saved -/

/-- What a document leaves out is the default of its field, except when a token expires. -/
lemma get_new_of_toToml?_eq_none {p : Profile} {f : ProfileField} (hf : f ≠ .accessTokenExpiresOn)
    (h : f.kind.toToml? (p.get f) = none) (host database schema : String) :
    (Profile.new host database schema).get f = p.get f := by
  cases f with
  | accessTokenExpiresOn => exact absurd rfl hf
  | driver | uid | pwd | tenantId | clientId | clientSecret | accessToken | schemaAuthorization
  | workspaceId | warehouseSnapshotName | warehouseSnapshotId | snapshotTimestamp =>
    exact (Option.map_eq_none_iff.mp h).symm
  | _ => exact nomatch h

/-- The profile with another expiry of its access token. -/
def withExpiry (p : Profile) (expiry : Option Int64) : Profile :=
  { p with accessTokenExpiresOn := expiry }

lemma get_withExpiry {f : ProfileField} (hf : f ≠ .accessTokenExpiresOn) (p : Profile)
    (expiry : Option Int64) : (p.withExpiry expiry).get f = p.get f := by
  cases f with
  | accessTokenExpiresOn => exact absurd rfl hf
  | _ => rfl

lemma withExpiry_eq_self_iff {p : Profile} {expiry : Option Int64} :
    p.withExpiry expiry = p ↔ expiry = p.accessTokenExpiresOn :=
  ⟨congrArg accessTokenExpiresOn, fun h => h ▸ rfl⟩

/-- A document holds the fields that have no default. -/
lemma not_mem_required_of_toToml?_eq_none {p : Profile} {f : ProfileField}
    (h : f.kind.toToml? (p.get f) = none) : f ∉ ProfileField.required := by
  intro hf
  simp only [ProfileField.required, List.mem_cons, List.not_mem_nil, or_false] at hf
  rcases hf with rfl | rfl | rfl
  all_goals cases h

/-- The settings of a profile give the profile, with the default for an expiry that is absent. -/
lemma ofEntries_settings {p : Profile} (h : p.Storable) :
    ofEntries ((p.settings ProfileField.all).map fun (k, v) => (k, Datum.ofToml v)) =
      .ok (p.withExpiry (p.accessTokenExpiresOn.or (some 0))) := by
  refine ofEntries_eq_ok_iff.mpr fun f => ?_
  -- a field is settled by its own setting, or by none if it is absent there
  have hvalues : f.valuesIn ((p.settings ProfileField.all).map fun (k, v) => (k, Datum.ofToml v)) =
      (f.kind.toToml? (p.get f)).toList.map Datum.ofToml := by
    have hfields : ProfileField.all.Nodup := by decide
    refine (f.valuesIn_map Datum.ofToml _).trans ?_
    rw [p.valuesIn_settings hfields, if_pos f.mem_all]
  rw [hvalues]
  cases ht : f.kind.toToml? (p.get f) with
  | none =>
    refine .default (not_mem_required_of_toToml?_eq_none ht) ?_
    -- an absent expiry is the one that reads differently: as zero
    by_cases hf : f = .accessTokenExpiresOn
    · subst hf
      have hexpiry : p.accessTokenExpiresOn = none := Option.map_eq_none_iff.mp ht
      simp [get, withExpiry, atDefaults, new, hexpiry]
    · rw [get_withExpiry hf]
      exact (get_new_of_toToml?_eq_none hf ht _ _ _).symm
  | some t =>
    refine .value ?_
    rw [FieldKind.read_of_toToml? (h f) ht]
    by_cases hf : f = .accessTokenExpiresOn
    · subst hf
      obtain ⟨n, hexpiry, -⟩ := Option.map_eq_some_iff.mp ht
      have hexpiry : p.accessTokenExpiresOn = some n := hexpiry
      simp [get, withExpiry, hexpiry]
    · rw [get_withExpiry hf]

/-- The checks do not look at when a token expires. -/
lemma validated_withExpiry (p : Profile) (expiry : Option Int64) :
    (p.withExpiry expiry).validated = p.validated.map (·.withExpiry expiry) := by
  have htarget : (p.withExpiry expiry).checkTarget = p.checkTarget := rfl
  have hnormalize : (p.withExpiry expiry).normalize = p.normalize.withExpiry expiry := by
    cases h : p.windowsLogin <;> simp [normalize, withExpiry, h]
  have hpair : (p.normalize.withExpiry expiry).checkSnapshotPair = p.normalize.checkSnapshotPair :=
    rfl
  rw [validated, validate, htarget, hnormalize, hpair, validated, validate]
  cases p.checkTarget with
  | error e => rfl
  | ok _ => cases p.normalize.checkSnapshotPair <;> rfl

/-- A document can hold a profile whose mode some text spells and whose numbers are in the range of
signed integers. -/
lemma storable_of_forall_lt {p : Profile}
    (hmode : ∃ s, AuthenticationMode.ofText? s = some p.authentication)
    (hrange : ∀ n ∈ [p.loginTimeout, p.queryTimeout, p.tokenRefreshMarginSecs,
      p.snapshotPollDelaySecs], n.toNat < 2 ^ 63) : p.Storable := by
  intro f
  cases f with
  | authentication => exact hmode
  | loginTimeout | queryTimeout | tokenRefreshMarginSecs | snapshotPollDelaySecs =>
    exact hrange _ (by simp [get])
  | _ => trivial

/-- The file of a profile is loaded as the profile, with the default for an absent expiry. -/
lemma ofFile_of_storable {p : Profile} (h : p.Storable) (hvalid : p.validated = .ok p) :
    ∃ document, p.toToml = .ok document ∧ ofFile (.bytes (encodeUtf8 document)) =
      .ok (p.withExpiry (p.accessTokenExpiresOn.or (some 0))) := by
  obtain ⟨lines, hlines, hdocument⟩ := isDocument_writeFields h ProfileField.all
  have hnames : (ProfileField.all.map ProfileField.name).Nodup := by decide
  have hkeys := hnames.sublist (p.keys_settings_sublist ProfileField.all)
  refine ⟨String.ofList lines, by rw [toToml, hlines], ?_⟩
  rw [ofFile, FileContent.text, decodeUtf8_encodeUtf8]
  dsimp only
  rw [ofToml, parse_of_isDocument hdocument hkeys]
  dsimp only
  rw [ofEntries_settings h]
  dsimp only
  rw [validated_withExpiry, hvalid]
  rfl

/-- A saved profile is loaded as it was, but an expiry that is absent comes back as the default one.
So of the profiles that pass their checks unchanged exactly those with an expiry survive. -/
theorem ofFile_of_toToml {p : Profile} (hvalid : p.validated = .ok p)
    (hmode : ∃ s, AuthenticationMode.ofText? s = some p.authentication)
    (hrange : ∀ n ∈ [p.loginTimeout, p.queryTimeout, p.tokenRefreshMarginSecs,
      p.snapshotPollDelaySecs], n.toNat < 2 ^ 63) :
    ∃ document, p.toToml = .ok document ∧
      ofFile (.bytes (encodeUtf8 document)) =
        .ok (p.withExpiry (p.accessTokenExpiresOn.or (some 0))) ∧
      (ofFile (.bytes (encodeUtf8 document)) = .ok p ↔ p.accessTokenExpiresOn ≠ none) := by
  obtain ⟨document, hdocument, hread⟩ :=
    ofFile_of_storable (storable_of_forall_lt hmode hrange) hvalid
  refine ⟨document, hdocument, hread, ?_⟩
  rw [hread, Except.ok.injEq, withExpiry_eq_self_iff]
  cases p.accessTokenExpiresOn <;> simp

/-- A profile with quotes, escapes, line ends and blanks in its texts. -/
def quotedProfile : Profile :=
  { Profile.new "abc" "sa'les" " d\"b'o" with
    uid := some ""
    pwd := some "'''\n\"\"\"\t\\"
    clientSecret := some "\n\"\"\r\n'"
    authentication := .activeDirectory "ActiveDirectoryManagedIdentity"
    accessTokenExpiresOn := some (-1)
    loginTimeout := 0x7FFFFFFFFFFFFFFF }

theorem ofFile_of_quotedProfile :
    quotedProfile.validated = .ok quotedProfile ∧
      (∃ s, AuthenticationMode.ofText? s = some quotedProfile.authentication) ∧
      (∀ n ∈ [quotedProfile.loginTimeout, quotedProfile.queryTimeout,
        quotedProfile.tokenRefreshMarginSecs, quotedProfile.snapshotPollDelaySecs],
        n.toNat < 2 ^ 63) ∧
      ∃ document, quotedProfile.toToml = .ok document ∧
        ofFile (.bytes (encodeUtf8 document)) = .ok quotedProfile := by
  have hvalid : quotedProfile.validated = .ok quotedProfile := by decide
  have hmode : ∃ s, AuthenticationMode.ofText? s = some quotedProfile.authentication :=
    ⟨"ActiveDirectoryManagedIdentity", by decide⟩
  have hrange : ∀ n ∈ [quotedProfile.loginTimeout, quotedProfile.queryTimeout,
      quotedProfile.tokenRefreshMarginSecs, quotedProfile.snapshotPollDelaySecs],
      n.toNat < 2 ^ 63 := by
    simp only [List.forall_mem_cons]
    exact ⟨by decide, by decide, by decide, by decide, by simp⟩
  obtain ⟨document, hdocument, -, hsame⟩ := ofFile_of_toToml hvalid hmode hrange
  exact ⟨hvalid, hmode, hrange, document, hdocument, hsame.mpr (by decide)⟩

/-- A profile that says nothing of an expiry. -/
def expirylessProfile : Profile :=
  (Profile.new "abc.datawarehouse.fabric.microsoft.com" "sales" "dbo").withExpiry none

/-- A profile without an expiry passes its checks unchanged and is not the one that is loaded. -/
theorem expirylessProfile_not_kept :
    expirylessProfile.validated = .ok expirylessProfile ∧
      (∃ s, AuthenticationMode.ofText? s = some expirylessProfile.authentication) ∧
      (∀ n ∈ [expirylessProfile.loginTimeout, expirylessProfile.queryTimeout,
        expirylessProfile.tokenRefreshMarginSecs, expirylessProfile.snapshotPollDelaySecs],
        n.toNat < 2 ^ 63) ∧
      ∃ document, expirylessProfile.toToml = .ok document ∧
        ofFile (.bytes (encodeUtf8 document)) = .ok (expirylessProfile.withExpiry (some 0)) ∧
        expirylessProfile.withExpiry (some 0) ≠ expirylessProfile := by
  have hvalid : expirylessProfile.validated = .ok expirylessProfile := by decide
  have hmode : ∃ s, AuthenticationMode.ofText? s = some expirylessProfile.authentication :=
    ⟨"ActiveDirectoryServicePrincipal", by decide⟩
  have hrange : ∀ n ∈ [expirylessProfile.loginTimeout, expirylessProfile.queryTimeout,
      expirylessProfile.tokenRefreshMarginSecs, expirylessProfile.snapshotPollDelaySecs],
      n.toNat < 2 ^ 63 := by
    simp only [List.forall_mem_cons]
    exact ⟨by decide, by decide, by decide, by decide, by simp⟩
  obtain ⟨document, hdocument, hread⟩ :=
    ofFile_of_storable (storable_of_forall_lt hmode hrange) hvalid
  exact ⟨hvalid, hmode, hrange, document, hdocument, hread, by decide⟩

end Profile

end WarehouseAccess
