import WarehouseAccess.Proofs.Json.Entries
import WarehouseAccess.Proofs.Profile.Checks
import WarehouseAccess.Proofs.Profile.Saving
import WarehouseAccess.Proofs.Text.LetterCase

/-!
# Modes that are read again

An authentication mode is spelled by many texts.  Which mode a text spells is decided by its
lower-case form without the blanks around it, and a mode that was read is read again from what is
written for it, be it a text, a JSON value or a file.

### Outline

* `ofLowercase?_congr` and `spellAlike_of_sameAscii`: only what the lower-case form has of ASCII
  decides on the mode;
* `isSpelled_of_ofJson` and `isSpelled_of_ofFile`: every mode that is read is one that some text
  spells;
* `Profile.ofJson_toJson` and `Profile.mode_of_saved`: whole profiles are written and read;
* `AuthenticationMode.choice_of_spelling` puts these together.
-/

namespace WarehouseAccess

/-! ### The choice of a mode -/

namespace TokenStrategy

lemma isAscii_text (strategy : TokenStrategy) : IsAscii strategy.text.toList := by
  cases strategy <;> decide

/-- Texts that agree in ASCII name the same strategy. -/
lemma ofText?_congr {s t : String} (h : SameAscii s.toList t.toList) : ofText? s = ofText? t := by
  unfold ofText?
  congr 1
  funext strategy
  have hiff := h.eq_iff strategy.isAscii_text
  rw [String.toList_inj, String.toList_inj] at hiff
  rw [Bool.eq_iff_iff, beq_iff_eq, beq_iff_eq, eq_comm, hiff, eq_comm]

end TokenStrategy

namespace AuthenticationMode

/-- Lower-case texts that agree in ASCII have the same fixed mode. -/
lemma ofLowercase?_congr {lower lower' : String} (h : SameAscii lower.toList lower'.toList) :
    ofLowercase? lower = ofLowercase? lower' := by
  have hname (name : String) (hname : IsAscii name.toList) :
      (lower == name) = (lower' == name) := by
    have hiff := h.eq_iff hname
    rw [String.toList_inj, String.toList_inj] at hiff
    rw [Bool.eq_iff_iff, beq_iff_eq, beq_iff_eq, hiff]
  unfold ofLowercase?
  rw [TokenStrategy.ofText?_congr h, hname "sql" (by decide), hname "windows login" (by decide),
    hname "windowslogin" (by decide), hname "serviceprincipal" (by decide),
    hname "activedirectoryserviceprincipal" (by decide),
    hname "activedirectorypassword" (by decide), hname "activedirectoryinteractive" (by decide),
    hname "activedirectoryaccesstoken" (by decide)]

/-- Two texts make the same choice of a mode. -/
inductive SpellAlike (s t : String) : Prop
  /-- Neither spells a mode. -/
  | neither (hs : ofText? s = none) (ht : ofText? t = none)
  /-- Both spell the same mode. -/
  | same {mode : AuthenticationMode} (hs : ofText? s = some mode) (ht : ofText? t = some mode)
  /-- Both spell a directory mode, and each keeps its own spelling of it. -/
  | directory (hs : ofText? s = some (.activeDirectory (trim s)))
    (ht : ofText? t = some (.activeDirectory (trim t)))

/-- Texts whose lower-case forms agree in ASCII make the same choice. -/
lemma spellAlike_of_sameAscii {s t : String}
    (h : SameAscii (lowercase (trim s)).toList (lowercase (trim t)).toList) : SpellAlike s t := by
  have hfixed : ofLowercase? (lowercase (trim s)) = ofLowercase? (lowercase (trim t)) :=
    ofLowercase?_congr h
  have hstem : directoryStem.toList <+: (lowercase (trim s)).toList ↔
      directoryStem.toList <+: (lowercase (trim t)).toList := h.prefix_iff (by decide)
  cases hmode : ofLowercase? (lowercase (trim t)) with
  | some mode => exact .same (ofText?_of_some (hfixed.trans hmode)) (ofText?_of_some hmode)
  | none =>
    have hs := ofText?_of_none (hfixed.trans hmode)
    have ht := ofText?_of_none hmode
    by_cases hdirectory : directoryStem.toList <+: (lowercase (trim t)).toList
    · rw [if_pos (hstem.mpr hdirectory)] at hs
      rw [if_pos hdirectory] at ht
      exact .directory hs ht
    · rw [if_neg (mt hstem.mp hdirectory)] at hs
      rw [if_neg hdirectory] at ht
      exact .neither hs ht

/-! ### Modes of profiles -/

/-- A mode that is read from a value of a document is spelled there. -/
lemma isSpelled_of_read {d : Datum} {mode : AuthenticationMode}
    (h : d.readAuthentication = .ok mode) : mode.IsSpelled := by
  unfold Datum.readAuthentication at h
  split at h
  next => cases h
  next s _ =>
    split at h
    next mode' hmode =>
      obtain rfl := Except.ok.inj h
      exact ⟨s, hmode⟩
    next => cases h

lemma isSpelled_activeDirectoryServicePrincipal : activeDirectoryServicePrincipal.IsSpelled :=
  ⟨"serviceprincipal", by decide⟩

lemma isSpelled_windowsLogin : windowsLogin.IsSpelled := ⟨"windowslogin", by decide⟩

end AuthenticationMode

namespace ProfileDraft

open AuthenticationMode

/-- The mode that a draft gives, if it gives one, is spelled by some text. -/
def HasSpelledMode (draft : ProfileDraft) : Prop :=
  ∀ mode, draft .authentication = some mode → mode.IsSpelled

lemma hasSpelledMode_empty : empty.HasSpelledMode := by
  intro mode h
  cases h

/-- A value that was read for a field leaves a mode that some text spells. -/
lemma HasSpelledMode.set {draft : ProfileDraft} {f : ProfileField} {d : Datum}
    {value : f.kind.Value} (hdraft : draft.HasSpelledMode) (hread : d.read f.kind = .ok value) :
    (draft.set f value).HasSpelledMode := by
  intro mode hmode
  by_cases hf : f = .authentication
  · subst hf
    rw [set_self] at hmode
    obtain rfl := Option.some.inj hmode
    exact isSpelled_of_read hread
  · rw [set_other draft value hf] at hmode
    exact hdraft mode hmode

/-- Values taken up in the order of the fields leave a mode that some text spells. -/
lemma hasSpelledMode_addItems {draft result : ProfileDraft} {fields : List ProfileField}
    {items : List Datum} (hdraft : draft.HasSpelledMode)
    (h : draft.addItems fields items = .ok result) : result.HasSpelledMode := by
  induction items generalizing draft fields with
  | nil =>
    rw [addItems] at h
    cases h
    exact hdraft
  | cons d rest ih =>
    cases fields with
    | nil =>
      rw [addItems] at h
      cases h
    | cons f fields =>
      rw [addItems] at h
      split at h
      next value hread => exact ih (hdraft.set hread) h
      next => cases h

/-- The profile of a draft has a mode that some text spells. -/
lemma HasSpelledMode.toProfile {draft : ProfileDraft} {p : Profile} (hdraft : draft.HasSpelledMode)
    (h : draft.toProfile = .ok p) : p.authentication.IsSpelled := by
  have hmode : p.authentication =
      (draft .authentication).getD .activeDirectoryServicePrincipal :=
    (Profile.toProfile_eq_ok_iff.mp h).2 .authentication
  rw [hmode]
  cases hgiven : draft .authentication with
  | none => exact isSpelled_activeDirectoryServicePrincipal
  | some mode => exact hdraft mode hgiven

end ProfileDraft

namespace Profile

open AuthenticationMode

/-- The mode of a profile that entries give is spelled by some text. -/
lemma isSpelled_of_ofEntries {entries : List (String × Datum)} {p : Profile}
    (h : ofEntries entries = .ok p) : p.authentication.IsSpelled := by
  have hsettled := ofEntries_eq_ok_iff.mp h .authentication
  generalize ProfileField.valuesIn .authentication entries = values at hsettled
  cases hsettled with
  | default _ hdefault =>
    have hmode : p.authentication = .activeDirectoryServicePrincipal := hdefault
    rw [hmode]
    exact isSpelled_activeDirectoryServicePrincipal
  | value hread => exact isSpelled_of_read hread

/-- The mode of a profile that a JSON value gives is spelled by some text. -/
lemma isSpelled_of_ofJson {j : Json} {p : Profile} (h : ofJson j = .ok p) :
    p.authentication.IsSpelled := by
  cases j with
  | object entries => exact isSpelled_of_ofEntries h
  | array items =>
    rw [ofJson] at h
    split at h
    next draft hdraft =>
      have hspelled : draft.HasSpelledMode :=
        ProfileDraft.hasSpelledMode_addItems ProfileDraft.hasSpelledMode_empty hdraft
      exact hspelled.toProfile h
    next => cases h
  | _ => cases h

/-- What a document gives is a profile of entries that has passed its checks. -/
lemma exists_ofEntries_of_ofToml {document : String} {p : Profile} (h : ofToml document = .ok p) :
    ∃ entries q, ofEntries entries = .ok q ∧ q.validated = .ok p := by
  unfold ofToml at h
  split at h
  · cases h
  · split at h
    · cases h
    · next q hentries => exact ⟨_, q, hentries, h⟩

/-- A profile that is loaded from a file passes its checks, and some text spells its mode. -/
lemma isSpelled_of_ofFile {file : FileContent} {p : Profile} (h : ofFile file = .ok p) :
    p.validated = .ok p ∧ p.authentication.IsSpelled := by
  unfold ofFile at h
  split at h
  · cases h
  · obtain ⟨entries, q, hentries, hchecked⟩ := exists_ofEntries_of_ofToml h
    obtain ⟨-, -, rfl⟩ := validated_eq_ok_iff.mp hchecked
    refine ⟨validated_of_validated hchecked, ?_⟩
    unfold normalize
    split_ifs
    · exact isSpelled_windowsLogin
    · exact isSpelled_of_ofEntries hentries

/-! ### Profiles in JSON -/

/-- The mode is the one field whose values have to be spelled by some text. -/
lemma isSpelled_get {p : Profile} (h : p.authentication.IsSpelled) (f : ProfileField) :
    f.kind.IsSpelled (p.get f) := by
  cases f with
  | authentication => exact h
  | _ => trivial

/-- A profile is read from its own JSON value if some text spells its mode. -/
theorem ofJson_toJson {p : Profile} (h : p.authentication.IsSpelled) : ofJson p.toJson = .ok p := by
  let held (f : ProfileField) : Json := valueToJson f.kind (p.get f)
  let entries : List (String × Json) := ProfileField.all.map fun f => (f.name, held f)
  refine ofJson_object_eq_ok_iff.mpr fun f => ?_
  have hvalue : p.SettledBy f [Datum.ofJson (held f)] :=
    .value (FieldKind.read_valueToJson (isSpelled_get h f))
  have hvalues : f.valuesIn entries = [held f] := by
    have hfields : ProfileField.all.Nodup := by decide
    have hentries : entries = ProfileField.all.filterMap fun g => (some (held g)).map (g.name, ·) :=
      (congrFun List.filterMap_eq_map' _).symm
    rw [hentries, f.valuesIn_ownNames (fun g => some (held g)) hfields, if_pos f.mem_all,
      Option.toList_some]
  have hsorted : (f.valuesIn (Json.sortEntries entries)).Perm [held f] := by
    have hkeys : (entries.map Prod.fst).Nodup := by
      have hnames : (ProfileField.all.map ProfileField.name).Nodup := by decide
      rwa [List.map_map]
    rw [← hvalues]
    exact (Json.perm_sortEntries hkeys).filterMap _
  exact hvalue.of_perm (hsorted.symm.map Datum.ofJson)

end Profile

/-! ### Saved files -/

namespace FieldKind

/-- A value that can be written is one that a document can hold. -/
lemma storable_of_writeValue {kind : FieldKind} {v : kind.Value} (hmode : kind.IsSpelled v)
    (h : Profile.writeValue kind v ≠ none) : kind.Storable v := by
  cases kind with
  | word64 =>
    by_contra hlarge
    exact h (if_neg hlarge)
  | authentication => exact hmode
  | _ => trivial

end FieldKind

namespace Profile

open AuthenticationMode

/-- When fields are written, the value of each of them is. -/
lemma writeValue_ne_none_of_writeFields {p : Profile} {fields : List ProfileField}
    {lines : List Char} (h : p.writeFields fields = some lines) :
    ∀ f ∈ fields, writeValue f.kind (p.get f) ≠ none := by
  induction fields generalizing lines with
  | nil => simp
  | cons f fields ih =>
    rw [writeFields] at h
    cases hvalue : writeValue f.kind (p.get f) with
    | none => simp [hvalue] at h
    | some written =>
      cases hlines : p.writeFields fields with
      | none => cases written <;> simp [hvalue, hlines] at h
      | some rest =>
        refine List.forall_mem_cons.mpr ⟨?_, ih hlines⟩
        rw [hvalue]
        exact Option.some_ne_none written

/-- A profile that is written is one that a document can hold, if some text spells its mode. -/
lemma storable_of_toToml {p : Profile} {saved : String} (hmode : p.authentication.IsSpelled)
    (h : p.toToml = .ok saved) : p.Storable := by
  intro f
  unfold toToml at h
  split at h
  next lines hlines =>
    exact FieldKind.storable_of_writeValue (isSpelled_get hmode f)
      (writeValue_ne_none_of_writeFields hlines f f.mem_all)
  next => cases h

/-- A profile that was loaded and is saved is loaded again with the mode it had. -/
lemma mode_of_saved {file : FileContent} {p : Profile} {saved : String} (h : ofFile file = .ok p)
    (hsaved : p.toToml = .ok saved) :
    ∃ q, ofFile (.bytes (encodeUtf8 saved)) = .ok q ∧ q.authentication = p.authentication := by
  obtain ⟨hvalid, hmode⟩ := isSpelled_of_ofFile h
  obtain ⟨document, hdocument, hloaded⟩ :=
    ofFile_of_storable (storable_of_toToml hmode hsaved) hvalid
  obtain rfl : saved = document := Except.ok.inj (hsaved.symm.trans hdocument)
  exact ⟨_, hloaded, rfl⟩

end Profile

/-! ### Reading again -/

namespace AuthenticationMode

/-- The mode that is spelled by a text.

* A mode that was read is read again from its own text, a profile that was read from JSON from its
  own JSON value, and the mode of a profile that was loaded from a file from the file in which it is
  saved.
* Two texts with the same lower-case form, blanks around them left out, make the same choice:
  neither spells a mode, or both spell the same, or both a directory mode that keeps the spelling.
  So do they when the forms are the same only if a sigma at the end of a word is not told from
  others.
* Blanks around a text make no difference at all. -/
theorem choice_of_spelling :
    (∀ s mode, ofText? s = some mode → ofText? mode.text = some mode) ∧
    (∀ j p, Profile.ofJson j = .ok p → Profile.ofJson p.toJson = .ok p) ∧
    (∀ file p saved, Profile.ofFile file = .ok p → p.toToml = .ok saved →
      ∃ q, Profile.ofFile (.bytes (encodeUtf8 saved)) = .ok q ∧
        q.authentication = p.authentication) ∧
    (∀ s t, lowercase (trim s) = lowercase (trim t) ∨
      lowercaseEach (trim s) = lowercaseEach (trim t) → SpellAlike s t) ∧
    ∀ before s after, isBlankText before = true → isBlankText after = true →
      ofText? (before ++ s ++ after) = ofText? s := by
  refine ⟨fun s mode h => ofText?_text h, fun j p h => ?_, fun file p saved h hsaved => ?_,
    fun s t h => ?_, fun before s after hbefore hafter => ?_⟩
  · exact Profile.ofJson_toJson (Profile.isSpelled_of_ofJson h)
  · exact Profile.mode_of_saved h hsaved
  · apply spellAlike_of_sameAscii
    rcases h with h | h
    · rw [h]
      exact .refl _
    · have hs := sameAscii_lowercase (trim s)
      rw [h] at hs
      exact hs.trans (sameAscii_lowercase (trim t)).symm
  · simp only [ofText?, trim_padded s hbefore hafter]

/-- A profile with a directory mode. -/
def directoryProfile : Profile :=
  { Profile.new "abc" "sales" "dbo" with authentication := .activeDirectory "ActiveDirectoryMsi" }

/-- A mode with blanks around it, a profile from JSON and one from a file, a Kelvin sign for the
last letter of a notebook, and directory modes that end in a sigma. -/
theorem choice_of_oddSpellings :
    ofText? "\tActiveDirectoryMsi\n" = some (.activeDirectory "ActiveDirectoryMsi") ∧
    ofText? "ActiveDirectoryMsi" = some (.activeDirectory "ActiveDirectoryMsi") ∧
    (∃ j, Profile.ofJson j = .ok directoryProfile ∧
      Profile.ofJson directoryProfile.toJson = .ok directoryProfile) ∧
    (∃ saved, directoryProfile.toToml = .ok saved ∧
      Profile.ofFile (.bytes (encodeUtf8 saved)) = .ok directoryProfile ∧
      ∃ q, Profile.ofFile (.bytes (encodeUtf8 saved)) = .ok q ∧
        q.authentication = directoryProfile.authentication) ∧
    lowercase (trim "FABRICNOTEBOO\u212a") = lowercase (trim " fabricnotebook") ∧
    SpellAlike "FABRICNOTEBOO\u212a" " fabricnotebook" ∧
    lowercaseEach (trim "ACTIVEDIRECTORY\u03a3") = lowercaseEach (trim "activedirectory\u03c3") ∧
    SpellAlike "ACTIVEDIRECTORY\u03a3" "activedirectory\u03c3" ∧
    isBlankText "\u00a0" = true ∧ ofText? ("\u00a0" ++ "sql" ++ "\u00a0") = ofText? "sql" := by
  obtain ⟨hagain, hjson, hfile, halike, hpadded⟩ := choice_of_spelling
  have hmode : ofText? "\tActiveDirectoryMsi\n" = some (.activeDirectory "ActiveDirectoryMsi") := by
    decide
  have hshown : Profile.ofJson (.object [("server", .text "abc"), ("database", .text "sales"),
      ("schema", .text "dbo"), ("auth", .text " ActiveDirectoryMsi")]) = .ok directoryProfile := by
    decide
  have hvalid : directoryProfile.validated = .ok directoryProfile := by decide
  have hrange : ∀ n ∈ [directoryProfile.loginTimeout, directoryProfile.queryTimeout,
      directoryProfile.tokenRefreshMarginSecs, directoryProfile.snapshotPollDelaySecs],
      n.toNat < 2 ^ 63 := by
    simp only [List.forall_mem_cons]
    exact ⟨by decide, by decide, by decide, by decide, by simp⟩
  obtain ⟨saved, hsaved, hloaded⟩ :=
    Profile.ofFile_of_storable (Profile.storable_of_forall_lt ⟨_, hmode⟩ hrange) hvalid
  rw [Profile.withExpiry_eq_self_iff.mpr (by decide)] at hloaded
  have hkelvin : lowercase (trim "FABRICNOTEBOO\u212a") = lowercase (trim " fabricnotebook") := by
    decide +kernel
  have hsigma : lowercaseEach (trim "ACTIVEDIRECTORY\u03a3") =
      lowercaseEach (trim "activedirectory\u03c3") := by
    decide +kernel
  have hblank : isBlankText "\u00a0" = true := by decide
  refine ⟨hmode, ?_, ⟨_, hshown, ?_⟩, ⟨saved, hsaved, hloaded, ?_⟩, hkelvin, ?_, hsigma, ?_, hblank,
    ?_⟩
  · exact hagain _ (.activeDirectory "ActiveDirectoryMsi") hmode
  · exact hjson _ _ hshown
  · exact hfile _ _ _ hloaded hsaved
  · exact halike _ _ (.inl hkelvin)
  · exact halike _ _ (.inr hsigma)
  · exact hpadded _ _ _ hblank hblank

end AuthenticationMode

end WarehouseAccess
