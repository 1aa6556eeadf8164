import Mathlib.Data.List.Forall2
import WarehouseAccess.Driver.Basic
import WarehouseAccess.Proofs.Calendar.IsoText

/-!
# What is bound can be read back

Dates and times are bound to a statement as text.  No information is lost on the way but the part of
a fraction below the microsecond: `ofIsoText?` reads such a text, `ofIsoText?_isoText` and its
counterpart for offsets say that it gives the date and time back, and `parameters_of_bindings` says
what this means for a whole list of values.
-/

namespace WarehouseAccess

namespace SqlValue

/-- The value is a date and time, with or without an offset. -/
def IsMoment : SqlValue → Prop
  | dateTime _ | dateTimeOffset _ => True
  | _ => False

/-- The value is a date and time that exists, or none at all. -/
def Exists : SqlValue → Prop
  | dateTime t => t.Exists
  | dateTimeOffset t => t.Exists
  | _ => True

instance (v : SqlValue) : Decidable v.Exists :=
  match v with
  | dateTime t => inferInstanceAs (Decidable t.Exists)
  | dateTimeOffset t => inferInstanceAs (Decidable t.Exists)
  | null | bool _ | int _ | float _ | text _ | bytes _ => inferInstanceAs (Decidable True)

/-- The value, a date and time to the microsecond. -/
def toMicrosecond : SqlValue → SqlValue
  | dateTime t => dateTime t.toMicrosecond
  | dateTimeOffset t => dateTimeOffset { t with wall := t.wall.toMicrosecond }
  | v => v

/-- The date and time that a text spells, with an offset if there is one. -/
def ofIsoText? (s : String) : Option SqlValue :=
  match DateTime.takeIso s.toList with
  | some (t, []) => some (dateTime t)
  | some (t, l) =>
    match OffsetDateTime.takeOffset l with
    | some (offset, []) => some (dateTimeOffset ⟨t, offset⟩)
    | _ => none
  | none => none

/-- A date and time without an offset is read back. -/
lemma ofIsoText?_isoText {t : DateTime} (h : t.Exists) :
    ofIsoText? (String.ofList t.isoText) = some (dateTime t.toMicrosecond) := by
  have hread : DateTime.takeIso (t.isoText ++ []) = some (t.toMicrosecond, []) :=
    DateTime.takeIso_isoText h ⟨nofun, nofun⟩
  rw [List.append_nil] at hread
  rw [ofIsoText?, String.toList_ofList, hread]

/-- A date and time at an offset is read back. -/
lemma ofIsoText?_isoText_offset {t : OffsetDateTime} (h : t.Exists) :
    ofIsoText? (String.ofList t.isoText) =
      some (dateTimeOffset { t with wall := t.wall.toMicrosecond }) := by
  have hread := DateTime.takeIso_isoText h.1 (OffsetDateTime.endsFraction_offsetText t.offset)
  have hoffset := OffsetDateTime.takeOffset_offsetText h.2
  obtain ⟨sign, rest, -, hcons⟩ := OffsetDateTime.exists_offsetText_eq_cons t.offset
  rw [hcons] at hread hoffset
  rw [ofIsoText?, String.toList_ofList, OffsetDateTime.isoText, hcons, hread]
  dsimp only
  rw [hoffset]

/-- How a value is bound: as it is, or as text that it can be read from. -/
inductive BoundAs : SqlValue → SqlValue → Prop
  | same {v : SqlValue} (h : ¬ v.IsMoment) : BoundAs v v
  | text {v : SqlValue} {s : String} (h : v.IsMoment)
      (hread : ofIsoText? s = some v.toMicrosecond) : BoundAs v (text s)

/-- Every value is bound in one of these two ways. -/
lemma boundAs_toParameter {v : SqlValue} (h : v.Exists) : BoundAs v v.toParameter := by
  cases v with
  | dateTime t => exact .text trivial (ofIsoText?_isoText h)
  | dateTimeOffset t => exact .text trivial (ofIsoText?_isoText_offset h)
  | null | bool _ | int _ | float _ | text _ | bytes _ => exact .same id

/-- Of two dates and times with one text the text is read as both. -/
lemma BoundAs.eq_of_isMoment {v w b : SqlValue} (hv : BoundAs v b) (hw : BoundAs w b)
    (hvMoment : v.IsMoment) (hwMoment : w.IsMoment) : v.toMicrosecond = w.toMicrosecond := by
  cases hv with
  | same h => exact absurd hvMoment h
  | text _ hread =>
    cases hw with
    | same h => exact absurd hwMoment h
    | text _ hread' => exact Option.some.inj (hread.symm.trans hread')

/-- What is bound is bound as it is. -/
lemma toParameter_toParameter (v : SqlValue) : v.toParameter.toParameter = v.toParameter := by
  cases v <;> rfl

/-- How a list of values is bound.  Every value that is no date and time stays as it is, in its
place, and every date and time becomes a text that is read as the same date and time to the
microsecond, at the same offset if there is one.  Hence two dates and times that are bound as the
same text agree to the microsecond, and binding what was bound changes nothing. -/
theorem parameters_of_bindings (values : List SqlValue) (h : ∀ v ∈ values, v.Exists) :
    ∃ bound, bindParameters (some values) = some bound ∧
      List.Forall₂ BoundAs values bound ∧
      (∀ v ∈ values, ∀ w : SqlValue, w.Exists → v.IsMoment → w.IsMoment →
        v.toParameter = w.toParameter → v.toMicrosecond = w.toMicrosecond) ∧
      bindParameters (some bound) = some bound := by
  refine ⟨values.map toParameter, rfl, ?_, ?_, ?_⟩
  · rw [List.forall₂_map_right_iff, List.forall₂_same]
    intro v hv
    exact boundAs_toParameter (h v hv)
  · intro v hv w hw hvMoment hwMoment hsame
    have hbound := boundAs_toParameter (h v hv)
    rw [hsame] at hbound
    exact hbound.eq_of_isMoment (boundAs_toParameter hw) hvMoment hwMoment
  · have hagain : (values.map toParameter).map toParameter = values.map toParameter := by
      rw [List.map_map]
      apply List.map_congr_left
      intro v _
      exact toParameter_toParameter v
    exact congrArg some hagain

/-- A leap second at the end of a year before the calendar, a year of five digits with an offset
that has seconds, and values that are not dates. -/
def oddBindings : List SqlValue :=
  [dateTime ⟨-45, 12, 31, 23, 59, 59, 1999999999⟩,
    dateTimeOffset ⟨⟨12024, 2, 29, 0, 0, 0, 1⟩, -19815⟩, text "2024-02-29T00:00:00", null]

theorem parameters_of_oddBindings :
    bindParameters (some oddBindings) =
      some [text "-0045-12-31T23:59:60.999999", text "+12024-02-29T00:00:00.000000-05:30:15",
        text "2024-02-29T00:00:00", null] ∧
    List.Forall₂ BoundAs oddBindings
      [text "-0045-12-31T23:59:60.999999", text "+12024-02-29T00:00:00.000000-05:30:15",
        text "2024-02-29T00:00:00", null] := by
  have htexts : bindParameters (some oddBindings) =
      some [text "-0045-12-31T23:59:60.999999", text "+12024-02-29T00:00:00.000000-05:30:15",
        text "2024-02-29T00:00:00", null] := by decide
  obtain ⟨bound, hbound, hall, -⟩ := parameters_of_bindings oddBindings (by decide)
  rw [htexts] at hbound
  obtain rfl := Option.some.inj hbound
  exact ⟨htexts, hall⟩

end SqlValue

end WarehouseAccess
