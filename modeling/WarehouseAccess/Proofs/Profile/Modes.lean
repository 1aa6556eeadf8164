import Mathlib.Data.List.DropRight
import WarehouseAccess.Profile.Choices

/-!
# Spelled modes

A mode that was read from a text is read again from its own spelling: the modes of a fixed name by
that name, a directory mode by the spelling it kept.
-/

namespace WarehouseAccess

/-- Nothing is left to drop at either end. -/
lemma dropAround_dropAround {α : Type} (p : α → Bool) (l : List α) :
    dropAround p (dropAround p l) = dropAround p l := by
  have hfront : (dropAround p l).dropWhile p = dropAround p l := by
    have hprefix : dropAround p l <+: l.dropWhile p := List.rdropWhile_prefix p _
    cases h : dropAround p l with
    | nil => rfl
    | cons a rest =>
      obtain ⟨behind, heq⟩ := h ▸ hprefix
      have ha := List.head_dropWhile_not p (l := l) (by simp [← heq])
      simp only [← heq, List.cons_append, List.head_cons] at ha
      exact List.dropWhile_cons_of_neg (by simp [ha])
  rw [dropAround, hfront]
  exact List.rdropWhile_idempotent p _

lemma trim_trim (s : String) : trim (trim s) = trim s := by
  rw [trim, trim, String.toList_ofList, dropAround_dropAround]

namespace AuthenticationMode

lemma ofText?_of_some {s : String} {mode : AuthenticationMode}
    (h : ofLowercase? (lowercase (trim s)) = some mode) : ofText? s = some mode := by
  simp only [ofText?, h]

/-- A text without a fixed mode spells a directory mode if it begins as those do. -/
lemma ofText?_of_none {s : String} (h : ofLowercase? (lowercase (trim s)) = none) :
    ofText? s = if directoryStem.toList <+: (lowercase (trim s)).toList then
      some (.activeDirectory (trim s)) else none := by
  simp only [ofText?, h, List.isPrefixOf_iff_prefix]

/-- A mode of a fixed name is read from it. -/
lemma ofText?_of_ofLowercase? {lower : String} {mode : AuthenticationMode}
    (h : ofLowercase? lower = some mode) : ofText? mode.text = some mode := by
  unfold ofLowercase? at h
  split at h
  next strategy _ =>
    obtain rfl := Option.some.inj h
    cases strategy <;> decide
  next =>
    split_ifs at h
    all_goals
      obtain rfl := Option.some.inj h
      decide

/-- A mode that was read is read again from its spelling. -/
theorem ofText?_text {s : String} {mode : AuthenticationMode} (h : ofText? s = some mode) :
    ofText? mode.text = some mode := by
  cases hfixed : ofLowercase? (lowercase (trim s)) with
  | some fixed =>
    rw [ofText?_of_some hfixed] at h
    obtain rfl := Option.some.inj h
    exact ofText?_of_ofLowercase? hfixed
  | none =>
    have hread := h
    rw [ofText?_of_none hfixed] at hread
    split_ifs at hread
    obtain rfl := Option.some.inj hread
    -- The text and its trimmed spelling differ in blanks only.
    have hsame : ofText? (trim s) = ofText? s := by
      simp only [ofText?, trim_trim]
    exact hsame.trans h

/-- Some text spells the mode. -/
def IsSpelled (mode : AuthenticationMode) : Prop := ∃ s, ofText? s = some mode

end AuthenticationMode

end WarehouseAccess
