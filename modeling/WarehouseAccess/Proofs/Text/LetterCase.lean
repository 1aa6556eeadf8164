import Mathlib.Data.List.Forall2
import Mathlib.Data.List.TakeWhile
import WarehouseAccess.Text.Editing
import WarehouseAccess.Text.Lowercase

/-!
# Letter case and names

What the lower-case form of a text does to its characters depends on those around them in one case:
a capital sigma.  No name that texts are compared with has a sigma, or any other character outside
ASCII, so for such a name the lower-case form is as good as the one that is taken letter by letter.
-/

namespace WarehouseAccess

/-! ### Texts that agree in ASCII -/

/-- The two characters are the same unless neither is one of ASCII. -/
def AgreeInAscii (c d : Char) : Prop := c = d ∨ 0x80 ≤ c.toNat ∧ 0x80 ≤ d.toNat

namespace AgreeInAscii

variable {c d e : Char}

lemma symm (h : AgreeInAscii c d) : AgreeInAscii d c := by
  rcases h with rfl | ⟨hc, hd⟩
  · exact .inl rfl
  · exact .inr ⟨hd, hc⟩

lemma trans (h : AgreeInAscii c d) (h' : AgreeInAscii d e) : AgreeInAscii c e := by
  rcases h with rfl | ⟨hc, hd⟩
  · exact h'
  · rcases h' with rfl | ⟨-, he⟩
    · exact .inr ⟨hc, hd⟩
    · exact .inr ⟨hc, he⟩

end AgreeInAscii

/-- The texts are of one length, and at every place they agree in ASCII. -/
abbrev SameAscii : List Char → List Char → Prop := List.Forall₂ AgreeInAscii

/-- All characters are of ASCII. -/
def IsAscii (l : List Char) : Prop := ∀ c ∈ l, c.toNat < 0x80

instance (l : List Char) : Decidable (IsAscii l) :=
  List.decidableBAll (fun c : Char => c.toNat < 0x80) l

namespace SameAscii

variable {l l' l'' m m' : List Char}

lemma refl (l : List Char) : SameAscii l l := List.forall₂_same.mpr fun _ _ => .inl rfl

lemma symm (h : SameAscii l l') : SameAscii l' l := (h.imp fun _ _ hc => hc.symm).flip

lemma trans (h : SameAscii l l') (h' : SameAscii l' l'') : SameAscii l l'' := by
  induction h generalizing l'' with
  | nil => exact h'
  | cons hc _ ih =>
    obtain ⟨_, _, hd, hrest, rfl⟩ := List.forall₂_cons_left_iff.mp h'
    exact .cons (hc.trans hd) (ih hrest)

lemma append (h : SameAscii l l') (h' : SameAscii m m') : SameAscii (l ++ m) (l' ++ m') :=
  List.rel_append h h'

/-- What agrees with a text of ASCII is that text. -/
lemma eq_of_isAscii (h : SameAscii l l') (hl : IsAscii l) : l = l' := by
  induction h with
  | nil => rfl
  | cons hc _ ih =>
    obtain ⟨hhead, hrest⟩ := List.forall_mem_cons.mp hl
    rcases hc with rfl | ⟨hc, -⟩
    · rw [ih hrest]
    · omega

/-- Texts that agree are the same text of ASCII, if they are one at all. -/
lemma eq_iff (h : SameAscii l l') {name : List Char} (hname : IsAscii name) :
    l = name ↔ l' = name := by
  constructor
  · rintro rfl
    exact (h.eq_of_isAscii hname).symm
  · rintro rfl
    exact (h.symm.eq_of_isAscii hname).symm

/-- Texts that agree begin with the same texts of ASCII. -/
lemma prefix_iff (h : SameAscii l l') {name : List Char} (hname : IsAscii name) :
    name <+: l ↔ name <+: l' := by
  have htake : SameAscii (l.take name.length) (l'.take name.length) :=
    List.forall₂_take name.length h
  rw [List.prefix_iff_eq_take, List.prefix_iff_eq_take, eq_comm, htake.eq_iff hname, eq_comm]

end SameAscii

/-! ### Letter by letter -/

/-- The lower-case form of a text taken letter by letter, so that a capital sigma becomes the same
small one wherever it stands. -/
def lowercaseEach (s : String) : String :=
  String.ofList (s.toList.flatMap lowercaseChar)

/-- Of a capital sigma both forms have one small letter, which is none of ASCII. -/
lemma sameAscii_sigma {c : Char} (h : c.toNat = 0x3A3) (final : Bool) :
    SameAscii [Char.ofNat (if final then 0x3C2 else 0x3C3)] (lowercaseChar c) := by
  obtain rfl : c = Char.ofNat 0x3A3 := by rw [← h, Char.ofNat_toNat]
  have hlower : lowercaseChar (Char.ofNat 0x3A3) = [Char.ofNat 0x3C3] := by decide +kernel
  rw [hlower]
  refine .cons (.inr ⟨?_, by decide⟩) .nil
  cases final <;> decide

lemma sameAscii_lowercaseFrom (before l : List Char) :
    SameAscii (lowercaseFrom before l) (l.flatMap lowercaseChar) := by
  induction l generalizing before with
  | nil => exact .nil
  | cons c rest ih =>
    rw [lowercaseFrom, List.flatMap_cons]
    refine SameAscii.append ?_ (ih (c :: before))
    by_cases hc : c.toNat = 0x3A3
    · rw [if_pos (by simp [hc])]
      exact sameAscii_sigma hc _
    · rw [if_neg (by simp [hc])]
      exact .refl _

/-- The two lower-case forms of a text agree in ASCII. -/
lemma sameAscii_lowercase (s : String) :
    SameAscii (lowercase s).toList (lowercaseEach s).toList := by
  rw [lowercase, lowercaseEach, String.toList_ofList, String.toList_ofList]
  exact sameAscii_lowercaseFrom [] s.toList

/-! ### Padding -/

/-- What stands around a list and is dropped anyway does not count. -/
lemma dropAround_padded {α : Type} (p : α → Bool) {before after : List α} (l : List α)
    (hbefore : ∀ a ∈ before, p a = true) (hafter : ∀ a ∈ after, p a = true) :
    dropAround p (before ++ l ++ after) = dropAround p l := by
  have htrailing (l : List α) : dropTrailing p (l ++ after) = dropTrailing p l := by
    have hreverse : ∀ a ∈ after.reverse, p a = true := by simpa using hafter
    rw [dropTrailing, List.reverse_append, List.dropWhile_append_of_pos hreverse, dropTrailing]
  rw [dropAround, List.append_assoc, List.dropWhile_append_of_pos hbefore, List.dropWhile_append,
    dropAround]
  split_ifs with hempty
  · -- all is dropped from the front
    have hafter' : after.dropWhile p = [] := List.dropWhile_eq_nil_iff.mpr hafter
    rw [hafter', List.isEmpty_iff.mp hempty]
  · exact htrailing _

/-- Blanks around a text do not count. -/
lemma trim_padded {before after : String} (s : String) (hbefore : isBlankText before = true)
    (hafter : isBlankText after = true) : trim (before ++ s ++ after) = trim s := by
  rw [trim, String.toList_append, String.toList_append,
    dropAround_padded isBlank s.toList (List.all_eq_true.mp hbefore) (List.all_eq_true.mp hafter),
    trim]

end WarehouseAccess
