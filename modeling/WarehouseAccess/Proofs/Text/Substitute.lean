import Mathlib.Tactic.Common
import WarehouseAccess.Text.Editing

/-!
# Masking a secret

To substitute a word in a text is to look for its leftmost occurrence, to put the new word in its
place, and to go on behind it.  `Substituted` says that of two texts without saying how the first
one is searched, and `substituted_iff` that `substituteFrom` leads from the one to the other.

What is left of a text need not be without the word: an occurrence may begin in what stands before
the place of another one and end behind it.  `not_infix_of_substituted` shows that this takes a word
that has a character in common with the new one.  So a masked text contains the secret only if the
secret contains an asterisk.
-/

namespace WarehouseAccess

/-! ### Substituting a word -/

/-- The second text is the first one with the leftmost, non-overlapping occurrences of a word
replaced by a new one. -/
inductive Substituted (word new : List Char) : List Char → List Char → Prop
  /-- A text without the word is left as it is. -/
  | absent {text : List Char} (h : ¬ word <:+: text) : Substituted word new text text
  /-- No occurrence begins further to the left than the one that is replaced first; the others are
  looked for behind it. -/
  | first {before after shown : List Char}
    (hleftmost : ∀ start behind, before ++ (word ++ after) = start ++ (word ++ behind) →
      before.length ≤ start.length)
    (hrest : Substituted word new after shown) :
    Substituted word new (before ++ (word ++ after)) (before ++ (new ++ shown))

section Scanning

variable {word new : List Char}

/-- The characters of an occurrence that was replaced are passed over. -/
lemma substituteFrom_eq_drop (skip : ℕ) (text : List Char) :
    substituteFrom word new skip text = substituteFrom word new 0 (text.drop skip) := by
  induction text generalizing skip with
  | nil => rw [List.drop_nil, substituteFrom, substituteFrom]
  | cons c rest ih =>
    cases skip with
    | zero => rfl
    | succ skip =>
      rw [substituteFrom, List.drop_succ_cons]
      exact ih skip

/-- Where the word stands, the new one is put, and the search goes on behind it. -/
lemma substituteFrom_append (hword : word ≠ []) (after : List Char) :
    substituteFrom word new 0 (word ++ after) = new ++ substituteFrom word new 0 after := by
  obtain ⟨c, rest, rfl⟩ := List.exists_cons_of_ne_nil hword
  have hprefix : (c :: rest).isPrefixOf (c :: (rest ++ after)) = true := by
    rw [List.isPrefixOf_iff_prefix]
    exact List.prefix_append (c :: rest) after
  rw [List.cons_append, substituteFrom, if_pos hprefix, substituteFrom_eq_drop]
  simp

/-- Where the word does not stand, a character is kept. -/
lemma substituteFrom_cons {c : Char} {rest : List Char} (h : ¬ word <+: c :: rest) :
    substituteFrom word new 0 (c :: rest) = c :: substituteFrom word new 0 rest := by
  rw [substituteFrom, if_neg (by rwa [List.isPrefixOf_iff_prefix])]

/-- Where no occurrence begins, the search goes on. -/
lemma Substituted.cons {c : Char} {rest shown : List Char} (hstart : ¬ word <+: c :: rest)
    (h : Substituted word new rest shown) : Substituted word new (c :: rest) (c :: shown) := by
  cases h with
  | absent habsent =>
    refine .absent fun hinfix => ?_
    rcases List.infix_cons_iff.mp hinfix with hprefix | hinfix
    · exact hstart hprefix
    · exact habsent hinfix
  | @first before after shown hleftmost hrest =>
    have hshifted : ∀ start behind, (c :: before) ++ (word ++ after) = start ++ (word ++ behind) →
        (c :: before).length ≤ start.length := by
      intro start behind heq
      cases start with
      | nil =>
        have hprefix : word <+: c :: (before ++ (word ++ after)) := ⟨behind, heq.symm⟩
        exact absurd hprefix hstart
      | cons c' start =>
        have hlength := hleftmost start behind (List.cons.inj heq).2
        simpa using hlength
    exact Substituted.first hshifted hrest

/-- What the search makes of a text. -/
lemma substituted_substituteFrom (hword : word ≠ []) (text : List Char) :
    Substituted word new text (substituteFrom word new 0 text) := by
  -- each step is one character to the right, or behind an occurrence
  induction hlength : text.length using Nat.strongRecOn generalizing text with
  | ind n ih =>
    subst hlength
    by_cases hprefix : word <+: text
    · obtain ⟨after, rfl⟩ := hprefix
      have hshorter : after.length < (word ++ after).length := by
        have hpos := List.length_pos_iff.mpr hword
        rw [List.length_append]
        omega
      have hfirst : ∀ start behind, [] ++ (word ++ after) = start ++ (word ++ behind) →
          ([] : List Char).length ≤ start.length := fun start _ _ => Nat.zero_le start.length
      rw [substituteFrom_append hword]
      exact Substituted.first hfirst (ih _ hshorter after rfl)
    · cases text with
      | nil =>
        refine .absent fun hinfix => ?_
        exact hword (List.infix_nil.mp hinfix)
      | cons c rest =>
        rw [substituteFrom_cons hprefix]
        exact (ih rest.length (Nat.lt_succ_self _) rest rfl).cons hprefix

/-- Nothing is found in a text without the word. -/
lemma substituteFrom_of_absent {text : List Char} (h : ¬ word <:+: text) :
    substituteFrom word new 0 text = text := by
  induction text with
  | nil => rfl
  | cons c rest ih =>
    have hrest : ¬ word <:+: rest := fun hinfix => h (List.infix_cons hinfix)
    rw [substituteFrom_cons fun hprefix => h hprefix.isInfix, ih hrest]

/-- The leftmost occurrence is the one that is found. -/
lemma substituteFrom_leftmost (hword : word ≠ []) {before after : List Char}
    (hleftmost : ∀ start behind, before ++ (word ++ after) = start ++ (word ++ behind) →
      before.length ≤ start.length) :
    substituteFrom word new 0 (before ++ (word ++ after)) =
      before ++ (new ++ substituteFrom word new 0 after) := by
  induction before with
  | nil => exact substituteFrom_append hword after
  | cons c before ih =>
    have hstart : ¬ word <+: c :: (before ++ (word ++ after)) := by
      rintro ⟨behind, hbehind⟩
      exact absurd (hleftmost [] behind hbehind.symm) (by simp)
    have hshifted : ∀ start behind, before ++ (word ++ after) = start ++ (word ++ behind) →
        before.length ≤ start.length := by
      intro start behind heq
      have hlength := hleftmost (c :: start) behind (by rw [List.cons_append, heq]; rfl)
      simpa using hlength
    rw [List.cons_append, substituteFrom_cons hstart, ih hshifted]
    rfl

/-- One text is the other with a word substituted just when it is what the search makes of it. -/
lemma substituted_iff (hword : word ≠ []) {text shown : List Char} :
    Substituted word new text shown ↔ shown = substituteFrom word new 0 text := by
  constructor
  · intro h
    induction h with
    | absent h => exact (substituteFrom_of_absent h).symm
    | first hleftmost hrest ih => rw [substituteFrom_leftmost hword hleftmost, ih]
  · rintro rfl
    exact substituted_substituteFrom hword text

end Scanning

/-! ### What is left of a word -/

section Remainders

variable {word new : List Char}

/-- An occurrence that does not have a character stands on one side of it. -/
lemma infix_of_infix_append_cons {c : Char} {before after : List Char} (hc : c ∉ word)
    (h : word <:+: before ++ c :: after) : word <:+: before ∨ word <:+: after := by
  rcases List.infix_append_iff_ne_nil.mp h with
    hbefore | hafter | ⟨left, right, -, hright, rfl, -, hprefix⟩
  · exact .inl hbefore
  · rcases List.infix_cons_iff.mp hafter with hprefix | hafter
    · rcases List.prefix_cons_iff.mp hprefix with rfl | ⟨rest, rfl, -⟩
      · exact .inr List.nil_infix
      · exact absurd List.mem_cons_self hc
    · exact .inr hafter
  · -- an occurrence that began before the character and ended behind it would have it
    rcases List.prefix_cons_iff.mp hprefix with rfl | ⟨rest, rfl, -⟩
    · exact absurd rfl hright
    · exact absurd (List.mem_append_right left List.mem_cons_self) hc

/-- An occurrence that has no character of another word stands on one side of that. -/
lemma infix_of_infix_append_append (hnew : new ≠ []) (hdisjoint : ∀ c ∈ new, c ∉ word)
    {before after : List Char} (h : word <:+: before ++ (new ++ after)) :
    word <:+: before ∨ word <:+: after := by
  induction new generalizing before with
  | nil => exact absurd rfl hnew
  | cons c new ih =>
    have hc : c ∉ word := hdisjoint c List.mem_cons_self
    rcases infix_of_infix_append_cons hc h with hbefore | hafter
    · exact .inl hbefore
    · cases new with
      | nil => exact .inr hafter
      | cons c' new =>
        have hrest : ∀ c ∈ c' :: new, c ∉ word := fun c hmem =>
          hdisjoint c (List.mem_cons_of_mem _ hmem)
        have hbehind : word <:+: [] ++ (c' :: new ++ after) := hafter
        rcases ih (List.cons_ne_nil c' new) hrest hbehind with hnil | hafter
        · exact .inr (hnil.trans List.nil_infix)
        · exact .inr hafter

/-- Once a word is substituted, no occurrence of it is left, unless it has a character of the new
one. -/
lemma not_infix_of_substituted (hword : word ≠ []) (hnew : new ≠ [])
    (hdisjoint : ∀ c ∈ new, c ∉ word) {text shown : List Char}
    (h : Substituted word new text shown) : ¬ word <:+: shown := by
  induction h with
  | absent h => exact h
  | @first before after shown hleftmost hrest ih =>
    intro hinfix
    rcases infix_of_infix_append_append hnew hdisjoint hinfix with hbefore | hshown
    · -- an occurrence in front of the leftmost one
      obtain ⟨start, behind, rfl⟩ := hbefore
      have hlength := hleftmost start (behind ++ (word ++ after)) (by simp)
      have hpos := List.length_pos_iff.mpr hword
      simp only [List.length_append] at hlength
      omega
    · exact ih hshown

end Remainders

/-! ### Masking -/

/-- The second text is the first one with a secret masked. -/
def Masked (secret : Option String) (text shown : String) : Prop :=
  match secret with
  | none => shown = text
  | some word =>
    if word = "" then shown = text
    else Substituted word.toList ['*', '*', '*'] text.toList shown.toList

/-- Texts are masked just as they should be. -/
lemma masked_iff {secret : Option String} {text shown : String} :
    Masked secret text shown ↔ shown = maskSecret text secret := by
  cases secret with
  | none => rfl
  | some word =>
    by_cases hword : word = ""
    · subst hword
      rfl
    · have hchars : word.toList ≠ [] := by
        rwa [Ne, String.toList_eq_nil_iff]
      have hempty : word.toList.isEmpty = false := by
        simpa using hchars
      rw [Masked, if_neg hword, substituted_iff hchars, maskSecret, hempty, ← String.toList_inj]
      simp [mask]

/-- A secret that is still there after it was masked contains an asterisk. -/
lemma mem_of_infix_maskSecret {text secret : String} (hsecret : secret ≠ "")
    (h : secret.toList <:+: (maskSecret text (some secret)).toList) : '*' ∈ secret.toList := by
  have hmasked : Masked (some secret) text (maskSecret text (some secret)) := masked_iff.mpr rfl
  rw [Masked, if_neg hsecret] at hmasked
  by_contra hasterisk
  have hdisjoint : ∀ c ∈ ['*', '*', '*'], c ∉ secret.toList := by
    simpa using hasterisk
  have hchars : secret.toList ≠ [] := by
    rwa [Ne, String.toList_eq_nil_iff]
  exact not_infix_of_substituted hchars (by simp) hdisjoint hmasked h

end WarehouseAccess
