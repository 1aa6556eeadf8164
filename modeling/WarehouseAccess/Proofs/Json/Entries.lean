import Mathlib.Tactic.Common
import WarehouseAccess.Json.Basic

/-!
# Entries of objects

Looking up a key in an object made of entries: what the last of the entries with that key says.  The
order in which the entries are kept does not matter to a look-up, so nothing here asks for sorted
lists.
-/

namespace WarehouseAccess

namespace Json

variable {α : Type}

/-- The first entry of a list is what is found under its own key, and hides nothing else. -/
lemma lookup_cons_ite (k : String) (entry : String × α) (entries : List (String × α)) :
    (entry :: entries).lookup k = if k = entry.1 then some entry.2 else entries.lookup k := by
  rw [List.lookup_cons]
  by_cases hk : k = entry.1
  · simp [hk]
  · have hne : (k == entry.1) = false := beq_eq_false_iff_ne.mpr hk
    simp [hk, hne]

/-- Putting an entry into a list changes what is found under its key and nothing else. -/
lemma lookup_insertEntry (key k : String) (value : α) (entries : List (String × α)) :
    (insertEntry key value entries).lookup k =
      if k = key then some value else entries.lookup k := by
  induction entries with
  | nil => rw [insertEntry, lookup_cons_ite]
  | cons entry rest ih =>
    obtain ⟨k', v⟩ := entry
    unfold insertEntry
    by_cases hsame : key = k'
    · subst hsame
      rw [if_pos (beq_self_eq_true key), lookup_cons_ite, lookup_cons_ite]
      split_ifs <;> rfl
    · rw [if_neg (fun h => hsame (eq_of_beq h))]
      by_cases hlt : key < k'
      · rw [if_pos hlt, lookup_cons_ite]
      · rw [if_neg hlt, lookup_cons_ite, lookup_cons_ite, ih]
        by_cases hk : k = key
        · subst hk
          simp [hsame]
        · rw [if_neg hk, if_neg hk]

/-- Putting several entries into a list, one after the other: the last entry of a key counts, and
before all of them what was there. -/
lemma lookup_foldl_insertEntry (k : String) (entries sorted : List (String × α)) :
    (entries.foldl (fun sorted e => insertEntry e.1 e.2 sorted) sorted).lookup k =
      (entries.reverse.lookup k).or (sorted.lookup k) := by
  induction entries generalizing sorted with
  | nil => rfl
  | cons entry rest ih =>
    rw [List.foldl_cons, ih, lookup_insertEntry, List.reverse_cons, List.lookup_append,
      Option.or_assoc, lookup_cons_ite]
    split_ifs <;> rfl

/-- An entry of a new key stands among the others. -/
lemma perm_insertEntry {key : String} (value : α) {entries : List (String × α)}
    (hkey : key ∉ entries.map Prod.fst) :
    (insertEntry key value entries).Perm ((key, value) :: entries) := by
  induction entries with
  | nil => exact .refl _
  | cons entry rest ih =>
    obtain ⟨k, v⟩ := entry
    rw [List.map_cons, List.mem_cons, not_or] at hkey
    obtain ⟨hne, hrest⟩ := hkey
    rw [insertEntry, if_neg (fun h => hne (eq_of_beq h))]
    split_ifs
    · exact .refl _
    · exact ((ih hrest).cons (k, v)).trans (.swap (key, value) (k, v) rest)

/-- Putting entries into a list keeps them all when no two have the same key. -/
lemma perm_foldl_insertEntry {entries sorted : List (String × α)}
    (h : ((entries ++ sorted).map Prod.fst).Nodup) :
    (entries.foldl (fun sorted e => insertEntry e.1 e.2 sorted) sorted).Perm
      (entries ++ sorted) := by
  induction entries generalizing sorted with
  | nil => exact .refl _
  | cons entry rest ih =>
    have hnew : entry.1 ∉ sorted.map Prod.fst := by
      rw [List.cons_append, List.map_cons, List.nodup_cons, List.map_append] at h
      exact fun hmem => h.1 (List.mem_append_right _ hmem)
    have hmiddle : (rest ++ insertEntry entry.1 entry.2 sorted).Perm (entry :: rest ++ sorted) :=
      ((perm_insertEntry entry.2 hnew).append_left rest).trans List.perm_middle
    exact (ih ((hmiddle.map Prod.fst).nodup_iff.mpr h)).trans hmiddle

/-- Entries of different keys are all kept when they are sorted. -/
lemma perm_sortEntries {entries : List (String × α)} (h : (entries.map Prod.fst).Nodup) :
    (sortEntries entries).Perm entries := by
  have hkeys : ((entries ++ []).map Prod.fst).Nodup := by rwa [List.append_nil]
  have hperm := perm_foldl_insertEntry hkeys
  rwa [List.append_nil] at hperm

/-- An object has under a key what the last of its entries with that key says. -/
@[simp]
theorem get?_ofEntries (k : String) (entries : List (String × Json)) :
    (ofEntries entries).get? k = entries.reverse.lookup k := by
  rw [ofEntries, get?, sortEntries, lookup_foldl_insertEntry]
  simp

end Json

end WarehouseAccess
