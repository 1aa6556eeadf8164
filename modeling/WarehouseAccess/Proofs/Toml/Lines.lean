import WarehouseAccess.Proofs.Toml.Values

/-!
# Written documents

A document of one line for each setting, none of them in a table of its own.  When no key stands on
two lines, reading the document gives the settings in the order of the lines.
-/

namespace WarehouseAccess

namespace TomlReader

open TomlPrinter

/-- A key that needs no quotes. -/
def IsBareKey (key : String) : Prop := key ≠ "" ∧ key.toList.all isBare = true

instance (key : String) : Decidable (IsBareKey key) :=
  inferInstanceAs (Decidable (_ ∧ _))

/-- The characters are the lines of the settings. -/
inductive IsDocument : List Char → List (String × Toml) → Prop
  | nil : IsDocument [] []
  | cons {key : String} {written lines : List Char} {v : Toml} {settings : List (String × Toml)}
      (hkey : IsBareKey key) (hvalue : WrittenAs written v) (hrest : IsDocument lines settings) :
      IsDocument (line key written ++ lines) ((key, v) :: settings)

/-- Values under keys of the top table. -/
def topEntries (settings : List (String × Toml)) : TomlNode.Entries :=
  settings.map fun (key, v) => (key, .value v)

lemma entriesToToml_topEntries (settings : List (String × Toml)) :
    TomlNode.entriesToToml (topEntries settings) = settings := by
  induction settings with
  | nil => rfl
  | cons setting settings ih =>
    change (setting.1, setting.2) :: TomlNode.entriesToToml (topEntries settings) = _
    rw [ih]

/-- A bare key begins with a character that neither blanks nor other kinds of lines begin with. -/
lemma IsBareKey.exists_cons {key : String} (h : IsBareKey key) :
    ∃ c more, key.toList = c :: more ∧ ∀ d, isBare d = false → c ≠ d := by
  obtain ⟨c, more, heq⟩ := List.exists_cons_of_ne_nil (l := key.toList) (by simpa using h.1)
  refine ⟨c, more, heq, ?_⟩
  rintro d hd rfl
  have hc := List.all_eq_true.mp h.2 c (heq ▸ List.mem_cons_self)
  rw [hd] at hc
  cases hc

lemma readKeyPart_of_isBareKey {key : String} (h : IsBareKey key) {d : Char}
    (hd : isBare d = false) (rest : List Char) :
    readKeyPart (key.toList ++ d :: rest) = some (key, d :: rest) := by
  obtain ⟨c, more, heq, hne⟩ := h.exists_cons
  have hword : (key.toList ++ d :: rest).takeWhile isBare = key.toList := by
    rw [List.takeWhile_append_of_pos (List.all_eq_true.mp h.2),
      List.takeWhile_cons_of_neg (by simp [hd]), List.append_nil]
  have hbehind : (key.toList ++ d :: rest).dropWhile isBare = d :: rest := by
    rw [List.dropWhile_append_of_pos (List.all_eq_true.mp h.2),
      List.dropWhile_cons_of_neg (by simp [hd])]
  rw [readKeyPart, hword, hbehind]
  · rw [heq]
    dsimp only
    rw [← heq, String.ofList_toList]
  · rw [heq]
    exact fun rest' h => hne '"' (by decide) (List.cons.inj h).1
  · rw [heq]
    exact fun rest' h => hne '\'' (by decide) (List.cons.inj h).1

lemma IsBareKey.skipGap_append {key : String} (h : IsBareKey key) (rest : List Char) :
    skipGap (key.toList ++ rest) = key.toList ++ rest := by
  obtain ⟨c, more, heq, hne⟩ := h.exists_cons
  rw [heq]
  exact List.dropWhile_cons_of_neg (by simp [isGap, hne ' ' (by decide), hne '\t' (by decide)])

/-- A bare key is read up to the blank behind it. -/
lemma readKey_of_isBareKey {key : String} (h : IsBareKey key) (rest : List Char) :
    readKey (key.toList ++ ' ' :: '=' :: rest) = some ([key], '=' :: rest) := by
  have hpart := readKeyPart_of_isBareKey h (d := ' ') (by decide) ('=' :: rest)
  have hparts : ∀ fuel, readKeyParts (fuel + 1) (key.toList ++ ' ' :: '=' :: rest) =
      some ([key], '=' :: rest) := by
    intro fuel
    rw [readKeyParts, h.skipGap_append, hpart]
    rfl
  rw [readKey, hparts]
  rfl

lemma line_append (key : String) (written rest : List Char) :
    line key written ++ rest = key.toList ++ ' ' :: '=' :: ' ' :: (written ++ '\n' :: rest) := by
  simp [line]

/-- A line puts its value under its key. -/
lemma readPair_line {key : String} {written : List Char} {v : Toml}
    {settings : List (String × Toml)} (hkey : IsBareKey key) (hvalue : WrittenAs written v)
    (hnew : key ∉ settings.map Prod.fst) (rest : List Char) :
    readPair ⟨topEntries settings, []⟩ (line key written ++ rest) =
      some (⟨topEntries (settings ++ [(key, v)]), []⟩, rest) := by
  have hgap : skipGap (' ' :: (written ++ '\n' :: rest)) = written ++ '\n' :: rest :=
    hvalue.not_gap rest
  have hend : skipLineEnd ('\n' :: rest) = some rest := rfl
  have hlookup : (topEntries settings).lookup key = none := by
    rw [List.lookup_eq_none_iff]
    intro entry hentry
    obtain ⟨setting, hsetting, rfl⟩ := List.mem_map.mp hentry
    simpa using fun h : key = setting.1 => hnew (h ▸ List.mem_map_of_mem hsetting)
  have htop : topEntries (settings ++ [(key, v)]) = topEntries settings ++ [(key, .value v)] :=
    List.map_append
  rw [line_append, readPair, readKey_of_isBareKey hkey]
  simp [skipChar, hgap, hvalue.read, hend, TomlNode.atPath, TomlNode.put, hlookup, htop]

/-- A line is read and then the lines behind it. -/
lemma readLines_line {key : String} {written : List Char} {v : Toml}
    {settings : List (String × Toml)} (hkey : IsBareKey key) (hvalue : WrittenAs written v)
    (hnew : key ∉ settings.map Prod.fst) (fuel : ℕ) (rest : List Char) :
    readLines (fuel + 1) ⟨topEntries settings, []⟩ (line key written ++ rest) =
      readLines fuel ⟨topEntries (settings ++ [(key, v)]), []⟩ rest := by
  have hpair := readPair_line hkey hvalue hnew rest
  have hgap := hkey.skipGap_append (' ' :: '=' :: ' ' :: (written ++ '\n' :: rest))
  obtain ⟨c, more, heq, hne⟩ := hkey.exists_cons
  have hnewline : ∀ l, skipNewline (c :: l) = none := by
    intro l
    unfold skipNewline
    split
    next h => exact absurd (List.cons.inj h).1 (hne '\n' (by decide))
    next h => exact absurd (List.cons.inj h).1 (hne '\r' (by decide))
    next => rfl
  rw [line_append, heq, List.cons_append] at hpair
  rw [line_append, readLines, hgap, heq, List.cons_append]
  split
  next h => cases h
  next h => exact absurd (List.cons.inj h).1 (hne '#' (by decide))
  next h => exact absurd (List.cons.inj h).1 (hne '[' (by decide))
  next => rw [hnewline, hpair]; rfl

/-- The lines of a document add their settings to those before. -/
lemma readLines_of_isDocument {l : List Char} {settings : List (String × Toml)}
    (h : IsDocument l settings) (before : List (String × Toml))
    (hkeys : ((before ++ settings).map Prod.fst).Nodup) {fuel : ℕ} (hfuel : l.length < fuel) :
    readLines fuel ⟨topEntries before, []⟩ l = some ⟨topEntries (before ++ settings), []⟩ := by
  induction h generalizing before fuel with
  | nil =>
    obtain ⟨fuel, rfl⟩ := Nat.exists_eq_add_one.mpr (Nat.zero_lt_of_lt hfuel)
    rw [List.append_nil]
    rfl
  | @cons key written lines v settings hkey hvalue hrest ih =>
    obtain ⟨fuel, rfl⟩ := Nat.exists_eq_add_one.mpr (Nat.zero_lt_of_lt hfuel)
    have hnew : key ∉ before.map Prod.fst := by
      rw [List.map_append, List.map_cons] at hkeys
      exact fun hmem => (List.nodup_append.mp hkeys).2.2 _ hmem _ List.mem_cons_self rfl
    have hlength : lines.length < fuel := by
      simp [line] at hfuel
      omega
    rw [readLines_line hkey hvalue hnew, ih (before ++ [(key, v)]) (by simpa using hkeys) hlength,
      List.append_assoc, List.singleton_append]

/-- A document does not begin with a byte order mark. -/
lemma IsDocument.head_ne {l : List Char} {settings : List (String × Toml)}
    (h : IsDocument l settings) : ∀ c ∈ l.head?, c.toNat ≠ 0xFEFF := by
  cases h with
  | nil => exact fun c hc => absurd hc (by simp)
  | @cons key written lines v settings hkey hvalue hrest =>
    obtain ⟨c, more, heq, hne⟩ := hkey.exists_cons
    have hhead : (line key written ++ lines).head? = some c := by simp [line, heq]
    rintro d hd hmark
    obtain rfl : c = d := by simpa [hhead] using hd
    exact hne (Char.ofNat 0xFEFF) (by decide) (by rw [← hmark, Char.ofNat_toNat])

/-- A document of lines with distinct keys is read as its settings. -/
theorem parse_of_isDocument {l : List Char} {settings : List (String × Toml)}
    (h : IsDocument l settings) (hkeys : (settings.map Prod.fst).Nodup) :
    Toml.parse (String.ofList l) = some settings := by
  have hlines := readLines_of_isDocument h [] hkeys (Nat.lt_succ_self l.length)
  have hmark : Toml.parse (String.ofList l) =
      (readLines (l.length + 1) ⟨[], []⟩ l).map fun p => TomlNode.entriesToToml p.root := by
    rw [Toml.parse, String.toList_ofList]
    cases l with
    | nil => rfl
    | cons c rest =>
      have hc : (c.toNat == 0xFEFF) = false := by simpa using h.head_ne c rfl
      simp only [hc, Bool.false_eq_true, if_false]
  rw [hmark]
  exact (congrArg _ hlines).trans (congrArg some (entriesToToml_topEntries settings))

end TomlReader

end WarehouseAccess
