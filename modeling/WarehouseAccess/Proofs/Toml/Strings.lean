import Mathlib.Data.List.TakeWhile
import Mathlib.Tactic.IntervalCases
import WarehouseAccess.Toml.Printer
import WarehouseAccess.Toml.Reader

/-!
# Texts in documents

A text is written in one of five forms: between quotes or single quotes, on one line or on several,
with escapes or without.  In each of them the reader finds the text again and stops where the form
ends.
-/

namespace WarehouseAccess

namespace TomlReader

open TomlPrinter

/-! ### Characters of a basic string -/

/-- The ways in which a character stands in a basic string, apart from a quote as it is. -/
inductive SpellsChar (lines : Bool) (c : Char) : List Char → Prop
  | plain (hplain : isPlain c = true) (hquote : c ≠ '"') (hslash : c ≠ '\\') :
      SpellsChar lines c [c]
  | escaped (code : List Char) (hread : ∀ rest, readEscape (code ++ rest) = some (c, rest)) :
      SpellsChar lines c ('\\' :: code)
  | lineEnd (hlines : lines = true) (hc : c = '\n') : SpellsChar lines c ['\n']

/-- Four digits spell a control character. -/
lemma readCodePoint_upperHex4 {c : Char} (hc : c.toNat < 0x80) (rest : List Char) :
    readCodePoint 4 (upperHex4 c.toNat ++ rest) = some (c, rest) := by
  have hdigits : ∀ n < 0x80, (upperHex4 n).length = 4 ∧ hexNumber (upperHex4 n) = some n := by
    decide
  obtain ⟨hlength, hnumber⟩ := hdigits c.toNat hc
  have htake : (upperHex4 c.toNat ++ rest).take 4 = upperHex4 c.toNat := List.take_left' hlength
  have hdrop : (upperHex4 c.toNat ++ rest).drop 4 = rest := List.drop_left' hlength
  have hself : Char.ofNatAux c.toNat c.valid = c := Char.toNat_inj.mp rfl
  have hread : readCodePoint 4 (upperHex4 c.toNat ++ rest) =
      if (upperHex4 c.toNat).length < 4 then none
      else (hexNumber (upperHex4 c.toNat)).bind fun n =>
        if h : n.isValidChar then some (Char.ofNatAux n h, rest) else none := by
    unfold readCodePoint
    rw [htake, hdrop]
    rfl
  rw [hread, hlength, hnumber]
  exact (dif_pos c.valid).trans (by rw [hself])

/-- A basic string holds a quote as it is, where that is allowed, and else spells the character. -/
lemma escapeBasic_cons (lines : Bool) (allowed run : ℕ) (c : Char) (l : List Char) :
    (c = '"' ∧ run < allowed ∧
      escapeBasic lines allowed run (c :: l) = '"' :: escapeBasic lines allowed (run + 1) l) ∨
    ∃ written, SpellsChar lines c written ∧
      escapeBasic lines allowed run (c :: l) = written ++ escapeBasic lines allowed 0 l := by
  have hself : c = Char.ofNat c.toNat := (Char.ofNat_toNat c).symm
  simp only [escapeBasic, beq_iff_eq, Bool.or_eq_true, decide_eq_true_eq]
  split_ifs with hquote hrun h8 htab hnewline hlines h12 hreturn hslash hcontrol
  · exact .inr ⟨_, .escaped ['"'] fun rest => by rw [hquote]; rfl, rfl⟩
  · exact .inl ⟨hquote, by omega, rfl⟩
  · exact .inr ⟨_, .escaped ['b'] fun rest => by rw [hself, h8]; rfl, rfl⟩
  · exact .inr ⟨_, .escaped ['t'] fun rest => by rw [htab]; rfl, rfl⟩
  · exact .inr ⟨_, .lineEnd hlines hnewline, rfl⟩
  · exact .inr ⟨_, .escaped ['n'] fun rest => by rw [hnewline]; rfl, rfl⟩
  · exact .inr ⟨_, .escaped ['f'] fun rest => by rw [hself, h12]; rfl, rfl⟩
  · exact .inr ⟨_, .escaped ['r'] fun rest => by rw [hreturn]; rfl, rfl⟩
  · exact .inr ⟨_, .escaped ['\\'] fun rest => by rw [hslash]; rfl, rfl⟩
  · exact .inr ⟨_, .escaped ('u' :: upperHex4 c.toNat) fun rest =>
      readCodePoint_upperHex4 (by omega) rest, rfl⟩
  · refine .inr ⟨_, .plain ?_ hquote hslash, rfl⟩
    simp only [isPlain, beq_iff_eq, Bool.or_eq_true, Bool.and_eq_true, decide_eq_true_eq,
      bne_iff_ne]
    omega

/-- Nothing is written for no character only. -/
lemma SpellsChar.length_pos {lines : Bool} {c : Char} {written : List Char}
    (h : SpellsChar lines c written) : 0 < written.length := by
  cases h <;> simp

/-- An escape does not begin with a blank or a line end. -/
lemma skipBlankLines_of_readEscape {l : List Char} {r : Char × List Char}
    (h : readEscape l = some r) : skipBlankLines (skipGap l) = none := by
  unfold readEscape at h
  split at h
  all_goals first | rfl | cases h

/-- A plain character is no line end. -/
lemma skipNewline_of_isPlain {c : Char} (h : isPlain c = true) (l : List Char) :
    skipNewline (c :: l) = none := by
  unfold skipNewline
  split
  next heq => obtain ⟨rfl, -⟩ := List.cons.inj heq; cases h
  next heq => obtain ⟨rfl, -⟩ := List.cons.inj heq; cases h
  next => rfl

/-! ### Strings of one line -/

/-- A spelled character is the first one of the basic string it stands in. -/
lemma SpellsChar.readBasic {c : Char} {written : List Char} (h : SpellsChar false c written)
    (fuel : ℕ) (l : List Char) :
    readBasic (fuel + 1) (written ++ l) =
      (readBasic fuel l).map fun (s, rest) => (c :: s, rest) := by
  cases h with
  | plain hplain hquote hslash => simp [TomlReader.readBasic, hplain]
  | escaped code hread =>
    rw [List.cons_append, TomlReader.readBasic, hread]
    change (TomlReader.readBasic fuel l).bind (fun p => some (c :: p.1, p.2)) = _
    cases TomlReader.readBasic fuel l <;> rfl
  | lineEnd hlines => cases hlines

/-- A basic string is read back. -/
lemma readBasic_escapeBasic (l rest : List Char) {fuel : ℕ}
    (hfuel : (escapeBasic false 0 0 l).length < fuel) :
    readBasic fuel (escapeBasic false 0 0 l ++ '"' :: rest) = some (l, rest) := by
  induction l generalizing fuel with
  | nil =>
    obtain ⟨fuel, rfl⟩ := Nat.exists_eq_add_one.mpr (Nat.zero_lt_of_lt hfuel)
    rfl
  | cons c l ih =>
    obtain ⟨-, h, -⟩ | ⟨written, hwritten, heq⟩ := escapeBasic_cons false 0 0 c l
    · cases h
    · have hpos := hwritten.length_pos
      rw [heq, List.length_append] at hfuel
      obtain ⟨fuel, rfl⟩ := Nat.exists_eq_add_one.mpr (Nat.zero_lt_of_lt hfuel)
      rw [heq, List.append_assoc, hwritten.readBasic, ih (by omega)]
      rfl

/-- A literal string is read back when it holds plain characters only and no quote of its own. -/
lemma readLiteral_append {l : List Char} (hplain : ∀ c ∈ l, isPlain c = true)
    (hquote : '\'' ∉ l) (rest : List Char) :
    readLiteral (l ++ '\'' :: rest) = some (l, rest) := by
  induction l with
  | nil => rfl
  | cons c l ih =>
    obtain ⟨hc, hl⟩ := List.forall_mem_cons.mp hplain
    obtain ⟨hne, hnotMem⟩ := not_or.mp (List.mem_cons.not.mp hquote)
    rw [List.cons_append, readLiteral, if_pos hc, ih hl hnotMem]
    · rfl
    · exact fun heq => hne heq.symm

/-! ### Strings of several lines -/

/-- Three quotes end a string of several lines, and up to two quotes before them belong to it. -/
lemma readClosing_replicate {quote : Char} {n : ℕ} (hn : n ≤ 2) {rest : List Char}
    (hrest : rest.head? ≠ some quote) :
    readClosing quote (List.replicate n quote ++ quote :: quote :: quote :: rest) =
      some (n, rest) := by
  have htake : rest.takeWhile (· == quote) = [] := by
    cases rest with
    | nil => rfl
    | cons c rest => exact List.takeWhile_cons_of_neg (by simpa using hrest)
  interval_cases n <;> simp [readClosing, htake]

/-- Before at most two quotes in a row the reader is at the end just when nothing else follows. -/
lemma readClosing_cases {quote : Char} {l rest : List Char}
    (hrun : (l.takeWhile (· == quote)).length ≤ 2) (hrest : rest.head? ≠ some quote) :
    List.replicate l.length quote = l ∧
        readClosing quote (l ++ quote :: quote :: quote :: rest) = some (l.length, rest) ∨
      readClosing quote (l ++ quote :: quote :: quote :: rest) = none := by
  by_cases hlength : (l.takeWhile (· == quote)).length = l.length
  · have hself := List.takeWhile_eq_self_iff.mp
      ((List.takeWhile_prefix _).eq_of_length hlength)
    have hl : List.replicate l.length quote = l :=
      (List.eq_replicate_of_mem (by simpa using hself)).symm
    have hclosing := readClosing_replicate (hlength ▸ hrun) hrest
    rw [hl] at hclosing
    exact .inl ⟨hl, hclosing⟩
  · have hmin : ¬ 3 ≤ min 5 (l.takeWhile (· == quote)).length := by omega
    refine .inr ?_
    simp only [readClosing, List.takeWhile_append, hlength, hmin, if_false]

/-- A spelled character is the first one of the string of several lines it stands in. -/
lemma SpellsChar.readBasicLines {c : Char} {written : List Char} (h : SpellsChar true c written)
    (fuel : ℕ) (l : List Char) :
    readBasicLines (fuel + 1) (written ++ l) =
      (readBasicLines fuel l).map fun (s, rest) => (c :: s, rest) := by
  cases h with
  | plain hplain hquote hslash =>
    simp [TomlReader.readBasicLines, hplain, skipNewline_of_isPlain hplain]
  | escaped code hread =>
    simp [TomlReader.readBasicLines, hread, skipBlankLines_of_readEscape (hread l)]
  | lineEnd _ hc =>
    simp [TomlReader.readBasicLines, hc, skipNewline]

/-- At most two quotes in a row stand as they are. -/
lemma length_takeWhile_escapeBasic (l : List Char) {run : ℕ} (hrun : run ≤ 2) :
    ((escapeBasic true 2 run l).takeWhile (· == '"')).length ≤ 2 - run := by
  induction l generalizing run with
  | nil => simp [escapeBasic]
  | cons c l ih =>
    obtain ⟨rfl, hlt, heq⟩ | ⟨written, hwritten, heq⟩ := escapeBasic_cons true 2 run c l
    · have hl : ((escapeBasic true 2 (run + 1) l).takeWhile (· == '"')).length ≤ 2 - (run + 1) :=
        ih hlt
      rw [heq, List.takeWhile_cons_of_pos (by rfl), List.length_cons]
      omega
    · rw [heq]
      cases hwritten with
      | plain _ hquote => simp [hquote]
      | escaped code => simp
      | lineEnd => simp

/-- Quotes that all stand as they are are the text. -/
lemma eq_of_escapeBasic_all {l : List Char} {run : ℕ}
    (hall : ∀ c ∈ escapeBasic true 2 run l, c = '"') : escapeBasic true 2 run l = l := by
  induction l generalizing run with
  | nil => rfl
  | cons c l ih =>
    obtain ⟨rfl, -, heq⟩ | ⟨written, hwritten, heq⟩ := escapeBasic_cons true 2 run c l
    · rw [heq] at hall ⊢
      rw [ih (List.forall_mem_cons.mp hall).2]
    · rw [heq] at hall
      cases hwritten with
      | plain _ hquote => exact absurd (hall c (by simp)) hquote
      | escaped code => exact absurd (hall '\\' (by simp)) (by decide)
      | lineEnd => exact absurd (hall '\n' (by simp)) (by decide)

/-- A basic string of several lines is read back.  Before a quote that stands as it is the reader
looks at all quotes that follow it, which are no more than two unless they reach the closing
ones. -/
lemma readBasicLines_escapeBasic (l : List Char) {run fuel : ℕ} {rest : List Char} (hrun : run ≤ 2)
    (hrest : rest.head? ≠ some '"') (hfuel : (escapeBasic true 2 run l).length < fuel) :
    readBasicLines fuel (escapeBasic true 2 run l ++ '"' :: '"' :: '"' :: rest) =
      some (l, rest) := by
  induction l generalizing run fuel with
  | nil =>
    obtain ⟨fuel, rfl⟩ := Nat.exists_eq_add_one.mpr (Nat.zero_lt_of_lt hfuel)
    have hclosing := readClosing_replicate (Nat.zero_le 2) hrest
    rw [List.replicate_zero, List.nil_append] at hclosing
    simp [escapeBasic, TomlReader.readBasicLines, hclosing]
  | cons c l ih =>
    obtain ⟨fuel, rfl⟩ := Nat.exists_eq_add_one.mpr (Nat.zero_lt_of_lt hfuel)
    obtain ⟨rfl, hlt, heq⟩ | ⟨written, hwritten, heq⟩ := escapeBasic_cons true 2 run c l
    · -- a quote as it is: the quotes at hand close the string only if the text ends with them
      have htake := length_takeWhile_escapeBasic ('"' :: l) hrun
      obtain ⟨hself, hclosing⟩ | hclosing :=
        readClosing_cases (htake.trans (Nat.sub_le 2 run)) hrest
      · have hall := eq_of_escapeBasic_all fun d hd => List.eq_of_mem_replicate (hself ▸ hd)
        rw [hall] at hself hclosing ⊢
        rw [List.cons_append] at hclosing ⊢
        rw [TomlReader.readBasicLines, hclosing]
        dsimp only
        rw [hself]
      · rw [heq, List.length_cons] at hfuel
        rw [heq, List.cons_append] at hclosing ⊢
        rw [TomlReader.readBasicLines, hclosing]
        dsimp only
        rw [ih (by omega) (by omega)]
        rfl
    · -- anything else is read by itself
      have hpos := hwritten.length_pos
      rw [heq, List.length_append] at hfuel
      rw [heq, List.append_assoc, hwritten.readBasicLines, ih (by omega) (by omega)]
      rfl

/-- A literal string of several lines is read back when it holds plain characters and line ends only
and no three quotes in a row. -/
lemma readLiteralLines_append {l : List Char} (hplain : ∀ c ∈ l, isPlain c = true ∨ c = '\n')
    (hrun : ∀ n, List.replicate n '\'' <:+: l → n ≤ 2) {rest : List Char}
    (hrest : rest.head? ≠ some '\'') {fuel : ℕ} (hfuel : l.length < fuel) :
    readLiteralLines fuel (l ++ '\'' :: '\'' :: '\'' :: rest) = some (l, rest) := by
  induction l generalizing fuel with
  | nil =>
    obtain ⟨fuel, rfl⟩ := Nat.exists_eq_add_one.mpr (Nat.zero_lt_of_lt hfuel)
    have hclosing := readClosing_replicate (Nat.zero_le 2) hrest
    rw [List.replicate_zero, List.nil_append] at hclosing
    simp [readLiteralLines, hclosing]
  | cons c l ih =>
    obtain ⟨fuel, rfl⟩ := Nat.exists_eq_add_one.mpr (Nat.zero_lt_of_lt hfuel)
    obtain ⟨hc, hl⟩ := List.forall_mem_cons.mp hplain
    have hread : readLiteralLines fuel (l ++ '\'' :: '\'' :: '\'' :: rest) = some (l, rest) :=
      ih hl (fun n h => hrun n (h.trans (List.suffix_cons c l).isInfix)) (by simpa using hfuel)
    -- quotes of the text close the string only if the text ends with them
    by_cases hquote : c = '\''
    · subst hquote
      have hprefix := List.takeWhile_prefix (l := '\'' :: l) (· == '\'')
      have htake := List.eq_replicate_of_mem (l := ('\'' :: l).takeWhile (· == '\''))
        fun d h => by simpa using List.mem_takeWhile_imp h
      obtain ⟨hself, hclosing⟩ | hclosing :=
        readClosing_cases (hrun _ (htake ▸ hprefix.isInfix)) hrest
      · rw [List.cons_append] at hclosing ⊢
        rw [readLiteralLines, hclosing]
        dsimp only
        rw [hself]
      · rw [List.cons_append] at hclosing ⊢
        rw [readLiteralLines, hclosing]
        dsimp only
        rw [hread]
        rfl
    · rcases hc with hc | rfl
      · simp [readLiteralLines, skipNewline_of_isPlain hc, hc, hread]
      · simp [readLiteralLines, skipNewline, hread]

/-! ### The choice of a form -/

/-- How a character changes the longest run so far and the run that reaches up to it. -/
def runStep (c : Char) : ℕ × ℕ → Char → ℕ × ℕ :=
  fun (best, run) d => if d == c then (max best (run + 1), run + 1) else (best, 0)

lemma le_foldl_runStep (c : Char) (l : List Char) (state : ℕ × ℕ) (h : state.2 ≤ state.1) :
    state.1 ≤ (l.foldl (runStep c) state).1 ∧
      (l.foldl (runStep c) state).2 ≤ (l.foldl (runStep c) state).1 := by
  induction l generalizing state with
  | nil => exact ⟨le_rfl, h⟩
  | cons d l ih =>
    have hstep : (runStep c state d).2 ≤ (runStep c state d).1 ∧
        state.1 ≤ (runStep c state d).1 := by
      by_cases hd : d = c <;> simp [runStep, hd]
    exact ⟨hstep.2.trans (ih _ hstep.1).1, (ih _ hstep.1).2⟩

/-- A run adds its length to the run before it. -/
lemma foldl_runStep_replicate (c : Char) (n : ℕ) {state : ℕ × ℕ} (h : state.2 ≤ state.1) :
    ((List.replicate n c).foldl (runStep c) state).2 = state.2 + n := by
  induction n generalizing state with
  | zero => rfl
  | succ n ih =>
    rw [List.replicate_succ, List.foldl_cons, ih]
    · simp [runStep]; omega
    · simp [runStep]

/-- No run of a character is longer than the longest one. -/
lemma le_longestRun {c : Char} {n : ℕ} {l : List Char} (h : List.replicate n c <:+: l) :
    n ≤ longestRun c l := by
  obtain ⟨before, behind, rfl⟩ := h
  change n ≤ ((before ++ List.replicate n c ++ behind).foldl (runStep c) (0, 0)).1
  have hbefore := (le_foldl_runStep c before (0, 0) le_rfl).2
  have hrun := foldl_runStep_replicate c n hbefore
  have hwithin := (le_foldl_runStep c (List.replicate n c) _ hbefore).2
  have hbehind := (le_foldl_runStep c behind _ hwithin).1
  rw [List.foldl_append, List.foldl_append]
  omega

/-- A text without a character has no run of it. -/
lemma notMem_of_longestRun_eq_zero {c : Char} {l : List Char} (h : longestRun c l = 0) : c ∉ l := by
  intro hmem
  obtain ⟨before, behind, rfl⟩ := List.append_of_mem hmem
  have hrun : List.replicate 1 c <:+: before ++ c :: behind := ⟨before, behind, by simp⟩
  have := le_longestRun hrun
  omega

/-- Where no escape is needed there are plain characters and line ends only. -/
lemma isPlain_of_not_needsEscape {l : List Char} (h : needsEscape l = false) :
    ∀ c ∈ l, isPlain c = true ∨ c = '\n' := by
  intro c hc
  have hnot := List.any_eq_false.mp h c hc
  by_cases htab : c = '\t'
  · exact .inl (by rw [htab]; rfl)
  · by_cases hnewline : c = '\n'
    · exact .inr hnewline
    · refine .inl ?_
      simp [htab, hnewline] at hnot
      simp [isPlain, hnot]

/-- The line end behind the opening quotes is there for the reader to skip: the text itself begins
with no line end then. -/
lemma skipFirstNewline_append {l written : List Char}
    (h : '\n' ∉ l → skipNewline written = none) :
    skipFirstNewline (firstNewline l ++ written) = written := by
  by_cases hmem : '\n' ∈ l
  · simp [firstNewline, hmem, skipFirstNewline, skipNewline]
  · simp [firstNewline, hmem, skipFirstNewline, h hmem]

/-- A reader of strings may take as many steps as the document is long, and one more: enough for any
text that stands in it. -/
lemma length_lt_written (before l behind : List Char) :
    l.length < (before ++ (l ++ behind)).length + 1 := by
  simp only [List.length_append]
  omega

lemma readString_basic (l rest : List Char) :
    readString (basic l ++ '\n' :: rest) = some (String.ofList l, '\n' :: rest) := by
  -- The empty text is written as two quotes; no third one follows.
  have hthree : ∀ more, escapeBasic false 0 0 l ++ '"' :: '\n' :: rest ≠ '"' :: '"' :: more := by
    intro more heq
    cases l with
    | nil => simp [escapeBasic] at heq
    | cons c l =>
      obtain ⟨-, h, -⟩ | ⟨written, hwritten, hcons⟩ := escapeBasic_cons false 0 0 c l
      · cases h
      · rw [hcons] at heq
        cases hwritten with
        | plain _ hquote => exact hquote (List.cons.inj heq).1
        | escaped code => cases heq
        | lineEnd => cases heq
  have hshape : basic l ++ '\n' :: rest =
      '"' :: (escapeBasic false 0 0 l ++ '"' :: '\n' :: rest) := by
    simp [basic]
  have hroom : (escapeBasic false 0 0 l).length <
      (escapeBasic false 0 0 l ++ '"' :: '\n' :: rest).length + 1 := length_lt_written [] ..
  rw [hshape, readString, readBasic_escapeBasic l _ hroom]
  · rfl
  · exact hthree

lemma readString_literal {l : List Char} (hplain : ∀ c ∈ l, isPlain c = true) (hquote : '\'' ∉ l)
    (rest : List Char) :
    readString (literal l ++ '\n' :: rest) = some (String.ofList l, '\n' :: rest) := by
  have hthree : ∀ more, l ++ '\'' :: '\n' :: rest ≠ '\'' :: '\'' :: more := by
    intro more heq
    cases l with
    | nil => cases heq
    | cons c l => exact hquote (by simp [(List.cons.inj heq).1])
  have hshape : literal l ++ '\n' :: rest = '\'' :: (l ++ '\'' :: '\n' :: rest) := by
    simp [literal]
  rw [hshape, readString, readLiteral_append hplain hquote]
  · rfl
  · exact hthree

lemma readString_basicLines (l rest : List Char) :
    readString (basicLines l ++ '\n' :: rest) = some (String.ofList l, '\n' :: rest) := by
  have hfirst : '\n' ∉ l → skipNewline (escapeBasic true 2 0 l ++
      '"' :: '"' :: '"' :: '\n' :: rest) = none := by
    intro hmem
    cases l with
    | nil => rfl
    | cons c l =>
      obtain ⟨-, -, hcons⟩ | ⟨written, hwritten, hcons⟩ := escapeBasic_cons true 2 0 c l
      · rw [hcons]
        rfl
      · rw [hcons]
        cases hwritten with
        | plain hplain => exact skipNewline_of_isPlain hplain _
        | escaped code => rfl
        | lineEnd _ hc => exact absurd (by simp [hc]) hmem
  have hshape : basicLines l ++ '\n' :: rest = '"' :: '"' :: '"' ::
      (firstNewline l ++ (escapeBasic true 2 0 l ++ '"' :: '"' :: '"' :: '\n' :: rest)) := by
    simp [basicLines]
  rw [hshape, readString, skipFirstNewline_append hfirst,
    readBasicLines_escapeBasic l (Nat.zero_le 2) (by simp) (length_lt_written ..)]
  rfl

lemma readString_literalLines {l : List Char} (hplain : ∀ c ∈ l, isPlain c = true ∨ c = '\n')
    (hrun : longestRun '\'' l ≤ 2) (rest : List Char) :
    readString (literalLines l ++ '\n' :: rest) = some (String.ofList l, '\n' :: rest) := by
  have hfirst : '\n' ∉ l → skipNewline (l ++ '\'' :: '\'' :: '\'' :: '\n' :: rest) = none := by
    intro hmem
    cases l with
    | nil => rfl
    | cons c l =>
      rcases hplain c List.mem_cons_self with hc | hc
      · exact skipNewline_of_isPlain hc _
      · exact absurd (by simp [hc]) hmem
  have hshape : literalLines l ++ '\n' :: rest = '\'' :: '\'' :: '\'' ::
      (firstNewline l ++ (l ++ '\'' :: '\'' :: '\'' :: '\n' :: rest)) := by
    simp [literalLines]
  rw [hshape, readString, skipFirstNewline_append hfirst, readLiteralLines_append hplain
    (fun n h => (le_longestRun h).trans hrun) (by simp) (length_lt_written ..)]
  rfl

/-- Every text is read back from the form it is written in. -/
theorem readString_renderText (s : String) (rest : List Char) :
    readString (renderText s ++ '\n' :: rest) = some (s, '\n' :: rest) := by
  suffices h : readString (renderText s ++ '\n' :: rest) =
      some (String.ofList s.toList, '\n' :: rest) by rwa [String.ofList_toList] at h
  rw [renderText]
  split_ifs with hbasic hliteral hlines hliteralLines
  · exact readString_basic s.toList rest
  · simp only [Bool.and_eq_true, Bool.not_eq_true', beq_iff_eq] at hliteral
    obtain ⟨⟨hescape, hrun⟩, hnewline⟩ := hliteral
    have hplain := isPlain_of_not_needsEscape hescape
    have hnot : '\n' ∉ s.toList := by simpa using hnewline
    exact readString_literal (fun c hc => (hplain c hc).resolve_right fun h => hnot (h ▸ hc))
      (notMem_of_longestRun_eq_zero hrun) rest
  · exact readString_basicLines s.toList rest
  · simp only [Bool.and_eq_true, Bool.not_eq_true', decide_eq_true_eq] at hliteralLines
    obtain ⟨hescape, hrun⟩ := hliteralLines
    exact readString_literalLines (isPlain_of_not_needsEscape hescape) hrun rest
  · exact readString_basicLines s.toList rest
  · exact readString_basic s.toList rest

end TomlReader

end WarehouseAccess
