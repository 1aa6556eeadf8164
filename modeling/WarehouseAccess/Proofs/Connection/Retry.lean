import Mathlib.Tactic.Common
import WarehouseAccess.Connection.Query

/-!
# Trying again, as a rule

`run_induction` is the rule by which facts about one attempt and one pause become facts about a
whole run of `RetryPolicy.run`: a condition that holds before every attempt, and one that every
attempt leads to and that holds at the end.

`run_related` says that trying goes the same from states that attempts and pauses keep related.

`starts` are the states that the attempts of a run begin in, and `starts_induction` is the rule for
what a run has to do with them.  `Course` says how the attempts follow one another and when they
end.
-/

namespace WarehouseAccess

namespace RetryPolicy

variable {σ ε α : Type} {isRetryable : ε → Bool} {operation : Nat → σ → Except ε α × σ}
  (before : σ → Prop) (after : Except ε α → σ → Prop)

/-- What every attempt leads to, given what holds before it, holds when trying ends. -/
lemma runFrom_induction {pause : σ → σ}
    (hattempt : ∀ n s, before s → after (operation n s).1 (operation n s).2)
    (hpause : ∀ e s, after (.error e) s → before (pause s)) (left attempt : Nat) (s : σ)
    (hs : before s) :
    after (runFrom isRetryable pause operation left attempt s).1
      (runFrom isRetryable pause operation left attempt s).2 := by
  induction left generalizing attempt s with
  | zero => exact hattempt attempt s hs
  | succ left ih =>
    have hone := hattempt attempt s hs
    rw [runFrom]
    rcases hop : operation attempt s with ⟨outcome, s'⟩
    rw [hop] at hone
    cases outcome with
    | ok value => exact hone
    | error e =>
      dsimp only
      split_ifs with hretry
      · exact ih (attempt + 1) (pause s') (hpause e s' hone)
      · exact hone

/-- What every attempt leads to, given what holds before it, holds when trying ends. -/
lemma run_induction (policy : RetryPolicy) {pause : Duration → σ → σ}
    (hattempt : ∀ n s, before s → after (operation n s).1 (operation n s).2)
    (hpause : ∀ e s, after (.error e) s → before (pause policy.interval s)) (s : σ)
    (hs : before s) :
    after (policy.run isRetryable pause operation s).1
      (policy.run isRetryable pause operation s).2 :=
  runFrom_induction before after hattempt hpause (policy.attempts - 1) 1 s hs

section Related

variable {ρ : Type} {operation' : Nat → ρ → Except ε α × ρ} (related : σ → ρ → Prop)

/-- Trying goes the same from related states, when attempts do and lead to related states, and
pauses lead to such states as well. -/
lemma runFrom_related {pause : σ → σ} {pause' : ρ → ρ}
    (hoperation : ∀ n s s', related s s' → (operation' n s').1 = (operation n s).1 ∧
      related (operation n s).2 (operation' n s').2)
    (hpause : ∀ s s', related s s' → related (pause s) (pause' s')) (left attempt : Nat) {s : σ}
    {s' : ρ} (h : related s s') :
    (runFrom isRetryable pause' operation' left attempt s').1 =
        (runFrom isRetryable pause operation left attempt s).1 ∧
      related (runFrom isRetryable pause operation left attempt s).2
        (runFrom isRetryable pause' operation' left attempt s').2 := by
  induction left generalizing attempt s s' with
  | zero => exact hoperation attempt s s' h
  | succ left ih =>
    obtain ⟨houtcome, hafter⟩ := hoperation attempt s s' h
    rw [runFrom, runFrom]
    generalize operation attempt s = result at houtcome hafter ⊢
    generalize operation' attempt s' = result' at houtcome hafter ⊢
    obtain ⟨outcome, s₁⟩ := result
    obtain ⟨outcome', s₁'⟩ := result'
    obtain rfl : outcome' = outcome := houtcome
    cases outcome' with
    | ok value => exact ⟨rfl, hafter⟩
    | error e =>
      dsimp only
      split_ifs
      · exact ih (attempt + 1) (hpause _ _ hafter)
      · exact ⟨rfl, hafter⟩

/-- So a run of a policy goes the same from related states. -/
lemma run_related (policy : RetryPolicy) {pause : Duration → σ → σ} {pause' : Duration → ρ → ρ}
    (hoperation : ∀ n s s', related s s' → (operation' n s').1 = (operation n s).1 ∧
      related (operation n s).2 (operation' n s').2)
    (hpause : ∀ d s s', related s s' → related (pause d s) (pause' d s')) {s : σ} {s' : ρ}
    (h : related s s') :
    (policy.run isRetryable pause' operation' s').1 = (policy.run isRetryable pause operation s).1 ∧
      related (policy.run isRetryable pause operation s).2
        (policy.run isRetryable pause' operation' s').2 :=
  runFrom_related related hoperation (hpause policy.interval) (policy.attempts - 1) 1 h

end Related

/-! ### Where the attempts begin -/

/-- The states in which the attempt of the given number and the attempts after it begin. -/
def startsFrom (isRetryable : ε → Bool) (pause : σ → σ)
    (operation : Nat → σ → Except ε α × σ) : (left attempt : Nat) → σ → List σ
  | 0, _, s => [s]
  | left + 1, attempt, s =>
    s :: match operation attempt s with
      | (.ok _, _) => []
      | (.error e, s) =>
        if isRetryable e then startsFrom isRetryable pause operation left (attempt + 1) (pause s)
        else []

/-- The states in which the attempts begin. -/
def starts (policy : RetryPolicy) (isRetryable : ε → Bool) (pause : Duration → σ → σ)
    (operation : Nat → σ → Except ε α × σ) (s : σ) : List σ :=
  startsFrom isRetryable (pause policy.interval) operation (policy.attempts - 1) 1 s

variable (isRetryable operation) (motive : σ → List σ → Except ε α × σ → Prop)

/-- What holds of the last attempt, and is kept when an attempt that is worth another one goes
before, holds of a run and the states in which its attempts begin. -/
lemma startsFrom_induction (pause : σ → σ)
    (last : ∀ n s, motive s [s] (operation n s))
    (again : ∀ n s e starts final, (operation n s).1 = .error e → isRetryable e = true →
      motive (pause (operation n s).2) starts final → motive s (s :: starts) final)
    (left attempt : Nat) (s : σ) :
    motive s (startsFrom isRetryable pause operation left attempt s)
      (runFrom isRetryable pause operation left attempt s) := by
  induction left generalizing attempt s with
  | zero => exact last attempt s
  | succ left ih =>
    have hlast := last attempt s
    have hagain := again attempt s
    rw [startsFrom, runFrom]
    rcases hop : operation attempt s with ⟨outcome, s'⟩
    rw [hop] at hlast hagain
    cases outcome with
    | ok value => exact hlast
    | error e =>
      dsimp only
      split_ifs with hretry
      · exact hagain e _ _ rfl hretry (ih (attempt + 1) (pause s'))
      · exact hlast

/-- So it holds of a run of a policy and the states in which its attempts begin. -/
lemma starts_induction (policy : RetryPolicy) (pause : Duration → σ → σ)
    (last : ∀ n s, motive s [s] (operation n s))
    (again : ∀ n s e starts final, (operation n s).1 = .error e → isRetryable e = true →
      motive (pause policy.interval (operation n s).2) starts final →
        motive s (s :: starts) final)
    (s : σ) :
    motive s (policy.starts isRetryable pause operation s)
      (policy.run isRetryable pause operation s) :=
  startsFrom_induction isRetryable operation motive (pause policy.interval) last again
    (policy.attempts - 1) 1 s

/-! ### How the attempts follow one another -/

/-- How attempts follow one another, where `starts` are the states that they begin in, `first` is
the number of the first one, and `final` is what they lead to. -/
structure Course (isRetryable : ε → Bool) (pause : σ → σ) (operation : Nat → σ → Except ε α × σ)
    (limit first : Nat) (s : σ) (starts : List σ) (final : Except ε α × σ) : Prop where
  /-- The first attempt begins where all of them begin. -/
  head : starts.head? = some s
  /-- There are not more attempts than may be made. -/
  length_le : starts.length ≤ limit
  /-- Every attempt but the last fails with an error that is worth another attempt, and a pause is
  all that lies between it and the next. -/
  again : ∀ i (h : i + 1 < starts.length), ∃ e s',
    operation (first + i) starts[i] = (.error e, s') ∧ isRetryable e = true ∧
      starts[i + 1] = pause s'
  /-- The last attempt decides. -/
  last : ∀ i (h : i + 1 = starts.length), operation (first + i) starts[i] = final
  /-- When it fails all the same, another attempt is not worth it or may not be made. -/
  ended : ∀ e, final.1 = .error e → isRetryable e = false ∨ starts.length = limit

namespace Course

variable {isRetryable : ε → Bool} {pause : σ → σ} {operation : Nat → σ → Except ε α × σ}
  {limit first : Nat} {s s' : σ} {starts : List σ} {final : Except ε α × σ}

/-- One attempt, after which there is no other. -/
lemma single (hlimit : 1 ≤ limit)
    (hended : ∀ e, (operation first s).1 = .error e → isRetryable e = false ∨ 1 = limit) :
    Course isRetryable pause operation limit first s [s] (operation first s) where
  head := rfl
  length_le := hlimit
  again i h := by simp at h
  last i h := by
    obtain rfl : i = 0 := by simpa using h
    rfl
  ended := hended

/-- An attempt that is worth another one, and the attempts after it. -/
lemma cons {e : ε} (hop : operation first s = (.error e, s')) (hretry : isRetryable e = true)
    (h : Course isRetryable pause operation limit (first + 1) (pause s') starts final) :
    Course isRetryable pause operation (limit + 1) first s (s :: starts) final where
  head := rfl
  length_le := Nat.succ_le_succ h.length_le
  again i hi := by
    cases i with
    | zero =>
      have hnext : starts[0]? = some (pause s') := by rw [← List.head?_eq_getElem?, h.head]
      obtain ⟨_, hnext⟩ := List.getElem?_eq_some_iff.mp hnext
      exact ⟨e, s', hop, hretry, hnext⟩
    | succ i =>
      obtain ⟨e', s'', hop', hretry', hnext⟩ := h.again i (by simpa using hi)
      refine ⟨e', s'', ?_, hretry', hnext⟩
      rwa [show first + (i + 1) = first + 1 + i by omega]
  last i hi := by
    cases i with
    | zero =>
      obtain rfl : starts = [] := by simpa using hi
      exact absurd h.head (by simp)
    | succ i =>
      have hlast := h.last i (by simpa using hi)
      rwa [show first + (i + 1) = first + 1 + i by omega]
  ended e' he' := (h.ended e' he').imp_right fun hlength => by rw [List.length_cons, hlength]

end Course

/-- A run makes its attempts one after the other. -/
lemma course_startsFrom (isRetryable : ε → Bool) (pause : σ → σ)
    (operation : Nat → σ → Except ε α × σ) (left attempt : Nat) (s : σ) :
    Course isRetryable pause operation (left + 1) attempt s
      (startsFrom isRetryable pause operation left attempt s)
      (runFrom isRetryable pause operation left attempt s) := by
  induction left generalizing attempt s with
  | zero => exact .single (Nat.le_refl 1) fun _ _ => .inr rfl
  | succ left ih =>
    have hsingle (hended : ∀ e, (operation attempt s).1 = .error e →
          isRetryable e = false ∨ 1 = left + 2) :
        Course isRetryable pause operation (left + 2) attempt s [s] (operation attempt s) :=
      .single (Nat.le_add_left 1 _) hended
    rw [startsFrom, runFrom]
    rcases hop : operation attempt s with ⟨outcome, s'⟩
    rw [hop] at hsingle
    cases outcome with
    | ok value => exact hsingle nofun
    | error e =>
      dsimp only
      split_ifs with hretry
      · exact .cons hop hretry (ih (attempt + 1) (pause s'))
      · refine hsingle fun e' he' => .inl ?_
        rw [← Except.error.inj he']
        exact Bool.eq_false_iff.mpr hretry

/-- A run makes its attempts one after the other, beginning with number one. -/
lemma course_starts (policy : RetryPolicy) (hpolicy : 1 ≤ policy.attempts)
    (isRetryable : ε → Bool) (pause : Duration → σ → σ) (operation : Nat → σ → Except ε α × σ)
    (s : σ) :
    Course isRetryable (pause policy.interval) operation policy.attempts 1 s
      (policy.starts isRetryable pause operation s)
      (policy.run isRetryable pause operation s) := by
  have hcourse := course_startsFrom isRetryable (pause policy.interval) operation
    (policy.attempts - 1) 1 s
  rwa [Nat.sub_add_cancel hpolicy] at hcourse

/-- Where attempts do not show and every pause adds the same to what is seen, a run adds that once
between every two attempts. -/
lemma view_run {γ : Type} (view : σ → List γ) (x : γ) (policy : RetryPolicy)
    (isRetryable : ε → Bool) {pause : Duration → σ → σ} {operation : Nat → σ → Except ε α × σ}
    (hoperation : ∀ n s, view (operation n s).2 = view s)
    (hpause : ∀ s, view (pause policy.interval s) = view s ++ [x]) (s : σ) :
    view (policy.run isRetryable pause operation s).2 =
      view s ++ List.replicate ((policy.starts isRetryable pause operation s).length - 1) x := by
  refine (starts_induction isRetryable operation
    (fun s starts final => starts ≠ [] ∧
      view final.2 = view s ++ List.replicate (starts.length - 1) x) policy pause ?_ ?_ s).2
  · intro n s'
    refine ⟨List.cons_ne_nil _ _, ?_⟩
    rw [hoperation, List.length_singleton, List.replicate_zero, List.append_nil]
  · intro n s' e starts final _ _ hrest
    obtain ⟨hne, hview⟩ := hrest
    obtain ⟨s₀, rest, rfl⟩ := List.exists_cons_of_ne_nil hne
    refine ⟨List.cons_ne_nil _ _, ?_⟩
    rw [hview, hpause, hoperation, List.append_assoc, List.singleton_append, ← List.replicate_succ]
    rfl

end RetryPolicy

end WarehouseAccess
