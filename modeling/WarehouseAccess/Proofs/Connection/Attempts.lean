import Mathlib.Algebra.Group.Nat.Defs
import Mathlib.Order.Bounds.Basic
import WarehouseAccess.Proofs.Connection.Retry

/-!
# How often an operation is tried

The outcomes that an operation would have if it were called again and again decide what a run of
`RetryPolicy.run` does: the first call that succeeds, fails for good or is the last one allowed ends
it, and its outcome is that of the run.

### Outline

* `callState` are the states in which the calls of an operation begin when every call is followed by
  another one, and `Decides` says which call is not;
* `exists_run_eq` is what follows from the way attempts follow one another (`Course`);
* `countedFrom` counts the attempts in 32 bits, as far as the counter goes, and `countedFrom_eq`
  says that this is enough;
* `run_of_outcomes` puts these together, with all the calls and pauses of a run.
-/

namespace WarehouseAccess

namespace RetryPolicy

variable {σ ε α : Type}

/-- The state in which the call behind the first `n` ones begins, if each of these is followed by
another one. -/
def callState (pause : σ → σ) (operation : ℕ → σ → Except ε α × σ) (s : σ) : ℕ → σ
  | 0 => s
  | n + 1 => pause (operation (n + 1) (callState pause operation s n)).2

/-- What the call of the given number leads to; the first call has number one. -/
def callAt (pause : σ → σ) (operation : ℕ → σ → Except ε α × σ) (s : σ) (k : ℕ) : Except ε α × σ :=
  operation k (callState pause operation s (k - 1))

/-- The outcome that the call of the given number would have. -/
def outcomeAt (pause : σ → σ) (operation : ℕ → σ → Except ε α × σ) (s : σ) (k : ℕ) : Except ε α :=
  (callAt pause operation s k).1

/-- No call follows this one: it succeeds, fails with an error that is not worth another attempt, or
is the last that may be made.  One call may always be made. -/
def Decides (isRetryable : ε → Bool) (limit : ℕ) (outcome : ℕ → Except ε α) (k : ℕ) : Prop :=
  (∃ value, outcome k = .ok value) ∨ (∃ e, outcome k = .error e ∧ isRetryable e = false) ∨
    k = max 1 limit

/-- The first of the outcomes, counted from one, that decides. -/
def IsFirstDeciding (isRetryable : ε → Bool) (limit : ℕ) (outcome : ℕ → Except ε α) (k : ℕ) :
    Prop :=
  IsLeast {k | 1 ≤ k ∧ Decides isRetryable limit outcome k} k

namespace IsFirstDeciding

variable {isRetryable : ε → Bool} {limit : ℕ} {outcome : ℕ → Except ε α} {k : ℕ}

lemma one_le (h : IsFirstDeciding isRetryable limit outcome k) : 1 ≤ k := h.1.1

/-- No call is made beyond the limit. -/
lemma le_max (h : IsFirstDeciding isRetryable limit outcome k) : k ≤ max 1 limit :=
  h.2 ⟨Nat.le_max_left 1 limit, .inr (.inr rfl)⟩

end IsFirstDeciding

namespace Course

variable {isRetryable : ε → Bool} {pause : σ → σ} {operation : ℕ → σ → Except ε α × σ}
  {limit : ℕ} {s : σ} {starts : List σ} {final : Except ε α × σ}

/-- There is at least one attempt. -/
lemma length_pos (h : Course isRetryable pause operation limit 1 s starts final) :
    1 ≤ starts.length := by
  cases starts with
  | nil => exact absurd h.head (by simp)
  | cons s rest => simp

/-- The attempts begin in the states of the calls. -/
lemma getElem_starts (h : Course isRetryable pause operation limit 1 s starts final) (i : ℕ)
    (hi : i < starts.length) : starts[i] = callState pause operation s i := by
  induction i with
  | zero =>
    have hhead := h.head
    rw [List.head?_eq_getElem?, List.getElem?_eq_getElem hi] at hhead
    exact Option.some.inj hhead
  | succ i ih =>
    obtain ⟨e, s', hop, -, hnext⟩ := h.again i hi
    rw [ih (by omega), Nat.add_comm 1 i] at hop
    rw [hnext, callState, hop]

/-- A run ends with the last of its calls. -/
lemma final_eq (h : Course isRetryable pause operation limit 1 s starts final) :
    final = callAt pause operation s starts.length := by
  obtain ⟨n, hn⟩ : ∃ n, starts.length = n + 1 := ⟨starts.length - 1, by have := h.length_pos; omega⟩
  have hlast := h.last n hn.symm
  rw [h.getElem_starts n (by omega), Nat.add_comm 1 n] at hlast
  rw [hn, callAt, Nat.add_sub_cancel, hlast]

/-- The last call of a run is the first that decides. -/
lemma isFirstDeciding (h : Course isRetryable pause operation limit 1 s starts final) :
    IsFirstDeciding isRetryable limit (outcomeAt pause operation s) starts.length := by
  have hlength := h.length_pos
  have hle := h.length_le
  constructor
  · -- the last attempt decides
    refine ⟨hlength, ?_⟩
    unfold Decides outcomeAt
    rw [← h.final_eq]
    cases hfinal : final.1 with
    | ok value => exact .inl ⟨value, rfl⟩
    | error e =>
      rcases h.ended e hfinal with hretry | hlimit
      · exact .inr (.inl ⟨e, rfl, hretry⟩)
      · exact .inr (.inr (by omega))
  · rintro k ⟨hk, hdecides⟩
    -- an earlier one would have been followed by another, so it failed with an error worth it
    by_contra hlt
    have hnext : k - 1 + 1 < starts.length := by omega
    obtain ⟨e, s', hop, hretry, -⟩ := h.again (k - 1) hnext
    have hnumber : 1 + (k - 1) = k := by omega
    rw [h.getElem_starts (k - 1) (by omega), hnumber] at hop
    have hcall : outcomeAt pause operation s k = .error e := congrArg Prod.fst hop
    rcases hdecides with ⟨value, hvalue⟩ | ⟨e', he', hfatal⟩ | hlast
    · rw [hcall] at hvalue
      cases hvalue
    · rw [hcall] at he'
      obtain rfl := Except.error.inj he'
      rw [hretry] at hfatal
      cases hfatal
    · omega

end Course

/-- A run ends with the first call that decides. -/
lemma exists_run_eq (limit : ℕ) (interval : Duration) (isRetryable : ε → Bool)
    (pause : Duration → σ → σ) (operation : ℕ → σ → Except ε α × σ) (s : σ) :
    ∃ k, IsFirstDeciding isRetryable limit (outcomeAt (pause interval) operation s) k ∧
      (new limit interval).run isRetryable pause operation s =
        callAt (pause interval) operation s k := by
  have hcourse := course_starts (new limit interval) (Nat.le_max_right limit 1) isRetryable pause
    operation s
  have hfirst := hcourse.isFirstDeciding
  have hlimit : max 1 (new limit interval).attempts = max 1 limit := by
    have hattempts : (new limit interval).attempts = max limit 1 := rfl
    omega
  unfold IsFirstDeciding Decides at hfirst ⊢
  rw [hlimit] at hfirst
  exact ⟨_, hfirst, hcourse.final_eq⟩

/-! ### What happens during a run -/

/-- Something that happens during a run. -/
inductive RunEvent where
  | call (attempt : ℕ)
  | sleep (d : Duration)
deriving DecidableEq, Repr

/-- The operation, with a record of its calls. -/
def recordCall (operation : ℕ → σ → Except ε α × σ) (attempt : ℕ) (s : σ × List RunEvent) :
    Except ε α × σ × List RunEvent :=
  ((operation attempt s.1).1, (operation attempt s.1).2, s.2 ++ [.call attempt])

/-- The pause, with a record of it. -/
def recordSleep (pause : Duration → σ → σ) (d : Duration) (s : σ × List RunEvent) :
    σ × List RunEvent :=
  (pause d s.1, s.2 ++ [.sleep d])

/-- Calls and pauses in turns. -/
lemma callState_recorded (pause : Duration → σ → σ) (interval : Duration)
    (operation : ℕ → σ → Except ε α × σ) (s : σ) (n : ℕ) :
    callState (recordSleep pause interval) (recordCall operation) (s, []) n =
      (callState (pause interval) operation s n,
        (List.range' 1 n).flatMap fun k => [.call k, .sleep interval]) := by
  induction n with
  | zero => rfl
  | succ n ih =>
    rw [callState, ih, List.range'_concat, List.flatMap_append]
    simp [recordCall, recordSleep, callState, Nat.add_comm]

/-- A separator behind every item but the last one stands between every two items. -/
lemma flatMap_append_eq_intersperse {β γ : Type} (f : β → γ) (sep : γ) (l : List β) (x : β) :
    (l.flatMap fun a => [f a, sep]) ++ [f x] = ((l ++ [x]).map f).intersperse sep := by
  induction l with
  | nil => rfl
  | cons a l ih =>
    obtain ⟨b, rest, hrest⟩ : ∃ b rest, (l ++ [x]).map f = b :: rest :=
      List.exists_cons_of_ne_nil (by simp)
    have hcons : (a :: l ++ [x]).map f = f a :: b :: rest := by
      rw [List.cons_append, List.map_cons, hrest]
    rw [List.flatMap_cons, List.append_assoc, ih, hcons, List.intersperse_cons_cons, ← hrest]
    rfl

/-- The calls up to the one of the given number, with a pause between every two. -/
lemma events_callAt (pause : Duration → σ → σ) (interval : Duration)
    (operation : ℕ → σ → Except ε α × σ) (s : σ) {k : ℕ} (hk : 1 ≤ k) :
    (callAt (recordSleep pause interval) (recordCall operation) (s, []) k).2.2 =
      ((List.range' 1 k).map .call).intersperse (.sleep interval) := by
  obtain ⟨n, rfl⟩ : ∃ n, k = n + 1 := ⟨k - 1, by omega⟩
  have hnumbers : List.range' 1 (n + 1) = List.range' 1 n ++ [n + 1] := by
    rw [List.range'_concat, Nat.one_mul, Nat.add_comm 1 n]
  rw [callAt, Nat.add_sub_cancel, callState_recorded, hnumbers, ← flatMap_append_eq_intersperse]
  rfl

/-! ### Counting in 32 bits -/

/-- Below the limit the next number is larger by one. -/
lemma toNat_next {limit attempt : UInt32} (h : attempt < limit) :
    (attempt + 1).toNat = attempt.toNat + 1 := by
  have hlt := UInt32.lt_iff_toNat_lt.mp h
  have hlimit := limit.toNat_lt
  rw [UInt32.toNat_add, UInt32.toNat_one]
  omega

/-- Makes the attempt of the given number and those that follow it.  The numbers are of 32 bits and
begin anew behind the largest one. -/
def countedFrom (limit : UInt32) (isRetryable : ε → Bool) (pause : σ → σ)
    (operation : ℕ → σ → Except ε α × σ) (attempt : UInt32) (s : σ) : Except ε α × σ :=
  match operation attempt.toNat s with
  | (.ok value, s) => (.ok value, s)
  | (.error e, s) =>
    if h : attempt < limit ∧ isRetryable e = true then
      countedFrom limit isRetryable pause operation (attempt + 1) (pause s)
    else (.error e, s)
termination_by limit.toNat - attempt.toNat
decreasing_by
  have hlt := UInt32.lt_iff_toNat_lt.mp h.1
  have hnext := toNat_next h.1
  omega

/-- The numbers never begin anew: counting in 32 bits makes the same attempts. -/
lemma countedFrom_eq (limit : UInt32) (isRetryable : ε → Bool) (pause : σ → σ)
    (operation : ℕ → σ → Except ε α × σ) (attempt : UInt32) (s : σ) :
    countedFrom limit isRetryable pause operation attempt s =
      runFrom isRetryable pause operation (limit.toNat - attempt.toNat) attempt.toNat s := by
  fun_induction countedFrom limit isRetryable pause operation attempt s with
  | case1 attempt s value s' hop =>
    cases limit.toNat - attempt.toNat with
    | zero => rw [runFrom, hop]
    | succ left => rw [runFrom, hop]
  | case2 attempt s e s' hop hretry ih =>
    have hlt := UInt32.lt_iff_toNat_lt.mp hretry.1
    have hnext := toNat_next hretry.1
    obtain ⟨left, hleft⟩ : ∃ left, limit.toNat - attempt.toNat = left + 1 :=
      ⟨limit.toNat - attempt.toNat - 1, by omega⟩
    have hrest : limit.toNat - (attempt + 1).toNat = left := by omega
    rw [ih, hrest, hnext, hleft, runFrom, hop]
    exact (if_pos hretry.2).symm
  -- the counter has reached the limit, or the error is not worth another attempt
  | case3 attempt s e s' hop hend =>
    by_cases hlast : attempt < limit
    · have hlt := UInt32.lt_iff_toNat_lt.mp hlast
      obtain ⟨left, hleft⟩ : ∃ left, limit.toNat - attempt.toNat = left + 1 :=
        ⟨limit.toNat - attempt.toNat - 1, by omega⟩
      rw [hleft, runFrom, hop]
      exact (if_neg fun hretry => hend ⟨hlast, hretry⟩).symm
    · have hzero : limit.toNat - attempt.toNat = 0 := by
        have hle := mt UInt32.lt_iff_toNat_lt.mpr hlast
        omega
      rw [hzero, runFrom, hop]

/-! ### All runs -/

/-- What every run does, whatever the limit, the operation and the errors that are worth another
attempt.  The first call that decides ends it, and what this call leads to is what the run does.  Up
to this one it makes every call, numbered from one, and pauses once between every two.  A policy of
no attempts makes one, and numbers of 32 bits are enough to count them. -/
theorem run_of_outcomes (limit : UInt32) (interval : Duration) (isRetryable : ε → Bool)
    (pause : Duration → σ → σ) (operation : ℕ → σ → Except ε α × σ) (s : σ) :
    (∃ k, IsFirstDeciding isRetryable limit.toNat (outcomeAt (pause interval) operation s) k ∧
      k < 2 ^ 32 ∧
      (new limit.toNat interval).run isRetryable pause operation s =
        callAt (pause interval) operation s k ∧
      ((new limit.toNat interval).run isRetryable (recordSleep pause) (recordCall operation)
        (s, [])).2.2 = ((List.range' 1 k).map .call).intersperse (.sleep interval)) ∧
    RetryPolicy.run ⟨limit.toNat, interval⟩ isRetryable pause operation s =
      (new limit.toNat interval).run isRetryable pause operation s ∧
    countedFrom limit isRetryable (pause interval) operation 1 s =
      (new limit.toNat interval).run isRetryable pause operation s := by
  have hleft : (new limit.toNat interval).attempts - 1 = limit.toNat - 1 := by
    have hattempts : (new limit.toNat interval).attempts = max limit.toNat 1 := rfl
    omega
  refine ⟨?_, ?_, ?_⟩
  · obtain ⟨k, hk, hrun⟩ := exists_run_eq limit.toNat interval isRetryable pause operation s
    obtain ⟨k', hk', hrun'⟩ := exists_run_eq limit.toNat interval isRetryable (recordSleep pause)
      (recordCall operation) (s, [])
    -- keeping a record does not change the outcomes
    have houtcome : outcomeAt (recordSleep pause interval) (recordCall operation) (s, []) =
        outcomeAt (pause interval) operation s := by
      funext n
      unfold outcomeAt callAt
      rw [callState_recorded]
      rfl
    rw [houtcome] at hk'
    obtain rfl := hk'.unique hk
    refine ⟨k', hk, ?_, hrun, ?_⟩
    · have hle := hk.le_max
      have hlimit := limit.toNat_lt
      omega
    · rw [hrun', events_callAt pause interval operation s hk.one_le]
  · unfold run
    rw [hleft]
    rfl
  · unfold run
    rw [countedFrom_eq, hleft]
    rfl

end RetryPolicy

end WarehouseAccess
