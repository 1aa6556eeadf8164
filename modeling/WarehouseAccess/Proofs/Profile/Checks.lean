import Mathlib.Tactic.Common
import WarehouseAccess.Profile.Basic

/-!
# Checked profiles

The checks change a profile in one point, its authentication mode: a set flag for integrated login
settles it.  So they have nothing to change in a profile that they have passed.
-/

namespace WarehouseAccess

namespace Profile

variable {p q : Profile}

@[simp] lemma windowsLogin_normalize (p : Profile) : p.normalize.windowsLogin = p.windowsLogin := by
  unfold normalize
  split_ifs <;> rfl

@[simp] lemma checkTarget_normalize (p : Profile) : p.normalize.checkTarget = p.checkTarget := by
  unfold normalize
  split_ifs <;> rfl

lemma authentication_normalize (h : p.windowsLogin = true) :
    p.normalize.authentication = .windowsLogin := by
  rw [normalize, if_pos h]

@[simp] lemma normalize_normalize (p : Profile) : p.normalize.normalize = p.normalize := by
  by_cases h : p.windowsLogin = true
  · have hflag : p.normalize.windowsLogin = true := by rw [windowsLogin_normalize, h]
    rw [normalize, if_pos hflag, ← authentication_normalize h]
  · have hflag : ¬p.normalize.windowsLogin = true := by rwa [windowsLogin_normalize]
    rw [normalize, if_neg hflag]

/-- A profile passes the checks when its target and its snapshot are given as they have to be. -/
lemma validated_eq_ok_iff :
    p.validated = .ok q ↔
      p.checkTarget = .ok () ∧ p.normalize.checkSnapshotPair = .ok () ∧ p.normalize = q := by
  rw [validated, validate]
  cases p.checkTarget with
  | error e => simp
  | ok _ =>
    cases p.normalize.checkSnapshotPair with
    | error e => simp
    | ok _ => simp

/-- A profile that has passed the checks passes them as it is. -/
lemma validated_of_validated (h : p.validated = .ok q) : q.validated = .ok q := by
  obtain ⟨htarget, hpair, rfl⟩ := validated_eq_ok_iff.mp h
  refine validated_eq_ok_iff.mpr ⟨?_, ?_, p.normalize_normalize⟩
  · rw [checkTarget_normalize, htarget]
  · rw [normalize_normalize, hpair]

/-- A profile that was checked has integrated login as its mode when its flag is set. -/
lemma authentication_of_validated (h : p.validated = .ok q) (hflag : q.windowsLogin = true) :
    q.authentication = .windowsLogin := by
  obtain ⟨-, -, rfl⟩ := validated_eq_ok_iff.mp h
  rw [windowsLogin_normalize] at hflag
  exact authentication_normalize hflag

end Profile

end WarehouseAccess
