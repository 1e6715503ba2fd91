/-
Sums with end-around carry: words below `m + 1` added so that a carry comes
back in at the low end. What such a sum comes to is a function of the plain
sum, `fold m`: the plain sum modulo `m`, where a multiple of `m` is written
`m`, and `0` only if every word was `0`.
-/
import Mathlib.Data.Nat.ModEq

namespace OnesComplement

variable {m a b c : Nat}

/-- What words that come to `n` come to with end-around carry. -/
def fold (m n : Nat) : Nat := if n = 0 then 0 else (n - 1) % m + 1

@[simp] theorem fold_zero (m : Nat) : fold m 0 = 0 := if_pos rfl

theorem fold_pos (h : 0 < a) : fold m a = (a - 1) % m + 1 := if_neg (Nat.ne_of_gt h)

@[simp] theorem fold_eq_zero : fold m a = 0 ↔ a = 0 := by
  constructor
  · intro h
    by_contra hne
    rw [fold_pos (Nat.pos_of_ne_zero hne)] at h
    exact absurd h (Nat.succ_ne_zero _)
  · rintro rfl
    exact fold_zero m

/-- A word is its own sum. -/
theorem fold_of_le (h : a ≤ m) : fold m a = a := by
  rcases Nat.eq_zero_or_pos a with rfl | hpos
  · exact fold_zero m
  · rw [fold_pos hpos, Nat.mod_eq_of_lt (by omega), Nat.sub_add_cancel hpos]

theorem fold_modEq (a : Nat) : fold m a ≡ a [MOD m] := by
  rcases Nat.eq_zero_or_pos a with rfl | hpos
  · rfl
  · have h : (a - 1) % m + 1 ≡ a - 1 + 1 [MOD m] := (Nat.mod_modEq _ _).add_right 1
    rwa [Nat.sub_add_cancel hpos, ← fold_pos hpos] at h

/-- Sums that are not zero are the same if they are modulo `m`. -/
theorem fold_eq_of_modEq (ha : 0 < a) (hb : 0 < b) (h : a ≡ b [MOD m]) : fold m a = fold m b := by
  have hpred : a - 1 ≡ b - 1 [MOD m] := by
    refine Nat.ModEq.add_right_cancel' 1 ?_
    rwa [Nat.sub_add_cancel ha, Nat.sub_add_cancel hb]
  rw [fold_pos ha, fold_pos hb, hpred]

/-- A sum goes on from what it has come to. -/
theorem fold_add (m a b : Nat) : fold m (fold m a + b) = fold m (a + b) := by
  rcases Nat.eq_zero_or_pos a with rfl | hpos
  · rw [fold_zero]
  · have hfold : 0 < fold m a := Nat.pos_of_ne_zero (mt fold_eq_zero.mp (Nat.ne_of_gt hpos))
    exact fold_eq_of_modEq (by omega) (by omega) ((fold_modEq a).add_right b)

end OnesComplement
