/-
A list cut into blocks of `n` elements. Block `j` starts at `j * n`; the last
block may be shorter, and the ones after it are empty.

And blocks of any length, of which a reader takes those up to the first that
has fewer than `n` elements (`untilShort`). `EndAlike` is when two readers with
different limits find the same elements.
-/
import Mathlib.Data.List.Basic

namespace Blocks

universe u

variable {α : Type u} {n j len : Nat} {l : List α}

/-- Block `j`. -/
def block (n j : Nat) (l : List α) : List α := (l.drop (j * n)).take n

/-- The number of blocks that hold `len` elements. -/
def count (n len : Nat) : Nat := (len + n - 1) / n

theorem lt_count (hn : 0 < n) : j < count n len ↔ j * n < len := by
  rw [count, ← Nat.succ_le_iff, Nat.le_div_iff_mul_le hn, Nat.succ_mul]
  omega

theorem count_le (hn : 0 < n) : count n len ≤ j ↔ len ≤ j * n := by
  rw [← Nat.not_lt, lt_count hn, Nat.not_lt]

theorem length_block : (block n j l).length = min n (l.length - j * n) := by
  rw [block, List.length_take, List.length_drop]

/-- A block with all its elements. -/
theorem length_block_full (h : (j + 1) * n ≤ l.length) : (block n j l).length = n := by
  rw [Nat.succ_mul] at h
  rw [length_block]
  omega

/-- The last block is the rest. -/
theorem block_last (h : l.length ≤ (j + 1) * n) : block n j l = l.drop (j * n) := by
  rw [Nat.succ_mul] at h
  exact List.take_of_length_le (by rw [List.length_drop]; omega)

/-- The blocks before `j`, and `j`. -/
theorem take_append_block (n j : Nat) (l : List α) :
    l.take (j * n) ++ block n j l = l.take ((j + 1) * n) := by
  rw [block, ← List.take_add, Nat.succ_mul]

/-- As much of a list as a block can have is the block. -/
theorem take_drop_eq_block (n j : Nat) (l : List α) :
    (l.drop (j * n)).take (min (l.length - j * n) n) = block n j l := by
  rw [block, ← List.take_take, List.take_of_length_le]
  rw [List.length_take, List.length_drop]
  omega

/-- After as much as a block can have, the next one starts. -/
theorem drop_drop_block (n j : Nat) (l : List α) :
    (l.drop (j * n)).drop (min (l.length - j * n) n) = l.drop ((j + 1) * n) := by
  rw [List.drop_drop, Nat.succ_mul]
  by_cases h : n ≤ l.length - j * n
  · rw [Nat.min_eq_right h]
  · rw [Nat.min_eq_left (by omega), List.drop_of_length_le (by omega), List.drop_of_length_le (by omega)]

/-! ## Up to a short block -/

/-- Of `k` blocks, those up to the first with fewer than `n` elements, and that one. -/
def untilShort (n : Nat) : Nat → (Nat → List α) → List (List α)
  | 0, _ => []
  | k + 1, blocks =>
    if (blocks 0).length < n then [blocks 0] else blocks 0 :: untilShort n k fun j => blocks (j + 1)

/-- The first block that is short for one limit is short for both, or has nothing after it. -/
def EndAlike (m n k : Nat) (blocks : Nat → List α) : Prop :=
  ∀ i < k, (∀ j < i, m ≤ (blocks j).length ∧ n ≤ (blocks j).length) →
    (blocks i).length < m ∨ (blocks i).length < n →
    ((blocks i).length < m ∧ (blocks i).length < n) ∨ i + 1 = k ∨ blocks (i + 1) = []

variable {m k : Nat} {blocks : Nat → List α}

theorem untilShort_short (h : (blocks 0).length < n) : untilShort n (k + 1) blocks = [blocks 0] := if_pos h

theorem untilShort_full (h : n ≤ (blocks 0).length) :
    untilShort n (k + 1) blocks = blocks 0 :: untilShort n k fun j => blocks (j + 1) :=
  if_neg (Nat.not_lt.mpr h)

theorem mem_untilShort {b : List α} (h : b ∈ untilShort n k blocks) : ∃ j < k, blocks j = b := by
  induction k generalizing blocks with
  | zero => exact absurd h List.not_mem_nil
  | succ k ih =>
    by_cases hshort : (blocks 0).length < n
    · rw [untilShort_short hshort, List.mem_singleton] at h
      exact ⟨0, Nat.succ_pos k, h.symm⟩
    · rw [untilShort_full (Nat.not_lt.mp hshort), List.mem_cons] at h
      rcases h with rfl | h
      · exact ⟨0, Nat.succ_pos k, rfl⟩
      · obtain ⟨j, hj, hb⟩ := ih h
        exact ⟨j + 1, Nat.succ_lt_succ hj, hb⟩

theorem untilShort_head (n k : Nat) (blocks : Nat → List α) :
    ∃ rest, (untilShort n (k + 1) blocks).flatten = blocks 0 ++ rest := by
  by_cases h : (blocks 0).length < n
  · exact ⟨[], by simp [untilShort_short h]⟩
  · exact ⟨_, by rw [untilShort_full (Nat.not_lt.mp h), List.flatten_cons]⟩

theorem untilShort_empty (h : ∀ i < k, blocks i = []) : (untilShort n k blocks).flatten = [] := by
  induction k generalizing blocks with
  | zero => rfl
  | succ k ih =>
    have hnil : blocks 0 = [] := h 0 (Nat.succ_pos k)
    by_cases hshort : (blocks 0).length < n
    · simp [untilShort_short hshort, hnil]
    · rw [untilShort_full (Nat.not_lt.mp hshort), List.flatten_cons, hnil,
        ih fun i hi => h (i + 1) (Nat.succ_lt_succ hi)]
      rfl

/-- A reader that finds nothing. -/
theorem untilShort_eq_nil (hn : 0 < n ∨ ∀ i < k, blocks i = []) :
    (untilShort n k blocks).flatten = [] ↔ k = 0 ∨ blocks 0 = [] := by
  cases k with
  | zero => simp [untilShort]
  | succ k =>
    constructor
    · intro h
      obtain ⟨rest, hrest⟩ := untilShort_head n k blocks
      rw [hrest] at h
      exact .inr (List.append_eq_nil_iff.mp h).1
    · intro h
      have hnil : blocks 0 = [] := h.resolve_left (Nat.succ_ne_zero k)
      rcases hn with hpos | hall
      · have hshort : (blocks 0).length < n := by rwa [hnil]
        simp [untilShort_short hshort, hnil]
      · exact untilShort_empty hall

theorem endAlike_short (h : (blocks 0).length < m ∨ (blocks 0).length < n) :
    EndAlike m n (k + 1) blocks ↔
      ((blocks 0).length < m ∧ (blocks 0).length < n) ∨ k = 0 ∨ blocks 1 = [] := by
  have hlast : 0 + 1 = k + 1 ↔ k = 0 := by omega
  constructor
  · intro halike
    have hfirst := halike 0 (Nat.succ_pos k) (fun j hj => absurd hj (Nat.not_lt_zero j)) h
    rwa [hlast] at hfirst
  · intro hends i hi hfull _
    rcases Nat.eq_zero_or_pos i with rfl | hpos
    · rwa [hlast]
    · have hzero := hfull 0 hpos
      omega

theorem endAlike_full (hm : m ≤ (blocks 0).length) (hn : n ≤ (blocks 0).length) :
    EndAlike m n (k + 1) blocks ↔ EndAlike m n k fun j => blocks (j + 1) := by
  constructor
  · intro h i hi hfull hshort
    have hnext := h (i + 1) (Nat.succ_lt_succ hi) (fun j hj => ?_) hshort
    · simpa using hnext
    · cases j with
      | zero => exact ⟨hm, hn⟩
      | succ j => exact hfull j (Nat.lt_of_succ_lt_succ hj)
  · intro h i hi hfull hshort
    cases i with
    | zero => omega
    | succ i =>
      have hnext := h i (Nat.lt_of_succ_lt_succ hi) (fun j hj => hfull (j + 1) (Nat.succ_lt_succ hj)) hshort
      simpa using hnext

/-- Both readers find the same. -/
theorem untilShort_eq_iff (hm : 0 < m ∨ k = 0) (hle : ∀ i < k, (blocks i).length ≤ n) :
    (untilShort m k blocks).flatten = (untilShort n k blocks).flatten ↔ EndAlike m n k blocks := by
  induction k generalizing blocks with
  | zero => exact iff_of_true rfl fun i hi => absurd hi (Nat.not_lt_zero i)
  | succ k ih =>
    have hpos : 0 < m := hm.resolve_right (Nat.succ_ne_zero k)
    have hle' (i : Nat) (hi : i < k) : (blocks (i + 1)).length ≤ n := hle (i + 1) (Nat.succ_lt_succ hi)
    have hn : 0 < n ∨ ∀ i < k, blocks (i + 1) = [] := by
      rcases Nat.eq_zero_or_pos n with hzero | hpos'
      · exact .inr fun i hi => List.length_eq_zero_iff.mp (Nat.le_zero.mp (hzero ▸ hle' i hi))
      · exact .inl hpos'
    by_cases hshort : (blocks 0).length < m
    · by_cases hshort' : (blocks 0).length < n
      · rw [endAlike_short (.inl hshort), untilShort_short hshort, untilShort_short hshort']
        exact iff_of_true rfl (.inl ⟨hshort, hshort'⟩)
      · rw [endAlike_short (.inl hshort), untilShort_short hshort, untilShort_full (Nat.not_lt.mp hshort')]
        simp [hshort', untilShort_eq_nil hn]
    · by_cases hshort' : (blocks 0).length < n
      · rw [endAlike_short (.inr hshort'), untilShort_full (Nat.not_lt.mp hshort), untilShort_short hshort']
        simp [hshort, untilShort_eq_nil (.inl hpos)]
      · have hfull : m ≤ (blocks 0).length := Nat.not_lt.mp hshort
        have hfull' : n ≤ (blocks 0).length := Nat.not_lt.mp hshort'
        rw [endAlike_full hfull hfull', untilShort_full hfull, untilShort_full hfull', List.flatten_cons,
          List.flatten_cons, List.append_cancel_left_eq]
        exact ih (.inl hpos) hle'

end Blocks
