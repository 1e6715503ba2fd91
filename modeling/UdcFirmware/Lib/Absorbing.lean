/-
A list that a machine takes in a block at a time: the full blocks of `n`
elements that it has (`full`), and the rest, which is shorter than a block
(`rest`). What comes later completes the rest first (`full_append`,
`rest_append`), so a machine that has folded the full blocks into its state,
and keeps the rest, knows all there is to know about the list
(`Absorbed.append`), however the list was divided.
-/
import UdcFirmware.Lib.Blocks

namespace Absorbing

open Blocks

universe u v

variable {α : Type u} {S : Type v} {n : Nat} {b l m : List α}

/-- The full blocks. -/
def full (n : Nat) (l : List α) : List (List α) := (List.range (l.length / n)).map fun j => block n j l

/-- What comes after them. -/
def rest (n : Nat) (l : List α) : List α := l.drop (l.length / n * n)

theorem length_rest (n : Nat) (l : List α) : (rest n l).length = l.length % n := by
  have h := Nat.div_add_mod' l.length n
  rw [rest, List.length_drop]
  omega

theorem full_short (h : l.length < n) : full n l = [] := by
  rw [full, Nat.div_eq_of_lt h, List.range_zero, List.map_nil]

theorem rest_short (h : l.length < n) : rest n l = l := by
  rw [rest, Nat.div_eq_of_lt h, Nat.zero_mul, List.drop_zero]

/-- A block in front. -/
theorem block_append_succ (hb : b.length = n) (j : Nat) (l : List α) :
    block n (j + 1) (b ++ l) = block n j l := by
  have hj : (j + 1) * n = b.length + j * n := by rw [Nat.succ_mul, hb, Nat.add_comm]
  rw [block, block, hj, List.drop_length_add_append]

theorem block_append_zero (hb : b.length = n) (l : List α) : block n 0 (b ++ l) = b := by
  rw [block, Nat.zero_mul, List.drop_zero, ← hb, List.take_left]

theorem full_block (hn : 0 < n) (hb : b.length = n) (l : List α) : full n (b ++ l) = b :: full n l := by
  have hcount : (b ++ l).length / n = l.length / n + 1 := by
    rw [List.length_append, hb, Nat.add_div_left _ hn]
  rw [full, hcount, List.range_succ_eq_map, List.map_cons, block_append_zero hb, List.map_map, full]
  exact congrArg _ (List.map_congr_left fun j _ => block_append_succ hb j l)

theorem rest_block (hn : 0 < n) (hb : b.length = n) (l : List α) : rest n (b ++ l) = rest n l := by
  have hcount : (b ++ l).length / n * n = b.length + l.length / n * n := by
    rw [List.length_append, hb, Nat.add_div_left _ hn, Nat.succ_mul, Nat.add_comm]
  rw [rest, hcount, List.drop_length_add_append, rest]

/-- Induction on the number of full blocks. -/
theorem blockInduction (hn : 0 < n) {P : List α → Prop} (short : ∀ l, l.length < n → P l)
    (more : ∀ b l, b.length = n → P l → P (b ++ l)) (l : List α) : P l := by
  induction hlen : l.length using Nat.strongRecOn generalizing l with
  | ind len ih =>
    by_cases h : l.length < n
    · exact short l h
    · rw [← List.take_append_drop n l]
      refine more _ _ (by rw [List.length_take]; omega) (ih (l.drop n).length ?_ _ rfl)
      rw [List.length_drop]
      omega

/-- What comes later completes the rest first. -/
theorem full_append (hn : 0 < n) (l m : List α) : full n (l ++ m) = full n l ++ full n (rest n l ++ m) := by
  induction l using blockInduction hn with
  | short l h => rw [full_short h, rest_short h, List.nil_append]
  | more b l hb ih =>
    rw [List.append_assoc, full_block hn hb, full_block hn hb, rest_block hn hb, ih, List.cons_append]

theorem rest_append (hn : 0 < n) (l m : List α) : rest n (l ++ m) = rest n (rest n l ++ m) := by
  induction l using blockInduction hn with
  | short l h => rw [rest_short h]
  | more b l hb ih => rw [List.append_assoc, rest_block hn hb, rest_block hn hb, ih]

/-! ## A machine -/

variable {compress : S → List α → S} {s₀ s : S} {pending : List α}

/-- The state and the pending elements of a machine that started in `s₀` and was given `l`. -/
structure Absorbed (compress : S → List α → S) (n : Nat) (s₀ : S) (l : List α) (s : S)
    (pending : List α) : Prop where
  state : s = (full n l).foldl compress s₀
  pending : pending = rest n l

theorem Absorbed.nil (hn : 0 < n) : Absorbed compress n s₀ [] s₀ [] where
  state := by rw [full_short hn]; rfl
  pending := (rest_short hn).symm

theorem Absorbed.append (hn : 0 < n) (h : Absorbed compress n s₀ l s pending) (m : List α) :
    Absorbed compress n s₀ (l ++ m) ((full n (pending ++ m)).foldl compress s) (rest n (pending ++ m)) where
  state := by rw [full_append hn l, List.foldl_append, ← h.state, ← h.pending]
  pending := by rw [rest_append hn l, ← h.pending]

theorem Absorbed.length (h : Absorbed compress n s₀ l s pending) : pending.length = l.length % n := by
  rw [h.pending, length_rest]

end Absorbing
