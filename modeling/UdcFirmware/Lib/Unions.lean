/-
Unions of many values under an operation like `|||`: associative, commutative
and idempotent.

`gather op x l` puts the values of `l` on top of `x`, and `Within op a b` says
that `a` adds nothing to `b`. What is gathered is within the result, and values
that are within the start can be left out (`gather_filter`).

`assign` is the other thing a row of blocks does: each gives a key its value.
-/
import Mathlib.Data.List.Basic
import Mathlib.Logic.Function.Basic

namespace Unions

universe u v

variable {α : Type u} {β : Type v} (op : α → α → α)

/-- The values of `l`, on top of `x`. -/
def gather (x : α) (l : List α) : α := l.foldl op x

/-- `a` adds nothing to `b`. -/
def Within (a b : α) : Prop := op b a = b

variable {op} {a b x : α} {l : List α}

theorem gather_append (x : α) (l l' : List α) : gather op x (l ++ l') = gather op (gather op x l) l' :=
  List.foldl_append ..

theorem within_op [Std.Associative op] [Std.IdempotentOp op] (a b : α) : Within op a (op b a) := by
  have hassoc : op (op b a) a = op b (op a a) := Std.Associative.assoc b a a
  have hidem : op a a = a := Std.IdempotentOp.idempotent a
  exact hassoc.trans (congrArg (op b) hidem)

/-- What adds nothing still adds nothing after more is put on top. -/
theorem Within.op_right [Std.Associative op] [Std.Commutative op] (h : Within op a b) (c : α) :
    Within op a (op b c) :=
  calc
    op (op b c) a = op b (op c a) := Std.Associative.assoc b c a
    _ = op b (op a c) := congrArg (op b) (Std.Commutative.comm c a)
    _ = op (op b a) c := (Std.Associative.assoc b a c).symm
    _ = op b c := congrArg (op · c) h

theorem Within.gather [Std.Associative op] [Std.Commutative op] (h : Within op a x) (l : List α) :
    Within op a (gather op x l) := by
  induction l generalizing x with
  | nil => exact h
  | cons c l ih => exact ih (h.op_right c)

variable [Std.Associative op] [Std.Commutative op]

theorem within_gather_of_mem [Std.IdempotentOp op] (h : a ∈ l) (x : α) : Within op a (gather op x l) := by
  induction l generalizing x with
  | nil => cases h
  | cons c l ih =>
    rcases List.mem_cons.mp h with rfl | h
    · exact (within_op a x).gather l
    · exact ih h _

/-- Values that add nothing to the start can be left out. -/
theorem gather_filter {f : β → α} {p : β → Bool} {l : List β}
    (h : ∀ b ∈ l, p b = false → Within op (f b) x) :
    gather op x ((l.filter p).map f) = gather op x (l.map f) := by
  induction l generalizing x with
  | nil => rfl
  | cons c l ih =>
    have hl : ∀ b ∈ l, p b = false → Within op (f b) x := fun b hb => h b (List.mem_cons_of_mem c hb)
    cases hc : p c with
    | true =>
      rw [List.filter_cons_of_pos hc, List.map_cons, List.map_cons]
      exact ih fun b hb hp => (hl b hb hp).op_right _
    | false =>
      have hx : op x (f c) = x := h c List.mem_cons_self hc
      rw [List.filter_cons_of_neg (by rw [hc]; exact Bool.false_ne_true), List.map_cons]
      show _ = gather op (op x (f c)) (l.map f)
      rw [hx]
      exact ih hl

/-! ## Assignments -/

section Assign

variable {K : Type u} {V : Type v} {B : Type*} [DecidableEq K]

/-- Each element of the list gives its key a value. -/
def assign (key : B → K) (val : B → V) (l : List B) (f : K → V) : K → V :=
  l.foldl (fun f b => Function.update f (key b) (val b)) f

variable {key : B → K} {val : B → V} {l : List B} {f : K → V}

theorem assign_of_not_mem {k : K} (h : k ∉ l.map key) : assign key val l f k = f k := by
  induction l generalizing f with
  | nil => rfl
  | cons b l ih =>
    rw [List.map_cons, List.mem_cons, not_or] at h
    exact (ih h.2).trans (Function.update_of_ne h.1 _ _)

/-- With different keys, each has the value it was given. -/
theorem assign_of_mem (hl : (l.map key).Nodup) {b : B} (hb : b ∈ l) : assign key val l f (key b) = val b := by
  induction l generalizing f with
  | nil => cases hb
  | cons c l ih =>
    obtain ⟨hc, hl⟩ := List.nodup_cons.mp hl
    rcases List.mem_cons.mp hb with rfl | hb
    · exact (assign_of_not_mem hc).trans (Function.update_self ..)
    · exact ih hl hb

end Assign

end Unions
