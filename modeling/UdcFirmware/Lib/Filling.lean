/-
Buffers that are filled from the front: the cells, and the index of the cell
to write next. Setting the index back empties the buffer and leaves the
cells, so what lies at or past the index is stale.

`push` writes one element and stops when there is no cell for it; `drain`
takes elements off a queue while there is room. Either way the elements held
are those before, and then the new ones (`held_append`).
-/
import UdcFirmware.Lib.ByteMem
import UdcFirmware.Lib.Checked
import Mathlib.Data.List.GetD

namespace Filling

open ByteMem Checked

variable {ε β : Type}

/-- `data[i] = x` in an array of `size` cells. -/
def writeCell (e : ε) (size : Nat) (data : Mem β) (i : Nat) (x : β) : Except ε (Mem β) :=
  if i < size then .ok (Function.update data i x) else .error e

theorem writeCell_ok {e : ε} {size : Nat} {data : Mem β} {i : Nat} {x : β} (h : i < size) :
    writeCell e size data i x = .ok (Function.update data i x) := if_pos h

structure Buffer (β : Type) where
  data : Mem β
  index : Nat

namespace Buffer

/-- What was written since the index was last 0. -/
def held (b : Buffer β) : List β := load b.data ⟨0, b.index⟩

/-- Elements written at the index. -/
def append (b : Buffer β) (xs : List β) : Buffer β := ⟨store b.data b.index xs, b.index + xs.length⟩

/-- `data[index++] = x` in a buffer of `size` cells. -/
def push (e : ε) (size : Nat) (b : Buffer β) (x : β) : Except ε (Buffer β) :=
  if b.index < size then .ok ⟨Function.update b.data b.index x, b.index + 1⟩ else .error e

/-- Element after element, without a look at the room there is. -/
def pushAll (e : ε) (size : Nat) (b : Buffer β) : List β → Except ε (Buffer β)
  | [] => .ok b
  | x :: xs => push e size b x >>= fun b => pushAll e size b xs

/-- Element after element while there is room; and what is left over. -/
def drain (size : Nat) (b : Buffer β) : List β → Buffer β × List β
  | [] => (b, [])
  | x :: xs =>
    if b.index < size then drain size ⟨Function.update b.data b.index x, b.index + 1⟩ xs else (b, x :: xs)

/-- Empty again. The cells keep what they hold. -/
def reset (b : Buffer β) : Buffer β := { b with index := 0 }

@[simp] theorem held_length (b : Buffer β) : b.held.length = b.index := load_length _ _

@[simp] theorem held_reset (b : Buffer β) : b.reset.held = [] := rfl

@[simp] theorem index_reset (b : Buffer β) : b.reset.index = 0 := rfl

@[simp] theorem data_reset (b : Buffer β) : b.reset.data = b.data := rfl

@[simp] theorem append_nil (b : Buffer β) : b.append [] = b := by
  have hstore : store b.data b.index ([] : List β) = b.data := by
    funext i
    simp [store]
  simp [append, hstore]

@[simp] theorem index_append (b : Buffer β) (xs : List β) : (b.append xs).index = b.index + xs.length := rfl

theorem update_eq_append (b : Buffer β) (x : β) :
    (⟨Function.update b.data b.index x, b.index + 1⟩ : Buffer β) = b.append [x] := by
  have hstore : Function.update b.data b.index x = store b.data b.index [x] := by
    funext i
    rcases Nat.lt_trichotomy i b.index with hlt | rfl | hgt
    · rw [Function.update_of_ne (by omega), store_of_not_mem _ (by simp [Region.mem_iff]; omega)]
    · rw [Function.update_self]
      have h : 0 < [x].length := Nat.succ_pos 0
      exact (store_of_mem b.data h).symm
    · rw [Function.update_of_ne (by omega), store_of_not_mem _ (by simp [Region.mem_iff]; omega)]
  rw [hstore]
  rfl

theorem append_append (b : Buffer β) (xs ys : List β) : (b.append xs).append ys = b.append (xs ++ ys) := by
  have hstore : store (store b.data b.index xs) (b.index + xs.length) ys =
      store b.data b.index (xs ++ ys) := by
    funext i
    simp only [store]
    by_cases h₁ : b.index ≤ i
    · by_cases h₂ : b.index + xs.length ≤ i
      · rw [if_pos h₂, if_pos h₁, if_pos h₁, List.getD_append_right _ _ _ _ (by omega),
          List.getD_eq_default xs _ (by omega), Nat.sub_sub]
      · rw [if_neg h₂, if_pos h₁, if_pos h₁, List.getD_append _ _ _ _ (by omega)]
    · rw [if_neg (by omega), if_neg h₁, if_neg h₁]
  simp only [append, hstore, List.length_append, Nat.add_assoc]

/-- Below the index nothing changes. -/
theorem data_append_of_lt (b : Buffer β) (xs : List β) {i : Nat} (h : i < b.index) :
    (b.append xs).data i = b.data i :=
  store_of_not_mem _ (by simp [Region.mem_iff]; omega)

/-- Nor past what was written. -/
theorem data_append_of_ge (b : Buffer β) (xs : List β) {i : Nat} (h : b.index + xs.length ≤ i) :
    (b.append xs).data i = b.data i :=
  store_of_not_mem _ (by simp [Region.mem_iff]; omega)

/-- What was written is in the cells from the index on. -/
theorem data_append_add (b : Buffer β) {xs : List β} {i : Nat} {x : β} (h : xs[i]? = some x) :
    (b.append xs).data (b.index + i) = x := by
  obtain ⟨hi, rfl⟩ := List.getElem?_eq_some_iff.mp h
  exact store_of_mem b.data hi

/-- The elements held are in the cells. -/
theorem data_of_held (b : Buffer β) {i : Nat} (h : i < b.held.length) : b.data i = b.held[i] := by
  simp only [held, load_getElem, Nat.zero_add]

theorem held_append (b : Buffer β) (xs : List β) : (b.append xs).held = b.held ++ xs := by
  apply List.ext_getElem (by simp)
  intro i h₁ h₂
  rw [← data_of_held]
  by_cases hi : i < b.index
  · rw [List.getElem_append_left (by simpa using hi), data_append_of_lt b xs hi, data_of_held]
  · have hlen : i - b.index < xs.length := by simp at h₁; omega
    rw [List.getElem_append_right (by simpa using hi)]
    simp only [held_length]
    have hmem := store_of_mem b.data (a := b.index) hlen
    rw [show b.index + (i - b.index) = i by omega] at hmem
    exact hmem

theorem push_eq (e : ε) (size : Nat) (b : Buffer β) (x : β) :
    push e size b x = if b.index < size then .ok (b.append [x]) else .error e := by
  rw [push, update_eq_append]

/-- There is room for the elements, or there are none. -/
theorem pushAll_eq (e : ε) (size : Nat) (b : Buffer β) (xs : List β) :
    pushAll e size b xs = if b.index + xs.length ≤ size ∨ xs = [] then .ok (b.append xs) else .error e := by
  induction xs generalizing b with
  | nil => simp [pushAll]
  | cons x xs ih =>
    rw [pushAll, push_eq]
    by_cases hb : b.index < size
    · have hroom : ((b.append [x]).index + xs.length ≤ size ∨ xs = []) ↔
          (b.index + (x :: xs).length ≤ size ∨ x :: xs = []) := by
        have hnil : xs = [] ↔ xs.length = 0 := List.length_eq_zero_iff.symm
        simp only [index_append, List.length_cons, List.length_nil, reduceCtorEq, or_false, hnil]
        omega
      rw [if_pos hb, ok_bind, ih, append_append, if_congr hroom rfl rfl]
      rfl
    · rw [if_neg hb, if_neg (by simp; omega)]
      rfl

/-- `drain` takes as many elements as there is room for. -/
theorem drain_eq (size : Nat) (b : Buffer β) (xs : List β) :
    drain size b xs = (b.append (xs.take (size - b.index)), xs.drop (size - b.index)) := by
  induction xs generalizing b with
  | nil => simp [drain]
  | cons x xs ih =>
    by_cases hb : b.index < size
    · obtain ⟨n, hn⟩ : ∃ n, size - b.index = n + 1 := ⟨size - b.index - 1, by omega⟩
      rw [drain, if_pos hb, update_eq_append, ih, append_append, index_append, hn]
      simp only [List.length_singleton, show size - (b.index + 1) = n by omega, List.take_succ_cons,
        List.drop_succ_cons]
      rfl
    · rw [drain, if_neg hb, show size - b.index = 0 by omega]
      simp

end Buffer

end Filling
