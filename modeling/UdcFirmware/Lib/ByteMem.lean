/-
Byte-addressed memory: a total map from addresses to cells, read and written
a range at a time (`memcpy` out of and into it).

A store changes exactly its own range (`store_of_not_mem`), a load sees
exactly its own range (`load_eq_iff`), and stores into disjoint ranges
commute (`store_comm`).
-/
import Mathlib.Data.List.Basic

namespace ByteMem

variable {β : Type*}

abbrev Mem (β : Type*) := Nat → β

/-- A range of addresses. -/
structure Region where
  base : Nat
  size : Nat

instance : Membership Nat Region := ⟨fun r x => r.base ≤ x ∧ x < r.base + r.size⟩

theorem Region.mem_iff {r : Region} {x : Nat} : x ∈ r ↔ r.base ≤ x ∧ x < r.base + r.size := Iff.rfl

instance (r : Region) (x : Nat) : Decidable (x ∈ r) := decidable_of_iff _ Region.mem_iff.symm

/-- No address in common. -/
def Region.Apart (r t : Region) : Prop := ∀ x ∈ r, x ∉ t

theorem Region.Apart.symm {r t : Region} (h : r.Apart t) : t.Apart r := by
  intro x ht hr
  exact h x hr ht

/-- The cells of `r`, in address order. -/
def load (m : Mem β) (r : Region) : List β := (List.range r.size).map fun i => m (r.base + i)

/-- `m` with `bs` copied to the addresses from `a` on. -/
def store (m : Mem β) (a : Nat) (bs : List β) : Mem β := fun x =>
  if a ≤ x then bs.getD (x - a) (m x) else m x

@[simp] theorem load_length (m : Mem β) (r : Region) : (load m r).length = r.size := by simp [load]

theorem load_getElem (m : Mem β) (r : Region) {i : Nat} (h : i < (load m r).length) :
    (load m r)[i] = m (r.base + i) := by simp [load]

/-- A load depends on exactly its own range. -/
theorem load_eq_iff {m m' : Mem β} {r : Region} : load m r = load m' r ↔ ∀ x ∈ r, m x = m' x := by
  constructor
  · intro h x hx
    obtain ⟨i, rfl⟩ := Nat.exists_eq_add_of_le hx.1
    have hi : i < r.size := Nat.add_lt_add_iff_left.mp hx.2
    have he := congrArg (fun l => l[i]?) h
    simpa [load, hi] using he
  · intro h
    refine List.map_congr_left fun i hi => h _ ?_
    have := List.mem_range.mp hi
    exact ⟨Nat.le_add_right _ _, Nat.add_lt_add_left this _⟩

/-- A store puts `bs` at its own range. -/
theorem store_of_mem (m : Mem β) {a : Nat} {bs : List β} {i : Nat} (h : i < bs.length) :
    store m a bs (a + i) = bs[i] := by simp [store, h]

/-- A store changes nothing outside its own range. -/
theorem store_of_not_mem (m : Mem β) {a : Nat} {bs : List β} {x : Nat}
    (h : x ∉ (⟨a, bs.length⟩ : Region)) : store m a bs x = m x := by
  simp only [Region.mem_iff, not_and, Nat.not_lt] at h
  by_cases ha : a ≤ x
  · have : bs.length ≤ x - a := by have := h ha; omega
    simp [store, ha, this]
  · simp [store, ha]

@[simp] theorem store_nil (m : Mem β) (a : Nat) : store m a [] = m := funext fun x => by simp [store]

/-- The cells of a store, one after the other. -/
theorem store_cons (m : Mem β) (a : Nat) (b : β) (bs : List β) :
    store m a (b :: bs) = store (Function.update m a b) (a + 1) bs := by
  funext x
  rcases Nat.lt_trichotomy x a with hlt | rfl | hgt
  · have hne : x ≠ a := Nat.ne_of_lt hlt
    simp [store, Nat.not_le.mpr hlt, Nat.not_le.mpr (Nat.lt_succ_of_lt hlt), Function.update_of_ne hne]
  · simp [store, Nat.not_succ_le_self x]
  · obtain ⟨k, rfl⟩ := Nat.exists_eq_add_of_lt hgt
    have hne : a + k + 1 ≠ a := by omega
    simp [store, Function.update_of_ne hne, show a ≤ a + k + 1 by omega, show a + 1 ≤ a + k + 1 by omega,
      show a + k + 1 - a = k + 1 by omega, show a + k + 1 - (a + 1) = k by omega]

/-- What was stored is what is loaded. -/
theorem load_store (m : Mem β) (a : Nat) (bs : List β) : load (store m a bs) ⟨a, bs.length⟩ = bs := by
  apply List.ext_getElem (by simp)
  intro i h₁ h₂
  rw [load_getElem]
  exact store_of_mem m h₂

theorem load_append (m : Mem β) (a k l : Nat) : load m ⟨a, k + l⟩ = load m ⟨a, k⟩ ++ load m ⟨a + k, l⟩ := by
  simp [load, List.range_add, Nat.add_assoc]

/-! ## Memories that agree on a range -/

/-- The same cells in `r`. -/
def Agree (r : Region) (m m' : Mem β) : Prop := ∀ x ∈ r, m' x = m x

theorem Agree.refl (r : Region) (m : Mem β) : Agree r m m := fun _ _ => rfl

theorem Agree.trans {r : Region} {m₁ m₂ m₃ : Mem β} (h : Agree r m₁ m₂) (h' : Agree r m₂ m₃) :
    Agree r m₁ m₃ := fun x hx => (h' x hx).trans (h x hx)

theorem Agree.load {r : Region} {m m' : Mem β} (h : Agree r m m') : load m' r = load m r :=
  load_eq_iff.mpr h

/-- A store elsewhere. -/
theorem Agree.store {r : Region} (m : Mem β) {a : Nat} {bs : List β} (h : r.Apart ⟨a, bs.length⟩) :
    Agree r m (store m a bs) := fun x hx => store_of_not_mem m (h x hx)

/-! ## Order of stores -/

/-- Stores into disjoint ranges commute. -/
theorem store_comm (m : Mem β) {a b : Nat} {as bs : List β}
    (h : Region.Apart ⟨a, as.length⟩ ⟨b, bs.length⟩) :
    store (store m a as) b bs = store (store m b bs) a as := by
  funext x
  by_cases ha : x ∈ (⟨a, as.length⟩ : Region)
  · rw [store_of_not_mem _ (h x ha)]
    obtain ⟨i, rfl⟩ := Nat.exists_eq_add_of_le ha.1
    have hi : i < as.length := Nat.add_lt_add_iff_left.mp ha.2
    rw [store_of_mem _ hi, store_of_mem _ hi]
  · rw [store_of_not_mem (store m b bs) ha]
    by_cases hb : x ∈ (⟨b, bs.length⟩ : Region)
    · obtain ⟨i, rfl⟩ := Nat.exists_eq_add_of_le hb.1
      have hi : i < bs.length := Nat.add_lt_add_iff_left.mp hb.2
      rw [store_of_mem _ hi, store_of_mem _ hi]
    · rw [store_of_not_mem _ hb, store_of_not_mem _ hb, store_of_not_mem _ ha]

/-- A list of stores, in order. -/
def storeAll (m : Mem β) : List (Nat × List β) → Mem β
  | [] => m
  | (a, bs) :: l => storeAll (store m a bs) l

/-- The cells a store covers. -/
def target (x : Nat × List β) : Region := ⟨x.1, x.2.length⟩

/-- Stores into ranges that are pairwise disjoint can be made in any order. -/
theorem storeAll_perm {l l' : List (Nat × List β)} (hperm : l.Perm l')
    (h : l.Pairwise fun x y => (target x).Apart (target y)) (m : Mem β) : storeAll m l = storeAll m l' := by
  induction hperm generalizing m with
  | nil => rfl
  | cons x _ ih => exact ih (List.pairwise_cons.mp h).2 _
  | swap x y l =>
    have hxy : (target y).Apart (target x) := (List.pairwise_cons.mp h).1 x (by simp)
    exact congrArg (fun m => storeAll m l) (store_comm m hxy)
  | trans h₁ _ ih₁ ih₂ =>
    rw [ih₁ h m]
    exact ih₂ ((h₁.pairwise_iff fun hxy => hxy.symm).mp h) m

end ByteMem
