/-
Computations that may stop: `Except` as the outcome of a program that
indexes arrays. `bind_ok_iff` takes a finished sequence apart, `index` is a
list access that stops past the end, and the `mapM` rules say what a loop
over a list produces.
-/
import Mathlib.Data.List.Basic

namespace Checked

universe u v

variable {ε : Type u} {α β : Type v}

theorem bind_ok_iff {x : Except ε α} {f : α → Except ε β} {b : β} :
    (x >>= f) = .ok b ↔ ∃ a, x = .ok a ∧ f a = .ok b := by
  cases x <;> simp [bind, Except.bind]

@[simp] theorem ok_bind (a : α) (f : α → Except ε β) : (Except.ok a >>= f) = f a := rfl

/-- A computation that has been evaluated. -/
theorem ok_of_toOption_map {x : Except ε α} {f : α → β} {b : β} (h : x.toOption.map f = some b) :
    ∃ a, x = .ok a ∧ f a = b := by
  cases x with
  | error e => cases h
  | ok a => exact ⟨a, rfl, Option.some.inj h⟩

/-- The element at `i`, or the fault `e` past the end. -/
def index (e : ε) (xs : List α) (i : Nat) : Except ε α :=
  match xs[i]? with
  | some x => .ok x
  | none => .error e

theorem index_ok_iff {e : ε} {xs : List α} {i : Nat} {x : α} :
    index e xs i = .ok x ↔ xs[i]? = some x := by
  unfold index
  split <;> simp_all

/-- The value behind a pointer that may be null. -/
def deref (e : ε) : Option α → Except ε α
  | some a => .ok a
  | none => .error e

@[simp] theorem deref_some (e : ε) (a : α) : deref e (some a) = .ok a := rfl

theorem deref_ok_iff {e : ε} {x : Option α} {a : α} : deref e x = .ok a ↔ x = some a := by
  cases x <;> simp [deref]

/-! ## Total correctness -/

/-- The computation does not stop, and its result satisfies `R`. -/
def Returns (x : Except ε α) (R : α → Prop) : Prop := ∃ a, x = .ok a ∧ R a

theorem Returns.ok {R : α → Prop} {a : α} (h : R a) : Returns (.ok a : Except ε α) R := ⟨a, rfl, h⟩

theorem Returns.pure {R : α → Prop} {a : α} (h : R a) : Returns (pure a : Except ε α) R := ⟨a, rfl, h⟩

theorem Returns.ite {c : Prop} [Decidable c] {x y : Except ε α} {R : α → Prop} (ht : c → Returns x R)
    (hf : ¬ c → Returns y R) : Returns (if c then x else y) R := by
  split
  · next hc => exact ht hc
  · next hc => exact hf hc

theorem Returns.bind {x : Except ε α} {f : α → Except ε β} {Q : α → Prop} {R : β → Prop} (hx : Returns x Q)
    (hf : ∀ a, x = .ok a → Q a → Returns (f a) R) : Returns (x >>= f) R := by
  obtain ⟨a, he, hq⟩ := hx
  obtain ⟨b, hb, hr⟩ := hf a he hq
  exact ⟨b, bind_ok_iff.mpr ⟨a, he, hb⟩, hr⟩

/-- A first computation whose result is known. -/
theorem Returns.step {x : Except ε α} {f : α → Except ε β} {R : β → Prop} {a : α} (hx : x = .ok a)
    (hf : Returns (f a) R) : Returns (x >>= f) R := by
  rw [hx]
  exact hf

theorem Returns.of_ok {x : Except ε α} {R : α → Prop} {a : α} (h : Returns x R) (hx : x = .ok a) : R a := by
  obtain ⟨b, he, hr⟩ := h
  cases he.symm.trans hx
  exact hr

/-- A loop whose body never stops produces the pointwise image. -/
theorem mapM_ok {f : α → Except ε β} {g : α → β} {l : List α} (hf : ∀ a ∈ l, f a = .ok (g a)) :
    l.mapM f = .ok (l.map g) := by
  induction l with
  | nil => rfl
  | cons a l ih =>
    rw [List.mapM_cons, hf a (by simp), ih fun b hb => hf b (by simp [hb])]
    rfl

end Checked
