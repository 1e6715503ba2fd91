/-
Programs over a state that may stop: `StateT` over `Except`.

A program is evaluated step by step with `bind_of` and `bind_ok_iff`. What a
program does to the state, whatever it returns, is a relation between the
states before and after (`Moves`): a preorder that the basic steps respect is
respected by everything put together from them. A loop whose body always
finishes, and keeps an invariant, finishes (`mapM_of`). A loop with fuel that
can take a step from each of its first positions gets that far (`steps_of`).
-/
import UdcFirmware.Lib.Checked

namespace Stateful

universe u v

variable {ε : Type u} {S α β : Type v}

abbrev Prog (ε : Type u) (S α : Type v) := StateT S (Except ε) α

theorem get_bind (f : S → Prog ε S β) (s : S) : ((get : Prog ε S S) >>= f) s = f s s := rfl

theorem modify_bind (g : S → S) (f : PUnit → Prog ε S β) (s : S) :
    ((modify g : Prog ε S PUnit) >>= f) s = f ⟨⟩ (g s) := rfl

theorem lift_bind (x : Except ε α) (f : α → Prog ε S β) (s : S) :
    ((liftM x : Prog ε S α) >>= f) s = x >>= fun a => f a s := by
  cases x <;> rfl

/-- A first program whose result is known. -/
theorem bind_of {x : Prog ε S α} {f : α → Prog ε S β} {s s' : S} {a : α} (h : x s = .ok (a, s')) :
    (x >>= f) s = f a s' := by
  show (x s >>= fun r => f r.1 r.2) = f a s'
  rw [h]
  rfl

theorem bind_ok_iff {x : Prog ε S α} {f : α → Prog ε S β} {s : S} {r : β × S} :
    (x >>= f) s = .ok r ↔ ∃ a s', x s = .ok (a, s') ∧ f a s' = .ok r := by
  constructor
  · intro h
    obtain ⟨⟨a, s'⟩, hx, hf⟩ := Checked.bind_ok_iff.mp h
    exact ⟨a, s', hx, hf⟩
  · rintro ⟨a, s', hx, hf⟩
    rw [bind_of hx, hf]

/-! ## What a program does to the state -/

/-- Wherever the program ends, its end is related to its start. -/
def Moves (R : S → S → Prop) (x : Prog ε S α) : Prop := ∀ s a s', x s = .ok (a, s') → R s s'

section Moves

variable {R : S → S → Prop} (hrefl : ∀ s, R s s) (htrans : ∀ s₁ s₂ s₃, R s₁ s₂ → R s₂ s₃ → R s₁ s₃)

include hrefl in
theorem Moves.pure (a : α) : Moves R (pure a : Prog ε S α) := by
  intro s b s' h
  cases h
  exact hrefl s

include hrefl in
theorem Moves.get : Moves R (get : Prog ε S S) := by
  intro s b s' h
  cases h
  exact hrefl s

include hrefl in
theorem Moves.lift (x : Except ε α) : Moves R (liftM x : Prog ε S α) := by
  intro s b s' h
  cases x with
  | error e => cases h
  | ok a =>
    cases h
    exact hrefl s

theorem Moves.modify {g : S → S} (h : ∀ s, R s (g s)) : Moves R (modify g : Prog ε S PUnit) := by
  intro s b s' he
  cases he
  exact h s

include htrans in
theorem Moves.bind {x : Prog ε S α} {f : α → Prog ε S β} (hx : Moves R x) (hf : ∀ a, Moves R (f a)) :
    Moves R (x >>= f) := by
  intro s b s' h
  obtain ⟨a, s₁, h₁, h₂⟩ := bind_ok_iff.mp h
  exact htrans s s₁ s' (hx s a s₁ h₁) (hf a s₁ b s' h₂)

theorem Moves.ite {c : Prop} [Decidable c] {x y : Prog ε S α} (hx : Moves R x) (hy : Moves R y) :
    Moves R (if c then x else y) := by
  split
  · exact hx
  · exact hy

include hrefl htrans in
theorem Moves.mapM {f : β → Prog ε S α} (hf : ∀ b, Moves R (f b)) (l : List β) : Moves R (l.mapM f) := by
  induction l with
  | nil => exact .pure hrefl []
  | cons b l ih =>
    rw [List.mapM_cons]
    exact .bind htrans (hf b) fun a => .bind htrans ih fun as => .pure hrefl _

end Moves

/-- A loop whose body finishes and keeps `I` finishes, with the pointwise image. -/
theorem mapM_of {I : S → Prop} {f : β → Prog ε S α} {g : β → α} {l : List β}
    (hf : ∀ b ∈ l, ∀ s, I s → ∃ s', f b s = .ok (g b, s') ∧ I s') {s : S} (hs : I s) :
    ∃ s', l.mapM f s = .ok (l.map g, s') ∧ I s' := by
  induction l generalizing s with
  | nil => exact ⟨s, rfl, hs⟩
  | cons b l ih =>
    obtain ⟨s₁, h₁, hs₁⟩ := hf b (by simp) s hs
    obtain ⟨s₂, h₂, hs₂⟩ := ih (fun b' hb' => hf b' (by simp [hb'])) hs₁
    refine ⟨s₂, ?_, hs₂⟩
    rw [List.mapM_cons, bind_of h₁, bind_of h₂]
    rfl

/-- A loop that spends fuel to get from position `j` to position `j + 1`, as long
as `j` is below `k`. -/
theorem steps_of {I : Nat → S → Prop} {loop : Nat → Nat → Prog ε S α} {k : Nat}
    (hstep : ∀ j < k, ∀ s, I j s → ∃ s', I (j + 1) s' ∧ ∀ fuel, loop (fuel + 1) j s = loop fuel (j + 1) s')
    {s : S} (h : I 0 s) {m : Nat} (hm : m ≤ k) :
    ∃ s', I m s' ∧ ∀ fuel, loop (fuel + m) 0 s = loop fuel m s' := by
  induction m with
  | zero => exact ⟨s, h, fun _ => rfl⟩
  | succ m ih =>
    obtain ⟨s₁, h₁, hrun₁⟩ := ih (Nat.le_of_succ_le hm)
    obtain ⟨s₂, h₂, hrun₂⟩ := hstep m hm s₁ h₁
    refine ⟨s₂, h₂, ?_⟩
    intro fuel
    rw [← hrun₂ fuel, ← hrun₁ (fuel + 1), Nat.add_assoc, Nat.add_comm 1 m]

end Stateful
