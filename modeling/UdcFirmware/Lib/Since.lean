/-
`Since p q l`: somewhere in the history `l`, oldest first, is a `p`, and no
`q` comes after it. A latch that `p` sets and `q` clears is set exactly then
(`since_concat`).
-/
import Mathlib.Data.List.Basic

namespace Histories

variable {α : Type*} {p q : α → Prop}

def Since (p q : α → Prop) (l : List α) : Prop := ∃ l₁ a l₂, l = l₁ ++ a :: l₂ ∧ p a ∧ ∀ b ∈ l₂, ¬ q b

/-- Where an entry can stand in a history that has just grown by one. -/
theorem concat_eq_append_cons {l l₁ l₂ : List α} {a b : α} (h : l ++ [a] = l₁ ++ b :: l₂) :
    (∃ l₂', l = l₁ ++ b :: l₂' ∧ l₂ = l₂' ++ [a]) ∨ l₁ = l ∧ b = a ∧ l₂ = [] := by
  rcases List.eq_nil_or_concat l₂ with rfl | ⟨l₂, c, rfl⟩
  · obtain ⟨hl, he⟩ := List.append_inj' h rfl
    cases he
    exact .inr ⟨hl.symm, rfl, rfl⟩
  · rw [List.concat_eq_append] at h ⊢
    rw [← List.cons_append, ← List.append_assoc] at h
    obtain ⟨hl, he⟩ := List.append_inj' h rfl
    cases he
    exact .inl ⟨l₂, hl, rfl⟩

theorem not_since_nil : ¬ Since p q ([] : List α) := by
  rintro ⟨l₁, a, l₂, h, -, -⟩
  simp at h

/-- One more entry: it is a `p`, or it is not a `q` and there was one already. -/
theorem since_concat (l : List α) (a : α) : Since p q (l ++ [a]) ↔ p a ∨ Since p q l ∧ ¬ q a := by
  constructor
  · rintro ⟨l₁, b, l₂, h, hb, hl₂⟩
    rcases concat_eq_append_cons h with ⟨l₂', rfl, rfl⟩ | ⟨-, rfl, -⟩
    · exact .inr ⟨⟨l₁, b, l₂', rfl, hb, fun d hd => hl₂ d (by simp [hd])⟩, hl₂ a (by simp)⟩
    · exact .inl hb
  · rintro (ha | ⟨⟨l₁, b, l₂, rfl, hb, hl₂⟩, hq⟩)
    · exact ⟨l, a, [], rfl, ha, by simp⟩
    · refine ⟨l₁, b, l₂ ++ [a], by simp, hb, fun d hd => ?_⟩
      rcases List.mem_append.mp hd with hd | hd
      · exact hl₂ d hd
      · rw [List.mem_singleton.mp hd]
        exact hq

/-- At most one more entry. -/
theorem since_toList (l : List α) (o : Option α) :
    Since p q (l ++ o.toList) ↔ (∃ a ∈ o, p a) ∨ Since p q l ∧ ∀ a ∈ o, ¬ q a := by
  cases o with
  | none => simp
  | some a => simp [since_concat]

end Histories
