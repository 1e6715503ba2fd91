/-
Runs of a step function that may stop: `run step s evs` feeds the events in
order and stops at the first fault.

An invariant that every finished step keeps holds at the end of every
finished run (`run_invariant`); an invariant under which no step stops makes
every run finish (`run_total`), and one kept by the steps that meet a
condition holds in the runs that meet it all along (`run_along`). Where a
step keeps what holds exactly when it meets a condition, so does a run
(`throughout_iff_along`). Events of one kind make runs of their own
(`run_map`).
-/
import UdcFirmware.Lib.Checked

namespace Runs

open Checked

universe u v w

variable {ε : Type u} {S : Type v} {E : Type w} {step : S → E → Except ε S}

/-- The state after a list of events. -/
def run (step : S → E → Except ε S) (s : S) : List E → Except ε S
  | [] => .ok s
  | e :: es => step s e >>= fun s' => run step s' es

theorem run_cons (s : S) (e : E) (es : List E) :
    run step s (e :: es) = step s e >>= fun s' => run step s' es := rfl

theorem run_singleton (s : S) (e : E) : run step s [e] = step s e := by
  rw [run_cons]
  cases step s e with
  | error f => rfl
  | ok s' => rfl

theorem run_append (s : S) (es fs : List E) :
    run step s (es ++ fs) = run step s es >>= fun s' => run step s' fs := by
  induction es generalizing s with
  | nil => rfl
  | cons e es ih =>
    rw [List.cons_append, run_cons, run_cons]
    cases step s e with
    | error f => rfl
    | ok s' => exact ih s'

theorem run_map {F : Type w} (f : F → E) (s : S) (es : List F) :
    run step s (es.map f) = run (fun s e => step s (f e)) s es := by
  induction es generalizing s with
  | nil => rfl
  | cons e es ih =>
    rw [List.map_cons, run_cons, run_cons]
    exact congrArg _ (funext ih)

/-- Every finished step keeps `I`, so every finished run does. -/
theorem run_invariant {I : S → Prop} (hstep : ∀ s e s', I s → step s e = .ok s' → I s')
    {es : List E} {s s' : S} (hs : I s) (h : run step s es = .ok s') : I s' := by
  induction es generalizing s with
  | nil =>
    cases h
    exact hs
  | cons e es ih =>
    obtain ⟨s₁, h₁, h₂⟩ := bind_ok_iff.mp h
    exact ih (hstep s e s₁ hs h₁) h₂

/-- From `I` no step stops, and it keeps `I`: then no run stops. -/
theorem run_total {I : S → Prop} (hstep : ∀ s e, I s → ∃ s', step s e = .ok s' ∧ I s')
    (es : List E) {s : S} (hs : I s) : ∃ s', run step s es = .ok s' ∧ I s' := by
  induction es generalizing s with
  | nil => exact ⟨s, rfl, hs⟩
  | cons e es ih =>
    obtain ⟨s₁, h₁, hs₁⟩ := hstep s e hs
    obtain ⟨s₂, h₂, hs₂⟩ := ih hs₁
    refine ⟨s₂, ?_, hs₂⟩
    rw [run_cons, h₁]
    exact h₂

/-- Every event of the run meets `cond` in the state it finds. -/
def Along (step : S → E → Except ε S) (cond : S → E → Prop) : S → List E → Prop
  | _, [] => True
  | s, e :: es => cond s e ∧ ∀ s', step s e = .ok s' → Along step cond s' es

instance Along.decidable {cond : S → E → Prop} [∀ s e, Decidable (cond s e)] :
    ∀ (s : S) (es : List E), Decidable (Along step cond s es)
  | _, [] => .isTrue trivial
  | s, e :: es =>
    match h : step s e with
    | .ok s₁ =>
      have : Decidable (Along step cond s₁ es) := Along.decidable s₁ es
      decidable_of_iff (cond s e ∧ Along step cond s₁ es)
        ⟨fun ⟨hc, hrest⟩ => ⟨hc, fun _ hs => Except.ok.inj (h.symm.trans hs) ▸ hrest⟩,
          fun ⟨hc, hrest⟩ => ⟨hc, hrest s₁ h⟩⟩
    | .error _ =>
      decidable_of_iff (cond s e) ⟨fun hc => ⟨hc, fun _ hs => nomatch h.symm.trans hs⟩, fun ha => ha.1⟩

theorem Along.and_mem {cond : S → E → Prop} {P : E → Prop} {s : S} {es : List E} (h : Along step cond s es)
    (hp : ∀ e ∈ es, P e) : Along step (fun s e => cond s e ∧ P e) s es := by
  induction es generalizing s with
  | nil => trivial
  | cons e es ih =>
    exact ⟨⟨h.1, hp e (by simp)⟩, fun s' hs => ih (h.2 s' hs) fun e he => hp e (by simp [he])⟩

theorem along_append {cond : S → E → Prop} {s : S} {es fs : List E} (h : Along step cond s es)
    (h' : ∀ s', run step s es = .ok s' → Along step cond s' fs) : Along step cond s (es ++ fs) := by
  induction es generalizing s with
  | nil => exact h' s rfl
  | cons e es ih =>
    refine ⟨h.1, fun s₁ hs₁ => ih (h.2 s₁ hs₁) fun s' hs' => h' s' ?_⟩
    rw [run_cons, hs₁]
    exact hs'

theorem along_map {F : Type w} {f : F → E} {cond : S → E → Prop} {s : S} {es : List F}
    (h : Along step cond s (es.map f)) :
    Along (fun s e => step s (f e)) (fun s e => cond s (f e)) s es := by
  induction es generalizing s with
  | nil => trivial
  | cons e es ih => exact ⟨h.1, fun s' hs => ih (h.2 s' hs)⟩

/-- An invariant kept by the steps that meet `cond`. -/
theorem run_along {I : S → Prop} {cond : S → E → Prop}
    (hstep : ∀ s e, I s → cond s e → ∃ s', step s e = .ok s' ∧ I s')
    (es : List E) {s : S} (hs : I s) (ha : Along step cond s es) : ∃ s', run step s es = .ok s' ∧ I s' := by
  induction es generalizing s with
  | nil => exact ⟨s, rfl, hs⟩
  | cons e es ih =>
    obtain ⟨s₁, h₁, hs₁⟩ := hstep s e hs ha.1
    obtain ⟨s₂, h₂, hs₂⟩ := ih hs₁ (ha.2 s₁ h₁)
    refine ⟨s₂, ?_, hs₂⟩
    rw [run_cons, h₁]
    exact h₂

/-- An invariant kept by the finished steps that meet `cond`. -/
theorem run_invariant_along {I : S → Prop} {cond : S → E → Prop}
    (hstep : ∀ s e s', I s → cond s e → step s e = .ok s' → I s') {es : List E} {s s' : S} (hs : I s)
    (ha : Along step cond s es) (h : run step s es = .ok s') : I s' := by
  induction es generalizing s with
  | nil =>
    cases h
    exact hs
  | cons e es ih =>
    obtain ⟨s₁, h₁, h₂⟩ := bind_ok_iff.mp h
    exact ih (hstep s e s₁ hs ha.1 h₁) (ha.2 s₁ h₁) h₂

/-- `I` holds in every state of the run. -/
def Throughout (step : S → E → Except ε S) (I : S → Prop) : S → List E → Prop
  | s, [] => I s
  | s, e :: es => I s ∧ ∀ s', step s e = .ok s' → Throughout step I s' es

theorem Throughout.imp {I J : S → Prop} (h : ∀ s, I s → J s) {s : S} {es : List E}
    (hi : Throughout step I s es) : Throughout step J s es := by
  induction es generalizing s with
  | nil => exact h s hi
  | cons e es ih => exact ⟨h s hi.1, fun s' hs => ih (hi.2 s' hs)⟩

theorem Throughout.final {I : S → Prop} {s s' : S} {es : List E} (h : Throughout step I s es)
    (hrun : run step s es = .ok s') : I s' := by
  induction es generalizing s with
  | nil =>
    cases hrun
    exact h
  | cons e es ih =>
    obtain ⟨s₁, h₁, h₂⟩ := bind_ok_iff.mp hrun
    exact ih (h.2 s₁ h₁) h₂

/-- An invariant kept by the steps that meet `cond` holds throughout the runs that do. -/
theorem throughout_of_along {I : S → Prop} {cond : S → E → Prop}
    (hstep : ∀ s e, I s → cond s e → ∃ s', step s e = .ok s' ∧ I s')
    {es : List E} {s : S} (hs : I s) (ha : Along step cond s es) : Throughout step I s es := by
  induction es generalizing s with
  | nil => exact hs
  | cons e es ih =>
    obtain ⟨s₁, h₁, hs₁⟩ := hstep s e hs ha.1
    refine ⟨hs, fun s' hs' => ?_⟩
    cases hs'.symm.trans h₁
    exact ih hs₁ (ha.2 _ h₁)

/-- No step stops; one from a state with `I` keeps it exactly when it meets
`cond`. So `I` holds throughout a run exactly when all of its steps meet
`cond`. `J` is an invariant of every step. -/
theorem throughout_iff_along {I J : S → Prop} {cond : S → E → Prop}
    (hstep : ∀ s e, J s → I s → ∃ s', step s e = .ok s' ∧ J s' ∧ (I s' ↔ cond s e))
    (es : List E) {s : S} (hj : J s) (hi : I s) : Throughout step I s es ↔ Along step cond s es := by
  induction es generalizing s with
  | nil => exact ⟨fun _ => trivial, fun _ => hi⟩
  | cons e es ih =>
    obtain ⟨s₁, h₁, hj₁, hiff⟩ := hstep s e hj hi
    have heq : ∀ {s'}, step s e = .ok s' → s' = s₁ := fun h => Except.ok.inj (h.symm.trans h₁)
    constructor
    · rintro ⟨-, hrest⟩
      have htail := hrest s₁ h₁
      have hi₁ : I s₁ := by
        cases es with
        | nil => exact htail
        | cons e' es => exact htail.1
      refine ⟨hiff.mp hi₁, fun s' hs' => ?_⟩
      rw [heq hs']
      exact (ih hj₁ hi₁).mp htail
    · rintro ⟨hc, hrest⟩
      refine ⟨hi, fun s' hs' => ?_⟩
      rw [heq hs']
      exact (ih hj₁ (hiff.mpr hc)).mpr (hrest s₁ h₁)

end Runs
