/-
Runs of a step function that always finishes: `next s e` is the state after
the event `e`.

A property holds `Always` in a run when it holds in each of its states, and a
condition is met `Along` it when each event meets it in the state it finds. An
invariant that the events meeting a condition keep holds in the runs that meet
it all along (`always_of_along`); where an event keeps what holds exactly when
it meets the condition, so does a run (`always_iff_along`). Two properties that
an event can only lose together hold always together (`always_iff_always`).
-/
namespace Traces

universe u v

variable {S : Type u} {E : Type v} {next : S → E → S}

/-- `I` holds in every state of the run. -/
def Always (next : S → E → S) (I : S → Prop) : S → List E → Prop
  | s, [] => I s
  | s, e :: es => I s ∧ Always next I (next s e) es

/-- Every event of the run meets `cond` in the state it finds. -/
def Along (next : S → E → S) (cond : S → E → Prop) : S → List E → Prop
  | _, [] => True
  | s, e :: es => cond s e ∧ Along next cond (next s e) es

variable {I J : S → Prop} {cond : S → E → Prop} {s : S} {es : List E}

theorem Always.head (h : Always next I s es) : I s := by
  cases es with
  | nil => exact h
  | cons e es => exact h.1

theorem Always.imp (h : Always next I s es) (hij : ∀ s, I s → J s) : Always next J s es := by
  induction es generalizing s with
  | nil => exact hij s h
  | cons e es ih => exact ⟨hij s h.1, ih h.2⟩

/-- What holds always holds at the end. -/
theorem Always.foldl (h : Always next I s es) : I (es.foldl next s) := by
  induction es generalizing s with
  | nil => exact h
  | cons e es ih => exact ih h.2

/-- An invariant kept by the events that meet `cond`. -/
theorem always_of_along (hstep : ∀ s e, I s → cond s e → I (next s e)) (hi : I s)
    (h : Along next cond s es) : Always next I s es := by
  induction es generalizing s with
  | nil => exact hi
  | cons e es ih => exact ⟨hi, ih (hstep s e hi h.1) h.2⟩

/-- A condition on the events alone, on top. -/
theorem Along.and_mem {P : E → Prop} (h : Along next cond s es) (hp : ∀ e ∈ es, P e) :
    Along next (fun s e => cond s e ∧ P e) s es := by
  induction es generalizing s with
  | nil => trivial
  | cons e es ih =>
    have hes : ∀ e' ∈ es, P e' := fun e' he' => hp e' (List.mem_cons_of_mem e he')
    exact ⟨⟨h.1, hp e List.mem_cons_self⟩, ih h.2 hes⟩

/-- An event in a state with `I` keeps it exactly when it meets `cond`. So `I`
holds always exactly when all events meet `cond`. `J` is an invariant of every
event. -/
theorem always_iff_along (hstep : ∀ s e, J s → I s → J (next s e) ∧ (I (next s e) ↔ cond s e))
    (hj : J s) (hi : I s) : Always next I s es ↔ Along next cond s es := by
  induction es generalizing s with
  | nil => exact ⟨fun _ => trivial, fun _ => hi⟩
  | cons e es ih =>
    obtain ⟨hj', hiff⟩ := hstep s e hj hi
    constructor
    · intro h
      have hi' : I (next s e) := h.2.head
      exact ⟨hiff.mp hi', (ih hj' hi').mp h.2⟩
    · intro h
      exact ⟨hi, (ih hj' (hiff.mpr h.1)).mpr h.2⟩

/-- From a state with `I`, an event that meets `P` leads to one with `I` exactly
when it leads to one with `K`. So `I` holds always exactly when `K` does. -/
theorem always_iff_always {K : S → Prop} {P : E → Prop}
    (hstep : ∀ s e, P e → J s → I s → J (next s e) ∧ (I (next s e) ↔ K (next s e))) (hes : ∀ e ∈ es, P e)
    (hj : J s) (hi : I s) (hk : K s) : Always next I s es ↔ Always next K s es := by
  induction es generalizing s with
  | nil => exact ⟨fun _ => hk, fun _ => hi⟩
  | cons e es ih =>
    obtain ⟨hj', hiff⟩ := hstep s e (hes e List.mem_cons_self) hj hi
    have hes' : ∀ e' ∈ es, P e' := fun e' he' => hes e' (List.mem_cons_of_mem e he')
    constructor
    · intro h
      have hi' : I (next s e) := h.2.head
      exact ⟨hk, (ih hes' hj' hi' (hiff.mp hi')).mp h.2⟩
    · intro h
      have hk' : K (next s e) := h.2.head
      exact ⟨hi, (ih hes' hj' (hiff.mpr hk') hk').mpr h.2⟩

end Traces
