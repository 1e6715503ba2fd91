/-
The gains of the controller, on their way from the M3 to the C28: `KpWrite` and
`KiWrite` of `ctrl_law.c`.

A write sends both gains in `IPC_MtoC_Msg.DPModule`: the one it is given, and
for the other what the C28 reports in `DP_Framework`. Before the C28 has reacted
to an earlier write that report is old, and so is what a value is compared with
to see if it is new. `KpWrite` also fills in `KiRead`, the reported gain times
`FreqSample`, where `KiWrite` puts the gain as it was given. `Fits` is what must
hold at a write so that neither gain is lost (`gains_kept`).

`Cores` has what the two functions use, over any numbers: the floats of the
panel (`Panel.kpWrite_cores`, `Panel.kiWrite_cores`), or exact ones.
-/
import UdcFirmware.Drivers.IhmCommands

namespace UdcFirmware.Drivers

open Traces

universe u

/-- The comparison and the product that the code makes of its numbers. -/
structure Numbers (K : Type u) where
  ne : K → K → Bool
  mul : K → K → K

namespace Numbers

/-- Numbers that are equal where they are the same, and products that are not rounded. -/
def exact (K : Type u) [Mul K] [DecidableEq K] : Numbers K := ⟨fun a b => a ≠ b, (· * ·)⟩

def floats : Numbers FloatChars := ⟨fun a b => a.value != b.value, fun a b => .ofValue (a.value * b.value)⟩

end Numbers

/-- `IPC_MtoC_Msg.DPModule`, `DPMODULES_CONFIG` of the flags for the C28, and
`DP_Framework.DPlibrary.ELP_PI_dawu[0]`, which the C28 writes. -/
structure Cores (K : Type u) where
  id : UInt16
  dpclass : DpClass
  coeffs : Fin 16 → K
  pending : Bool
  kp : K
  ki : K
  freqSample : K
  umax : K
  umin : K

namespace Cores

variable {K : Type u} (num : Numbers K) (c : Cores K)

def kiRead : K := num.mul c.ki c.freqSample

/-- The module with new gains, and its flag. -/
def configPi (coeff0 coeff1 : K) : Cores K :=
  { c with
    id := 0
    dpclass := .elpPiDawu
    coeffs := fun i => [coeff0, coeff1, c.freqSample, c.umax, c.umin].getD i (c.coeffs i)
    pending := true }

/-- `SaveKp1Gain` is not in `Cores`. -/
def kpWrite (kpvar : K) : Cores K :=
  if num.ne kpvar c.kp then c.configPi kpvar (num.mul c.ki c.freqSample) else c

def kiWrite (kivar : K) : Cores K :=
  if num.ne kivar c.ki then c.configPi c.kp kivar else c

/-- What the C28 does about a flag. -/
def c28 : Cores K :=
  if c.pending then { c with kp := c.coeffs 0, ki := c.coeffs 1, pending := false } else c

end Cores

/-! ## The panel's writes -/

namespace Panel

variable (s : Panel) (r : Readings) (v : FloatChars)

/-- The flags given to `SendIpcFlag` are pending. -/
def cores : Cores FloatChars :=
  { id := s.dpModule.id
    dpclass := s.dpModule.dpclass
    coeffs := s.dpModule.coeffs
    pending := dpmodulesConfig ∈ s.sent
    kp := r.kp
    ki := r.ki
    freqSample := r.freqSample
    umax := r.umax
    umin := r.umin }

theorem kpWrite_cores : (s.kpWrite r v).cores r = (s.cores r).kpWrite .floats v := by
  unfold kpWrite Cores.kpWrite
  by_cases h : v.value != r.kp.value
  · simp [h, cores, Numbers.floats, Cores.configPi, Panel.configPi, sendIpcFlag]
  · simp [h, cores, Numbers.floats]

theorem kiWrite_cores : (s.kiWrite r v).cores r = (s.cores r).kiWrite .floats v := by
  unfold kiWrite Cores.kiWrite
  by_cases h : v.value != r.ki.value
  · simp [h, cores, Numbers.floats, Cores.configPi, Panel.configPi, sendIpcFlag]
  · simp [h, cores, Numbers.floats]

end Panel

/-! ## Gains that are kept -/

inductive GainEvent (K : Type u)
  | kpWrite (kpvar : K)
  | kiWrite (kivar : K)
  | c28

/-- The cores, and what the last writes were given. -/
structure GainRun (K : Type u) where
  cores : Cores K
  lastKp : Option K
  lastKi : Option K

namespace GainRun

variable {K : Type u} [Mul K] [DecidableEq K]

/-- Before the first write. -/
def start (cores : Cores K) : GainRun K := ⟨cores, none, none⟩

def step (t : GainRun K) : GainEvent K → GainRun K
  | .kpWrite kpvar => { t with cores := t.cores.kpWrite (.exact K) kpvar, lastKp := some kpvar }
  | .kiWrite kivar => { t with cores := t.cores.kiWrite (.exact K) kivar, lastKi := some kivar }
  | .c28 => { t with cores := t.cores.c28 }

/-- The C28 has the gains that were written last. -/
def Kept (t : GainRun K) : Prop :=
  (∀ kp ∈ t.lastKp, t.cores.kp = kp) ∧ ∀ ki ∈ t.lastKi, t.cores.ki = ki

/-- A write that sends fills in what was last written to the other gain. A write
that does not send, while a flag is pending, finds its value in the message. -/
def Fits (t : GainRun K) : GainEvent K → Prop
  | .kpWrite kpvar =>
    if kpvar ≠ t.cores.kp then ∀ ki ∈ t.lastKi, t.cores.kiRead (.exact K) = ki
    else t.cores.pending → t.cores.coeffs 0 = kpvar
  | .kiWrite kivar =>
    if kivar ≠ t.cores.ki then ∀ kp ∈ t.lastKp, t.cores.kp = kp
    else t.cores.pending → t.cores.coeffs 1 = kivar
  | .c28 => True

end GainRun

namespace Cores

variable {K : Type u} (c : Cores K)

@[simp] theorem c28_pending : c.c28.pending = false := by
  unfold c28
  split
  · rfl
  · simpa using ‹¬ c.pending›

@[simp] theorem c28_kp : c.c28.kp = if c.pending then c.coeffs 0 else c.kp := by
  unfold c28
  split <;> rfl

@[simp] theorem c28_ki : c.c28.ki = if c.pending then c.coeffs 1 else c.ki := by
  unfold c28
  split <;> rfl

theorem c28_of_settled (h : c.pending = false) : c.c28 = c := by
  simp [c28, h]

@[simp] theorem configPi_pending (coeff0 coeff1 : K) : (c.configPi coeff0 coeff1).pending = true := rfl

@[simp] theorem configPi_coeff0 (coeff0 coeff1 : K) : (c.configPi coeff0 coeff1).coeffs 0 = coeff0 := rfl

@[simp] theorem configPi_coeff1 (coeff0 coeff1 : K) : (c.configPi coeff0 coeff1).coeffs 1 = coeff1 := rfl

variable [Mul K] [DecidableEq K] {v : K}

theorem kpWrite_sent (h : v ≠ c.kp) : c.kpWrite (.exact K) v = c.configPi v (c.kiRead (.exact K)) := by
  simp [kpWrite, Numbers.exact, kiRead, h]

theorem kpWrite_same (h : v = c.kp) : c.kpWrite (.exact K) v = c := by
  simp [kpWrite, Numbers.exact, h]

theorem kiWrite_sent (h : v ≠ c.ki) : c.kiWrite (.exact K) v = c.configPi c.kp v := by
  simp [kiWrite, Numbers.exact, h]

theorem kiWrite_same (h : v = c.ki) : c.kiWrite (.exact K) v = c := by
  simp [kiWrite, Numbers.exact, h]

end Cores

namespace GainRun

variable {K : Type u} [Mul K] [DecidableEq K] {t : GainRun K}

/-- The last written gains are on the C28, or in a message to it. -/
def Coming (t : GainRun K) : Prop := (t.step .c28).Kept

theorem Coming.kept (h : t.Coming) (hp : t.cores.pending = false) : t.Kept := by
  unfold Coming step Kept at h
  rwa [t.cores.c28_of_settled hp] at h

theorem coming_kpWrite_iff (h : t.Coming) (v : K) :
    (t.step (.kpWrite v)).Coming ↔ t.Fits (.kpWrite v) := by
  obtain ⟨-, hki⟩ := h
  by_cases hv : v = t.cores.kp
  · have hsame : (t.step (.kpWrite v)).cores = t.cores := t.cores.kpWrite_same hv
    -- the integral gain is the one that was coming
    have hiff : (t.step (.kpWrite v)).Coming ↔ t.cores.c28.kp = v := by
      unfold Coming step Kept
      simp only [step] at hsame hki
      simp only [hsame, Option.mem_some_iff, forall_eq']
      exact and_iff_left hki
    rw [hiff, Cores.c28_kp, hv]
    simp [Fits]
  · have hsent : (t.step (.kpWrite v)).cores = t.cores.configPi v (t.cores.kiRead (.exact K)) :=
      t.cores.kpWrite_sent hv
    unfold Coming step Kept Fits
    simp only [step] at hsent
    simp [hsent, hv]

theorem coming_kiWrite_iff (h : t.Coming) (w : K) :
    (t.step (.kiWrite w)).Coming ↔ t.Fits (.kiWrite w) := by
  obtain ⟨hkp, -⟩ := h
  by_cases hw : w = t.cores.ki
  · have hsame : (t.step (.kiWrite w)).cores = t.cores := t.cores.kiWrite_same hw
    have hiff : (t.step (.kiWrite w)).Coming ↔ t.cores.c28.ki = w := by
      unfold Coming step Kept
      simp only [step] at hsame hkp
      simp only [hsame, Option.mem_some_iff, forall_eq']
      exact and_iff_right hkp
    rw [hiff, Cores.c28_ki, hw]
    simp [Fits]
  · have hsent : (t.step (.kiWrite w)).cores = t.cores.configPi t.cores.kp w := t.cores.kiWrite_sent hw
    unfold Coming step Kept Fits
    simp only [step] at hsent
    simp [hsent, hw]

theorem coming_step_iff (h : t.Coming) (e : GainEvent K) : (t.step e).Coming ↔ t.Fits e := by
  cases e with
  | kpWrite v => exact coming_kpWrite_iff h v
  | kiWrite w => exact coming_kiWrite_iff h w
  | c28 =>
    have hagain : (t.step .c28).step .c28 = t.step .c28 := by
      unfold step
      rw [t.cores.c28.c28_of_settled t.cores.c28_pending]
    unfold Coming
    rw [hagain]
    exact iff_of_true h trivial

/-- With a sample frequency that does not scale, a write that waits for the C28
fits. -/
theorem fits_of_settled (h : t.Kept) (hp : t.cores.pending = false)
    (hscale : t.cores.kiRead (.exact K) = t.cores.ki) (e : GainEvent K) : t.Fits e := by
  obtain ⟨hkp, hki⟩ := h
  cases e with
  | kpWrite v =>
    simp only [Fits, hp, hscale]
    split
    · exact hki
    · simp
  | kiWrite w =>
    simp only [Fits, hp]
    split
    · exact hkp
    · simp
  | c28 => trivial

/-- Gains reach the C28 in a run exactly when each of its writes fits. -/
theorem always_coming_iff (h : t.Coming) (es : List (GainEvent K)) :
    Always step Coming t es ↔ Along step Fits t es :=
  always_iff_along (J := fun _ => True) (fun _ e _ ht => ⟨trivial, coming_step_iff ht e⟩) trivial h

theorem coming_start (c : Cores K) : (start c).Coming := by
  simp [Coming, Kept, step, start]

/-- From any state of the two cores: where each write fits, the C28 has the
gains last written whenever no flag is pending. Else there is a moment from
which it gets others when it reacts. -/
theorem gains_kept (c : Cores K) (es : List (GainEvent K)) :
    (Along step Fits (start c) es → Always step (fun t => t.cores.pending = false → t.Kept) (start c) es) ∧
      (Along step Fits (start c) es ↔ Always step (fun t => (t.step .c28).Kept) (start c) es) := by
  have hiff := always_coming_iff (coming_start c) es
  refine ⟨fun h => ?_, hiff.symm⟩
  have hcoming : Always step Coming (start c) es := hiff.mpr h
  exact hcoming.imp fun t ht hp => ht.kept hp

/-- Each gain is written when the other one has reached the C28. -/
theorem gains_kept_each :
    ∃ c : Cores Rat, let es : List (GainEvent Rat) := [.kpWrite 1, .c28, .kiWrite 2, .c28]
      Always step (fun t => t.cores.pending = false → t.Kept) (start c) es ∧
        (es.foldl step (start c)).cores.kp = 1 ∧ (es.foldl step (start c)).cores.ki = 2 := by
  let c : Cores Rat := ⟨0, .elpError, fun _ => 0, false, 0, 0, 10, 1, 0⟩
  refine ⟨c, (gains_kept c _).1 ⟨?_, trivial, ?_, trivial, trivial⟩, by decide +kernel⟩
  · exact fits_of_settled ⟨nofun, nofun⟩ rfl (by decide +kernel) _
  · refine fits_of_settled ⟨fun kp hkp => ?_, nofun⟩ ?_ (by decide +kernel) _
    · cases hkp
      decide +kernel
    · decide +kernel

/-- Two writes before the C28 reacts: the second has the old proportional gain
in its message. And an integral gain that has arrived is multiplied by
`FreqSample` when the proportional gain is written. -/
theorem gain_lost :
    ∃ c : Cores Rat,
      (let t := [.kpWrite 1, .kiWrite 2, .c28].foldl step (start c)
       t.cores.pending = false ∧ t.lastKp = some 1 ∧ t.cores.kp = 0) ∧
      (let t := [.kiWrite 2, .c28, .kpWrite 1, .c28].foldl step (start c)
       t.cores.pending = false ∧ t.lastKi = some 2 ∧ t.cores.ki = 20) :=
  ⟨⟨0, .elpError, fun _ => 0, false, 0, 0, 10, 1, 0⟩, by decide +kernel⟩

end GainRun

end UdcFirmware.Drivers
