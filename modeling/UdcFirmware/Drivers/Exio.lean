/-
The second IO expander, `exio.c`: `LedStsCtrl`, `LedItlkCtrl` and `SoundSelCtrl`.

The functions for the indicators change a bit of `StsExpIO2` and a mode, and put
`StsExpIO2` out. They are taken statement by statement, as lists. A list that is not
for an indicator leaves its bit and its mode as they are after every statement, one
that is turns them at its last (`Exio.ctrl_steady`).

The boards are of hardware version 0x21.
-/
import Mathlib.Logic.Function.Basic

namespace UdcFirmware.Drivers

/-! ## `exio.c` -/

inductive Indicator
  | ledSts
  | ledItlk
  | sound
  deriving DecidableEq

/-- Its pin of the second expander. -/
def Indicator.pin : Indicator → Nat
  | ledItlk => 3
  | ledSts => 4
  | sound => 5

/-- The bit of an indicator in an output register. -/
def Indicator.bit (i : Indicator) (reg : UInt8) : Bool := reg.toBitVec.getLsbD i.pin

inductive ExioStmt
  /-- `StsExpIO2 |= mask;` -/
  | orSts (mask : UInt8)
  /-- `StsExpIO2 &= mask;` -/
  | andSts (mask : UInt8)
  /-- `StsExpIO2 = value;` -/
  | setSts (value : UInt8)
  /-- `LedStsMode`, `LedItlkMode` or `SoundMode`. -/
  | mode (i : Indicator) (on : Bool)
  /-- `data_exio[0] = reg;` -/
  | dataReg (reg : UInt8)
  /-- `data_exio[1] = value;` -/
  | dataVal (value : UInt8)
  /-- `data_exio[1] = StsExpIO2;` -/
  | dataSts
  /-- `WriteI2C(I2C_SLV_ADDR_EXIO2, 0x02, data_exio);` -/
  | writeI2C

/-- `regs` are the registers of the second expander, as last written. -/
structure Exio where
  stsExpIO2 : UInt8
  mode : Indicator → Bool
  dataExio : UInt8 × UInt8
  regs : UInt8 → UInt8

namespace Exio

variable (s : Exio)

def exec : ExioStmt → Exio
  | .orSts mask => { s with stsExpIO2 := s.stsExpIO2 ||| mask }
  | .andSts mask => { s with stsExpIO2 := s.stsExpIO2 &&& mask }
  | .setSts value => { s with stsExpIO2 := value }
  | .mode i on => { s with mode := Function.update s.mode i on }
  | .dataReg reg => { s with dataExio := (reg, s.dataExio.2) }
  | .dataVal value => { s with dataExio := (s.dataExio.1, value) }
  | .dataSts => { s with dataExio := (s.dataExio.1, s.stsExpIO2) }
  | .writeI2C => { s with regs := Function.update s.regs s.dataExio.1 s.dataExio.2 }

def run (stmts : List ExioStmt) : Exio := stmts.foldl exec s

/-- The output register as last written. -/
def output : UInt8 := s.regs 0x01

end Exio

/-- The new state of the pins goes to the expander. -/
def outputStmts : List ExioStmt := [.dataReg 0x01, .dataSts, .writeI2C]

/-- The three functions for the indicators are alike. -/
def ctrl (i : Indicator) (set clear : UInt8) (sts : Bool) : List ExioStmt :=
  (if sts then [.orSts set, .mode i true] else [.andSts clear, .mode i false]) ++ outputStmts

def ledItlkCtrl (sts : Bool) := ctrl .ledItlk 0b00001000 0b11110111 sts
def ledStsCtrl (sts : Bool) := ctrl .ledSts 0b00010000 0b11101111 sts
def soundSelCtrl (sts : Bool) := ctrl .sound 0b00100000 0b11011111 sts

/-- The second expander in `ExIOInit`. -/
def exIOInit : List ExioStmt :=
  [.dataReg 0x03, .dataVal 0xC1, .writeI2C, .setSts 0x02, .dataReg 0x01, .dataSts, .writeI2C]

def buffersCtrl (sts : Bool) : List ExioStmt :=
  (if sts then .orSts 0b00000100 else .andSts 0b11111011) :: outputStmts

def dcdcPwrCtrl (sts : Bool) : List ExioStmt :=
  (if sts then .andSts 0b11111101 else .orSts 0b00000010) :: outputStmts

/-- After `SystemConfig` and `SystemInit`. -/
def Exio.boot : Exio :=
  Exio.run ⟨0, fun _ => false, (0, 0), fun _ => 0⟩ (exIOInit ++ buffersCtrl true ++ dcdcPwrCtrl true)

/-- Statements with the indicator that their call is for. -/
def callFor (i : Indicator) (stmts : List ExioStmt) : List (Indicator × ExioStmt) := stmts.map (i, ·)

/-! ## Statements -/

namespace Exio

variable (s : Exio) (i : Indicator)

/-- Bit and mode of an indicator. -/
def Shows (on : Bool) : Prop := i.bit s.output = on ∧ s.mode i = on

/-- The next call for another indicator puts the same bit out again. -/
def Holds (on : Bool) : Prop := i.bit s.stsExpIO2 = on ∧ s.Shows i on

/-- So it is after each of these statements, once those for the indicator are made. -/
def Steady (stmts : List (Indicator × ExioStmt)) (on : Bool) : Prop :=
  ∀ l₁ l₂, stmts = l₁ ++ l₂ → (∀ x ∈ l₂, x.1 ≠ i) → (s.run (l₁.map Prod.snd)).Holds i on

end Exio

theorem callFor_snd (i : Indicator) (stmts : List ExioStmt) : (callFor i stmts).map Prod.snd = stmts := by
  rw [callFor, List.map_map]
  exact List.map_id stmts

namespace Exio

variable {s : Exio} {i j : Indicator} {on v w : Bool} {stmts stmts' : List (Indicator × ExioStmt)}

theorem run_append (s : Exio) (l l' : List ExioStmt) : s.run (l ++ l') = (s.run l).run l' :=
  List.foldl_append ..

theorem steady_nil (h : s.Holds i v) : s.Steady i [] v := by
  intro l₁ l₂ hl _
  obtain ⟨rfl, rfl⟩ := List.append_eq_nil_iff.mp hl.symm
  exact h

theorem steady_cons {x : Indicator × ExioStmt} (hx : (∃ y ∈ x :: stmts, y.1 = i) ∨ s.Holds i v)
    (h : (s.exec x.2).Steady i stmts v) : s.Steady i (x :: stmts) v := by
  intro l₁ l₂ hl hl₂
  cases l₁ with
  | nil =>
    refine hx.resolve_left ?_
    rintro ⟨y, hy, hi⟩
    rw [hl] at hy
    exact hl₂ y hy hi
  | cons y l₁ =>
    obtain ⟨rfl, htail⟩ := List.cons.inj hl
    exact h l₁ l₂ htail hl₂

theorem Steady.tail {x : Indicator × ExioStmt} (h : s.Steady i (x :: stmts) v) :
    (s.exec x.2).Steady i stmts v :=
  fun l₁ l₂ hl hl₂ => h (x :: l₁) l₂ (congrArg (x :: ·) hl) hl₂

/-- At the end it holds anyway. -/
theorem Steady.finish (h : s.Steady i stmts v) : (s.run (stmts.map Prod.snd)).Holds i v :=
  h stmts [] (List.append_nil _).symm (by simp)

/-- And now, if the call is not for the indicator. -/
theorem Steady.now (h : s.Steady i stmts v) (hi : ∀ x ∈ stmts, x.1 ≠ i) : s.Holds i v :=
  h [] stmts rfl hi

theorem Holds.unique (h : s.Holds i v) (h' : s.Holds i w) : v = w := h.2.2.symm.trans h'.2.2

theorem Steady.append (h : s.Steady i stmts v) (h' : (s.run (stmts.map Prod.snd)).Steady i stmts' w) :
    s.Steady i (stmts ++ stmts') w := by
  intro l₁ l₂ hl hl₂
  rcases List.append_eq_append_iff.mp hl with ⟨l, rfl, rfl⟩ | ⟨l, rfl, rfl⟩
  · rw [List.map_append, run_append]
    exact h' l l₂ rfl hl₂
  · have hw : v = w := h.finish.unique (h'.now fun x hx => hl₂ x (List.mem_append_right _ hx))
    rw [← hw]
    exact h l₁ l rfl fun x hx => hl₂ x (List.mem_append_left _ hx)

/-! ## Calls -/

theorem bit_or (i : Indicator) (x y : UInt8) : i.bit (x ||| y) = (i.bit x || i.bit y) := by
  simp [Indicator.bit]

theorem bit_and (i : Indicator) (x y : UInt8) : i.bit (x &&& y) = (i.bit x && i.bit y) := by
  simp [Indicator.bit]

/-- One mask sets the bit of the indicator, the other clears it; both leave those of the others. -/
structure Masks (i : Indicator) (set clear : UInt8) : Prop where
  set : ∀ j : Indicator, j.bit set = decide (j = i)
  clear : ∀ j : Indicator, j.bit clear = decide (j ≠ i)

theorem masks_ledItlk : Masks .ledItlk 0b00001000 0b11110111 :=
  ⟨fun j => by cases j <;> rfl, fun j => by cases j <;> rfl⟩

theorem masks_ledSts : Masks .ledSts 0b00010000 0b11101111 :=
  ⟨fun j => by cases j <;> rfl, fun j => by cases j <;> rfl⟩

theorem masks_sound : Masks .sound 0b00100000 0b11011111 :=
  ⟨fun j => by cases j <;> rfl, fun j => by cases j <;> rfl⟩

variable {set clear : UInt8}

theorem ctrl_mode (s : Exio) (i : Indicator) (set clear : UInt8) (on : Bool) :
    (s.run (ctrl i set clear on)).mode = Function.update s.mode i on := by
  cases on <;> rfl

/-- A call turns its indicator on or off. -/
theorem ctrl_own (h : Masks i set clear) (s : Exio) (on : Bool) :
    s.Steady i (callFor i (ctrl i set clear on)) on := by
  have hcall : ∀ l₁ l₂, callFor i (ctrl i set clear on) = l₁ ++ l₂ → (∀ x ∈ l₂, x.1 ≠ i) → l₂ = [] := by
    intro l₁ l₂ hl hl₂
    rw [List.eq_nil_iff_forall_not_mem]
    intro x hx
    have hmem : x ∈ callFor i (ctrl i set clear on) := hl ▸ List.mem_append_right l₁ hx
    obtain ⟨stmt, -, rfl⟩ := List.mem_map.mp hmem
    exact hl₂ _ hx rfl
  intro l₁ l₂ hl hl₂
  obtain rfl := hcall l₁ l₂ hl hl₂
  rw [List.append_nil] at hl
  subst hl
  cases on with
  | false =>
    have hbit : i.bit (s.stsExpIO2 &&& clear) = false := by simp [bit_and, h.clear]
    exact ⟨hbit, hbit, Function.update_self ..⟩
  | true =>
    have hbit : i.bit (s.stsExpIO2 ||| set) = true := by simp [bit_or, h.set]
    exact ⟨hbit, hbit, Function.update_self ..⟩

/-- What the next call puts out is put out. -/
theorem Holds.output (h : s.Holds j v) : s.Steady j (callFor i outputStmts) v :=
  steady_cons (.inr h) <| steady_cons (.inr h) <| steady_cons (.inr h) <| steady_nil ⟨h.1, h.1, h.2.2⟩

/-- A call leaves the others. -/
theorem ctrl_other (h : Masks i set clear) (hj : j ≠ i) (hs : s.Holds j v) (on : Bool) :
    s.Steady j (callFor i (ctrl i set clear on)) v := by
  have hmode : Function.update s.mode i on j = v := (Function.update_of_ne hj ..).trans hs.2.2
  cases on with
  | false =>
    have hbit : j.bit (s.stsExpIO2 &&& clear) = v := by simp [bit_and, h.clear, hj, hs.1]
    exact steady_cons (.inr hs) <| steady_cons (.inr ⟨hbit, hs.2⟩) <| Holds.output ⟨hbit, hs.2.1, hmode⟩
  | true =>
    have hbit : j.bit (s.stsExpIO2 ||| set) = v := by simp [bit_or, h.set, hj, hs.1]
    exact steady_cons (.inr hs) <| steady_cons (.inr ⟨hbit, hs.2⟩) <| Holds.output ⟨hbit, hs.2.1, hmode⟩

/-- A whole call, for all indicators. -/
theorem ctrl_steady (h : Masks i set clear) (hs : ∀ j, s.Holds j (s.mode j)) (on : Bool) (j : Indicator) :
    s.Steady j (callFor i (ctrl i set clear on)) (Function.update s.mode i on j) := by
  by_cases hj : j = i
  · subst hj
    rw [Function.update_self]
    exact ctrl_own h s on
  · rw [Function.update_of_ne hj]
    exact ctrl_other h hj (hs j) on

end Exio

end UdcFirmware.Drivers
