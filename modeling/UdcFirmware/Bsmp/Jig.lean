/-
The server of the test jig, as `bsmp_lib.c` sets it up: fourteen functions,
no variables and no curves.

Every function puts the result of its test routine in the one byte of its
output, and returns it. The routines are the jig's own (`Routines`). Such a
server is closed under requests (`FunctionsOnly`), and its answers are short.
-/
import UdcFirmware.Bsmp.Answers

namespace UdcFirmware.Bsmp

open ByteMem Checked

variable {σ : Type}

/-! ## `BSMPInit` -/

/-- The test routines, by what they do to the world. -/
structure Routines (σ : Type) where
  testIoExp : UInt8 → World σ → UInt8 × World σ
  testLedTurnOn : World σ → World σ
  testBuzzerTurnOn : World σ → World σ
  testEepromWriteSerialNumber : List UInt8 → World σ → UInt8 × World σ
  testFlashMem : UInt8 → World σ → UInt8 × World σ
  testRamMem : UInt8 → World σ → UInt8 × World σ
  testRtcMod : UInt8 → World σ → UInt8 × World σ
  testTempSense : UInt8 → World σ → UInt8 × World σ
  testIsoPowerSup : UInt8 → World σ → UInt8 × World σ
  testAdcpRange : UInt8 → UInt8 → World σ → UInt8 × World σ
  testRs485Loop : UInt8 → World σ → UInt8 × World σ
  testLoopBackSignal : UInt8 → UInt8 → World σ → UInt8 × World σ
  testI2cBkpSignal : UInt8 → UInt8 → World σ → UInt8 × World σ

/-- A function of the jig: `*output = ..; return *output`. -/
def jigFunc (inputSize : UInt8) (test : List UInt8 → World σ → UInt8 × World σ) : Func σ where
  info := ⟨0, inputSize, 1⟩
  funcP := some fun input w => ((test input w).1, [(test input w).1], (test input w).2)

/-- The functions of `bsmp_lib.c`, in the order of their registration. -/
def jigFuncs (r : Routines σ) : List (Func σ) :=
  [jigFunc 1 fun input => r.testIoExp (input.getD 0 0),
    jigFunc 1 fun _ w => (0, r.testLedTurnOn w),
    jigFunc 1 fun _ w => (0, r.testBuzzerTurnOn w),
    jigFunc 11 fun input => r.testEepromWriteSerialNumber input,
    jigFunc 1 fun input => r.testFlashMem (input.getD 0 0),
    jigFunc 1 fun input => r.testRamMem (input.getD 0 0),
    jigFunc 1 fun input => r.testRtcMod (input.getD 0 0),
    jigFunc 1 fun input => r.testTempSense (input.getD 0 0),
    jigFunc 1 fun input => r.testIsoPowerSup (input.getD 0 0),
    jigFunc 2 fun input => r.testAdcpRange (input.getD 0 0) (input.getD 1 0),
    jigFunc 1 fun input => r.testRs485Loop (input.getD 0 0),
    jigFunc 2 fun input => r.testLoopBackSignal (input.getD 0 0) (input.getD 1 0),
    jigFunc 1 fun input w => (input.getD 0 0, w),
    jigFunc 2 fun input => r.testI2cBkpSignal (input.getD 0 0) (input.getD 1 0)]

/-- `BSMPInit`. -/
def bsmpInit (r : Routines σ) (world : World σ) : System σ :=
  (List.range (jigFuncs r).length).foldl (fun s p => (bsmpRegisterFunction s (some p)).2)
    (bsmpServerInit (.ofLists [] [] (jigFuncs r)) world)

/-- Routines that do nothing and report 0. -/
def idleRoutines : Routines σ where
  testIoExp _ w := (0, w)
  testLedTurnOn w := w
  testBuzzerTurnOn w := w
  testEepromWriteSerialNumber _ w := (0, w)
  testFlashMem _ w := (0, w)
  testRamMem _ w := (0, w)
  testRtcMod _ w := (0, w)
  testTempSense _ w := (0, w)
  testIsoPowerSup _ w := (0, w)
  testAdcpRange _ _ w := (0, w)
  testRs485Loop _ w := (0, w)
  testLoopBackSignal _ _ w := (0, w)
  testI2cBkpSignal _ _ w := (0, w)

/-! ## Servers with functions only -/

variable {md5 : Md5} {area : Nat → UInt8} {s s' : System σ} {m a : Message}

structure FunctionsOnly (s : System σ) : Prop where
  repInv : RepInv s
  vars : s.server.vars = []
  curves : s.server.curves = []

theorem FunctionsOnly.register (h : FunctionsOnly s) (func : Option Ptr) :
    FunctionsOnly (bsmpRegisterFunction s func).2 :=
  ⟨registerFunction_repInv h.repInv func, h.vars, h.curves⟩

theorem bsmpInit_functionsOnly (r : Routines σ) (world : World σ) : FunctionsOnly (bsmpInit r world) := by
  unfold bsmpInit
  refine List.foldlRecOn _ _ ⟨repInv_init _ world, rfl, rfl⟩ fun s h p _ => h.register (some p)

theorem FunctionsOnly.group_vars (h : FunctionsOnly s) {i : Nat} {g : Group}
    (hi : i < s.server.groups.count) (hg : s.server.groups.at i = .ok g) : g.vars = [] := by
  have hmem := (h.repInv.of_groupAt hi hg).members
  rw [h.vars] at hmem
  exact List.sublist_nil.mp hmem

/-- An answer of such a server: whole, and no longer than the longest list. -/
structure Message.Short (a : Message) : Prop where
  whole : a.Whole
  length : a.payload.length ≤ maxListSize

theorem short_answer (c : CommandCode) : (answer c).Short := ⟨rfl, Nat.zero_le _⟩

theorem short_reply {c : CommandCode} {size : UInt16} {bytes : List UInt8} (hsize : size.toNat = bytes.length)
    (hlen : bytes.length ≤ maxListSize) : (reply c size bytes).Short := ⟨hsize.symm, hlen⟩

theorem Outcome.short (h : FunctionsOnly s) (ho : Outcome md5 area s m s' a) : a.Short := by
  have hvar : ∀ {i : Nat} {p : Ptr}, s.server.vars[i]? ≠ some p := fun he => by simp [h.vars] at he
  have hcurve : ∀ {i : Nat} {p : Ptr}, s.server.curves[i]? ≠ some p := fun he => by simp [h.curves] at he
  cases ho with
  | rejected => exact short_answer _
  | queried bytes hcmd hc hlen =>
    refine short_reply (UInt16.toNat_ofNat_of_lt (Nat.lt_of_le_of_lt hlen (by decide))) hlen
  | varRead hcmd hpay hp => exact absurd hp hvar
  | varWrite => exact short_answer _
  | varWriteRead hcmd hpay hpw => exact absurd hpw hvar
  | varBinOp => exact short_answer _
  | groupRead hcmd hpay hid hg hhook =>
    have hok := h.repInv.of_groupAt hid hg
    refine short_reply (hok.valuesOf_length _).symm ?_
    rw [h.group_vars hid hg]
    exact Nat.zero_le _
  | groupWrite => split <;> exact short_answer _
  | groupBinOp => exact short_answer _
  | groupAbandoned => exact short_answer _
  | groupCreated => exact short_answer _
  | groupsRemoved => exact short_answer _
  | blockBusy => exact short_answer _
  | blockRead hcmd hpay hp => exact absurd hp hcurve
  | blockWriteBusy => exact short_answer _
  | blockWritten => exact short_answer _
  | customCsum hcmd hpay hp => exact absurd hp hcurve
  | csumBusy => exact short_answer _
  | csumComputed hcmd hpay hp => exact absurd hp hcurve
  | executed hcmd hpay hp hlen hfunc hcall =>
    have hout := (funcCheck_success (h.repInv.funcs.checked _ (List.mem_of_getElem? hp))).2.2
    simp only [bsmpFuncMaxOutput] at hout
    split
    · exact short_reply rfl (by simp)
    · refine short_reply (by simp) ?_
      rw [outputArea_length]
      simp only [maxListSize, bsmpMaxCurves, bsmpCurveListInfo]
      omega

/-- **Requests to the jig's server.** Each is answered, the answer is a header
and at most 640 bytes more, and the server still has functions only. -/
theorem FunctionsOnly.process (h : FunctionsOnly s) (md5 : Md5) (req : Request) (area : Nat → UInt8) :
    ∃ s' response, bsmpProcessPacket md5 s req area = .ok (s', response) ∧ FunctionsOnly s' ∧
      response.len.toNat = response.data.length ∧ bsmpHeaderSize ≤ response.data.length ∧
      response.data.length ≤ bsmpHeaderSize + maxListSize := by
  obtain ⟨s', a, hproc, ho, hinv⟩ := bsmpProcessPacket_outcome md5 h.repInv req area
  have hclear := clearModified_same s
  have honly : FunctionsOnly s.clearModified := ⟨h.repInv.same hclear, h.vars, h.curves⟩
  have hsame := ho.sameApplication
  have hshort := ho.short honly
  have hlen := hshort.length
  have hwhole := hshort.whole
  simp only [maxListSize, bsmpMaxCurves, bsmpCurveListInfo, Message.Whole] at hlen hwhole
  refine ⟨s', a.toPacket, hproc, ⟨hinv, hsame.vars.trans h.vars, hsame.curves.trans h.curves⟩, ?_, ?_, ?_⟩
  · simp only [Message.toPacket, UInt16.toNat_add, UInt16.toNat_ofNat', bsmpHeaderSize, beBytes,
      List.cons_append, List.nil_append, List.length_cons]
    omega
  · simp only [Message.toPacket, bsmpHeaderSize, beBytes, List.cons_append, List.nil_append,
      List.length_cons]
    omega
  · simp only [Message.toPacket, bsmpHeaderSize, beBytes, List.cons_append, List.nil_append,
      List.length_cons, maxListSize, bsmpMaxCurves, bsmpCurveListInfo]
    omega

end UdcFirmware.Bsmp
