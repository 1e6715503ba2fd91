/-
The requests of the jig, `bsmp_lib.c` over `jiga.c`, and what their answers report.

`Bench` is the jig with a record: which tests were started, and which were run by
`TaskCheck`, with what outcome. A request with function type 1 is to answer with
the last outcome of its test.

Two answers do not: that for the temperature sensor is the variable of the RAM test,
and a success of loopback channel 15 is left in that of channel 10. Every answer is
right all along exactly in the runs in which these come out the same
(`answers_iff_apart`).
-/
import UdcFirmware.Lib.Traces
import UdcFirmware.Bsmp.Jig
import UdcFirmware.Drivers.JigTests

namespace UdcFirmware.Drivers

open Bsmp Histories Traces

/-! ## `jiga.c` -/

namespace Jig

variable (s : Jig)

/-- `return TaskSetNew(..)`. -/
def setNew (task : ETask) : Option UInt8 × Jig :=
  let (flags, result) := taskSetNew s.flags task.num
  (some result, { s with flags })

/-- A test with one variable. Nothing is returned for other function types. -/
def testOf (functionType : UInt8) (task : ETask) (result : UInt8) : Option UInt8 × Jig :=
  if functionType = 0 then s.setNew task else if functionType = 1 then (some result, s) else (none, s)

def testIoExp (functionType : UInt8) := s.testOf functionType .exioTest s.exIoTestResult
def testFlashMem (functionType : UInt8) := s.testOf functionType .flashTest s.flashResult
def testRamMem (functionType : UInt8) := s.testOf functionType .ramTest s.ramResult
def testRtcMod (functionType : UInt8) := s.testOf functionType .rtcTest s.rtcAccessSts
def testTempSense (functionType : UInt8) := s.testOf functionType .tempSenseTest s.ramResult
def testIsoPowerSup (functionType : UInt8) := s.testOf functionType .isoPsTest s.isoPsLbResult
def testRs485Loop (functionType : UInt8) := s.testOf functionType .rs485Test s.rs485TestResult

def testLedTurnOn : Jig := ((s.setNew .ledStsTurnOn).2.setNew .ledItlkTurnOn).2

def testBuzzerTurnOn : Option UInt8 × Jig := s.setNew .soundItlkTurnOn

/-- With `SaveSerialNumber` of `eeprom.c`. -/
def testEepromWriteSerialNumber (functionType : UInt8) (serialNumber : SerialNumber) : Option UInt8 × Jig :=
  if functionType = 0 then (some 0, { s with serialNumberData := serialNumber, serialNumberNewData := true })
  else if functionType = 1 then (some s.eepromSts, s)
  else (none, s)

/-- The result of a channel that there is not is never assigned. -/
def testAdcpRange (functionType channelNumber : UInt8) : Option UInt8 × Jig :=
  if functionType = 0 then (some 0, (setNew { s with adcpTestChannel := channelNumber } .adcpTest).2)
  else if functionType = 1 then
    (if 1 ≤ channelNumber ∧ channelNumber ≤ 8 then some (s.adcpResult channelNumber) else none, s)
  else (none, s)

def testLoopBackSignal (functionType channelNumber : UInt8) : Option UInt8 × Jig :=
  if functionType = 0 then (some 0, (setNew { s with testChannel := channelNumber } .loopbackTest).2)
  else if functionType = 1 then
    (some (if 1 ≤ channelNumber ∧ channelNumber ≤ 32 then s.loopbackResult channelNumber else 0), s)
  else (some 0, s)

def testI2cBkpSignal (functionType val : UInt8) : Option UInt8 × Jig :=
  if functionType = 0 then (some 0, (setNew { s with writeVal := val } .bkpI2cTest).2)
  else if functionType = 1 then (some s.writeVal, s)
  else (some 0, s)

end Jig

/-! ## `bsmp_lib.c` -/

/-- The functions, with the bytes of their inputs that they read. -/
inductive Request
  | testIoExpander (functionType : UInt8)
  | testLed
  | testBuzzer
  | testEeprom (functionType : UInt8) (serialNumber : SerialNumber)
  | testFlash (functionType : UInt8)
  | testRam (functionType : UInt8)
  | testRtc (functionType : UInt8)
  | testTemperatureSensor (functionType : UInt8)
  | testIsoPowerSupply (functionType : UInt8)
  | testAdcChannels (functionType channelNumber : UInt8)
  | testRs485 (functionType : UInt8)
  | testLoopback (functionType channelNumber : UInt8)
  | testuartPing (input : UInt8)
  | testBkpI2C (functionType val : UInt8)

/-- `*output`, where something is returned, and what the request does. -/
def Jig.request (s : Jig) : Request → Option UInt8 × Jig
  | .testIoExpander functionType => s.testIoExp functionType
  | .testLed => (some 0, s.testLedTurnOn)
  | .testBuzzer => (some 0, s.testBuzzerTurnOn.2)
  | .testEeprom functionType serialNumber => s.testEepromWriteSerialNumber functionType serialNumber
  | .testFlash functionType => s.testFlashMem functionType
  | .testRam functionType => s.testRamMem functionType
  | .testRtc functionType => s.testRtcMod functionType
  | .testTemperatureSensor functionType => s.testTempSense functionType
  | .testIsoPowerSupply functionType => s.testIsoPowerSup functionType
  | .testAdcChannels functionType channelNumber => s.testAdcpRange functionType channelNumber
  | .testRs485 functionType => s.testRs485Loop functionType
  | .testLoopback functionType channelNumber => s.testLoopBackSignal functionType channelNumber
  | .testuartPing input => (some input, s)
  | .testBkpI2C functionType val => s.testI2cBkpSignal functionType val

/-- The function of an identifier, and its input. -/
def Request.ofCall (input : List UInt8) : Nat → Option Request
  | 0 => some (.testIoExpander (input.getD 0 0))
  | 1 => some .testLed
  | 2 => some .testBuzzer
  | 3 => some (.testEeprom (input.getD 0 0) (.ofFn fun i => input.getD (i + 1) 0))
  | 4 => some (.testFlash (input.getD 0 0))
  | 5 => some (.testRam (input.getD 0 0))
  | 6 => some (.testRtc (input.getD 0 0))
  | 7 => some (.testTemperatureSensor (input.getD 0 0))
  | 8 => some (.testIsoPowerSupply (input.getD 0 0))
  | 9 => some (.testAdcChannels (input.getD 0 0) (input.getD 1 0))
  | 10 => some (.testRs485 (input.getD 0 0))
  | 11 => some (.testLoopback (input.getD 0 0) (input.getD 1 0))
  | 12 => some (.testuartPing (input.getD 0 0))
  | 13 => some (.testBkpI2C (input.getD 0 0) (input.getD 1 0))
  | _ => none

/-- `undef` is what a function that returns nothing leaves for its caller. -/
def Jig.call (undef : UInt8) (test : Jig → Option UInt8 × Jig) (w : World Jig) : UInt8 × World Jig :=
  ((test w.app).1.getD undef, { w with app := (test w.app).2 })

/-- The routines that the server of the jig is made of. -/
def jigRoutines (undef : UInt8) : Routines Jig where
  testIoExp functionType := Jig.call undef (·.testIoExp functionType)
  testLedTurnOn w := { w with app := w.app.testLedTurnOn }
  testBuzzerTurnOn w := { w with app := w.app.testBuzzerTurnOn.2 }
  testEepromWriteSerialNumber input :=
    Jig.call undef (·.testEepromWriteSerialNumber (input.getD 0 0) (.ofFn fun i => input.getD (i + 1) 0))
  testFlashMem functionType := Jig.call undef (·.testFlashMem functionType)
  testRamMem functionType := Jig.call undef (·.testRamMem functionType)
  testRtcMod functionType := Jig.call undef (·.testRtcMod functionType)
  testTempSense functionType := Jig.call undef (·.testTempSense functionType)
  testIsoPowerSup functionType := Jig.call undef (·.testIsoPowerSup functionType)
  testAdcpRange functionType channelNumber := Jig.call undef (·.testAdcpRange functionType channelNumber)
  testRs485Loop functionType := Jig.call undef (·.testRs485Loop functionType)
  testLoopBackSignal functionType channelNumber :=
    Jig.call undef (·.testLoopBackSignal functionType channelNumber)
  testI2cBkpSignal functionType val := Jig.call undef (·.testI2cBkpSignal functionType val)

/-- The server's functions are the requests. -/
theorem jigFuncs_request (undef : UInt8) (input : List UInt8) {id : Nat} {r : Request}
    (h : Request.ofCall input id = some r) :
    ∃ func ∈ (jigFuncs (jigRoutines undef))[id]?, ∃ f, func.funcP = some f ∧
      ∀ w, (f input w).2.1 = [(w.app.request r).1.getD undef] ∧
        (f input w).2.2 = { w with app := (w.app.request r).2 } := by
  unfold Request.ofCall at h
  split at h <;> cases h <;> exact ⟨_, rfl, _, rfl, fun w => ⟨rfl, rfl⟩⟩

/-! ## Starts, runs and answers -/

/-- The test that a request starts, if any. -/
def Request.starts : Request → Option Test
  | .testIoExpander 0 => some .ioExp
  | .testFlash 0 => some .flash
  | .testRam 0 => some .ram
  | .testRtc 0 => some .rtc
  | .testTemperatureSensor 0 => some .tempSense
  | .testIsoPowerSupply 0 => some .isoPs
  | .testAdcChannels 0 channelNumber => some (.adcp channelNumber)
  | .testRs485 0 => some .rs485
  | .testLoopback 0 channelNumber => some (.loopback channelNumber)
  | _ => none

/-- The request for the result of a test. -/
def Test.query : Test → Request
  | ioExp => .testIoExpander 1
  | eeprom => .testEeprom 1 (.replicate _ 0)
  | flash => .testFlash 1
  | ram => .testRam 1
  | rtc => .testRtc 1
  | tempSense => .testTemperatureSensor 1
  | isoPs => .testIsoPowerSupply 1
  | rs485 => .testRs485 1
  | adcp channel => .testAdcChannels 1 channel
  | loopback channel => .testLoopback 1 channel

def Test.answer (s : Jig) (t : Test) : Option UInt8 := (s.request t.query).1

inductive JigMark
  | started (t : Test)
  | ran (t : Test) (outcome : UInt8)
  deriving DecidableEq

/-- The jig, and what went on, oldest first. -/
structure Bench where
  jig : Jig
  log : List JigMark

inductive JigEvent
  /-- A request has come in, over serial or Ethernet. -/
  | request (r : Request)
  /-- `TaskSetNew`, by whatever else there is. -/
  | taskSetNew (taskNum : UInt8)
  | taskCheck (hw : Hardware)

def Bench.setFlags (s : Bench) (flags : Flags) : Bench := { s with jig := { s.jig with flags } }

/-- A handler is called. -/
def Bench.call (s : Bench) (hw : Hardware) (h : Handler) : Bench :=
  { jig := s.jig.handle hw h
    log := s.log ++ ((s.jig.test h).map fun t => .ran t (t.outcome hw s.jig.serialNumberData)).toList }

def Bench.step (s : Bench) : JigEvent → Bench
  | .request r => { jig := (s.jig.request r).2, log := s.log ++ (r.starts.map .started).toList }
  | .taskSetNew taskNum => s.setFlags (Drivers.taskSetNew s.jig.flags taskNum).1
  | .taskCheck hw =>
    match Drivers.taskCheck s.jig.flags with
    | (flags, some h) => (s.setFlags flags).call hw h
    | (flags, none) => s.setFlags flags

/-- The last run of a test had this outcome. -/
def Bench.LastRan (s : Bench) (t : Test) (outcome : UInt8) : Prop :=
  Since (· = .ran t outcome) (fun m => ∃ outcome', m = .ran t outcome') s.log

/-- Every test that was run is reported as its last run came out. -/
def Bench.Reports (s : Bench) : Prop :=
  ∀ t outcome, t.Valid → s.LastRan t outcome → t.answer s.jig = some outcome

/-- What a run must come to, so that the answers stay right: the RAM test to what the
temperature sensor's did, that to what is in `ram_result`, and a success of loopback
channel 15 to what is in the variable of its own and to what channel 10 did. -/
def Bench.Apart (s : Bench) : JigEvent → Prop
  | .request _ => True
  | .taskSetNew _ => True
  | .taskCheck hw =>
    ∀ h t, (Drivers.taskCheck s.jig.flags).2 = some h → s.jig.test h = some t →
      (t = .ram → ∀ outcome, s.LastRan .tempSense outcome → t.outcome hw s.jig.serialNumberData = outcome) ∧
      (t = .tempSense → t.outcome hw s.jig.serialNumberData = s.jig.ramResult) ∧
      (t = .loopback 15 → t.Passes hw s.jig.serialNumberData →
        s.jig.loopbackResult 15 = 0 ∧ ∀ outcome, s.LastRan (.loopback 10) outcome → outcome = 0)

/-! ## The answers -/

/-- The answer is the variable of the test, for all but one. -/
theorem answer_eq (s : Jig) {t : Test} (hvalid : t.Valid) (htemp : t ≠ .tempSense) :
    t.answer s = some (t.result s) := by
  cases t with
  | adcp channel => exact if_pos hvalid
  | loopback channel => exact congrArg some (if_pos hvalid)
  | tempSense => exact absurd rfl htemp
  | _ => rfl

/-- `TestTempSense` returns `ram_result`. -/
theorem answer_tempSense (s : Jig) : Test.tempSense.answer s = some (Test.ram.result s) := rfl

/-- Answers go by the variables. -/
theorem answer_congr {s s' : Jig} {t : Test} (hvalid : t.Valid) (hresult : t.result s' = t.result s)
    (hram : t = .tempSense → Test.ram.result s' = Test.ram.result s) : t.answer s' = t.answer s := by
  by_cases htemp : t = .tempSense
  · rw [htemp, answer_tempSense, answer_tempSense, hram htemp]
  · rw [answer_eq s' hvalid htemp, answer_eq s hvalid htemp, hresult]

/-- What a request leaves as it was: the results, the flags that are set, and the channels, but
for a start on another. -/
structure Jig.Requested (r : Request) (s s' : Jig) : Prop where
  result : ∀ t : Test, t.result s' = t.result s
  flags : ∀ flag, s.flags flag = true → s'.flags flag = true
  adcp : (∀ channelNumber, r ≠ .testAdcChannels 0 channelNumber) → s'.adcpTestChannel = s.adcpTestChannel
  loopback : (∀ channelNumber, r ≠ .testLoopback 0 channelNumber) → s'.testChannel = s.testChannel

namespace Jig

variable {r : Request}

theorem Requested.refl (s : Jig) : Requested r s s := ⟨fun _ => rfl, fun _ => id, fun _ => rfl, fun _ => rfl⟩

theorem Requested.setNew {s : Jig} (s' : Jig) (h : Requested r s s') (task : ETask) :
    Requested r s (s'.setNew task).2 := by
  refine ⟨fun t => ?_, fun flag hflag => taskSetNew_keeps (h.flags flag hflag) task.num, h.adcp, h.loopback⟩
  rw [← h.result t]
  cases t <;> rfl

theorem requested_testOf (s : Jig) (functionType : UInt8) (task : ETask) (result : UInt8) :
    Requested r s (s.testOf functionType task result).2 := by
  unfold testOf
  split_ifs
  · exact .setNew s (.refl s) task
  · exact .refl s
  · exact .refl s

theorem requested (s : Jig) (r : Request) : Requested r s (s.request r).2 := by
  cases r with
  | testIoExpander | testFlash | testRam | testRtc | testTemperatureSensor | testIsoPowerSupply | testRs485 =>
    exact s.requested_testOf ..
  | testLed => exact .setNew _ (.setNew s (.refl s) .ledStsTurnOn) .ledItlkTurnOn
  | testBuzzer => exact .setNew s (.refl s) .soundItlkTurnOn
  | testuartPing => exact .refl s
  | testEeprom functionType serialNumber =>
    show Requested _ s (s.testEepromWriteSerialNumber functionType serialNumber).2
    unfold testEepromWriteSerialNumber
    split_ifs
    · exact ⟨fun t => by cases t <;> rfl, fun _ => id, fun _ => rfl, fun _ => rfl⟩
    · exact .refl s
    · exact .refl s
  | testAdcChannels functionType channelNumber =>
    show Requested _ s (s.testAdcpRange functionType channelNumber).2
    unfold testAdcpRange
    split_ifs with hstart
    · refine .setNew { s with adcpTestChannel := channelNumber } ?_ .adcpTest
      refine ⟨fun t => by cases t <;> rfl, fun _ => id, fun hother => ?_, fun _ => rfl⟩
      exact absurd (congrArg (Request.testAdcChannels · _) hstart) (hother channelNumber)
    all_goals exact .refl s
  | testLoopback functionType channelNumber =>
    show Requested _ s (s.testLoopBackSignal functionType channelNumber).2
    unfold testLoopBackSignal
    split_ifs with hstart
    · refine .setNew { s with testChannel := channelNumber } ?_ .loopbackTest
      refine ⟨fun t => by cases t <;> rfl, fun _ => id, fun _ => rfl, fun hother => ?_⟩
      exact absurd (congrArg (Request.testLoopback · _) hstart) (hother channelNumber)
    all_goals exact .refl s
  | testBkpI2C functionType val =>
    show Requested _ s (s.testI2cBkpSignal functionType val).2
    unfold testI2cBkpSignal
    split_ifs
    · refine .setNew { s with writeVal := val } ?_ .bkpI2cTest
      exact ⟨fun t => by cases t <;> rfl, fun _ => id, fun _ => rfl, fun _ => rfl⟩
    · exact .refl s
    · exact .refl s

end Jig

namespace Bench

variable {s : Bench} {flags : Flags} {hw : Hardware} {h : Handler} {t : Test}

/-- After one more run. -/
theorem lastRan_ran (log : List JigMark) (jig : Jig) (t t' : Test) (outcome outcome' : UInt8) :
    LastRan ⟨jig, log ++ [.ran t outcome]⟩ t' outcome' ↔
      t' = t ∧ outcome' = outcome ∨ LastRan ⟨jig, log⟩ t' outcome' ∧ t' ≠ t := by
  unfold LastRan
  rw [since_concat]
  simp only [JigMark.ran.injEq, exists_and_left, exists_eq, and_true, eq_comm (a := t),
    eq_comm (a := outcome), ne_eq]

/-- The run of one test. -/
theorem reports_ran {log : List JigMark} {jig jig' : Jig} {outcome : UInt8} (h : Reports ⟨jig, log⟩)
    (hother : ∀ t', t' ≠ t → t'.Valid → (t ≠ .ram ∨ t' ≠ .tempSense) →
      (t ≠ .loopback 15 ∨ t' ≠ .loopback 10) → t'.answer jig' = t'.answer jig) :
    Reports ⟨jig', log ++ [.ran t outcome]⟩ ↔
      (t.Valid → t.answer jig' = some outcome) ∧
        (t = .ram → ∀ o, LastRan ⟨jig, log⟩ .tempSense o → Test.tempSense.answer jig' = some o) ∧
        (t = .loopback 15 → ∀ o, LastRan ⟨jig, log⟩ (.loopback 10) o →
          (Test.loopback 10).answer jig' = some o) := by
  have hlast := lastRan_ran log jig' t
  constructor
  · intro hafter
    refine ⟨fun hvalid => hafter t outcome hvalid ((hlast ..).mpr (.inl ⟨rfl, rfl⟩)), ?_, ?_⟩
    · intro ht o ho
      subst ht
      exact hafter .tempSense o trivial ((hlast ..).mpr (.inr ⟨ho, nofun⟩))
    · intro ht o ho
      subst ht
      exact hafter (.loopback 10) o (by decide) ((hlast ..).mpr (.inr ⟨ho, by decide⟩))
  · intro hafter t' o hvalid ho
    obtain ⟨hown, hram, hfifteen⟩ := hafter
    rcases (hlast ..).mp ho with ⟨rfl, rfl⟩ | ⟨hbefore, hne⟩
    · exact hown hvalid
    by_cases htemp : t = .ram ∧ t' = .tempSense
    · obtain ⟨rfl, rfl⟩ := htemp
      exact hram rfl o hbefore
    by_cases hten : t = .loopback 15 ∧ t' = .loopback 10
    · obtain ⟨rfl, rfl⟩ := hten
      exact hfifteen rfl o hbefore
    rw [hother t' hne hvalid (by tauto) (by tauto)]
    exact h t' o hvalid hbefore

theorem handler_fifteen {jig : Jig} (htest : jig.test h = some (.loopback 15)) :
    h = .loopBackFunctionTest ∧ jig.testChannel = 15 := by
  unfold Jig.test at htest
  split at htest
  · split at htest <;> cases htest
  all_goals first | cases htest | skip
  exact ⟨rfl, Test.loopback.inj (Option.some.inj htest)⟩

/-- What shares no variable with a test keeps its own. -/
theorem handle_keeps {jig : Jig} (htest : jig.test h = some t) (hw : Hardware) (t' : Test) (hne : t' ≠ t)
    (hten : t ≠ .loopback 15 ∨ t' ≠ .loopback 10) : t'.result (jig.handle hw h) = t'.result jig := by
  refine Jig.handle_other ?_ ?_
  · intro htest'
    exact hne (Option.some.inj (htest'.symm.trans htest))
  · intro hfifteen
    exact hten.resolve_left fun hne => hne (Option.some.inj (htest.symm.trans hfifteen))

/-- What has to be right after a run: the answer of its test, and of what shares a variable. -/
theorem reports_after (hs : s.Reports) (htest : s.jig.test h = some t) (hw : Hardware) :
    (s.call hw h).Reports ↔
      (t.Valid → t.answer (s.jig.handle hw h) = some (t.outcome hw s.jig.serialNumberData)) ∧
        (t = .ram → ∀ o, s.LastRan .tempSense o → Test.tempSense.answer (s.jig.handle hw h) = some o) ∧
        (t = .loopback 15 → ∀ o, s.LastRan (.loopback 10) o →
          (Test.loopback 10).answer (s.jig.handle hw h) = some o) := by
  have hcall : s.call hw h = ⟨s.jig.handle hw h,
      s.log ++ [.ran t (t.outcome hw s.jig.serialNumberData)]⟩ := by
    unfold call
    rw [htest]
    rfl
  rw [hcall]
  refine reports_ran hs fun t' hne hvalid htemp hten => ?_
  refine answer_congr hvalid (handle_keeps htest hw t' hne hten) fun ht' => ?_
  exact handle_keeps htest hw .ram (fun he => htemp.resolve_right (not_not.mpr ht') he.symm) (.inr nofun)

/-- The RAM test, whose variable is reported for the temperature sensor as well. -/
theorem reports_call_ram (hs : s.Reports) (htest : s.jig.test h = some .ram) (hw : Hardware) :
    (s.call hw h).Reports ↔
      ∀ o, s.LastRan .tempSense o → Test.ram.outcome hw s.jig.serialNumberData = o := by
  have hown : Test.ram.answer (s.jig.handle hw h) = some (Test.ram.outcome hw s.jig.serialNumberData) :=
    congrArg some (Jig.handle_own htest trivial nofun)
  have hshared : Test.tempSense.answer (s.jig.handle hw h) =
      some (Test.ram.outcome hw s.jig.serialNumberData) := hown
  rw [reports_after hs htest hw, hshared]
  constructor
  · intro hafter o ho
    exact Option.some.inj (hafter.2.1 rfl o ho)
  · intro hsame
    exact ⟨fun _ => hown, fun _ o ho => congrArg some (hsame o ho), nofun⟩

/-- The temperature sensor, for which that variable stays. -/
theorem reports_call_tempSense (hs : s.Reports) (htest : s.jig.test h = some .tempSense) (hw : Hardware) :
    (s.call hw h).Reports ↔ Test.tempSense.outcome hw s.jig.serialNumberData = s.jig.ramResult := by
  have hshared : Test.tempSense.answer (s.jig.handle hw h) = some s.jig.ramResult :=
    congrArg some (handle_keeps htest hw .ram nofun (.inl nofun))
  rw [reports_after hs htest hw, hshared]
  constructor
  · intro hafter
    exact (Option.some.inj (hafter.1 trivial)).symm
  · intro hsame
    exact ⟨fun _ => congrArg some hsame.symm, nofun, nofun⟩

/-- Channel 15, whose success goes to channel 10. -/
theorem reports_call_fifteen (hs : s.Reports) (htest : s.jig.test h = some (.loopback 15)) (hw : Hardware) :
    (s.call hw h).Reports ↔ ((Test.loopback 15).Passes hw s.jig.serialNumberData →
      s.jig.loopbackResult 15 = 0 ∧ ∀ o, s.LastRan (.loopback 10) o → o = 0) := by
  have hpasses : (Test.loopback 15).Passes hw s.jig.serialNumberData ↔ hw.LoopsBack 15 := Iff.rfl
  rw [reports_after hs htest hw, hpasses]
  obtain ⟨rfl, hchannel⟩ := handler_fifteen htest
  have hrun : s.jig.handle hw .loopBackFunctionTest = _ := s.jig.loopBackFunctionTest_fifteen hw hchannel
  have houtcome : (Test.loopback 15).outcome hw s.jig.serialNumberData =
      if hw.LoopsBack 15 then 0 else 1 := rfl
  rw [hrun, houtcome]
  by_cases hpass : hw.LoopsBack 15
  · have hfifteen : (Test.loopback 15).answer (s.jig.setLoopback 10 0) = some (s.jig.loopbackResult 15) := rfl
    have hten : (Test.loopback 10).answer (s.jig.setLoopback 10 0) = some 0 := rfl
    rw [if_pos hpass, if_pos hpass, hfifteen, hten]
    constructor
    · intro hafter _
      refine ⟨Option.some.inj (hafter.1 (by decide)), fun o ho => ?_⟩
      exact (Option.some.inj (hafter.2.2 rfl o ho)).symm
    · intro hsame
      obtain ⟨hzero, hlast⟩ := hsame hpass
      exact ⟨fun _ => congrArg some hzero, nofun, fun _ o ho => congrArg some (hlast o ho).symm⟩
  · have hfifteen : (Test.loopback 15).answer (s.jig.setLoopback 15 1) = some 1 := rfl
    have hten : (Test.loopback 10).answer (s.jig.setLoopback 15 1) = (Test.loopback 10).answer s.jig := rfl
    rw [if_neg hpass, if_neg hpass, hfifteen, hten]
    refine iff_of_true ⟨fun _ => rfl, nofun, fun _ o ho => ?_⟩ fun hpass' => absurd hpass' hpass
    exact hs (.loopback 10) o (by decide) ho

/-- A test that shares no variable. -/
theorem reports_call_own (hs : s.Reports) (htest : s.jig.test h = some t) (hram : t ≠ .ram)
    (htemp : t ≠ .tempSense) (hfifteen : t ≠ .loopback 15) (hw : Hardware) : (s.call hw h).Reports := by
  refine (reports_after hs htest hw).mpr ⟨?_, fun he => absurd he hram, fun he => absurd he hfifteen⟩
  intro hvalid
  rw [answer_eq _ hvalid htemp, Jig.handle_own htest hvalid hfifteen]

/-- A run keeps the answers right exactly when it comes to the same as what it shares a
variable with. -/
theorem reports_call (hs : s.Reports) (htest : s.jig.test h = some t) (hw : Hardware) :
    (s.call hw h).Reports ↔
      (t = .ram → ∀ o, s.LastRan .tempSense o → t.outcome hw s.jig.serialNumberData = o) ∧
      (t = .tempSense → t.outcome hw s.jig.serialNumberData = s.jig.ramResult) ∧
      (t = .loopback 15 → t.Passes hw s.jig.serialNumberData →
        s.jig.loopbackResult 15 = 0 ∧ ∀ o, s.LastRan (.loopback 10) o → o = 0) := by
  by_cases hram : t = .ram
  · subst hram
    simpa using reports_call_ram hs htest hw
  by_cases htemp : t = .tempSense
  · subst htemp
    simpa using reports_call_tempSense hs htest hw
  by_cases hfifteen : t = .loopback 15
  · subst hfifteen
    simpa using reports_call_fifteen hs htest hw
  · refine iff_of_true (reports_call_own hs htest hram htemp hfifteen hw) ?_
    exact ⟨fun he => absurd he hram, fun he => absurd he htemp, fun he => absurd he hfifteen⟩

theorem reports_call_none (hs : s.Reports) (htest : s.jig.test h = none) (hw : Hardware) :
    (s.call hw h).Reports := by
  have hkeeps (t : Test) : t.result (s.jig.handle hw h) = t.result s.jig :=
    Jig.handle_other (by rw [htest]; nofun) (by rw [htest]; nofun)
  have hcall : s.call hw h = ⟨s.jig.handle hw h, s.log⟩ := by
    unfold call
    rw [htest]
    exact congrArg _ (List.append_nil _)
  rw [hcall]
  intro t o hvalid ho
  rw [answer_congr hvalid (hkeeps t) fun _ => hkeeps .ram]
  exact hs t o hvalid ho

theorem test_setFlags (s : Bench) (flags : Flags) (h : Handler) :
    (s.setFlags flags).jig.test h = s.jig.test h := by
  cases h <;> rfl

theorem reports_setFlags (s : Bench) (flags : Flags) : (s.setFlags flags).Reports ↔ s.Reports := by
  have hanswer (t : Test) : t.answer (s.setFlags flags).jig = t.answer s.jig := by cases t <;> rfl
  exact forall_congr' fun t => forall_congr' fun o => by rw [hanswer]; rfl

theorem reports_request (hs : s.Reports) (r : Request) : (s.step (.request r)).Reports := by
  intro t o hvalid ho
  have hrequested := s.jig.requested r
  have hbefore : s.LastRan t o := by
    refine (((since_toList s.log _).mp ho).resolve_left ?_).1
    rintro ⟨m, hm, rfl⟩
    obtain ⟨_, -, hm⟩ := Option.map_eq_some_iff.mp hm
    cases hm
  show t.answer (s.jig.request r).2 = some o
  rw [answer_congr hvalid (hrequested.result t) fun _ => hrequested.result .ram]
  exact hs t o hvalid hbefore

theorem reports_step (hs : s.Reports) (e : JigEvent) : (s.step e).Reports ↔ s.Apart e := by
  cases e with
  | request r => exact iff_of_true (reports_request hs r) trivial
  | taskSetNew taskNum => exact iff_of_true ((reports_setFlags s _).mpr hs) trivial
  | taskCheck hw =>
    unfold step Apart
    generalize Drivers.taskCheck s.jig.flags = checked
    obtain ⟨flags, handler⟩ := checked
    have hs' : (s.setFlags flags).Reports := (reports_setFlags s flags).mpr hs
    have htest' := s.test_setFlags flags
    cases handler with
    | none => exact iff_of_true hs' fun h t hh => nomatch hh
    | some h =>
      cases htest : s.jig.test h with
      | none =>
        refine iff_of_true (reports_call_none hs' ((htest' h).trans htest) hw) ?_
        intro h' t hh ht
        cases hh
        cases htest.symm.trans ht
      | some t =>
        refine (reports_call hs' ((htest' h).trans htest) hw).trans ⟨?_, fun hall => hall h t rfl htest⟩
        intro hcond h' t' hh ht
        cases hh
        cases htest.symm.trans ht
        exact hcond

/-- **Where an answer is that of its own test.** From every state of the jig on, whatever
requests come in and whatever the hardware reads in each `TaskCheck`: every answer is the
outcome of the last run of its test, all along, exactly when no run comes to something
else than what shares a variable with it. -/
theorem answers_iff_apart (jig : Jig) (evs : List JigEvent) :
    Always step Reports ⟨jig, []⟩ evs ↔ Along step Apart ⟨jig, []⟩ evs := by
  have hstart : Reports ⟨jig, []⟩ := fun t o _ ho => absurd ho not_since_nil
  exact always_iff_along (J := fun _ => True) (fun s e _ hs => ⟨trivial, reports_step hs e⟩) trivial hstart

end Bench

/-- At power-up. -/
def Jig.powerUp : Jig where
  flags _ := false
  exIo1Sts := false
  exIo2Sts := false
  eepromSts := 0
  flashResult := 0
  ramResult := 0
  rtcAccessSts := 0
  tempSensorResult := 0
  isoPsLbResult := 0
  adcpResult _ := 0
  adcpTestChannel := 0
  rs485TestResult := 0
  loopbackResult _ := 0
  testChannel := 0
  serialNumberData := .replicate _ 0
  serialNumberNewData := false
  writeVal := 0

/-- Everything reads 0, but for the temperature: 50 degrees. -/
def Hardware.hot : Hardware where
  level _ _ := false
  c28Values _ _ := 0
  sampl _ _ := 0
  exIo1 _ := 0
  exIo2 _ := 0
  rtc _ := 0
  flashSerialNumber := 0
  sdramBytes _ := 0
  sdramShorts _ := 0
  sdramLongs _ := 0
  temp := 400
  boardSerialNumber := .replicate _ 0

namespace Bench

/-- The temperature sensor fails, and is reported to have passed. -/
theorem hot_passes : ¬ Always step Reports ⟨.powerUp, []⟩
    [.request (.testTemperatureSensor 0), .taskCheck .hot] := by
  intro h
  have hlog : (step (step ⟨.powerUp, []⟩ (.request (.testTemperatureSensor 0))) (.taskCheck .hot)).log =
      [.started .tempSense] ++ [.ran .tempSense 1] := by decide +kernel
  have hanswer : Test.tempSense.answer
      (step (step ⟨.powerUp, []⟩ (.request (.testTemperatureSensor 0))) (.taskCheck .hot)).jig = some 0 := rfl
  have hran : LastRan (step (step ⟨.powerUp, []⟩ (.request (.testTemperatureSensor 0))) (.taskCheck .hot))
      .tempSense 1 := by
    unfold LastRan
    rw [hlog, since_concat]
    exact .inl rfl
  have hreport := h.2.2 .tempSense 1 trivial hran
  rw [hanswer] at hreport
  cases hreport

end Bench

end UdcFirmware.Drivers
