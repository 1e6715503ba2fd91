/-
The test routines of the jig, `jiga.c`, with those of `exio.c`, `rtc.c` and
`eeprom.c`: what an execution reads of the hardware, what it compares, and in
which variable it leaves its result.

`Hardware` is all that one execution can read; what an input reads may depend on
whatever the routine has put out before. `Test.Passes` says when every comparison
comes out as it has to. A routine leaves the outcome in the variable of its own
test and touches no other (`handle_own`, `handle_other`), but for channel 15 of the
loopback test: it leaves a success in the variable of channel 10.
-/
import UdcFirmware.Drivers.Eeprom
import UdcFirmware.Drivers.SystemTask

namespace UdcFirmware.Drivers

/-! ## What a routine reads -/

inductive Port
  | b | c | d | e | f | g | h | k | n | p | q | r | s
  deriving DecidableEq

structure Pin where
  port : Port
  num : Fin 8
  deriving DecidableEq

/-- `c28_values_t`. -/
inductive C28Value
  | gpdi8 | gpdi7 | gpdi5 | gpdi14 | gpdi13 | gpdi15 | gpdi16
  deriving DecidableEq

/-- What a routine puts out. -/
inductive Output
  | gpioPinWrite (pin : Pin) (on : Bool)
  | hradcRstCtrl (sts : Bool)
  /-- `arm_controls.PWMn`. -/
  | pwm (n : UInt8) (setpoint : UInt16)

/-- What one execution of a routine reads; of pins and samples, after what it has put out. -/
structure Hardware where
  level : List Output → Pin → Bool
  c28Values : List Output → C28Value → UInt16
  sampl : List Output → UInt8 → UInt16
  /-- The expanders, by register. -/
  exIo1 : UInt8 → UInt8
  exIo2 : UInt8 → UInt8
  /-- The clock, by register. -/
  rtc : UInt8 → UInt8
  /-- `SerialNumber` of `flash_mem.c`. -/
  flashSerialNumber : UInt64
  sdramBytes : Nat → UInt8
  sdramShorts : Nat → UInt16
  sdramLongs : Nat → UInt32
  /-- `temp`, as `ReadTemperature` has left it. -/
  temp : UInt16
  /-- `board_serial_number`, as read back. -/
  boardSerialNumber : SerialNumber

/-- Where `gpdi_sts` comes from. A pin is shifted down after it is read. -/
inductive Input
  | c28 (v : C28Value)
  | pin (pin : Pin) (shift : UInt8)

namespace Hardware

variable (hw : Hardware)

def gpioPinRead (outs : List Output) (pin : Pin) : UInt8 :=
  if hw.level outs pin then 1 <<< UInt8.ofNat pin.num else 0

def gpdiSts (outs : List Output) : Input → UInt8
  | .c28 v => (hw.c28Values outs v).toUInt8
  | .pin pin shift => hw.gpioPinRead outs pin >>> shift

/-- The sample of a channel, in volts. A `float` holds it exactly. -/
def adcpReadChannel (outs : List Output) (channel : UInt8) : Rat :=
  (((hw.sampl outs channel &&& 0x0FFF).toNat : Int) - 0x800 : Int) * (10.0 / 2048.0)

/-- A `float` holds this exactly too. -/
def temperatureCelsius : Rat := hw.temp.toNat * 0.125

/-- For hardware 2.1. -/
def dcdcSts : UInt8 := if hw.exIo1 0x00 &&& 0b00010000 ≠ 0 then 0 else 1

def rtcSramRead (byteAddr : UInt8) : UInt8 := hw.rtc ((if byteAddr > 6 then 6 else byteAddr) + 0x19)

/-- A loop of `sdram_read_write`: each word read is what was written there, `inc` more than the last. -/
def readsBack {α : Type} [DecidableEq α] [Add α] (read : Nat → α) (inc : α) : Nat → Nat → α → Bool
  | 0, _, _ => true
  | n + 1, i, written => if read i ≠ written then false else readsBack read inc n (i + 1) (written + inc)

def sdramReadWrite : UInt8 :=
  if !readsBack hw.sdramBytes 1 16 0 0x01 then 1
  else if !readsBack hw.sdramShorts 0x0202 8 0 0x0201 then 1
  else if !readsBack hw.sdramLongs 0x04040404 4 0 0x04030201 then 1
  else 0

/-- A case of `AdcpFunctionTest`: 0%, 50% and 100%. -/
def adcpRange (n : UInt8) : UInt8 :=
  if hw.adcpReadChannel [.pwm n 0] n > 9.0 then
    let adcpValue := hw.adcpReadChannel [.pwm n 0, .pwm n 50] n
    if adcpValue > -1.5 ∧ adcpValue < 2.0 then
      if hw.adcpReadChannel [.pwm n 0, .pwm n 50, .pwm n 100] n < -7.0 then 0 else 1
    else 1
  else 1

/-- A case of `LoopBackFunctionTest`, up to where it leaves its result. -/
def loopback (out : Bool → Output) (input : Input) : UInt8 :=
  if hw.gpdiSts [out false] input ≠ 0 then 1
  else if hw.gpdiSts [out false, out true] input ≠ 1 then 1
  else 0

end Hardware

/-! ## Pins -/

@[simp] abbrev rs485RdPin : Pin := ⟨.p, 2⟩
@[simp] abbrev rs485BkpRdPin : Pin := ⟨.p, 3⟩
@[simp] abbrev i2cOffboardIsoSdaPin : Pin := ⟨.p, 1⟩
@[simp] abbrev i2cOffboardIsoSclPin : Pin := ⟨.p, 0⟩
@[simp] abbrev canRxPin : Pin := ⟨.e, 6⟩
@[simp] abbrev canTxPin : Pin := ⟨.e, 7⟩
@[simp] abbrev intArmPin : Pin := ⟨.e, 4⟩

/-- The output and the input of a loopback channel. -/
def loopbackSignal : UInt8 → Option ((Bool → Output) × Input)
  | 1 => some (.gpioPinWrite ⟨.b, 7⟩, .c28 .gpdi16)
  | 2 => some (.gpioPinWrite ⟨.b, 6⟩, .c28 .gpdi15)
  | 3 => some (.gpioPinWrite ⟨.b, 5⟩, .c28 .gpdi14)
  | 4 => some (.gpioPinWrite ⟨.b, 4⟩, .c28 .gpdi13)
  | 5 => some (.gpioPinWrite ⟨.b, 3⟩, .pin ⟨.q, 0⟩ 0)
  | 6 => some (.gpioPinWrite ⟨.b, 2⟩, .pin ⟨.q, 1⟩ 1)
  | 7 => some (.gpioPinWrite ⟨.b, 1⟩, .pin ⟨.p, 6⟩ 6)
  | 8 => some (.gpioPinWrite ⟨.b, 0⟩, .pin ⟨.p, 5⟩ 5)
  | 9 => some (.gpioPinWrite ⟨.f, 0⟩, .c28 .gpdi8)
  | 10 => some (.gpioPinWrite ⟨.s, 3⟩, .c28 .gpdi7)
  | 11 => some (.gpioPinWrite ⟨.s, 1⟩, .pin ⟨.q, 4⟩ 4)
  | 12 => some (.gpioPinWrite ⟨.s, 2⟩, .c28 .gpdi5)
  | 13 => some (.gpioPinWrite ⟨.c, 0⟩, .pin ⟨.r, 5⟩ 5)
  | 14 => some (.gpioPinWrite ⟨.c, 2⟩, .pin ⟨.r, 4⟩ 4)
  | 15 => some (.gpioPinWrite ⟨.c, 1⟩, .pin ⟨.r, 7⟩ 7)
  | 16 => some (.gpioPinWrite ⟨.c, 3⟩, .pin ⟨.r, 6⟩ 6)
  | 17 => some (.gpioPinWrite i2cOffboardIsoSdaPin, .pin ⟨.g, 2⟩ 2)
  | 18 => some (.gpioPinWrite i2cOffboardIsoSclPin, .pin ⟨.s, 5⟩ 5)
  | 19 => some (.gpioPinWrite i2cOffboardIsoSdaPin, .pin ⟨.g, 5⟩ 5)
  | 20 => some (.gpioPinWrite i2cOffboardIsoSclPin, .pin ⟨.s, 7⟩ 7)
  | 21 => some (.gpioPinWrite ⟨.d, 4⟩, .pin ⟨.d, 5⟩ 5)
  | 22 => some (.gpioPinWrite ⟨.d, 6⟩, .pin ⟨.d, 7⟩ 7)
  | 23 => some (.gpioPinWrite ⟨.f, 1⟩, .pin ⟨.f, 6⟩ 6)
  | 24 => some (.gpioPinWrite canTxPin, .pin canRxPin 6)
  | 25 => some (.hradcRstCtrl, .pin ⟨.h, 7⟩ 7)
  | 26 => some (.gpioPinWrite rs485BkpRdPin, .pin intArmPin 4)
  | 27 => some (.gpioPinWrite ⟨.q, 5⟩, .pin ⟨.e, 5⟩ 5)
  | 28 => some (.gpioPinWrite ⟨.n, 4⟩, .pin ⟨.n, 5⟩ 5)
  | 30 => some (.gpioPinWrite ⟨.k, 2⟩, .pin ⟨.f, 6⟩ 6)
  | 31 => some (.gpioPinWrite ⟨.k, 1⟩, .pin ⟨.k, 0⟩ 0)
  | _ => none

/-- The input of channel 29, which has no output. -/
@[simp] abbrev loopback29Input : Input := .pin ⟨.k, 3⟩ 3

@[simp] abbrev loopback32Input : Input := .pin ⟨.f, 7⟩ 7

/-- What channel 32 puts out before each of its reads. -/
def loopback32Writes : List (List Output) :=
  [[.gpioPinWrite i2cOffboardIsoSdaPin false, .gpioPinWrite i2cOffboardIsoSclPin false],
    [.gpioPinWrite i2cOffboardIsoSdaPin true, .gpioPinWrite i2cOffboardIsoSclPin true],
    [.gpioPinWrite i2cOffboardIsoSdaPin false],
    [.gpioPinWrite i2cOffboardIsoSdaPin true, .gpioPinWrite i2cOffboardIsoSclPin false]]

@[simp] abbrev rs485Rx : Input := .pin ⟨.n, 2⟩ 2
@[simp] abbrev rs485BkpRx : Input := .pin ⟨.n, 6⟩ 6
@[simp] abbrev sciRx : Input := .pin ⟨.q, 7⟩ 7

/-- What `Rs485Loopbacktest` puts out before each of its reads: for one transceiver
after the other, the directions with a low level, then a high level. -/
def rs485Writes : List (List Output) :=
  [[.gpioPinWrite rs485RdPin true, .gpioPinWrite rs485BkpRdPin false, .gpioPinWrite ⟨.q, 5⟩ false,
      .gpioPinWrite ⟨.n, 3⟩ false],
    [.gpioPinWrite ⟨.n, 3⟩ true],
    [.gpioPinWrite rs485RdPin false, .gpioPinWrite rs485BkpRdPin true, .gpioPinWrite ⟨.n, 7⟩ false],
    [.gpioPinWrite ⟨.n, 7⟩ true],
    [.gpioPinWrite rs485BkpRdPin false, .gpioPinWrite ⟨.q, 5⟩ true, .gpioPinWrite ⟨.q, 6⟩ false],
    [.gpioPinWrite ⟨.q, 6⟩ true]]

/-- All that has been put out at a read. -/
def outsAt (writes : List (List Output)) (read : Nat) : List Output := (writes.take (read + 1)).flatten

/-! ## The routines -/

/-- The flags of the tasks, the results of the tests, and what a start leaves for its routine. -/
structure Jig where
  flags : Flags
  exIo1Sts : Bool
  exIo2Sts : Bool
  eepromSts : UInt8
  flashResult : UInt8
  ramResult : UInt8
  rtcAccessSts : UInt8
  tempSensorResult : UInt8
  isoPsLbResult : UInt8
  /-- `adcp_n_result`, by `n`. -/
  adcpResult : UInt8 → UInt8
  adcpTestChannel : UInt8
  rs485TestResult : UInt8
  /-- `loopback_n_result`, by `n`. -/
  loopbackResult : UInt8 → UInt8
  testChannel : UInt8
  serialNumberData : SerialNumber
  serialNumberNewData : Bool
  writeVal : UInt8

namespace Jig

variable (s : Jig) (hw : Hardware)

/-- The first expander has to read back 0xB5, the second 0xC1. -/
def exIoTestRoutine : Jig :=
  { s with exIo1Sts := hw.exIo1 0x03 != 0xB5, exIo2Sts := hw.exIo2 0x03 != 0xC1 }

def exIoTestResult : UInt8 :=
  let sts := if s.exIo1Sts then 0x01 else 0x00
  if s.exIo2Sts then sts ||| 0x10 else sts

def testFlashRoutine : Jig :=
  let testMem := hw.flashSerialNumber
  { s with flashResult := if testMem > 0x0000000000000000 ∧ testMem < 0xFFFFFFFFFFFFFFFF then 0 else 1 }

def testRamRoutine : Jig := { s with ramResult := if hw.sdramReadWrite ≠ 0 then 1 else 0 }

/-- What `RTCAccessTest` has written, by address. -/
def rtcPattern : List (UInt8 × UInt8) :=
  [(0x00, 0x01), (0x01, 0x02), (0x02, 0x03), (0x03, 0x04), (0x04, 0x05), (0x05, 0x06), (0x06, 0x07)]

def rtcAccessTest : Jig :=
  { s with
    rtcAccessSts :=
      rtcPattern.foldl (fun varError x => if hw.rtcSramRead x.1 ≠ x.2 then 1 else varError) 0 }

def testTempSenseRoutine : Jig :=
  let tempVar := hw.temperatureCelsius
  { s with tempSensorResult := if tempVar > 10.0 ∧ tempVar < 40.0 then 0 else 1 }

def isoPowerSupplyLoopBackTest : Jig := { s with isoPsLbResult := if hw.dcdcSts = 1 then 0 else 1 }

/-- The eight cases differ in the channel alone: `PWMn`, `AdcpReadChannel(n)` and `adcp_n_result`. -/
def adcpFunctionTest : Jig :=
  let n := s.adcpTestChannel
  if 1 ≤ n ∧ n ≤ 8 then { s with adcpResult := Function.update s.adcpResult n (hw.adcpRange n) } else s

/-- Two inputs after the same outputs. -/
def bothRead (read : Nat) (rx rx' : Input) (v : UInt8) : Bool :=
  hw.gpdiSts (outsAt rs485Writes read) rx == v && hw.gpdiSts (outsAt rs485Writes read) rx' == v

def rs485Loopbacktest : Jig :=
  { s with
    rs485TestResult :=
      if bothRead hw 0 rs485BkpRx sciRx 0 then
        if bothRead hw 1 rs485BkpRx sciRx 1 then
          if bothRead hw 2 rs485Rx sciRx 0 then
            if bothRead hw 3 rs485Rx sciRx 1 then
              if bothRead hw 4 rs485Rx rs485BkpRx 0 then
                if bothRead hw 5 rs485Rx rs485BkpRx 1 then 0 else 1
              else 1
            else 1
          else 1
        else 1
      else 1 }

def setLoopback (n v : UInt8) : Jig := { s with loopbackResult := Function.update s.loopbackResult n v }

def loopBackFunctionTest : Jig :=
  match s.testChannel with
  | 15 =>
    let out := Output.gpioPinWrite ⟨.c, 1⟩
    let input := Input.pin ⟨.r, 7⟩ 7
    if hw.gpdiSts [out false] input ≠ 0 then s.setLoopback 15 1
    else if hw.gpdiSts [out false, out true] input ≠ 1 then s.setLoopback 15 1
    else s.setLoopback 10 0
  | 29 => s.setLoopback 29 (if hw.gpdiSts [] loopback29Input ≠ 1 then 1 else 0)
  | 32 =>
    let gpdiSts := fun read => hw.gpdiSts (outsAt loopback32Writes read) loopback32Input
    s.setLoopback 32
      (if gpdiSts 0 = 0 then
        if gpdiSts 1 = 1 then
          if gpdiSts 2 = 0 then
            if gpdiSts 3 = 0 then 0 else 1
          else 1
        else 1
      else 1)
  | n =>
    match loopbackSignal n with
    | some (out, input) => s.setLoopback n (hw.loopback out input)
    | none => s

/-- The comparisons of the data read back. Without a new serial number there are none. -/
def eepromWriteSerialNumber : Jig :=
  if s.serialNumberNewData then
    { s with
      serialNumberNewData := false
      eepromSts := if hw.boardSerialNumber ≠ s.serialNumberData then 1 else 0 }
  else s

/-- What a handler of `TaskCheck` does here. -/
def handle : Handler → Jig
  | .eepromWriteRequestCheck => s.eepromWriteSerialNumber hw
  | .rtcAccessTest => s.rtcAccessTest hw
  | .exIoTestRoutine => s.exIoTestRoutine hw
  | .isoPowerSupplyLoopBackTest => s.isoPowerSupplyLoopBackTest hw
  | .loopBackFunctionTest => s.loopBackFunctionTest hw
  | .adcpFunctionTest => s.adcpFunctionTest hw
  | .rs485Loopbacktest => s.rs485Loopbacktest hw
  | .testFlashRoutine => s.testFlashRoutine hw
  | .testRamRoutine => s.testRamRoutine hw
  | .testTempSenseRoutine => s.testTempSenseRoutine hw
  | _ => s

end Jig

/-! ## Tests and their outcomes -/

/-- A test, with its channel. -/
inductive Test
  | ioExp | eeprom | flash | ram | rtc | tempSense | isoPs | rs485
  | adcp (channel : UInt8)
  | loopback (channel : UInt8)
  deriving DecidableEq

namespace Test

def Valid : Test → Prop
  | adcp channel => 1 ≤ channel ∧ channel ≤ 8
  | loopback channel => 1 ≤ channel ∧ channel ≤ 32
  | _ => True

instance (t : Test) : Decidable t.Valid := by
  cases t <;> unfold Valid <;> infer_instance

/-- The variable of its result. -/
def result (s : Jig) : Test → UInt8
  | ioExp => s.exIoTestResult
  | eeprom => s.eepromSts
  | flash => s.flashResult
  | ram => s.ramResult
  | rtc => s.rtcAccessSts
  | tempSense => s.tempSensorResult
  | isoPs => s.isoPsLbResult
  | rs485 => s.rs485TestResult
  | adcp channel => s.adcpResult channel
  | loopback channel => s.loopbackResult channel

end Test

/-- An input is low, or high. -/
def Hardware.Reads (hw : Hardware) (outs : List Output) : Input → Bool → Prop
  | .c28 v, on => (hw.c28Values outs v).toUInt8 = if on then 1 else 0
  | .pin pin _, on => hw.level outs pin = on

instance (hw : Hardware) (outs : List Output) (input : Input) (on : Bool) :
    Decidable (hw.Reads outs input on) := by
  cases input <;> exact inferInstanceAs (Decidable (_ = _))

/-- Of a loopback channel: the input was low after the output was driven low, and high
after it was driven high. -/
def Hardware.LoopsBack (hw : Hardware) : UInt8 → Prop
  | 29 => hw.Reads [] loopback29Input true
  | 32 => ∀ k < 4, hw.Reads (outsAt loopback32Writes k) loopback32Input (k = 1)
  | n =>
    match loopbackSignal n with
    | some (out, input) => hw.Reads [out false] input false ∧ hw.Reads [out false, out true] input true
    | none => True

instance (hw : Hardware) (n : UInt8) : Decidable (hw.LoopsBack n) := by
  unfold Hardware.LoopsBack
  split
  · infer_instance
  · infer_instance
  · split <;> infer_instance

/-- The inputs that are high and low with each transceiver in turn. -/
def rs485Listeners : List (Input × Input) := [(rs485BkpRx, sciRx), (rs485Rx, sciRx), (rs485Rx, rs485BkpRx)]

namespace Test

/-- Every comparison comes out as it has to. -/
def Passes (hw : Hardware) (serialNumberData : SerialNumber) : Test → Prop
  | ioExp => hw.exIo1 0x03 = 0xB5 ∧ hw.exIo2 0x03 = 0xC1
  | eeprom => hw.boardSerialNumber = serialNumberData
  | flash => hw.flashSerialNumber > 0 ∧ hw.flashSerialNumber < 0xFFFFFFFFFFFFFFFF
  | ram =>
    (∀ i < 16, hw.sdramBytes i = (· + 1)^[i] 0x01) ∧ (∀ i < 8, hw.sdramShorts i = (· + 0x0202)^[i] 0x0201) ∧
      ∀ i < 4, hw.sdramLongs i = (· + 0x04040404)^[i] 0x04030201
  | rtc => ∀ i < 7, hw.rtc (UInt8.ofNat i + 0x19) = UInt8.ofNat (i + 1)
  | tempSense => hw.temperatureCelsius > 10.0 ∧ hw.temperatureCelsius < 40.0
  | isoPs => hw.exIo1 0x00 &&& 0b00010000 = 0
  | rs485 =>
    ∀ x ∈ rs485Listeners.zipIdx, ∀ rx ∈ [x.1.1, x.1.2],
      hw.Reads (outsAt rs485Writes (2 * x.2)) rx false ∧ hw.Reads (outsAt rs485Writes (2 * x.2 + 1)) rx true
  | adcp n =>
    hw.adcpReadChannel [.pwm n 0] n > 9.0 ∧
      (hw.adcpReadChannel [.pwm n 0, .pwm n 50] n > -1.5 ∧ hw.adcpReadChannel [.pwm n 0, .pwm n 50] n < 2.0) ∧
      hw.adcpReadChannel [.pwm n 0, .pwm n 50, .pwm n 100] n < -7.0
  | loopback n => hw.LoopsBack n

instance (hw : Hardware) (serialNumberData : SerialNumber) (t : Test) :
    Decidable (t.Passes hw serialNumberData) := by
  cases t <;> unfold Passes <;> infer_instance

/-- 0 where the test passes. For the expanders, each that does not has a digit of its own. -/
def outcome (hw : Hardware) (serialNumberData : SerialNumber) : Test → UInt8
  | ioExp => (if hw.exIo1 0x03 = 0xB5 then 0x00 else 0x01) ||| (if hw.exIo2 0x03 = 0xC1 then 0x00 else 0x10)
  | t => if t.Passes hw serialNumberData then 0 else 1

theorem outcome_eq_zero (hw : Hardware) (serialNumberData : SerialNumber) (t : Test) :
    t.outcome hw serialNumberData = 0 ↔ t.Passes hw serialNumberData := by
  have hone (p : Prop) [Decidable p] : (if p then (0 : UInt8) else 1) = 0 ↔ p := by
    by_cases h : p <;> simp [h]
  cases t with
  | ioExp =>
    unfold outcome Passes
    by_cases h : hw.exIo1 0x03 = 0xB5 <;> by_cases h' : hw.exIo2 0x03 = 0xC1 <;> simp [h, h']
  | _ => exact hone _

end Test

/-! ## Reading -/

namespace Hardware

variable (hw : Hardware)

/-- What is shifted down is the pin that was read. -/
def Input.Sound : Input → Prop
  | .c28 _ => True
  | .pin pin shift => shift = UInt8.ofNat pin.num

instance (input : Input) : Decidable (Input.Sound input) := by
  cases input <;> unfold Input.Sound <;> infer_instance

theorem gpdiSts_eq {input : Input} (h : Input.Sound input) (outs : List Output) (on : Bool) :
    hw.gpdiSts outs input = (if on then 1 else 0) ↔ hw.Reads outs input on := by
  cases input with
  | c28 v => exact Iff.rfl
  | pin pin shift =>
    cases h
    have hbit : ∀ num : Fin 8, (1 : UInt8) <<< UInt8.ofNat num >>> UInt8.ofNat num = 1 := by decide
    have hnone : ∀ num : Fin 8, (0 : UInt8) >>> UInt8.ofNat num = 0 := by decide
    unfold gpdiSts gpioPinRead Reads
    cases hlevel : hw.level outs pin <;> cases on <;> simp [hlevel, hbit, hnone]

theorem gpdiSts_low {input : Input} (h : Input.Sound input) (outs : List Output) :
    hw.gpdiSts outs input = 0 ↔ hw.Reads outs input false := hw.gpdiSts_eq h outs false

theorem gpdiSts_high {input : Input} (h : Input.Sound input) (outs : List Output) :
    hw.gpdiSts outs input = 1 ↔ hw.Reads outs input true := hw.gpdiSts_eq h outs true

theorem loopbackSignal_sound {n : UInt8} {out : Bool → Output} {input : Input}
    (h : loopbackSignal n = some (out, input)) : Input.Sound input := by
  unfold loopbackSignal at h
  split at h <;> cases h <;> decide

/-- The words of a loop count up from the first. -/
theorem readsBack_iff {α : Type} [DecidableEq α] [Add α] (read : Nat → α) (inc : α) (n i : Nat)
    (written : α) :
    readsBack read inc n i written = true ↔ ∀ j < n, read (i + j) = (· + inc)^[j] written := by
  induction n generalizing i written with
  | zero => simp [readsBack]
  | succ n ih =>
    unfold readsBack
    by_cases hread : read i = written
    · rw [if_neg (not_not.mpr hread), ih]
      constructor
      · intro h j hj
        cases j with
        | zero => exact hread
        | succ j =>
          rw [Function.iterate_succ_apply, ← h j (by omega), Nat.add_right_comm i 1 j]
          rfl
      · intro h j hj
        have hnext := h (j + 1) (by omega)
        rw [Function.iterate_succ_apply] at hnext
        rw [← hnext, Nat.add_right_comm i 1 j]
        rfl
    · rw [if_pos hread]
      exact ⟨nofun, fun h => absurd (h 0 (Nat.succ_pos n)) hread⟩

theorem sdramReadWrite_eq_zero (serialNumberData : SerialNumber) :
    hw.sdramReadWrite = 0 ↔ Test.ram.Passes hw serialNumberData := by
  have hloop {α : Type} [DecidableEq α] [Add α] (read : Nat → α) (inc : α) (n : Nat) (written : α) :
      readsBack read inc n 0 written = true ↔ ∀ j < n, read j = (· + inc)^[j] written := by
    simpa only [Nat.zero_add] using readsBack_iff read inc n 0 written
  unfold sdramReadWrite Test.Passes
  rw [← hloop, ← hloop, ← hloop]
  cases readsBack hw.sdramBytes 1 16 0 0x01 <;> cases readsBack hw.sdramShorts 0x0202 8 0 0x0201 <;>
    cases readsBack hw.sdramLongs 0x04040404 4 0 0x04030201 <;> simp

end Hardware

/-! ## What a routine leaves -/

namespace Jig

open Test

variable {s : Jig} {hw : Hardware} {h : Handler} {t : Test}

/-- The test that a handler makes, if any. -/
def test (s : Jig) : Handler → Option Test
  | .eepromWriteRequestCheck => if s.serialNumberNewData then some .eeprom else none
  | .rtcAccessTest => some .rtc
  | .exIoTestRoutine => some .ioExp
  | .isoPowerSupplyLoopBackTest => some .isoPs
  | .loopBackFunctionTest => some (.loopback s.testChannel)
  | .adcpFunctionTest => some (.adcp s.adcpTestChannel)
  | .rs485Loopbacktest => some .rs485
  | .testFlashRoutine => some .flash
  | .testRamRoutine => some .ram
  | .testTempSenseRoutine => some .tempSense
  | _ => none

theorem exIoTestRoutine_outcome (s : Jig) (hw : Hardware) :
    (s.exIoTestRoutine hw).exIoTestResult = Test.ioExp.outcome hw s.serialNumberData := by
  unfold exIoTestRoutine exIoTestResult outcome
  by_cases h : hw.exIo1 0x03 = 0xB5 <;> by_cases h' : hw.exIo2 0x03 = 0xC1 <;> simp [h, h']

/-- An error stays. -/
theorem foldl_error (p : UInt8 × UInt8 → Prop) [DecidablePred p] (l : List (UInt8 × UInt8))
    (varError : UInt8) : l.foldl (fun varError x => if p x then 1 else varError) varError =
      if ∃ x ∈ l, p x then 1 else varError := by
  induction l generalizing varError with
  | nil => simp
  | cons x l ih =>
    rw [List.foldl_cons, ih]
    by_cases hx : p x
    · simp [hx]
    · rw [if_neg hx]
      exact if_congr (by simp [hx]) rfl rfl

theorem rtcAccessTest_outcome (s : Jig) (hw : Hardware) :
    (s.rtcAccessTest hw).rtcAccessSts = Test.rtc.outcome hw s.serialNumberData := by
  have hpattern : rtcPattern = (List.range 7).map fun i => (UInt8.ofNat i, UInt8.ofNat (i + 1)) := rfl
  have hread : ∀ i < 7, hw.rtcSramRead (UInt8.ofNat i) = hw.rtc (UInt8.ofNat i + 0x19) := by
    intro i hi
    have hsmall : ∀ i < 7, ¬ UInt8.ofNat i > 6 := by decide
    unfold Hardware.rtcSramRead
    rw [if_neg (hsmall i hi)]
  show rtcPattern.foldl (fun varError x => if hw.rtcSramRead x.1 ≠ x.2 then 1 else varError) 0 =
    if Test.rtc.Passes hw s.serialNumberData then 0 else 1
  rw [foldl_error (fun x => hw.rtcSramRead x.1 ≠ x.2)]
  have hiff : (∃ x ∈ rtcPattern, hw.rtcSramRead x.1 ≠ x.2) ↔ ¬ Test.rtc.Passes hw s.serialNumberData := by
    unfold Passes
    rw [hpattern]
    push Not
    simp only [List.mem_map, List.mem_range, exists_exists_and_eq_and]
    refine exists_congr fun i => and_congr_right fun hi => ?_
    rw [hread i hi]
  by_cases hpass : Test.rtc.Passes hw s.serialNumberData
  · rw [if_pos hpass, if_neg fun h => hiff.mp h hpass]
  · rw [if_neg hpass, if_pos (hiff.mpr hpass)]

theorem adcpRange_outcome (hw : Hardware) (n : UInt8) (serialNumberData : SerialNumber) :
    hw.adcpRange n = (Test.adcp n).outcome hw serialNumberData := by
  show hw.adcpRange n = if (Test.adcp n).Passes hw serialNumberData then 0 else 1
  unfold Hardware.adcpRange Passes
  simp only [ite_and]

theorem loopback_outcome (hw : Hardware) {n : UInt8} {out : Bool → Output} {input : Input}
    (hsignal : loopbackSignal n = some (out, input)) (h29 : n ≠ 29) (h32 : n ≠ 32)
    (serialNumberData : SerialNumber) :
    hw.loopback out input = (Test.loopback n).outcome hw serialNumberData := by
  have hsound := Hardware.loopbackSignal_sound hsignal
  have hiff : Test.Passes hw serialNumberData (.loopback n) ↔
      hw.gpdiSts [out false] input = 0 ∧ hw.gpdiSts [out false, out true] input = 1 := by
    rw [hw.gpdiSts_low hsound, hw.gpdiSts_high hsound]
    show hw.LoopsBack n ↔ _
    unfold Hardware.LoopsBack
    split
    · exact absurd rfl h29
    · exact absurd rfl h32
    · rw [hsignal]
  show hw.loopback out input = if (Test.loopback n).Passes hw serialNumberData then 0 else 1
  unfold Hardware.loopback
  rw [if_congr hiff rfl rfl]
  simp only [ne_eq, ite_not, ite_and]

theorem rs485Loopbacktest_outcome (s : Jig) (hw : Hardware) :
    (s.rs485Loopbacktest hw).rs485TestResult = Test.rs485.outcome hw s.serialNumberData := by
  have hread (k : Nat) (rx rx' : Input) (v : Bool) (h : Hardware.Input.Sound rx)
      (h' : Hardware.Input.Sound rx') :
      bothRead hw k rx rx' (if v then 1 else 0) = true ↔
        hw.Reads (outsAt rs485Writes k) rx v ∧ hw.Reads (outsAt rs485Writes k) rx' v := by
    unfold bothRead
    rw [Bool.and_eq_true, beq_iff_eq, beq_iff_eq, hw.gpdiSts_eq h, hw.gpdiSts_eq h']
  have hiff : Test.Passes hw s.serialNumberData .rs485 ↔
      bothRead hw 0 rs485BkpRx sciRx 0 ∧ bothRead hw 1 rs485BkpRx sciRx 1 ∧ bothRead hw 2 rs485Rx sciRx 0 ∧
        bothRead hw 3 rs485Rx sciRx 1 ∧ bothRead hw 4 rs485Rx rs485BkpRx 0 ∧
        bothRead hw 5 rs485Rx rs485BkpRx 1 := by
    have hlow (k : Nat) (rx rx' : Input) (h : Hardware.Input.Sound rx) (h' : Hardware.Input.Sound rx') :=
      hread k rx rx' false h h'
    have hhigh (k : Nat) (rx rx' : Input) (h : Hardware.Input.Sound rx) (h' : Hardware.Input.Sound rx') :=
      hread k rx rx' true h h'
    simp only [Bool.false_eq_true, if_true, if_false] at hlow hhigh
    rw [hlow 0 _ _ (by decide) (by decide), hhigh 1 _ _ (by decide) (by decide),
      hlow 2 _ _ (by decide) (by decide), hhigh 3 _ _ (by decide) (by decide),
      hlow 4 _ _ (by decide) (by decide), hhigh 5 _ _ (by decide) (by decide)]
    unfold Passes
    simp [rs485Listeners, List.zipIdx]
    tauto
  show (s.rs485Loopbacktest hw).rs485TestResult = if Test.rs485.Passes hw s.serialNumberData then 0 else 1
  unfold rs485Loopbacktest
  rw [if_congr hiff rfl rfl]
  simp only [ite_and]

theorem isoPowerSupplyLoopBackTest_outcome (s : Jig) (hw : Hardware) :
    (s.isoPowerSupplyLoopBackTest hw).isoPsLbResult = Test.isoPs.outcome hw s.serialNumberData := by
  show (if hw.dcdcSts = 1 then 0 else 1) = if hw.exIo1 0x00 &&& 0b00010000 = 0 then 0 else 1
  unfold Hardware.dcdcSts
  by_cases h : hw.exIo1 0x00 &&& 0b00010000 = 0 <;> simp [h]

theorem testRamRoutine_outcome (s : Jig) (hw : Hardware) :
    (s.testRamRoutine hw).ramResult = Test.ram.outcome hw s.serialNumberData := by
  show (if hw.sdramReadWrite ≠ 0 then 1 else 0) = if Test.ram.Passes hw s.serialNumberData then 0 else 1
  rw [← if_congr (hw.sdramReadWrite_eq_zero s.serialNumberData) rfl rfl, ite_not]

/-- A success of channel 15 goes to channel 10. -/
theorem loopBackFunctionTest_fifteen (s : Jig) (hw : Hardware) (hchannel : s.testChannel = 15) :
    s.loopBackFunctionTest hw = if hw.LoopsBack 15 then s.setLoopback 10 0 else s.setLoopback 15 1 := by
  have hsound : Hardware.Input.Sound (.pin ⟨.r, 7⟩ 7) := by decide
  have hiff : hw.LoopsBack 15 ↔ hw.gpdiSts [.gpioPinWrite ⟨.c, 1⟩ false] (.pin ⟨.r, 7⟩ 7) = 0 ∧
      hw.gpdiSts [.gpioPinWrite ⟨.c, 1⟩ false, .gpioPinWrite ⟨.c, 1⟩ true] (.pin ⟨.r, 7⟩ 7) = 1 := by
    rw [hw.gpdiSts_low hsound, hw.gpdiSts_high hsound]
    rfl
  unfold loopBackFunctionTest
  rw [hchannel, if_congr hiff rfl rfl]
  simp only [ne_eq, ite_not, ite_and]

theorem loopback29_outcome (hw : Hardware) (serialNumberData : SerialNumber) :
    (if hw.gpdiSts [] loopback29Input ≠ 1 then 1 else 0) =
      (Test.loopback 29).outcome hw serialNumberData := by
  simp only [ne_eq, ite_not]
  exact if_congr (hw.gpdiSts_high (by decide) []) rfl rfl

/-- Four reads, of which the second has to be high. -/
theorem loopback32_passes (hw : Hardware) : hw.LoopsBack 32 ↔
    hw.gpdiSts (outsAt loopback32Writes 0) loopback32Input = 0 ∧
      hw.gpdiSts (outsAt loopback32Writes 1) loopback32Input = 1 ∧
      hw.gpdiSts (outsAt loopback32Writes 2) loopback32Input = 0 ∧
      hw.gpdiSts (outsAt loopback32Writes 3) loopback32Input = 0 := by
  have hsound : Hardware.Input.Sound loopback32Input := by decide
  rw [hw.gpdiSts_low hsound, hw.gpdiSts_high hsound, hw.gpdiSts_low hsound, hw.gpdiSts_low hsound]
  constructor
  · intro h
    exact ⟨h 0 (by decide), h 1 (by decide), h 2 (by decide), h 3 (by decide)⟩
  · intro h k hk
    obtain ⟨h₀, h₁, h₂, h₃⟩ := h
    match k, hk with
    | 0, _ => exact h₀
    | 1, _ => exact h₁
    | 2, _ => exact h₂
    | 3, _ => exact h₃

theorem loopbackSignal_isSome {n : UInt8} (hvalid : (Test.loopback n).Valid) (h29 : n ≠ 29) (h32 : n ≠ 32) :
    (loopbackSignal n).isSome := by
  have hall : ∀ k < 33, k ≠ 0 → k ≠ 29 → k ≠ 32 → (loopbackSignal (UInt8.ofNat k)).isSome := by decide
  have hlow : 1 ≤ n.toNat := UInt8.le_iff_toNat_le.mp hvalid.1
  have hhigh : n.toNat ≤ 32 := UInt8.le_iff_toNat_le.mp hvalid.2
  have hn := hall n.toNat (by omega) (by omega) (fun h => h29 (UInt8.toNat_inj.mp h))
    (fun h => h32 (UInt8.toNat_inj.mp h))
  rwa [UInt8.ofNat_toNat] at hn

/-- On every other channel that there is, the outcome goes to its own variable. -/
theorem loopBackFunctionTest_eq (s : Jig) (hw : Hardware) (hvalid : (Test.loopback s.testChannel).Valid)
    (h15 : s.testChannel ≠ 15) :
    s.loopBackFunctionTest hw =
      s.setLoopback s.testChannel ((Test.loopback s.testChannel).outcome hw s.serialNumberData) := by
  unfold loopBackFunctionTest
  split
  · next hchannel => exact absurd hchannel h15
  · next hchannel =>
    rw [hchannel, loopback29_outcome hw s.serialNumberData]
  · next hchannel =>
    have houtcome : (Test.loopback 32).outcome hw s.serialNumberData = if hw.LoopsBack 32 then 0 else 1 := rfl
    rw [hchannel, houtcome, if_congr (loopback32_passes hw) rfl rfl]
    simp only [ite_and]
  · next h15' h29 h32 =>
    obtain ⟨⟨out, input⟩, hsignal⟩ := Option.isSome_iff_exists.mp (loopbackSignal_isSome hvalid h29 h32)
    simp only [hsignal, loopback_outcome hw hsignal h29 h32 s.serialNumberData]

theorem loopbackSignal_valid {n : UInt8} {x : (Bool → Output) × Input} (hsignal : loopbackSignal n = some x) :
    (Test.loopback n).Valid := by
  unfold loopbackSignal at hsignal
  split at hsignal <;> first | decide | cases hsignal

/-- There is no other channel. -/
theorem loopBackFunctionTest_invalid (s : Jig) (hw : Hardware)
    (hvalid : ¬ (Test.loopback s.testChannel).Valid) : s.loopBackFunctionTest hw = s := by
  unfold loopBackFunctionTest
  split
  · next hchannel => exact absurd (by rw [hchannel]; decide) hvalid
  · next hchannel => exact absurd (by rw [hchannel]; decide) hvalid
  · next hchannel => exact absurd (by rw [hchannel]; decide) hvalid
  · split
    · next hsignal => exact absurd (loopbackSignal_valid hsignal) hvalid
    · rfl

/-- A routine leaves its outcome in the variable of its test. -/
theorem handle_own (htest : s.test h = some t) (hvalid : t.Valid) (h15 : t ≠ .loopback 15) :
    t.result (s.handle hw h) = t.outcome hw s.serialNumberData := by
  unfold test at htest
  split at htest
  · split at htest
    · next hnew =>
      cases htest
      show (s.eepromWriteSerialNumber hw).eepromSts =
        if hw.boardSerialNumber = s.serialNumberData then 0 else 1
      unfold eepromWriteSerialNumber
      rw [if_pos hnew]
      simp only [ne_eq, ite_not]
    · cases htest
  · cases htest
    exact s.rtcAccessTest_outcome hw
  · cases htest
    exact s.exIoTestRoutine_outcome hw
  · cases htest
    exact s.isoPowerSupplyLoopBackTest_outcome hw
  · cases htest
    show (s.loopBackFunctionTest hw).loopbackResult s.testChannel = _
    rw [s.loopBackFunctionTest_eq hw hvalid fun hchannel => h15 (congrArg Test.loopback hchannel)]
    exact Function.update_self ..
  · cases htest
    show (s.adcpFunctionTest hw).adcpResult s.adcpTestChannel = _
    have heq : s.adcpFunctionTest hw = { s with
        adcpResult := Function.update s.adcpResult s.adcpTestChannel (hw.adcpRange s.adcpTestChannel) } :=
      if_pos hvalid
    rw [heq, ← adcpRange_outcome]
    exact Function.update_self ..
  · cases htest
    exact s.rs485Loopbacktest_outcome hw
  · cases htest
    rfl
  · cases htest
    exact s.testRamRoutine_outcome hw
  · cases htest
    rfl
  · cases htest

theorem result_setLoopback {n v : UInt8} (hne : t ≠ .loopback n) :
    t.result (s.setLoopback n v) = t.result s := by
  cases t with
  | loopback m =>
    have hm : m ≠ n := fun h => hne (congrArg _ h)
    exact Function.update_of_ne hm ..
  | _ => rfl

/-- And touches no other, unless it is that of channel 15. -/
theorem handle_other (htest : s.test h ≠ some t)
    (h10 : s.test h = some (.loopback 15) → t ≠ .loopback 10) : t.result (s.handle hw h) = t.result s := by
  cases h with
  | eepromWriteRequestCheck =>
    show t.result (s.eepromWriteSerialNumber hw) = t.result s
    unfold eepromWriteSerialNumber
    split
    · next hnew => cases t <;> first | rfl | exact absurd (if_pos hnew) htest
    · rfl
  | adcpFunctionTest =>
    show t.result (s.adcpFunctionTest hw) = t.result s
    unfold adcpFunctionTest
    simp only
    split
    · cases t with
      | adcp n =>
        have hn : n ≠ s.adcpTestChannel := fun h => htest (congrArg (some <| Test.adcp ·) h.symm)
        exact Function.update_of_ne hn ..
      | _ => rfl
    · rfl
  | loopBackFunctionTest =>
    show t.result (s.loopBackFunctionTest hw) = t.result s
    have hne : t ≠ .loopback s.testChannel := fun h => htest (congrArg some h.symm)
    by_cases hvalid : (Test.loopback s.testChannel).Valid
    · by_cases hchannel : s.testChannel = 15
      · rw [s.loopBackFunctionTest_fifteen hw hchannel]
        split
        · exact result_setLoopback (h10 (congrArg (some <| Test.loopback ·) hchannel))
        · rw [hchannel] at hne
          exact result_setLoopback hne
      · rw [s.loopBackFunctionTest_eq hw hvalid hchannel]
        exact result_setLoopback hne
    · rw [s.loopBackFunctionTest_invalid hw hvalid]
  | _ => cases t <;> first | rfl | exact absurd rfl htest

end Jig

end UdcFirmware.Drivers
