/-
The parameters in the EEPROM: `eeprom.c`, and what it uses of
`i2c_onboard.c`.

Each parameter has a variable for a value that waits to be written, a flag
that says so, a function that writes it to its own address and one that reads
it back. All of them go through one buffer, `data_eeprom`: its first two bytes
are the address, and a read overwrites it from the start. The chip is the
AT24C64: 8 KiB in pages of 32 bytes, and a write that reaches the end of a
page goes on at its start.
-/
import UdcFirmware.Lib.ByteMem
import UdcFirmware.Bsmp.Types
import Mathlib.Logic.Function.Basic

namespace UdcFirmware.Drivers

open Bsmp ByteMem

/-! ## The chip -/

@[simp] abbrev pageSize : Nat := 32
@[simp] abbrev chipSize : Nat := 8192

/-- The AT24C64, with its write protection pin. -/
structure At24c64 where
  mem : Mem UInt8
  protection : Bool

/-- Bytes written from `addr` on, within the page. -/
def writePage (m : Mem UInt8) (addr : Nat) : List UInt8 → Mem UInt8
  | [] => m
  | b :: bs => writePage (Function.update m addr b) (addr / pageSize * pageSize + (addr + 1) % pageSize) bs

/-- The 13 bits of an address. -/
def wordAddress (msb lsb : UInt8) : Nat := (ofBeBytes msb lsb).toNat % chipSize

namespace At24c64

variable (c : At24c64)

/-- The bytes of one transmission to the chip: address and data. -/
def receive : List UInt8 → At24c64
  | msb :: lsb :: bytes =>
    if c.protection then c else { c with mem := writePage c.mem (wordAddress msb lsb) bytes }
  | _ => c

/-- `n` bytes from an address on. -/
def send (msb lsb : UInt8) (n : Nat) : List UInt8 :=
  (List.range n).map fun i => c.mem ((wordAddress msb lsb + i) % chipSize)

end At24c64

/-! ## The variables of `eeprom.c` -/

/-- The parameters that are saved, in the order of `EepromWriteRequestCheck`. -/
inductive Param
  | serialNumber | ip | ipMask | rs485Add | rs485Baud
  | kp1 | ki1 | kd1 | kp2 | ki2 | kd2 | kp3 | ki3 | kd3 | kp4 | ki4 | kd4
  | psModel
  deriving DecidableEq

def Param.all : List Param :=
  [.serialNumber, .ip, .ipMask, .rs485Add, .rs485Baud, .kp1, .ki1, .kd1, .kp2, .ki2, .kd2, .kp3, .ki3, .kd3,
    .kp4, .ki4, .kd4, .psModel]

/-- A `float`, by its four bytes in memory. -/
abbrev FloatChars := Vector UInt8 4

abbrev SerialNumber := Vector UInt8 10

/-- What the variable of a parameter holds. -/
abbrev Param.Value : Param → Type
  | serialNumber => SerialNumber
  | ip | ipMask | rs485Baud => UInt32
  | rs485Add | psModel => UInt8
  | kp1 | ki1 | kd1 | kp2 | ki2 | kd2 | kp3 | ki3 | kd3 | kp4 | ki4 | kd4 => FloatChars

/-- `saved` are the `.._data` variables, `newData` the `.._new_data` flags. -/
structure Eeprom where
  chip : At24c64
  dataEeprom : Mem UInt8
  floatNchars : FloatChars
  boardSerialNumber : SerialNumber
  eepromSts : UInt8
  saved : (p : Param) → p.Value
  newData : Param → Bool

@[simp] abbrev serialNumberAddr : UInt16 := 0x0000
@[simp] abbrev ipAddr : UInt16 := 0x0140
@[simp] abbrev ipmaskAddr : UInt16 := 0x0144
@[simp] abbrev rs485Addr : UInt16 := 0x0160
@[simp] abbrev rs485Br : UInt16 := 0x0161
@[simp] abbrev gainKp1 : UInt16 := 0x0200
@[simp] abbrev gainKi1 : UInt16 := 0x0204
@[simp] abbrev gainKd1 : UInt16 := 0x0208
@[simp] abbrev gainKp2 : UInt16 := 0x0210
@[simp] abbrev gainKi2 : UInt16 := 0x0214
@[simp] abbrev gainKd2 : UInt16 := 0x0218
@[simp] abbrev gainKp3 : UInt16 := 0x0220
@[simp] abbrev gainKi3 : UInt16 := 0x0224
@[simp] abbrev gainKd3 : UInt16 := 0x0228
@[simp] abbrev gainKp4 : UInt16 := 0x0230
@[simp] abbrev gainKi4 : UInt16 := 0x0234
@[simp] abbrev gainKd4 : UInt16 := 0x0238
@[simp] abbrev psmodelAddr : UInt16 := 0x0100
@[simp] abbrev endMemory : UInt16 := 0x1FFF

namespace Eeprom

variable (s : Eeprom)

/-! ## The bus -/

/-- `ReadI2C`: the address is taken from `data`, which is then overwritten. -/
def readI2C (messageSize : UInt8) : Eeprom :=
  { s with
    dataEeprom := store s.dataEeprom 0 (s.chip.send (s.dataEeprom 0) (s.dataEeprom 1) messageSize.toNat) }

/-- `WriteI2C`. -/
def writeI2C (messageSize : UInt8) : Eeprom :=
  { s with chip := s.chip.receive (load s.dataEeprom ⟨0, messageSize.toNat⟩) }

/-- `GPIOPinWrite(EEPROM_WP_BASE, EEPROM_WP_PIN, ..)`. -/
def gpioPinWrite (on : Bool) : Eeprom := { s with chip.protection := on }

def readAt (addr : UInt16) (messageSize : UInt8) : Eeprom :=
  { s with dataEeprom := store s.dataEeprom 0 (beBytes addr) }.readI2C messageSize

def writeAt (addr : UInt16) (messageSize : UInt8) (bytes : List UInt8) : Eeprom :=
  let s := { s with dataEeprom := store s.dataEeprom 0 (beBytes addr ++ bytes) }
  ((s.gpioPinWrite false).writeI2C messageSize).gpioPinWrite true

/-! ## Kinds of parameters -/

/-- `v >> 24`, `v >> 16`, `v >> 8`, `v`. -/
def wordBytes (v : UInt32) : List UInt8 :=
  [(v >>> 24).toUInt8, (v >>> 16).toUInt8, (v >>> 8).toUInt8, v.toUInt8]

/-- The shifts and ors of `EepromReadIP`. -/
def ofWordBytes (b₀ b₁ b₂ b₃ : UInt8) : UInt32 :=
  (((b₀.toUInt32 <<< 8 ||| b₁.toUInt32) <<< 8 ||| b₂.toUInt32) <<< 8) ||| b₃.toUInt32

def readByte (addr : UInt16) : UInt8 × Eeprom :=
  let s := s.readAt addr 0x02
  (s.dataEeprom 0, s)

def readWord (addr : UInt16) : UInt32 × Eeprom :=
  let s := s.readAt addr 0x04
  (ofWordBytes (s.dataEeprom 0) (s.dataEeprom 1) (s.dataEeprom 2) (s.dataEeprom 3), s)

def readFloat (addr : UInt16) : FloatChars × Eeprom :=
  let s := s.readAt addr 0x04
  let s := { s with floatNchars := #v[s.dataEeprom 0, s.dataEeprom 1, s.dataEeprom 2, s.dataEeprom 3] }
  (s.floatNchars, s)

/-- A `Save..` function. -/
def save (p : Param) (v : p.Value) : Eeprom :=
  { s with
    saved := Function.update s.saved p v
    newData := Function.update s.newData p true }

/-- Only new data is written. -/
def writeNew (p : Param) (write : Eeprom → Eeprom) : Eeprom :=
  if s.newData p then
    let s := write s
    { s with newData := Function.update s.newData p false }
  else s

def writeByte (p : Param) (addr : UInt16) (v : UInt8) : Eeprom :=
  s.writeNew p fun s => s.writeAt addr 0x03 [v]

def writeWord (p : Param) (addr : UInt16) (v : UInt32) : Eeprom :=
  s.writeNew p fun s => s.writeAt addr 0x06 (wordBytes v)

def writeFloat (p : Param) (addr : UInt16) (v : FloatChars) : Eeprom :=
  s.writeNew p fun s => { s with floatNchars := v }.writeAt addr 0x06 v.toList

/-! ## The functions of `eeprom.c` -/

/-- What it reads is left in `board_serial_number`. -/
def eepromReadSerialNumber : Eeprom :=
  let s := s.readAt serialNumberAddr 0x0B
  { s with boardSerialNumber := Vector.ofFn fun i => s.dataEeprom i }

/-- `SaveSerialNumber` and its ten parameters. -/
def saveSerialNumber (serialNumber : SerialNumber) : Eeprom := s.save .serialNumber serialNumber

/-- The ten comparisons of the test data set `eeprom_sts` to 1 where two bytes differ. -/
def eepromWriteSerialNumber : Eeprom :=
  if s.newData .serialNumber then
    let s := s.writeNew .serialNumber fun s =>
      s.writeAt serialNumberAddr 0x0C (s.saved .serialNumber : SerialNumber).toList
    let s := s.eepromReadSerialNumber
    { s with eepromSts := if s.boardSerialNumber ≠ s.saved .serialNumber then 1 else 0 }
  else s

def eepromReadIP := s.readWord ipAddr
def saveIpAddress (v : UInt32) := s.save .ip v
def eepromWriteIP := s.writeWord .ip ipAddr (s.saved .ip)

def eepromReadIPMask := s.readWord ipmaskAddr
def saveIpMask (v : UInt32) := s.save .ipMask v
def eepromWriteIPMask := s.writeWord .ipMask ipmaskAddr (s.saved .ipMask)

def eepromReadRs485Add := s.readByte rs485Addr
/-- The parameter has 32 bits, the variable 8. -/
def saveRs485Add (v : UInt32) := s.save .rs485Add v.toUInt8
def eepromWriteRs485Add := s.writeByte .rs485Add rs485Addr (s.saved .rs485Add)

def eepromReadRs485BaudRate := s.readWord rs485Br
def saveRs485Baud (v : UInt32) := s.save .rs485Baud v
def eepromWriteRs485BaudRate := s.writeWord .rs485Baud rs485Br (s.saved .rs485Baud)

def eepromReadKp1 := s.readFloat gainKp1
def saveKp1Gain (v : FloatChars) := s.save .kp1 v
def eepromWriteKp1 := s.writeFloat .kp1 gainKp1 (s.saved .kp1)

def eepromReadKi1 := s.readFloat gainKi1
def saveKi1Gain (v : FloatChars) := s.save .ki1 v
def eepromWriteKi1 := s.writeFloat .ki1 gainKi1 (s.saved .ki1)

def eepromReadKd1 := s.readFloat gainKd1
def saveKd1Gain (v : FloatChars) := s.save .kd1 v
def eepromWriteKd1 := s.writeFloat .kd1 gainKd1 (s.saved .kd1)

def eepromReadKp2 := s.readFloat gainKp2
def saveKp2Gain (v : FloatChars) := s.save .kp2 v
def eepromWriteKp2 := s.writeFloat .kp2 gainKp2 (s.saved .kp2)

def eepromReadKi2 := s.readFloat gainKi2
def saveKi2Gain (v : FloatChars) := s.save .ki2 v
def eepromWriteKi2 := s.writeFloat .ki2 gainKi2 (s.saved .ki2)

def eepromReadKd2 := s.readFloat gainKd2
def saveKd2Gain (v : FloatChars) := s.save .kd2 v
def eepromWriteKd2 := s.writeFloat .kd2 gainKd2 (s.saved .kd2)

def eepromReadKp3 := s.readFloat gainKp3
def saveKp3Gain (v : FloatChars) := s.save .kp3 v
def eepromWriteKp3 := s.writeFloat .kp3 gainKp3 (s.saved .kp3)

def eepromReadKi3 := s.readFloat gainKi3
def saveKi3Gain (v : FloatChars) := s.save .ki3 v
def eepromWriteKi3 := s.writeFloat .ki3 gainKi3 (s.saved .ki3)

def eepromReadKd3 := s.readFloat gainKd3
def saveKd3Gain (v : FloatChars) := s.save .kd3 v
def eepromWriteKd3 := s.writeFloat .kd3 gainKd3 (s.saved .kd3)

def eepromReadKp4 := s.readFloat gainKp4
def saveKp4Gain (v : FloatChars) := s.save .kp4 v
def eepromWriteKp4 := s.writeFloat .kp4 gainKp4 (s.saved .kp4)

def eepromReadKi4 := s.readFloat gainKi4
def saveKi4Gain (v : FloatChars) := s.save .ki4 v
def eepromWriteKi4 := s.writeFloat .ki4 gainKi4 (s.saved .ki4)

def eepromReadKd4 := s.readFloat gainKd4
def saveKd4Gain (v : FloatChars) := s.save .kd4 v
def eepromWriteKd4 := s.writeFloat .kd4 gainKd4 (s.saved .kd4)

def eepromReadPSModel := s.readByte psmodelAddr
def savePsModel (v : UInt8) := s.save .psModel v
def eepromWritePSModel := s.writeByte .psModel psmodelAddr (s.saved .psModel)

/-- The low byte of the address is that of `RS485_ADDR`. -/
def eepromReadEndMemory : UInt8 × Eeprom :=
  let address := [(endMemory >>> 8).toUInt8, rs485Addr.toUInt8]
  let s := { s with dataEeprom := store s.dataEeprom 0 address }.readI2C 0x02
  (s.dataEeprom 0, s)

def eepromWriteEndMemory (dataEndMemory : UInt8) : Eeprom := s.writeAt endMemory 0x03 [dataEndMemory]

def eepromWriteRequestCheck : Eeprom :=
  let s := s.eepromWriteSerialNumber
  let s := s.eepromWriteIP.eepromWriteIPMask
  let s := s.eepromWriteRs485Add.eepromWriteRs485BaudRate
  let s := s.eepromWriteKp1.eepromWriteKi1.eepromWriteKd1
  let s := s.eepromWriteKp2.eepromWriteKi2.eepromWriteKd2
  let s := s.eepromWriteKp3.eepromWriteKi3.eepromWriteKd3
  let s := s.eepromWriteKp4.eepromWriteKi4.eepromWriteKd4
  s.eepromWritePSModel

end Eeprom

/-! ## By parameter -/

namespace Param

/-- What the `Save..` function of a parameter is called with. -/
abbrev Arg : Param → Type
  | rs485Add => UInt32
  | p => p.Value

/-- The value a call saves. -/
def ofArg : (p : Param) → p.Arg → p.Value
  | serialNumber, v => v
  | ip, v => v
  | ipMask, v => v
  | rs485Add, v => v.toUInt8
  | rs485Baud, v => v
  | kp1, v => v
  | ki1, v => v
  | kd1, v => v
  | kp2, v => v
  | ki2, v => v
  | kd2, v => v
  | kp3, v => v
  | ki3, v => v
  | kd3, v => v
  | kp4, v => v
  | ki4, v => v
  | kd4, v => v
  | psModel, v => v

/-- The `Save..` function. -/
def save : (p : Param) → p.Arg → Eeprom → Eeprom
  | serialNumber, v, s => s.saveSerialNumber v
  | ip, v, s => s.saveIpAddress v
  | ipMask, v, s => s.saveIpMask v
  | rs485Add, v, s => s.saveRs485Add v
  | rs485Baud, v, s => s.saveRs485Baud v
  | kp1, v, s => s.saveKp1Gain v
  | ki1, v, s => s.saveKi1Gain v
  | kd1, v, s => s.saveKd1Gain v
  | kp2, v, s => s.saveKp2Gain v
  | ki2, v, s => s.saveKi2Gain v
  | kd2, v, s => s.saveKd2Gain v
  | kp3, v, s => s.saveKp3Gain v
  | ki3, v, s => s.saveKi3Gain v
  | kd3, v, s => s.saveKd3Gain v
  | kp4, v, s => s.saveKp4Gain v
  | ki4, v, s => s.saveKi4Gain v
  | kd4, v, s => s.saveKd4Gain v
  | psModel, v, s => s.savePsModel v

/-- The `EepromRead..` function. -/
def read : (p : Param) → Eeprom → p.Value × Eeprom
  | serialNumber, s => (s.eepromReadSerialNumber.boardSerialNumber, s.eepromReadSerialNumber)
  | ip, s => s.eepromReadIP
  | ipMask, s => s.eepromReadIPMask
  | rs485Add, s => s.eepromReadRs485Add
  | rs485Baud, s => s.eepromReadRs485BaudRate
  | kp1, s => s.eepromReadKp1
  | ki1, s => s.eepromReadKi1
  | kd1, s => s.eepromReadKd1
  | kp2, s => s.eepromReadKp2
  | ki2, s => s.eepromReadKi2
  | kd2, s => s.eepromReadKd2
  | kp3, s => s.eepromReadKp3
  | ki3, s => s.eepromReadKi3
  | kd3, s => s.eepromReadKd3
  | kp4, s => s.eepromReadKp4
  | ki4, s => s.eepromReadKi4
  | kd4, s => s.eepromReadKd4
  | psModel, s => s.eepromReadPSModel

/-- The `EepromWrite..` function. -/
def write : Param → Eeprom → Eeprom
  | serialNumber, s => s.eepromWriteSerialNumber
  | ip, s => s.eepromWriteIP
  | ipMask, s => s.eepromWriteIPMask
  | rs485Add, s => s.eepromWriteRs485Add
  | rs485Baud, s => s.eepromWriteRs485BaudRate
  | kp1, s => s.eepromWriteKp1
  | ki1, s => s.eepromWriteKi1
  | kd1, s => s.eepromWriteKd1
  | kp2, s => s.eepromWriteKp2
  | ki2, s => s.eepromWriteKi2
  | kd2, s => s.eepromWriteKd2
  | kp3, s => s.eepromWriteKp3
  | ki3, s => s.eepromWriteKi3
  | kd3, s => s.eepromWriteKd3
  | kp4, s => s.eepromWriteKp4
  | ki4, s => s.eepromWriteKi4
  | kd4, s => s.eepromWriteKd4
  | psModel, s => s.eepromWritePSModel

end Param

theorem Eeprom.eepromWriteRequestCheck_eq (s : Eeprom) :
    s.eepromWriteRequestCheck = Param.all.foldl (fun s p => p.write s) s := by
  simp only [eepromWriteRequestCheck, Param.all, List.foldl, Param.write]

end UdcFirmware.Drivers
