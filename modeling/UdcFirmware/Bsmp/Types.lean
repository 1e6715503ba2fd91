/-
The data of BSMP, as `bsmp.h`, `bsmp_priv.h`, `server.h` and `server_priv.h`
declare it: limits, codes, the registered objects, the server instance and
the messages.

A registered object is a C structure that the application owns and the
server points to. So the lists of the server hold pointers (`Ptr`), and a
system (`System`) is the server together with the structures behind the
pointers, the memory that the variables' `data` point into, and the
application's own state `σ`. Application callbacks are functions of the
`World` (memory and application state) and may change it. `System.trace`
records the callbacks in the order they are called; no code reads it.
-/
import UdcFirmware.Lib.Checked
import UdcFirmware.Lib.ByteMem
import Mathlib.Data.UInt

namespace UdcFirmware.Bsmp

open ByteMem

/-! ## Limits -/

@[simp] abbrev bsmpHeaderSize : Nat := 3
@[simp] abbrev bsmpMaxPayload : Nat := 65535
@[simp] abbrev bsmpMaxMessage : Nat := bsmpHeaderSize + bsmpMaxPayload
@[simp] abbrev bsmpMaxVariables : Nat := 128
@[simp] abbrev bsmpMaxGroups : Nat := 8
@[simp] abbrev bsmpMaxCurves : Nat := 128
@[simp] abbrev bsmpMaxFunctions : Nat := 128
@[simp] abbrev bsmpVarMaxSize : Nat := 128
@[simp] abbrev bsmpCurveMaxBlocks : Nat := 65536
@[simp] abbrev bsmpCurveBlockMaxSize : Nat := 65520
@[simp] abbrev bsmpCurveListInfo : Nat := 5
@[simp] abbrev bsmpCurveBlockInfo : Nat := 3
@[simp] abbrev bsmpCurveCsumSize : Nat := 16
@[simp] abbrev bsmpFuncMaxInput : Nat := 15
@[simp] abbrev bsmpFuncMaxOutput : Nat := 15

@[simp] abbrev groupAllId : Nat := 0
@[simp] abbrev groupReadId : Nat := 1
@[simp] abbrev groupWriteId : Nat := 2
@[simp] abbrev groupStandardCount : Nat := 3

abbrev writableMask : UInt8 := 0x80
abbrev sizeMask : UInt8 := 0x7F

/-! Numerals are indices of the bytes of a CAN message and the bits of a byte, of the
panel's two switches, and of the entries of a modified list. -/

instance neZeroEight : NeZero 8 := ⟨by decide⟩

instance neZeroTwo : NeZero 2 := ⟨by decide⟩

instance (priority := high) neZeroModified : NeZero (bsmpMaxVariables + 1) := ⟨by decide⟩

/-! ## Codes -/

/-- `enum bsmp_err`. -/
inductive BsmpErr
  | success | paramInvalid | paramOutOfRange | outOfMemory | duplicate | comm | notInitialized
  deriving DecidableEq

/-- `enum command_code`. -/
inductive CommandCode
  | queryVersion | version | varQueryList | varList | groupQueryList | groupList | groupQuery | group
  | curveQueryList | curveList | curveQueryCsum | curveCsum | funcQueryList | funcList
  | varRead | varValue | groupRead | groupValues
  | varWrite | groupWrite | varBinOp | groupBinOp | varWriteRead
  | groupCreate | groupRemoveAll
  | curveBlockRequest | curveBlock | curveRecalcCsum
  | funcExecute | funcReturn | funcError
  | ok | errMalformedMessage | errOpNotSupported | errInvalidId | errInvalidValue
  | errInvalidPayloadSize | errReadOnly | errInsufficientMemory | errResourceBusy
  deriving DecidableEq

def CommandCode.toByte : CommandCode → UInt8
  | queryVersion => 0x00 | version => 0x01 | varQueryList => 0x02 | varList => 0x03
  | groupQueryList => 0x04 | groupList => 0x05 | groupQuery => 0x06 | group => 0x07
  | curveQueryList => 0x08 | curveList => 0x09 | curveQueryCsum => 0x0A | curveCsum => 0x0B
  | funcQueryList => 0x0C | funcList => 0x0D
  | varRead => 0x10 | varValue => 0x11 | groupRead => 0x12 | groupValues => 0x13
  | varWrite => 0x20 | groupWrite => 0x22 | varBinOp => 0x24 | groupBinOp => 0x26
  | varWriteRead => 0x28
  | groupCreate => 0x30 | groupRemoveAll => 0x32
  | curveBlockRequest => 0x40 | curveBlock => 0x41 | curveRecalcCsum => 0x42
  | funcExecute => 0x50 | funcReturn => 0x51 | funcError => 0x53
  | ok => 0xE0 | errMalformedMessage => 0xE1 | errOpNotSupported => 0xE2 | errInvalidId => 0xE3
  | errInvalidValue => 0xE4 | errInvalidPayloadSize => 0xE5 | errReadOnly => 0xE6
  | errInsufficientMemory => 0xE7 | errResourceBusy => 0xE8

def CommandCode.ofByte? (b : UInt8) : Option CommandCode :=
  match b with
  | 0x00 => some queryVersion | 0x01 => some version | 0x02 => some varQueryList
  | 0x03 => some varList | 0x04 => some groupQueryList | 0x05 => some groupList
  | 0x06 => some groupQuery | 0x07 => some group | 0x08 => some curveQueryList
  | 0x09 => some curveList | 0x0A => some curveQueryCsum | 0x0B => some curveCsum
  | 0x0C => some funcQueryList | 0x0D => some funcList
  | 0x10 => some varRead | 0x11 => some varValue | 0x12 => some groupRead | 0x13 => some groupValues
  | 0x20 => some varWrite | 0x22 => some groupWrite | 0x24 => some varBinOp
  | 0x26 => some groupBinOp | 0x28 => some varWriteRead
  | 0x30 => some groupCreate | 0x32 => some groupRemoveAll
  | 0x40 => some curveBlockRequest | 0x41 => some curveBlock | 0x42 => some curveRecalcCsum
  | 0x50 => some funcExecute | 0x51 => some funcReturn | 0x53 => some funcError
  | 0xE0 => some ok | 0xE1 => some errMalformedMessage | 0xE2 => some errOpNotSupported
  | 0xE3 => some errInvalidId | 0xE4 => some errInvalidValue | 0xE5 => some errInvalidPayloadSize
  | 0xE6 => some errReadOnly | 0xE7 => some errInsufficientMemory | 0xE8 => some errResourceBusy
  | _ => none

@[simp] theorem CommandCode.ofByte?_toByte (c : CommandCode) : ofByte? c.toByte = some c := by
  cases c <;> rfl

theorem CommandCode.toByte_inj {c d : CommandCode} (h : c.toByte = d.toByte) : c = d := by
  simpa using congrArg ofByte? h

/-- An error code: `CMD_ERR_MALFORMED_MESSAGE` up to `CMD_ERR_RESOURCE_BUSY`. -/
def isErrorByte (b : UInt8) : Bool := 0xE1 ≤ b && b ≤ 0xE8

def CommandCode.isError (c : CommandCode) : Bool := isErrorByte c.toByte

/-! ## Registered objects -/

/-- The address of a structure of the application. -/
abbrev Ptr := Nat

/-- What a callback can see and change. -/
structure World (σ : Type) where
  mem : Mem UInt8
  app : σ

structure VarInfo where
  id : UInt8
  writable : Bool
  size : UInt8
  deriving DecidableEq

structure Var (σ : Type) where
  info : VarInfo
  /-- The checker reads the candidate value, and may read anything else. -/
  valueOk : Option (World σ → List UInt8 → Bool)
  data : Option Nat

abbrev Checksum := Vector UInt8 bsmpCurveCsumSize

structure CurveInfo where
  id : UInt8
  writable : Bool
  nblocks : UInt32
  blockSize : UInt16
  checksum : Checksum
  deriving DecidableEq

structure Curve (σ : Type) where
  info : CurveInfo
  /-- Success, and the bytes put at `data` (their number is `*len`). -/
  readBlock : Option (UInt16 → World σ → Bool × List UInt8 × World σ)
  writeBlock : Option (UInt16 → List UInt8 → World σ → Bool × World σ)

structure FuncInfo where
  id : UInt8
  inputSize : UInt8
  outputSize : UInt8
  deriving DecidableEq

structure Func (σ : Type) where
  info : FuncInfo
  /-- The returned value, and the bytes put at `output`. -/
  funcP : Option (List UInt8 → World σ → UInt8 × List UInt8 × World σ)

/-- The structures behind the pointers. -/
structure Objects (σ : Type) where
  var : Ptr → Var σ
  curve : Ptr → Curve σ
  func : Ptr → Func σ

/-! ## The server instance -/

structure Group where
  id : UInt8
  writable : Bool
  size : UInt16
  vars : List Ptr
  deriving DecidableEq

/-- `count` groups exist; the slots after them keep whatever was left there. -/
structure GroupList where
  count : Nat
  list : Fin bsmpMaxGroups → Group

/-- `enum bsmp_operation`. -/
inductive BsmpOperation
  | read | write
  deriving DecidableEq

/-- The array handed to the hook, a null pointer ending the list. -/
abbrev ModifiedList := Fin (bsmpMaxVariables + 1) → Option Ptr

abbrev Hook (σ : Type) := BsmpOperation → ModifiedList → World σ → Bool × ModifiedList × World σ

abbrev CustomMd5 (σ : Type) := Ptr → Checksum → World σ → Bool × Checksum × World σ

structure Server (σ : Type) where
  vars : List Ptr
  groups : GroupList
  curves : List Ptr
  funcs : List Ptr
  modifiedList : ModifiedList
  hook : Option (Hook σ)
  customMd5 : Option (CustomMd5 σ)

/-- A callback as it was called. -/
inductive Call (σ : Type)
  | hook (op : BsmpOperation) (list : ModifiedList) (world : World σ)
  | readBlock (curve : Ptr) (block : UInt16)
  | writeBlock (curve : Ptr) (block : UInt16) (data : List UInt8)
  | customMd5 (curve : Ptr)
  | func (func : Ptr) (input : List UInt8)

structure System (σ : Type) where
  server : Server σ
  objs : Objects σ
  world : World σ
  trace : List (Call σ)

/-- The streaming hash of `md5.h`. -/
structure Md5 where
  Ctx : Type
  init : Ctx
  update : Ctx → List UInt8 → Ctx
  final : Ctx → Checksum

/-! ## Messages -/

/-- An access that C leaves undefined, by what it misses. -/
inductive Fault
  | serverList | payload | modifiedList | nullPointer | clientList | buffer
  /-- Not an access: the loop has not ended within the fuel it was given. -/
  | outOfFuel
  deriving DecidableEq

/-- `struct message`. `payload` holds the bytes the payload pointer reaches:
those received, or those produced for the answer. -/
structure Message where
  commandCode : UInt8
  payloadSize : UInt16
  payload : List UInt8
  deriving DecidableEq

/-- `struct bsmp_raw_packet` with its buffer. -/
structure RawPacket where
  data : List UInt8
  len : UInt16
  deriving DecidableEq

/-- A received packet: its buffer holds a header at least, and `len` bytes. -/
structure Request where
  packet : RawPacket
  header : bsmpHeaderSize ≤ packet.data.length
  held : packet.len.toNat ≤ packet.data.length

/-- A length as two bytes, the most significant first. -/
def beBytes (n : UInt16) : List UInt8 := [(n >>> 8).toUInt8, n.toUInt8]

/-- The length two such bytes stand for. -/
def ofBeBytes (hi lo : UInt8) : UInt16 := (hi.toUInt16 <<< 8) + lo.toUInt16

theorem ofBeBytes_toNat (hi lo : UInt8) : (ofBeBytes hi lo).toNat = hi.toNat * 256 + lo.toNat := by
  have h₁ := hi.toNat_lt
  have h₂ := lo.toNat_lt
  simp only [ofBeBytes, UInt16.toNat_add, UInt16.toNat_shiftLeft, UInt8.toNat_toUInt16, Nat.shiftLeft_eq,
    show UInt16.toNat 8 % 16 = 8 from rfl]
  omega

theorem ofBeBytes_beBytes (n : UInt16) : ofBeBytes (n >>> 8).toUInt8 n.toUInt8 = n := by
  have h := n.toNat_lt
  apply UInt16.toNat_inj.mp
  simp only [ofBeBytes_toNat, UInt16.toNat_toUInt8, UInt16.toNat_shiftRight, Nat.shiftRight_eq_div_pow,
    show UInt16.toNat 8 % 16 = 8 from rfl]
  omega

end UdcFirmware.Bsmp
