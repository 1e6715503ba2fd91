/-
The operations of the client, the rest of `client.c`.

Each of the thirteen that send one command checks its arguments and makes the
payload of a request (`Prepared`), sends it, and hands the response on
(`operate`). Reading and writing a curve are loops over two of them.

`Operation` is any of the thirteen with its arguments, and `ClientCall` any
call of the client library.
-/
import UdcFirmware.Bsmp.Client

namespace UdcFirmware.Bsmp

open Checked Stateful

/-! ## Requests -/

/-- The payload of a request, or the error that is returned without sending one. -/
abbrev Prepared := Except Fault (Except BsmpErr (List UInt8))

def reject (err : BsmpErr) : Prepared := .ok (.error err)

/-- A payload in the buffer of the request. -/
def packed (payload : List UInt8) : Prepared :=
  if payload.length ≤ bsmpMaxPayload then .ok (.ok payload) else .error .buffer

/-- `memcpy` of `n` bytes out of a buffer of the caller. -/
def fetch (buf : List UInt8) (n : Nat) : Except Fault (List UInt8) :=
  if n ≤ buf.length then .ok (buf.take n) else .error .buffer

/-- A buffer of the caller after a `memcpy` into it. -/
def deliver (buf bytes : List UInt8) : Except Fault (List UInt8) :=
  if bytes.length ≤ buf.length then .ok (bytes ++ buf.drop bytes.length) else .error .buffer

namespace Client

variable (c : Client)

/-- The entry behind a pointer that is not null and that the list contains. -/
def var? (var : Option Nat) : Option VarInfo := var.bind (c.vars[·]?)
def group? (grp : Option Nat) : Option ClientGroup := grp.bind (c.groups[·]?)
def curve? (curve : Option Nat) : Option CurveInfo := curve.bind (c.curves[·]?)
def func? (func : Option Nat) : Option FuncInfo := func.bind (c.funcs[·]?)

end Client

/-- `bin_op_code`. -/
def binOpCode : List UInt8 := [0x41, 0x4F, 0x58, 0x53, 0x43, 0x54]

section Requests

variable (c : Client)

def readVarRequest (var : Option Nat) (value : Option (List UInt8)) : Prepared :=
  match c.var? var, value with
  | some var, some _ => packed [var.id]
  | _, _ => reject .paramInvalid

def writeVarRequest (var : Option Nat) (value : Option (List UInt8)) : Prepared :=
  match c.var? var, value with
  | some var, some value =>
    if !var.writable then reject .paramInvalid
    else do
      let data ← fetch value var.size.toNat
      packed (var.id :: data)
  | _, _ => reject .paramInvalid

def writeReadVarsRequest (writeVar : Option Nat) (writeValue : Option (List UInt8)) (readVar : Option Nat)
    (readValue : Option (List UInt8)) : Prepared :=
  match c.var? writeVar, writeValue, c.var? readVar, readValue with
  | some writeVar, some writeValue, some readVar, some _ =>
    if !writeVar.writable then reject .paramInvalid
    else do
      let data ← fetch writeValue writeVar.size.toNat
      packed (writeVar.id :: readVar.id :: data)
  | _, _, _, _ => reject .paramInvalid

def readGroupRequest (grp : Option Nat) (values : Option (List UInt8)) : Prepared :=
  match c.group? grp, values with
  | some grp, some _ => packed [grp.id]
  | _, _ => reject .paramInvalid

def writeGroupRequest (grp : Option Nat) (values : Option (List UInt8)) : Prepared :=
  match c.group? grp, values with
  | some grp, some values =>
    if !grp.writable then reject .paramInvalid
    else do
      let data ← fetch values grp.size.toNat
      packed (grp.id :: data)
  | _, _ => reject .paramInvalid

def binOpVarRequest (op : Nat) (var : Option Nat) (mask : Option (List UInt8)) : Prepared :=
  match c.var? var, mask with
  | some var, some mask =>
    if !var.writable then reject .paramInvalid
    else
      match binOpCode[op]? with
      | none => reject .paramOutOfRange
      | some code => do
        let data ← fetch mask var.size.toNat
        packed (var.id :: code :: data)
  | _, _ => reject .paramInvalid

def binOpGroupRequest (op : Nat) (grp : Option Nat) (mask : Option (List UInt8)) : Prepared :=
  match c.group? grp, mask with
  | some grp, some mask =>
    if !grp.writable then reject .paramInvalid
    else
      match binOpCode[op]? with
      | none => reject .paramOutOfRange
      | some code => do
        let data ← fetch mask grp.size.toNat
        packed (grp.id :: code :: data)
  | _, _ => reject .paramInvalid

/-- The loop of `bsmp_create_group`, after the ids in `payload`. -/
def createGroupLoop : List Nat → List UInt8 → Prepared
  | [], payload => if payload = [] then reject .paramInvalid else .ok (.ok payload)
  | var :: list, payload =>
    match c.var? (some var) with
    | none => reject .paramInvalid
    | some var =>
      if payload.length < bsmpMaxPayload then createGroupLoop list (payload ++ [var.id]) else .error .buffer

def createGroupRequest (list : Option (List Nat)) : Prepared :=
  match list with
  | none => reject .paramInvalid
  | some list => createGroupLoop c list []

def requestCurveBlockRequest (curve : Option Nat) (offset : UInt16) (data : Option (List UInt8))
    (len : Option UInt16) : Prepared :=
  match c.curve? curve, data, len with
  | some curve, some _, some _ =>
    if offset.toNat > curve.nblocks.toNat then reject .paramOutOfRange
    else packed (curve.id :: beBytes offset)
  | _, _, _ => reject .paramInvalid

def sendCurveBlockRequest (curve : Option Nat) (offset : UInt16) (data : Option (List UInt8))
    (len : UInt16) : Prepared :=
  match c.curve? curve, data with
  | some curve, some data =>
    if !curve.writable then reject .paramInvalid
    else if offset.toNat > curve.nblocks.toNat then reject .paramOutOfRange
    else if len > curve.blockSize then reject .paramOutOfRange
    else do
      let bytes ← fetch data len.toNat
      packed (curve.id :: beBytes offset ++ bytes)
  | _, _ => reject .paramInvalid

def recalcChecksumRequest (curve : Option Nat) : Prepared :=
  match c.curve? curve with
  | some curve => packed [curve.id]
  | none => reject .paramInvalid

def funcExecuteRequest (func : Option Nat) (error : Option UInt8) (input output : Option (List UInt8)) :
    Prepared :=
  match c.func? func, error with
  | some func, some _ =>
    if func.inputSize ≠ 0 ∧ input = none then reject .paramInvalid
    else if func.outputSize ≠ 0 ∧ output = none then reject .paramInvalid
    else do
      let data ← fetch (input.getD []) func.inputSize.toNat
      packed (func.id :: data)
  | _, _ => reject .paramInvalid

end Requests

/-! ## The operations -/

variable {τ : Type} (comm : Comm τ)

section Operate

variable {α : Type}

/-- Check and pack, send, and hand the response on. `out` is what the caller's
buffers hold before. -/
def operate (cmd : CommandCode) (prepare : Client → Prepared) (out : α)
    (finish : Client → Response → Except Fault (BsmpErr × α)) : Action τ (BsmpErr × α) := do
  let client := (← get).client
  match ← liftM (prepare client) with
  | .error err => return (err, out)
  | .ok payload =>
    let some response ← Session.command comm cmd payload | return (.comm, out)
    liftM (finish client response)

/-- The response has to be `answer`. -/
def accepting (answer : CommandCode) (out : α) (take : Response → Except Fault α) (response : Response) :
    Except Fault (BsmpErr × α) :=
  if response.code = answer.toByte then do
    let out ← take response
    return (.success, out)
  else .ok (.comm, out)

end Operate

/-- `memcpy(buf, response.payload, response.payload_size)`. -/
def takePayload (buf : List UInt8) (response : Response) : Except Fault (List UInt8) := do
  let bytes ← response.slice 0 response.payloadSize.toNat
  deliver buf bytes

def bsmpReadVar (var : Option Nat) (value : Option (List UInt8)) : Action τ (BsmpErr × List UInt8) :=
  operate comm .varRead (readVarRequest · var value) (value.getD []) fun _ =>
    accepting .varValue (value.getD []) (takePayload (value.getD []))

def bsmpWriteVar (var : Option Nat) (value : Option (List UInt8)) : Action τ (BsmpErr × Unit) :=
  operate comm .varWrite (writeVarRequest · var value) () fun _ => accepting .ok () fun _ => .ok ()

def bsmpWriteReadVars (writeVar : Option Nat) (writeValue : Option (List UInt8)) (readVar : Option Nat)
    (readValue : Option (List UInt8)) : Action τ (BsmpErr × List UInt8) :=
  operate comm .varWriteRead (writeReadVarsRequest · writeVar writeValue readVar readValue)
    (readValue.getD [])
    fun c => accepting .varValue (readValue.getD []) fun response => do
      let size := (c.var? readVar).elim 0 VarInfo.size
      let bytes ← response.slice 0 size.toNat
      deliver (readValue.getD []) bytes

def bsmpReadGroup (grp : Option Nat) (values : Option (List UInt8)) : Action τ (BsmpErr × List UInt8) :=
  operate comm .groupRead (readGroupRequest · grp values) (values.getD []) fun _ =>
    accepting .groupValues (values.getD []) (takePayload (values.getD []))

def bsmpWriteGroup (grp : Option Nat) (values : Option (List UInt8)) : Action τ (BsmpErr × Unit) :=
  operate comm .groupWrite (writeGroupRequest · grp values) () fun _ => accepting .ok () fun _ => .ok ()

def bsmpBinOpVar (op : Nat) (var : Option Nat) (mask : Option (List UInt8)) : Action τ (BsmpErr × Unit) :=
  operate comm .varBinOp (binOpVarRequest · op var mask) () fun _ => accepting .ok () fun _ => .ok ()

def bsmpBinOpGroup (op : Nat) (grp : Option Nat) (mask : Option (List UInt8)) : Action τ (BsmpErr × Unit) :=
  operate comm .groupBinOp (binOpGroupRequest · op grp mask) () fun _ => accepting .ok () fun _ => .ok ()

/-- An operation that changed the server is followed by an update of a list;
how that goes is not told. -/
def followedBy (act : Action τ (BsmpErr × Unit)) (update : Action τ BsmpErr) : Action τ (BsmpErr × Unit) := do
  let (err, _) ← act
  if err ≠ .success then return (err, ())
  let _ ← update
  return (.success, ())

def bsmpCreateGroup (list : Option (List Nat)) : Action τ (BsmpErr × Unit) :=
  followedBy (operate comm .groupCreate (createGroupRequest · list) ()
    fun _ => accepting .ok () fun _ => .ok ())
    (updateGroupsList comm)

def bsmpRemoveAllGroups : Action τ (BsmpErr × Unit) :=
  followedBy (operate comm .groupRemoveAll (fun _ => packed []) () fun _ => accepting .ok () fun _ => .ok ())
    (updateGroupsList comm)

/-- `*len = response.payload_size - BSMP_CURVE_BLOCK_INFO`, and `memcpy` of that many bytes. -/
def takeBlock (data : List UInt8) (response : Response) : Except Fault (List UInt8 × UInt16) := do
  let len := response.payloadSize - UInt16.ofNat bsmpCurveBlockInfo
  let bytes ← response.slice bsmpCurveBlockInfo len.toNat
  let data ← deliver data bytes
  return (data, len)

def bsmpRequestCurveBlock (curve : Option Nat) (offset : UInt16) (data : Option (List UInt8))
    (len : Option UInt16) : Action τ (BsmpErr × List UInt8 × UInt16) :=
  operate comm .curveBlockRequest (requestCurveBlockRequest · curve offset data len)
    (data.getD [], len.getD 0)
    fun _ => accepting .curveBlock (data.getD [], len.getD 0) (takeBlock (data.getD []))

/-- The loop of `bsmp_read_curve`, from block `blk` on: `bufp` is the position
in the buffer. Also the length read so far. -/
def readCurveLoop (curve : Nat) (info : CurveInfo) :
    Nat → UInt16 → Nat → List UInt8 → UInt32 → Action τ (BsmpErr × List UInt8 × UInt32)
  | 0, _, _, _, _ => throw .outOfFuel
  | fuel + 1, blk, bufp, buf, len => do
    if blk.toNat < info.nblocks.toNat then
      let (err, block, blklen) ← bsmpRequestCurveBlock comm (some curve) blk (some (buf.drop bufp)) (some 0)
      let buf := buf.take bufp ++ block
      if err ≠ .success then return (err, buf, 0)
      let len := len + blklen.toUInt32
      if blklen < info.blockSize then return (.success, buf, len)
      readCurveLoop curve info fuel (blk + 1) (bufp + info.blockSize.toNat) buf len
    else return (.success, buf, len)

def bsmpReadCurve (fuel : Nat) (curve : Option Nat) (buf : Option (List UInt8)) (len : Option UInt32) :
    Action τ (BsmpErr × List UInt8 × UInt32) := do
  let client := (← get).client
  match curve, client.curve? curve, buf, len with
  | some curve, some info, some buf, some _ => readCurveLoop comm curve info fuel 0 0 buf 0
  | _, _, _, _ => return (.paramInvalid, buf.getD [], len.getD 0)

def bsmpSendCurveBlock (curve : Option Nat) (offset : UInt16) (data : Option (List UInt8)) (len : UInt16) :
    Action τ (BsmpErr × Unit) :=
  operate comm .curveBlock (sendCurveBlockRequest · curve offset data len) () fun _ =>
    accepting .ok () fun _ => .ok ()

/-- `len < block_size ? len : block_size`. -/
def blockLength (len : UInt32) (blockSize : UInt16) : UInt16 :=
  if len < blockSize.toUInt32 then len.toUInt16 else blockSize

/-- The loop of `bsmp_write_curve`, from block `blk` on: `buf` is what the
buffer holds from `bufp` on, and `len` the length still to write. -/
def writeCurveLoop (curve : Nat) (info : CurveInfo) :
    Nat → UInt16 → List UInt8 → UInt32 → Action τ (BsmpErr × Unit)
  | 0, _, _, _ => throw .outOfFuel
  | fuel + 1, blk, buf, len => do
    if blk.toNat < info.nblocks.toNat then
      let blklen := blockLength len info.blockSize
      let (err, _) ← bsmpSendCurveBlock comm (some curve) blk (some buf) blklen
      if err ≠ .success then return (err, ())
      writeCurveLoop curve info fuel (blk + 1) (buf.drop blklen.toNat) (len - blklen.toUInt32)
    else return (.success, ())

def bsmpWriteCurve (fuel : Nat) (curve : Option Nat) (buf : Option (List UInt8)) (len : UInt32) :
    Action τ (BsmpErr × Unit) := do
  let client := (← get).client
  match curve, client.curve? curve, buf with
  | some curve, some info, some buf => writeCurveLoop comm curve info fuel 0 buf len
  | _, _, _ => return (.paramInvalid, ())

def bsmpRecalcChecksum (curve : Option Nat) : Action τ (BsmpErr × Unit) :=
  followedBy (operate comm .curveRecalcCsum (recalcChecksumRequest · curve) () fun _ =>
    accepting .ok () fun _ => .ok ()) (updateCurvesList comm)

/-- Returns what `error` points to, and the output buffer. -/
def bsmpFuncExecute (func : Option Nat) (error : Option UInt8) (input output : Option (List UInt8)) :
    Action τ (BsmpErr × UInt8 × List UInt8) :=
  operate comm .funcExecute (funcExecuteRequest · func error input output) (error.getD 0, output.getD [])
    fun c response => do
      if response.code = CommandCode.funcReturn.toByte then
        let size := (c.func? func).elim 0 FuncInfo.outputSize
        let bytes ← response.slice 0 size.toNat
        let output ← deliver (output.getD []) bytes
        return (.success, 0, output)
      else if response.code = CommandCode.funcError.toByte then
        return (.success, response.payload 0, output.getD [])
      else return (.comm, error.getD 0, output.getD [])

/-! ## Calls -/

/-- An operation that sends one command, with its arguments. -/
inductive Operation
  | readVar (var : Option Nat) (value : Option (List UInt8))
  | writeVar (var : Option Nat) (value : Option (List UInt8))
  | writeReadVars (writeVar : Option Nat) (writeValue : Option (List UInt8)) (readVar : Option Nat)
      (readValue : Option (List UInt8))
  | readGroup (grp : Option Nat) (values : Option (List UInt8))
  | writeGroup (grp : Option Nat) (values : Option (List UInt8))
  | binOpVar (op : Nat) (var : Option Nat) (mask : Option (List UInt8))
  | binOpGroup (op : Nat) (grp : Option Nat) (mask : Option (List UInt8))
  | createGroup (list : Option (List Nat))
  | removeAllGroups
  | requestCurveBlock (curve : Option Nat) (offset : UInt16) (data : Option (List UInt8))
    (len : Option UInt16)
  | sendCurveBlock (curve : Option Nat) (offset : UInt16) (data : Option (List UInt8)) (len : UInt16)
  | recalcChecksum (curve : Option Nat)
  | funcExecute (func : Option Nat) (error : Option UInt8) (input output : Option (List UInt8))
  deriving DecidableEq

namespace Operation

def cmd : Operation → CommandCode
  | readVar .. => .varRead
  | writeVar .. => .varWrite
  | writeReadVars .. => .varWriteRead
  | readGroup .. => .groupRead
  | writeGroup .. => .groupWrite
  | binOpVar .. => .varBinOp
  | binOpGroup .. => .groupBinOp
  | createGroup .. => .groupCreate
  | removeAllGroups => .groupRemoveAll
  | requestCurveBlock .. => .curveBlockRequest
  | sendCurveBlock .. => .curveBlock
  | recalcChecksum .. => .curveRecalcCsum
  | funcExecute .. => .funcExecute

/-- The request an operation makes. -/
def prepare : Operation → Client → Prepared
  | readVar var value, c => readVarRequest c var value
  | writeVar var value, c => writeVarRequest c var value
  | writeReadVars wrVar wrValue rdVar rdValue, c => writeReadVarsRequest c wrVar wrValue rdVar rdValue
  | readGroup grp values, c => readGroupRequest c grp values
  | writeGroup grp values, c => writeGroupRequest c grp values
  | binOpVar op var mask, c => binOpVarRequest c op var mask
  | binOpGroup op grp mask, c => binOpGroupRequest c op grp mask
  | createGroup list, c => createGroupRequest c list
  | removeAllGroups, _ => packed []
  | requestCurveBlock curve offset data len, c => requestCurveBlockRequest c curve offset data len
  | sendCurveBlock curve offset data len, c => sendCurveBlockRequest c curve offset data len
  | recalcChecksum curve, c => recalcChecksumRequest c curve
  | funcExecute func error input output, c => funcExecuteRequest c func error input output

/-- The operation, with the error code it returns. -/
def run : Operation → Action τ BsmpErr
  | readVar var value => Prod.fst <$> bsmpReadVar comm var value
  | writeVar var value => Prod.fst <$> bsmpWriteVar comm var value
  | writeReadVars wrVar wrValue rdVar rdValue =>
    Prod.fst <$> bsmpWriteReadVars comm wrVar wrValue rdVar rdValue
  | readGroup grp values => Prod.fst <$> bsmpReadGroup comm grp values
  | writeGroup grp values => Prod.fst <$> bsmpWriteGroup comm grp values
  | binOpVar op var mask => Prod.fst <$> bsmpBinOpVar comm op var mask
  | binOpGroup op grp mask => Prod.fst <$> bsmpBinOpGroup comm op grp mask
  | createGroup list => Prod.fst <$> bsmpCreateGroup comm list
  | removeAllGroups => Prod.fst <$> bsmpRemoveAllGroups comm
  | requestCurveBlock curve offset data len => Prod.fst <$> bsmpRequestCurveBlock comm curve offset data len
  | sendCurveBlock curve offset data len => Prod.fst <$> bsmpSendCurveBlock comm curve offset data len
  | recalcChecksum curve => Prod.fst <$> bsmpRecalcChecksum comm curve
  | funcExecute func error input output => Prod.fst <$> bsmpFuncExecute comm func error input output

end Operation

/-- A call of the client library. -/
inductive ClientCall
  | init
  | operation (op : Operation)
  | readCurve (curve : Option Nat) (buf : Option (List UInt8)) (len : Option UInt32)
  | writeCurve (curve : Option Nat) (buf : Option (List UInt8)) (len : UInt32)
  deriving DecidableEq

/-- The call, with the error code it returns. `fuel` bounds the loops of the
two curve calls. -/
def ClientCall.run (fuel : Nat) : ClientCall → Action τ BsmpErr
  | init => bsmpClientInit comm
  | operation op => op.run comm
  | readCurve curve buf len => Prod.fst <$> bsmpReadCurve comm fuel curve buf len
  | writeCurve curve buf len => Prod.fst <$> bsmpWriteCurve comm fuel curve buf len

end UdcFirmware.Bsmp
