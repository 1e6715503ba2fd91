/-
The BSMP server: `server.c`, `server_priv.c` and the operations of `bsmp.c`.

Handlers keep the source's order of checks. An access the source makes
without a check of its own is checked here and stops at a `Fault`: an index
into a list of the server, into the payload of the request, into
`modified_list`, or a null pointer. An answer is built as the list of the
payload bytes the handler produced, next to the `payload_size` it computed.
-/
import UdcFirmware.Bsmp.Types

namespace UdcFirmware.Bsmp

open ByteMem Checked

variable {σ : Type}

/-! ## Checks of the entities -/

def varCheck : Option (Var σ) → BsmpErr
  | none => .paramInvalid
  | some var =>
    if var.info.size.toNat > bsmpVarMaxSize then .paramOutOfRange
    else if var.data.isNone then .paramInvalid
    else .success

def curveCheck : Option (Curve σ) → BsmpErr
  | none => .paramInvalid
  | some curve =>
    if curve.info.nblocks.toNat > bsmpCurveMaxBlocks then .paramInvalid
    else if curve.info.blockSize.toNat > bsmpCurveBlockMaxSize then .paramInvalid
    else if curve.readBlock.isNone then .paramInvalid
    else if curve.info.writable && curve.writeBlock.isNone then .paramInvalid
    else .success

def funcCheck : Option (Func σ) → BsmpErr
  | none => .paramInvalid
  | some func =>
    if func.funcP.isNone then .paramInvalid
    else if func.info.inputSize.toNat > bsmpFuncMaxInput then .paramOutOfRange
    else if func.info.outputSize.toNat > bsmpFuncMaxOutput then .paramOutOfRange
    else .success

/-! ## Variables and their memory -/

/-- The memory of a variable with data at `a`. -/
def VarInfo.region (info : VarInfo) (a : Nat) : Region := ⟨a, info.size.toNat⟩

/-- `memcpy` out of `var->data`. -/
def Var.load (var : Var σ) (m : Mem UInt8) : Except Fault (List UInt8) := do
  let a ← deref .nullPointer var.data
  return ByteMem.load m (var.info.region a)

/-- `memcpy` into `var->data`. -/
def Var.store (var : Var σ) (m : Mem UInt8) (value : List UInt8) : Except Fault (Mem UInt8) := do
  let a ← deref .nullPointer var.data
  return ByteMem.store m a value

/-- No checker, or the checker admits the value. -/
def Var.accepts (var : Var σ) (w : World σ) (value : List UInt8) : Bool :=
  match var.valueOk with
  | none => true
  | some valueOk => valueOk w value

/-- `bin_op`: the operation a code selects, byte by byte. -/
def binOp (operation : UInt8) : Option (UInt8 → UInt8 → UInt8) :=
  match operation with
  | 0x41 => some (· &&& ·)          -- 'A'
  | 0x58 => some (· ^^^ ·)          -- 'X'
  | 0x4F => some (· ||| ·)          -- 'O'
  | 0x43 => some (fun d m => d &&& ~~~ m)  -- 'C'
  | 0x53 => some (· ||| ·)          -- 'S'
  | 0x54 => some (· ^^^ ·)          -- 'T'
  | _ => none

/-- `bin_op[operation](var->data, mask, var->info.size)`. -/
def Var.applyBinOp (var : Var σ) (op : UInt8 → UInt8 → UInt8) (m : Mem UInt8) (mask : List UInt8) :
    Except Fault (Mem UInt8) := do
  let data ← var.load m
  var.store m (List.zipWith op data mask)

/-! ## Groups -/

def groupInit (id : UInt8) : Group := { id, writable := true, size := 0, vars := [] }

def groupAddVar (objs : Objects σ) (grp : Group) (var : Ptr) : Except Fault Group :=
  if grp.vars.length < bsmpMaxVariables then
    .ok { grp with
      vars := grp.vars ++ [var]
      size := grp.size + (objs.var var).info.size.toUInt16
      writable := grp.writable && (objs.var var).info.writable }
  else .error .serverList

/-- `server->groups.list[i]`. -/
def GroupList.at (groups : GroupList) (i : Nat) : Except Fault Group :=
  if h : i < bsmpMaxGroups then .ok (groups.list ⟨i, h⟩) else .error .serverList

def GroupList.set (groups : GroupList) (i : Nat) (grp : Group) : Except Fault GroupList :=
  if h : i < bsmpMaxGroups then .ok { groups with list := Function.update groups.list ⟨i, h⟩ grp }
  else .error .serverList

namespace System

/-- `server->vars.list[i]`. -/
def varAt (s : System σ) (i : Nat) : Except Fault Ptr := index .serverList s.server.vars i

/-- `server->vars.list[grp->vars.list[j]->id]`, for the member `q`. -/
def member (s : System σ) (q : Ptr) : Except Fault Ptr := s.varAt (s.objs.var q).info.id.toNat

end System

/-! ## Messages -/

/-- `MESSAGE_SET_ANSWER`. -/
def answer (code : CommandCode) : Message := ⟨code.toByte, 0, []⟩

/-- An answer with a payload. -/
def reply (code : CommandCode) (payloadSize : UInt16) (payload : List UInt8) : Message :=
  ⟨code.toByte, payloadSize, payload⟩

/-- `payload[i]` of a request. -/
def Message.byte (m : Message) (i : Nat) : Except Fault UInt8 := index .payload m.payload i

/-- The `n` bytes at `payload + i`. -/
def Message.slice (m : Message) (i n : Nat) : Except Fault (List UInt8) :=
  if i + n ≤ m.payload.length then .ok ((m.payload.drop i).take n) else .error .payload

/-! ## The hook -/

/-- `modified_list[i] = entries[0]`, `modified_list[i + 1] = entries[1]`, and so on. -/
def ModifiedList.write (list : ModifiedList) (i : Nat) : List (Option Ptr) → Except Fault ModifiedList
  | [] => .ok list
  | e :: entries =>
    if h : i < bsmpMaxVariables + 1 then write (Function.update list ⟨i, h⟩ e) (i + 1) entries
    else .error .modifiedList

/-- `if(server->hook)`: put the entries in `modified_list` and call the hook. -/
def System.callHook (s : System σ) (op : BsmpOperation) (entries : List (Option Ptr)) :
    Except Fault (System σ) :=
  match s.server.hook with
  | none => .ok s
  | some hook => do
    let list ← ModifiedList.write s.server.modifiedList 0 entries
    let (_, left, world) := hook op list s.world
    return { s with
      server.modifiedList := left
      world
      trace := s.trace ++ [.hook op list s.world] }

/-- `group_to_mod_list`, then the hook. -/
def System.callGroupHook (s : System σ) (op : BsmpOperation) (grp : Group) : Except Fault (System σ) :=
  match s.server.hook with
  | none => .ok s
  | some _ => do
    let vars ← grp.vars.mapM s.member
    s.callHook op (vars.map some ++ [none])

/-! ## Version -/

abbrev version : UInt8 := 2
abbrev subversion : UInt8 := 20
abbrev revision : UInt8 := 0

def queryVersion (s : System σ) (m : Message) : Except Fault (System σ × Message) := do
  if m.payloadSize.toNat ≠ 0 then return (s, answer .errInvalidPayloadSize)
  return (s, reply .version 3 [version, subversion, revision])

/-! ## Variables -/

/-- A variable in the answer to `CMD_VAR_QUERY_LIST`. -/
def VarInfo.listByte (info : VarInfo) : UInt8 :=
  (info.size &&& sizeMask) ||| (if info.writable then 0x80 else 0x00)

def varQueryList (s : System σ) (m : Message) : Except Fault (System σ × Message) := do
  if m.payloadSize.toNat ≠ 0 then return (s, answer .errInvalidPayloadSize)
  return (s, reply .varList (UInt16.ofNat s.server.vars.length)
    (s.server.vars.map fun p => (s.objs.var p).info.listByte))

def varRead (s : System σ) (m : Message) : Except Fault (System σ × Message) := do
  if m.payloadSize.toNat ≠ 1 then return (s, answer .errInvalidPayloadSize)
  let varId ← m.byte 0
  if varId.toNat ≥ s.server.vars.length then return (s, answer .errInvalidId)
  let p ← s.varAt varId.toNat
  let s ← s.callHook .read [some p, none]
  let value ← (s.objs.var p).load s.world.mem
  return (s, reply .varValue (s.objs.var p).info.size.toUInt16 value)

def varWrite (s : System σ) (m : Message) : Except Fault (System σ × Message) := do
  if m.payloadSize.toNat < 2 then return (s, answer .errInvalidPayloadSize)
  let varId ← m.byte 0
  if varId.toNat ≥ s.server.vars.length then return (s, answer .errInvalidId)
  let p ← s.varAt varId.toNat
  let var := s.objs.var p
  if m.payloadSize.toNat ≠ 1 + var.info.size.toNat then return (s, answer .errInvalidPayloadSize)
  if !var.info.writable then return (s, answer .errReadOnly)
  let value ← m.slice 1 var.info.size.toNat
  if !var.accepts s.world value then return (s, answer .errInvalidValue)
  let mem ← var.store s.world.mem value
  let s ← { s with world.mem := mem }.callHook .write [some p, none]
  return (s, answer .ok)

def varWriteRead (s : System σ) (m : Message) : Except Fault (System σ × Message) := do
  if m.payloadSize.toNat < 3 then return (s, answer .errInvalidPayloadSize)
  let varWrId ← m.byte 0
  let varRdId ← m.byte 1
  if varWrId.toNat ≥ s.server.vars.length ∨ varRdId.toNat ≥ s.server.vars.length then
    return (s, answer .errInvalidId)
  let pw ← s.varAt varWrId.toNat
  let pr ← s.varAt varRdId.toNat
  let varWr := s.objs.var pw
  if m.payloadSize.toNat ≠ 2 + varWr.info.size.toNat then return (s, answer .errInvalidPayloadSize)
  if !varWr.info.writable then return (s, answer .errReadOnly)
  let value ← m.slice 2 varWr.info.size.toNat
  if !varWr.accepts s.world value then return (s, answer .errInvalidValue)
  let mem ← varWr.store s.world.mem value
  let s ← { s with world.mem := mem }.callHook .write [some pw, none]
  -- The second call rewrites the first entry only.
  let s ← s.callHook .read [some pr]
  let read ← (s.objs.var pr).load s.world.mem
  return (s, reply .varValue (s.objs.var pr).info.size.toUInt16 read)

def varBinOp (s : System σ) (m : Message) : Except Fault (System σ × Message) := do
  if m.payloadSize.toNat < 3 then return (s, answer .errInvalidPayloadSize)
  let varId ← m.byte 0
  if varId.toNat ≥ s.server.vars.length then return (s, answer .errInvalidId)
  let p ← s.varAt varId.toNat
  let var := s.objs.var p
  let operation ← m.byte 1
  match binOp operation with
  | none => return (s, answer .errOpNotSupported)
  | some op =>
    if m.payloadSize.toNat ≠ 2 + var.info.size.toNat then return (s, answer .errInvalidPayloadSize)
    if !var.info.writable then return (s, answer .errReadOnly)
    let mask ← m.slice 2 var.info.size.toNat
    let mem ← var.applyBinOp op s.world.mem mask
    let s ← { s with world.mem := mem }.callHook .write [some p, none]
    return (s, answer .ok)

/-! ## Groups -/

/-- A group in the answer to `CMD_GROUP_QUERY_LIST`: the count is added to the flag. -/
def Group.listByte (grp : Group) : UInt8 :=
  (if grp.writable then 0x80 else 0x00) + UInt8.ofNat grp.vars.length

def groupQueryList (s : System σ) (m : Message) : Except Fault (System σ × Message) := do
  if m.payloadSize.toNat ≠ 0 then return (s, answer .errInvalidPayloadSize)
  let grps ← (List.range s.server.groups.count).mapM s.server.groups.at
  return (s, reply .groupList (UInt16.ofNat s.server.groups.count) (grps.map Group.listByte))

def groupQuery (s : System σ) (m : Message) : Except Fault (System σ × Message) := do
  if m.payloadSize.toNat ≠ 1 then return (s, answer .errInvalidPayloadSize)
  let groupId ← m.byte 0
  if groupId.toNat ≥ s.server.groups.count then return (s, answer .errInvalidId)
  let grp ← s.server.groups.at groupId.toNat
  return (s, reply .group (UInt16.ofNat grp.vars.length) (grp.vars.map fun q => (s.objs.var q).info.id))

/-- The loop of `group_read`. -/
def groupReadLoop (s : System σ) : List Ptr → Except Fault (List UInt8)
  | [] => .ok []
  | q :: qs => do
    let p ← s.member q
    let value ← (s.objs.var p).load s.world.mem
    let rest ← groupReadLoop s qs
    return value ++ rest

def groupRead (s : System σ) (m : Message) : Except Fault (System σ × Message) := do
  if m.payloadSize.toNat ≠ 1 then return (s, answer .errInvalidPayloadSize)
  let groupId ← m.byte 0
  if groupId.toNat ≥ s.server.groups.count then return (s, answer .errInvalidId)
  let grp ← s.server.groups.at groupId.toNat
  let s ← s.callGroupHook .read grp
  let values ← groupReadLoop s grp.vars
  return (s, reply .groupValues grp.size values)

/-- The loop of `group_write`: each member's slice is checked, then stored or
skipped. Returns the world, and whether a check failed. -/
def groupWriteLoop (s : System σ) (m : Message) :
    List Ptr → Nat → World σ → Bool → Except Fault (World σ × Bool)
  | [], _, w, checkFailed => .ok (w, checkFailed)
  | q :: qs, payloadp, w, checkFailed => do
    let p ← s.member q
    let var := s.objs.var p
    let value ← m.slice payloadp var.info.size.toNat
    if !var.accepts w value then groupWriteLoop s m qs (payloadp + var.info.size.toNat) w true
    else do
      let mem ← var.store w.mem value
      groupWriteLoop s m qs (payloadp + var.info.size.toNat) { w with mem } checkFailed

def groupWrite (s : System σ) (m : Message) : Except Fault (System σ × Message) := do
  if m.payloadSize.toNat < 2 then return (s, answer .errInvalidPayloadSize)
  let groupId ← m.byte 0
  if groupId.toNat ≥ s.server.groups.count then return (s, answer .errInvalidId)
  let grp ← s.server.groups.at groupId.toNat
  if m.payloadSize.toNat ≠ 1 + grp.size.toNat then return (s, answer .errInvalidPayloadSize)
  if !grp.writable then return (s, answer .errReadOnly)
  let (world, checkFailed) ← groupWriteLoop s m grp.vars 1 s.world false
  let s ← { s with world }.callGroupHook .write grp
  return (s, answer (if checkFailed then .errInvalidValue else .ok))

/-- The loop of `group_bin_op`. -/
def groupBinOpLoop (s : System σ) (m : Message) (op : UInt8 → UInt8 → UInt8) :
    List Ptr → Nat → Mem UInt8 → Except Fault (Mem UInt8)
  | [], _, mem => .ok mem
  | q :: qs, payloadp, mem => do
    let p ← s.member q
    let var := s.objs.var p
    let mask ← m.slice payloadp var.info.size.toNat
    let mem ← var.applyBinOp op mem mask
    groupBinOpLoop s m op qs (payloadp + var.info.size.toNat) mem

def groupBinOp (s : System σ) (m : Message) : Except Fault (System σ × Message) := do
  if m.payloadSize.toNat < 2 then return (s, answer .errInvalidPayloadSize)
  let groupId ← m.byte 0
  if groupId.toNat ≥ s.server.groups.count then return (s, answer .errInvalidId)
  let grp ← s.server.groups.at groupId.toNat
  let operation ← m.byte 1
  match binOp operation with
  | none => return (s, answer .errOpNotSupported)
  | some op =>
    if m.payloadSize.toNat ≠ 2 + grp.size.toNat then return (s, answer .errInvalidPayloadSize)
    if !grp.writable then return (s, answer .errReadOnly)
    let mem ← groupBinOpLoop s m op grp.vars 2 s.world.mem
    let s ← { s with world.mem := mem }.callGroupHook .write grp
    return (s, answer .ok)

/-- `i && var_id <= grp->vars.list[i-1]->id`. -/
def outOfOrder (s : System σ) (grp : Group) (i : Nat) (varId : UInt8) : Except Fault Bool :=
  if i = 0 then .ok false
  else do
    let q ← index .serverList grp.vars (i - 1)
    return varId ≤ (s.objs.var q).info.id

/-- The loop of `group_create`, `n` ids still to go from `i` on. Returns whether
every id was taken, and the group as the loop leaves it. -/
def groupCreateLoop (s : System σ) (m : Message) : Nat → Nat → Group → Except Fault (Bool × Group)
  | 0, _, grp => .ok (true, grp)
  | n + 1, i, grp => do
    let varId ← m.byte i
    if varId.toNat ≥ s.server.vars.length then return (false, grp)
    let low ← outOfOrder s grp i varId
    if low then return (false, grp)
    let p ← s.varAt varId.toNat
    let grp ← groupAddVar s.objs grp p
    groupCreateLoop s m n (i + 1) grp

def groupCreate (s : System σ) (m : Message) : Except Fault (System σ × Message) := do
  if m.payloadSize.toNat < 1 ∨ m.payloadSize.toNat > s.server.vars.length then
    return (s, answer .errInvalidPayloadSize)
  if s.server.groups.count = bsmpMaxGroups then return (s, answer .errInsufficientMemory)
  let (done, grp) ← groupCreateLoop s m m.payloadSize.toNat 0 (groupInit (UInt8.ofNat s.server.groups.count))
  -- The slot is populated in place, and stays half filled when the loop is left early.
  let groups ← s.server.groups.set s.server.groups.count grp
  if !done then return ({ s with server.groups := groups }, answer .errInvalidId)
  return ({ s with server.groups := { groups with count := groups.count + 1 } }, answer .ok)

def groupRemoveAll (s : System σ) (m : Message) : Except Fault (System σ × Message) := do
  if m.payloadSize.toNat ≠ 0 then return (s, answer .errInvalidPayloadSize)
  return ({ s with server.groups.count := groupStandardCount }, answer .ok)

/-! ## Curves -/

namespace System

/-- `server->curves.list[i]`. -/
def curveAt (s : System σ) (i : Nat) : Except Fault Ptr := index .serverList s.server.curves i

/-- `curve->read_block(curve, block, ..)`. -/
def callReadBlock (s : System σ) (p : Ptr) (block : UInt16) :
    Except Fault (Bool × List UInt8 × System σ) := do
  let readBlock ← deref .nullPointer (s.objs.curve p).readBlock
  let (ok, data, world) := readBlock block s.world
  return (ok, data, { s with world, trace := s.trace ++ [.readBlock p block] })

/-- `curve->write_block(curve, block, data, len)`. -/
def callWriteBlock (s : System σ) (p : Ptr) (block : UInt16) (data : List UInt8) :
    Except Fault (Bool × System σ) := do
  let writeBlock ← deref .nullPointer (s.objs.curve p).writeBlock
  let (ok, world) := writeBlock block data s.world
  return (ok, { s with world, trace := s.trace ++ [.writeBlock p block data] })

/-- Overwrite `curve->info.checksum`. -/
def setChecksum (s : System σ) (p : Ptr) (checksum : Checksum) : System σ :=
  let curve := s.objs.curve p
  { s with objs.curve := Function.update s.objs.curve p { curve with info.checksum := checksum } }

end System

/-- A curve in the answer to `CMD_CURVE_QUERY_LIST`. -/
def CurveInfo.listBytes (info : CurveInfo) : List UInt8 :=
  [if info.writable then 1 else 0, (info.blockSize >>> 8).toUInt8, info.blockSize.toUInt8,
    (info.nblocks >>> 8).toUInt8, info.nblocks.toUInt8]

def curveQueryList (s : System σ) (m : Message) : Except Fault (System σ × Message) := do
  if m.payloadSize.toNat ≠ 0 then return (s, answer .errInvalidPayloadSize)
  return (s, reply .curveList (UInt16.ofNat (s.server.curves.length * bsmpCurveListInfo))
    (s.server.curves.flatMap fun p => (s.objs.curve p).info.listBytes))

def curveQueryCsum (s : System σ) (m : Message) : Except Fault (System σ × Message) := do
  if m.payloadSize.toNat ≠ 1 then return (s, answer .errInvalidPayloadSize)
  let curveId ← m.byte 0
  if curveId.toNat ≥ s.server.curves.length then return (s, answer .errInvalidId)
  let p ← s.curveAt curveId.toNat
  return (s, reply .curveCsum (UInt16.ofNat bsmpCurveCsumSize) (s.objs.curve p).info.checksum.toList)

def curveBlockRequest (s : System σ) (m : Message) : Except Fault (System σ × Message) := do
  if m.payloadSize.toNat ≠ bsmpCurveBlockInfo then return (s, answer .errInvalidPayloadSize)
  let curveId ← m.byte 0
  if curveId.toNat ≥ s.server.curves.length then return (s, answer .errInvalidId)
  let p ← s.curveAt curveId.toNat
  let hi ← m.byte 1
  let lo ← m.byte 2
  let blockOffset := ofBeBytes hi lo
  if blockOffset.toNat ≥ (s.objs.curve p).info.nblocks.toNat then return (s, answer .errInvalidValue)
  let (ok, data, s) ← s.callReadBlock p blockOffset
  if !ok then return (s, answer .errResourceBusy)
  return (s, reply .curveBlock (UInt16.ofNat data.length + UInt16.ofNat bsmpCurveBlockInfo)
    (curveId :: hi :: lo :: data))

def curveBlock (s : System σ) (m : Message) : Except Fault (System σ × Message) := do
  if m.payloadSize.toNat < bsmpCurveBlockInfo + 1 then return (s, answer .errInvalidPayloadSize)
  let curveId ← m.byte 0
  if curveId.toNat ≥ s.server.curves.length then return (s, answer .errInvalidId)
  let p ← s.curveAt curveId.toNat
  let curve := s.objs.curve p
  if m.payloadSize.toNat > curve.info.blockSize.toNat + bsmpCurveBlockInfo then
    return (s, answer .errInvalidPayloadSize)
  let hi ← m.byte 1
  let lo ← m.byte 2
  let blockOffset := ofBeBytes hi lo
  if blockOffset.toNat ≥ curve.info.nblocks.toNat then return (s, answer .errInvalidValue)
  if !curve.info.writable then return (s, answer .errReadOnly)
  let data ← m.slice bsmpCurveBlockInfo (m.payloadSize.toNat - bsmpCurveBlockInfo)
  let (ok, s) ← s.callWriteBlock p blockOffset data
  if !ok then return (s, answer .errResourceBusy)
  return (s.setChecksum p (Vector.replicate _ 0), answer .ok)

/-- The block loop of `curve_recalc_csum`, `n` blocks still to go from `i` on.
No context when a read failed. -/
def curveCsumLoop (md5 : Md5) (p : Ptr) :
    Nat → Nat → md5.Ctx → System σ → Except Fault (Option md5.Ctx × System σ)
  | 0, _, ctx, s => .ok (some ctx, s)
  | n + 1, i, ctx, s => do
    let (ok, block, s) ← s.callReadBlock p (UInt16.ofNat i)
    if !ok then return (none, s)
    let ctx := md5.update ctx block
    -- The source compares with the number of blocks, not with the block size.
    if block.length < (s.objs.curve p).info.nblocks.toNat then return (some ctx, s)
    curveCsumLoop md5 p n (i + 1) ctx s

def curveRecalcCsum (md5 : Md5) (s : System σ) (m : Message) : Except Fault (System σ × Message) := do
  if m.payloadSize.toNat ≠ 1 then return (s, answer .errInvalidPayloadSize)
  let curveId ← m.byte 0
  if curveId.toNat ≥ s.server.curves.length then return (s, answer .errInvalidId)
  let p ← s.curveAt curveId.toNat
  match s.server.customMd5 with
  | some customMd5 =>
    let (ok, checksum, world) := customMd5 p (s.objs.curve p).info.checksum s.world
    let s : System σ := { s with world, trace := s.trace ++ [.customMd5 p] }
    let s := s.setChecksum p checksum
    if !ok then return (s, answer .errResourceBusy)
    return (s, reply .curveCsum (UInt16.ofNat bsmpCurveCsumSize) (s.objs.curve p).info.checksum.toList)
  | none =>
    let (ctx, s) ← curveCsumLoop md5 p (s.objs.curve p).info.nblocks.toNat 0 md5.init s
    match ctx with
    | none => return (s, answer .errResourceBusy)
    | some ctx =>
      let s := s.setChecksum p (md5.final ctx)
      return (s, reply .curveCsum (UInt16.ofNat bsmpCurveCsumSize) (s.objs.curve p).info.checksum.toList)

/-! ## Functions -/

/-- A function in the answer to `CMD_FUNC_QUERY_LIST`. -/
def FuncInfo.listByte (info : FuncInfo) : UInt8 := (info.inputSize <<< 4) ||| (info.outputSize &&& 0x0F)

def funcQueryList (s : System σ) (m : Message) : Except Fault (System σ × Message) := do
  if m.payloadSize.toNat ≠ 0 then return (s, answer .errInvalidPayloadSize)
  return (s, reply .funcList (UInt16.ofNat s.server.funcs.length)
    (s.server.funcs.map fun p => (s.objs.func p).info.listByte))

/-- `server->funcs.list[i]`. -/
def System.funcAt (s : System σ) (i : Nat) : Except Fault Ptr := index .serverList s.server.funcs i

/-- The first `n` bytes of the answer's payload area after a function put
`written` there: `area` is what the response buffer held before. -/
def outputArea (area : Nat → UInt8) (written : List UInt8) (n : Nat) : List UInt8 :=
  (written ++ ((List.range n).map area).drop written.length).take n

def funcExecute (area : Nat → UInt8) (s : System σ) (m : Message) : Except Fault (System σ × Message) := do
  if m.payloadSize.toNat = 0 then return (s, answer .errInvalidPayloadSize)
  let funcId ← m.byte 0
  if funcId.toNat ≥ s.server.funcs.length then return (s, answer .errInvalidId)
  let p ← s.funcAt funcId.toNat
  let func := s.objs.func p
  if m.payloadSize.toNat ≠ 1 + func.info.inputSize.toNat then return (s, answer .errInvalidPayloadSize)
  let input ← m.slice 1 func.info.inputSize.toNat
  let funcP ← deref .nullPointer func.funcP
  let (ret, written, world) := funcP input s.world
  let s := { s with world, trace := s.trace ++ [.func p input] }
  if ret ≠ 0 then return (s, reply .funcError 1 [ret])
  return (s, reply .funcReturn func.info.outputSize.toUInt16
    (outputArea area written func.info.outputSize.toNat))

/-! ## Packets -/

/-- `command`: the handler of a command code. -/
def command (md5 : Md5) (area : Nat → UInt8) (code : UInt8) :
    Option (System σ → Message → Except Fault (System σ × Message)) :=
  match CommandCode.ofByte? code with
  | some .queryVersion => some queryVersion
  | some .varQueryList => some varQueryList
  | some .varRead => some varRead
  | some .varWrite => some varWrite
  | some .varBinOp => some varBinOp
  | some .varWriteRead => some varWriteRead
  | some .groupQueryList => some groupQueryList
  | some .groupQuery => some groupQuery
  | some .groupRead => some groupRead
  | some .groupWrite => some groupWrite
  | some .groupBinOp => some groupBinOp
  | some .groupCreate => some groupCreate
  | some .groupRemoveAll => some groupRemoveAll
  | some .curveQueryList => some curveQueryList
  | some .curveQueryCsum => some curveQueryCsum
  | some .curveBlockRequest => some curveBlockRequest
  | some .curveBlock => some curveBlock
  | some .curveRecalcCsum => some (curveRecalcCsum md5)
  | some .funcQueryList => some funcQueryList
  | some .funcExecute => some (funcExecute area)
  | _ => none

/-- The message in a received packet. The header is read whatever `len` says. -/
def Request.message (req : Request) : Message :=
  let size := ofBeBytes (req.packet.data.getD 1 0) (req.packet.data.getD 2 0)
  { commandCode := req.packet.data.getD 0 0
    payloadSize := size
    payload := (req.packet.data.drop bsmpHeaderSize).take size.toNat }

/-- The answer as it is put in the response packet. -/
def Message.toPacket (m : Message) : RawPacket :=
  { data := m.commandCode :: beBytes m.payloadSize ++ m.payload
    len := m.payloadSize + UInt16.ofNat bsmpHeaderSize }

/-- `server->modified_list[0] = NULL`. -/
def System.clearModified (s : System σ) : System σ :=
  { s with server.modifiedList := Function.update s.server.modifiedList 0 none }

/-- The answer `bsmp_process_packet` makes to a request, `area` being the
response buffer's payload before. -/
def respond (md5 : Md5) (s : System σ) (req : Request) (area : Nat → UInt8) :
    Except Fault (System σ × Message) :=
  let recvMsg := req.message
  if req.packet.len.toNat < bsmpHeaderSize ∨
      req.packet.len.toNat ≠ recvMsg.payloadSize.toNat + bsmpHeaderSize then
    .ok (s.clearModified, answer .errMalformedMessage)
  else
    match command md5 area recvMsg.commandCode with
    | none => .ok (s.clearModified, answer .errOpNotSupported)
    | some handler => handler s.clearModified recvMsg

def bsmpProcessPacket (md5 : Md5) (s : System σ) (req : Request) (area : Nat → UInt8) :
    Except Fault (System σ × RawPacket) := do
  let (s, sendMsg) ← respond md5 s req area
  return (s, sendMsg.toPacket)

/-! ## The instance and its objects -/

/-- `bsmp_server_init` on an instance of an application with these structures. -/
def bsmpServerInit (objs : Objects σ) (world : World σ) : System σ where
  server :=
    { vars := []
      groups :=
        { count := groupStandardCount
          list := fun i =>
            if i.val < groupStandardCount then groupInit (UInt8.ofNat i.val)
            else { id := 0, writable := false, size := 0, vars := [] } }
      curves := []
      funcs := []
      modifiedList := fun _ => none
      hook := none
      customMd5 := none }
  objs
  world
  trace := []

/-- `SERVER_REGISTER(elem, max)`: the error, the list and the structures after it. -/
def serverRegister {α : Type} (check : Option α → BsmpErr) (max : Nat) (setId : α → UInt8 → α)
    (list : List Ptr) (objs : Ptr → α) (elem : Option Ptr) : BsmpErr × List Ptr × (Ptr → α) :=
  match elem with
  | none => (check none, list, objs)
  | some p =>
    if check (some (objs p)) ≠ .success then (check (some (objs p)), list, objs)
    else if list.length ≥ max then (.outOfMemory, list, objs)
    else if p ∈ list then (.duplicate, list, objs)
    else (.success, list ++ [p], Function.update objs p (setId (objs p) (UInt8.ofNat list.length)))

def Var.setId (v : Var σ) (id : UInt8) : Var σ := { v with info.id := id }
def Curve.setId (c : Curve σ) (id : UInt8) : Curve σ := { c with info.id := id }
def Func.setId (f : Func σ) (id : UInt8) : Func σ := { f with info.id := id }

/-- The rest of `bsmp_register_variable`: a new variable joins the group of
all variables, and the writable or the read-only ones. -/
def System.joinGroups (s : System σ) (p : Ptr) : Except Fault (System σ) := do
  let all ← s.server.groups.at groupAllId
  let all ← groupAddVar s.objs all p
  let groups ← s.server.groups.set groupAllId all
  let second := if (s.objs.var p).info.writable then groupWriteId else groupReadId
  let grp ← groups.at second
  let grp ← groupAddVar s.objs grp p
  let groups ← groups.set second grp
  return { s with server.groups := groups }

def bsmpRegisterVariable (s : System σ) (var : Option Ptr) : Except Fault (BsmpErr × System σ) := do
  let (err, vars, objs) := serverRegister varCheck bsmpMaxVariables Var.setId s.server.vars s.objs.var var
  let s := { s with server.vars := vars, objs.var := objs }
  if err ≠ .success then return (err, s)
  let p ← deref .nullPointer var
  let s ← s.joinGroups p
  return (.success, s)

def bsmpRegisterCurve (s : System σ) (curve : Option Ptr) : BsmpErr × System σ :=
  let (err, curves, objs) :=
    serverRegister curveCheck bsmpMaxCurves Curve.setId s.server.curves s.objs.curve curve
  (err, { s with server.curves := curves, objs.curve := objs })

def bsmpRegisterFunction (s : System σ) (func : Option Ptr) : BsmpErr × System σ :=
  let (err, funcs, objs) := serverRegister funcCheck bsmpMaxFunctions Func.setId s.server.funcs
    s.objs.func func
  (err, { s with server.funcs := funcs, objs.func := objs })

def bsmpRegisterHook (s : System σ) : Option (Hook σ) → BsmpErr × System σ
  | none => (.paramInvalid, s)
  | some hook => (.success, { s with server.hook := some hook })

def bsmpRegisterMd5 (s : System σ) : Option (CustomMd5 σ) → BsmpErr × System σ
  | none => (.paramInvalid, s)
  | some md5 => (.success, { s with server.customMd5 := some md5 })

end UdcFirmware.Bsmp
