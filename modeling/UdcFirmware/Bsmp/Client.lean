/-
The BSMP client: `client.c`.

A `Session` is a client structure and what lies behind its `send` and `recv`:
the state `τ` of the channel and of the peer. Functions of the client are
programs over it. As in `Server`, an access that the source makes without a
check of its own stops at a `Fault`: into a list of the client, into a message
buffer, into a buffer of the caller. `Session.log` records the responses that
`command` takes; no code reads it.

Parameters that point to an entry of a list of the client are its index: the
list contains it or not (`vars_list_contains` and its siblings). A null
pointer is `none`.
-/
import UdcFirmware.Lib.Stateful
import UdcFirmware.Bsmp.Types

namespace UdcFirmware.Bsmp

open Checked Stateful

/-! ## The client structure -/

structure Version where
  major : UInt8
  minor : UInt8
  revision : UInt8
  str : String
  deriving DecidableEq

/-- `vars.list` holds pointers into the list of variables: their indices.
`count` is told by the peer separately from them. -/
structure ClientGroup where
  id : UInt8
  writable : Bool
  size : UInt16
  count : Nat
  list : List Nat
  deriving DecidableEq

structure Client where
  serverVersion : Version
  vars : List VarInfo
  groups : List ClientGroup
  curves : List CurveInfo
  funcs : List FuncInfo
  deriving DecidableEq

/-! ## The channel -/

/-- What `recv` leaves: `size` bytes, in a buffer of `BSMP_MAX_MESSAGE`. Past
them `data` is what the buffer held before. -/
structure Received where
  data : Nat → UInt8
  size : Nat
  bound : size ≤ bsmpMaxMessage

/-- `send` reports success; `recv` yields nothing when it fails. `junk` is what
a response holds before `command` fills it in. -/
structure Comm (τ : Type) where
  send : List UInt8 → τ → Bool × τ
  recv : τ → Option Received × τ
  junk : τ → Nat → UInt8

/-- A response that was taken: the bytes received, the payload size that the
header declares, the payload bytes copied. -/
structure Exchange where
  size : Nat
  declared : Nat
  copied : Nat
  deriving DecidableEq

structure Session (τ : Type) where
  client : Client
  chan : τ
  log : List Exchange

abbrev Action (τ α : Type) := Prog Fault (Session τ) α

/-- `struct bsmp_message`, as a response. -/
structure Response where
  code : UInt8
  payloadSize : UInt16
  payload : Nat → UInt8

/-- The `n` bytes at `payload + i`. -/
def Response.slice (r : Response) (i n : Nat) : Except Fault (List UInt8) :=
  if i + n ≤ bsmpMaxPayload then .ok ((List.range n).map fun j => r.payload (i + j)) else .error .payload

/-- The response `command` makes of what was received: the copy of the payload
is as long as the whole message. -/
def Received.response (recvBuf : Received) (junk : Nat → UInt8) : Response where
  code := recvBuf.data 0
  payloadSize := ofBeBytes (recvBuf.data 1) (recvBuf.data 2)
  payload i := if i < recvBuf.size then recvBuf.data (bsmpHeaderSize + i) else junk i

variable {τ : Type} (comm : Comm τ)

/-- What `command` puts in `send_buf`: code, payload size, payload. -/
def sendBuf (cmd : CommandCode) (payload : List UInt8) : List UInt8 :=
  cmd.toByte :: beBytes (UInt16.ofNat payload.length) ++ payload

/-- `command`, for a payload of at most `BSMP_MAX_PAYLOAD` bytes. -/
def Session.command (cmd : CommandCode) (payload : List UInt8) : Action τ (Option Response) := fun s =>
  match comm.send (sendBuf cmd payload) s.chan with
  | (false, chan) => .ok (none, { s with chan })
  | (true, chan) =>
    match comm.recv chan with
    | (none, chan) => .ok (none, { s with chan })
    | (some recvBuf, chan) =>
      if recvBuf.size < 2 then .ok (none, { s with chan })
      else if recvBuf.size ≤ bsmpMaxPayload then
        let response := recvBuf.response (comm.junk chan)
        .ok (some response,
          { s with chan, log := s.log ++ [⟨recvBuf.size, response.payloadSize.toNat, recvBuf.size⟩] })
      else .error .buffer

/-- `command(..) || response.code != answer`. -/
def Session.expect (cmd answer : CommandCode) (payload : List UInt8) : Action τ (Option Response) := do
  let some response ← Session.command comm cmd payload | return none
  return if response.code = answer.toByte then some response else none

/-! ## Discovery -/

/-- `list[i]` of a list of `max` entries. -/
def slot {α : Type} (max i : Nat) (entry : α) : Except Fault α :=
  if i < max then .ok entry else .error .clientList

/-- `%0nd`. -/
def padded (n : Nat) (b : UInt8) : String :=
  String.ofList (List.replicate (n - (toString b.toNat).length) '0') ++ toString b.toNat

/-- `snprintf` of `"%d.%02d.%03d"`. -/
def Version.ofBytes (major minor revision : UInt8) : Version :=
  { major, minor, revision
    str := toString major.toNat ++ "." ++ padded 2 minor ++ "." ++ padded 3 revision }

def getVersion : Action τ BsmpErr := do
  let some response ← Session.command comm .queryVersion [] | return .comm
  -- Special case: v1.0
  let version :=
    if response.code = CommandCode.errOpNotSupported.toByte then Version.ofBytes 1 0 0
    else Version.ofBytes (response.payload 0) (response.payload 1) (response.payload 2)
  modify fun s => { s with client.serverVersion := version }
  return .success

/-- A variable from its byte in the answer to `CMD_VAR_QUERY_LIST`. -/
def VarInfo.ofListByte (i : Nat) (b : UInt8) : VarInfo where
  id := UInt8.ofNat i
  writable := b &&& writableMask ≠ 0
  size := if b &&& sizeMask = 0 then UInt8.ofNat bsmpVarMaxSize else b &&& sizeMask

def updateVarsList : Action τ BsmpErr := do
  let some response ← Session.expect comm .varQueryList .varList [] | return .comm
  let vars ← liftM ((List.range response.payloadSize.toNat).mapM fun i =>
    slot bsmpMaxVariables i (VarInfo.ofListByte i (response.payload i)))
  modify fun s => { s with client.vars := vars }
  return .success

/-- `client->vars.list[id]`: entries past the count are zero. -/
def Client.varEntry (c : Client) (id : UInt8) : Except Fault VarInfo :=
  slot bsmpMaxVariables id.toNat (c.vars.getD id.toNat ⟨0, false, 0⟩)

/-- A group from its byte in the answer to `CMD_GROUP_QUERY_LIST` and the ids
in the answer to `CMD_GROUP_QUERY`. -/
def Client.groupOf (c : Client) (i : Nat) (b : UInt8) (ids : List UInt8) : Except Fault ClientGroup := do
  let vars ← (List.range ids.length).mapM fun j => do
    let var ← c.varEntry (ids.getD j 0)
    slot bsmpMaxVariables j var
  return {
    id := UInt8.ofNat i
    writable := b &&& writableMask ≠ 0
    size := (vars.map fun var => var.size.toUInt16).sum
    count := (b &&& sizeMask).toNat
    list := ids.map UInt8.toNat }

/-- The loop of `update_groups_list`, `n` groups still to go from `i` on. No
list when a query failed. -/
def updateGroupsLoop (response : Response) : Nat → Nat → Action τ (Option (List ClientGroup))
  | 0, _ => return some []
  | n + 1, i => do
    liftM (slot bsmpMaxGroups i ())
    let some grpResponse ← Session.expect comm .groupQuery .group [UInt8.ofNat i] | return none
    let ids ← liftM (grpResponse.slice 0 grpResponse.payloadSize.toNat)
    let client := (← get).client
    let grp ← liftM (client.groupOf i (response.payload i) ids)
    let some grps ← updateGroupsLoop response n (i + 1) | return none
    return some (grp :: grps)

def updateGroupsList : Action τ BsmpErr := do
  let some response ← Session.expect comm .groupQueryList .groupList [] | return .comm
  match ← updateGroupsLoop comm response response.payloadSize.toNat 0 with
  | some groups =>
    modify fun s => { s with client.groups := groups }
    return .success
  | none =>
    modify fun s => { s with client.groups := [] }
    return .comm

/-- A curve from its bytes in the answer to `CMD_CURVE_QUERY_LIST`, its
checksum still zero. -/
def CurveInfo.ofListBytes (i : Nat) (b : Nat → UInt8) : CurveInfo :=
  let nblocks := ofBeBytes (b 3) (b 4)
  { id := UInt8.ofNat i
    writable := b 0 ≠ 0
    nblocks := if nblocks = 0 then UInt32.ofNat bsmpCurveMaxBlocks else nblocks.toUInt32
    blockSize := ofBeBytes (b 1) (b 2)
    checksum := Vector.replicate _ 0 }

/-- The body of the loop of `update_curves_list`. -/
def updateCurve (response : Response) (i : Nat) : Action τ CurveInfo := do
  let curve ← liftM (slot bsmpMaxCurves i
    (CurveInfo.ofListBytes i fun j => response.payload (i * bsmpCurveListInfo + j)))
  let some responseCsum ← Session.expect comm .curveQueryCsum .curveCsum [UInt8.ofNat i] | return curve
  return { curve with checksum := Vector.ofFn fun j => responseCsum.payload j.val }

def updateCurvesList : Action τ BsmpErr := do
  let some response ← Session.expect comm .curveQueryList .curveList [] | return .comm
  let curves ← (List.range (response.payloadSize.toNat / bsmpCurveListInfo)).mapM
    (updateCurve comm response)
  modify fun s => { s with client.curves := curves }
  return .success

/-- A function from its byte in the answer to `CMD_FUNC_QUERY_LIST`. -/
def FuncInfo.ofListByte (i : Nat) (b : UInt8) : FuncInfo where
  id := UInt8.ofNat i
  inputSize := (b &&& 0xF0) >>> 4
  outputSize := b &&& 0x0F

def updateFuncsList : Action τ BsmpErr := do
  let some response ← Session.expect comm .funcQueryList .funcList [] | return .comm
  let funcs ← liftM ((List.range response.payloadSize.toNat).mapM fun i =>
    slot bsmpMaxFunctions i (FuncInfo.ofListByte i (response.payload i)))
  modify fun s => { s with client.funcs := funcs }
  return .success

/-- The four lists empty, as `bsmp_client_init` first makes them. -/
def Client.zeroLists (c : Client) : Client := { c with vars := [], groups := [], curves := [], funcs := [] }

/-- `if((err = first)) return err;` -/
def andThen (first second : Action τ BsmpErr) : Action τ BsmpErr := do
  let err ← first
  if err ≠ .success then return err
  second

def bsmpClientInit : Action τ BsmpErr := do
  modify fun s => { s with client := s.client.zeroLists }
  andThen (getVersion comm) <| andThen (updateVarsList comm) <| andThen (updateGroupsList comm) <|
    andThen (updateCurvesList comm) (updateFuncsList comm)

end UdcFirmware.Bsmp
