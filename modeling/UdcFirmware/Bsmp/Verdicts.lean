/-
Verdicts: what an operation of the client returns, against what the server
answered.

Over a lossless channel an operation is one answer of the server, handed to
the client (`operate_link`). Each operation takes the answer its command has
(`CommandCode.answers`) for success and an error for failure, but for one:
`bsmp_recalc_checksum` waits for `CMD_OK`, and the server tells the checksum.
So it fails however the server did, and its verdict is right only when the
server could not compute the checksum (`System.checksumFails`). Besides,
`bsmp_create_group` does not count the variables it is given, and leaves its
buffer with more than it holds. `verdict_iff` says that there is nothing else.
-/
import UdcFirmware.Bsmp.Discovery

namespace UdcFirmware.Bsmp

open ByteMem Checked Stateful

variable {σ : Type} {md5 : Md5} {area noise : Nat → UInt8}

/-! ## The arguments -/

/-- A buffer of the caller has room for `n` bytes. -/
def Holds (buf : Option (List UInt8)) (n : Nat) : Prop := ∀ bytes, buf = some bytes → n ≤ bytes.length

namespace Operation

/-- The client's own checks let the arguments pass. -/
def Passes (op : Operation) (c : Client) : Prop := ∀ err, op.prepare c ≠ .ok (.error err)

/-- The caller's buffers are as large as `client.h` asks for. -/
def Buffers (c : Client) : Operation → Prop
  | readVar var value | writeVar var value | binOpVar _ var value =>
    ∀ info, c.var? var = some info → Holds value info.size.toNat
  | writeReadVars wrVar wrValue rdVar rdValue =>
    (∀ info, c.var? wrVar = some info → Holds wrValue info.size.toNat) ∧
      ∀ info, c.var? rdVar = some info → Holds rdValue info.size.toNat
  | readGroup grp values | writeGroup grp values | binOpGroup _ grp values =>
    ∀ info, c.group? grp = some info → Holds values info.size.toNat
  | createGroup _ | removeAllGroups | recalcChecksum _ => True
  | requestCurveBlock curve _ data _ => ∀ info, c.curve? curve = some info → Holds data info.blockSize.toNat
  | sendCurveBlock _ _ data len => Holds data len.toNat
  | funcExecute func _ input output =>
    ∀ info, c.func? func = some info → Holds input info.inputSize.toNat ∧ Holds output info.outputSize.toNat

end Operation

/-! ## The verdict -/

/-- Success stands for an answer that is not an error. -/
def Verdict (err : BsmpErr) (a : Message) : Prop := err = .success ↔ isErrorByte a.commandCode = false

/-- The operation sends a request, the server is then as the answer left it,
and what the operation returns is the verdict on the answer. -/
def Agrees (md5 : Md5) (area noise : Nat → UInt8) (s : Session (Peer σ)) (op : Operation) : Prop :=
  ∃ payload system a err s', op.prepare s.client = .ok (.ok payload) ∧
    respond md5 s.chan.system (request op.cmd.toByte payload) area = .ok (system, a) ∧
    op.run (link md5 area noise) s = .ok (err, s') ∧
    s'.chan.system.clearModified = system.clearModified ∧ Verdict err a

/-- One of the blocks is not read: `n` of `nblocks` blocks are still to go, from
`i` on. A block with fewer bytes than there are blocks is taken for the last. -/
def scanFails (readBlock : UInt16 → World σ → Bool × List UInt8 × World σ) (nblocks : Nat) :
    Nat → Nat → World σ → Bool
  | 0, _, _ => false
  | n + 1, i, w =>
    let (ok, block, w) := readBlock (UInt16.ofNat i) w
    if !ok then true
    else if block.length < nblocks then false
    else scanFails readBlock nblocks n (i + 1) w

/-- The checksum of a curve cannot be computed now. -/
def System.checksumFails (s : System σ) (p : Ptr) : Bool :=
  let curve := s.objs.curve p
  match s.server.customMd5 with
  | some customMd5 => !(customMd5 p curve.info.checksum s.world).1
  | none => curve.readBlock.any fun readBlock =>
    scanFails readBlock curve.info.nblocks.toNat curve.info.nblocks.toNat 0 s.world

/-- No checksum that the server can tell, and no more variables than fit a payload. -/
def Operation.Judged (s : System σ) : Operation → Prop
  | recalcChecksum curve => ∀ i p, curve = some i → s.server.curves[i]? = some p → s.checksumFails p = true
  | createGroup list => ∀ vars, list = some vars → vars.length ≤ bsmpMaxPayload
  | _ => True

variable {s : Session (Peer σ)} {system : System σ} {a : Message} {α : Type}

/-! ## One answer -/

/-- What is known of the answer to a request. -/
structure Answered (md5 : Md5) (area : Nat → UInt8) (sys : System σ) (cmd : CommandCode)
    (payload : List UInt8) (system : System σ) (a : Message) : Prop where
  respond : respond md5 sys (request cmd.toByte payload) area = .ok (system, a)
  sendable : a.Sendable
  repInv : RepInv system
  code : isErrorByte a.commandCode = false → ∃ d ∈ cmd.answers, a.commandCode = d.toByte

theorem exists_answered {sys : System σ} (h : RepInv sys) (hr : RespectsSizes sys) (md5 : Md5)
    (area : Nat → UInt8)
    (cmd : CommandCode) (payload : List UInt8) : ∃ system a, Answered md5 area sys cmd payload system a := by
  have h' : RepInv sys.clearModified := h.same (clearModified_same _)
  obtain ⟨⟨system, a⟩, hresp, ho⟩ := respond_outcome md5 h (request cmd.toByte payload) area
  refine ⟨system, a, hresp, ho.sendable h' ⟨hr.readBlock, hr.func⟩, ho.repInv h', fun hok => ?_⟩
  rcases ho.code with herr | ⟨c, d, hc, hd, hcode⟩
  · rw [herr] at hok
    cases hok
  · cases CommandCode.toByte_inj (c := cmd) hc
    exact ⟨d, hd, hcode⟩

/-- An operation over the link: the answer is handed to `finish`. -/
theorem operate_link {cmd : CommandCode} {payload : List UInt8} (noise : Nat → UInt8)
    (prepare : Client → Prepared) (hprep : prepare s.client = .ok (.ok payload))
    (hresp : respond md5 s.chan.system (request cmd.toByte payload) area = .ok (system, a)) (ha : a.Sendable)
    (out : α) (finish : Client → Response → Except Fault (BsmpErr × α)) :
    ∃ r s', r.Carries a ∧ s'.client = s.client ∧ s'.chan.system = system ∧
      operate (link md5 area noise) cmd prepare out finish s =
        (liftM (finish s.client r) : Action _ _) s' := by
  obtain ⟨r, s', hcmd, hcarries, hclient, hsystem⟩ := command_link noise hresp ha
  refine ⟨r, s', hcarries, hclient, hsystem, ?_⟩
  rw [operate_send hprep, bind_of hcmd]

/-- Where the answer of the command is waited for, the verdict is right. -/
theorem Answered.accepting {sys : System σ} {cmd ans : CommandCode} {payload : List UInt8} {r : Response}
    {out : α} {take : Response → Except Fault α} (ha : Answered md5 area sys cmd payload system a)
    (hans : cmd.answers = [ans])
    (hr : r.Carries a) (htake : a.commandCode = ans.toByte → ∃ out', take r = .ok out') :
    ∃ err out', accepting ans out take r = .ok (err, out') ∧ Verdict err a := by
  unfold Bsmp.accepting
  rw [hr.code]
  by_cases hc : a.commandCode = ans.toByte
  · obtain ⟨out', ht⟩ := htake hc
    refine ⟨.success, out', by rw [if_pos hc, ht]; rfl, iff_of_true rfl ?_⟩
    have hmem : ans ∈ cmd.answers := by rw [hans]; exact List.mem_singleton.mpr rfl
    rw [hc]
    exact CommandCode.answers_isError hmem
  · refine ⟨.comm, out, if_neg hc, iff_of_false (by decide) fun hok => hc ?_⟩
    obtain ⟨d, hd, hcode⟩ := ha.code hok
    rw [hans, List.mem_singleton] at hd
    rw [hcode, hd]

/-! ## What the lists lead to -/

section Lists

variable {c : Client} {sys : System σ}

theorem Describes.var (hd : Describes c sys) {var : Option Nat} {info : VarInfo}
    (h : c.var? var = some info) :
    ∃ p ∈ sys.server.vars, (sys.objs.var p).info = info := by
  obtain ⟨i, -, hi⟩ := Option.bind_eq_some_iff.mp h
  have hmem := List.mem_of_getElem? hi
  rw [hd.vars] at hmem
  exact List.mem_map.mp hmem

theorem Describes.curve (hd : Describes c sys) {curve : Option Nat} {info : CurveInfo}
    (h : c.curve? curve = some info) :
    ∃ i p, curve = some i ∧ sys.server.curves[i]? = some p ∧ (sys.objs.curve p).info = info := by
  obtain ⟨i, rfl, hi⟩ := Option.bind_eq_some_iff.mp h
  rw [hd.curves, List.getElem?_map] at hi
  obtain ⟨p, hp, hinfo⟩ := Option.map_eq_some_iff.mp hi
  exact ⟨i, p, rfl, hp, hinfo⟩

theorem Describes.group (hd : Describes c sys) {grp : Option Nat} {info : ClientGroup}
    (h : c.group? grp = some info) :
    ∃ i < sys.server.groups.count, (sys.server.groups.get i).described sys.objs = info := by
  obtain ⟨i, -, hi⟩ := Option.bind_eq_some_iff.mp h
  have hmem := List.mem_of_getElem? hi
  rw [hd.groups] at hmem
  obtain ⟨j, hj, hinfo⟩ := List.mem_map.mp hmem
  exact ⟨j, List.mem_range.mp hj, hinfo⟩

end Lists

/-! ## Requests are made -/

section Requests

variable {c : Client} {sys : System σ}

theorem packed_ok {payload : List UInt8} (h : payload.length ≤ bsmpMaxPayload) :
    packed payload = .ok (.ok payload) :=
  if_pos h

theorem fetch_ok {buf : List UInt8} {n : Nat} (h : n ≤ buf.length) : fetch buf n = .ok (buf.take n) :=
  if_pos h

/-- A payload that ends with bytes of the caller. -/
theorem fetch_packed (head : List UInt8) {buf : List UInt8} {n : Nat} (h : n ≤ buf.length)
    (hmax : head.length + n ≤ bsmpMaxPayload) :
    (fetch buf n >>= fun data => packed (head ++ data)) = .ok (.ok (head ++ buf.take n)) := by
  rw [fetch_ok h, ok_bind, packed_ok]
  rw [List.length_append, List.length_take]
  omega

/-- Variables that fit are put in the payload, or one of them is not of the list. -/
theorem createGroupLoop_returns (c : Client) (list : List Nat) (payload : List UInt8)
    (h : payload.length + list.length ≤ bsmpMaxPayload) : ∃ r, createGroupLoop c list payload = .ok r := by
  induction list generalizing payload with
  | nil =>
    unfold createGroupLoop
    split
    · exact ⟨_, rfl⟩
    · exact ⟨_, rfl⟩
  | cons var list ih =>
    rw [List.length_cons] at h
    unfold createGroupLoop
    split
    · exact ⟨_, rfl⟩
    · rw [if_pos (by omega)]
      exact ih _ (by rw [List.length_append, List.length_singleton]; omega)

/-- Every variable is one byte of a payload. -/
theorem createGroupLoop_length {c : Client} {list : List Nat} {payload payload' : List UInt8}
    (hpay : payload.length ≤ bsmpMaxPayload) (h : createGroupLoop c list payload = .ok (.ok payload')) :
    payload.length + list.length ≤ bsmpMaxPayload := by
  induction list generalizing payload with
  | nil => exact hpay
  | cons var list ih =>
    unfold createGroupLoop at h
    split at h
    · cases h
    split at h
    · next hlt =>
      have := ih (by rw [List.length_append, List.length_singleton]; omega) h
      rw [List.length_append, List.length_singleton] at this
      rw [List.length_cons]
      omega
    · cases h

/-- With buffers large enough no request is abandoned half made. -/
theorem Operation.prepare_returns (h : RepInv sys) (hd : Describes c sys) {op : Operation} (hb : op.Buffers c)
    (hfit : ∀ vars, op = .createGroup (some vars) → vars.length ≤ bsmpMaxPayload) :
    ∃ r, op.prepare c = .ok r := by
  have hsize : ∀ {grp info}, c.group? grp = some info →
    info.size.toNat ≤ bsmpMaxVariables * bsmpVarMaxSize := by
    intro grp info hinfo
    obtain ⟨i, hi, rfl⟩ := hd.group hinfo
    exact h.group_size_le (h.groupOk_get hi)
  simp only [bsmpMaxVariables, bsmpVarMaxSize] at hsize
  cases op with
  | readVar var value =>
    simp only [prepare, readVarRequest]
    split
    · exact ⟨_, packed_ok (by simp)⟩
    · exact ⟨_, rfl⟩
  | writeVar var value =>
    simp only [prepare, writeVarRequest]
    split
    · next info bytes hinfo =>
      split
      · exact ⟨_, rfl⟩
      · have := info.size.toNat_lt
        exact ⟨_, fetch_packed [info.id] (hb info hinfo bytes rfl) (by simp; omega)⟩
    · exact ⟨_, rfl⟩
  | writeReadVars wrVar wrValue rdVar rdValue =>
    simp only [prepare, writeReadVarsRequest]
    split
    · next wr bytes rd _ hwr hrd =>
      split
      · exact ⟨_, rfl⟩
      · have := wr.size.toNat_lt
        exact ⟨_, fetch_packed [wr.id, rd.id] (hb.1 wr hwr bytes rfl) (by simp; omega)⟩
    · exact ⟨_, rfl⟩
  | readGroup grp values =>
    simp only [prepare, readGroupRequest]
    split
    · exact ⟨_, packed_ok (by simp)⟩
    · exact ⟨_, rfl⟩
  | writeGroup grp values =>
    simp only [prepare, writeGroupRequest]
    split
    · next info bytes hinfo =>
      split
      · exact ⟨_, rfl⟩
      · have := hsize hinfo
        exact ⟨_, fetch_packed [info.id] (hb info hinfo bytes rfl) (by simp; omega)⟩
    · exact ⟨_, rfl⟩
  | binOpVar op var mask =>
    simp only [prepare, binOpVarRequest]
    split
    · next info bytes hinfo =>
      split
      · exact ⟨_, rfl⟩
      split
      · exact ⟨_, rfl⟩
      · next code _ =>
        have := info.size.toNat_lt
        exact ⟨_, fetch_packed [info.id, code] (hb info hinfo bytes rfl) (by simp; omega)⟩
    · exact ⟨_, rfl⟩
  | binOpGroup op grp mask =>
    simp only [prepare, binOpGroupRequest]
    split
    · next info bytes hinfo =>
      split
      · exact ⟨_, rfl⟩
      split
      · exact ⟨_, rfl⟩
      · next code _ =>
        have := hsize hinfo
        exact ⟨_, fetch_packed [info.id, code] (hb info hinfo bytes rfl) (by simp; omega)⟩
    · exact ⟨_, rfl⟩
  | createGroup list =>
    simp only [prepare, createGroupRequest]
    split
    · exact ⟨_, rfl⟩
    · next list => exact createGroupLoop_returns c list [] (by simpa using hfit list rfl)
  | removeAllGroups => exact ⟨_, packed_ok (by simp)⟩
  | requestCurveBlock curve offset data len =>
    simp only [prepare, requestCurveBlockRequest]
    split
    · split
      · exact ⟨_, rfl⟩
      · exact ⟨_, packed_ok (by simp [beBytes])⟩
    · exact ⟨_, rfl⟩
  | sendCurveBlock curve offset data len =>
    simp only [prepare, sendCurveBlockRequest]
    split
    · next info bytes hinfo =>
      obtain ⟨i, p, -, hp, rfl⟩ := hd.curve hinfo
      have hmax := (curveCheck_success (h.curves.checked p (List.mem_of_getElem? hp))).2.1
      simp only [bsmpCurveBlockMaxSize] at hmax
      split
      · exact ⟨_, rfl⟩
      split
      · exact ⟨_, rfl⟩
      split
      · exact ⟨_, rfl⟩
      · next hle =>
        have := UInt16.le_iff_toNat_le.mp (UInt16.not_lt.mp hle)
        exact ⟨_, fetch_packed _ (hb bytes rfl) (by simp [beBytes]; omega)⟩
    · exact ⟨_, rfl⟩
  | recalcChecksum curve =>
    simp only [prepare, recalcChecksumRequest]
    split
    · exact ⟨_, packed_ok (by simp)⟩
    · exact ⟨_, rfl⟩
  | funcExecute func error input output =>
    simp only [prepare, funcExecuteRequest]
    split
    · next info _ hinfo =>
      split
      · exact ⟨_, rfl⟩
      split
      · exact ⟨_, rfl⟩
      · next hin hout =>
        have := info.inputSize.toNat_lt
        have hlen : info.inputSize.toNat ≤ (input.getD []).length := by
          cases input with
          | none =>
            have hz : info.inputSize = 0 := by simpa using hin
            rw [hz]
            exact Nat.zero_le _
          | some bytes => exact (hb info hinfo).1 bytes rfl
        exact ⟨_, fetch_packed [info.id] hlen (by simp; omega)⟩
    · exact ⟨_, rfl⟩

/-- So the arguments that pass make a request. -/
theorem Operation.Passes.prepared {op : Operation} (hp : op.Passes c) (hr : ∃ r, op.prepare c = .ok r) :
    ∃ payload, op.prepare c = .ok (.ok payload) := by
  obtain ⟨r, hr⟩ := hr
  cases r with
  | error err => exact absurd hr (hp err)
  | ok payload => exact ⟨payload, hr⟩

theorem packed_inj {payload payload' : List UInt8} (h : packed payload = .ok (.ok payload')) :
    payload' = payload := by
  unfold packed at h
  split at h
  · cases h
    rfl
  · cases h

theorem readVarRequest_sent {var : Option Nat} {value : Option (List UInt8)} {payload : List UInt8}
    (h : readVarRequest c var value = .ok (.ok payload)) :
    ∃ info bytes, c.var? var = some info ∧ value = some bytes ∧ payload = [info.id] := by
  unfold readVarRequest at h
  split at h
  · next info bytes hinfo => exact ⟨info, bytes, hinfo, rfl, packed_inj h⟩
  · cases h

theorem writeReadVarsRequest_sent {wrVar rdVar : Option Nat} {wrValue rdValue : Option (List UInt8)}
    {payload : List UInt8} (h : writeReadVarsRequest c wrVar wrValue rdVar rdValue = .ok (.ok payload)) :
    ∃ info bytes, c.var? rdVar = some info ∧ rdValue = some bytes := by
  unfold writeReadVarsRequest at h
  split at h
  · next info bytes _ hinfo => exact ⟨info, bytes, hinfo, rfl⟩
  · cases h

theorem readGroupRequest_sent {grp : Option Nat} {values : Option (List UInt8)} {payload : List UInt8}
    (h : readGroupRequest c grp values = .ok (.ok payload)) :
    ∃ info bytes, c.group? grp = some info ∧ values = some bytes ∧ payload = [info.id] := by
  unfold readGroupRequest at h
  split at h
  · next info bytes hinfo => exact ⟨info, bytes, hinfo, rfl, packed_inj h⟩
  · cases h

theorem requestCurveBlockRequest_sent {curve : Option Nat} {offset : UInt16} {data : Option (List UInt8)}
    {len : Option UInt16} {payload : List UInt8}
    (h : requestCurveBlockRequest c curve offset data len = .ok (.ok payload)) :
    ∃ info bytes, c.curve? curve = some info ∧ data = some bytes ∧ payload = info.id :: beBytes offset := by
  unfold requestCurveBlockRequest at h
  split at h
  · next info bytes n hinfo =>
    split at h
    · cases h
    · exact ⟨info, bytes, hinfo, rfl, packed_inj h⟩
  · cases h

theorem recalcChecksumRequest_sent {curve : Option Nat} {payload : List UInt8}
    (h : recalcChecksumRequest c curve = .ok (.ok payload)) :
    ∃ info, c.curve? curve = some info ∧ payload = [info.id] := by
  unfold recalcChecksumRequest at h
  split at h
  · next info hinfo => exact ⟨info, hinfo, packed_inj h⟩
  · cases h

theorem funcExecuteRequest_sent {func : Option Nat} {error : Option UInt8}
    {input output : Option (List UInt8)}
    {payload : List UInt8} (h : funcExecuteRequest c func error input output = .ok (.ok payload)) :
    ∃ info, c.func? func = some info ∧ (info.outputSize ≠ 0 → output ≠ none) := by
  unfold funcExecuteRequest at h
  split at h
  · next info _ hinfo =>
    split at h
    · cases h
    split at h
    · cases h
    · next hout => exact ⟨info, hinfo, fun hne hnone => hout ⟨hne, hnone⟩⟩
  · cases h

end Requests

/-! ## Answers are taken -/

section Answers

variable {sys : System σ}

/-- Bytes of a response that the caller has room for. -/
theorem slice_deliver {buf : List UInt8} {n : Nat} (r : Response) (hmax : n ≤ bsmpMaxPayload)
    (h : n ≤ buf.length) :
    ∃ out, (r.slice 0 n >>= deliver buf) = .ok out := by
  have hslice : r.slice 0 n = .ok _ := if_pos (by rw [Nat.zero_add]; exact hmax)
  rw [hslice, ok_bind, deliver, if_pos (by simpa using h)]
  exact ⟨_, rfl⟩

theorem Answered.takePayload {cmd : CommandCode} {payload buf : List UInt8} {r : Response}
    (ha : Answered md5 area sys cmd payload system a) (hr : r.Carries a) (h : a.payload.length ≤ buf.length) :
    ∃ out, takePayload buf r = .ok out := by
  refine slice_deliver r (Nat.le_of_lt_succ r.payloadSize.toNat_lt) ?_
  rw [hr.payloadSize, ← ha.sendable.whole]
  exact h

/-- The answer to a read is the variable's bytes. -/
theorem Answered.varRead {p : Ptr} (h : RepInv sys) (hp : p ∈ sys.server.vars)
    (ha : Answered md5 area sys .varRead [(sys.objs.var p).info.id] system a) :
    a.payload.length = (sys.objs.var p).info.size.toNat := by
  have hc : command md5 area CommandCode.varRead.toByte (σ := σ) = some Bsmp.varRead := rfl
  have hresp := ha.respond
  obtain ⟨s', -, hread⟩ := (h.same (clearModified_same sys)).varRead_ok hp
  rw [respond_request hc (by simp)] at hresp
  cases hread.symm.trans hresp
  exact Var.bytes_length _ _

theorem Answered.groupRead {i : Nat} (h : RepInv sys) (hi : i < sys.server.groups.count)
    (ha : Answered md5 area sys .groupRead [(sys.server.groups.get i).id] system a) :
    a.payload.length = (sys.server.groups.get i).size.toNat := by
  have hc : command md5 area CommandCode.groupRead.toByte (σ := σ) = some Bsmp.groupRead := rfl
  have hresp := ha.respond
  have hg := h.groupOk_get hi
  have hi' : (sys.server.groups.get i).id.toNat < sys.server.groups.count := hg.id.symm ▸ hi
  have hat : sys.server.groups.at (sys.server.groups.get i).id.toNat = .ok (sys.server.groups.get i) := by
    rw [hg.id]
    exact GroupList.at_get (Nat.lt_of_lt_of_le hi h.room)
  obtain ⟨s', -, hread⟩ := (h.same (clearModified_same sys)).groupRead_ok hi' hat
  rw [respond_request hc (by simp)] at hresp
  cases hread.symm.trans hresp
  exact hg.valuesOf_length _

/-- The answer to a request for a block is the block, if there is one. -/
theorem Answered.curveBlock {p : Ptr} {offset : UInt16} (h : RepInv sys) (hr : RespectsSizes sys)
    (hp : p ∈ sys.server.curves)
    (ha : Answered md5 area sys .curveBlockRequest ((sys.objs.curve p).info.id :: beBytes offset) system a)
    (hcode : a.commandCode = CommandCode.curveBlock.toByte) :
    ∃ data, data.length ≤ (sys.objs.curve p).info.blockSize.toNat ∧
      a = reply .curveBlock (UInt16.ofNat data.length + UInt16.ofNat bsmpCurveBlockInfo)
        ((sys.objs.curve p).info.id :: beBytes offset ++ data) := by
  have hc : command md5 area CommandCode.curveBlockRequest.toByte (σ := σ) = some curveBlockRequest := rfl
  have h' := h.same (clearModified_same sys)
  have hr' : RespectsSizes sys.clearModified := ⟨hr.readBlock, hr.func⟩
  have hresp := ha.respond
  rw [respond_request hc (by simp [beBytes])] at hresp
  by_cases hoff : offset.toNat < (sys.objs.curve p).info.nblocks.toNat
  · obtain ⟨ok, data, s', hread, -⟩ := callReadBlock_ok h' hp offset
    cases (h'.curveBlockRequest_ok hp hoff hread).symm.trans hresp
    cases ok with
    | false => cases hcode
    | true => exact ⟨data, callReadBlock_length hr' hp hread, rfl⟩
  · cases (h'.curveBlockRequest_past hp (Nat.le_of_not_lt hoff)).symm.trans hresp
    cases hcode

theorem takeBlock_ok {r : Response} {id : UInt8} {offset : UInt16} {data buf : List UInt8}
    (hr : r.Carries (reply .curveBlock (UInt16.ofNat data.length + UInt16.ofNat bsmpCurveBlockInfo)
      (id :: beBytes offset ++ data)))
    (hmax : data.length ≤ bsmpCurveBlockMaxSize) (hlen : data.length ≤ buf.length) :
    takeBlock buf r = .ok (data ++ buf.drop data.length, UInt16.ofNat data.length) := by
  have hsize : r.payloadSize - UInt16.ofNat bsmpCurveBlockInfo = UInt16.ofNat data.length := by
    rw [hr.payloadSize]
    exact UInt16.add_sub_cancel _ _
  have hnat : (UInt16.ofNat data.length).toNat = data.length :=
    UInt16.toNat_ofNat_of_lt (Nat.lt_of_le_of_lt hmax (by decide))
  simp only [bsmpCurveBlockMaxSize] at hmax
  have hslice : r.slice bsmpCurveBlockInfo data.length = .ok data := by
    refine Response.slice_eq (fun j b hj => hr.payload _ b ?_)
      (by simp only [bsmpCurveBlockInfo, bsmpMaxPayload]; omega)
    show (id :: beBytes offset ++ data)[bsmpCurveBlockInfo + j]? = some b
    rw [List.getElem?_append_right (by simp [beBytes])]
    simpa [beBytes] using hj
  simp only [takeBlock, hsize, hnat, hslice, ok_bind, deliver, if_pos hlen]
  rfl

end Answers

/-! ## The checksum -/

section Checksum

variable {sys sys' : System σ} {p : Ptr}

theorem curveCsumLoop_fails {readBlock : UInt16 → World σ → Bool × List UInt8 × World σ} {n i : Nat}
    {ctx : md5.Ctx} {r : Option md5.Ctx} (h : curveCsumLoop md5 p n i ctx sys = .ok (r, sys'))
    (hread : (sys.objs.curve p).readBlock = some readBlock) :
    r = none ↔ scanFails readBlock (sys.objs.curve p).info.nblocks.toNat n i sys.world = true := by
  induction n generalizing i ctx sys with
  | zero =>
    cases h
    simp [scanFails]
  | succ n ih =>
    simp only [curveCsumLoop, callReadBlock_eq hread, ok_bind] at h
    simp only [scanFails]
    cases hok : (readBlock (UInt16.ofNat i) sys.world).1 with
    | false =>
      simp only [hok, Bool.not_false, if_true] at h
      cases h
      simp
    | true =>
      simp only [hok, Bool.not_true, Bool.false_eq_true, if_false] at h ⊢
      split at h
      · next hlast =>
        cases h
        simp [hlast]
      · next hlast =>
        rw [if_neg hlast]
        exact ih h hread

/-- The server tells no checksum exactly when it cannot compute one. -/
theorem curveRecalcCsum_fails (h : RepInv sys) (hp : p ∈ sys.server.curves)
    (hrun : curveRecalcCsum md5 sys (message .curveRecalcCsum [(sys.objs.curve p).info.id]) = .ok (sys', a)) :
    isErrorByte a.commandCode = sys.checksumFails p := by
  have hid := h.curves.id_lt hp
  obtain ⟨readBlock, hread⟩ := (curveCheck_success (h.curves.checked p hp)).2.2.1
  have hbyte : (message .curveRecalcCsum [(sys.objs.curve p).info.id]).byte 0 =
    .ok (sys.objs.curve p).info.id :=
    Message.byte_ok rfl
  simp only [curveRecalcCsum, hbyte, ok_bind, curveAt_ok (h.curveId hp)] at hrun
  rw [if_neg (by simp [message]), if_neg (Nat.not_le_of_lt hid)] at hrun
  unfold System.checksumFails
  cases hmd5 : sys.server.customMd5 with
  | some customMd5 =>
    simp only [hmd5] at hrun ⊢
    cases hok : (customMd5 p (sys.objs.curve p).info.checksum sys.world).1 with
    | false =>
      simp only [hok, Bool.not_false, if_true] at hrun
      cases hrun
      rfl
    | true =>
      simp only [hok, Bool.not_true, Bool.false_eq_true, if_false] at hrun
      cases hrun
      rfl
  | none =>
    obtain ⟨r, sys₁, hloop, -⟩ := curveCsumLoop_ok h md5 hp (sys.objs.curve p).info.nblocks.toNat 0 md5.init
    have hfails := curveCsumLoop_fails hloop hread
    simp only [hmd5, hread, Option.any_some] at hrun ⊢
    simp only [hloop, ok_bind] at hrun
    cases r with
    | none =>
      cases hrun
      exact (hfails.mp rfl).symm
    | some ctx =>
      cases hrun
      exact (Bool.eq_false_iff.mpr fun hs => Option.some_ne_none ctx (hfails.mpr hs)).symm

theorem Answered.curveRecalcCsum
    (ha : Answered md5 area sys .curveRecalcCsum [(sys.objs.curve p).info.id] system a)
    (h : RepInv sys) (hp : p ∈ sys.server.curves) : isErrorByte a.commandCode = sys.checksumFails p := by
  have hc : command md5 area CommandCode.curveRecalcCsum.toByte (σ := σ) =
    some (Bsmp.curveRecalcCsum md5) := rfl
  have hresp := ha.respond
  rw [respond_request hc (by simp)] at hresp
  have h' : RepInv sys.clearModified := h.same (clearModified_same sys)
  have hfails := curveRecalcCsum_fails h' hp hresp
  exact hfails

end Checksum

/-! ## The operations -/

section Operations

theorem agrees_of_operate {op : Operation} {payload : List UInt8} {out : α}
    {finish : Client → Response → Except Fault (BsmpErr × α)} (h : RepInv s.chan.system)
    (hr : RespectsSizes s.chan.system) (hprep : op.prepare s.client = .ok (.ok payload))
    (hrun : op.run (link (σ := σ) md5 area noise) =
      Prod.fst <$> operate (link md5 area noise) op.cmd op.prepare out finish)
    (hfin : ∀ {system a r}, Answered md5 area s.chan.system op.cmd payload system a → r.Carries a →
      ∃ err out', finish s.client r = .ok (err, out') ∧ Verdict err a) : Agrees md5 area noise s op := by
  obtain ⟨system, a, ha⟩ := exists_answered h hr md5 area op.cmd payload
  obtain ⟨r, s', hcarries, -, hsystem, hop⟩ :=
    operate_link noise op.prepare hprep ha.respond ha.sendable out finish
  obtain ⟨err, out', hf, hv⟩ := hfin ha hcarries
  refine ⟨payload, system, a, err, s', hprep, ha.respond, ?_, by rw [hsystem], hv⟩
  rw [hf] at hop
  rw [hrun]
  exact map_of hop

theorem followedBy_failed {τ : Type} {s s' : Session τ} {act : Action τ (BsmpErr × Unit)}
    {update : Action τ BsmpErr}
    {err : BsmpErr} (h : act s = .ok ((err, ()), s')) (herr : err ≠ .success) :
    followedBy act update s = .ok ((err, ()), s') := by
  rw [followedBy, bind_of h]
  exact congrFun (if_pos herr) s'

theorem followedBy_done {τ : Type} {s s₁ s₂ : Session τ} {act : Action τ (BsmpErr × Unit)}
    {update : Action τ BsmpErr} {err : BsmpErr} (h : act s = .ok ((.success, ()), s₁))
    (hupdate : update s₁ = .ok (err, s₂)) : followedBy act update s = .ok ((.success, ()), s₂) := by
  rw [followedBy, bind_of h]
  refine (congrFun (if_neg (by simp)) s₁).trans ?_
  rw [bind_of hupdate]
  rfl

/-- The update after a success tells nothing, and leaves the server alone. -/
theorem agrees_of_followed {op : Operation} {payload : List UInt8} (h : RepInv s.chan.system)
    (hr : RespectsSizes s.chan.system) (hprep : op.prepare s.client = .ok (.ok payload))
    (hans : op.cmd.answers = [.ok])
    (hrun : op.run (link (σ := σ) md5 area noise) = Prod.fst <$> followedBy
      (operate (link md5 area noise) op.cmd op.prepare () fun _ => accepting .ok () fun _ => .ok ())
      (updateGroupsList (link md5 area noise))) : Agrees md5 area noise s op := by
  obtain ⟨system, a, ha⟩ := exists_answered h hr md5 area op.cmd payload
  obtain ⟨r, s₁, hcarries, -, hsystem, hop⟩ :=
    operate_link noise op.prepare hprep ha.respond ha.sendable () fun _ =>
    accepting .ok () fun _ => .ok ()
  obtain ⟨err, out', hf, hv⟩ : ∃ err out', accepting .ok () (fun _ => .ok ()) r = .ok (err, out') ∧
    Verdict err a :=
    ha.accepting hans hcarries fun _ => ⟨(), rfl⟩
  rw [hf] at hop
  by_cases herr : err = .success
  · subst herr
    obtain ⟨s₂, hupdate, -, hsystem₂⟩ := updateGroupsList_link md5 area noise
      (ha.repInv.same (clearModified_same _)) (s := s₁) (by rw [hsystem])
    refine ⟨payload, system, a, .success, s₂, hprep, ha.respond, ?_, hsystem₂, hv⟩
    rw [hrun]
    exact map_of (followedBy_done hop hupdate)
  · refine ⟨payload, system, a, err, s₁, hprep, ha.respond, ?_, by rw [hsystem], hv⟩
    rw [hrun]
    exact map_of (followedBy_failed hop herr)

/-- Every operation but one, with arguments that fit. -/
theorem Operation.agrees (h : RepInv s.chan.system) (hr : RespectsSizes s.chan.system)
    (hd : Describes s.client s.chan.system) {op : Operation} (hp : op.Passes s.client)
    (hb : op.Buffers s.client)
    (hfit : ∀ vars, op = .createGroup (some vars) → vars.length ≤ bsmpMaxPayload)
    (hne : ∀ curve, op ≠ .recalcChecksum curve) : Agrees md5 area noise s op := by
  obtain ⟨payload, hprep⟩ := hp.prepared (op.prepare_returns h hd hb hfit)
  cases op with
  | readVar var value =>
    obtain ⟨info, bytes, hinfo, rfl, rfl⟩ := readVarRequest_sent hprep
    obtain ⟨p, hmem, rfl⟩ := hd.var hinfo
    refine agrees_of_operate h hr hprep rfl fun ha hc => ha.accepting rfl hc fun _ => ha.takePayload hc ?_
    rw [ha.varRead h hmem]
    exact hb _ hinfo bytes rfl
  | writeReadVars wrVar wrValue rdVar rdValue =>
    obtain ⟨info, bytes, hinfo, rfl⟩ := writeReadVarsRequest_sent hprep
    refine agrees_of_operate h hr hprep rfl fun {_ _ r} ha hc => ha.accepting rfl hc fun _ => ?_
    rw [hinfo]
    exact slice_deliver r (info.size.toNat_lt.le.trans (by decide)) (hb.2 info hinfo bytes rfl)
  | readGroup grp values =>
    obtain ⟨info, bytes, hinfo, rfl, rfl⟩ := readGroupRequest_sent hprep
    obtain ⟨i, hi, rfl⟩ := hd.group hinfo
    refine agrees_of_operate h hr hprep rfl fun ha hc => ha.accepting rfl hc fun _ => ha.takePayload hc ?_
    rw [ha.groupRead h hi]
    exact hb _ hinfo bytes rfl
  | requestCurveBlock curve offset data len =>
    obtain ⟨info, bytes, hinfo, rfl, rfl⟩ := requestCurveBlockRequest_sent hprep
    obtain ⟨i, p, -, hget, rfl⟩ := hd.curve hinfo
    have hmem := List.mem_of_getElem? hget
    refine agrees_of_operate h hr hprep rfl fun ha hc => ha.accepting rfl hc fun hcode => ?_
    obtain ⟨data, hlen, rfl⟩ := ha.curveBlock h hr hmem hcode
    have hmax := (curveCheck_success (h.curves.checked p hmem)).2.1
    exact ⟨_, takeBlock_ok hc (hlen.trans hmax) (hlen.trans (hb _ hinfo bytes rfl))⟩
  | recalcChecksum curve => exact absurd rfl (hne curve)
  | funcExecute func error input output =>
    obtain ⟨info, hinfo, hout⟩ := funcExecuteRequest_sent hprep
    refine agrees_of_operate h hr hprep rfl fun {_ a r} ha hc => ?_
    have hcode := hc.code
    by_cases hret : r.code = CommandCode.funcReturn.toByte
    · have hlen : info.outputSize.toNat ≤ (output.getD []).length := by
        cases output with
        | none =>
          have hz : info.outputSize = 0 := by_contra fun hne => hout hne rfl
          rw [hz]
          exact Nat.zero_le _
        | some bytes => exact (hb info hinfo).2 bytes rfl
      obtain ⟨out', htake⟩ := slice_deliver r (info.outputSize.toNat_lt.le.trans (by decide)) hlen
      refine ⟨.success, (0, out'), ?_, iff_of_true rfl (by rw [← hcode, hret]; rfl)⟩
      obtain ⟨bytes, hslice, hdeliver⟩ := Checked.bind_ok_iff.mp htake
      simp only [hret, if_true, hinfo, Option.elim_some, hslice, ok_bind, hdeliver]
      rfl
    by_cases herr : r.code = CommandCode.funcError.toByte
    · refine ⟨.success, _, (if_neg hret).trans (if_pos herr), iff_of_true rfl (by rw [← hcode, herr]; rfl)⟩
    · refine ⟨.comm, _, (if_neg hret).trans (if_neg herr), iff_of_false (by decide) fun hok => ?_⟩
      obtain ⟨d, hd, hd'⟩ := ha.code hok
      rw [← hcode] at hd'
      simp only [cmd, CommandCode.answers, List.mem_cons, List.not_mem_nil, or_false] at hd
      rcases hd with rfl | rfl
      · exact hret hd'
      · exact herr hd'
  | createGroup list => exact agrees_of_followed h hr hprep rfl rfl
  | removeAllGroups => exact agrees_of_followed h hr hprep rfl rfl
  | _ => exact agrees_of_operate h hr hprep rfl fun ha hc => ha.accepting rfl hc fun _ => ⟨(), rfl⟩

/-- Whatever the answer to `CMD_CURVE_RECALC_CSUM`, it is not the one waited for. -/
theorem recalcChecksum_comm (md5 : Md5) (area noise : Nat → UInt8) (h : RepInv s.chan.system)
    (hr : RespectsSizes s.chan.system) {curve : Option Nat}
    {payload : List UInt8} (hprep : recalcChecksumRequest s.client curve = .ok (.ok payload)) :
    ∃ system a s', Answered md5 area s.chan.system .curveRecalcCsum payload system a ∧
      (Operation.recalcChecksum curve).run (link md5 area noise) s = .ok (.comm, s') ∧
        s'.chan.system = system := by
  obtain ⟨system, a, ha⟩ := exists_answered h hr md5 area .curveRecalcCsum payload
  obtain ⟨r, s', hcarries, -, hsystem, hop⟩ := operate_link noise (recalcChecksumRequest · curve) hprep
    ha.respond ha.sendable () fun _ => accepting .ok () fun _ => .ok ()
  have hcode : r.code ≠ CommandCode.ok.toByte := by
    rw [hcarries.code]
    intro hok
    obtain ⟨d, hd, hd'⟩ := ha.code (by rw [hok]; rfl)
    cases List.mem_singleton.mp hd
    rw [hok] at hd'
    cases hd'
  have hf : accepting .ok () (fun _ => .ok ()) r = .ok (.comm, ()) := if_neg hcode
  rw [hf] at hop
  exact ⟨system, a, s', ha, map_of (followedBy_failed hop (by decide)), hsystem⟩

theorem recalcChecksum_agrees_iff (h : RepInv s.chan.system) (hr : RespectsSizes s.chan.system)
    (hd : Describes s.client s.chan.system) {curve : Option Nat}
    (hp : (Operation.recalcChecksum curve).Passes s.client) :
    Agrees md5 area noise s (.recalcChecksum curve) ↔
      (Operation.recalcChecksum curve).Judged s.chan.system := by
  obtain ⟨payload, hprep⟩ := hp.prepared (Operation.prepare_returns h hd trivial nofun)
  obtain ⟨info, hinfo, rfl⟩ := recalcChecksumRequest_sent hprep
  obtain ⟨i, p, rfl, hget, rfl⟩ := hd.curve hinfo
  obtain ⟨system, a, s', ha, hrun, hsystem⟩ := recalcChecksum_comm md5 area noise h hr hprep
  have hfails := ha.curveRecalcCsum h (List.mem_of_getElem? hget)
  constructor
  · rintro ⟨payload', system', a', err, s'', hprep', hresp, hrun', -, hv⟩ j q hj hq
    cases hj
    cases hget.symm.trans hq
    cases hprep.symm.trans hprep'
    cases ha.respond.symm.trans hresp
    cases hrun.symm.trans hrun'
    rw [← hfails]
    exact Bool.eq_true_of_not_eq_false fun hok => nomatch hv.mpr hok
  · intro hj
    refine ⟨_, system, a, .comm, s', hprep, ha.respond, hrun, by rw [hsystem], iff_of_false (by decide) ?_⟩
    rw [hfails, hj i p rfl hget]
    decide

/-- **Verdicts.** Over a channel that loses nothing, an operation whose
arguments pass its checks returns success exactly when the server answered
with something other than an error, save for two: `bsmp_recalc_checksum` when
the server tells a checksum, and `bsmp_create_group` given more variables than
a payload holds. -/
theorem verdict_iff (md5 : Md5) (area noise : Nat → UInt8) (s : Session (Peer σ)) (op : Operation)
    (hs : Reachable md5 s.chan.system) (hr : RespectsSizes s.chan.system)
    (hd : Describes s.client s.chan.system)
    (hp : op.Passes s.client) (hb : op.Buffers s.client) :
    Agrees md5 area noise s op ↔ op.Judged s.chan.system := by
  have h := hs.repInv
  cases op with
  | createGroup list =>
    constructor
    · rintro ⟨payload, system, a, err, s', hprep, -⟩ vars rfl
      simpa using createGroupLoop_length (Nat.zero_le _) hprep
    · intro hj
      refine Operation.agrees h hr hd hp hb (fun vars hvars => ?_) nofun
      cases hvars
      exact hj vars rfl
  | recalcChecksum curve => exact recalcChecksum_agrees_iff h hr hd hp
  | _ => exact iff_of_true (Operation.agrees h hr hd hp hb nofun nofun) trivial

end Operations

/-- A client that knows the plant. -/
def plantClient : Client where
  serverVersion := Version.ofBytes 2 20 0
  vars := [⟨0, true, 2⟩, ⟨1, false, 1⟩]
  groups := [⟨0, false, 3, 2, [0, 1]⟩, ⟨1, false, 1, 1, [1]⟩, ⟨2, true, 2, 1, [0]⟩]
  curves := [⟨0, true, 2, 4, Vector.replicate _ 0⟩]
  funcs := [⟨0, 1, 1⟩]

theorem plantClient_describes : Describes plantClient plant := ⟨rfl, rfl, rfl, rfl⟩

/-- The first variable of the plant is read. -/
theorem verdict_iff_plant :
    Agrees byteSum (fun _ => 0) (fun _ => 0) ⟨plantClient, ⟨plant, none⟩, []⟩
      (.readVar (some 0) (some [0, 0])) ↔
      (Operation.readVar (some 0) (some [0, 0])).Judged plant := by
  refine verdict_iff byteSum _ _ ⟨plantClient, ⟨plant, none⟩, []⟩ _ plant_reachable plant_respectsSizes
    plantClient_describes ?_ ?_
  · rintro err ⟨⟩
  · rintro info ⟨⟩ bytes ⟨⟩
    decide

/-- The plant tells the checksum of its curve, and the client reports a failure. -/
theorem verdict_wrong_recalcChecksum :
    Reachable byteSum plant ∧ RespectsSizes plant ∧ Describes plantClient plant ∧
      (Operation.recalcChecksum (some 0)).Passes plantClient ∧
      ¬ Agrees byteSum (fun _ => 0) (fun _ => 0) ⟨plantClient, ⟨plant, none⟩, []⟩
        (.recalcChecksum (some 0)) := by
  have hpasses : (Operation.recalcChecksum (some 0)).Passes plantClient := by rintro err ⟨⟩
  refine ⟨plant_reachable, plant_respectsSizes, plantClient_describes, hpasses, fun hagrees => ?_⟩
  have hfails := (recalcChecksum_agrees_iff (s := ⟨plantClient, ⟨plant, none⟩, []⟩) plant_reachable.repInv
    plant_respectsSizes plantClient_describes hpasses).mp hagrees 0 0 rfl rfl
  exact absurd hfails (by decide)

end UdcFirmware.Bsmp
