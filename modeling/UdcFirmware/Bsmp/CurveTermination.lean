/-
The end of a transfer of a whole curve.

`Comm.recorded` keeps the messages that are sent over a channel, so that the
requests of a transfer can be counted. The peer is any that answers every
request for a block with a block and takes every block (`AlwaysAnswers`). One
turn of a loop then asks for one block, or stops; so before block 65535 the
offsets asked for are 0, 1, 2, … (`Asked`). The counter has 16 bits: it never
reaches 65536, and after block 65535 a peer with full blocks is asked for block
0 again, for ever (`readCurveLoop_diverges`).
-/
import UdcFirmware.Bsmp.CurveTransfer

namespace UdcFirmware.Bsmp

open Checked Stateful

/-! ## What is sent -/

section Recorded

variable {τ : Type}

/-- The channel, with a record of the messages sent over it. -/
def Comm.recorded (comm : Comm τ) : Comm (τ × List (List UInt8)) where
  send msg t := ((comm.send msg t.1).1, (comm.send msg t.1).2, t.2 ++ [msg])
  recv t := ((comm.recv t.1).1, (comm.recv t.1).2, t.2)
  junk t := comm.junk t.1

/-- The block offset in a request for a block, or in a block. -/
def blockOffset (msg : List UInt8) : UInt16 := ofBeBytes (msg.getD 4 0) (msg.getD 5 0)

/-- At most `n` requests, for different blocks. -/
def AtMostOnce (n : Nat) (sent : List (List UInt8)) : Prop :=
  sent.length ≤ n ∧ (sent.map blockOffset).Nodup

/-- A whole answer with a block of `n` bytes: curve id, offset, block. -/
structure Received.IsBlock (r : Received) (n : Nat) : Prop where
  code : r.data 0 = CommandCode.curveBlock.toByte
  size : r.size = bsmpHeaderSize + (bsmpCurveBlockInfo + n)
  payloadSize : ofBeBytes (r.data 1) (r.data 2) = UInt16.ofNat (bsmpCurveBlockInfo + n)

/-- A request for a block is answered with a block, full or short, and a block
with success. -/
structure AlwaysAnswers (comm : Comm τ) (blockSize : UInt16) : Prop where
  send : ∀ msg t, (comm.send msg t).1 = true
  request : ∀ payload t, ∃ r n,
    (comm.recv (comm.send (sendBuf .curveBlockRequest payload) t).2).1 = some r ∧
      r.IsBlock n ∧ n ≤ blockSize.toNat
  block : ∀ payload t, ∃ r, (comm.recv (comm.send (sendBuf .curveBlock payload) t).2).1 = some r ∧
    r.data 0 = CommandCode.ok.toByte ∧ r.size = bsmpHeaderSize

/-- Reading the curve that the client knows as `entry` ends, and so does
writing it, after at most `n` requests, for different blocks, whoever answers. -/
def TransfersEnd (entry : CurveInfo) (n : Nat) : Prop :=
  ∀ (τ : Type) (comm : Comm τ), AlwaysAnswers comm entry.blockSize →
    ∀ (s : Session (τ × List (List UInt8))) (i : Nat), s.client.curve? (some i) = some entry → s.chan.2 = [] →
      (∀ buf len, entry.nblocks.toNat * entry.blockSize.toNat ≤ buf.length →
        ∃ fuel r s', bsmpReadCurve comm.recorded fuel (some i) (some buf) (some len) s = .ok (r, s') ∧
          AtMostOnce n s'.chan.2) ∧
      ∀ buf len, len.toNat ≤ buf.length →
        ∃ fuel r s', bsmpWriteCurve comm.recorded fuel (some i) (some buf) len s = .ok (r, s') ∧
          AtMostOnce n s'.chan.2

/-- The requests so far are for the blocks before `j`, in order. -/
def Asked (j : Nat) (s : Session (τ × List (List UInt8))) : Prop :=
  s.chan.2.map blockOffset = (List.range j).map UInt16.ofNat

variable {comm : Comm τ} {s s' : Session (τ × List (List UInt8))} {info : CurveInfo} {i j m n : Nat}
  {offset : UInt16}

theorem Asked.atMostOnce (h : Asked j s) (hj : j ≤ n) (hmax : j ≤ bsmpCurveMaxBlocks) :
    AtMostOnce n s.chan.2 := by
  constructor
  · have hlen := congrArg List.length h
    rw [List.length_map, List.length_map, List.length_range] at hlen
    omega
  · rw [show s.chan.2.map blockOffset = _ from h]
    refine List.Nodup.map_on (fun a ha b hb hab => ?_) List.nodup_range
    have hnat := congrArg UInt16.toNat hab
    rwa [ofNat_toNat_block ((List.mem_range.mp ha).trans_le hmax),
      ofNat_toNat_block ((List.mem_range.mp hb).trans_le hmax)] at hnat

theorem Asked.next (h : Asked j s) {msg : List UInt8} (hmsg : blockOffset msg = UInt16.ofNat j)
    (hs : s'.chan.2 = s.chan.2 ++ [msg]) : Asked (j + 1) s' := by
  unfold Asked at h ⊢
  rw [hs, List.map_append, h, List.range_succ, List.map_append]
  exact congrArg _ (congrArg (fun a => [a]) hmsg)

theorem blockOffset_sendBuf (cmd : CommandCode) (id : UInt8) (offset : UInt16) (bytes : List UInt8) :
    blockOffset (sendBuf cmd (id :: beBytes offset ++ bytes)) = offset :=
  ofBeBytes_beBytes offset

/-- A command that is sent and answered leaves one message in the record. -/
theorem command_recorded {cmd : CommandCode} {payload : List UInt8} {r : Received}
    (hsend : ∀ msg t, (comm.send msg t).1 = true)
    (hr : (comm.recv (comm.send (sendBuf cmd payload) s.chan.1).2).1 = some r)
    (hmin : 2 ≤ r.size) (hmax : r.size ≤ bsmpMaxPayload) :
    ∃ junk s', Session.command comm.recorded cmd payload s = .ok (some (r.response junk), s') ∧
      s'.client = s.client ∧ s'.chan.2 = s.chan.2 ++ [sendBuf cmd payload] := by
  have hsent : comm.recorded.send (sendBuf cmd payload) s.chan =
      (true, (comm.send (sendBuf cmd payload) s.chan.1).2, s.chan.2 ++ [sendBuf cmd payload]) :=
    Prod.ext (hsend _ _) rfl
  obtain ⟨log, hcmd⟩ := command_of hsent (Prod.ext hr rfl) hmin hmax
  exact ⟨_, _, hcmd, rfl, rfl⟩

/-! ## One block -/

/-- One request for a block, up to what is made of the answer. -/
theorem request_recorded (hcurve : s.client.curve? (some i) = some info)
    (hoff : offset.toNat ≤ info.nblocks.toNat) (out : List UInt8) {r : Received}
    (hsend : ∀ msg t, (comm.send msg t).1 = true)
    (hr : (comm.recv (comm.send (sendBuf .curveBlockRequest (info.id :: beBytes offset)) s.chan.1).2).1 =
      some r)
    (hb : r.IsBlock n) (hn : n ≤ bsmpCurveBlockMaxSize) :
    ∃ junk s', bsmpRequestCurveBlock comm.recorded (some i) offset (some out) (some 0) s =
        (takeBlock out (r.response junk) >>= fun out => .ok ((.success, out), s')) ∧
      s'.client = s.client ∧
      s'.chan.2 = s.chan.2 ++ [sendBuf .curveBlockRequest (info.id :: beBytes offset)] := by
  have hprep : requestCurveBlockRequest s.client (some i) offset (some out) (some 0) =
      .ok (.ok (info.id :: beBytes offset)) := by
    simp only [requestCurveBlockRequest, hcurve]
    rw [if_neg (by omega)]
    exact packed_ok (by simp [beBytes])
  simp only [bsmpCurveBlockMaxSize] at hn
  have hsize := hb.size
  simp only [bsmpHeaderSize, bsmpCurveBlockInfo] at hsize
  obtain ⟨junk, s', hcmd, hclient, hsent⟩ := command_recorded hsend hr (by omega)
    (by simp only [bsmpMaxPayload]; omega)
  have hcode : (r.response junk).code = CommandCode.curveBlock.toByte := hb.code
  refine ⟨junk, s', ?_, hclient, hsent⟩
  rw [bsmpRequestCurveBlock, operate_send hprep, bind_of hcmd]
  show (liftM (accepting .curveBlock (out, 0) (takeBlock out) (r.response junk)) : Action _ _) s' = _
  rw [accepting, if_pos hcode]
  cases takeBlock out (r.response junk) <;> rfl

theorem Received.IsBlock.len {r : Received} (hb : r.IsBlock n) (junk : Nat → UInt8) :
    (r.response junk).payloadSize - UInt16.ofNat bsmpCurveBlockInfo = UInt16.ofNat n := by
  show ofBeBytes (r.data 1) (r.data 2) - _ = _
  rw [hb.payloadSize, UInt16.ofNat_add, UInt16.add_comm, UInt16.add_sub_cancel]

theorem takeBlock_room {r : Received} (hb : r.IsBlock n) (hn : n ≤ bsmpCurveBlockMaxSize) {out : List UInt8}
    (hout : n ≤ out.length) (junk : Nat → UInt8) :
    ∃ block, takeBlock out (r.response junk) = .ok (block, UInt16.ofNat n) ∧ block.length = out.length := by
  have hnat : (UInt16.ofNat n).toNat = n := UInt16.toNat_ofNat_of_lt (Nat.lt_of_le_of_lt hn (by decide))
  simp only [bsmpCurveBlockMaxSize] at hn
  have hfits : bsmpCurveBlockInfo + n ≤ bsmpMaxPayload := by
    simp only [bsmpCurveBlockInfo, bsmpMaxPayload]
    omega
  refine ⟨(List.range n).map (fun j => (r.response junk).payload (bsmpCurveBlockInfo + j)) ++ out.drop n,
    ?_, ?_⟩
  · simp only [takeBlock, hb.len, hnat, Response.slice, if_pos hfits, ok_bind, deliver, List.length_map,
      List.length_range, if_pos hout]
    rfl
  · rw [List.length_append, List.length_map, List.length_range, List.length_drop]
    omega

theorem takeBlock_len {r : Received} (hb : r.IsBlock n) {out block : List UInt8} {len : UInt16}
    {junk : Nat → UInt8} (h : takeBlock out (r.response junk) = .ok (block, len)) : len = UInt16.ofNat n := by
  obtain ⟨bytes, -, h⟩ := Checked.bind_ok_iff.mp h
  obtain ⟨out', -, h⟩ := Checked.bind_ok_iff.mp h
  cases h
  exact hb.len junk

/-! ## The loops -/

/-- Reading, from block `j` on. -/
theorem AlwaysAnswers.read_ends (ha : AlwaysAnswers comm info.blockSize) (hmax : info.nblocks.toNat ≤ 65535)
    (hbs : info.blockSize.toNat ≤ bsmpCurveBlockMaxSize) {k : Nat} (hk : j + k = info.nblocks.toNat)
    (hcurve : s.client.curve? (some i) = some info) (hj : Asked j s) {buf : List UInt8}
    (hbuf : info.nblocks.toNat * info.blockSize.toNat ≤ buf.length) (len : UInt32) :
    ∃ r s', readCurveLoop comm.recorded i info (k + 1) (UInt16.ofNat j) (j * info.blockSize.toNat) buf len s =
        .ok (r, s') ∧ AtMostOnce info.nblocks.toNat s'.chan.2 := by
  have hblk : (UInt16.ofNat j).toNat = j := ofNat_toNat_block (by simp only [bsmpCurveMaxBlocks]; omega)
  induction k generalizing j s buf len with
  | zero =>
    exact ⟨_, s, readCurveLoop_done 0 (by rw [hblk]; omega), hj.atMostOnce (by omega)
      (by simp only [bsmpCurveMaxBlocks]; omega)⟩
  | succ k ih =>
    obtain ⟨r, n, hr, hb, hn⟩ := ha.request (info.id :: beBytes (UInt16.ofNat j)) s.chan.1
    have hlt : j < info.nblocks.toNat := by omega
    have hroom : (j + 1) * info.blockSize.toNat ≤ buf.length := (Nat.mul_le_mul_right _ hlt).trans hbuf
    rw [Nat.succ_mul] at hroom
    obtain ⟨junk, s₁, hop, hclient, hsent⟩ := request_recorded hcurve (by rw [hblk]; omega)
      (buf.drop (j * info.blockSize.toNat)) ha.send hr hb (hn.trans hbs)
    have hrest : n ≤ (buf.drop (j * info.blockSize.toNat)).length := by
      rw [List.length_drop]
      omega
    obtain ⟨block, hblock, hlength⟩ := takeBlock_room hb (hn.trans hbs) hrest junk
    rw [hblock, ok_bind] at hop
    have hj₁ : Asked (j + 1) s₁ := hj.next (blockOffset_sendBuf _ _ _ []) hsent
    rw [readCurveLoop_next (k + 1) (by rw [hblk]; exact hlt) hop]
    split
    · exact ⟨_, s₁, rfl, hj₁.atMostOnce hlt (by simp only [bsmpCurveMaxBlocks]; omega)⟩
    · have hlength' : (buf.take (j * info.blockSize.toNat) ++ block).length = buf.length := by
        rw [List.length_append, hlength, ← List.length_append, List.take_append_drop]
      rw [← Nat.succ_mul, show UInt16.ofNat j + 1 = UInt16.ofNat (j + 1) from (UInt16.ofNat_add j 1).symm]
      exact ih (by omega) (hclient ▸ hcurve) hj₁ (hlength' ▸ hbuf) _
        (ofNat_toNat_block (by simp only [bsmpCurveMaxBlocks]; omega))

/-- Sending a block: refused by the client, or one message. -/
theorem AlwaysAnswers.send_recorded (ha : AlwaysAnswers comm info.blockSize)
    (hbs : info.blockSize.toNat ≤ bsmpCurveBlockMaxSize) (hcurve : s.client.curve? (some i) = some info)
    (hoff : offset.toNat ≤ info.nblocks.toNat) {buf : List UInt8} {len : UInt16} (hlen : len ≤ info.blockSize)
    (hbuf : len.toNat ≤ buf.length) :
    (info.writable = false ∧
      bsmpSendCurveBlock comm.recorded (some i) offset (some buf) len s = .ok ((.paramInvalid, ()), s)) ∨
    (info.writable = true ∧ ∃ s',
      bsmpSendCurveBlock comm.recorded (some i) offset (some buf) len s = .ok ((.success, ()), s') ∧
      s'.client = s.client ∧ ∃ msg, s'.chan.2 = s.chan.2 ++ [msg] ∧ blockOffset msg = offset) := by
  cases hwr : info.writable with
  | false =>
    have hprep : sendCurveBlockRequest s.client (some i) offset (some buf) len =
        .ok (.error .paramInvalid) := by
      simp only [sendCurveBlockRequest, hcurve, hwr]
      rfl
    refine .inl ⟨rfl, ?_⟩
    rw [bsmpSendCurveBlock, operate, get_bind, lift_bind, hprep]
    rfl
  | true =>
    have hle := UInt16.le_iff_toNat_le.mp hlen
    simp only [bsmpCurveBlockMaxSize] at hbs
    have hprep : sendCurveBlockRequest s.client (some i) offset (some buf) len =
        .ok (.ok (info.id :: beBytes offset ++ buf.take len.toNat)) := by
      simp only [sendCurveBlockRequest, hcurve, hwr, Bool.not_true, Bool.false_eq_true, if_false]
      rw [if_neg (by omega), if_neg (UInt16.not_lt.mpr hlen)]
      exact fetch_packed _ hbuf (by simp [beBytes]; omega)
    obtain ⟨r, hr, hcode, hsize⟩ := ha.block (info.id :: beBytes offset ++ buf.take len.toNat) s.chan.1
    obtain ⟨junk, s', hcmd, hclient, hsent⟩ := command_recorded ha.send hr (by rw [hsize]; decide)
      (by rw [hsize]; decide)
    refine .inr ⟨rfl, s', ?_, hclient, _, hsent, blockOffset_sendBuf _ _ _ _⟩
    rw [bsmpSendCurveBlock, operate_send hprep, bind_of hcmd]
    have hcode' : (r.response junk).code = CommandCode.ok.toByte := hcode
    show (liftM (accepting .ok () (fun _ => .ok ()) (r.response junk)) : Action _ _) s' = _
    rw [accepting, if_pos hcode']
    rfl

theorem blockLength_le (len : UInt32) (blockSize : UInt16) :
    blockLength len blockSize ≤ blockSize ∧ (blockLength len blockSize).toNat ≤ len.toNat := by
  have hnat := blockLength_toNat blockSize len.toNat_lt
  rw [UInt32.ofNat_toNat] at hnat
  exact ⟨UInt16.le_iff_toNat_le.mpr (by omega), by omega⟩

/-- What is left after a block. -/
theorem sub_blockLength_le {len : UInt32} {blockSize : UInt16} {buf : List UInt8}
    (h : len.toNat ≤ buf.length) :
    (len - (blockLength len blockSize).toUInt32).toNat ≤
      (buf.drop (blockLength len blockSize).toNat).length := by
  have hle := (blockLength_le len blockSize).2
  rw [UInt32.toNat_sub_of_le _ _ (UInt32.le_iff_toNat_le.mpr (by rwa [UInt16.toNat_toUInt32])),
    UInt16.toNat_toUInt32, List.length_drop]
  omega

/-- Writing, from block `j` on. -/
theorem AlwaysAnswers.write_ends (ha : AlwaysAnswers comm info.blockSize) (hmax : info.nblocks.toNat ≤ 65535)
    (hbs : info.blockSize.toNat ≤ bsmpCurveBlockMaxSize) {k : Nat} (hk : j + k = info.nblocks.toNat)
    (hcurve : s.client.curve? (some i) = some info) (hj : Asked j s) {buf : List UInt8} {len : UInt32}
    (hbuf : len.toNat ≤ buf.length) :
    ∃ r s', writeCurveLoop comm.recorded i info (k + 1) (UInt16.ofNat j) buf len s = .ok (r, s') ∧
      AtMostOnce info.nblocks.toNat s'.chan.2 := by
  have hblk : (UInt16.ofNat j).toNat = j := ofNat_toNat_block (by simp only [bsmpCurveMaxBlocks]; omega)
  induction k generalizing j s buf len with
  | zero =>
    exact ⟨_, s, writeCurveLoop_done 0 (by rw [hblk]; omega), hj.atMostOnce (by omega)
      (by simp only [bsmpCurveMaxBlocks]; omega)⟩
  | succ k ih =>
    have hlt : j < info.nblocks.toNat := by omega
    have hoff : (UInt16.ofNat j).toNat < info.nblocks.toNat := by rw [hblk]; exact hlt
    obtain ⟨hlen, hlen'⟩ := blockLength_le len info.blockSize
    rcases ha.send_recorded hbs hcurve hoff.le hlen (hlen'.trans hbuf) with
      ⟨-, hop⟩ | ⟨-, s₁, hop, hclient, msg, hsent, hmsg⟩
    · exact ⟨_, s, writeCurveLoop_failed (k + 1) hoff hop (by decide), hj.atMostOnce (by omega)
        (by simp only [bsmpCurveMaxBlocks]; omega)⟩
    · rw [writeCurveLoop_next (k + 1) hoff hop,
        show UInt16.ofNat j + 1 = UInt16.ofNat (j + 1) from (UInt16.ofNat_add j 1).symm]
      exact ih (by omega) (hclient ▸ hcurve) (hj.next hmsg hsent) (sub_blockLength_le hbuf)
        (ofNat_toNat_block (by simp only [bsmpCurveMaxBlocks]; omega))

end Recorded

/-! ## A curve of 65536 blocks -/

/-- A peer whose blocks are all full. It only remembers the last command. -/
def fullPeer (n : Nat) (hn : n ≤ bsmpCurveBlockMaxSize) : Comm UInt8 where
  send msg _ := (true, msg.headD 0)
  recv cmd :=
    (some (if cmd = CommandCode.curveBlockRequest.toByte then
      { data := fun i =>
          (CommandCode.curveBlock.toByte :: beBytes (UInt16.ofNat (bsmpCurveBlockInfo + n))).getD i 0
        size := bsmpHeaderSize + (bsmpCurveBlockInfo + n)
        bound := Nat.add_le_add_left (le_trans (Nat.add_le_add_left hn _) (by decide)) _ }
    else
      { data := fun i => [CommandCode.ok.toByte].getD i 0
        size := bsmpHeaderSize
        bound := Nat.le_add_right _ _ }), cmd)
  junk _ _ := 0

section Full

variable {n : Nat} {s : Session (UInt8 × List (List UInt8))} {info : CurveInfo} {i : Nat}

/-- The answer to a request for a block. -/
theorem fullPeer_request (hn : n ≤ bsmpCurveBlockMaxSize) (payload : List UInt8) (cmd : UInt8) :
    ∃ r, ((fullPeer n hn).recv ((fullPeer n hn).send (sendBuf .curveBlockRequest payload) cmd).2).1 = some r ∧
      r.IsBlock n :=
  ⟨_, congrArg some (if_pos rfl), rfl, rfl, ofBeBytes_beBytes _⟩

theorem fullPeer_answers (info : CurveInfo) (hn : info.blockSize.toNat ≤ bsmpCurveBlockMaxSize) :
    AlwaysAnswers (fullPeer info.blockSize.toNat hn) info.blockSize where
  send _ _ := rfl
  request payload cmd := by
    obtain ⟨r, hr, hb⟩ := fullPeer_request hn payload cmd
    exact ⟨r, _, hr, hb, Nat.le_refl _⟩
  block _ _ := by
    have hne : CommandCode.curveBlock.toByte ≠ CommandCode.curveBlockRequest.toByte := by decide
    exact ⟨_, congrArg some (if_neg hne), rfl, rfl⟩

/-- Reading never ends by itself: a 16-bit counter is below 65536. It goes on
until the caller's buffer is overrun, however large. -/
theorem readCurveLoop_diverges (hn : info.blockSize.toNat ≤ bsmpCurveBlockMaxSize)
    (hall : info.nblocks.toNat = bsmpCurveMaxBlocks) (hcurve : s.client.curve? (some i) = some info)
    (fuel : Nat) (blk : UInt16) (bufp : Nat) (buf : List UInt8) (len : UInt32) :
    ∀ r, readCurveLoop (fullPeer info.blockSize.toNat hn).recorded i info fuel blk bufp buf len s ≠
      .ok r := by
  have hblk : ∀ blk : UInt16, blk.toNat < info.nblocks.toNat := fun blk => hall ▸ blk.toNat_lt
  induction fuel generalizing blk bufp buf len s with
  | zero => exact fun _ h => by cases h
  | succ fuel ih =>
    intro r h
    obtain ⟨answer, hanswer, hb⟩ := fullPeer_request hn (info.id :: beBytes blk) s.chan.1
    obtain ⟨junk, s', hop, hclient, -⟩ := request_recorded hcurve (hblk blk).le (buf.drop bufp)
      (fun _ _ => rfl) hanswer hb hn
    cases ht : takeBlock (buf.drop bufp) (answer.response junk) with
    | error f =>
      rw [ht] at hop
      rw [readCurveLoop, if_pos (hblk blk)] at h
      obtain ⟨a, s₁, ha, -⟩ := Stateful.bind_ok_iff.mp h
      cases ha.symm.trans hop
    | ok out =>
      obtain ⟨block, blklen⟩ := out
      rw [ht, ok_bind] at hop
      have hfull : blklen = info.blockSize := by
        rw [takeBlock_len hb ht, UInt16.ofNat_toNat]
      rw [readCurveLoop_next fuel (hblk blk) hop, if_neg (by rw [hfull]; exact UInt16.lt_irrefl _)] at h
      exact ih (hclient ▸ hcurve) _ _ _ _ r h

end Full

/-- Writing never ends: past the end of the data its blocks are empty, and
taken all the same. -/
theorem AlwaysAnswers.write_diverges {τ : Type} {comm : Comm τ} {s : Session (τ × List (List UInt8))}
    {info : CurveInfo} {i : Nat} (ha : AlwaysAnswers comm info.blockSize)
    (hbs : info.blockSize.toNat ≤ bsmpCurveBlockMaxSize) (hall : info.nblocks.toNat = bsmpCurveMaxBlocks)
    (hwr : info.writable = true) (hcurve : s.client.curve? (some i) = some info) {buf : List UInt8}
    {len : UInt32} (hbuf : len.toNat ≤ buf.length) (fuel : Nat) (blk : UInt16) :
    writeCurveLoop comm.recorded i info fuel blk buf len s = .error .outOfFuel := by
  have hblk : ∀ blk : UInt16, blk.toNat < info.nblocks.toNat := fun blk => hall ▸ blk.toNat_lt
  induction fuel generalizing blk buf len s with
  | zero => rfl
  | succ fuel ih =>
    obtain ⟨hlen, hlen'⟩ := blockLength_le len info.blockSize
    rcases ha.send_recorded hbs hcurve (hblk blk).le hlen (hlen'.trans hbuf) with
      ⟨hro, -⟩ | ⟨-, s₁, hop, hclient, -⟩
    · cases hwr.symm.trans hro
    · rw [writeCurveLoop_next fuel (hblk blk) hop]
      exact ih (hclient ▸ hcurve) (sub_blockLength_le hbuf) _

/-! ## When transfers end -/

theorem transfersEnd_of_le {info : CurveInfo} (hmax : info.nblocks.toNat ≤ 65535)
    (hbs : info.blockSize.toNat ≤ bsmpCurveBlockMaxSize) : TransfersEnd info info.nblocks.toNat := by
  intro τ comm ha s i hcurve hsent
  have h₀ : Asked 0 s := by rw [Asked, hsent]; rfl
  constructor
  · intro buf len hbuf
    obtain ⟨r, s', hloop, honce⟩ := ha.read_ends hmax hbs (Nat.zero_add _) hcurve h₀ hbuf 0
    rw [Nat.zero_mul] at hloop
    have hrun : bsmpReadCurve comm.recorded (info.nblocks.toNat + 1) (some i) (some buf) (some len) s =
        .ok (r, s') := by
      unfold bsmpReadCurve
      rw [get_bind, hcurve]
      exact hloop
    exact ⟨_, r, s', hrun, honce⟩
  · intro buf len hbuf
    obtain ⟨r, s', hloop, honce⟩ := ha.write_ends hmax hbs (Nat.zero_add _) hcurve h₀ hbuf
    have hrun : bsmpWriteCurve comm.recorded (info.nblocks.toNat + 1) (some i) (some buf) len s =
        .ok (r, s') := by
      unfold bsmpWriteCurve
      rw [get_bind, hcurve]
      exact hloop
    exact ⟨_, r, s', hrun, honce⟩

theorem not_transfersEnd {info : CurveInfo} (hall : info.nblocks.toNat = bsmpCurveMaxBlocks)
    (hbs : info.blockSize.toNat ≤ bsmpCurveBlockMaxSize) (n : Nat) : ¬ TransfersEnd info n := by
  intro h
  let client : Client := ⟨Version.ofBytes 0 0 0, [], [], [info], []⟩
  let s : Session (UInt8 × List (List UInt8)) := ⟨client, (0, []), []⟩
  have hcurve : s.client.curve? (some 0) = some info := rfl
  obtain ⟨hread, -⟩ := h UInt8 _ (fullPeer_answers info hbs) s 0 hcurve rfl
  obtain ⟨fuel, r, s', hrun, -⟩ := hread (List.replicate (info.nblocks.toNat * info.blockSize.toNat) 0) 0
    (by rw [List.length_replicate])
  unfold bsmpReadCurve at hrun
  rw [get_bind, hcurve] at hrun
  exact readCurveLoop_diverges hbs hall hcurve fuel 0 0 _ 0 (r, s') hrun

/-- **Transfers end.** For a curve that a server can have registered, a
transfer ends after at most as many requests as there are blocks, for different
blocks, exactly when there are at most 65535. Where the client has the curve
from the list of the server, no blocks read as 65536. -/
theorem transfersEnd_iff (info : CurveInfo) (hnblocks : info.nblocks.toNat ≤ bsmpCurveMaxBlocks)
    (hbs : info.blockSize.toNat ≤ bsmpCurveBlockMaxSize) :
    (TransfersEnd info info.nblocks.toNat ↔ info.nblocks.toNat ≤ 65535) ∧
      (TransfersEnd info.seen info.nblocks.toNat ↔ 0 < info.nblocks.toNat ∧ info.nblocks.toNat ≤ 65535) := by
  simp only [bsmpCurveMaxBlocks] at hnblocks
  have hiff : TransfersEnd info info.nblocks.toNat ↔ info.nblocks.toNat ≤ 65535 := by
    refine ⟨fun h => ?_, fun hmax => transfersEnd_of_le hmax hbs⟩
    by_contra hlt
    exact not_transfersEnd (by simp only [bsmpCurveMaxBlocks]; omega) hbs _ h
  refine ⟨hiff, ?_⟩
  rcases Nat.eq_zero_or_pos info.nblocks.toNat with hz | hpos
  · have hall : info.seen.nblocks.toNat = bsmpCurveMaxBlocks := by
      rw [CurveInfo.seen, if_pos (UInt32.toNat_inj.mp hz)]
      rfl
    exact iff_of_false (not_transfersEnd hall hbs _) (by omega)
  · rw [(CurveInfo.seen_eq_iff info).mpr hpos, hiff]
    exact ⟨fun h => ⟨hpos, h⟩, fun h => h.2⟩

/-- A curve with all the blocks the protocol allows, of four bytes each. -/
def longCurve : CurveInfo where
  id := 0
  writable := true
  nblocks := UInt32.ofNat bsmpCurveMaxBlocks
  blockSize := 4
  checksum := Vector.replicate _ 0

theorem transfersEnd_iff_long :
    (TransfersEnd longCurve longCurve.nblocks.toNat ↔ longCurve.nblocks.toNat ≤ 65535) ∧
      (TransfersEnd longCurve.seen longCurve.nblocks.toNat ↔
        0 < longCurve.nblocks.toNat ∧ longCurve.nblocks.toNat ≤ 65535) :=
  transfersEnd_iff longCurve (by decide) (by decide)

/-- Writing one byte to it goes on for ever. -/
theorem longCurve_never_ends :
    longCurve.nblocks.toNat ≤ bsmpCurveMaxBlocks ∧ longCurve.blockSize.toNat ≤ bsmpCurveBlockMaxSize ∧
      AlwaysAnswers (fullPeer 4 (by decide)) longCurve.blockSize ∧
      (∀ fuel, bsmpWriteCurve (fullPeer 4 (by decide)).recorded fuel (some 0) (some [1]) 1
        ⟨⟨Version.ofBytes 0 0 0, [], [], [longCurve], []⟩, (0, []), []⟩ = .error .outOfFuel) ∧
      ¬ TransfersEnd longCurve longCurve.nblocks.toNat := by
  have ha : AlwaysAnswers (fullPeer 4 (by decide)) longCurve.blockSize :=
    fullPeer_answers longCurve (by decide)
  refine ⟨by decide, by decide, ha, fun fuel => ?_, not_transfersEnd rfl (by decide) _⟩
  have hbuf : (1 : UInt32).toNat ≤ [(1 : UInt8)].length := Nat.le_refl 1
  exact ha.write_diverges (by decide) rfl rfl rfl hbuf fuel 0

end UdcFirmware.Bsmp
