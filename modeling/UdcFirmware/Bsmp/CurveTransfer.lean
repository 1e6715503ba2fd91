/-
A whole curve, written and read back.

The curve's callbacks are taken to keep what they are given (`Keeps`). One
block over the link then sets one block of the curve (`Serving.send`), or
tells it (`Serving.request`), and the two loops of the client go from block
to block (`Stateful.steps_of`). The reader stops at the first short block. The
writer does not stop when it has nothing left: it sends the remaining blocks
with no bytes, which the server refuses, and its 16-bit counter never gets
past a last block 65535. `roundTrip_iff` says that what is written comes back
exactly when the bytes reach into the last block and the blocks are fewer
than 65536.
-/
import UdcFirmware.Lib.Blocks
import UdcFirmware.Bsmp.Verdicts

namespace UdcFirmware.Bsmp

open Blocks ByteMem Checked Stateful

variable {σ : Type} {md5 : Md5} {area noise : Nat → UInt8}

/-! ## Curves that keep their blocks -/

/-- What is written to a block is what it holds, and what is read from it. -/
structure Keeps (c : Curve σ) (stored : World σ → UInt16 → List UInt8) : Prop where
  write : ∀ f, c.writeBlock = some f → ∀ block data w, block.toNat < c.info.nblocks.toNat →
    data.length ≤ c.info.blockSize.toNat →
    (f block data w).1 = true ∧ stored (f block data w).2 = Function.update (stored w) block data
  read : ∀ f, c.readBlock = some f → ∀ block w, block.toNat < c.info.nblocks.toNat →
    (f block w).1 = true ∧ (f block w).2.1 = stored w block ∧ stored (f block w).2.2 = stored w

/-- The client knows entry `i` as `info`, the server has a curve like that at
`p`, and its blocks are `blocks`. -/
structure Serving (i : Nat) (p : Ptr) (info : CurveInfo) (stored : World σ → UInt16 → List UInt8)
    (blocks : UInt16 → List UInt8) (s : Session (Peer σ)) : Prop where
  client : s.client.curve? (some i) = some info
  repInv : RepInv s.chan.system
  mem : p ∈ s.chan.system.server.curves
  id : (s.chan.system.objs.curve p).info.id = info.id
  writable : (s.chan.system.objs.curve p).info.writable = info.writable
  nblocks : (s.chan.system.objs.curve p).info.nblocks = info.nblocks
  blockSize : (s.chan.system.objs.curve p).info.blockSize = info.blockSize
  keeps : Keeps (s.chan.system.objs.curve p) stored
  blocks : stored s.chan.system.world = blocks

variable {i : Nat} {p : Ptr} {info : CurveInfo} {stored : World σ → UInt16 → List UInt8}
  {blocks : UInt16 → List UInt8} {s : Session (Peer σ)}

/-- A block that is read is told over the link. -/
theorem request_told (hclient : s.client.curve? (some i) = some info) (hinv : RepInv s.chan.system)
    (hmem : p ∈ s.chan.system.server.curves) (hid : (s.chan.system.objs.curve p).info.id = info.id)
    (hnblocks : (s.chan.system.objs.curve p).info.nblocks = info.nblocks) (md5 : Md5)
    (area noise : Nat → UInt8) {f : UInt16 → World σ → Bool × List UInt8 × World σ}
    (hf : (s.chan.system.objs.curve p).readBlock = some f) {offset : UInt16} {out : List UInt8}
    (hok : (f offset s.chan.system.world).1 = true) (hoff : offset.toNat < info.nblocks.toNat)
    (hlen : (f offset s.chan.system.world).2.1.length ≤ bsmpCurveBlockMaxSize)
    (hout : (f offset s.chan.system.world).2.1.length ≤ out.length) :
    ∃ s', bsmpRequestCurveBlock (link md5 area noise) (some i) offset (some out) (some 0) s =
        .ok ((.success, (f offset s.chan.system.world).2.1 ++
          out.drop (f offset s.chan.system.world).2.1.length,
          UInt16.ofNat (f offset s.chan.system.world).2.1.length), s') ∧
      s'.client = s.client ∧ s'.chan.system = { s.chan.system.clearModified with
        world := (f offset s.chan.system.world).2.2
        trace := s.chan.system.trace ++ [.readBlock p offset] } := by
  have hmax := hlen
  simp only [bsmpCurveBlockMaxSize] at hmax
  have hprep : requestCurveBlockRequest s.client (some i) offset (some out) (some 0) =
      .ok (.ok (info.id :: beBytes offset)) := by
    simp only [requestCurveBlockRequest, hclient]
    rw [if_neg (by omega)]
    exact packed_ok (by simp [beBytes])
  have hinv' : RepInv s.chan.system.clearModified := hinv.same (clearModified_same _)
  have hread := callReadBlock_eq (s := s.chan.system.clearModified) hf offset
  have hrun := hinv'.curveBlockRequest_ok hmem (hnblocks ▸ hoff) hread
  have hid' : (s.chan.system.clearModified.objs.curve p).info.id = info.id := hid
  have hdone : (f offset s.chan.system.clearModified.world).1 = true := hok
  rw [hid', hdone, if_pos rfl] at hrun
  have hc : command md5 area CommandCode.curveBlockRequest.toByte (σ := σ) = some curveBlockRequest := rfl
  have hresp := (respond_request (s := s.chan.system) hc (by simp [beBytes])).trans hrun
  have ha : (reply .curveBlock
      (UInt16.ofNat (f offset s.chan.system.world).2.1.length + UInt16.ofNat bsmpCurveBlockInfo)
      (info.id :: beBytes offset ++ (f offset s.chan.system.world).2.1)).Sendable := by
    refine sendable_reply (by decide) ?_ (by simp [beBytes]; omega)
    rw [UInt16.toNat_add, UInt16.toNat_ofNat', UInt16.toNat_ofNat']
    simp only [List.length_append, List.length_cons, beBytes, List.length_nil, bsmpCurveBlockInfo]
    omega
  obtain ⟨r, s', hcarries, hclient', hsystem, hop⟩ :=
    operate_link noise (requestCurveBlockRequest · (some i) offset
    (some out) (some 0)) hprep hresp ha (out, 0) fun _ => accepting .curveBlock (out, 0) (takeBlock out)
  have hcode : r.code = CommandCode.curveBlock.toByte := hcarries.code
  rw [accepting, if_pos hcode, takeBlock_ok hcarries hlen hout] at hop
  exact ⟨s', hop, hclient', hsystem⟩

namespace Serving

theorem nblocks_le (h : Serving i p info stored blocks s) : info.nblocks.toNat ≤ bsmpCurveMaxBlocks := by
  rw [← h.nblocks]
  exact (curveCheck_success (h.repInv.curves.checked p h.mem)).1

theorem blockSize_le (h : Serving i p info stored blocks s) :
    info.blockSize.toNat ≤ bsmpCurveBlockMaxSize := by
  rw [← h.blockSize]
  exact (curveCheck_success (h.repInv.curves.checked p h.mem)).2.1

/-- What the commands leave alone. -/
theorem moved (h : Serving i p info stored blocks s) {blocks' : UInt16 → List UInt8} {s' : Session (Peer σ)}
    (hclient : s'.client = s.client) (hinv : RepInv s'.chan.system)
    (happ : SameApplication s.chan.system s'.chan.system) (hstored : stored s'.chan.system.world = blocks') :
    Serving i p info stored blocks' s' := by
  obtain ⟨c, hc⟩ := happ.curve p
  refine ⟨by rw [hclient]; exact h.client, hinv, by rw [happ.curves]; exact h.mem, ?_, ?_, ?_, ?_, ?_,
    hstored⟩
  · rw [hc]; exact h.id
  · rw [hc]; exact h.writable
  · rw [hc]; exact h.nblocks
  · rw [hc]; exact h.blockSize
  · rw [hc]; exact ⟨h.keeps.write, h.keeps.read⟩

/-! ## One block -/

theorem send_request (h : Serving i p info stored blocks s) {offset len : UInt16} {buf : List UInt8}
    (hwr : info.writable = true) (hoff : offset.toNat < info.nblocks.toNat) (hlen : len ≤ info.blockSize)
    (hbuf : len.toNat ≤ buf.length) :
    sendCurveBlockRequest s.client (some i) offset (some buf) len =
      .ok (.ok (info.id :: beBytes offset ++ buf.take len.toNat)) := by
  have hle := UInt16.le_iff_toNat_le.mp hlen
  have hmax := h.blockSize_le
  simp only [bsmpCurveBlockMaxSize] at hmax
  simp only [sendCurveBlockRequest, h.client, hwr, Bool.not_true, Bool.false_eq_true, if_false]
  rw [if_neg (by omega), if_neg (UInt16.not_lt.mpr hlen)]
  exact fetch_packed _ hbuf (by simp [beBytes]; omega)

theorem send (h : Serving i p info stored blocks s) (md5 : Md5) (area noise : Nat → UInt8)
    {offset len : UInt16} {buf : List UInt8}
    (hwr : info.writable = true) (hoff : offset.toNat < info.nblocks.toNat) (hpos : 0 < len.toNat)
    (hlen : len ≤ info.blockSize) (hbuf : len.toNat ≤ buf.length) :
    ∃ s', bsmpSendCurveBlock (link md5 area noise) (some i) offset (some buf) len s =
      .ok ((.success, ()), s') ∧
      Serving i p info stored (Function.update blocks offset (buf.take len.toNat)) s' := by
  have hprep := h.send_request hwr hoff hlen hbuf
  have hle := UInt16.le_iff_toNat_le.mp hlen
  have hmax := h.blockSize_le
  simp only [bsmpCurveBlockMaxSize] at hmax
  have hdata : (buf.take len.toNat).length = len.toNat := by rw [List.length_take]; omega
  have hinv : RepInv s.chan.system.clearModified := h.repInv.same (clearModified_same _)
  obtain ⟨f, hf⟩ := (curveCheck_success (h.repInv.curves.checked p h.mem)).2.2.2 (h.writable.trans hwr)
  obtain ⟨hok, hstored⟩ := h.keeps.write f hf offset (buf.take len.toNat) s.chan.system.world
    (by rw [h.nblocks]; exact hoff) (by rw [h.blockSize, hdata]; exact hle)
  have hwrite := callWriteBlock_eq (s := s.chan.system.clearModified) hf offset (buf.take len.toNat)
  have hrun := hinv.curveBlock_ok h.mem (by rw [hdata]; exact hpos) (by rw [hdata]; exact h.blockSize ▸ hle)
    (h.nblocks ▸ hoff) (h.writable.trans hwr) hwrite
  have hid : (s.chan.system.clearModified.objs.curve p).info.id = info.id := h.id
  have hdone : (f offset (buf.take len.toNat) s.chan.system.clearModified.world).1 = true := hok
  rw [hid, hdone, if_pos rfl] at hrun
  have hc : command md5 area CommandCode.curveBlock.toByte (σ := σ) = some curveBlock := rfl
  have hresp := (respond_request (s := s.chan.system) hc (by simp [beBytes]; omega)).trans hrun
  obtain ⟨r, s', hcarries, hclient, hsystem, hop⟩ :=
    operate_link noise (sendCurveBlockRequest · (some i) offset
    (some buf) len) hprep hresp (sendable_answer _) () fun _ => accepting .ok () fun _ => .ok ()
  have hf : accepting .ok () (fun _ => .ok ()) r = .ok (.success, ()) := if_pos hcarries.code
  rw [hf] at hop
  refine ⟨s', hop, h.moved hclient ?_ ?_ ?_⟩
  · rw [hsystem]
    exact (hinv.same (.worldTrace _ _ _)).setChecksum _ _
  · rw [hsystem]
    exact ((clearModified_same _).trans (.worldTrace _ _ _)).application.trans (.setChecksum _ _ _)
  · rw [hsystem, ← h.blocks]
    exact hstored

/-- A block with no bytes is refused. -/
theorem send_empty (h : Serving i p info stored blocks s) (md5 : Md5) (area noise : Nat → UInt8)
    {offset : UInt16} (buf : List UInt8)
    (hwr : info.writable = true) (hoff : offset.toNat < info.nblocks.toNat) :
    ∃ s', bsmpSendCurveBlock (link md5 area noise) (some i) offset (some buf) 0 s =
      .ok ((.comm, ()), s') := by
  have hprep : sendCurveBlockRequest s.client (some i) offset (some buf) 0 =
    .ok (.ok (info.id :: beBytes offset)) :=
    (h.send_request hwr hoff (UInt16.le_iff_toNat_le.mpr (Nat.zero_le _)) (Nat.zero_le _)).trans (by simp)
  have hc : command md5 area CommandCode.curveBlock.toByte (σ := σ) = some curveBlock := rfl
  have hresp := (respond_request (s := s.chan.system) hc (by simp [beBytes])).trans
    (curveBlock_empty s.chan.system.clearModified info.id offset)
  obtain ⟨r, s', hcarries, -, -, hop⟩ :=
    operate_link noise (sendCurveBlockRequest · (some i) offset (some buf) 0)
    hprep hresp (sendable_answer _) () fun _ => accepting .ok () fun _ => .ok ()
  have hcode : r.code ≠ CommandCode.ok.toByte := by
    rw [hcarries.code]
    decide
  have hf : accepting .ok () (fun _ => .ok ()) r = .ok (.comm, ()) := if_neg hcode
  rw [hf] at hop
  exact ⟨s', hop⟩

/-- A block is told as it is. -/
theorem request (h : Serving i p info stored blocks s) (md5 : Md5) (area noise : Nat → UInt8)
    {offset : UInt16} {out : List UInt8}
    (hoff : offset.toNat < info.nblocks.toNat) (hlen : (blocks offset).length ≤ info.blockSize.toNat)
    (hout : (blocks offset).length ≤ out.length) :
    ∃ s', bsmpRequestCurveBlock (link md5 area noise) (some i) offset (some out) (some 0) s =
        .ok ((.success, blocks offset ++ out.drop (blocks offset).length,
          UInt16.ofNat (blocks offset).length), s') ∧
      Serving i p info stored blocks s' := by
  obtain ⟨f, hf⟩ := (curveCheck_success (h.repInv.curves.checked p h.mem)).2.2.1
  obtain ⟨hok, hdata, hstored⟩ := h.keeps.read f hf offset s.chan.system.world (by rw [h.nblocks]; exact hoff)
  rw [h.blocks] at hdata
  have hmax : (f offset s.chan.system.world).2.1.length ≤ bsmpCurveBlockMaxSize := by
    rw [hdata]
    exact hlen.trans h.blockSize_le
  have hroom : (f offset s.chan.system.world).2.1.length ≤ out.length := hdata ▸ hout
  obtain ⟨s', hop, hclient, hsystem⟩ :=
    request_told h.client h.repInv h.mem h.id h.nblocks md5 area noise hf hok hoff hmax hroom
  rw [hdata] at hop
  refine ⟨s', hop, h.moved hclient ?_ ?_ ?_⟩
  · rw [hsystem]
    exact (h.repInv.same (clearModified_same _)).same (.worldTrace _ _ _)
  · rw [hsystem]
    exact ((clearModified_same _).trans (.worldTrace _ _ _)).application
  · rw [hsystem, ← h.blocks]
    exact hstored

end Serving

/-! ## The writer -/

theorem ofNat_toNat_block {j : Nat} (h : j < bsmpCurveMaxBlocks) : (UInt16.ofNat j).toNat = j :=
  UInt16.toNat_ofNat_of_lt h

theorem blockLength_toNat (blockSize : UInt16) {len : Nat} (h : len < UInt32.size) :
    (blockLength (UInt32.ofNat len) blockSize).toNat = min len blockSize.toNat := by
  have hnat : (UInt32.ofNat len).toNat = len := UInt32.toNat_ofNat_of_lt h
  have hsize := blockSize.toNat_lt
  have hlt : UInt32.ofNat len < blockSize.toUInt32 ↔ len < blockSize.toNat := by
    rw [UInt32.lt_iff_toNat_lt, hnat, UInt16.toNat_toUInt32]
  unfold blockLength
  by_cases hshort : len < blockSize.toNat
  · rw [if_pos (hlt.mpr hshort), UInt32.toNat_toUInt16, hnat]
    omega
  · rw [if_neg (mt hlt.mp hshort)]
    omega

theorem sub_blockLength (blockSize : UInt16) {len : Nat} (h : len < UInt32.size) :
    UInt32.ofNat len - (blockLength (UInt32.ofNat len) blockSize).toUInt32 =
      UInt32.ofNat (len - blockSize.toNat) := by
  have hnat : (UInt32.ofNat len).toNat = len := UInt32.toNat_ofNat_of_lt h
  have hrest : (UInt32.ofNat (len - blockSize.toNat)).toNat = len - blockSize.toNat :=
    UInt32.toNat_ofNat_of_lt (by omega)
  have hblk := blockLength_toNat blockSize h
  apply UInt32.toNat_inj.mp
  rw [UInt32.toNat_sub_of_le, UInt16.toNat_toUInt32, hblk, hnat, hrest]
  · omega
  · rw [UInt32.le_iff_toNat_le, UInt16.toNat_toUInt32, hblk, hnat]
    exact Nat.min_le_left _ _

theorem writeCurveLoop_next {τ : Type} {comm : Comm τ} {s s' : Session τ} {blk : UInt16} {buf : List UInt8}
    {len : UInt32} (fuel : Nat) (h : blk.toNat < info.nblocks.toNat)
    (hop : bsmpSendCurveBlock comm (some i) blk (some buf) (blockLength len info.blockSize) s =
      .ok ((.success, ()), s')) :
    writeCurveLoop comm i info (fuel + 1) blk buf len s =
      writeCurveLoop comm i info fuel (blk + 1) (buf.drop (blockLength len info.blockSize).toNat)
        (len - (blockLength len info.blockSize).toUInt32) s' := by
  rw [writeCurveLoop, if_pos h]
  refine (bind_of hop).trans ?_
  exact congrFun (if_neg (by simp)) s'

/-- The writer at block `j`. -/
def writerAt (md5 : Md5) (area noise : Nat → UInt8) (i : Nat) (info : CurveInfo) (buf : List UInt8)
    (fuel j : Nat) :
    Action (Peer σ) (BsmpErr × Unit) :=
  writeCurveLoop (link md5 area noise) i info fuel (UInt16.ofNat j) (buf.drop (j * info.blockSize.toNat))
    (UInt32.ofNat (buf.length - j * info.blockSize.toNat))

/-- The blocks before `j` are written. -/
def Written (i : Nat) (p : Ptr) (info : CurveInfo) (stored : World σ → UInt16 → List UInt8) (buf : List UInt8)
    (j : Nat) (s : Session (Peer σ)) : Prop :=
  ∃ blocks, Serving i p info stored blocks s ∧
    ∀ k < j, blocks (UInt16.ofNat k) = block info.blockSize.toNat k buf

section Writer

variable {buf : List UInt8} {j : Nat}

/-- A curve holds less than 4 GiB. -/
theorem Serving.capacity (h : Serving i p info stored blocks s)
    (hcap : buf.length ≤ info.nblocks.toNat * info.blockSize.toNat) : buf.length < UInt32.size :=
  Nat.lt_of_le_of_lt (hcap.trans (Nat.mul_le_mul h.nblocks_le h.blockSize_le)) (by decide)

/-- Bytes that are left go into a block that is. -/
theorem lt_nblocks (hcap : buf.length ≤ info.nblocks.toNat * info.blockSize.toNat)
    (hj : j * info.blockSize.toNat < buf.length) : j < info.nblocks.toNat :=
  Nat.lt_of_mul_lt_mul_right (Nat.lt_of_lt_of_le hj hcap)

theorem Written.next (h : Written i p info stored buf j s) (md5 : Md5) (area noise : Nat → UInt8)
    (hwr : info.writable = true) (hbs : 0 < info.blockSize.toNat)
    (hcap : buf.length ≤ info.nblocks.toNat * info.blockSize.toNat)
    (hj : j * info.blockSize.toNat < buf.length) :
    ∃ s', Written i p info stored buf (j + 1) s' ∧
      ∀ fuel, writerAt md5 area noise i info buf (fuel + 1) j s =
        writerAt md5 area noise i info buf fuel (j + 1) s' := by
  obtain ⟨blocks, hs, hblocks⟩ := h
  have hmax := hs.nblocks_le
  have hlt := lt_nblocks hcap hj
  have hblk : (UInt16.ofNat j).toNat = j := ofNat_toNat_block (by omega)
  have hoff : (UInt16.ofNat j).toNat < info.nblocks.toNat := hblk.symm ▸ hlt
  have hsize : buf.length - j * info.blockSize.toNat < UInt32.size :=
    Nat.lt_of_le_of_lt (Nat.sub_le _ _) (hs.capacity hcap)
  let len := blockLength (UInt32.ofNat (buf.length - j * info.blockSize.toNat)) info.blockSize
  have hlen : len.toNat = min (buf.length - j * info.blockSize.toNat) info.blockSize.toNat :=
    blockLength_toNat info.blockSize hsize
  have hpos : 0 < len.toNat := by omega
  have hle : len ≤ info.blockSize := UInt16.le_iff_toNat_le.mpr (by omega)
  have hbuf : len.toNat ≤ (buf.drop (j * info.blockSize.toNat)).length := by rw [List.length_drop]; omega
  obtain ⟨s', hop, hs'⟩ := hs.send md5 area noise hwr hoff hpos hle hbuf
  rw [hlen, take_drop_eq_block] at hs'
  refine ⟨s', ⟨_, hs', fun k hk => ?_⟩, fun fuel => ?_⟩
  · by_cases hkj : k = j
    · subst hkj
      exact Function.update_self ..
    · have hne : UInt16.ofNat k ≠ UInt16.ofNat j := fun he => hkj (by
        have := congrArg UInt16.toNat he
        rwa [hblk, ofNat_toNat_block (by omega)] at this)
      rw [Function.update_of_ne hne]
      exact hblocks k (by omega)
  · unfold writerAt
    rw [writeCurveLoop_next fuel hoff hop, hlen, drop_drop_block,
      sub_blockLength info.blockSize hsize, Nat.sub_sub, ← Nat.succ_mul, UInt16.ofNat_add]
    rfl

/-- With nothing left to write, the writer ends at the end of the curve, and
elsewhere has a block refused. -/
theorem Written.end (h : Written i p info stored buf j s) (md5 : Md5) (area noise : Nat → UInt8)
    (hwr : info.writable = true) (hj : buf.length ≤ j * info.blockSize.toNat)
    (fuel : Nat) :
    if (UInt16.ofNat j).toNat < info.nblocks.toNat then
      ∃ s', writerAt md5 area noise i info buf (fuel + 1) j s = .ok ((.comm, ()), s')
    else writerAt md5 area noise i info buf (fuel + 1) j s = .ok ((.success, ()), s) := by
  obtain ⟨blocks, hs, -⟩ := h
  split
  · next hoff =>
    have hlen : blockLength (UInt32.ofNat (buf.length - j * info.blockSize.toNat)) info.blockSize = 0 := by
      apply UInt16.toNat_inj.mp
      rw [Nat.sub_eq_zero_of_le hj, blockLength_toNat _ (by decide)]
      exact Nat.min_eq_left (Nat.zero_le _)
    obtain ⟨s', hop⟩ := hs.send_empty md5 area noise (buf.drop (j * info.blockSize.toNat)) hwr hoff
    rw [← hlen] at hop
    exact ⟨s', writeCurveLoop_failed fuel hoff hop (by decide)⟩
  · next hoff => exact writeCurveLoop_done fuel hoff

theorem Serving.written (h : Serving i p info stored blocks s) (buf : List UInt8) :
    Written i p info stored buf 0 s := ⟨blocks, h, fun _ hk => absurd hk (Nat.not_lt_zero _)⟩

/-- The writer gets to any block up to the end of the bytes. -/
theorem Serving.writer (h : Serving i p info stored blocks s) (md5 : Md5) (area noise : Nat → UInt8)
    (hwr : info.writable = true) (hbs : 0 < info.blockSize.toNat)
    (hcap : buf.length ≤ info.nblocks.toNat * info.blockSize.toNat) :
    ∀ m ≤ count info.blockSize.toNat buf.length, ∃ s', Written i p info stored buf m s' ∧
      ∀ fuel, writerAt md5 area noise i info buf (fuel + m) 0 s =
        writerAt md5 area noise i info buf fuel m s' :=
  fun _ => steps_of
    (fun _ hj _ hs => hs.next md5 area noise hwr hbs hcap ((lt_count hbs).mp hj)) (h.written buf)

/-- The bytes reach into the last block, and the blocks can be counted. -/
def Fills (info : CurveInfo) (len : Nat) : Prop :=
  info.nblocks.toNat ≤ 65535 ∧ (info.nblocks.toNat - 1) * info.blockSize.toNat < len

theorem Serving.write_ok (h : Serving i p info stored blocks s) (md5 : Md5) (area noise : Nat → UInt8)
    (hwr : info.writable = true) (hbs : 0 < info.blockSize.toNat)
    (hcap : buf.length ≤ info.nblocks.toNat * info.blockSize.toNat) (hfills : Fills info buf.length) :
    ∃ fuel s', writerAt md5 area noise i info buf fuel 0 s = .ok ((.success, ()), s') ∧
      Written i p info stored buf info.nblocks.toNat s' := by
  obtain ⟨hmax, hlast⟩ := hfills
  have hcount : count info.blockSize.toNat buf.length = info.nblocks.toNat := by
    have h₁ := (lt_count hbs).mpr hlast
    have h₂ := (count_le hbs).mpr hcap
    omega
  obtain ⟨s', hs', hrun⟩ := h.writer md5 area noise hwr hbs hcap info.nblocks.toNat (Nat.le_of_eq hcount.symm)
  have hend := hs'.end md5 area noise hwr hcap 0
  rw [if_neg (by rw [UInt16.toNat_ofNat']; omega)] at hend
  exact ⟨_, s', (hrun 1).trans hend, hs'⟩

theorem Serving.write_fails (h : Serving i p info stored blocks s) (md5 : Md5) (area noise : Nat → UInt8)
    (hwr : info.writable = true) (hbs : 0 < info.blockSize.toNat)
    (hcap : buf.length ≤ info.nblocks.toNat * info.blockSize.toNat) (hpos : 0 < buf.length)
    (hfills : ¬ Fills info buf.length) (fuel : Nat) (s' : Session (Peer σ)) :
    writerAt md5 area noise i info buf fuel 0 s ≠ .ok ((.success, ()), s') := by
  intro hok
  have hcount := (count_le hbs).mpr hcap
  have hmax := h.nblocks_le
  simp only [bsmpCurveMaxBlocks] at hmax
  rcases Nat.lt_or_ge (count info.blockSize.toNat buf.length) fuel with hlt | hle
  · obtain ⟨s₁, hs₁, hrun⟩ := h.writer md5 area noise hwr hbs hcap _ (Nat.le_refl _)
    obtain ⟨rest, rfl⟩ : ∃ rest, fuel = rest + 1 + count info.blockSize.toNat buf.length :=
      ⟨fuel - 1 - count info.blockSize.toNat buf.length, by omega⟩
    have hend := hs₁.end md5 area noise hwr ((count_le hbs).mp (Nat.le_refl _)) rest
    have hoff : (UInt16.ofNat (count info.blockSize.toNat buf.length)).toNat < info.nblocks.toNat := by
      rw [UInt16.toNat_ofNat']
      rcases Nat.lt_or_ge (count info.blockSize.toNat buf.length) info.nblocks.toNat with hlt' | hge
      · omega
      · -- All blocks are written, so there are 65536, and the counter is back at 0.
        have hsome := lt_nblocks hcap (j := 0) (by omega)
        have hall : ¬ info.nblocks.toNat ≤ 65535 := fun hle =>
          hfills ⟨hle, (lt_count hbs).mp (by omega)⟩
        omega
    rw [if_pos hoff] at hend
    obtain ⟨s₂, hcomm⟩ := hend
    rw [hrun (rest + 1), hcomm] at hok
    cases hok
  · -- Not even the bytes are all written.
    obtain ⟨s₁, -, hrun⟩ := h.writer md5 area noise hwr hbs hcap fuel hle
    have hout := hrun 0
    rw [Nat.zero_add, hok] at hout
    cases hout

end Writer

/-! ## The reader -/

theorem readCurveLoop_next {τ : Type} {comm : Comm τ} {s s' : Session τ} {blk : UInt16} {bufp : Nat}
    {buf block : List UInt8} {len : UInt32} {blklen : UInt16} (fuel : Nat)
    (h : blk.toNat < info.nblocks.toNat)
    (hop : bsmpRequestCurveBlock comm (some i) blk (some (buf.drop bufp)) (some 0) s =
      .ok ((.success, block, blklen), s')) :
    readCurveLoop comm i info (fuel + 1) blk bufp buf len s =
      if blklen < info.blockSize then .ok ((.success, buf.take bufp ++ block, len + blklen.toUInt32), s')
      else readCurveLoop comm i info fuel (blk + 1) (bufp + info.blockSize.toNat) (buf.take bufp ++ block)
        (len + blklen.toUInt32) s' := by
  rw [readCurveLoop, if_pos h, bind_of hop]
  refine (congrFun (if_neg (by simp)) s').trans ?_
  split
  · rfl
  · rfl

/-- The reader at block `j`, the blocks before it read. -/
def readerAt (md5 : Md5) (area noise : Nat → UInt8) (i : Nat) (info : CurveInfo) (buf out : List UInt8)
    (fuel j : Nat) : Action (Peer σ) (BsmpErr × List UInt8 × UInt32) :=
  readCurveLoop (link md5 area noise) i info fuel (UInt16.ofNat j) (j * info.blockSize.toNat)
    (buf.take (j * info.blockSize.toNat) ++ out.drop (j * info.blockSize.toNat))
    (UInt32.ofNat (j * info.blockSize.toNat))

section Reader

variable {buf out : List UInt8} {j : Nat}

/-- Block `j` is asked for, and told. -/
theorem Written.request (h : Written i p info stored buf info.nblocks.toNat s) (md5 : Md5)
    (area noise : Nat → UInt8)
    (hout : info.nblocks.toNat * info.blockSize.toNat ≤ out.length) (hlt : j < info.nblocks.toNat)
    (hj : j * info.blockSize.toNat ≤ buf.length) :
    ∃ s', bsmpRequestCurveBlock (link md5 area noise) (some i) (UInt16.ofNat j)
        (some ((buf.take (j * info.blockSize.toNat) ++ out.drop (j * info.blockSize.toNat)).drop
          (j * info.blockSize.toNat))) (some 0) s =
        .ok ((.success, block info.blockSize.toNat j buf ++
            (out.drop (j * info.blockSize.toNat)).drop (block info.blockSize.toNat j buf).length,
          UInt16.ofNat (block info.blockSize.toNat j buf).length), s') ∧
      Written i p info stored buf info.nblocks.toNat s' := by
  obtain ⟨blocks, hs, hblocks⟩ := h
  have hmax := hs.nblocks_le
  have hblk : (UInt16.ofNat j).toNat = j := ofNat_toNat_block (by omega)
  have hroom : (j + 1) * info.blockSize.toNat ≤ out.length :=
    (Nat.mul_le_mul_right _ hlt).trans hout
  rw [Nat.succ_mul] at hroom
  have hlen : (blocks (UInt16.ofNat j)).length ≤ info.blockSize.toNat := by
    rw [hblocks j hlt, length_block]
    exact Nat.min_le_left _ _
  have hfits : (blocks (UInt16.ofNat j)).length ≤ (out.drop (j * info.blockSize.toNat)).length := by
    rw [List.length_drop]
    omega
  obtain ⟨s', hop, hs'⟩ := hs.request md5 area noise (hblk.symm ▸ hlt) hlen hfits
  rw [hblocks j hlt] at hop
  rw [List.drop_left' (by rw [List.length_take]; omega)]
  exact ⟨s', hop, blocks, hs', hblocks⟩

theorem readerAt_next {s' : Session (Peer σ)} {bytes : List UInt8} (fuel : Nat)
    (hoff : (UInt16.ofNat j).toNat < info.nblocks.toNat) (hj : j * info.blockSize.toNat ≤ buf.length)
    (hlen : bytes.length < UInt16.size)
    (hop : bsmpRequestCurveBlock (link md5 area noise) (some i) (UInt16.ofNat j)
        (some ((buf.take (j * info.blockSize.toNat) ++ out.drop (j * info.blockSize.toNat)).drop
          (j * info.blockSize.toNat))) (some 0) s =
      .ok ((.success, bytes ++ (out.drop (j * info.blockSize.toNat)).drop bytes.length,
        UInt16.ofNat bytes.length), s')) :
    readerAt md5 area noise i info buf out (fuel + 1) j s =
      if UInt16.ofNat bytes.length < info.blockSize then
        .ok ((.success, buf.take (j * info.blockSize.toNat) ++ bytes ++
          out.drop (j * info.blockSize.toNat + bytes.length),
          UInt32.ofNat (j * info.blockSize.toNat + bytes.length)), s')
      else readCurveLoop (link md5 area noise) i info fuel (UInt16.ofNat (j + 1))
        ((j + 1) * info.blockSize.toNat)
        (buf.take (j * info.blockSize.toNat) ++ bytes ++ out.drop (j * info.blockSize.toNat + bytes.length))
        (UInt32.ofNat (j * info.blockSize.toNat + bytes.length)) s' := by
  unfold readerAt
  rw [readCurveLoop_next fuel hoff hop, List.take_left' (by rw [List.length_take]; omega), List.drop_drop,
    ← List.append_assoc, Nat.succ_mul, UInt16.ofNat_add, UInt16.toUInt32_ofNat' hlen, ← UInt32.ofNat_add]
  rfl

theorem Written.read_next (h : Written i p info stored buf info.nblocks.toNat s) (md5 : Md5)
    (area noise : Nat → UInt8) (hbs : 0 < info.blockSize.toNat)
    (hcap : buf.length ≤ info.nblocks.toNat * info.blockSize.toNat)
    (hout : info.nblocks.toNat * info.blockSize.toNat ≤ out.length)
    (hj : (j + 1) * info.blockSize.toNat ≤ buf.length) :
    ∃ s', Written i p info stored buf info.nblocks.toNat s' ∧
      ∀ fuel, readerAt md5 area noise i info buf out (fuel + 1) j s =
        readerAt md5 area noise i info buf out fuel (j + 1) s' := by
  have hlt : j < info.nblocks.toNat := Nat.le_of_mul_le_mul_right (hj.trans hcap) hbs
  have hj' : j * info.blockSize.toNat ≤ buf.length := by rw [Nat.succ_mul] at hj; omega
  obtain ⟨s', hop, hs'⟩ := h.request md5 area noise hout hlt hj'
  obtain ⟨blocks, hs, -⟩ := h
  have hmax := hs.nblocks_le
  have hoff : (UInt16.ofNat j).toNat < info.nblocks.toNat :=
    (ofNat_toNat_block (j := j) (by omega)).symm ▸ hlt
  have hlen : (block info.blockSize.toNat j buf).length = info.blockSize.toNat := length_block_full hj
  refine ⟨s', hs', fun fuel => ?_⟩
  rw [readerAt_next fuel hoff hj' (by rw [hlen]; exact info.blockSize.toNat_lt) hop, hlen, UInt16.ofNat_toNat,
    if_neg (UInt16.lt_irrefl _), take_append_block, ← Nat.succ_mul]
  rfl

/-- The reader gets past the full blocks. -/
theorem Written.reader (h : Written i p info stored buf info.nblocks.toNat s) (md5 : Md5)
    (area noise : Nat → UInt8) (hbs : 0 < info.blockSize.toNat)
    (hcap : buf.length ≤ info.nblocks.toNat * info.blockSize.toNat)
    (hout : info.nblocks.toNat * info.blockSize.toNat ≤ out.length) :
    ∃ s', Written i p info stored buf info.nblocks.toNat s' ∧
      ∀ fuel, readerAt md5 area noise i info buf out (fuel + buf.length / info.blockSize.toNat) 0 s =
        readerAt md5 area noise i info buf out fuel (buf.length / info.blockSize.toNat) s' :=
  steps_of (I := fun _ => Written i p info stored buf info.nblocks.toNat)
    (fun _ hj _ hs => hs.read_next md5 area noise hbs hcap hout ((Nat.le_div_iff_mul_le hbs).mp hj))
    h (Nat.le_refl _)

/-- The reader ends with the first block that is not full, or at the end of the curve. -/
theorem Written.read_end (h : Written i p info stored buf info.nblocks.toNat s) (md5 : Md5)
    (area noise : Nat → UInt8) (hmax : info.nblocks.toNat ≤ 65535)
    (hcap : buf.length ≤ info.nblocks.toNat * info.blockSize.toNat)
    (hout : info.nblocks.toNat * info.blockSize.toNat ≤ out.length)
    (hj : j * info.blockSize.toNat ≤ buf.length) (hj' : buf.length < (j + 1) * info.blockSize.toNat)
    (fuel : Nat) :
    ∃ bytes s', readerAt md5 area noise i info buf out (fuel + 1) j s =
        .ok ((.success, bytes, UInt32.ofNat buf.length), s') ∧ bytes.take buf.length = buf := by
  rw [Nat.succ_mul] at hj'
  rcases Nat.lt_or_ge j info.nblocks.toNat with hlt | hge
  · obtain ⟨s', hop, -⟩ := h.request md5 area noise hout hlt hj
    have hoff : (UInt16.ofNat j).toNat < info.nblocks.toNat :=
      (UInt16.toNat_ofNat_of_lt (Nat.lt_of_lt_of_le hlt (hmax.trans (by decide)))).symm ▸ hlt
    have hlen : (buf.drop (j * info.blockSize.toNat)).length < info.blockSize.toNat := by
      rw [List.length_drop]
      omega
    have hsize : (buf.drop (j * info.blockSize.toNat)).length < UInt16.size :=
      hlen.trans info.blockSize.toNat_lt
    have hshort : UInt16.ofNat (buf.drop (j * info.blockSize.toNat)).length < info.blockSize := by
      rw [UInt16.lt_iff_toNat_lt]
      exact (UInt16.toNat_ofNat_of_lt hsize).symm ▸ hlen
    have hsum : j * info.blockSize.toNat + (buf.drop (j * info.blockSize.toNat)).length = buf.length := by
      rw [List.length_drop]
      omega
    rw [block_last (by rw [Nat.succ_mul]; omega)] at hop
    rw [readerAt_next fuel hoff hj hsize hop, if_pos hshort, List.take_append_drop, hsum]
    exact ⟨_, s', rfl, List.take_left⟩
  · -- All blocks were full.
    have hle : j * info.blockSize.toNat = buf.length :=
      Nat.le_antisymm hj (hcap.trans (Nat.mul_le_mul_right _ hge))
    have hjn : j ≤ info.nblocks.toNat := Nat.le_of_mul_le_mul_right (hj.trans hcap) (by omega)
    have hoff : ¬ (UInt16.ofNat j).toNat < info.nblocks.toNat := by
      rw [UInt16.toNat_ofNat']
      omega
    refine ⟨_, s, readCurveLoop_done fuel hoff |>.trans (by rw [hle]), ?_⟩
    rw [List.take_length]
    exact List.take_left

end Reader

/-! ## There and back -/

/-- Writing the bytes succeeds, and reading the curve after it succeeds with
as many bytes, and with the same. -/
def RoundTrip (md5 : Md5) (area noise : Nat → UInt8) (s : Session (Peer σ)) (i : Nat) (buf : List UInt8)
    (len : UInt32) (out : List UInt8) : Prop :=
  ∃ fuel s₁ fuel' s₂ bytes,
    bsmpWriteCurve (link md5 area noise) fuel (some i) (some buf) len s = .ok ((.success, ()), s₁) ∧
    bsmpReadCurve (link md5 area noise) fuel' (some i) (some out) (some 0) s₁ =
      .ok ((.success, bytes, len), s₂) ∧
    bytes.take len.toNat = buf

section RoundTrip

variable {buf out : List UInt8} {len : UInt32}

theorem Serving.bsmpWriteCurve_eq (h : Serving i p info stored blocks s) (hlen : buf.length = len.toNat)
    (fuel : Nat) :
    bsmpWriteCurve (link md5 area noise) fuel (some i) (some buf) len s =
      writerAt md5 area noise i info buf fuel 0 s := by
  unfold bsmpWriteCurve writerAt
  rw [get_bind, h.client, Nat.zero_mul, Nat.sub_zero, hlen, UInt32.ofNat_toNat]
  rfl

theorem Serving.bsmpReadCurve_eq (h : Serving i p info stored blocks s) (n : UInt32) (fuel : Nat) :
    bsmpReadCurve (link md5 area noise) fuel (some i) (some out) (some n) s =
      readerAt md5 area noise i info buf out fuel 0 s := by
  unfold bsmpReadCurve readerAt
  rw [get_bind, h.client, Nat.zero_mul]
  rfl

theorem Serving.roundTrip (h : Serving i p info stored blocks s) (md5 : Md5) (area noise : Nat → UInt8)
    (hwr : info.writable = true) (hbs : 0 < info.blockSize.toNat) (hlen : buf.length = len.toNat)
    (hpos : 0 < len.toNat) (hcap : len.toNat ≤ info.nblocks.toNat * info.blockSize.toNat)
    (hout : info.nblocks.toNat * info.blockSize.toNat ≤ out.length) :
    RoundTrip md5 area noise s i buf len out ↔ Fills info len.toNat := by
  rw [← hlen] at hpos hcap ⊢
  constructor
  · rintro ⟨fuel, s₁, -, -, -, hwrite, -⟩
    rw [h.bsmpWriteCurve_eq hlen] at hwrite
    by_contra hfills
    exact h.write_fails md5 area noise hwr hbs hcap hpos hfills fuel s₁ hwrite
  · intro hfills
    obtain ⟨fuel, s₁, hwrite, hs₁⟩ := h.write_ok md5 area noise hwr hbs hcap hfills
    obtain ⟨s₂, hs₂, hread⟩ := hs₁.reader md5 area noise hbs hcap hout
    obtain ⟨bytes, s₃, hend, hbytes⟩ :=
      hs₂.read_end md5 area noise hfills.1 hcap hout (Nat.div_mul_le_self _ _)
      (Nat.lt_mul_of_div_lt (Nat.lt_succ_self _) hbs) 0
    obtain ⟨blocks₁, hserving₁, -⟩ := hs₁
    refine ⟨fuel, s₁, _, s₃, bytes, (h.bsmpWriteCurve_eq hlen fuel).trans hwrite,
      (hserving₁.bsmpReadCurve_eq 0 _).trans ((hread 1).trans (hend.trans ?_)), ?_⟩
    · rw [hlen, UInt32.ofNat_toNat]
    · rw [← hlen]
      exact hbytes

end RoundTrip

/-- **Curve transfer.** A curve that keeps its blocks, of at least one byte
each, and a buffer that is not empty and not more than the curve holds:
writing the curve and reading it gives the bytes back exactly when they reach
into the last block and there are fewer than 65536 blocks. What the curve held
before does not matter. -/
theorem roundTrip_iff (md5 : Md5) (area noise : Nat → UInt8) (s : Session (Peer σ)) (i : Nat) (p : Ptr)
    (stored : World σ → UInt16 → List UInt8) (buf out : List UInt8) (len : UInt32)
    (hs : Reachable md5 s.chan.system)
    (hlist : s.client.curves = s.chan.system.server.curves.map fun p => (s.chan.system.objs.curve p).info)
    (hp : s.chan.system.server.curves[i]? = some p) (hkeeps : Keeps (s.chan.system.objs.curve p) stored)
    (hwr : (s.chan.system.objs.curve p).info.writable = true)
    (hbs : 0 < (s.chan.system.objs.curve p).info.blockSize.toNat) (hlen : buf.length = len.toNat)
    (hpos : 0 < len.toNat)
    (hcap : len.toNat ≤ (s.chan.system.objs.curve p).info.nblocks.toNat *
      (s.chan.system.objs.curve p).info.blockSize.toNat)
    (hout : (s.chan.system.objs.curve p).info.nblocks.toNat *
      (s.chan.system.objs.curve p).info.blockSize.toNat ≤
      out.length) :
    RoundTrip md5 area noise s i buf len out ↔ Fills (s.chan.system.objs.curve p).info len.toNat := by
  have hclient : s.client.curve? (some i) = some (s.chan.system.objs.curve p).info := by
    show s.client.curves[i]? = _
    rw [hlist, List.getElem?_map, hp]
    rfl
  have h : Serving i p (s.chan.system.objs.curve p).info stored (stored s.chan.system.world) s :=
    ⟨hclient, hs.repInv, List.mem_of_getElem? hp, rfl, rfl, rfl, rfl, hkeeps, rfl⟩
  exact h.roundTrip md5 area noise hwr hbs hlen hpos hcap hout

/-- The blocks of the plant's curve. -/
theorem plant_keeps : Keeps (plant.objs.curve 0) fun w block => (w.app block).take 4 where
  write := by
    rintro f ⟨⟩ block data w - hlen
    refine ⟨rfl, funext fun other => ?_⟩
    by_cases hother : other = block
    · subst hother
      simp only [Function.update_self]
      exact List.take_of_length_le hlen
    · simp only [Function.update_of_ne hother]
  read := by
    rintro f ⟨⟩ block w -
    exact ⟨rfl, rfl, rfl⟩

/-- Five bytes are a block and a byte. -/
theorem roundTrip_iff_plant :
    RoundTrip byteSum (fun _ => 0) (fun _ => 0) ⟨plantClient, ⟨plant, none⟩, []⟩ 0 [1, 2, 3, 4, 5] 5
        (List.replicate 8 0) ↔ Fills (plant.objs.curve 0).info 5 :=
  roundTrip_iff byteSum _ _ ⟨plantClient, ⟨plant, none⟩, []⟩ 0 0 (fun w block => (w.app block).take 4) _ _ 5
    plant_reachable rfl rfl plant_keeps rfl (by decide) rfl (by decide) (by decide) (by decide)

/-- One byte leaves the second block without any. -/
theorem roundTrip_fails_plant :
    Reachable byteSum plant ∧ Describes plantClient plant ∧ plant.server.curves[0]? = some 0 ∧
      Keeps (plant.objs.curve 0) (fun w block => (w.app block).take 4) ∧
        (∀ block, plant.world.app block = []) ∧
      (plant.objs.curve 0).info.writable = true ∧ (plant.objs.curve 0).info.nblocks = 2 ∧
      (plant.objs.curve 0).info.blockSize = 4 ∧
      ¬ RoundTrip byteSum (fun _ => 0) (fun _ => 0) ⟨plantClient, ⟨plant, none⟩, []⟩ 0 [1] 1
        (List.replicate 8 0) := by
  refine ⟨plant_reachable, plantClient_describes, rfl, plant_keeps, fun _ => rfl, rfl, rfl, rfl,
    fun hround => ?_⟩
  have h : Serving 0 0 (plant.objs.curve 0).info (fun w block => (w.app block).take 4) _
      (⟨plantClient, ⟨plant, none⟩, []⟩ : Session (Peer _)) :=
    ⟨rfl, plant_reachable.repInv, List.mem_singleton.mpr rfl, rfl, rfl, rfl, rfl, plant_keeps, rfl⟩
  have hfills := (h.roundTrip byteSum (fun _ => 0) (fun _ => 0) rfl (by decide) rfl (by decide) (by decide)
    (by decide)).mp hround
  exact absurd hfills.2 (by decide)

end UdcFirmware.Bsmp
