/-
What `CMD_CURVE_RECALC_CSUM` is the digest of.

`bsmp_read_curve` ends with the first block that has fewer bytes than the block
size (`readCurve_told`). The loop of `curve_recalc_csum` is to end with it too,
but compares the bytes of a block with the number of blocks. So it may leave the
rest of a curve out, or take in what is past its end. The digest is that of the
bytes read exactly if the first block that is short by one of these limits is
short by both, or nothing comes after it (`csum_covers_iff`).

MD5 is any streaming hash: pieces that are fed one after the other hash to what
their bytes together do.
-/
import UdcFirmware.Bsmp.CurveTransfer

namespace UdcFirmware.Bsmp

open Blocks ByteMem Checked Stateful

variable {σ : Type} {md5 : Md5} {area noise : Nat → UInt8}

/-- `hash` is what the stream computes. -/
structure Md5.Streams (md5 : Md5) (hash : List UInt8 → Checksum) : Prop where
  final : ∀ pieces : List (List UInt8), md5.final (pieces.foldl md5.update md5.init) = hash pieces.flatten

/-- A curve whose blocks can be read, none of more bytes than the block size. -/
structure Tells (c : Curve σ) (stored : World σ → UInt16 → List UInt8) : Prop where
  read : ∀ f, c.readBlock = some f → ∀ block w, block.toNat < c.info.nblocks.toNat →
    (f block w).1 = true ∧ (f block w).2.1 = stored w block ∧ stored (f block w).2.2 = stored w
  size : ∀ block w, block.toNat < c.info.nblocks.toNat →
    (stored w block).length ≤ c.info.blockSize.toNat

/-- The blocks `0`, `1` and so on, up to the first shorter than the block size or the last. -/
def CurveInfo.bytes (info : CurveInfo) (contents : UInt16 → List UInt8) : List UInt8 :=
  (untilShort info.blockSize.toNat info.nblocks.toNat fun j => contents (UInt16.ofNat j)).flatten

/-- The blocks that `curve_recalc_csum` hashes. -/
def CurveInfo.hashed (info : CurveInfo) (contents : UInt16 → List UInt8) : List (List UInt8) :=
  untilShort info.nblocks.toNat info.nblocks.toNat fun j => contents (UInt16.ofNat j)

/-! ## What the server hashes -/

section Server

variable {s : System σ} {p : Ptr} {stored : World σ → UInt16 → List UInt8}

theorem curveCsumLoop_told (htells : Tells (s.objs.curve p) stored)
    {f : UInt16 → World σ → Bool × List UInt8 × World σ} (hf : (s.objs.curve p).readBlock = some f)
    (hmax : (s.objs.curve p).info.nblocks.toNat ≤ bsmpCurveMaxBlocks) {n i : Nat}
    (hi : i + n = (s.objs.curve p).info.nblocks.toNat) (ctx : md5.Ctx) :
    ∃ s', curveCsumLoop md5 p n i ctx s =
        .ok (some ((untilShort (s.objs.curve p).info.nblocks.toNat n fun j =>
          stored s.world (UInt16.ofNat (i + j))).foldl md5.update ctx), s') ∧ SameInstance s s' := by
  induction n generalizing s i ctx with
  | zero => exact ⟨s, rfl, .refl s⟩
  | succ n ih =>
    have hblk : (UInt16.ofNat i).toNat = i := ofNat_toNat_block (by omega)
    obtain ⟨hok, hdata, hkept⟩ := htells.read f hf (UInt16.ofNat i) s.world (by omega)
    let s₁ : System σ := { s with
      world := (f (UInt16.ofNat i) s.world).2.2
      trace := s.trace ++ [.readBlock p (UInt16.ofNat i)] }
    have hread : s.callReadBlock p (UInt16.ofNat i) = .ok (true, stored s.world (UInt16.ofNat i), s₁) := by
      rw [callReadBlock_eq hf, hok, hdata]
    have hrest : (fun j => stored s.world (UInt16.ofNat (i + (j + 1)))) =
        fun j => stored s₁.world (UInt16.ofNat (i + 1 + j)) := by
      funext j
      rw [← Nat.add_assoc, Nat.add_right_comm]
      exact (congrFun hkept _).symm
    simp only [curveCsumLoop, hread, ok_bind, Bool.not_true, Bool.false_eq_true, if_false]
    split
    · next hshort =>
      rw [untilShort_short hshort]
      exact ⟨s₁, rfl, .worldTrace s _ _⟩
    · next hfull =>
      have hnext : i + 1 + n = (s₁.objs.curve p).info.nblocks.toNat := by
        rw [← hi]
        omega
      obtain ⟨s', hloop, hsame⟩ := ih (s := s₁) htells hf hmax hnext
        (md5.update ctx (stored s.world (UInt16.ofNat i)))
      rw [untilShort_full (Nat.not_lt.mp hfull), hrest]
      exact ⟨s', hloop, (SameInstance.worldTrace s _ _).trans hsame⟩

/-- The command answers a digest, and stores it. -/
def Recalculates (md5 : Md5) (s : System σ) (p : Ptr) (area : Nat → UInt8) (digest : Checksum) : Prop :=
  ∃ s', respond md5 s (request CommandCode.curveRecalcCsum.toByte [(s.objs.curve p).info.id]) area =
      .ok (s', reply .curveCsum (UInt16.ofNat bsmpCurveCsumSize) digest.toList) ∧
    (s'.objs.curve p).info.checksum = digest

theorem Recalculates.unique {digest digest' : Checksum} (h : Recalculates md5 s p area digest)
    (h' : Recalculates md5 s p area digest') : digest = digest' := by
  obtain ⟨s₁, hs₁, hc⟩ := h
  obtain ⟨s₂, hs₂, hc'⟩ := h'
  obtain ⟨rfl, -⟩ := Prod.mk.inj (Except.ok.inj (hs₁.symm.trans hs₂))
  exact hc.symm.trans hc'

/-- The digest of the blocks it hashes, whatever the hash. -/
theorem recalculates_fold (hinv : RepInv s) (hp : p ∈ s.server.curves) (hcustom : s.server.customMd5 = none)
    (htells : Tells (s.objs.curve p) stored) (md5 : Md5) (area : Nat → UInt8) :
    Recalculates md5 s p area
      (md5.final (((s.objs.curve p).info.hashed (stored s.world)).foldl md5.update md5.init)) := by
  have hcheck := curveCheck_success (hinv.curves.checked p hp)
  obtain ⟨f, hf⟩ := hcheck.2.2.1
  obtain ⟨s', hloop, -⟩ := curveCsumLoop_told (s := s.clearModified) htells hf hcheck.1
    (Nat.zero_add _) md5.init
  simp only [Nat.zero_add] at hloop
  have hloop' : curveCsumLoop md5 p (s.clearModified.objs.curve p).info.nblocks.toNat 0 md5.init
      s.clearModified = .ok (some (((s.objs.curve p).info.hashed (stored s.world)).foldl md5.update md5.init),
        s') := hloop
  have hid : ¬ (s.objs.curve p).info.id.toNat ≥ s.clearModified.server.curves.length :=
    Nat.not_le_of_lt (hinv.curves.id_lt hp)
  have hbyte : (message .curveRecalcCsum [(s.objs.curve p).info.id]).byte 0 = .ok (s.objs.curve p).info.id :=
    Message.byte_ok rfl
  have hat : s.clearModified.curveAt (s.objs.curve p).info.id.toNat = .ok p := curveAt_ok (hinv.curveId hp)
  have hcustom' : s.clearModified.server.customMd5 = none := hcustom
  have hc : command md5 area CommandCode.curveRecalcCsum.toByte (σ := σ) = some (curveRecalcCsum md5) := rfl
  refine ⟨_, ?_, setChecksum_checksum s' p _⟩
  rw [respond_request hc (by simp), curveRecalcCsum, if_neg (by simp [message]), hbyte, ok_bind, if_neg hid,
    hat, ok_bind]
  simp only [hcustom', hloop', ok_bind, setChecksum_checksum]
  rfl

theorem recalculates (hinv : RepInv s) (hp : p ∈ s.server.curves) (hcustom : s.server.customMd5 = none)
    (htells : Tells (s.objs.curve p) stored) {hash : List UInt8 → Checksum} (hmd5 : md5.Streams hash)
    (area : Nat → UInt8) :
    Recalculates md5 s p area (hash ((s.objs.curve p).info.hashed (stored s.world)).flatten) := by
  rw [← hmd5.final]
  exact recalculates_fold hinv hp hcustom htells md5 area

/-- A hash that tells one sequence of bytes from all others. -/
def separating (bytes : List UInt8) : Md5 where
  Ctx := List UInt8
  init := []
  update := (· ++ ·)
  final read := Vector.replicate _ (if read = bytes then 1 else 0)

theorem separating_streams (bytes : List UInt8) :
    (separating bytes).Streams fun read => Vector.replicate _ (if read = bytes then 1 else 0) where
  final pieces := by
    have hread : pieces.foldl (separating bytes).update (separating bytes).init = pieces.flatten := by
      have happend : pieces.foldl (· ++ id ·) [] = [] ++ (pieces.map id).flatten :=
        List.foldl_append_eq_append
      rwa [List.map_id, List.nil_append] at happend
    rw [hread]
    rfl

/-- **The checksum covers the curve** where both loops end alike. For every
registered curve whose blocks can be read, and every contents: with any streaming
hash and no custom one, the command stores and answers the digest of the bytes
of the curve, exactly when the first block with fewer bytes than the block size
or than the number of blocks has fewer than both, or is the last, or is followed
by an empty one. -/
theorem csum_covers_iff (hinv : RepInv s) (hp : p ∈ s.server.curves) (hcustom : s.server.customMd5 = none)
    (htells : Tells (s.objs.curve p) stored) :
    (∀ md5 hash, md5.Streams hash → ∀ area,
      Recalculates md5 s p area (hash ((s.objs.curve p).info.bytes (stored s.world)))) ↔
      EndAlike (s.objs.curve p).info.nblocks.toNat (s.objs.curve p).info.blockSize.toNat
        (s.objs.curve p).info.nblocks.toNat fun j => stored s.world (UInt16.ofNat j) := by
  have hmax := (curveCheck_success (hinv.curves.checked p hp)).1
  have hsize (j : Nat) (hj : j < (s.objs.curve p).info.nblocks.toNat) :
      (stored s.world (UInt16.ofNat j)).length ≤ (s.objs.curve p).info.blockSize.toNat := by
    refine htells.size _ s.world ?_
    rwa [ofNat_toNat_block (Nat.lt_of_lt_of_le hj hmax)]
  have hsame : ((s.objs.curve p).info.hashed (stored s.world)).flatten =
      (s.objs.curve p).info.bytes (stored s.world) ↔ _ :=
    untilShort_eq_iff (Nat.eq_zero_or_pos _).symm hsize
  constructor
  · intro h
    refine hsame.mp ?_
    -- the hash that knows the bytes of the curve
    have hbytes := separating_streams ((s.objs.curve p).info.bytes (stored s.world))
    have hdigest := (recalculates hinv hp hcustom htells hbytes fun _ => 0).unique (h _ _ hbytes fun _ => 0)
    by_contra hne
    rw [if_neg hne, if_pos rfl] at hdigest
    exact absurd hdigest (by decide)
  · intro h md5 hash hmd5 area
    rw [← hsame.mpr h]
    exact recalculates hinv hp hcustom htells hmd5 area

end Server

/-! ## What the client reads -/

/-- The client knows entry `i` as `info`, and the server has a curve like that at `p`, to read. -/
structure Reading (i : Nat) (p : Ptr) (info : CurveInfo) (stored : World σ → UInt16 → List UInt8)
    (contents : UInt16 → List UInt8) (s : Session (Peer σ)) : Prop where
  client : s.client.curve? (some i) = some info
  repInv : RepInv s.chan.system
  mem : p ∈ s.chan.system.server.curves
  id : (s.chan.system.objs.curve p).info.id = info.id
  nblocks : (s.chan.system.objs.curve p).info.nblocks = info.nblocks
  blockSize : (s.chan.system.objs.curve p).info.blockSize = info.blockSize
  tells : Tells (s.chan.system.objs.curve p) stored
  contents : stored s.chan.system.world = contents

section Client

variable {i : Nat} {p : Ptr} {info : CurveInfo} {stored : World σ → UInt16 → List UInt8}
  {contents : UInt16 → List UInt8} {s : Session (Peer σ)} {out pre : List UInt8} {j k : Nat}

theorem Reading.size (h : Reading i p info stored contents s) (hj : j < info.nblocks.toNat) :
    (contents (UInt16.ofNat j)).length ≤ info.blockSize.toNat := by
  have hmax := (curveCheck_success (h.repInv.curves.checked p h.mem)).1
  rw [← h.nblocks] at hj
  rw [← h.contents, ← h.blockSize]
  refine h.tells.size _ _ ?_
  rwa [ofNat_toNat_block (Nat.lt_of_lt_of_le hj hmax)]

theorem Reading.request (h : Reading i p info stored contents s) (md5 : Md5) (area noise : Nat → UInt8)
    (hj : j < info.nblocks.toNat) (hout : info.blockSize.toNat ≤ out.length) :
    ∃ s', bsmpRequestCurveBlock (link md5 area noise) (some i) (UInt16.ofNat j) (some out) (some 0) s =
        .ok ((.success, contents (UInt16.ofNat j) ++ out.drop (contents (UInt16.ofNat j)).length,
          UInt16.ofNat (contents (UInt16.ofNat j)).length), s') ∧
      Reading i p info stored contents s' := by
  have hcheck := curveCheck_success (h.repInv.curves.checked p h.mem)
  have hsize := h.size hj
  have hblk : (UInt16.ofNat j).toNat = j := by
    refine ofNat_toNat_block (Nat.lt_of_lt_of_le hj ?_)
    rw [← h.nblocks]
    exact hcheck.1
  have hoff : (UInt16.ofNat j).toNat < info.nblocks.toNat := by rwa [hblk]
  obtain ⟨f, hf⟩ := hcheck.2.2.1
  obtain ⟨hok, hdata, hkept⟩ := h.tells.read f hf (UInt16.ofNat j) s.chan.system.world (by rwa [h.nblocks])
  rw [h.contents] at hdata hkept
  have hmax : (f (UInt16.ofNat j) s.chan.system.world).2.1.length ≤ bsmpCurveBlockMaxSize := by
    rw [hdata]
    refine hsize.trans ?_
    rw [← h.blockSize]
    exact hcheck.2.1
  have hroom : (f (UInt16.ofNat j) s.chan.system.world).2.1.length ≤ out.length := by
    rw [hdata]
    exact hsize.trans hout
  obtain ⟨s', hop, hclient, hsystem⟩ :=
    request_told h.client h.repInv h.mem h.id h.nblocks md5 area noise hf hok hoff hmax hroom
  rw [hdata] at hop
  refine ⟨s', hop, hclient ▸ h.client, ?_, ?_, ?_, ?_, ?_, ?_, ?_⟩
  · rw [hsystem]
    exact (h.repInv.same (clearModified_same _)).same (.worldTrace _ _ _)
  all_goals rw [hsystem]
  · exact h.mem
  · exact h.id
  · exact h.nblocks
  · exact h.blockSize
  · exact h.tells
  · exact hkept

/-- What a reader finds from block `j` on, `k` blocks before the end. -/
def CurveInfo.bytesFrom (info : CurveInfo) (contents : UInt16 → List UInt8) (j k : Nat) : List UInt8 :=
  (untilShort info.blockSize.toNat k fun t => contents (UInt16.ofNat (j + t))).flatten

theorem CurveInfo.bytesFrom_short (h : (contents (UInt16.ofNat j)).length < info.blockSize.toNat) (k : Nat) :
    info.bytesFrom contents j (k + 1) = contents (UInt16.ofNat j) := by
  have hfirst : ((fun t => contents (UInt16.ofNat (j + t))) 0).length < info.blockSize.toNat := h
  rw [bytesFrom, untilShort_short hfirst]
  exact List.append_nil _

theorem CurveInfo.bytesFrom_full (h : info.blockSize.toNat ≤ (contents (UInt16.ofNat j)).length) (k : Nat) :
    info.bytesFrom contents j (k + 1) = contents (UInt16.ofNat j) ++ info.bytesFrom contents (j + 1) k := by
  have hfirst : info.blockSize.toNat ≤ ((fun t => contents (UInt16.ofNat (j + t))) 0).length := h
  have hnext : (fun t => contents (UInt16.ofNat (j + (t + 1)))) =
      fun t => contents (UInt16.ofNat (j + 1 + t)) := by
    funext t
    rw [← Nat.add_assoc, Nat.add_right_comm]
  rw [bytesFrom, untilShort_full hfirst, hnext]
  rfl

theorem Reading.reader (h : Reading i p info stored contents s) (md5 : Md5) (area noise : Nat → UInt8)
    (hmax : info.nblocks.toNat ≤ 65535) (hout : info.nblocks.toNat * info.blockSize.toNat ≤ out.length)
    (hk : j + k = info.nblocks.toNat) (hpre : pre.length = j * info.blockSize.toNat) :
    ∃ s' rest, readerAt md5 area noise i info pre out (k + 1) j s =
      .ok ((.success, pre ++ info.bytesFrom contents j k ++ rest,
        UInt32.ofNat (pre ++ info.bytesFrom contents j k).length), s') := by
  have htake : pre.take (j * info.blockSize.toNat) = pre := List.take_of_length_le (Nat.le_of_eq hpre)
  induction k generalizing s j pre with
  | zero =>
    have hoff : ¬ (UInt16.ofNat j).toNat < info.nblocks.toNat := by
      rw [UInt16.toNat_ofNat']
      omega
    have hnone : info.bytesFrom contents j 0 = [] := rfl
    refine ⟨s, out.drop (j * info.blockSize.toNat), (readCurveLoop_done 0 hoff).trans ?_⟩
    rw [htake, hnone, List.append_nil, hpre]
  | succ k ih =>
    have hj : j < info.nblocks.toNat := by omega
    have hroom : (j + 1) * info.blockSize.toNat ≤ out.length := (Nat.mul_le_mul_right _ hj).trans hout
    rw [Nat.succ_mul] at hroom
    have hdrop : (pre.take (j * info.blockSize.toNat) ++ out.drop (j * info.blockSize.toNat)).drop
        (j * info.blockSize.toNat) = out.drop (j * info.blockSize.toNat) := by
      rw [htake]
      exact List.drop_left' hpre
    have hsize := h.size hj
    have hlen : (contents (UInt16.ofNat j)).length < UInt16.size :=
      Nat.lt_of_le_of_lt hsize info.blockSize.toNat_lt
    have hoff : (UInt16.ofNat j).toNat < info.nblocks.toNat := by
      rwa [ofNat_toNat_block (by simp only [bsmpCurveMaxBlocks]; omega)]
    have hnat : (UInt16.ofNat (contents (UInt16.ofNat j)).length).toNat =
        (contents (UInt16.ofNat j)).length := UInt16.toNat_ofNat_of_lt hlen
    have hfit : info.blockSize.toNat ≤ (out.drop (j * info.blockSize.toNat)).length := by
      rw [List.length_drop]
      omega
    obtain ⟨s₁, hop, hreading⟩ := h.request md5 area noise hj hfit
    rw [readerAt_next (k + 1) hoff (Nat.le_of_eq hpre.symm) hlen (by rw [hdrop]; exact hop), htake]
    split
    · next hshort =>
      rw [UInt16.lt_iff_toNat_lt, hnat] at hshort
      rw [CurveInfo.bytesFrom_short hshort, List.length_append, hpre]
      exact ⟨s₁, _, rfl⟩
    · next hfull =>
      rw [UInt16.lt_iff_toNat_lt, hnat, Nat.not_lt] at hfull
      have hblock : (contents (UInt16.ofNat j)).length = info.blockSize.toNat := Nat.le_antisymm hsize hfull
      have hpre' : (pre ++ contents (UInt16.ofNat j)).length = (j + 1) * info.blockSize.toNat := by
        rw [List.length_append, hpre, hblock, Nat.succ_mul]
      obtain ⟨s', rest, hrun⟩ := ih hreading (by omega) hpre' (List.take_of_length_le (Nat.le_of_eq hpre'))
      refine ⟨s', rest, ?_⟩
      rw [CurveInfo.bytesFrom_full hfull, ← List.append_assoc, hblock, ← Nat.succ_mul]
      refine Eq.trans ?_ hrun
      rw [readerAt, List.take_of_length_le (Nat.le_of_eq hpre')]

/-- Of a curve with fewer than 65536 blocks, `bsmp_read_curve` returns the bytes. -/
theorem readCurve_told (h : Reading i p info stored contents s) (md5 : Md5) (area noise : Nat → UInt8)
    (hmax : info.nblocks.toNat ≤ 65535) (hout : info.nblocks.toNat * info.blockSize.toNat ≤ out.length) :
    ∃ fuel s' rest, bsmpReadCurve (link md5 area noise) fuel (some i) (some out) (some 0) s =
      .ok ((.success, info.bytes contents ++ rest, UInt32.ofNat (info.bytes contents).length), s') := by
  have hbytes : info.bytesFrom contents 0 info.nblocks.toNat = info.bytes contents := by
    simp only [CurveInfo.bytesFrom, CurveInfo.bytes, Nat.zero_add]
  obtain ⟨s', rest, hrun⟩ :=
    h.reader md5 area noise hmax hout (Nat.zero_add info.nblocks.toNat) (List.length_nil.trans (by simp))
  rw [hbytes] at hrun
  refine ⟨info.nblocks.toNat + 1, s', rest, Eq.trans ?_ hrun⟩
  unfold bsmpReadCurve readerAt
  rw [get_bind, h.client, Nat.zero_mul]
  rfl

end Client

/-! ## A curve of full blocks -/

/-- A curve with as many blocks, each 1, 2, 3, 4. -/
def archive (nblocks : UInt32) : System (UInt16 → List UInt8) :=
  after byteSum (.ofLists [] [blockStore true nblocks 4] [])
    { mem := fun _ => 0, app := fun _ => [1, 2, 3, 4] } (registrations 0 1 0)

/-- The blocks of its curve. -/
def archived (w : World (UInt16 → List UInt8)) (block : UInt16) : List UInt8 := (w.app block).take 4

theorem archive_tells (nblocks : UInt32) : Tells (blockStore true nblocks 4) archived where
  read := by
    intro f hf block w _
    cases hf
    exact ⟨rfl, rfl, rfl⟩
  size := by
    intro block w _
    exact List.length_take_le 4 _

theorem archive_reachable (nblocks : UInt32) : Reachable byteSum (archive nblocks) := after_reachable ..

/-- Three blocks of four bytes. -/
theorem csum_covers_iff_archive :
    (∀ md5 hash, md5.Streams hash → ∀ area, Recalculates md5 (archive 3) 0 area
      (hash (((archive 3).objs.curve 0).info.bytes (archived (archive 3).world)))) ↔
      EndAlike 3 4 3 fun j => archived (archive 3).world (UInt16.ofNat j) :=
  csum_covers_iff (archive_reachable 3).repInv (List.mem_singleton.mpr rfl) rfl (archive_tells 3)

theorem byteSum_streams : byteSum.Streams fun read => Vector.replicate _ (read.foldl (· + ·) 0) where
  final pieces := by
    have hfold : pieces.flatten.foldl (· + ·) 0 = pieces.foldl (fun sum piece => piece.foldl (· + ·) sum) 0 :=
      List.foldl_flatten
    exact congrArg (Vector.replicate _) hfold.symm

/-- Ten blocks of four bytes: only the first is hashed, whose bytes sum to 10 and not to 100. -/
theorem archive_uncovered :
    Reachable byteSum (archive 10) ∧ (archive 10).server.curves = [0] ∧
      (archive 10).server.customMd5 = none ∧ Tells ((archive 10).objs.curve 0) archived ∧
      byteSum.Streams (fun read => Vector.replicate _ (read.foldl (· + ·) 0)) ∧
      (((archive 10).objs.curve 0).info.bytes (archived (archive 10).world)).length = 40 ∧
      Recalculates byteSum (archive 10) 0 (fun _ => 0) (Vector.replicate _ 10) ∧
      ¬ Recalculates byteSum (archive 10) 0 (fun _ => 0) (Vector.replicate _
        ((((archive 10).objs.curve 0).info.bytes (archived (archive 10).world)).foldl (· + ·) 0)) := by
  have hdigest : Recalculates byteSum (archive 10) 0 (fun _ => 0) (Vector.replicate _ 10) :=
    recalculates (archive_reachable 10).repInv (List.mem_singleton.mpr rfl) rfl (archive_tells 10)
      byteSum_streams fun _ => 0
  refine ⟨archive_reachable 10, rfl, rfl, archive_tells 10, byteSum_streams, by decide +kernel, hdigest,
    fun hcovers => ?_⟩
  have hsame := hdigest.unique hcovers
  revert hsame
  decide +kernel

end UdcFirmware.Bsmp
