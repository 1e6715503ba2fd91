/-
Requests answered with an error. All but two kinds leave the system as it
was: the memory, the application's state, the checksums and the groups.

`CMD_GROUP_WRITE` is one: it stores each slice as it goes, skips those that
the checker of their variable rejects, and says so at the end. The other is
`CMD_CURVE_RECALC_CSUM` whose block reads succeed, with effects, before one
fails. `bsmpProcessPacket_error` states what either leaves behind.
-/
import UdcFirmware.Bsmp.Answers

namespace UdcFirmware.Bsmp

open ByteMem Checked

variable {σ : Type} {md5 : Md5} {area : Nat → UInt8} {s s' : System σ} {m a : Message}

/-- Callbacks that, when they return false, have changed nothing. -/
structure FailsCleanly (s : System σ) : Prop where
  readBlock : ∀ p ∈ s.server.curves, ∀ f, (s.objs.curve p).readBlock = some f →
    ∀ block w, (f block w).1 = false → (f block w).2.2 = w
  writeBlock : ∀ p ∈ s.server.curves, ∀ f, (s.objs.curve p).writeBlock = some f →
    ∀ block data w, (f block data w).1 = false → (f block data w).2 = w
  customMd5 : ∀ f, s.server.customMd5 = some f → ∀ p c w, (f p c w).1 = false → (f p c w).2 = (c, w)

/-- Block reads that change nothing, whether they succeed or not. -/
def ReadsPurely (s : System σ) : Prop :=
  ∀ p ∈ s.server.curves, ∀ f, (s.objs.curve p).readBlock = some f → ∀ block w, (f block w).2.2 = w

/-- The same structures, checksums with them, and the same groups. -/
structure SameTables (s s' : System σ) : Prop where
  vars : s'.server.vars = s.server.vars
  curves : s'.server.curves = s.server.curves
  funcs : s'.server.funcs = s.server.funcs
  objs : s'.objs = s.objs
  count : s'.server.groups.count = s.server.groups.count
  group : ∀ i : Fin bsmpMaxGroups, i.val < s.server.groups.count →
    s'.server.groups.list i = s.server.groups.list i

theorem SameInstance.tables (h : SameInstance s s') : SameTables s s' :=
  ⟨h.vars, h.curves, h.funcs, h.objs, by rw [h.groups], fun i _ => by rw [h.groups]⟩

/-! ## Callbacks that failed -/

theorem callReadBlock_failed (hc : FailsCleanly s) {p : Ptr} (hp : p ∈ s.server.curves) {block : UInt16}
    {data : List UInt8} (h : s.callReadBlock p block = .ok (false, data, s')) : s'.world = s.world := by
  obtain ⟨f, w, hf, hcall, rfl⟩ := callReadBlock_cases h
  have hclean := hc.readBlock p hp f hf block s.world
  rw [hcall] at hclean
  exact hclean rfl

theorem callReadBlock_pure (hp : ReadsPurely s) {p : Ptr} (hmem : p ∈ s.server.curves) {block : UInt16}
    {ok : Bool}
    {data : List UInt8} (h : s.callReadBlock p block = .ok (ok, data, s')) : s'.world = s.world := by
  obtain ⟨f, w, hf, hcall, rfl⟩ := callReadBlock_cases h
  have hpure := hp p hmem f hf block s.world
  rw [hcall] at hpure
  exact hpure

theorem callWriteBlock_failed (hc : FailsCleanly s) {p : Ptr} (hp : p ∈ s.server.curves) {block : UInt16}
    {data : List UInt8} (h : s.callWriteBlock p block data = .ok (false, s')) : s'.world = s.world := by
  obtain ⟨f, w, hf, hcall, rfl⟩ := callWriteBlock_cases h
  have hclean := hc.writeBlock p hp f hf block data s.world
  rw [hcall] at hclean
  exact hclean rfl

theorem ReadsPurely.same (hp : ReadsPurely s) (h : SameInstance s s') : ReadsPurely s' := by
  intro p hmem f hf
  rw [h.curves] at hmem
  rw [h.objs] at hf
  exact hp p hmem f hf

/-- Pure reads leave the world to the checksum loop as it was. -/
theorem curveCsumLoop_pure (hp : ReadsPurely s) {p : Ptr} (hmem : p ∈ s.server.curves) {n i : Nat}
    {ctx : md5.Ctx}
    {r : Option md5.Ctx} (h : curveCsumLoop md5 p n i ctx s = .ok (r, s')) : s'.world = s.world := by
  refine (curveCsumLoop_keeps (I := fun t => SameInstance s t ∧ t.world = s.world) ?_ ⟨.refl s, rfl⟩ h).2
  rintro s₁ s₂ block ok data ⟨hsame, hw⟩ hread
  have hmem₁ : p ∈ s₁.server.curves := by rw [hsame.curves]; exact hmem
  exact ⟨hsame.trans (callReadBlock_same hread), (callReadBlock_pure (hp.same hsame) hmem₁ hread).trans hw⟩

/-- A checksum put where it already is. -/
theorem setChecksum_self (s : System σ) (p : Ptr) : s.setChecksum p (s.objs.curve p).info.checksum = s := by
  simp only [System.setChecksum]
  rw [show ({ s.objs.curve p with
    info.checksum := (s.objs.curve p).info.checksum } : Curve σ) = s.objs.curve p from rfl,
      Function.update_eq_self]

/-! ## What an error leaves behind -/

/-- A group write that gives up before its loop does not say "invalid value". -/
theorem groupWrite_invalidValue (h : groupWrite s m = .ok (s', a))
    (ha : a.commandCode = CommandCode.errInvalidValue.toByte) :
    ∃ id g w, m.byte 0 = .ok id ∧ id.toNat < s.server.groups.count ∧ s.server.groups.at id.toNat = .ok g ∧
      m.payloadSize.toNat = 1 + g.size.toNat ∧ g.writable = true ∧
      groupWriteLoop s m g.vars 1 s.world false = .ok (w, true) ∧
      System.callGroupHook { s with world := w } .write g = .ok s' := by
  unfold groupWrite at h
  split at h
  · cases h; cases ha
  obtain ⟨id, hid, h⟩ := bind_ok_iff.mp h
  split at h
  · cases h; cases ha
  next hlt =>
  obtain ⟨g, hg, h⟩ := bind_ok_iff.mp h
  split at h
  · cases h; cases ha
  next hsize =>
  split at h
  · cases h; cases ha
  next hwr =>
  obtain ⟨⟨w, failed⟩, hloop, h⟩ := bind_ok_iff.mp h
  obtain ⟨s₁, hhook, h⟩ := bind_ok_iff.mp h
  cases failed
  · cases h; cases ha
  · cases h
    exact ⟨id, g, w, hid, by omega, hg, by omega, by simpa using hwr, hloop, hhook⟩

/-- An outcome with an error, a group write that rejects a value apart. -/
theorem Outcome.error (hc : FailsCleanly s) (ho : Outcome md5 area s m s' a)
    (herr : isErrorByte a.commandCode = true)
    (hgw : ¬ (m.commandCode = CommandCode.groupWrite.toByte ∧
      a.commandCode = CommandCode.errInvalidValue.toByte)) :
    SameTables s s' ∧
      (m.commandCode ≠ CommandCode.curveRecalcCsum.toByte ∨ ReadsPurely s → s'.world = s.world) := by
  cases ho with
  | rejected => exact ⟨(SameInstance.refl s).tables, fun _ => rfl⟩
  | queried bytes hcmd hc' =>
    have : isErrorByte (CommandCode.toByte _) = false := CommandCode.answers_isError hc'
    exact absurd (herr.symm.trans this) (by decide)
  | varRead => cases herr
  | varWrite => cases herr
  | varWriteRead => cases herr
  | varBinOp => cases herr
  | groupRead => cases herr
  | @groupWrite _ _ _ _ failed _ hcmd =>
    cases failed
    · cases herr
    · exact absurd ⟨hcmd, rfl⟩ hgw
  | groupBinOp => cases herr
  | groupAbandoned hi =>
    refine ⟨⟨rfl, rfl, rfl, rfl, rfl, ?_⟩, fun _ => rfl⟩
    intro j hj
    refine Function.update_of_ne ?_ _ _
    intro he
    rw [he, hi] at hj
    exact Nat.lt_irrefl _ hj
  | groupCreated => cases herr
  | groupsRemoved => cases herr
  | blockBusy hcmd hp hread =>
    exact ⟨(callReadBlock_same hread).tables,
      fun _ => callReadBlock_failed hc (List.mem_of_getElem? hp) hread⟩
  | blockRead => cases herr
  | blockWriteBusy hcmd hp hwr hwrite =>
    exact ⟨(callWriteBlock_same hwrite).tables,
      fun _ => callWriteBlock_failed hc (List.mem_of_getElem? hp) hwrite⟩
  | blockWritten => cases herr
  | @customCsum _ p customMd5 ok checksum w hcmd hpay hp hmd5 hcall =>
    cases ok
    · have hclean := hc.customMd5 customMd5 hmd5 p (s.objs.curve p).info.checksum s.world (by rw [hcall])
      rw [hcall] at hclean
      obtain ⟨rfl, rfl⟩ := Prod.mk.inj hclean
      have hself := setChecksum_self { s with trace := s.trace ++ [.customMd5 p] } p
      refine ⟨?_, fun _ => rfl⟩
      rw [show System.setChecksum _ p _ = _ from hself]
      exact (SameInstance.worldTrace s _ _).tables
    · cases herr
  | csumBusy hcmd hpay hp hmd5 hloop =>
    refine ⟨(curveCsumLoop_same hloop).tables, ?_⟩
    rintro (hne | hpure)
    · exact absurd hcmd hne
    · exact curveCsumLoop_pure hpure (List.mem_of_getElem? hp) hloop
  | csumComputed => cases herr
  | executed => split at herr <;> cases herr

/-- A group write that rejects a value has stored the others. -/
theorem groupWrite_rejected (h : RepInv s) (hm : m.Whole) (hw : groupWrite s m = .ok (s', a))
    (ha : a.commandCode = CommandCode.errInvalidValue.toByte) :
    ∃ id values g w, m.payload = id :: values ∧ id.toNat < s.server.groups.count ∧
      s.server.groups.at id.toNat = .ok g ∧ values.length = g.size.toNat ∧ g.writable = true ∧
      writeMembers s.objs g.vars values s.world false = (w, true) ∧
      System.callHook { s with world := w } .write (g.vars.map some ++ [none]) = .ok s' := by
  obtain ⟨id, g, w, hid, hlt, hg, hsize, hwr, hloop, hhook⟩ := groupWrite_invalidValue hw ha
  have hok := h.of_groupAt hlt hg
  obtain ⟨id', values, hpay⟩ := List.exists_cons_of_length_pos (by rw [hm]; omega : 0 < m.payload.length)
  obtain rfl : id = id' := by
    have := index_ok_iff.mp hid
    rw [hpay, List.getElem?_cons_zero, Option.some.injEq] at this
    exact this.symm
  have hlen := (hm.rest [id] hpay hsize).1
  rw [h.groupWriteLoop (m := m) _ hok.members_mem (by rw [sizeSum, ← hok.sums.size, hm]; omega), hpay,
    List.drop_one, List.tail_cons, Except.ok.injEq] at hloop
  rw [(h.same (.world s w)).callGroupHook hok.members_mem] at hhook
  exact ⟨id, values, g, w, hpay, hlt, hg, hlen, hwr, hloop, hhook⟩

/-- **What a request answered with an error leaves behind.** The structures,
their checksums and the groups are what they were. A group write that rejects
a value has stored the slices that the checkers accept, in the order of the
group, and called the hook. Any other error leaves memory and application
untouched, the checksum scan apart, whose successful block reads must be
known to change nothing. -/
theorem bsmpProcessPacket_error (hs : Reachable md5 s) (hc : FailsCleanly s) {req : Request}
    {response : RawPacket} {code : UInt8} (h : bsmpProcessPacket md5 s req area = .ok (s', response))
    (hcode : response.data[0]? = some code) (herr : isErrorByte code = true) :
    SameTables s s' ∧
    (req.message.commandCode = CommandCode.groupWrite.toByte ∧ code = CommandCode.errInvalidValue.toByte →
      ∃ id values g w, req.message.payload = id :: values ∧ id.toNat < s.server.groups.count ∧
        s.server.groups.at id.toNat = .ok g ∧ values.length = g.size.toNat ∧ g.writable = true ∧
        writeMembers s.objs g.vars values s.world false = (w, true) ∧
        System.callHook { s.clearModified with world := w } .write (g.vars.map some ++ [none]) = .ok s') ∧
    (¬ (req.message.commandCode = CommandCode.groupWrite.toByte ∧
        code = CommandCode.errInvalidValue.toByte) →
      req.message.commandCode ≠ CommandCode.curveRecalcCsum.toByte ∨ ReadsPurely s → s'.world = s.world) := by
  obtain ⟨⟨s₁, a⟩, hresp, hr⟩ := bind_ok_iff.mp h
  cases hr
  obtain rfl : a.commandCode = code := by simpa [Message.toPacket] using hcode
  have hinv := hs.repInv.same (clearModified_same s)
  have ho := (respond_outcome md5 hs.repInv req area).of_ok hresp
  have hclean : FailsCleanly s.clearModified := ⟨hc.readBlock, hc.writeBlock, hc.customMd5⟩
  by_cases hgw : req.message.commandCode = CommandCode.groupWrite.toByte ∧
      a.commandCode = CommandCode.errInvalidValue.toByte
  · have hcmd : command md5 area req.message.commandCode = some (groupWrite (σ := σ)) := by rw [hgw.1]; rfl
    rcases respond_command hcmd hresp with ⟨-, rfl⟩ | ⟨hwhole, hhandler⟩
    · exact absurd hgw.2 (by decide)
    obtain ⟨id, values, g, w, hpay, hlt, hg, hlen, hwr, hw, hhook⟩ :=
      groupWrite_rejected hinv hwhole hhandler hgw.2
    refine ⟨?_, fun _ => ⟨id, values, g, w, hpay, hlt, hg, hlen, hwr, hw, hhook⟩, fun hn => absurd hgw hn⟩
    exact (((clearModified_same s).trans (.world _ w)).trans (callHook_same hhook)).tables
  · obtain ⟨htables, hworld⟩ := ho.error hclean herr hgw
    exact ⟨⟨htables.vars, htables.curves, htables.funcs, htables.objs, htables.count, htables.group⟩,
      fun hgw' => absurd hgw' hgw, fun _ hor => hworld hor⟩

/-! ## Requests that are not atomic -/

/-- A free byte, and a byte that must stay below ten. -/
def guarded : System Unit :=
  after byteSum
    (.ofLists
      [{ info := ⟨0, true, 1⟩, valueOk := none, data := some 0 },
        { info := ⟨0, true, 1⟩, valueOk := some fun _ value => value.all (· < 10), data := some 1 }] [] [])
    { mem := fun _ => 0, app := () } (registrations 2 0 0)

/-- A curve that is read off a queue: a block takes the first byte out, and an
empty queue is busy. -/
def queued : System (List UInt8) :=
  after byteSum
    (.ofLists []
      [{ info := ⟨0, false, 2, 2, Vector.replicate _ 0⟩
         readBlock := some fun _ w =>
           match w.app with
           | [] => (false, [], w)
           | b :: bs => (true, [b, b], { w with app := bs })
         writeBlock := none }] [])
    { mem := fun _ => 0, app := [7] } (registrations 0 1 0)

theorem guarded_reachable : Reachable byteSum guarded := after_reachable ..

theorem guarded_failsCleanly : FailsCleanly guarded where
  readBlock p hp := by simp [show guarded.server.curves = [] from rfl] at hp
  writeBlock p hp := by simp [show guarded.server.curves = [] from rfl] at hp
  customMd5 f hf := by cases hf

theorem queued_failsCleanly : FailsCleanly queued where
  readBlock := by
    intro p hp f hf block w hret
    have hp' : p = 0 := by simpa [show queued.server.curves = [0] from rfl] using hp
    subst hp'
    cases hf
    cases happ : w.app with
    | nil => simp only [happ]
    | cons b bs => simp only [happ] at hret; cases hret
  writeBlock := by
    intro p hp f hf
    have hp' : p = 0 := by simpa [show queued.server.curves = [0] from rfl] using hp
    subst hp'
    cases hf
  customMd5 f hf := by cases hf

theorem guarded_groupWrite :
    ∃ s' response,
      bsmpProcessPacket byteSum guarded (request CommandCode.groupWrite.toByte [0, 5, 200]) (fun _ => 0) =
        .ok (s', response) ∧
      response.data = [CommandCode.errInvalidValue.toByte, 0, 0] ∧
      (guarded.objs.var 0).bytes guarded.world.mem = [0] ∧ (s'.objs.var 0).bytes s'.world.mem = [5] :=
  ⟨_, _, rfl, rfl, rfl, rfl⟩

/-- 5 and 200 written to the two bytes: the second is rejected, the first stays
written. And the checksum of the queue: two blocks do not come, but one byte
is gone. -/
theorem bsmpProcessPacket_not_atomic :
    (Reachable byteSum guarded ∧ FailsCleanly guarded ∧
      ∃ s' response,
        bsmpProcessPacket byteSum guarded (request CommandCode.groupWrite.toByte [0, 5, 200]) (fun _ => 0) =
          .ok (s', response) ∧
        response.data = [CommandCode.errInvalidValue.toByte, 0, 0] ∧
        (guarded.objs.var 0).bytes guarded.world.mem = [0] ∧ (s'.objs.var 0).bytes s'.world.mem = [5]) ∧
    (Reachable byteSum queued ∧ FailsCleanly queued ∧
      ∃ s' response,
        bsmpProcessPacket byteSum queued (request CommandCode.curveRecalcCsum.toByte [0]) (fun _ => 0) =
          .ok (s', response) ∧
        response.data = [CommandCode.errResourceBusy.toByte, 0, 0] ∧
        queued.world.app = [7] ∧ s'.world.app = []) :=
  ⟨⟨guarded_reachable, guarded_failsCleanly, guarded_groupWrite⟩,
    after_reachable .., queued_failsCleanly, _, _, rfl, rfl, rfl, rfl⟩

theorem bsmpProcessPacket_error_guarded :
    ∃ s' response,
      bsmpProcessPacket byteSum guarded (request CommandCode.groupWrite.toByte [0, 5, 200]) (fun _ => 0) =
        .ok (s', response) ∧
      SameTables guarded s' ∧
      ∃ id values g w, (request CommandCode.groupWrite.toByte [0, 5, 200]).message.payload = id :: values ∧
        id.toNat < guarded.server.groups.count ∧
        guarded.server.groups.at id.toNat = .ok g ∧ values.length = g.size.toNat ∧ g.writable = true ∧
        writeMembers guarded.objs g.vars values guarded.world false = (w, true) ∧
        System.callHook { guarded.clearModified with world := w } .write (g.vars.map some ++ [none]) =
          .ok s' := by
  obtain ⟨s', response, h, hdata, -⟩ := guarded_groupWrite
  have he := bsmpProcessPacket_error guarded_reachable guarded_failsCleanly h (by rw [hdata]; rfl) (by decide)
  exact ⟨s', response, h, he.1, he.2.1 ⟨rfl, rfl⟩⟩

end UdcFirmware.Bsmp
