/-
What a request can do. `Outcome` lists every way a handler ends, with the
guards it passed: rejected without effect, a list or checksum told, variables
read or written, groups created or removed, a curve block moved, a checksum
computed, a function executed.

`respond_outcome`: from a state that satisfies `RepInv` every request is
answered, and in one of these ways. The invariants of the server, the shape
of its answers and the effects of its commands are all read off `Outcome`.
-/
import UdcFirmware.Bsmp.Accesses

namespace UdcFirmware.Bsmp

open ByteMem Checked

variable {σ : Type}

/-- The answers, other than errors, that the protocol has for a command. -/
def CommandCode.answers : CommandCode → List CommandCode
  | queryVersion => [version]
  | varQueryList => [varList]
  | varRead => [varValue]
  | varWrite => [ok]
  | varBinOp => [ok]
  | varWriteRead => [varValue]
  | groupQueryList => [groupList]
  | groupQuery => [group]
  | groupRead => [groupValues]
  | groupWrite => [ok]
  | groupBinOp => [ok]
  | groupCreate => [ok]
  | groupRemoveAll => [ok]
  | curveQueryList => [curveList]
  | curveQueryCsum => [curveCsum]
  | curveBlockRequest => [curveBlock]
  | curveBlock => [ok]
  | curveRecalcCsum => [curveCsum]
  | funcQueryList => [funcList]
  | funcExecute => [funcReturn, funcError]
  | _ => []

/-- The commands that only tell something about the instance. -/
def CommandCode.isQuery : CommandCode → Bool
  | queryVersion | varQueryList | groupQueryList | groupQuery | curveQueryList | curveQueryCsum
  | funcQueryList => true
  | _ => false

/-- The longest list a query can answer: 128 curves. -/
@[simp] abbrev maxListSize : Nat := bsmpMaxCurves * bsmpCurveListInfo

variable (md5 : Md5) (area : Nat → UInt8)

/-- `Outcome s m s' a`: the request `m` takes the system from `s` to `s'`, and is answered by `a`. -/
inductive Outcome (s : System σ) (m : Message) : System σ → Message → Prop
  | rejected {c : CommandCode} (hc : c.isError = true) : Outcome s m s (answer c)
  /-- A query: nothing changes. -/
  | queried {cmd c : CommandCode} (bytes : List UInt8) (hcmd : m.commandCode = cmd.toByte)
      (hc : c ∈ cmd.answers) (hlen : bytes.length ≤ maxListSize) (hq : cmd.isQuery = true) :
      Outcome s m s (reply c (UInt16.ofNat bytes.length) bytes)
  | varRead {id : UInt8} {p : Ptr} {s' : System σ} (hcmd : m.commandCode = CommandCode.varRead.toByte)
      (hpay : m.payload = [id]) (hp : s.server.vars[id.toNat]? = some p)
      (hhook : s.callHook .read [some p, none] = .ok s') :
      Outcome s m s' (reply .varValue (s.objs.var p).info.size.toUInt16 ((s.objs.var p).bytes s'.world.mem))
  | varWrite {id : UInt8} {value : List UInt8} {p : Ptr} {s' : System σ}
      (hcmd : m.commandCode = CommandCode.varWrite.toByte) (hpay : m.payload = id :: value)
      (hp : s.server.vars[id.toNat]? = some p) (hlen : value.length = (s.objs.var p).info.size.toNat)
      (hwr : (s.objs.var p).info.writable = true) (hok : (s.objs.var p).accepts s.world value = true)
      (hhook : System.callHook { s with world.mem := (s.objs.var p).put s.world.mem value } .write
        [some p, none] = .ok s') : Outcome s m s' (answer .ok)
  | varWriteRead {idw idr : UInt8} {value : List UInt8} {pw pr : Ptr} {s₁ s' : System σ}
      (hcmd : m.commandCode = CommandCode.varWriteRead.toByte) (hpay : m.payload = idw :: idr :: value)
      (hpw : s.server.vars[idw.toNat]? = some pw) (hpr : s.server.vars[idr.toNat]? = some pr)
      (hlen : value.length = (s.objs.var pw).info.size.toNat)
      (hwr : (s.objs.var pw).info.writable = true) (hok : (s.objs.var pw).accepts s.world value = true)
      (hhook₁ : System.callHook { s with world.mem := (s.objs.var pw).put s.world.mem value } .write
        [some pw, none] = .ok s₁)
      (hhook₂ : s₁.callHook .read [some pr] = .ok s') :
      Outcome s m s' (reply .varValue (s.objs.var pr).info.size.toUInt16
        ((s.objs.var pr).bytes s'.world.mem))
  | varBinOp {id operation : UInt8} {mask : List UInt8} {p : Ptr} {op : UInt8 → UInt8 → UInt8} {s' : System σ}
      (hcmd : m.commandCode = CommandCode.varBinOp.toByte) (hpay : m.payload = id :: operation :: mask)
      (hp : s.server.vars[id.toNat]? = some p) (hop : binOp operation = some op)
      (hlen : mask.length = (s.objs.var p).info.size.toNat) (hwr : (s.objs.var p).info.writable = true)
      (hhook : System.callHook { s with
          world.mem := (s.objs.var p).put s.world.mem ((s.objs.var p).combine op s.world.mem mask) } .write
        [some p, none] = .ok s') : Outcome s m s' (answer .ok)
  | groupRead {id : UInt8} {g : Group} {s' : System σ} (hcmd : m.commandCode = CommandCode.groupRead.toByte)
      (hpay : m.payload = [id]) (hid : id.toNat < s.server.groups.count)
      (hg : s.server.groups.at id.toNat = .ok g)
      (hhook : s.callHook .read (g.vars.map some ++ [none]) = .ok s') :
      Outcome s m s' (reply .groupValues g.size (valuesOf s.objs s'.world.mem g.vars))
  | groupWrite {id : UInt8} {values : List UInt8} {g : Group} {w : World σ} {failed : Bool} {s' : System σ}
      (hcmd : m.commandCode = CommandCode.groupWrite.toByte) (hpay : m.payload = id :: values)
      (hid : id.toNat < s.server.groups.count) (hg : s.server.groups.at id.toNat = .ok g)
      (hlen : values.length = g.size.toNat) (hwr : g.writable = true)
      (hw : writeMembers s.objs g.vars values s.world false = (w, failed))
      (hhook : System.callHook { s with world := w } .write (g.vars.map some ++ [none]) = .ok s') :
      Outcome s m s' (answer (if failed then .errInvalidValue else .ok))
  | groupBinOp {id operation : UInt8} {masks : List UInt8} {g : Group} {op : UInt8 → UInt8 → UInt8}
      {s' : System σ} (hcmd : m.commandCode = CommandCode.groupBinOp.toByte)
      (hpay : m.payload = id :: operation :: masks) (hid : id.toNat < s.server.groups.count)
      (hg : s.server.groups.at id.toNat = .ok g) (hop : binOp operation = some op)
      (hlen : masks.length = g.size.toNat) (hwr : g.writable = true)
      (hhook : System.callHook { s with world.mem := binOpMembers s.objs op g.vars masks s.world.mem } .write
        (g.vars.map some ++ [none]) = .ok s') : Outcome s m s' (answer .ok)
  /-- `group_create` left early: a slot that is not in use has changed. -/
  | groupAbandoned {i : Fin bsmpMaxGroups} {g : Group} (hi : i.val = s.server.groups.count) :
      Outcome s m { s with server.groups.list := Function.update s.server.groups.list i g }
        (answer .errInvalidId)
  | groupCreated {i : Fin bsmpMaxGroups} {g : Group} (hcmd : m.commandCode = CommandCode.groupCreate.toByte)
      (hi : i.val = s.server.groups.count)
      (hg : GroupOk s.server.vars (fun p => (s.objs.var p).info) i.val g) :
      Outcome s m { s with server.groups := ⟨s.server.groups.count + 1,
        Function.update s.server.groups.list i g⟩ } (answer .ok)
  | groupsRemoved (hcmd : m.commandCode = CommandCode.groupRemoveAll.toByte) :
      Outcome s m { s with server.groups.count := groupStandardCount } (answer .ok)
  | blockBusy {id hi lo : UInt8} {p : Ptr} {data : List UInt8} {s' : System σ}
      (hcmd : m.commandCode = CommandCode.curveBlockRequest.toByte)
      (hp : s.server.curves[id.toNat]? = some p)
      (hread : s.callReadBlock p (ofBeBytes hi lo) = .ok (false, data, s')) :
      Outcome s m s' (answer .errResourceBusy)
  | blockRead {id hi lo : UInt8} {p : Ptr} {data : List UInt8} {s' : System σ}
      (hcmd : m.commandCode = CommandCode.curveBlockRequest.toByte) (hpay : m.payload = [id, hi, lo])
      (hp : s.server.curves[id.toNat]? = some p)
      (hoff : (ofBeBytes hi lo).toNat < (s.objs.curve p).info.nblocks.toNat)
      (hread : s.callReadBlock p (ofBeBytes hi lo) = .ok (true, data, s')) :
      Outcome s m s' (reply .curveBlock (UInt16.ofNat data.length + UInt16.ofNat bsmpCurveBlockInfo)
        (id :: hi :: lo :: data))
  | blockWriteBusy {id hi lo : UInt8} {p : Ptr} {data : List UInt8} {s' : System σ}
      (hcmd : m.commandCode = CommandCode.curveBlock.toByte) (hp : s.server.curves[id.toNat]? = some p)
      (hwr : (s.objs.curve p).info.writable = true)
      (hwrite : s.callWriteBlock p (ofBeBytes hi lo) data = .ok (false, s')) :
      Outcome s m s' (answer .errResourceBusy)
  | blockWritten {id hi lo : UInt8} {p : Ptr} {data : List UInt8} {s' : System σ}
      (hcmd : m.commandCode = CommandCode.curveBlock.toByte) (hpay : m.payload = id :: hi :: lo :: data)
      (hp : s.server.curves[id.toNat]? = some p) (hdata : data ≠ [])
      (hlen : data.length ≤ (s.objs.curve p).info.blockSize.toNat)
      (hoff : (ofBeBytes hi lo).toNat < (s.objs.curve p).info.nblocks.toNat)
      (hwr : (s.objs.curve p).info.writable = true)
      (hwrite : s.callWriteBlock p (ofBeBytes hi lo) data = .ok (true, s')) :
      Outcome s m (s'.setChecksum p (Vector.replicate _ 0)) (answer .ok)
  | customCsum {id : UInt8} {p : Ptr} {customMd5 : CustomMd5 σ} {ok : Bool} {checksum : Checksum}
      {w : World σ} (hcmd : m.commandCode = CommandCode.curveRecalcCsum.toByte) (hpay : m.payload = [id])
      (hp : s.server.curves[id.toNat]? = some p) (hmd5 : s.server.customMd5 = some customMd5)
      (hcall : customMd5 p (s.objs.curve p).info.checksum s.world = (ok, checksum, w)) :
      Outcome s m
        (System.setChecksum { s with world := w, trace := s.trace ++ [.customMd5 p] } p checksum)
        (if ok then reply .curveCsum (UInt16.ofNat bsmpCurveCsumSize) checksum.toList
          else answer .errResourceBusy)
  | csumBusy {id : UInt8} {p : Ptr} {s' : System σ}
      (hcmd : m.commandCode = CommandCode.curveRecalcCsum.toByte) (hpay : m.payload = [id])
      (hp : s.server.curves[id.toNat]? = some p) (hmd5 : s.server.customMd5 = none)
      (hloop : curveCsumLoop md5 p (s.objs.curve p).info.nblocks.toNat 0 md5.init s = .ok (none, s')) :
      Outcome s m s' (answer .errResourceBusy)
  | csumComputed {id : UInt8} {p : Ptr} {ctx : md5.Ctx} {s' : System σ}
      (hcmd : m.commandCode = CommandCode.curveRecalcCsum.toByte) (hpay : m.payload = [id])
      (hp : s.server.curves[id.toNat]? = some p) (hmd5 : s.server.customMd5 = none)
      (hloop : curveCsumLoop md5 p (s.objs.curve p).info.nblocks.toNat 0 md5.init s = .ok (some ctx, s')) :
      Outcome s m (s'.setChecksum p (md5.final ctx))
        (reply .curveCsum (UInt16.ofNat bsmpCurveCsumSize) (md5.final ctx).toList)
  | executed {id : UInt8} {input written : List UInt8} {p : Ptr}
      {funcP : List UInt8 → World σ → UInt8 × List UInt8 × World σ} {ret : UInt8} {w : World σ}
      (hcmd : m.commandCode = CommandCode.funcExecute.toByte) (hpay : m.payload = id :: input)
      (hp : s.server.funcs[id.toNat]? = some p) (hlen : input.length = (s.objs.func p).info.inputSize.toNat)
      (hfunc : (s.objs.func p).funcP = some funcP) (hcall : funcP input s.world = (ret, written, w)) :
      Outcome s m { s with world := w, trace := s.trace ++ [.func p input] }
        (if ret ≠ 0 then reply .funcError 1 [ret]
          else reply .funcReturn (s.objs.func p).info.outputSize.toUInt16
            (outputArea area written (s.objs.func p).info.outputSize.toNat))

/-! ## The handlers, one by one -/

variable {md5 area} {s : System σ} {m : Message}

theorem exists_getElem? {l : List Ptr} {i : Nat} (h : ¬ i ≥ l.length) : ∃ p, l[i]? = some p := by
  have hi : i < l.length := by omega
  exact ⟨l[i], List.getElem?_eq_getElem hi⟩

/-- A check of a handler: the request is rejected, or it passes. -/
theorem check_outcome {c : Prop} [Decidable c] {code : CommandCode} {x : Except Fault (System σ × Message)}
    (hcode : code.isError = true) (hx : ¬ c → Returns x fun r => Outcome md5 area s m r.1 r.2) :
    Returns (if c then pure (s, answer code) else x) fun r => Outcome md5 area s m r.1 r.2 :=
  .ite (fun _ => .pure (.rejected hcode)) hx

theorem queryVersion_outcome (hcmd : m.commandCode = CommandCode.queryVersion.toByte) :
    Returns (queryVersion s m) fun r => Outcome md5 area s m r.1 r.2 := by
  refine check_outcome rfl fun _ => .pure ?_
  exact .queried [version, subversion, revision] hcmd (by simp [CommandCode.answers]) (by simp) rfl

theorem varQueryList_outcome (h : RepInv s) (hcmd : m.commandCode = CommandCode.varQueryList.toByte) :
    Returns (varQueryList s m) fun r => Outcome md5 area s m r.1 r.2 := by
  refine check_outcome rfl fun _ => .pure ?_
  have hlen := h.vars.count
  have ho : Outcome md5 area s m _ _ := .queried
    (s.server.vars.map fun p => (s.objs.var p).info.listByte) hcmd (c := .varList)
    (by simp [CommandCode.answers]) (by simp at hlen ⊢; omega) rfl
  simpa using ho

theorem varRead_outcome (h : RepInv s) (hm : m.Whole) (hcmd : m.commandCode = CommandCode.varRead.toByte) :
    Returns (varRead s m) fun r => Outcome md5 area s m r.1 r.2 := by
  refine check_outcome rfl fun hsize => ?_
  obtain ⟨id, hpay⟩ := List.length_eq_one_iff.mp (by rw [hm]; omega : m.payload.length = 1)
  refine .step (Message.byte_ok (b := id) (by simp [hpay])) (check_outcome rfl fun hid => ?_)
  obtain ⟨p, hp⟩ := exists_getElem? hid
  obtain ⟨s', hhook⟩ := callHook_ok [some p, none] (by simp) s .read
  refine .step (varAt_ok hp) (.step hhook ?_)
  have hload := h.load (List.mem_of_getElem? hp) s'.world.mem
  rw [(callHook_same hhook).objs]
  exact .step hload (.pure (.varRead hcmd hpay hp hhook))

theorem varWrite_outcome (h : RepInv s) (hm : m.Whole) (hcmd : m.commandCode = CommandCode.varWrite.toByte) :
    Returns (varWrite s m) fun r => Outcome md5 area s m r.1 r.2 := by
  refine check_outcome rfl fun hsize => ?_
  obtain ⟨id, value, hpay⟩ := List.exists_cons_of_length_pos (by rw [hm]; omega : 0 < m.payload.length)
  refine .step (Message.byte_ok (b := id) (by simp [hpay])) (check_outcome rfl fun hid => ?_)
  obtain ⟨p, hp⟩ := exists_getElem? hid
  have hmem := List.mem_of_getElem? hp
  refine .step (varAt_ok hp) (check_outcome rfl fun hlen => ?_)
  refine check_outcome rfl fun hwr => ?_
  obtain ⟨hvalue, hslice⟩ := hm.rest [id] hpay (Classical.not_not.mp hlen)
  refine .step hslice (check_outcome rfl fun hok => ?_)
  obtain ⟨s', hhook⟩ := callHook_ok [some p, none] (by simp)
    { s with world.mem := (s.objs.var p).put s.world.mem value } .write
  refine .step (h.store hmem _ _) (.step hhook (.pure ?_))
  exact .varWrite hcmd hpay hp hvalue (by simpa using hwr) (by simpa using hok) hhook

theorem varWriteRead_outcome (h : RepInv s) (hm : m.Whole)
    (hcmd : m.commandCode = CommandCode.varWriteRead.toByte) :
    Returns (varWriteRead s m) fun r => Outcome md5 area s m r.1 r.2 := by
  refine check_outcome rfl fun hsize => ?_
  obtain ⟨idw, idr, value, hpay⟩ := exists_cons₂ (l := m.payload) (by rw [hm]; omega)
  refine .step (Message.byte_ok (b := idw) (by simp [hpay]))
    (.step (Message.byte_ok (b := idr) (by simp [hpay])) (check_outcome rfl fun hid => ?_))
  obtain ⟨pw, hpw⟩ := exists_getElem? (fun hge => hid (.inl hge))
  obtain ⟨pr, hpr⟩ := exists_getElem? (fun hge => hid (.inr hge))
  refine .step (varAt_ok hpw) (.step (varAt_ok hpr) (check_outcome rfl fun hlen => ?_))
  refine check_outcome rfl fun hwr => ?_
  obtain ⟨hvalue, hslice⟩ := hm.rest [idw, idr] hpay (Classical.not_not.mp hlen)
  refine .step hslice (check_outcome rfl fun hok => ?_)
  obtain ⟨s₁, hhook₁⟩ := callHook_ok [some pw, none] (by simp)
    { s with world.mem := (s.objs.var pw).put s.world.mem value } .write
  obtain ⟨s', hhook₂⟩ := callHook_ok [some pr] (by simp) s₁ .read
  have hsame : SameInstance s s' :=
    (SameInstance.world s _).trans ((callHook_same hhook₁).trans (callHook_same hhook₂))
  refine .step (h.store (List.mem_of_getElem? hpw) _ _) (.step hhook₁ (.step hhook₂ ?_))
  have hload := h.load (List.mem_of_getElem? hpr) s'.world.mem
  rw [hsame.objs]
  exact .step hload (.pure (.varWriteRead hcmd hpay hpw hpr hvalue (by simpa using hwr) (by simpa using hok)
    hhook₁ hhook₂))

theorem varBinOp_outcome (h : RepInv s) (hm : m.Whole) (hcmd : m.commandCode = CommandCode.varBinOp.toByte) :
    Returns (varBinOp s m) fun r => Outcome md5 area s m r.1 r.2 := by
  refine check_outcome rfl fun hsize => ?_
  obtain ⟨id, operation, mask, hpay⟩ := exists_cons₂ (l := m.payload) (by rw [hm]; omega)
  refine .step (Message.byte_ok (b := id) (by simp [hpay])) (check_outcome rfl fun hid => ?_)
  obtain ⟨p, hp⟩ := exists_getElem? hid
  have hmem := List.mem_of_getElem? hp
  refine .step (varAt_ok hp) (.step (Message.byte_ok (b := operation) (by simp [hpay])) ?_)
  cases hop : binOp operation with
  | none => exact .pure (.rejected rfl)
  | some op =>
    refine check_outcome rfl fun hlen => ?_
    refine check_outcome rfl fun hwr => ?_
    obtain ⟨hmask, hslice⟩ := hm.rest [id, operation] hpay (Classical.not_not.mp hlen)
    obtain ⟨s', hhook⟩ := callHook_ok [some p, none] (by simp)
      { s with
        world.mem := (s.objs.var p).put s.world.mem ((s.objs.var p).combine op s.world.mem mask) }
      .write
    refine .step hslice (.step (h.applyBinOp hmem op _ _) (.step hhook (.pure ?_)))
    exact .varBinOp hcmd hpay hp hop hmask (by simpa using hwr) hhook

theorem groupQueryList_outcome (h : RepInv s) (hcmd : m.commandCode = CommandCode.groupQueryList.toByte) :
    Returns (groupQueryList s m) fun r => Outcome md5 area s m r.1 r.2 := by
  refine check_outcome rfl fun _ => ?_
  have hroom := h.room
  have hex : ∀ i : Nat, ∃ g, i < s.server.groups.count → s.server.groups.at i = .ok g := fun i => by
    by_cases hi : i < s.server.groups.count
    · obtain ⟨g, hg, -⟩ := h.groupAt hi
      exact ⟨g, fun _ => hg⟩
    · exact ⟨groupInit 0, fun hi' => absurd hi' hi⟩
  choose grp hgrp using hex
  have hloop := mapM_ok (f := s.server.groups.at) (g := grp) (l := List.range s.server.groups.count)
    fun i hi => hgrp i (List.mem_range.mp hi)
  refine .step hloop (.pure ?_)
  have ho : Outcome md5 area s m _ _ := .queried
    (((List.range s.server.groups.count).map grp).map Group.listByte) hcmd (c := .groupList)
    (by simp [CommandCode.answers]) (by simp at hroom ⊢; omega) rfl
  simpa using ho

theorem groupQuery_outcome (h : RepInv s) (hm : m.Whole)
    (hcmd : m.commandCode = CommandCode.groupQuery.toByte) :
    Returns (groupQuery s m) fun r => Outcome md5 area s m r.1 r.2 := by
  refine check_outcome rfl fun hsize => ?_
  obtain ⟨id, hpay⟩ := List.length_eq_one_iff.mp (by rw [hm]; omega : m.payload.length = 1)
  refine .step (Message.byte_ok (b := id) (by simp [hpay])) (check_outcome rfl fun hid => ?_)
  obtain ⟨g, hg, hok⟩ := h.groupAt (i := id.toNat) (by omega)
  refine .step hg (.pure ?_)
  have hlen := Nat.le_trans hok.members.length_le h.vars.count
  have ho : Outcome md5 area s m _ _ := .queried
    (g.vars.map fun q => (s.objs.var q).info.id) hcmd (c := .group)
    (by simp [CommandCode.answers]) (by simp at hlen ⊢; omega) rfl
  simpa using ho

theorem groupRead_outcome (h : RepInv s) (hm : m.Whole)
    (hcmd : m.commandCode = CommandCode.groupRead.toByte) :
    Returns (groupRead s m) fun r => Outcome md5 area s m r.1 r.2 := by
  refine check_outcome rfl fun hsize => ?_
  obtain ⟨id, hpay⟩ := List.length_eq_one_iff.mp (by rw [hm]; omega : m.payload.length = 1)
  refine .step (Message.byte_ok (b := id) (by simp [hpay])) (check_outcome rfl fun hid => ?_)
  obtain ⟨g, hg, hok⟩ := h.groupAt (i := id.toNat) (by omega)
  obtain ⟨s', hhook⟩ := callHook_ok _ (h.modified_fits hok) s .read
  have hsame := callHook_same hhook
  refine .step hg (.step ((h.callGroupHook hok.members_mem .read).trans hhook) ?_)
  have hloop := (h.same hsame).groupReadLoop g.vars (by rw [hsame.vars]; exact hok.members_mem)
  rw [hsame.objs] at hloop
  exact .step hloop (.pure (.groupRead hcmd hpay (by omega) hg hhook))

theorem groupWrite_outcome (h : RepInv s) (hm : m.Whole)
    (hcmd : m.commandCode = CommandCode.groupWrite.toByte) :
    Returns (groupWrite s m) fun r => Outcome md5 area s m r.1 r.2 := by
  refine check_outcome rfl fun hsize => ?_
  obtain ⟨id, values, hpay⟩ := List.exists_cons_of_length_pos (by rw [hm]; omega : 0 < m.payload.length)
  refine .step (Message.byte_ok (b := id) (by simp [hpay])) (check_outcome rfl fun hid => ?_)
  obtain ⟨g, hg, hok⟩ := h.groupAt (i := id.toNat) (by omega)
  refine .step hg (check_outcome rfl fun hlen => ?_)
  refine check_outcome rfl fun hwr => ?_
  have hvalues := (hm.rest [id] hpay (Classical.not_not.mp hlen)).1
  have hloop := h.groupWriteLoop (m := m) g.vars hok.members_mem (i := 1)
    (by rw [sizeSum, ← hok.sums.size, hm]; omega) s.world false
  rw [hpay, List.drop_one, List.tail_cons] at hloop
  cases hw : writeMembers s.objs g.vars values s.world false with
  | mk w failed =>
  rw [hw] at hloop
  obtain ⟨s', hhook⟩ := callHook_ok _ (h.modified_fits hok) { s with world := w } .write
  refine .step hloop (.step (((h.same (.world s w)).callGroupHook hok.members_mem .write).trans hhook)
    (.pure ?_))
  exact .groupWrite hcmd hpay (by omega) hg hvalues (by simpa using hwr) hw hhook

theorem groupBinOp_outcome (h : RepInv s) (hm : m.Whole)
    (hcmd : m.commandCode = CommandCode.groupBinOp.toByte) :
    Returns (groupBinOp s m) fun r => Outcome md5 area s m r.1 r.2 := by
  refine check_outcome rfl fun hsize => ?_
  obtain ⟨id, operation, masks, hpay⟩ := exists_cons₂ (l := m.payload) (by rw [hm]; omega)
  refine .step (Message.byte_ok (b := id) (by simp [hpay])) (check_outcome rfl fun hid => ?_)
  obtain ⟨g, hg, hok⟩ := h.groupAt (i := id.toNat) (by omega)
  refine .step hg (.step (Message.byte_ok (b := operation) (by simp [hpay])) ?_)
  cases hop : binOp operation with
  | none => exact .pure (.rejected rfl)
  | some op =>
    refine check_outcome rfl fun hlen => ?_
    refine check_outcome rfl fun hwr => ?_
    have hmasks := (hm.rest [id, operation] hpay (Classical.not_not.mp hlen)).1
    have hloop := h.groupBinOpLoop (m := m) op g.vars hok.members_mem (i := 2)
      (by rw [sizeSum, ← hok.sums.size, hm]; omega) s.world.mem
    rw [hpay, show List.drop 2 (id :: operation :: masks) = masks from rfl] at hloop
    obtain ⟨s', hhook⟩ := callHook_ok _ (h.modified_fits hok)
      { s with world.mem := binOpMembers s.objs op g.vars masks s.world.mem } .write
    have hsame := SameInstance.world s { s.world with mem := binOpMembers s.objs op g.vars masks s.world.mem }
    refine .step hloop (.step (((h.same hsame).callGroupHook hok.members_mem .write).trans hhook) (.pure ?_))
    exact .groupBinOp hcmd hpay (by omega) hg hop hmasks (by simpa using hwr) hhook

/-- The group under construction: `i` variables so far, all with ids below `n`. -/
structure Partial (s : System σ) (i n : Nat) (g : Group) : Prop where
  length : g.vars.length = i
  members : g.vars.Sublist (s.server.vars.take n)
  last : ∀ q, g.vars[i - 1]? = some q → n = (s.objs.var q).info.id.toNat + 1
  sums : GroupSums (fun p => (s.objs.var p).info) g

/-- One more id: above the last one, so the list stays in order. -/
theorem Partial.addVar (h : RepInv s) {i n : Nat} {g : Group} (hg : Partial s i n g) {id : UInt8} {p : Ptr}
    (hp : s.server.vars[id.toNat]? = some p) (hn : n ≤ id.toNat) (hi : i < bsmpMaxVariables) :
    ∃ g', groupAddVar s.objs g p = .ok g' ∧ g'.id = g.id ∧ Partial s (i + 1) (id.toNat + 1) g' := by
  obtain ⟨hlt, hget⟩ := List.getElem?_eq_some_iff.mp hp
  have hmem : (g.vars ++ [p]).Sublist (s.server.vars.take (id.toNat + 1)) := by
    rw [← List.take_append_getElem hlt, hget]
    exact (hg.members.trans (List.take_sublist_take_left hn)).append (List.Sublist.refl [p])
  obtain ⟨g', hadd, hid, hvars, hsums⟩ := groupAddVar_ok (p := p) hg.sums (by rw [hg.length]; exact hi)
    fun q hq => h.size_le ((List.take_sublist _ _).subset (hmem.subset hq))
  refine ⟨g', hadd, hid, by simp [hvars, hg.length], by rw [hvars]; exact hmem, fun q hq => ?_, hsums⟩
  rw [hvars, Nat.add_sub_cancel, ← hg.length, List.getElem?_concat_length, Option.some.injEq] at hq
  subst hq
  rw [← hget, h.vars.ids id.toNat hlt]

/-- An id is out of order when it is not above the last variable's. -/
theorem Partial.outOfOrder_eq {i n : Nat} {g : Group} (hg : Partial s i n g) (hn0 : i = 0 → n = 0)
    (id : UInt8) : outOfOrder s g i id = .ok (decide (id.toNat < n)) := by
  unfold outOfOrder
  split
  · next hi =>
    rw [hn0 hi]
    rfl
  · have hprev : i - 1 < g.vars.length := by rw [hg.length]; omega
    obtain ⟨q, hq⟩ : ∃ q, g.vars[i - 1]? = some q := ⟨g.vars[i - 1], List.getElem?_eq_getElem hprev⟩
    rw [index_ok_iff.mpr hq, ok_bind, hg.last q hq]
    exact congrArg Except.ok (decide_eq_decide.mpr (UInt8.le_iff_toNat_le.trans Nat.lt_succ_iff.symm))

theorem groupCreateLoop_returns (h : RepInv s) (k : Nat) {i n : Nat} {g : Group} (hg : Partial s i n g)
    (hn0 : i = 0 → n = 0) (hlen : i + k ≤ m.payload.length) (hmax : i + k ≤ bsmpMaxVariables) :
    Returns (groupCreateLoop s m k i g) fun r => r.1 = true →
      r.2.id = g.id ∧ r.2.vars.Sublist s.server.vars ∧ GroupSums (fun p => (s.objs.var p).info) r.2 := by
  induction k generalizing i n g with
  | zero => exact .ok fun _ => ⟨rfl, hg.members.trans (List.take_sublist _ _), hg.sums⟩
  | succ k ih =>
    have hi : i < m.payload.length := by omega
    obtain ⟨id, hid⟩ : ∃ id, m.payload[i]? = some id := ⟨m.payload[i], List.getElem?_eq_getElem hi⟩
    refine .step (Message.byte_ok hid) (.ite (fun _ => .pure (by simp)) fun hlt => ?_)
    obtain ⟨p, hp⟩ := exists_getElem? hlt
    refine .step (hg.outOfOrder_eq hn0 id) (.ite (fun _ => .pure (by simp)) fun hinc => ?_)
    obtain ⟨g', hadd, hid', hg'⟩ := hg.addVar h hp (by simpa using hinc) (by omega)
    refine .step (varAt_ok hp) (.step hadd ?_)
    rw [← hid']
    exact ih hg' (by simp) (by omega) (by omega)

theorem groupCreate_outcome (h : RepInv s) (hm : m.Whole)
    (hcmd : m.commandCode = CommandCode.groupCreate.toByte) :
    Returns (groupCreate s m) fun r => Outcome md5 area s m r.1 r.2 := by
  refine check_outcome rfl fun hsize => ?_
  refine check_outcome rfl fun hfull => ?_
  have hroom := h.room
  have hcount := h.vars.count
  obtain ⟨i, hi⟩ : ∃ i : Fin bsmpMaxGroups, i.val = s.server.groups.count :=
    ⟨⟨s.server.groups.count, by omega⟩, rfl⟩
  have hstart : Partial s 0 0 (groupInit (UInt8.ofNat s.server.groups.count)) :=
    ⟨rfl, by simp [groupInit], by simp [groupInit], .init _⟩
  refine .bind (groupCreateLoop_returns (m := m) h m.payloadSize.toNat hstart (fun _ => rfl)
    (by rw [hm]; omega) (by omega)) fun r _ hr => ?_
  obtain ⟨done, g⟩ := r
  rw [← hi]
  refine .step (s.server.groups.set_val i g) ?_
  cases done
  · exact .pure (.groupAbandoned hi)
  obtain ⟨hid, hmem, hsums⟩ := hr rfl
  refine .pure (.groupCreated hcmd hi ⟨?_, hmem, hsums⟩)
  simp only at hid
  rw [hid, hi]
  exact UInt8.toNat_ofNat_of_lt (Nat.lt_of_le_of_lt hroom (by decide))

theorem groupRemoveAll_outcome (hcmd : m.commandCode = CommandCode.groupRemoveAll.toByte) :
    Returns (groupRemoveAll s m) fun r => Outcome md5 area s m r.1 r.2 :=
  check_outcome rfl fun _ => .pure (.groupsRemoved hcmd)

theorem curveQueryList_outcome (h : RepInv s) (hcmd : m.commandCode = CommandCode.curveQueryList.toByte) :
    Returns (curveQueryList s m) fun r => Outcome md5 area s m r.1 r.2 := by
  refine check_outcome rfl fun _ => .pure ?_
  have hlen : (s.server.curves.flatMap fun p => (s.objs.curve p).info.listBytes).length =
      s.server.curves.length * bsmpCurveListInfo := by
    simp [List.length_flatMap, CurveInfo.listBytes]
  rw [← hlen]
  refine .queried _ hcmd (by simp [CommandCode.answers]) ?_ rfl
  rw [hlen]
  exact Nat.mul_le_mul_right _ h.curves.count

theorem curveQueryCsum_outcome (hm : m.Whole)
    (hcmd : m.commandCode = CommandCode.curveQueryCsum.toByte) :
    Returns (curveQueryCsum s m) fun r => Outcome md5 area s m r.1 r.2 := by
  refine check_outcome rfl fun hsize => ?_
  obtain ⟨id, hpay⟩ := List.length_eq_one_iff.mp (by rw [hm]; omega : m.payload.length = 1)
  refine .step (Message.byte_ok (b := id) (by simp [hpay])) (check_outcome rfl fun hid => ?_)
  obtain ⟨p, hp⟩ := exists_getElem? hid
  refine .step (curveAt_ok hp) (.pure ?_)
  have ho : Outcome md5 area s m _ _ := .queried
    ((s.objs.curve p).info.checksum.toList) hcmd (c := .curveCsum)
    (by simp [CommandCode.answers]) (by simp) rfl
  simpa using ho

/-- What `curve_check` let through. -/
theorem curveCheck_success {c : Curve σ} (h : curveCheck (some c) = .success) :
    c.info.nblocks.toNat ≤ bsmpCurveMaxBlocks ∧ c.info.blockSize.toNat ≤ bsmpCurveBlockMaxSize ∧
      (∃ f, c.readBlock = some f) ∧ (c.info.writable = true → ∃ f, c.writeBlock = some f) := by
  simp only [curveCheck] at h
  split at h
  · cases h
  split at h
  · cases h
  split at h
  · cases h
  split at h
  · cases h
  next h₁ h₂ h₃ h₄ =>
    refine ⟨by omega, by omega, Option.ne_none_iff_exists'.mp (by simpa using h₃), fun hw => ?_⟩
    exact Option.ne_none_iff_exists'.mp (by simpa [hw] using h₄)

theorem callReadBlock_ok (h : RepInv s) {p : Ptr} (hp : p ∈ s.server.curves) (block : UInt16) :
    ∃ ok data s', s.callReadBlock p block = .ok (ok, data, s') ∧ SameInstance s s' := by
  obtain ⟨f, hf⟩ := (curveCheck_success (h.curves.checked p hp)).2.2.1
  simp only [System.callReadBlock, hf, deref_some, ok_bind]
  exact ⟨_, _, _, rfl, ⟨rfl, rfl, rfl, rfl, rfl, rfl, rfl⟩⟩

theorem curveBlockRequest_outcome (h : RepInv s) (hm : m.Whole)
    (hcmd : m.commandCode = CommandCode.curveBlockRequest.toByte) :
    Returns (curveBlockRequest s m) fun r => Outcome md5 area s m r.1 r.2 := by
  refine check_outcome rfl fun hsize => ?_
  obtain ⟨id, hi, lo, hpay⟩ : ∃ id hi lo, m.payload = [id, hi, lo] := by
    obtain ⟨a, b, c, t, ht⟩ := exists_cons₃ (l := m.payload) (by rw [hm]; simp at hsize; omega)
    have := hm.symm
    rw [ht] at this
    simp at this hsize
    exact ⟨a, b, c, by rw [ht, List.eq_nil_of_length_eq_zero (by omega : t.length = 0)]⟩
  refine .step (Message.byte_ok (b := id) (by simp [hpay])) (check_outcome rfl fun hid => ?_)
  obtain ⟨p, hp⟩ := exists_getElem? hid
  refine .step (curveAt_ok hp) (.step (Message.byte_ok (b := hi) (by simp [hpay]))
    (.step (Message.byte_ok (b := lo) (by simp [hpay])) (check_outcome rfl fun hoff => ?_)))
  obtain ⟨ok, data, s', hread, -⟩ := callReadBlock_ok h (List.mem_of_getElem? hp) (ofBeBytes hi lo)
  refine .step hread ?_
  cases ok
  · exact .pure (.blockBusy hcmd hp hread)
  · exact .pure (.blockRead hcmd hpay hp (by omega) hread)

theorem curveBlock_outcome (h : RepInv s) (hm : m.Whole)
    (hcmd : m.commandCode = CommandCode.curveBlock.toByte) :
    Returns (curveBlock s m) fun r => Outcome md5 area s m r.1 r.2 := by
  refine check_outcome rfl fun hsize => ?_
  simp only [bsmpCurveBlockInfo, Nat.not_lt] at hsize
  obtain ⟨id, hi, lo, data, hpay⟩ := exists_cons₃ (l := m.payload) (by rw [hm]; omega)
  obtain ⟨hdata, hslice⟩ := hm.rest (n := m.payloadSize.toNat - bsmpCurveBlockInfo) [id, hi, lo] hpay
    (by simp only [bsmpCurveBlockInfo, List.length_cons, List.length_nil]; omega)
  refine .step (Message.byte_ok (b := id) (by simp [hpay])) (check_outcome rfl fun hid => ?_)
  obtain ⟨p, hp⟩ := exists_getElem? hid
  refine .step (curveAt_ok hp) (check_outcome rfl fun hbig => ?_)
  refine .step (Message.byte_ok (b := hi) (by simp [hpay]))
    (.step (Message.byte_ok (b := lo) (by simp [hpay])) (check_outcome rfl fun hoff => ?_))
  refine check_outcome rfl fun hwr => ?_
  have hwr' : (s.objs.curve p).info.writable = true := by simpa using hwr
  obtain ⟨f, hf⟩ := (curveCheck_success (h.curves.checked p (List.mem_of_getElem? hp))).2.2.2 hwr'
  obtain ⟨ok, s', hwrite⟩ : ∃ ok s', s.callWriteBlock p (ofBeBytes hi lo) data = .ok (ok, s') := by
    simp only [System.callWriteBlock, hf, deref_some, ok_bind]
    exact ⟨_, _, rfl⟩
  refine .step hslice (.step hwrite ?_)
  cases ok
  · exact .pure (.blockWriteBusy hcmd hp hwr' hwrite)
  · refine .pure (.blockWritten hcmd hpay hp ?_ ?_ (by omega) hwr' hwrite)
    · exact List.ne_nil_of_length_pos (by simp only [bsmpCurveBlockInfo] at hdata; omega)
    · simp only [bsmpCurveBlockInfo] at hbig hdata; omega

theorem curveCsumLoop_ok (h : RepInv s) (md5 : Md5) {p : Ptr} (hp : p ∈ s.server.curves) (n i : Nat)
    (ctx : md5.Ctx) : ∃ r s', curveCsumLoop md5 p n i ctx s = .ok (r, s') ∧ SameInstance s s' := by
  induction n generalizing s i ctx with
  | zero => exact ⟨some ctx, s, rfl, .refl s⟩
  | succ n ih =>
    obtain ⟨ok, data, s₁, hread, hsame⟩ := callReadBlock_ok h hp (UInt16.ofNat i)
    simp only [curveCsumLoop, hread, ok_bind]
    cases ok
    · exact ⟨none, s₁, rfl, hsame⟩
    simp only [Bool.not_true, Bool.false_eq_true, if_false]
    split
    · exact ⟨_, s₁, rfl, hsame⟩
    obtain ⟨r, s', hr, hsame'⟩ :=
      ih (h.same hsame) (by rw [hsame.curves]; exact hp) (i + 1) (md5.update ctx data)
    exact ⟨r, s', hr, hsame.trans hsame'⟩

@[simp] theorem setChecksum_checksum (s : System σ) (p : Ptr) (c : Checksum) :
    ((s.setChecksum p c).objs.curve p).info.checksum = c := by
  simp [System.setChecksum]

theorem curveRecalcCsum_outcome (h : RepInv s) (hm : m.Whole)
    (hcmd : m.commandCode = CommandCode.curveRecalcCsum.toByte) :
    Returns (curveRecalcCsum md5 s m) fun r => Outcome md5 area s m r.1 r.2 := by
  refine check_outcome rfl fun hsize => ?_
  obtain ⟨id, hpay⟩ := List.length_eq_one_iff.mp (by rw [hm]; omega : m.payload.length = 1)
  refine .step (Message.byte_ok (b := id) (by simp [hpay])) (check_outcome rfl fun hid => ?_)
  obtain ⟨p, hp⟩ := exists_getElem? hid
  refine .step (curveAt_ok hp) ?_
  cases hmd5 : s.server.customMd5 with
  | some customMd5 =>
    obtain ⟨ok, checksum, w, hcall⟩ : ∃ ok checksum w,
        customMd5 p (s.objs.curve p).info.checksum s.world = (ok, checksum, w) := ⟨_, _, _, rfl⟩
    have ho : Outcome md5 area s m _ _ := .customCsum hcmd hpay hp hmd5 hcall
    simp only [hcall, setChecksum_checksum]
    cases ok
    · exact .pure ho
    · exact .pure ho
  | none =>
    obtain ⟨r, s', hloop, hsame⟩ := curveCsumLoop_ok h md5 (List.mem_of_getElem? hp)
      (s.objs.curve p).info.nblocks.toNat 0 md5.init
    refine .step hloop ?_
    cases r with
    | none => exact .pure (.csumBusy hcmd hpay hp hmd5 hloop)
    | some ctx =>
      simp only [setChecksum_checksum]
      exact .pure (.csumComputed hcmd hpay hp hmd5 hloop)

theorem funcQueryList_outcome (h : RepInv s) (hcmd : m.commandCode = CommandCode.funcQueryList.toByte) :
    Returns (funcQueryList s m) fun r => Outcome md5 area s m r.1 r.2 := by
  refine check_outcome rfl fun _ => .pure ?_
  have hlen := h.funcs.count
  have ho : Outcome md5 area s m _ _ := .queried
    (s.server.funcs.map fun p => (s.objs.func p).info.listByte) hcmd (c := .funcList)
    (by simp [CommandCode.answers]) (by simp at hlen ⊢; omega) rfl
  simpa using ho

/-- What `func_check` let through. -/
theorem funcCheck_success {f : Func σ} (h : funcCheck (some f) = .success) :
    (∃ g, f.funcP = some g) ∧ f.info.inputSize.toNat ≤ bsmpFuncMaxInput ∧
      f.info.outputSize.toNat ≤ bsmpFuncMaxOutput := by
  simp only [funcCheck] at h
  split at h
  · cases h
  split at h
  · cases h
  split at h
  · cases h
  next h₁ h₂ h₃ =>
    exact ⟨Option.ne_none_iff_exists'.mp (by simpa using h₁), by omega, by omega⟩

theorem funcExecute_outcome (h : RepInv s) (hm : m.Whole)
    (hcmd : m.commandCode = CommandCode.funcExecute.toByte) :
    Returns (funcExecute area s m) fun r => Outcome md5 area s m r.1 r.2 := by
  refine check_outcome rfl fun hsize => ?_
  obtain ⟨id, input, hpay⟩ := List.exists_cons_of_length_pos (by rw [hm]; omega : 0 < m.payload.length)
  refine .step (Message.byte_ok (b := id) (by simp [hpay])) (check_outcome rfl fun hid => ?_)
  obtain ⟨p, hp⟩ := exists_getElem? hid
  refine .step (funcAt_ok hp) (check_outcome rfl fun hlen => ?_)
  obtain ⟨hinput, hslice⟩ := hm.rest [id] hpay (Classical.not_not.mp hlen)
  obtain ⟨funcP, hfunc⟩ := (funcCheck_success (h.funcs.checked p (List.mem_of_getElem? hp))).1
  obtain ⟨ret, written, w, hcall⟩ : ∃ ret written w, funcP input s.world = (ret, written, w) := ⟨_, _, _, rfl⟩
  have ho : Outcome md5 area s m _ _ := .executed hcmd hpay hp hinput hfunc hcall
  refine .step hslice (.step (a := funcP) (by rw [hfunc]; rfl) ?_)
  simp only [hcall]
  refine .ite (fun hret => .pure ?_) fun hret => .pure ?_
  · rw [if_pos hret] at ho
    exact ho
  · rw [if_neg hret] at ho
    exact ho

end UdcFirmware.Bsmp
