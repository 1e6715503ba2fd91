/-
What requests cannot touch.

The commands that write variables write the one they address, or the members
of the group they address, and only writable ones: for a group that rests on
its cached flag being the conjunction over its members. So a read-only
variable keeps its bytes through any requests, as long as its memory is its
own (`Outcome.agree`); nothing checks that two variables do not share data.
And `write_block` is never called on a curve that is not writable
(`Reachable.traceOk`).
-/
import UdcFirmware.Bsmp.Members

namespace UdcFirmware.Bsmp

open ByteMem Checked

variable {σ : Type} {md5 : Md5} {area : Nat → UInt8} {s s' : System σ} {m a : Message}

/-! ## Who can write where -/

/-- No callback writes in `r`. -/
structure CallbacksSpare (s : System σ) (r : Region) : Prop where
  hook : ∀ f, s.server.hook = some f → ∀ op list w, Agree r w.mem (f op list w).2.2.mem
  customMd5 : ∀ f, s.server.customMd5 = some f → ∀ p c w, Agree r w.mem (f p c w).2.2.mem
  readBlock : ∀ p ∈ s.server.curves, ∀ f, (s.objs.curve p).readBlock = some f →
    ∀ block w, Agree r w.mem (f block w).2.2.mem
  writeBlock : ∀ p ∈ s.server.curves, ∀ f, (s.objs.curve p).writeBlock = some f →
    ∀ block data w, Agree r w.mem (f block data w).2.mem
  func : ∀ p ∈ s.server.funcs, ∀ f, (s.objs.func p).funcP = some f →
    ∀ input w, Agree r w.mem (f input w).2.2.mem

theorem CallbacksSpare.same {r : Region} (h : CallbacksSpare s r) (hs : SameApplication s s') :
    CallbacksSpare s' r where
  hook f hf := h.hook f (hs.hook ▸ hf)
  customMd5 f hf := h.customMd5 f (hs.customMd5 ▸ hf)
  readBlock p hp f hf := by
    obtain ⟨c, hc⟩ := hs.curve p
    exact h.readBlock p (hs.curves ▸ hp) f (by rw [hc] at hf; exact hf)
  writeBlock p hp f hf := by
    obtain ⟨c, hc⟩ := hs.curve p
    exact h.writeBlock p (hs.curves ▸ hp) f (by rw [hc] at hf; exact hf)
  func p hp f hf := h.func p (hs.funcs ▸ hp) f (hs.func ▸ hf)

/-- The members of an existing group. -/
def groupMembers (s : System σ) (id : UInt8) : List Ptr :=
  if h : id.toNat < s.server.groups.count ∧ id.toNat < bsmpMaxGroups then
    (s.server.groups.list ⟨id.toNat, h.2⟩).vars
  else []

/-- The variables a request may write: the one it addresses, or the members of
the group it addresses. -/
def addressed (s : System σ) (m : Message) : List Ptr :=
  match CommandCode.ofByte? m.commandCode, m.payload with
  | some .varWrite, id :: _ => s.server.vars[id.toNat]?.toList
  | some .varWriteRead, id :: _ => s.server.vars[id.toNat]?.toList
  | some .varBinOp, id :: _ => s.server.vars[id.toNat]?.toList
  | some .groupWrite, id :: _ => groupMembers s id
  | some .groupBinOp, id :: _ => groupMembers s id
  | _, _ => []

theorem groupMembers_eq {id : UInt8} {g : Group} (hid : id.toNat < s.server.groups.count)
    (hg : s.server.groups.at id.toNat = .ok g) : groupMembers s id = g.vars := by
  unfold GroupList.at at hg
  split at hg
  · next h =>
    cases hg
    simp [groupMembers, hid, h]
  · cases hg

theorem RepInv.addressed_subset (h : RepInv s) : ∀ q ∈ addressed s m, q ∈ s.server.vars := by
  have hvar : ∀ id : UInt8, ∀ q ∈ s.server.vars[id.toNat]?.toList, q ∈ s.server.vars := fun id q hq =>
    List.mem_of_getElem? (Option.mem_toList.mp hq)
  have hgroup : ∀ id : UInt8, ∀ q ∈ groupMembers s id, q ∈ s.server.vars := by
    intro id q hq
    unfold groupMembers at hq
    split at hq
    · next hid => exact (h.group ⟨id.toNat, hid.2⟩ hid.1).members_mem q hq
    · cases hq
  intro q hq
  unfold addressed at hq
  split at hq
  · exact hvar _ q hq
  · exact hvar _ q hq
  · exact hvar _ q hq
  · exact hgroup _ q hq
  · exact hgroup _ q hq
  · cases hq

/-! ## Memory through a request -/

theorem callHook_agree {r : Region} (hcb : CallbacksSpare s r) {op : BsmpOperation}
    {entries : List (Option Ptr)}
    (h : s.callHook op entries = .ok s') : Agree r s.world.mem s'.world.mem := by
  rcases callHook_cases h with ⟨-, rfl⟩ | ⟨hook, list, hhook, -, rfl⟩
  · exact .refl r _
  · exact hcb.hook hook hhook op list s.world

theorem callReadBlock_agree {r : Region} (hcb : CallbacksSpare s r) {p : Ptr} (hp : p ∈ s.server.curves)
    {block : UInt16} {ok : Bool} {data : List UInt8} (h : s.callReadBlock p block = .ok (ok, data, s')) :
    Agree r s.world.mem s'.world.mem := by
  obtain ⟨f, w, hf, hcall, rfl⟩ := callReadBlock_cases h
  have hspare := hcb.readBlock p hp f hf block s.world
  rw [hcall] at hspare
  exact hspare

theorem callWriteBlock_agree {r : Region} (hcb : CallbacksSpare s r) {p : Ptr} (hp : p ∈ s.server.curves)
    {block : UInt16} {data : List UInt8} {ok : Bool} (h : s.callWriteBlock p block data = .ok (ok, s')) :
    Agree r s.world.mem s'.world.mem := by
  obtain ⟨f, w, hf, hcall, rfl⟩ := callWriteBlock_cases h
  have hspare := hcb.writeBlock p hp f hf block data s.world
  rw [hcall] at hspare
  exact hspare

theorem curveCsumLoop_agree {r : Region} (hcb : CallbacksSpare s r) {p : Ptr} (hmem : p ∈ s.server.curves)
    {n i : Nat} {ctx : md5.Ctx} {o : Option md5.Ctx} (h : curveCsumLoop md5 p n i ctx s = .ok (o, s')) :
    Agree r s.world.mem s'.world.mem := by
  refine (curveCsumLoop_keeps (I := fun t => SameInstance s t ∧ Agree r s.world.mem t.world.mem) ?_
    ⟨.refl s, .refl r _⟩ h).2
  rintro s₁ s₂ block ok data ⟨hsame, hagree⟩ hread
  have hmem₁ : p ∈ s₁.server.curves := by rw [hsame.curves]; exact hmem
  exact ⟨hsame.trans (callReadBlock_same hread),
    hagree.trans (callReadBlock_agree (hcb.same hsame.application) hmem₁ hread)⟩

/-- The memory after what a request writes itself, before any callback. -/
inductive Wrote (s : System σ) (m : Message) : Mem UInt8 → Prop
  | nothing : Wrote s m s.world.mem
  | value {q : Ptr} {value : List UInt8} (haddr : addressed s m = [q])
      (hlen : value.length = (s.objs.var q).info.size.toNat) (hwr : (s.objs.var q).info.writable = true)
      (hok : (s.objs.var q).accepts s.world value = true) : Wrote s m ((s.objs.var q).put s.world.mem value)
  | combined {id operation : UInt8} {mask : List UInt8} {q : Ptr} {op : UInt8 → UInt8 → UInt8}
      (hcmd : m.commandCode = CommandCode.varBinOp.toByte) (hpay : m.payload = id :: operation :: mask)
      (hq : s.server.vars[id.toNat]? = some q) (hop : binOp operation = some op)
      (hlen : mask.length = (s.objs.var q).info.size.toNat) (hwr : (s.objs.var q).info.writable = true) :
      Wrote s m ((s.objs.var q).put s.world.mem ((s.objs.var q).combine op s.world.mem mask))
  | values {id : UInt8} {values : List UInt8} {g : Group} (haddr : addressed s m = g.vars)
      (hid : id.toNat < s.server.groups.count) (hg : s.server.groups.at id.toNat = .ok g)
      (hlen : values.length = g.size.toNat) (hwr : g.writable = true) :
      Wrote s m (writeMembers s.objs g.vars values s.world false).1.mem
  | combinedAll {id operation : UInt8} {masks : List UInt8} {g : Group} {op : UInt8 → UInt8 → UInt8}
      (hcmd : m.commandCode = CommandCode.groupBinOp.toByte) (hpay : m.payload = id :: operation :: masks)
      (hid : id.toNat < s.server.groups.count) (hg : s.server.groups.at id.toNat = .ok g)
      (hop : binOp operation = some op) (hlen : masks.length = g.size.toNat) (hwr : g.writable = true) :
      Wrote s m (binOpMembers s.objs op g.vars masks s.world.mem)

theorem addressed_var {id : UInt8} {rest : List UInt8} {q : Ptr}
    (hcmd : m.commandCode = CommandCode.varWrite.toByte ∨ m.commandCode = CommandCode.varWriteRead.toByte ∨
      m.commandCode = CommandCode.varBinOp.toByte)
    (hpay : m.payload = id :: rest) (hq : s.server.vars[id.toNat]? = some q) : addressed s m = [q] := by
  rcases hcmd with hcmd | hcmd | hcmd <;> simp [addressed, hcmd, hpay, hq]

theorem addressed_group {id : UInt8} {rest : List UInt8} {g : Group}
    (hcmd : m.commandCode = CommandCode.groupWrite.toByte ∨ m.commandCode = CommandCode.groupBinOp.toByte)
    (hpay : m.payload = id :: rest) (hid : id.toNat < s.server.groups.count)
    (hg : s.server.groups.at id.toNat = .ok g) : addressed s m = g.vars := by
  rcases hcmd with hcmd | hcmd <;> simp [addressed, hcmd, hpay, groupMembers_eq hid hg]

/-- A request writes first, and calls back after that. -/
theorem Outcome.wrote (ho : Outcome md5 area s m s' a) :
    ∃ mem, Wrote s m mem ∧ ∀ r, CallbacksSpare s r → Agree r mem s'.world.mem := by
  have hcbw : ∀ {r : Region} (w : World σ), CallbacksSpare s r → CallbacksSpare { s with world := w } r :=
    fun w hcb => hcb.same (SameInstance.world s w).application
  cases ho with
  | rejected => exact ⟨_, .nothing, fun r _ => .refl r _⟩
  | queried => exact ⟨_, .nothing, fun r _ => .refl r _⟩
  | varRead hcmd hpay hp hhook => exact ⟨_, .nothing, fun r hcb => callHook_agree hcb hhook⟩
  | varWrite hcmd hpay hp hlen hwr hok hhook =>
    refine ⟨_, .value (addressed_var (.inl hcmd) hpay hp) hlen hwr hok, fun r hcb => ?_⟩
    exact callHook_agree (hcbw _ hcb) hhook
  | varWriteRead hcmd hpay hpw hpr hlen hwr hok hhook₁ hhook₂ =>
    have hsame := callHook_same hhook₁
    refine ⟨_, .value (addressed_var (.inr (.inl hcmd)) hpay hpw) hlen hwr hok, fun r hcb => ?_⟩
    exact (callHook_agree (hcbw _ hcb) hhook₁).trans
      (callHook_agree ((hcbw _ hcb).same hsame.application) hhook₂)
  | varBinOp hcmd hpay hp hop hlen hwr hhook =>
    exact ⟨_, .combined hcmd hpay hp hop hlen hwr, fun r hcb => callHook_agree (hcbw _ hcb) hhook⟩
  | groupRead hcmd hpay hid hg hhook => exact ⟨_, .nothing, fun r hcb => callHook_agree hcb hhook⟩
  | @groupWrite _ values g w failed _ hcmd hpay hid hg hlen hwr hw hhook =>
    refine ⟨w.mem, ?_, fun r hcb => callHook_agree (hcbw _ hcb) hhook⟩
    have hwrote := Wrote.values (addressed_group (.inl hcmd) hpay hid hg) hid hg hlen hwr
    rw [hw] at hwrote
    exact hwrote
  | groupBinOp hcmd hpay hid hg hop hlen hwr hhook =>
    exact ⟨_, .combinedAll hcmd hpay hid hg hop hlen hwr, fun r hcb => callHook_agree (hcbw _ hcb) hhook⟩
  | groupAbandoned => exact ⟨_, .nothing, fun r _ => .refl r _⟩
  | groupCreated => exact ⟨_, .nothing, fun r _ => .refl r _⟩
  | groupsRemoved => exact ⟨_, .nothing, fun r _ => .refl r _⟩
  | blockBusy hcmd hp hread =>
    exact ⟨_, .nothing, fun r hcb => callReadBlock_agree hcb (List.mem_of_getElem? hp) hread⟩
  | blockRead hcmd hpay hp hoff hread =>
    exact ⟨_, .nothing, fun r hcb => callReadBlock_agree hcb (List.mem_of_getElem? hp) hread⟩
  | blockWriteBusy hcmd hp hwr hwrite =>
    exact ⟨_, .nothing, fun r hcb => callWriteBlock_agree hcb (List.mem_of_getElem? hp) hwrite⟩
  | @blockWritten _ _ _ _ _ s₁ hcmd hpay hp hdata hlen hoff hwr hwrite =>
    refine ⟨_, .nothing, fun r hcb => ?_⟩
    have hagree : Agree r s.world.mem s₁.world.mem :=
      callWriteBlock_agree hcb (List.mem_of_getElem? hp) hwrite
    exact hagree
  | @customCsum _ p _ _ _ _ hcmd hpay hp hmd5 hcall =>
    refine ⟨_, .nothing, fun r hcb => ?_⟩
    have hspare := hcb.customMd5 _ hmd5 p (s.objs.curve p).info.checksum s.world
    rw [hcall] at hspare
    exact hspare
  | csumBusy hcmd hpay hp hmd5 hloop =>
    exact ⟨_, .nothing, fun r hcb => curveCsumLoop_agree hcb (List.mem_of_getElem? hp) hloop⟩
  | @csumComputed _ _ _ s₁ hcmd hpay hp hmd5 hloop =>
    refine ⟨_, .nothing, fun r hcb => ?_⟩
    have hagree : Agree r s.world.mem s₁.world.mem := curveCsumLoop_agree hcb (List.mem_of_getElem? hp) hloop
    exact hagree
  | @executed _ input _ _ _ _ _ hcmd hpay hp hlen hfunc hcall =>
    refine ⟨_, .nothing, fun r hcb => ?_⟩
    have hspare := hcb.func _ (List.mem_of_getElem? hp) _ hfunc input s.world
    rw [hcall] at hspare
    exact hspare

/-- A request writes nothing but writable variables it addresses. -/
theorem Wrote.agree (h : RepInv s) {mem : Mem UInt8} (hw : Wrote s m mem) {r : Region}
    (haddr : ∀ q ∈ addressed s m, (s.objs.var q).info.writable = true → r.Apart (s.objs.var q).region) :
    Agree r s.world.mem mem := by
  cases hw with
  | nothing => exact .refl r _
  | value ha hlen hwr hok => exact Var.put_agree _ _ hlen (haddr _ (by simp [ha]) hwr)
  | combined hcmd hpay hq hop hlen hwr =>
    exact Var.put_agree _ _ (Var.combine_length _ _ _ hlen)
      (haddr _ (by simp [addressed_var (.inr (.inr hcmd)) hpay hq]) hwr)
  | values ha hid hg hlen hwr =>
    have hok := h.of_groupAt hid hg
    exact writeMembers_agree _ _ (hlen.trans hok.sums.size) fun q hq =>
      haddr q (by rw [ha]; exact hq) (hok.member_writable hwr q hq)
  | combinedAll hcmd hpay hid hg hop hlen hwr =>
    have hok := h.of_groupAt hid hg
    exact binOpMembers_agree _ (hlen.trans hok.sums.size) fun q hq =>
      haddr q (by rw [addressed_group (.inr hcmd) hpay hid hg]; exact hq) (hok.member_writable hwr q hq)

/-- A range apart from the writable variables a request addresses, in which no
callback writes, keeps its bytes. -/
theorem Outcome.agree (h : RepInv s) (ho : Outcome md5 area s m s' a) {r : Region} (hcb : CallbacksSpare s r)
    (haddr : ∀ q ∈ addressed s m, (s.objs.var q).info.writable = true → r.Apart (s.objs.var q).region) :
    Agree r s.world.mem s'.world.mem := by
  obtain ⟨mem, hwrote, hcalls⟩ := ho.wrote
  exact (hwrote.agree h haddr).trans (hcalls r hcb)

/-! ## Curves through a life -/

/-- Blocks have only been written to registered curves that are writable. -/
def TraceOk (s : System σ) : Prop :=
  ∀ p block data, Call.writeBlock p block data ∈ s.trace →
    p ∈ s.server.curves ∧ (s.objs.curve p).info.writable = true

/-- Calls that are no block writes, or go to a writable curve. -/
theorem TraceOk.append (h : TraceOk s) (hs : SameApplication s s') {calls : List (Call σ)}
    (htrace : s'.trace = s.trace ++ calls)
    (hcalls : ∀ p block data, Call.writeBlock p block data ∈ calls →
      p ∈ s.server.curves ∧ (s.objs.curve p).info.writable = true) : TraceOk s' := by
  intro p block data hmem
  rw [htrace, List.mem_append] at hmem
  obtain ⟨c, hc⟩ := hs.curve p
  rw [hs.curves, hc]
  rcases hmem with hmem | hmem
  · exact h p block data hmem
  · exact hcalls p block data hmem

theorem TraceOk.world (h : TraceOk s) (w : World σ) : TraceOk { s with world := w } := h

theorem callHook_trace {op : BsmpOperation} {entries : List (Option Ptr)}
    (h : s.callHook op entries = .ok s') :
    ∃ calls, s'.trace = s.trace ++ calls ∧ ∀ p block data, Call.writeBlock p block data ∉ calls := by
  rcases callHook_cases h with ⟨-, rfl⟩ | ⟨hook, list, -, -, rfl⟩
  · exact ⟨[], by simp, by simp⟩
  · exact ⟨[_], rfl, by simp⟩

theorem TraceOk.callHook (h : TraceOk s) {op : BsmpOperation} {entries : List (Option Ptr)}
    (hcall : s.callHook op entries = .ok s') : TraceOk s' := by
  obtain ⟨calls, htrace, hno⟩ := callHook_trace hcall
  exact h.append (callHook_same hcall).application htrace fun p block data hmem =>
    absurd hmem (hno p block data)

theorem TraceOk.callReadBlock (h : TraceOk s) {p : Ptr} {block : UInt16} {ok : Bool} {data : List UInt8}
    (hcall : s.callReadBlock p block = .ok (ok, data, s')) : TraceOk s' := by
  have hsame := callReadBlock_same hcall
  obtain ⟨f, w, -, -, rfl⟩ := callReadBlock_cases hcall
  exact h.append hsame.application rfl (by simp)

theorem TraceOk.callWriteBlock (h : TraceOk s) {p : Ptr} (hp : p ∈ s.server.curves)
    (hwr : (s.objs.curve p).info.writable = true) {block : UInt16} {ok : Bool} {data : List UInt8}
    (hcall : s.callWriteBlock p block data = .ok (ok, s')) : TraceOk s' := by
  have hsame := callWriteBlock_same hcall
  obtain ⟨f, w, -, -, rfl⟩ := callWriteBlock_cases hcall
  refine h.append hsame.application rfl ?_
  intro q block' data' hmem
  simp only [List.mem_singleton, Call.writeBlock.injEq] at hmem
  obtain ⟨rfl, -, -⟩ := hmem
  exact ⟨hp, hwr⟩

theorem TraceOk.setChecksum (h : TraceOk s) (p : Ptr) (c : Checksum) : TraceOk (s.setChecksum p c) :=
  h.append (.setChecksum s p c) (List.append_nil _).symm (by simp)

theorem TraceOk.curveCsumLoop (h : TraceOk s) {p : Ptr} {n i : Nat} {ctx : md5.Ctx} {o : Option md5.Ctx}
    (hloop : curveCsumLoop md5 p n i ctx s = .ok (o, s')) : TraceOk s' :=
  curveCsumLoop_keeps (fun hs hread => hs.callReadBlock hread) h hloop

theorem Outcome.traceOk (ho : Outcome md5 area s m s' a) (h : TraceOk s) : TraceOk s' := by
  cases ho with
  | rejected => exact h
  | queried => exact h
  | varRead hcmd hpay hp hhook => exact h.callHook hhook
  | varWrite hcmd hpay hp hlen hwr hok hhook => exact (h.world _).callHook hhook
  | varWriteRead hcmd hpay hpw hpr hlen hwr hok hhook₁ hhook₂ =>
    exact ((h.world _).callHook hhook₁).callHook hhook₂
  | varBinOp hcmd hpay hp hop hlen hwr hhook => exact (h.world _).callHook hhook
  | groupRead hcmd hpay hid hg hhook => exact h.callHook hhook
  | groupWrite hcmd hpay hid hg hlen hwr hw hhook => exact (h.world _).callHook hhook
  | groupBinOp hcmd hpay hid hg hop hlen hwr hhook => exact (h.world _).callHook hhook
  | groupAbandoned => exact h
  | groupCreated => exact h
  | groupsRemoved => exact h
  | blockBusy hcmd hp hread => exact h.callReadBlock hread
  | blockRead hcmd hpay hp hoff hread => exact h.callReadBlock hread
  | blockWriteBusy hcmd hp hwr hwrite => exact h.callWriteBlock (List.mem_of_getElem? hp) hwr hwrite
  | blockWritten hcmd hpay hp hdata hlen hoff hwr hwrite =>
    exact (h.callWriteBlock (List.mem_of_getElem? hp) hwr hwrite).setChecksum _ _
  | @customCsum _ p _ _ _ w hcmd hpay hp hmd5 hcall =>
    have hcalled : TraceOk { s with world := w, trace := s.trace ++ [.customMd5 p] } :=
      h.append (SameInstance.worldTrace s _ _).application rfl (by simp)
    exact hcalled.setChecksum _ _
  | csumBusy hcmd hpay hp hmd5 hloop => exact h.curveCsumLoop hloop
  | csumComputed hcmd hpay hp hmd5 hloop => exact (h.curveCsumLoop hloop).setChecksum _ _
  | executed hcmd hpay hp hlen hfunc hcall =>
    exact h.append (SameInstance.worldTrace s _ _).application rfl (by simp)

theorem joinGroups_trace {p : Ptr} (h : s.joinGroups p = .ok s') :
    s'.trace = s.trace ∧ s'.server.curves = s.server.curves ∧ s'.objs = s.objs := by
  unfold System.joinGroups at h
  simp only [bind_ok_iff] at h
  obtain ⟨_, -, _, -, _, -, _, -, _, -, _, -, h⟩ := h
  cases h
  exact ⟨rfl, rfl, rfl⟩

theorem step_traceOk {e : Event σ} (hinv : RepInv s) (h : TraceOk s) (hs : step md5 s e = .ok s') :
    TraceOk s' := by
  cases e with
  | registerVariable var =>
    obtain ⟨⟨err, s₁⟩, hreg, hr⟩ := bind_ok_iff.mp hs
    cases hr
    unfold bsmpRegisterVariable at hreg
    simp only at hreg
    split at hreg
    · cases hreg; exact h
    · obtain ⟨p, -, hreg⟩ := bind_ok_iff.mp hreg
      obtain ⟨s₂, hjoin, hreg⟩ := bind_ok_iff.mp hreg
      cases hreg
      obtain ⟨htrace, hcurves, hobjs⟩ := joinGroups_trace hjoin
      intro q block data hmem
      rw [htrace] at hmem
      rw [hcurves, hobjs]
      exact h q block data hmem
  | registerCurve curve =>
    cases hs
    rcases serverRegister_cases curveCheck bsmpMaxCurves Curve.setId s.server.curves s.objs.curve curve
        (by simp [curveCheck]) with ⟨err, -, hreg⟩ | ⟨p, -, hnew, -, -, hreg⟩
    · simp only [bsmpRegisterCurve, hreg]
      exact h
    · intro q block data hmem
      simp only [bsmpRegisterCurve, hreg] at hmem ⊢
      obtain ⟨hq, hwr⟩ := h q block data hmem
      rw [Function.update_of_ne (ne_of_mem_of_not_mem hq hnew)]
      exact ⟨List.mem_append_left _ hq, hwr⟩
  | registerFunction func => cases hs; exact h
  | registerHook hook => cases hs; cases hook <;> exact h
  | registerMd5 customMd5 => cases hs; cases customMd5 <;> exact h
  | processPacket req area =>
    obtain ⟨s₁, a, hp, ho, -⟩ := bsmpProcessPacket_outcome md5 hinv req area
    simp only [step, hp, ok_bind] at hs
    cases hs
    exact ho.traceOk h
  | application objs world =>
    cases hs
    intro q block data hmem
    obtain ⟨hq, hwr⟩ := h q block data hmem
    refine ⟨hq, ?_⟩
    rcases refill_of_mem curveCheck Curve.keepInfo s.objs.curve objs.curve hq with ⟨he, -⟩ | he
    · exact (congrArg (fun c => c.info.writable) he).trans hwr
    · exact (congrArg (fun c => c.info.writable) he).trans hwr

theorem Reachable.traceOk (h : Reachable md5 s) : TraceOk s := by
  obtain ⟨objs, world, evs, hlife⟩ := h
  have hrun : Runs.run (Bsmp.step md5) (bsmpServerInit objs world) evs = .ok s := hlife
  refine (Runs.run_invariant (I := fun s => RepInv s ∧ TraceOk s) ?_
    ⟨repInv_init objs world, fun p block data hmem => by cases hmem⟩ hrun).2
  intro s e s' hs hstep
  obtain ⟨s₁, hs₁, hinv⟩ := step_total md5 s e hs.1
  cases hs₁.symm.trans hstep
  exact ⟨hinv, step_traceOk hs.1 hs.2 hstep⟩

/-! ## Runs of requests -/

/-- Requests leave a range to itself that belongs to no writable variable and
to no callback. -/
theorem serve_agree (hs : Reachable md5 s) {r : Region} (hcb : CallbacksSpare s r)
    (hvars : ∀ q ∈ s.server.vars, (s.objs.var q).info.writable = true → r.Apart (s.objs.var q).region)
    (reqs : Requests) :
    ∃ s', serve md5 s reqs = .ok s' ∧ Reachable md5 s' ∧ SameApplication s s' ∧
      Agree r s.world.mem s'.world.mem := by
  rw [serve, Runs.run_map]
  refine Runs.run_total (I := fun t => Reachable md5 t ∧ SameApplication s t ∧
    Agree r s.world.mem t.world.mem)
    ?_ reqs ⟨hs, .refl s, .refl r _⟩
  rintro t req ⟨ht, hsame, hagree⟩
  obtain ⟨t', a, hp, ho, -⟩ := bsmpProcessPacket_outcome md5 ht.repInv req.1 req.2
  have hstep : step md5 t (.processPacket req.1 req.2) = .ok t' := by
    simp only [step, hp, ok_bind]
    rfl
  have hclear := clearModified_same t
  have hinv := ht.repInv.same hclear
  have hvars' : ∀ q ∈ addressed t.clearModified req.1.message,
      (t.clearModified.objs.var q).info.writable = true → r.Apart (t.clearModified.objs.var q).region := by
    intro q hq
    have hmem := hinv.addressed_subset q hq
    rw [hclear.vars, hsame.vars] at hmem
    rw [hclear.objs, hsame.var]
    exact hvars q hmem
  exact ⟨t', hstep, ht.step hstep, hsame.trans (hclear.application.trans ho.sameApplication),
    hagree.trans (ho.agree hinv (hcb.same (hsame.trans hclear.application)) hvars')⟩

theorem SameApplication.bytes (h : SameApplication s s') {p : Ptr}
    (ha : Agree (s.objs.var p).region s.world.mem s'.world.mem) :
    (s'.objs.var p).bytes s'.world.mem = (s.objs.var p).bytes s.world.mem := by
  rw [h.var]
  exact ha.load

/-- **Read-only protection.** Where no callback writes variable data: a
read-only variable that shares no memory with a writable one keeps its bytes
through any requests; blocks have only ever been written to writable curves;
and one request changes no variable that shares no memory with the one it
addresses or with the members of the group it addresses. -/
theorem requests_protect (hs : Reachable md5 s) :
    (∀ p ∈ s.server.vars, (s.objs.var p).info.writable = false →
      (∀ q ∈ s.server.vars, (s.objs.var q).info.writable = true →
        (s.objs.var p).region.Apart (s.objs.var q).region) →
      CallbacksSpare s (s.objs.var p).region →
      ∀ reqs, ∃ s', serve md5 s reqs = .ok s' ∧
        (s'.objs.var p).bytes s'.world.mem = (s.objs.var p).bytes s.world.mem) ∧
    (∀ reqs s', serve md5 s reqs = .ok s' → ∀ c block data, Call.writeBlock c block data ∈ s'.trace →
      c ∈ s'.server.curves ∧ (s'.objs.curve c).info.writable = true) ∧
    (∀ req area s' response, bsmpProcessPacket md5 s req area = .ok (s', response) → ∀ p ∈ s.server.vars,
      (∀ q ∈ addressed s req.message, (s.objs.var p).region.Apart (s.objs.var q).region) →
      CallbacksSpare s (s.objs.var p).region →
      (s'.objs.var p).bytes s'.world.mem = (s.objs.var p).bytes s.world.mem) := by
  refine ⟨?_, ?_, ?_⟩
  · intro p hp hro hapart hcb reqs
    obtain ⟨s', hserve, -, hsame, hagree⟩ := serve_agree hs hcb hapart reqs
    exact ⟨s', hserve, hsame.bytes hagree⟩
  · intro reqs s' hserve
    obtain ⟨objs, world, evs, hlife⟩ := hs
    have hreach : Reachable md5 s' := by
      refine ⟨objs, world, evs ++ reqs.map fun r => .processPacket r.1 r.2, ?_⟩
      rw [life, Runs.run_append, ← life, hlife]
      exact hserve
    exact hreach.traceOk
  · intro req area s' response hproc p hp hapart hcb
    obtain ⟨s₁, a, hproc', ho, -⟩ := bsmpProcessPacket_outcome md5 hs.repInv req area
    cases hproc'.symm.trans hproc
    have hsame : SameApplication s s' := (clearModified_same s).application.trans ho.sameApplication
    have hagree : Agree _ s.world.mem s'.world.mem := ho.agree (hs.repInv.same (clearModified_same s))
      (hcb.same (clearModified_same s).application) fun q hq _ => hapart q hq
    exact hsame.bytes hagree

/-- Without curves, functions, hook and custom checksum there are no callbacks. -/
theorem CallbacksSpare.of_none (hcurves : s.server.curves = []) (hfuncs : s.server.funcs = [])
    (hhook : s.server.hook = none) (hmd5 : s.server.customMd5 = none) (r : Region) : CallbacksSpare s r where
  hook f hf := by rw [hhook] at hf; cases hf
  customMd5 f hf := by rw [hmd5] at hf; cases hf
  readBlock p hp := by rw [hcurves] at hp; cases hp
  writeBlock p hp := by rw [hcurves] at hp; cases hp
  func p hp := by rw [hfuncs] at hp; cases hp

/-- One byte at address 0, which one variable may write and another only read;
and a byte at address 1 that is read only. -/
def mirrored : System Unit :=
  after byteSum
    (.ofLists
      [{ info := ⟨0, true, 1⟩, valueOk := none, data := some 0 },
        { info := ⟨0, false, 1⟩, valueOk := none, data := some 0 },
        { info := ⟨0, false, 1⟩, valueOk := none, data := some 1 }] [] [])
    { mem := fun _ => 0, app := () } (registrations 3 0 0)

theorem mirrored_reachable : Reachable byteSum mirrored := after_reachable ..

theorem mirrored_spare (r : Region) : CallbacksSpare mirrored r := .of_none rfl rfl rfl rfl r

/-- A write to the first variable changes the second one, which is read only
and not the one addressed. -/
theorem readOnly_overwritten :
    Reachable byteSum mirrored ∧ (∀ r, CallbacksSpare mirrored r) ∧
      1 ∈ mirrored.server.vars ∧ (mirrored.objs.var 1).info.writable = false ∧
      (1 : Ptr) ∉ addressed mirrored (request CommandCode.varWrite.toByte [0, 5]).message ∧
      (mirrored.objs.var 1).bytes mirrored.world.mem = [0] ∧
      ∃ s' response,
        bsmpProcessPacket byteSum mirrored (request CommandCode.varWrite.toByte [0, 5]) (fun _ => 0) =
          .ok (s', response) ∧
        (s'.objs.var 1).bytes s'.world.mem = [5] :=
  ⟨mirrored_reachable, mirrored_spare, by decide, rfl, by decide, rfl, _, _, rfl, rfl⟩

theorem mirrored_apart : ∀ q ∈ mirrored.server.vars, (mirrored.objs.var q).info.writable = true →
    (mirrored.objs.var 2).region.Apart (mirrored.objs.var q).region := by
  intro q hq hwr
  have hq' : q = 0 ∨ q = 1 ∨ q = 2 := by simpa [show mirrored.server.vars = [0, 1, 2] from rfl] using hq
  have hr : (mirrored.objs.var 2).region = ⟨1, 1⟩ := rfl
  have hr₀ : (mirrored.objs.var 0).region = ⟨0, 1⟩ := rfl
  rcases hq' with rfl | rfl | rfl
  · rw [hr, hr₀]
    intro x hx hx'
    have h₁ := hx.1
    have h₂ := hx'.2
    simp only at h₁ h₂
    omega
  · cases hwr
  · cases hwr

/-- Five written to the first variable, then the groups of all written to: the
third variable stays as it is. -/
theorem requests_protect_mirrored :
    (∃ s', serve byteSum mirrored
        [(request CommandCode.varWrite.toByte [0, 5], fun _ => 0),
          (request CommandCode.groupWrite.toByte [0, 1, 2, 3], fun _ => 0)] = .ok s' ∧
      (s'.objs.var 2).bytes s'.world.mem = (mirrored.objs.var 2).bytes mirrored.world.mem) ∧
    ∀ reqs s', serve byteSum mirrored reqs = .ok s' → ∀ c block data,
      Call.writeBlock c block data ∈ s'.trace →
      c ∈ s'.server.curves ∧ (s'.objs.curve c).info.writable = true :=
  ⟨(requests_protect mirrored_reachable).1 2 (by decide) rfl mirrored_apart (mirrored_spare _) _,
    (requests_protect mirrored_reachable).2.1⟩

end UdcFirmware.Bsmp
