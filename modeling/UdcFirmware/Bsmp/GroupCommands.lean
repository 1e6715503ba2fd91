/-
Group commands against the commands for single variables.

Where the variables' memories are disjoint, a command for a group is the
commands for its members, in any order: both come down to one store for each
member, of its own slice (`Members`), and disjoint stores commute.

Two things set them apart. A group with a read-only member refuses to be
written at all, while the commands for its writable members go through. And
the hook is called once for a group, but once for each variable: a hook with
effects tells the two apart, so the results are about a harmless one.
-/
import UdcFirmware.Bsmp.Accepted
import UdcFirmware.Bsmp.Atomicity
import UdcFirmware.Bsmp.Protection
import Mathlib.Data.List.Pairwise

namespace UdcFirmware.Bsmp

open ByteMem Checked

variable {σ : Type} {md5 : Md5} {area : Nat → UInt8} {s s' : System σ}

/-- A value that can be written to `q`. -/
structure Fits (s : System σ) (q : Ptr) (value : List UInt8) : Prop where
  mem : q ∈ s.server.vars
  writable : (s.objs.var q).info.writable = true
  pos : 0 < (s.objs.var q).info.size.toNat
  length : value.length = (s.objs.var q).info.size.toNat

theorem Fits.same {q : Ptr} {value : List UInt8} (h : Fits s q value) (hs : SameInstance s s') :
    Fits s' q value := by
  obtain ⟨hmem, hwr, hpos, hlen⟩ := h
  constructor <;> simp only [hs.vars, hs.objs] <;> assumption

theorem Fits.length_le {q : Ptr} {value : List UInt8} (hf : Fits s q value) (h : RepInv s) :
    value.length ≤ bsmpVarMaxSize := by
  rw [hf.length]
  exact h.size_le hf.mem

theorem step_request {cmd : CommandCode} {payload : List UInt8} {a : Message}
    {handler : System σ → Message → Except Fault (System σ × Message)}
    (hc : command md5 area cmd.toByte = some handler)
    (hlen : payload.length + bsmpHeaderSize ≤ bsmpMaxPayload)
    (hh : handler s.clearModified (message cmd payload) = .ok (s', a)) :
    step md5 s (.processPacket (request cmd.toByte payload) area) = .ok s' := by
  simp only [step, bsmpProcessPacket, respond_request hc hlen, hh, ok_bind]
  rfl

/-- One write: one store. -/
theorem step_varWrite (md5 : Md5) (area : Nat → UInt8) (h : RepInv s) (hhook : HookHarmless s)
    {q : Ptr} {value : List UInt8} (hf : Fits s q value)
    (hok : (s.objs.var q).accepts s.world value = true) :
    ∃ s', step md5 s (.processPacket (request CommandCode.varWrite.toByte
        ((s.objs.var q).info.id :: value)) area) = .ok s' ∧ SameInstance s s' ∧
      s'.world = { s.world with mem := (s.objs.var q).put s.world.mem value } := by
  have hlen := hf.length_le h
  simp only [bsmpVarMaxSize] at hlen
  obtain ⟨s', hcall, hh⟩ := (h.same (clearModified_same s)).varWrite_ok (p := q) hf.mem hf.pos hf.length
    hf.writable hok
  refine ⟨s', step_request rfl (by simp only [List.length_cons, bsmpHeaderSize, bsmpMaxPayload]; omega)
    hh, ?_, ?_⟩
  · exact (clearModified_same s).trans ((SameInstance.world _ _).trans (callHook_same hcall))
  · exact callHook_harmless hcall fun f hf => hhook f hf

/-- One operation: one store. -/
theorem step_varBinOp (md5 : Md5) (area : Nat → UInt8) (h : RepInv s) (hhook : HookHarmless s)
    {q : Ptr} {mask : List UInt8} (hf : Fits s q mask)
    {operation : UInt8} {op : UInt8 → UInt8 → UInt8} (hop : binOp operation = some op) :
    ∃ s', step md5 s (.processPacket (request CommandCode.varBinOp.toByte
        ((s.objs.var q).info.id :: operation :: mask)) area) = .ok s' ∧ SameInstance s s' ∧
      s'.world = { s.world with
        mem := (s.objs.var q).put s.world.mem ((s.objs.var q).combine op s.world.mem mask) } := by
  have hlen := hf.length_le h
  simp only [bsmpVarMaxSize] at hlen
  obtain ⟨s', hcall, hh⟩ := (h.same (clearModified_same s)).varBinOp_ok (p := q) hf.mem hop hf.pos
    hf.length hf.writable
  refine ⟨s', step_request rfl (by simp only [List.length_cons, bsmpHeaderSize, bsmpMaxPayload]; omega)
    hh, ?_, ?_⟩
  · exact (clearModified_same s).trans ((SameInstance.world _ _).trans (callHook_same hcall))
  · exact callHook_harmless hcall fun f hf => hhook f hf

/-! ## One command for each variable -/

/-- A write for each variable. -/
def varWrites (objs : Objects σ) (area : Nat → UInt8) (value : Ptr → List UInt8) (qs : List Ptr) : Requests :=
  qs.map fun q => (request CommandCode.varWrite.toByte ((objs.var q).info.id :: value q), area)

/-- An operation for each variable. -/
def varBinOps (objs : Objects σ) (area : Nat → UInt8) (operation : UInt8) (mask : Ptr → List UInt8)
    (qs : List Ptr) : Requests :=
  qs.map fun q => (request CommandCode.varBinOp.toByte ((objs.var q).info.id :: operation :: mask q), area)

theorem serve_varWrites (md5 : Md5) (area : Nat → UInt8) (h : RepInv s) (hhook : HookHarmless s)
    (value : Ptr → List UInt8) (qs : List Ptr)
    (hf : ∀ q ∈ qs, Fits s q (value q)) (hok : ∀ q ∈ qs, ∀ w, (s.objs.var q).accepts w (value q) = true) :
    ∃ s', serve md5 s (varWrites s.objs area value qs) = .ok s' ∧ SameInstance s s' ∧
      s'.world = { s.world with mem := storeAll s.world.mem (stores s.objs value qs) } := by
  induction qs generalizing s with
  | nil => exact ⟨s, rfl, .refl s, rfl⟩
  | cons q qs ih =>
    obtain ⟨s₁, hstep, hsame, hworld⟩ :=
      step_varWrite md5 area h hhook (hf q (by simp)) (hok q (by simp) _)
    obtain ⟨s', hserve, hsame', hworld'⟩ := ih (h.same hsame) (hhook.same hsame.hook)
      (fun q' hq' => (hf q' (List.mem_cons_of_mem q hq')).same hsame)
      (fun q' hq' => by rw [hsame.objs]; exact hok q' (List.mem_cons_of_mem q hq'))
    rw [hsame.objs] at hserve hworld'
    refine ⟨s', ?_, hsame.trans hsame', ?_⟩
    · rw [serve, varWrites, List.map_cons, List.map_cons, Runs.run_cons, hstep]
      exact hserve
    · rw [hworld', hworld]
      rfl

theorem serve_varBinOps (md5 : Md5) (area : Nat → UInt8) (h : RepInv s) (hhook : HookHarmless s)
    {operation : UInt8} {op : UInt8 → UInt8 → UInt8}
    (hop : binOp operation = some op) (mask : Ptr → List UInt8) (qs : List Ptr)
    (hf : ∀ q ∈ qs, Fits s q (mask q))
    (hapart : qs.Pairwise (fun p q => (s.objs.var p).region.Apart (s.objs.var q).region)) :
    ∃ s', serve md5 s (varBinOps s.objs area operation mask qs) = .ok s' ∧ SameInstance s s' ∧
      s'.world = { s.world with
        mem := storeAll s.world.mem
          (stores s.objs (fun q => (s.objs.var q).combine op s.world.mem (mask q)) qs) } := by
  induction qs generalizing s with
  | nil => exact ⟨s, rfl, .refl s, rfl⟩
  | cons q qs ih =>
    obtain ⟨hq, hapart⟩ := List.pairwise_cons.mp hapart
    have hfq := hf q (by simp)
    obtain ⟨s₁, hstep, hsame, hworld⟩ := step_varBinOp md5 area h hhook hfq hop
    obtain ⟨s', hserve, hsame', hworld'⟩ := ih (h.same hsame) (hhook.same hsame.hook)
      (fun q' hq' => (hf q' (List.mem_cons_of_mem q hq')).same hsame) (by rw [hsame.objs]; exact hapart)
    rw [hsame.objs] at hserve hworld'
    -- The variables still to come hold what they held before.
    have hlater : ∀ q' ∈ qs, (s.objs.var q').combine op s₁.world.mem (mask q') =
        (s.objs.var q').combine op s.world.mem (mask q') := by
      intro q' hq'
      have hbytes : (s.objs.var q').bytes s₁.world.mem = (s.objs.var q').bytes s.world.mem := by
        rw [hworld]
        exact (Var.put_agree (s.objs.var q) s.world.mem
          ((s.objs.var q).combine_length op s.world.mem hfq.length) (hq q' hq').symm).load
      exact congrArg (fun bytes => List.zipWith op bytes (mask q')) hbytes
    rw [stores_congr hlater] at hworld'
    refine ⟨s', ?_, hsame.trans hsame', ?_⟩
    · rw [serve, varBinOps, List.map_cons, List.map_cons, Runs.run_cons, hstep]
      exact hserve
    · rw [hworld', hworld]
      rfl

/-! ## One command for the group -/

variable {id : UInt8} {g : Group}

theorem respond_varRead (md5 : Md5) (area : Nat → UInt8) (h : RepInv s) (hhook : HookHarmless s)
    {q : Ptr} (hq : q ∈ s.server.vars) :
    ∃ s', respond md5 s (request CommandCode.varRead.toByte [(s.objs.var q).info.id]) area =
      .ok (s', reply .varValue (s.objs.var q).info.size.toUInt16 ((s.objs.var q).bytes s.world.mem)) := by
  obtain ⟨s', hcall, hh⟩ := (h.same (clearModified_same s)).varRead_ok (p := q) hq
  have hworld : s'.world = s.clearModified.world := callHook_harmless hcall fun f hf => hhook f hf
  refine ⟨s', (respond_request rfl (by simp)).trans (hh.trans ?_)⟩
  rw [hworld]
  rfl

theorem respond_groupRead (md5 : Md5) (area : Nat → UInt8) (h : RepInv s) (hhook : HookHarmless s)
    (hid : id.toNat < s.server.groups.count) (hg : s.server.groups.at id.toNat = .ok g) :
    ∃ s', respond md5 s (request CommandCode.groupRead.toByte [id]) area =
      .ok (s', reply .groupValues g.size (valuesOf s.objs s.world.mem g.vars)) := by
  obtain ⟨s', hcall, hh⟩ := (h.same (clearModified_same s)).groupRead_ok hid hg
  have hworld : s'.world = s.clearModified.world := callHook_harmless hcall fun f hf => hhook f hf
  refine ⟨s', (respond_request rfl (by simp)).trans (hh.trans ?_)⟩
  rw [hworld]
  rfl

theorem RepInv.group_length_le (h : RepInv s)
    (hok : GroupOk s.server.vars (fun p => (s.objs.var p).info) id.toNat g)
    {values : List UInt8} (hlen : values.length = g.size.toNat) : values.length ≤ 16384 := by
  have hsize := h.group_size_le hok
  simp only [bsmpMaxVariables, bsmpVarMaxSize] at hsize
  omega

/-- A group of variables of a byte at least has no byte only when it is empty. -/
theorem GroupOk.eq_nil {objs : Objects σ} {vars : List Ptr}
    (h : GroupOk vars (fun p => (objs.var p).info) id.toNat g)
    (hpos : ∀ p ∈ vars, 0 < (objs.var p).info.size.toNat) (hsize : g.size.toNat = 0) : g.vars = [] := by
  cases hvars : g.vars with
  | nil => rfl
  | cons q qs =>
    have hq := hpos q (h.members_mem q (by simp [hvars]))
    have := h.sums.size
    rw [hsize, hvars, List.map_cons, List.sum_cons] at this
    omega

/-- A group write that all members accept: one store for each. -/
theorem respond_groupWrite (md5 : Md5) (area : Nat → UInt8) (h : RepInv s) (hhook : HookHarmless s)
    (hid : id.toNat < s.server.groups.count) (hg : s.server.groups.at id.toNat = .ok g)
    (hpos : ∀ p ∈ s.server.vars, 0 < (s.objs.var p).info.size.toNat)
    (hwr : g.writable = true) {values : List UInt8} (hlen : values.length = g.size.toNat)
    (hacc : ∀ q ∈ g.vars, ∀ w, (s.objs.var q).accepts w (sliceOf s.objs g.vars q values) = true) :
    ∃ s' a, respond md5 s (request CommandCode.groupWrite.toByte (id :: values)) area = .ok (s', a) ∧
      (g.vars ≠ [] → a = answer .ok) ∧ SameInstance s s' ∧
      s'.world = { s.world with
        mem := storeAll s.world.mem (stores s.objs (fun q => sliceOf s.objs g.vars q values) g.vars) } := by
  have hok := h.of_groupAt hid hg
  have hmax := h.group_length_le hok hlen
  have hreq : respond md5 s (request CommandCode.groupWrite.toByte (id :: values)) area =
    groupWrite s.clearModified _ :=
    respond_request rfl (by simp only [List.length_cons, bsmpHeaderSize, bsmpMaxPayload]; omega)
  by_cases hsize : g.size.toNat = 0
  · -- The empty group: the payload is one byte short of what the handler asks for.
    have hnil := hok.eq_nil hpos hsize
    obtain rfl : values = [] := List.length_eq_zero_iff.mp (hlen.trans hsize)
    refine ⟨s.clearModified, answer .errInvalidPayloadSize, hreq, fun hne => absurd hnil hne,
      clearModified_same s, ?_⟩
    rw [hnil]
    rfl
  · obtain ⟨s', hcall, hh⟩ := (h.same (clearModified_same s)).groupWrite_ok hid hg (by omega) hlen hwr
    have hnodup := h.vars.nodup.sublist hok.members
    have hstores : writeMembers s.clearModified.objs g.vars values s.clearModified.world false = _ :=
      writeMembers_stores s.world false hnodup hacc
    rw [hstores] at hcall hh
    refine ⟨s', answer .ok, hreq.trans hh, fun _ => rfl, ?_, ?_⟩
    · exact (clearModified_same s).trans ((SameInstance.world _ _).trans (callHook_same hcall))
    · exact callHook_harmless hcall fun f hf => hhook f hf

/-- A group operation: one store for each member, of what it held combined with its slice. -/
theorem respond_groupBinOp (md5 : Md5) (area : Nat → UInt8) (h : RepInv s) (hhook : HookHarmless s)
    (hid : id.toNat < s.server.groups.count)
    (hg : s.server.groups.at id.toNat = .ok g) (hwr : g.writable = true)
    (hapart : g.vars.Pairwise (fun p q => (s.objs.var p).region.Apart (s.objs.var q).region))
    {operation : UInt8} {op : UInt8 → UInt8 → UInt8} (hop : binOp operation = some op) {masks : List UInt8}
    (hlen : masks.length = g.size.toNat) :
    ∃ s', respond md5 s (request CommandCode.groupBinOp.toByte (id :: operation :: masks)) area =
        .ok (s', answer .ok) ∧ SameInstance s s' ∧
      s'.world = { s.world with
        mem := storeAll s.world.mem (stores s.objs
          (fun q => (s.objs.var q).combine op s.world.mem (sliceOf s.objs g.vars q masks)) g.vars) } := by
  have hok := h.of_groupAt hid hg
  have hmax := h.group_length_le hok hlen
  obtain ⟨s', hcall, hh⟩ := (h.same (clearModified_same s)).groupBinOp_ok hid hg hop hlen hwr
  have hstores : binOpMembers s.clearModified.objs op g.vars masks s.clearModified.world.mem = _ :=
    binOpMembers_stores s.world.mem (h.vars.nodup.sublist hok.members) hapart (hlen.trans hok.sums.size)
  rw [hstores] at hcall
  refine ⟨s', (respond_request rfl ?_).trans hh, ?_, callHook_harmless hcall fun f hf => hhook f hf⟩
  · simp only [List.length_cons, bsmpHeaderSize, bsmpMaxPayload]; omega
  · exact (clearModified_same s).trans ((SameInstance.world _ _).trans (callHook_same hcall))

/-! ## The two compared -/

/-- Written to, a group reads what was written. -/
theorem valuesOf_written (hnodup : g.vars.Nodup)
    (hapart : g.vars.Pairwise (fun p q => (s.objs.var p).region.Apart (s.objs.var q).region))
    {values : List UInt8} (hlen : values.length = sizeSum s.objs g.vars) (w : World σ)
    (hacc : ∀ q ∈ g.vars, ∀ w, (s.objs.var q).accepts w (sliceOf s.objs g.vars q values) = true) :
    valuesOf s.objs (storeAll w.mem (stores s.objs (fun q => sliceOf s.objs g.vars q values) g.vars)) g.vars =
      values := by
  have hstores := congrArg (fun r : World σ × Bool => r.1.mem) (writeMembers_stores w false hnodup hacc)
  have hsymm : Std.Symm fun p q => (s.objs.var p).region.Apart (s.objs.var q).region := ⟨fun _ _ h => h.symm⟩
  refine Eq.trans (List.flatMap_congr ?_) (sliceOf_flatMap hnodup hlen)
  intro q hq
  obtain ⟨w', hw'⟩ := writeMembers_bytes w false hnodup hq
    (fun q' hq' hne => hapart.forall hq hq' hne.symm) hlen
  rw [if_pos (hacc q hq w')] at hw'
  rw [← hw']
  exact congrArg (s.objs.var q).bytes hstores.symm

/-- A group with a read-only member refuses writes and operations. -/
theorem respond_readOnly (h : RepInv s) (hid : id.toNat < s.server.groups.count)
    (hg : s.server.groups.at id.toNat = .ok g)
    (hpos : ∀ p ∈ s.server.vars, 0 < (s.objs.var p).info.size.toNat)
    (hro : g.writable = false) {values : List UInt8} (hlen : values.length = g.size.toNat) :
    respond md5 s (request CommandCode.groupWrite.toByte (id :: values)) area =
        .ok (s.clearModified, answer .errReadOnly) ∧
      ∀ operation op, binOp operation = some op →
        respond md5 s (request CommandCode.groupBinOp.toByte (id :: operation :: values)) area =
          .ok (s.clearModified, answer .errReadOnly) := by
  have hok := h.of_groupAt hid hg
  have hmax := h.group_length_le hok hlen
  have hsize : g.size.toNat ≠ 0 := fun hzero => by
    have hw := hok.sums.writable
    rw [hok.eq_nil hpos hzero, hro] at hw
    cases hw
  have hbyte : ∀ {cmd : CommandCode} {rest : List UInt8}, (message cmd (id :: rest)).byte 0 = .ok id :=
    Message.byte_ok rfl
  refine ⟨?_, fun operation op hop => ?_⟩
  · have hlen' : (id :: values).length + bsmpHeaderSize ≤ bsmpMaxPayload := by
      simp only [List.length_cons, bsmpHeaderSize, bsmpMaxPayload]; omega
    have hm : (message .groupWrite (id :: values)).payloadSize.toNat = values.length + 1 :=
      message_size (Nat.le_trans (Nat.le_add_right _ _) hlen')
    have hreq : respond md5 s (request CommandCode.groupWrite.toByte (id :: values)) area =
        groupWrite s.clearModified _ := respond_request rfl hlen'
    have hg' : s.clearModified.server.groups.at id.toNat = .ok g := hg
    simp only [hreq, groupWrite, hbyte, ok_bind, hg', hro, Bool.not_false, if_true]
    rw [if_neg (by omega), if_neg (by show ¬ id.toNat ≥ s.server.groups.count; omega), if_neg (by omega)]
    rfl
  · have hlen' : (id :: operation :: values).length + bsmpHeaderSize ≤ bsmpMaxPayload := by
      simp only [List.length_cons, bsmpHeaderSize, bsmpMaxPayload]; omega
    have hm : (message .groupBinOp (id :: operation :: values)).payloadSize.toNat = values.length + 2 :=
      message_size (Nat.le_trans (Nat.le_add_right _ _) hlen')
    have hreq : respond md5 s (request CommandCode.groupBinOp.toByte (id :: operation :: values)) area =
        groupBinOp s.clearModified _ := respond_request rfl hlen'
    have hg' : s.clearModified.server.groups.at id.toNat = .ok g := hg
    have hbyte₁ : (message .groupBinOp (id :: operation :: values)).byte 1 = .ok operation :=
      Message.byte_ok rfl
    simp only [hreq, groupBinOp, hbyte, hbyte₁, hop, ok_bind, hg', hro, Bool.not_false, if_true]
    rw [if_neg (by omega), if_neg (by show ¬ id.toNat ≥ s.server.groups.count; omega), if_neg (by omega)]
    rfl

/-- **Group commands are the commands for the members.** With a harmless hook
and variables of a byte at least in disjoint memories, for an existing group:
reading it answers what reading each member answers, in order; writing to it,
when it is writable and every checker accepts its slice, leaves the state that
writing to each member leaves, in any order, and reading it after that answers
what was written; so does an operation; and a group with a read-only member
refuses both and changes nothing. -/
theorem group_commands (hs : Reachable md5 s) (hhook : HookHarmless s)
    (hdisjoint : s.server.vars.Pairwise fun p q => (s.objs.var p).region.Apart (s.objs.var q).region)
    (hpos : ∀ p ∈ s.server.vars, 0 < (s.objs.var p).info.size.toNat)
    (hid : id.toNat < s.server.groups.count) (hg : s.server.groups.at id.toNat = .ok g) (area : Nat → UInt8) :
    (∃ s₁ vals, respond md5 s (request CommandCode.groupRead.toByte [id]) area =
        .ok (s₁, reply .groupValues g.size (g.vars.flatMap vals)) ∧
      ∀ q ∈ g.vars, ∃ s₂, respond md5 s (request CommandCode.varRead.toByte [(s.objs.var q).info.id]) area =
        .ok (s₂, reply .varValue (s.objs.var q).info.size.toUInt16 (vals q))) ∧
    (g.writable = true → ∀ values : List UInt8, values.length = g.size.toNat →
      (∀ q ∈ g.vars, ∀ w, (s.objs.var q).accepts w (sliceOf s.objs g.vars q values) = true) →
      ∃ s₁ a, respond md5 s (request CommandCode.groupWrite.toByte (id :: values)) area = .ok (s₁, a) ∧
        (g.vars ≠ [] → a = answer .ok) ∧
        (∀ qs : List Ptr, qs.Perm g.vars →
          ∃ s₂, serve md5 s (varWrites s.objs area (fun q => sliceOf s.objs g.vars q values) qs) = .ok s₂ ∧
            SameInstance s₁ s₂ ∧ s₂.world = s₁.world) ∧
        ∃ s₃, respond md5 s₁ (request CommandCode.groupRead.toByte [id]) area =
          .ok (s₃, reply .groupValues g.size values)) ∧
    (g.writable = true → ∀ operation op, binOp operation = some op →
      ∀ masks : List UInt8, masks.length = g.size.toNat →
      ∃ s₁, respond md5 s (request CommandCode.groupBinOp.toByte (id :: operation :: masks)) area =
          .ok (s₁, answer .ok) ∧
        ∀ qs : List Ptr, qs.Perm g.vars →
          ∃ s₂, serve md5 s (varBinOps s.objs area operation
            (fun q => sliceOf s.objs g.vars q masks) qs) = .ok s₂ ∧
            SameInstance s₁ s₂ ∧ s₂.world = s₁.world) ∧
    (g.writable = false → ∀ values : List UInt8, values.length = g.size.toNat →
      respond md5 s (request CommandCode.groupWrite.toByte (id :: values)) area =
        .ok (s.clearModified, answer .errReadOnly) ∧
      ∀ operation op, binOp operation = some op →
        respond md5 s (request CommandCode.groupBinOp.toByte (id :: operation :: values)) area =
          .ok (s.clearModified, answer .errReadOnly)) := by
  have h := hs.repInv
  have hok := h.of_groupAt hid hg
  have hnodup := h.vars.nodup.sublist hok.members
  have hapart := hdisjoint.sublist hok.members
  have hfits : g.writable = true → ∀ values : List UInt8, values.length = g.size.toNat → ∀ q ∈ g.vars,
      Fits s q (sliceOf s.objs g.vars q values) := by
    intro hwr values hlen q hq
    exact ⟨hok.members_mem q hq, hok.member_writable hwr q hq, hpos q (hok.members_mem q hq),
      sliceOf_length hq (hlen.trans hok.sums.size)⟩
  refine ⟨?_, ?_, ?_, fun hro values hlen => respond_readOnly h hid hg hpos hro hlen⟩
  · obtain ⟨s₁, hread⟩ := respond_groupRead md5 area h hhook hid hg
    exact ⟨s₁, fun q => (s.objs.var q).bytes s.world.mem, hread,
      fun q hq => respond_varRead md5 area h hhook (hok.members_mem q hq)⟩
  · intro hwr values hlen hacc
    obtain ⟨s₁, a, hresp, ha, hsame, hworld⟩ :=
      respond_groupWrite md5 area h hhook hid hg hpos hwr hlen hacc
    refine ⟨s₁, a, hresp, ha, ?_, ?_⟩
    · intro qs hperm
      obtain ⟨s₂, hserve, hsame₂, hworld₂⟩ := serve_varWrites md5 area h hhook
        (fun q => sliceOf s.objs g.vars q values) qs (fun q hq => hfits hwr values hlen q (hperm.subset hq))
        fun q hq => hacc q (hperm.subset hq)
      refine ⟨s₂, hserve, hsame.symm.trans hsame₂, ?_⟩
      rw [hworld₂, hworld, stores_perm hperm hapart fun q hq => (hfits hwr values hlen q hq).length]
    · obtain ⟨s₃, hread⟩ := respond_groupRead md5 area (h.same hsame) (hhook.same hsame.hook)
        (by rw [hsame.groups]; exact hid) (by rw [hsame.groups]; exact hg)
      rw [hsame.objs, hworld, valuesOf_written hnodup hapart (hlen.trans hok.sums.size) s.world hacc] at hread
      exact ⟨s₃, hread⟩
  · intro hwr operation op hop masks hlen
    obtain ⟨s₁, hresp, hsame, hworld⟩ := respond_groupBinOp md5 area h hhook hid hg hwr hapart hop hlen
    refine ⟨s₁, hresp, ?_⟩
    intro qs hperm
    obtain ⟨s₂, hserve, hsame₂, hworld₂⟩ := serve_varBinOps md5 area h hhook hop
      (fun q => sliceOf s.objs g.vars q masks) qs (fun q hq => hfits hwr masks hlen q (hperm.subset hq))
      ((hperm.pairwise_iff fun hxy => hxy.symm).mpr hapart)
    refine ⟨s₂, hserve, hsame.symm.trans hsame₂, ?_⟩
    rw [hworld₂, hworld, stores_perm hperm hapart fun q hq =>
      (s.objs.var q).combine_length op s.world.mem (hfits hwr masks hlen q hq).length]

/-- Two variables that lie apart. -/
theorem pairwise_apart {a b m n : Nat} {objs : Objects σ} {p q : Ptr} (hp : (objs.var p).region = ⟨a, m⟩)
    (hq : (objs.var q).region = ⟨b, n⟩) (h : a + m ≤ b) :
    [p, q].Pairwise fun p q => (objs.var p).region.Apart (objs.var q).region := by
  refine List.pairwise_pair.mpr ?_
  rw [hp, hq]
  intro x hx hx'
  have h₁ := hx.2
  have h₂ := hx'.1
  simp only at h₁ h₂
  omega

/-- Two bytes to write, and a hook that counts its calls. -/
def counted : System Nat :=
  after byteSum
    (.ofLists
      [{ info := ⟨0, true, 1⟩, valueOk := none, data := some 0 },
        { info := ⟨0, true, 1⟩, valueOk := none, data := some 1 }] [] [])
    { mem := fun _ => 0, app := 0 }
    (registrations 2 0 0 ++ [.registerHook (some fun _ list w => (true, list, { w with app := w.app + 1 }))])

/-- On the plant's variables, one of which is read only, the group operation is
refused, and the operation on the other member goes through. With the counting
hook one group write is counted once, the two writes twice. -/
theorem group_commands_differ :
    (Reachable byteSum plant ∧
      plant.server.vars.Pairwise (fun p q => (plant.objs.var p).region.Apart (plant.objs.var q).region) ∧
      (∀ p ∈ plant.server.vars, 0 < (plant.objs.var p).info.size.toNat) ∧
      ∃ s₁ a s₂,
        respond byteSum plant (request CommandCode.groupBinOp.toByte [0, 0x4F, 255, 255, 255]) (fun _ => 0) =
          .ok (s₁, a) ∧
        serve byteSum plant (varBinOps plant.objs (fun _ => 0) 0x4F
          (fun q => sliceOf plant.objs [0, 1] q [255, 255, 255]) [0, 1]) = .ok s₂ ∧
        (plant.objs.var 0).bytes s₁.world.mem = [0, 0] ∧ (plant.objs.var 0).bytes s₂.world.mem = [255, 255]) ∧
    (Reachable byteSum counted ∧
      counted.server.vars.Pairwise
        (fun p q => (counted.objs.var p).region.Apart (counted.objs.var q).region) ∧
      (∀ p ∈ counted.server.vars, 0 < (counted.objs.var p).info.size.toNat) ∧
      ∃ s₁ a s₂,
        respond byteSum counted (request CommandCode.groupWrite.toByte [0, 7, 8]) (fun _ => 0) = .ok (s₁, a) ∧
        serve byteSum counted (varWrites counted.objs (fun _ => 0)
          (fun q => sliceOf counted.objs [0, 1] q [7, 8]) [0, 1]) = .ok s₂ ∧
        s₁.world.app = 1 ∧ s₂.world.app = 2) := by
  refine ⟨⟨plant_reachable, pairwise_apart (p := 0) (q := 1) rfl rfl (Nat.le_refl 2), by decide, ?_⟩,
    after_reachable .., pairwise_apart (p := 0) (q := 1) rfl rfl (Nat.le_refl 1), by decide, ?_⟩
  · exact ⟨_, _, _, rfl, rfl, rfl, rfl⟩
  · exact ⟨_, _, _, rfl, rfl, rfl, rfl⟩

/-- An operation on both bytes, and the operations on one and the other. -/
theorem group_commands_guarded :
    ∃ s₁, respond byteSum guarded (request CommandCode.groupBinOp.toByte [0, 0x58, 3, 4]) (fun _ => 0) =
        .ok (s₁, answer .ok) ∧
      ∀ qs : List Ptr, qs.Perm [0, 1] →
        ∃ s₂, serve byteSum guarded (varBinOps guarded.objs (fun _ => 0) 0x58
            (fun q => sliceOf guarded.objs [0, 1] q [3, 4]) qs) = .ok s₂ ∧
          SameInstance s₁ s₂ ∧ s₂.world = s₁.world :=
  (group_commands guarded_reachable (fun f hf => by cases hf)
    (pairwise_apart (p := 0) (q := 1) rfl rfl (Nat.le_refl 1)) (by decide)
    (show UInt8.toNat 0 < guarded.server.groups.count by decide) rfl fun _ => 0).2.2.1 rfl 0x58 _ rfl
      [3, 4] rfl

end UdcFirmware.Bsmp
