/-
Requests, and with them whole lives of an instance.

`respond_outcome`: from a state with `RepInv` any packet is answered, in one
of the ways of `Outcome`. Each of them keeps `RepInv` (`Outcome.repInv`), so
no step of an instance stops or breaks it (`step_total`), and no life does
(`life_total`). `life_represented` reads the invariant back in the terms of
the lists and groups themselves.
-/
import UdcFirmware.Bsmp.Outcome

namespace UdcFirmware.Bsmp

open ByteMem Checked

variable {σ : Type} {md5 : Md5} {area : Nat → UInt8} {s s' : System σ} {m a : Message}

/-! ## Every packet is answered -/

theorem CommandCode.toByte_of_ofByte? {b : UInt8} {c : CommandCode} (h : ofByte? b = some c) :
    b = c.toByte := by
  unfold ofByte? at h
  split at h <;> cases h <;> rfl

theorem command_outcome (h : RepInv s) (hm : m.Whole)
    {handler : System σ → Message → Except Fault (System σ × Message)}
    (hc : command md5 area m.commandCode = some handler) :
    Returns (handler s m) fun r => Outcome md5 area s m r.1 r.2 := by
  unfold command at hc
  split at hc
  · next hb => cases hc; exact queryVersion_outcome (CommandCode.toByte_of_ofByte? hb)
  · next hb => cases hc; exact varQueryList_outcome h (CommandCode.toByte_of_ofByte? hb)
  · next hb => cases hc; exact varRead_outcome h hm (CommandCode.toByte_of_ofByte? hb)
  · next hb => cases hc; exact varWrite_outcome h hm (CommandCode.toByte_of_ofByte? hb)
  · next hb => cases hc; exact varBinOp_outcome h hm (CommandCode.toByte_of_ofByte? hb)
  · next hb => cases hc; exact varWriteRead_outcome h hm (CommandCode.toByte_of_ofByte? hb)
  · next hb => cases hc; exact groupQueryList_outcome h (CommandCode.toByte_of_ofByte? hb)
  · next hb => cases hc; exact groupQuery_outcome h hm (CommandCode.toByte_of_ofByte? hb)
  · next hb => cases hc; exact groupRead_outcome h hm (CommandCode.toByte_of_ofByte? hb)
  · next hb => cases hc; exact groupWrite_outcome h hm (CommandCode.toByte_of_ofByte? hb)
  · next hb => cases hc; exact groupBinOp_outcome h hm (CommandCode.toByte_of_ofByte? hb)
  · next hb => cases hc; exact groupCreate_outcome h hm (CommandCode.toByte_of_ofByte? hb)
  · next hb => cases hc; exact groupRemoveAll_outcome (CommandCode.toByte_of_ofByte? hb)
  · next hb => cases hc; exact curveQueryList_outcome h (CommandCode.toByte_of_ofByte? hb)
  · next hb => cases hc; exact curveQueryCsum_outcome hm (CommandCode.toByte_of_ofByte? hb)
  · next hb => cases hc; exact curveBlockRequest_outcome h hm (CommandCode.toByte_of_ofByte? hb)
  · next hb => cases hc; exact curveBlock_outcome h hm (CommandCode.toByte_of_ofByte? hb)
  · next hb => cases hc; exact curveRecalcCsum_outcome h hm (CommandCode.toByte_of_ofByte? hb)
  · next hb => cases hc; exact funcQueryList_outcome h (CommandCode.toByte_of_ofByte? hb)
  · next hb => cases hc; exact funcExecute_outcome h hm (CommandCode.toByte_of_ofByte? hb)
  · cases hc

theorem clearModified_same (s : System σ) : SameInstance s s.clearModified :=
  ⟨rfl, rfl, rfl, rfl, rfl, rfl, rfl⟩

@[simp] theorem clearModified_world (s : System σ) : s.clearModified.world = s.world := rfl

@[simp] theorem clearModified_objs (s : System σ) : s.clearModified.objs = s.objs := rfl

@[simp] theorem clearModified_trace (s : System σ) : s.clearModified.trace = s.trace := rfl

/-- A packet as long as its header says holds its whole payload. -/
theorem Request.message_whole {req : Request}
    (hlen : req.packet.len.toNat = req.message.payloadSize.toNat + bsmpHeaderSize) : req.message.Whole := by
  have hheld := req.held
  have hsize : req.message.payload =
      (req.packet.data.drop bsmpHeaderSize).take req.message.payloadSize.toNat := rfl
  rw [Message.Whole, hsize, List.length_take, List.length_drop]
  simp only [bsmpHeaderSize] at hlen ⊢
  omega

/-- **Every packet is answered**, in one of the ways of `Outcome`. -/
theorem respond_outcome (md5 : Md5) (h : RepInv s) (req : Request) (area : Nat → UInt8) :
    Returns (respond md5 s req area) fun r => Outcome md5 area s.clearModified req.message r.1 r.2 := by
  refine .ite (fun _ => .ok (.rejected rfl)) fun hlen => ?_
  have hwhole : req.message.Whole := Request.message_whole (by simp at hlen ⊢; omega)
  cases hc : command md5 area req.message.commandCode (σ := σ) with
  | none => exact .ok (.rejected rfl)
  | some handler => exact command_outcome (h.same (clearModified_same s)) hwhole hc

/-- A packet with a known command is malformed or goes to the handler. -/
theorem respond_command {req : Request} {handler : System σ → Message → Except Fault (System σ × Message)}
    (hc : command md5 area req.message.commandCode = some handler)
    (h : respond md5 s req area = .ok (s', a)) :
    (s' = s.clearModified ∧ a = answer .errMalformedMessage) ∨
      (req.message.Whole ∧ handler s.clearModified req.message = .ok (s', a)) := by
  simp only [respond] at h
  split at h
  · cases h
    exact .inl ⟨rfl, rfl⟩
  · next hlen =>
    simp only [hc] at h
    exact .inr ⟨Request.message_whole (by simp at hlen ⊢; omega), h⟩

/-- The packet that carries a command: code, size and payload. -/
def request (code : UInt8) (payload : List UInt8) : Request where
  packet :=
    { data := code :: beBytes (UInt16.ofNat payload.length) ++ payload
      len := UInt16.ofNat (payload.length + bsmpHeaderSize) }
  header := by simp [beBytes]
  held := by simp [beBytes]; omega

/-- A payload that its two size bytes can count arrives as it was sent. -/
theorem request_message (code : UInt8) {payload : List UInt8} (h : payload.length ≤ bsmpMaxPayload) :
    (request code payload).message = ⟨code, UInt16.ofNat payload.length, payload⟩ := by
  have hsize : (UInt16.ofNat payload.length).toNat = payload.length :=
    UInt16.toNat_ofNat_of_lt (Nat.lt_of_le_of_lt h (by decide))
  simp only [Request.message, request, beBytes, List.cons_append, List.nil_append, List.getD_cons_zero,
    List.getD_cons_succ, ofBeBytes_beBytes, bsmpHeaderSize, List.drop_succ_cons, List.drop_zero, hsize,
    List.take_length]

/-! ## The invariant over a life -/

/-- What a block read came down to. -/
theorem callReadBlock_cases {p : Ptr} {block : UInt16} {ok : Bool} {data : List UInt8}
    (h : s.callReadBlock p block = .ok (ok, data, s')) :
    ∃ f w, (s.objs.curve p).readBlock = some f ∧ f block s.world = (ok, data, w) ∧
      s' = { s with world := w, trace := s.trace ++ [.readBlock p block] } := by
  obtain ⟨f, hf, hr⟩ := bind_ok_iff.mp h
  refine ⟨f, (f block s.world).2.2, deref_ok_iff.mp hf, ?_, ?_⟩
  · injection hr with hr
    rw [← (Prod.mk.inj hr).1, ← (Prod.mk.inj (Prod.mk.inj hr).2).1]
  · injection hr with hr
    rw [← (Prod.mk.inj (Prod.mk.inj hr).2).2]

theorem callWriteBlock_cases {p : Ptr} {block : UInt16} {data : List UInt8} {ok : Bool}
    (h : s.callWriteBlock p block data = .ok (ok, s')) :
    ∃ f w, (s.objs.curve p).writeBlock = some f ∧ f block data s.world = (ok, w) ∧
      s' = { s with world := w, trace := s.trace ++ [.writeBlock p block data] } := by
  obtain ⟨f, hf, hr⟩ := bind_ok_iff.mp h
  refine ⟨f, (f block data s.world).2, deref_ok_iff.mp hf, ?_, ?_⟩
  · injection hr with hr
    rw [← (Prod.mk.inj hr).1]
  · injection hr with hr
    rw [← (Prod.mk.inj hr).2]

theorem callReadBlock_same {p : Ptr} {block : UInt16} {ok : Bool} {data : List UInt8}
    (h : s.callReadBlock p block = .ok (ok, data, s')) : SameInstance s s' := by
  obtain ⟨f, w, -, -, rfl⟩ := callReadBlock_cases h
  exact .worldTrace s w _

theorem callWriteBlock_same {p : Ptr} {block : UInt16} {data : List UInt8} {ok : Bool}
    (h : s.callWriteBlock p block data = .ok (ok, s')) : SameInstance s s' := by
  obtain ⟨f, w, -, -, rfl⟩ := callWriteBlock_cases h
  exact .worldTrace s w _

/-- What every block read keeps, the checksum loop keeps. -/
theorem curveCsumLoop_keeps {I : System σ → Prop} {p : Ptr}
    (hread : ∀ {s s' : System σ} {block : UInt16} {ok : Bool} {data : List UInt8}, I s →
      s.callReadBlock p block = .ok (ok, data, s') → I s')
    {n i : Nat} {ctx : md5.Ctx} {r : Option md5.Ctx} (hs : I s)
    (h : curveCsumLoop md5 p n i ctx s = .ok (r, s')) : I s' := by
  induction n generalizing s i ctx with
  | zero =>
    cases h
    exact hs
  | succ n ih =>
    obtain ⟨⟨ok, data, s₁⟩, hcall, h⟩ := bind_ok_iff.mp h
    have hs₁ := hread hs hcall
    simp only at h
    split at h
    · cases h; exact hs₁
    split at h
    · cases h; exact hs₁
    · exact ih hs₁ h

theorem curveCsumLoop_same {p : Ptr} {n i : Nat} {ctx : md5.Ctx} {r : Option md5.Ctx}
    (h : curveCsumLoop md5 p n i ctx s = .ok (r, s')) : SameInstance s s' :=
  curveCsumLoop_keeps (I := SameInstance s) (fun hs hread => hs.trans (callReadBlock_same hread)) (.refl s) h

/-- A checksum is no part of the representation. -/
theorem RepInv.setChecksum (h : RepInv s) (p : Ptr) (c : Checksum) : RepInv (s.setChecksum p c) := by
  have hid : ∀ q, ((s.setChecksum p c).objs.curve q).info.id = (s.objs.curve q).info.id := by
    intro q
    by_cases hq : q = p
    · subst hq; simp [System.setChecksum]
    · simp [System.setChecksum, hq]
  have hcheck : ∀ q, curveCheck (some ((s.setChecksum p c).objs.curve q)) =
      curveCheck (some (s.objs.curve q)) := by
    intro q
    by_cases hq : q = p
    · subst hq; simp [System.setChecksum, curveCheck]
    · simp [System.setChecksum, hq]
  exact { h with
    curves := h.curves.congr (fun q _ => hid q) fun q hq => (hcheck q).trans (h.curves.checked q hq) }

/-- The groups of an instance with slot `i` replaced, `i` being one not in use. -/
theorem RepInv.setSlot (h : RepInv s) {i : Fin bsmpMaxGroups} {g : Group} {n : Nat}
    (hi : i.val = s.server.groups.count) (hn : n = i.val ∨ n = i.val + 1)
    (hg : n = i.val + 1 → GroupOk s.server.vars (fun p => (s.objs.var p).info) i.val g) :
    RepInv { s with server.groups := ⟨n, Function.update s.server.groups.list i g⟩ } := by
  have hstandard := h.standard
  have hlt := i.isLt
  have hne : ∀ j : Fin bsmpMaxGroups, j.val < groupStandardCount → j ≠ i := by
    intro j hj he
    rw [he] at hj
    omega
  refine ⟨h.vars, h.curves, h.funcs, by simp only; omega, by simp only; omega, ?_, ?_, ?_, ?_⟩
  · intro j hj
    by_cases hji : j = i
    · subst hji
      simp only [Function.update_self]
      exact hg (by simp only at hj; omega)
    · simp only [Function.update_of_ne hji]
      have : j.val ≠ i.val := fun he => hji (Fin.ext he)
      exact h.group j (by simp only at hj; omega)
  · simp only [Function.update_of_ne (hne 0 (by decide))]; exact h.all
  · simp only [Function.update_of_ne (hne 1 (by decide))]; exact h.read
  · simp only [Function.update_of_ne (hne 2 (by decide))]; exact h.write

/-- What can become of the instance: only the world and the trace change; or a
checksum too; or the groups, one more at the end of them, or the standard ones left. -/
theorem Outcome.changes (ho : Outcome md5 area s m s' a) :
    SameInstance s s' ∨ (∃ s₁ p c, SameInstance s s₁ ∧ s' = s₁.setChecksum p c) ∨
    (∃ (n : Nat) (i : Fin bsmpMaxGroups) (g : Group), i.val = s.server.groups.count ∧
      (n = i.val ∨ n = i.val + 1) ∧
      (n = i.val + 1 → GroupOk s.server.vars (fun p => (s.objs.var p).info) i.val g) ∧
      s' = { s with server.groups := ⟨n, Function.update s.server.groups.list i g⟩ }) ∨
    s' = { s with server.groups.count := groupStandardCount } := by
  cases ho with
  | rejected => exact .inl (.refl s)
  | queried => exact .inl (.refl s)
  | varRead hcmd hpay hp hhook => exact .inl (callHook_same hhook)
  | varWrite hcmd hpay hp hlen hwr hok hhook =>
    exact .inl ((SameInstance.world s _).trans (callHook_same hhook))
  | varWriteRead hcmd hpay hpw hpr hlen hwr hok hhook₁ hhook₂ =>
    exact .inl ((SameInstance.world s _).trans ((callHook_same hhook₁).trans (callHook_same hhook₂)))
  | varBinOp hcmd hpay hp hop hlen hwr hhook =>
    exact .inl ((SameInstance.world s _).trans (callHook_same hhook))
  | groupRead hcmd hpay hid hg hhook => exact .inl (callHook_same hhook)
  | groupWrite hcmd hpay hid hg hlen hwr hw hhook =>
    exact .inl ((SameInstance.world s _).trans (callHook_same hhook))
  | groupBinOp hcmd hpay hid hg hop hlen hwr hhook =>
    exact .inl ((SameInstance.world s _).trans (callHook_same hhook))
  | @groupAbandoned i g hi =>
    exact .inr (.inr (.inl ⟨_, i, g, hi, .inl hi.symm, fun hn => by omega, rfl⟩))
  | @groupCreated i g hcmd hi hg =>
    exact .inr (.inr (.inl ⟨_, i, g, hi, .inr (by rw [hi]), fun _ => hg, rfl⟩))
  | groupsRemoved => exact .inr (.inr (.inr rfl))
  | blockBusy hcmd hp hread => exact .inl (callReadBlock_same hread)
  | blockRead hcmd hpay hp hoff hread => exact .inl (callReadBlock_same hread)
  | blockWriteBusy hcmd hp hwr hwrite => exact .inl (callWriteBlock_same hwrite)
  | blockWritten hcmd hpay hp hdata hlen hoff hwr hwrite =>
    exact .inr (.inl ⟨_, _, _, callWriteBlock_same hwrite, rfl⟩)
  | customCsum hcmd hpay hp hmd5 hcall => exact .inr (.inl ⟨_, _, _, .worldTrace s _ _, rfl⟩)
  | csumBusy hcmd hpay hp hmd5 hloop => exact .inl (curveCsumLoop_same hloop)
  | csumComputed hcmd hpay hp hmd5 hloop => exact .inr (.inl ⟨_, _, _, curveCsumLoop_same hloop, rfl⟩)
  | executed => exact .inl (.worldTrace s _ _)

/-- No outcome breaks the representation. -/
theorem Outcome.repInv (h : RepInv s) (ho : Outcome md5 area s m s' a) : RepInv s' := by
  rcases ho.changes with hs | ⟨s₁, p, c, hs, rfl⟩ | ⟨n, i, g, hi, hn, hg, rfl⟩ | rfl
  · exact h.same hs
  · exact (h.same hs).setChecksum p c
  · exact h.setSlot hi hn hg
  · refine ⟨h.vars, h.curves, h.funcs, Nat.le_refl _, h.standard.trans h.room, ?_, h.all, h.read, h.write⟩
    intro i hi
    exact h.group i (Nat.lt_of_lt_of_le hi h.standard)

/-! ## What a request leaves alone -/

/-- The same structures, lists and callbacks: only checksums, groups, the world
and the trace may differ. -/
structure SameApplication (s s' : System σ) : Prop where
  vars : s'.server.vars = s.server.vars
  curves : s'.server.curves = s.server.curves
  funcs : s'.server.funcs = s.server.funcs
  hook : s'.server.hook = s.server.hook
  customMd5 : s'.server.customMd5 = s.server.customMd5
  var : s'.objs.var = s.objs.var
  curve : ∀ p, ∃ c, s'.objs.curve p = { s.objs.curve p with info.checksum := c }
  func : s'.objs.func = s.objs.func

theorem SameInstance.application (h : SameInstance s s') : SameApplication s s' :=
  ⟨h.vars, h.curves, h.funcs, h.hook, h.customMd5, by rw [h.objs],
    fun p => ⟨(s.objs.curve p).info.checksum, by rw [h.objs]⟩, by rw [h.objs]⟩

theorem SameApplication.refl (s : System σ) : SameApplication s s := (SameInstance.refl s).application

theorem SameApplication.trans {s₁ s₂ s₃ : System σ} (h : SameApplication s₁ s₂) (h' : SameApplication s₂ s₃) :
    SameApplication s₁ s₃ where
  vars := h'.vars.trans h.vars
  curves := h'.curves.trans h.curves
  funcs := h'.funcs.trans h.funcs
  hook := h'.hook.trans h.hook
  customMd5 := h'.customMd5.trans h.customMd5
  var := h'.var.trans h.var
  curve p := by
    obtain ⟨c, hc⟩ := h.curve p
    obtain ⟨c', hc'⟩ := h'.curve p
    exact ⟨c', by rw [hc', hc]⟩
  func := h'.func.trans h.func

theorem SameApplication.setChecksum (s : System σ) (p : Ptr) (c : Checksum) :
    SameApplication s (s.setChecksum p c) := by
  refine ⟨rfl, rfl, rfl, rfl, rfl, rfl, ?_, rfl⟩
  intro q
  by_cases hq : q = p
  · subst hq
    exact ⟨c, by simp [System.setChecksum]⟩
  · exact ⟨(s.objs.curve q).info.checksum, by simp [System.setChecksum, hq]⟩

theorem Outcome.sameApplication (ho : Outcome md5 area s m s' a) : SameApplication s s' := by
  rcases ho.changes with hs | ⟨s₁, p, c, hs, rfl⟩ | ⟨n, i, g, -, -, -, rfl⟩ | rfl
  · exact hs.application
  · exact hs.application.trans (.setChecksum s₁ p c)
  · exact ⟨rfl, rfl, rfl, rfl, rfl, rfl, fun p => ⟨_, rfl⟩, rfl⟩
  · exact ⟨rfl, rfl, rfl, rfl, rfl, rfl, fun p => ⟨_, rfl⟩, rfl⟩

/-- A packet processed is an outcome, its answer put in the response. -/
theorem bsmpProcessPacket_outcome (md5 : Md5) (h : RepInv s) (req : Request) (area : Nat → UInt8) :
    ∃ s' a, bsmpProcessPacket md5 s req area = .ok (s', a.toPacket) ∧
      Outcome md5 area s.clearModified req.message s' a ∧ RepInv s' := by
  obtain ⟨⟨s', a⟩, hr, ho⟩ := respond_outcome md5 h req area
  refine ⟨s', a, ?_, ho, ho.repInv (h.same (clearModified_same s))⟩
  rw [bsmpProcessPacket, hr]
  rfl

/-- From a state with the invariant no step stops, and it keeps the invariant. -/
theorem step_total (md5 : Md5) (s : System σ) (e : Event σ) (h : RepInv s) :
    ∃ s', step md5 s e = .ok s' ∧ RepInv s' := by
  cases e with
  | registerVariable var =>
    obtain ⟨err, s', hreg, hinv⟩ := registerVariable_repInv h var
    exact ⟨s', by simp only [step, hreg, ok_bind]; rfl, hinv⟩
  | registerCurve curve => exact ⟨_, rfl, registerCurve_repInv h curve⟩
  | registerFunction func => exact ⟨_, rfl, registerFunction_repInv h func⟩
  | registerHook hook =>
    refine ⟨_, rfl, ?_⟩
    cases hook with
    | none => exact h
    | some hook => exact h.congr rfl rfl rfl rfl rfl
  | registerMd5 customMd5 =>
    refine ⟨_, rfl, ?_⟩
    cases customMd5 with
    | none => exact h
    | some customMd5 => exact h.congr rfl rfl rfl rfl rfl
  | processPacket req area =>
    obtain ⟨s', a, hp, -, hinv⟩ := bsmpProcessPacket_outcome md5 h req area
    exact ⟨s', by simp only [step, hp, ok_bind]; rfl, hinv⟩
  | application objs world => exact ⟨_, rfl, application_repInv h objs world⟩

/-- No life of an instance stops, and each keeps the invariant. -/
theorem life_total (md5 : Md5) (objs : Objects σ) (world : World σ) (evs : List (Event σ)) :
    ∃ s, life md5 objs world evs = .ok s ∧ RepInv s :=
  Runs.run_total (step_total md5) evs (repInv_init objs world)

theorem Reachable.repInv (h : Reachable md5 s) : RepInv s := by
  obtain ⟨objs, world, evs, hlife⟩ := h
  obtain ⟨s₁, hs₁, hinv⟩ := life_total md5 objs world evs
  cases hs₁.symm.trans hlife
  exact hinv

/-- One more event: still reachable. -/
theorem Reachable.step (h : Reachable md5 s) {e : Event σ} (hs : Bsmp.step md5 s e = .ok s') :
    Reachable md5 s' := by
  obtain ⟨objs, world, evs, hlife⟩ := h
  refine ⟨objs, world, evs ++ [e], ?_⟩
  rw [life, Runs.run_append, ← life, hlife, ok_bind, Runs.run_cons, hs]
  rfl

theorem after_reachable (md5 : Md5) (objs : Objects σ) (world : World σ) (evs : List (Event σ)) :
    Reachable md5 (after md5 objs world evs) := by
  obtain ⟨s, hlife, -⟩ := life_total md5 objs world evs
  exact ⟨objs, world, evs, by rw [after, hlife]⟩

theorem plant_reachable : Reachable byteSum plant := after_reachable ..

/-! ## The representation, list by list -/

/-- The ids of a group's variables go up. -/
theorem Registered.ids_increase {α : Type} {check : Option α → BsmpErr} {getId : α → UInt8} {max : Nat}
    {list vars : List Ptr} {objs : Ptr → α} (h : Registered check getId max list objs)
    (hsub : vars.Sublist list) : (vars.map fun p => getId (objs p)).Pairwise (· < ·) := by
  rw [List.pairwise_map]
  refine List.Pairwise.sublist hsub (List.pairwise_iff_getElem.mpr ?_)
  intro i j hi hj hij
  rw [UInt8.lt_iff_toNat_lt, h.ids i hi, h.ids j hj]
  exact hij

/-- **The representation invariant over whole lives.** Whatever is
registered, requested and rewritten, in whatever order, the instance runs on;
an object's id is its index and no object is listed twice; the groups that
exist list their variables by increasing id, with their true sum of sizes and
conjunction of flags; and the standard groups are all the variables, the
read-only ones and the writable ones. -/
theorem life_represented (md5 : Md5) (objs : Objects σ) (world : World σ) (evs : List (Event σ)) :
    ∃ s, life md5 objs world evs = .ok s ∧
      ((∀ i (h : i < s.server.vars.length), (s.objs.var s.server.vars[i]).info.id.toNat = i) ∧
        (∀ i (h : i < s.server.curves.length), (s.objs.curve s.server.curves[i]).info.id.toNat = i) ∧
        (∀ i (h : i < s.server.funcs.length), (s.objs.func s.server.funcs[i]).info.id.toNat = i) ∧
        s.server.vars.Nodup ∧ s.server.curves.Nodup ∧ s.server.funcs.Nodup) ∧
      (3 ≤ s.server.groups.count ∧ s.server.groups.count ≤ bsmpMaxGroups ∧
        ∀ i : Fin bsmpMaxGroups, i.val < s.server.groups.count →
          let g := s.server.groups.list i
          g.id.toNat = i.val ∧
          (g.vars.map fun p => (s.objs.var p).info.id).Pairwise (· < ·) ∧
          (∀ p ∈ g.vars, p ∈ s.server.vars ∧ (s.objs.var p).info.id.toNat < s.server.vars.length) ∧
          g.size.toNat = (g.vars.map fun p => (s.objs.var p).info.size.toNat).sum ∧
          (g.writable = true ↔ ∀ p ∈ g.vars, (s.objs.var p).info.writable = true)) ∧
      (s.server.groups.list 0).vars = s.server.vars ∧
      (s.server.groups.list 1).vars = s.server.vars.filter (fun p => !(s.objs.var p).info.writable) ∧
      (s.server.groups.list 2).vars = s.server.vars.filter (fun p => (s.objs.var p).info.writable) := by
  obtain ⟨s, hlife, h⟩ := life_total md5 objs world evs
  refine ⟨s, hlife, ⟨h.vars.ids, h.curves.ids, h.funcs.ids, h.vars.nodup, h.curves.nodup, h.funcs.nodup⟩,
    ⟨h.standard, h.room, fun i hi => ?_⟩, h.all, h.read, h.write⟩
  have hg := h.group i hi
  refine ⟨hg.id, h.vars.ids_increase hg.members, fun p hp => ?_, hg.sums.size, ?_⟩
  · exact ⟨hg.members_mem p hp, h.vars.id_lt (hg.members_mem p hp)⟩
  · rw [hg.sums.writable, List.all_eq_true]

end UdcFirmware.Bsmp
