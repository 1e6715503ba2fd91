/-
The answers. Whatever is received, what is sent back is a well-formed
message: its size field counts its payload bytes, the packet is three bytes
longer and does not wrap around, its code is an error or one the protocol
has for the command, and an error carries nothing.

The longest answers come from the callbacks and from the groups: 65520 bytes
of a curve block after three bytes that repeat the request, and 128
variables of 128 bytes.
-/
import UdcFirmware.Bsmp.Requests

namespace UdcFirmware.Bsmp

open ByteMem Checked

variable {σ : Type} {md5 : Md5} {area : Nat → UInt8} {s s' : System σ} {m a : Message}

/-- Callbacks that keep to the sizes they are registered with. -/
structure RespectsSizes (s : System σ) : Prop where
  readBlock : ∀ p ∈ s.server.curves, ∀ f, (s.objs.curve p).readBlock = some f →
    ∀ block w, (f block w).2.1.length ≤ (s.objs.curve p).info.blockSize.toNat
  func : ∀ p ∈ s.server.funcs, ∀ f, (s.objs.func p).funcP = some f →
    ∀ input w, (f input w).2.1.length ≤ (s.objs.func p).info.outputSize.toNat

/-- An answer that can be sent. -/
structure Message.Sendable (a : Message) : Prop where
  whole : a.Whole
  fits : a.payloadSize.toNat + bsmpHeaderSize ≤ bsmpMaxPayload
  error : isErrorByte a.commandCode = true → a.payload = []

theorem sendable_answer (c : CommandCode) : (answer c).Sendable :=
  ⟨rfl, by show 0 + bsmpHeaderSize ≤ bsmpMaxPayload; decide, fun _ => rfl⟩

/-- No command has an error as its answer. -/
theorem CommandCode.answers_isError {cmd c : CommandCode} (h : c ∈ cmd.answers) : c.isError = false := by
  cases cmd <;> simp only [answers, List.mem_cons, List.not_mem_nil, or_false] at h
  all_goals first | (subst h; decide) | (rcases h with rfl | rfl <;> decide)

theorem sendable_reply {c : CommandCode} {size : UInt16} {bytes : List UInt8} (hc : c.isError = false)
    (hsize : size.toNat = bytes.length) (hfits : bytes.length + bsmpHeaderSize ≤ bsmpMaxPayload) :
    (reply c size bytes).Sendable where
  whole := hsize.symm
  fits := by rw [← hsize] at hfits; exact hfits
  error := by
    intro he
    have : c.isError = true := he
    rw [hc] at this
    cases this

theorem callReadBlock_length (hr : RespectsSizes s) {p : Ptr} (hp : p ∈ s.server.curves) {block : UInt16}
    {ok : Bool} {data : List UInt8} (h : s.callReadBlock p block = .ok (ok, data, s')) :
    data.length ≤ (s.objs.curve p).info.blockSize.toNat := by
  obtain ⟨f, w, hf, hcall, -⟩ := callReadBlock_cases h
  have hlen := hr.readBlock p hp f hf block s.world
  rw [hcall] at hlen
  exact hlen

theorem RepInv.of_groupAt (h : RepInv s) {i : Nat} {g : Group} (hi : i < s.server.groups.count)
    (hg : s.server.groups.at i = .ok g) : GroupOk s.server.vars (fun p => (s.objs.var p).info) i g := by
  obtain ⟨g', hg', hok⟩ := h.groupAt hi
  cases hg'.symm.trans hg
  exact hok

/-- The values of a group are as many bytes as its cached size says. -/
theorem GroupOk.valuesOf_length {objs : Objects σ} {vars : List Ptr} {i : Nat} {g : Group}
    (h : GroupOk vars (fun p => (objs.var p).info) i g) (mem : Mem UInt8) :
    (valuesOf objs mem g.vars).length = g.size.toNat := by
  rw [Bsmp.valuesOf_length, h.sums.size, sizeSum]

/-- A group's size is 128 times 128 bytes at most. -/
theorem RepInv.group_size_le (h : RepInv s) {i : Nat} {g : Group}
    (hg : GroupOk s.server.vars (fun p => (s.objs.var p).info) i g) :
    g.size.toNat ≤ bsmpMaxVariables * bsmpVarMaxSize := by
  rw [hg.sums.size]
  refine (sum_size_le _ fun p hp => h.size_le (hg.members_mem p hp)).trans ?_
  exact Nat.mul_le_mul_right _ (hg.members.length_le.trans h.vars.count)

theorem RepInv.sendable_value (h : RepInv s) {p : Ptr} (hp : p ∈ s.server.vars) (mem : Mem UInt8) :
    (reply .varValue (s.objs.var p).info.size.toUInt16 ((s.objs.var p).bytes mem)).Sendable := by
  have hsize := h.size_le hp
  refine sendable_reply (by decide) (by simp) ?_
  simp only [Var.bytes_length, bsmpVarMaxSize, bsmpHeaderSize, bsmpMaxPayload] at hsize ⊢
  omega

@[simp] theorem outputArea_length (area : Nat → UInt8) (written : List UInt8) (n : Nat) :
    (outputArea area written n).length = n := by
  simp only [outputArea, List.length_take, List.length_append, List.length_drop, List.length_map,
    List.length_range]
  omega

theorem sendable_checksum (c : Checksum) :
    (reply .curveCsum (UInt16.ofNat bsmpCurveCsumSize) c.toList).Sendable :=
  sendable_reply (by decide) (by simp) (by simp)

/-- Every outcome is answered by a message that can be sent. -/
theorem Outcome.sendable (h : RepInv s) (hr : RespectsSizes s) (ho : Outcome md5 area s m s' a) :
    a.Sendable := by
  cases ho with
  | rejected hc => exact sendable_answer _
  | queried bytes hcmd hc hlen =>
    simp only [maxListSize, bsmpMaxCurves, bsmpCurveListInfo] at hlen
    refine sendable_reply (CommandCode.answers_isError hc) ?_ ?_
    · exact UInt16.toNat_ofNat_of_lt (Nat.lt_of_le_of_lt hlen (by decide))
    · simp only [bsmpHeaderSize, bsmpMaxPayload]; omega
  | varRead hcmd hpay hp hhook => exact h.sendable_value (List.mem_of_getElem? hp) _
  | varWrite => exact sendable_answer _
  | varWriteRead hcmd hpay hpw hpr hlen hwr hok hhook₁ hhook₂ =>
    exact h.sendable_value (List.mem_of_getElem? hpr) _
  | varBinOp => exact sendable_answer _
  | groupRead hcmd hpay hid hg hhook =>
    have hok := h.of_groupAt hid hg
    have hsize := h.group_size_le hok
    refine sendable_reply (by decide) (hok.valuesOf_length _).symm ?_
    rw [hok.valuesOf_length]
    simp only [bsmpMaxVariables, bsmpVarMaxSize, bsmpHeaderSize, bsmpMaxPayload] at hsize ⊢
    omega
  | groupWrite => split <;> exact sendable_answer _
  | groupBinOp => exact sendable_answer _
  | groupAbandoned => exact sendable_answer _
  | groupCreated => exact sendable_answer _
  | groupsRemoved => exact sendable_answer _
  | blockBusy => exact sendable_answer _
  | blockRead hcmd hpay hp hoff hread =>
    have hmem := List.mem_of_getElem? hp
    have hlen := callReadBlock_length hr hmem hread
    have hmax := (curveCheck_success (h.curves.checked _ hmem)).2.1
    simp only [bsmpCurveBlockMaxSize] at hmax
    refine sendable_reply (by decide) ?_ ?_
    · rw [UInt16.toNat_add, UInt16.toNat_ofNat', UInt16.toNat_ofNat']
      simp only [List.length_cons, bsmpCurveBlockInfo]
      omega
    · simp only [List.length_cons, bsmpHeaderSize, bsmpMaxPayload]; omega
  | blockWriteBusy => exact sendable_answer _
  | blockWritten => exact sendable_answer _
  | customCsum => split <;> first | exact sendable_checksum _ | exact sendable_answer _
  | csumBusy => exact sendable_answer _
  | csumComputed => exact sendable_checksum _
  | executed hcmd hpay hp hlen hfunc hcall =>
    have hout := (funcCheck_success (h.funcs.checked _ (List.mem_of_getElem? hp))).2.2
    simp only [bsmpFuncMaxOutput] at hout
    split
    · exact sendable_reply (by decide) rfl (by simp)
    · refine sendable_reply (by decide) (by simp) ?_
      rw [outputArea_length]
      simp only [bsmpHeaderSize, bsmpMaxPayload]
      omega

/-- A code that may answer the command code `cmd`. -/
def Admits (cmd code : UInt8) : Prop :=
  isErrorByte code = true ∨ ∃ c d : CommandCode, cmd = c.toByte ∧ d ∈ c.answers ∧ code = d.toByte

theorem Admits.answer {cmd : UInt8} {c d : CommandCode} (hcmd : cmd = c.toByte) (hd : d ∈ c.answers) :
    Admits cmd d.toByte := .inr ⟨c, d, hcmd, hd, rfl⟩

theorem Outcome.code (ho : Outcome md5 area s m s' a) : Admits m.commandCode a.commandCode := by
  cases ho with
  | rejected hc => exact .inl hc
  | queried bytes hcmd hc => exact .answer hcmd hc
  | varRead hcmd => exact .answer hcmd (List.mem_singleton.mpr rfl)
  | varWrite hcmd => exact .answer hcmd (List.mem_singleton.mpr rfl)
  | varWriteRead hcmd => exact .answer hcmd (List.mem_singleton.mpr rfl)
  | varBinOp hcmd => exact .answer hcmd (List.mem_singleton.mpr rfl)
  | groupRead hcmd => exact .answer hcmd (List.mem_singleton.mpr rfl)
  | groupWrite hcmd =>
    split
    · exact .inl rfl
    · exact .answer hcmd (List.mem_singleton.mpr rfl)
  | groupBinOp hcmd => exact .answer hcmd (List.mem_singleton.mpr rfl)
  | groupAbandoned => exact .inl rfl
  | groupCreated hcmd => exact .answer hcmd (List.mem_singleton.mpr rfl)
  | groupsRemoved hcmd => exact .answer hcmd (List.mem_singleton.mpr rfl)
  | blockBusy => exact .inl rfl
  | blockRead hcmd => exact .answer hcmd (List.mem_singleton.mpr rfl)
  | blockWriteBusy => exact .inl rfl
  | blockWritten hcmd => exact .answer hcmd (List.mem_singleton.mpr rfl)
  | customCsum hcmd =>
    split
    · exact .answer hcmd (List.mem_singleton.mpr rfl)
    · exact .inl rfl
  | csumBusy => exact .inl rfl
  | csumComputed hcmd => exact .answer hcmd (List.mem_singleton.mpr rfl)
  | executed hcmd =>
    split
    · exact .answer hcmd (d := .funcError) (by simp [CommandCode.answers])
    · exact .answer hcmd (d := .funcReturn) (by simp [CommandCode.answers])

theorem Message.Sendable.toPacket_len (h : a.Sendable) :
    a.toPacket.len.toNat = a.payloadSize.toNat + bsmpHeaderSize := by
  have hfits := h.fits
  simp only [bsmpHeaderSize, bsmpMaxPayload] at hfits
  rw [Message.toPacket, UInt16.toNat_add, UInt16.toNat_ofNat']
  simp only [bsmpHeaderSize]
  omega

/-- **Every answer is a well-formed message.** On any packet the server stays
within its lists, the payload received and the hook's list, and what it puts
in the response is a code, the number of payload bytes in two bytes, and that
many bytes; `response->len` is three more, the code answers the command, and
an error has no payload. -/
theorem bsmpProcessPacket_wellFormed (hs : Reachable md5 s) (hr : RespectsSizes s) (req : Request)
    (area : Nat → UInt8) :
    ∃ s' response code size payload, bsmpProcessPacket md5 s req area = .ok (s', response) ∧
      response.data = code :: beBytes size ++ payload ∧
      size.toNat = payload.length ∧
      response.len.toNat = size.toNat + bsmpHeaderSize ∧
      response.len.toNat = response.data.length ∧
      Admits req.message.commandCode code ∧
      (isErrorByte code = true → payload = []) := by
  obtain ⟨s', a, hp, ho, -⟩ := bsmpProcessPacket_outcome md5 hs.repInv req area
  have hsend := ho.sendable (hs.repInv.same (clearModified_same s)) ⟨hr.readBlock, hr.func⟩
  have hlen := hsend.toPacket_len
  refine ⟨s', a.toPacket, a.commandCode, a.payloadSize, a.payload, hp, rfl, hsend.whole.symm, hlen, ?_,
    ho.code, hsend.error⟩
  rw [hlen, ← hsend.whole]
  simp [Message.toPacket, beBytes]

theorem plant_respectsSizes : RespectsSizes plant where
  readBlock := by
    intro p hp f hf block w
    have hp' : p = 0 := by simpa [show plant.server.curves = [0] from rfl] using hp
    subst hp'
    cases hf
    exact List.length_take_le _ _
  func := by
    intro p hp f hf input w
    have hp' : p = 0 := by simpa [show plant.server.funcs = [0] from rfl] using hp
    subst hp'
    cases hf
    exact List.length_take_le _ _

/-- A block of the plant's curve is asked for. -/
theorem bsmpProcessPacket_wellFormed_blockRequest :
    ∃ s' response code size payload,
      bsmpProcessPacket byteSum plant (request CommandCode.curveBlockRequest.toByte [0, 0, 1]) (fun _ => 0) =
        .ok (s', response) ∧
      response.data = code :: beBytes size ++ payload ∧
      size.toNat = payload.length ∧
      response.len.toNat = size.toNat + bsmpHeaderSize ∧
      response.len.toNat = response.data.length ∧
      Admits (request CommandCode.curveBlockRequest.toByte [0, 0, 1]).message.commandCode code ∧
      (isErrorByte code = true → payload = []) :=
  bsmpProcessPacket_wellFormed plant_reachable plant_respectsSizes _ _

end UdcFirmware.Bsmp
