/-
The checkers of variables. `CMD_VAR_WRITE`, `CMD_VAR_WRITE_READ` and
`CMD_GROUP_WRITE` store a value only when the checker accepts it, each member
of a group against its own slice. `CMD_VAR_BIN_OP` and `CMD_GROUP_BIN_OP` do
not ask the checker, so a checked variable stays valid exactly as long as the
operations carried out on it happen to produce values it accepts.
-/
import UdcFirmware.Bsmp.Atomicity
import UdcFirmware.Bsmp.Protection

namespace UdcFirmware.Bsmp

open ByteMem Checked

variable {σ : Type} {md5 : Md5} {area : Nat → UInt8} {s s' : System σ} {m a : Message}

/-! ## Checked variables -/

/-- A packet as long as its header says. -/
def Request.Sized (req : Request) : Prop :=
  req.packet.len.toNat = req.message.payloadSize.toNat + bsmpHeaderSize

/-- The binary operation that the server carries out on `p` for this request,
if any, leaves a value that `ok` accepts. -/
structure BinOpsValid (s : System σ) (p : Ptr) (ok : List UInt8 → Bool) (m : Message) : Prop where
  var : ∀ id operation mask op, m.commandCode = CommandCode.varBinOp.toByte →
    m.payload = id :: operation :: mask → s.server.vars[id.toNat]? = some p → binOp operation = some op →
    mask.length = (s.objs.var p).info.size.toNat → (s.objs.var p).info.writable = true →
    ok ((s.objs.var p).combine op s.world.mem mask) = true
  group : ∀ id operation masks g op, m.commandCode = CommandCode.groupBinOp.toByte →
    m.payload = id :: operation :: masks → id.toNat < s.server.groups.count →
    s.server.groups.at id.toNat = .ok g → p ∈ g.vars → binOp operation = some op →
    masks.length = g.size.toNat → g.writable = true →
    ok ((s.objs.var p).combine op s.world.mem (sliceOf s.objs g.vars p masks)) = true

/-- No other variable that the request writes shares memory with `p`. -/
def Unshared (s : System σ) (p : Ptr) (m : Message) : Prop :=
  ∀ q ∈ addressed s m, q ≠ p → (s.objs.var q).info.writable = true →
    (s.objs.var p).region.Apart (s.objs.var q).region

/-- What a request writes leaves a checked variable valid. -/
theorem Wrote.valid (h : RepInv s) {mem : Mem UInt8} (hw : Wrote s m mem) {p : Ptr}
    {ok : List UInt8 → Bool} (hcheck : (s.objs.var p).valueOk = some fun _ value => ok value)
    (hvalid : ok ((s.objs.var p).bytes s.world.mem) = true) (hshare : Unshared s p m)
    (hbin : BinOpsValid s p ok m) : ok ((s.objs.var p).bytes mem) = true := by
  by_cases hp : p ∈ addressed s m
  · cases hw with
    | nothing => exact hvalid
    | @value q value ha hlen hwr hok =>
      obtain rfl : p = q := by simpa [ha] using hp
      rw [Var.bytes_put _ _ hlen]
      simpa [Var.accepts, hcheck] using hok
    | @combined id operation mask q op hcmd hpay hq hop hlen hwr =>
      obtain rfl : p = q := by simpa [addressed_var (.inr (.inr hcmd)) hpay hq] using hp
      rw [Var.bytes_put _ _ (Var.combine_length _ _ _ hlen)]
      exact hbin.var id operation mask op hcmd hpay hq hop hlen hwr
    | @values id values g ha hid hg hlen hwr =>
      have hok := h.of_groupAt hid hg
      have hpg : p ∈ g.vars := by rw [ha] at hp; exact hp
      obtain ⟨w', hw'⟩ := writeMembers_bytes s.world false
        (h.vars.nodup.sublist hok.members) hpg
        (fun q hq hne => hshare q (by rw [ha]; exact hq) hne (hok.member_writable hwr q hq))
        (hlen.trans hok.sums.size)
      rw [hw']
      split
      · next hacc => simpa [Var.accepts, hcheck] using hacc
      · exact hvalid
    | @combinedAll id operation masks g op hcmd hpay hid hg hop hlen hwr =>
      have hok := h.of_groupAt hid hg
      have ha := addressed_group (.inr hcmd) hpay hid hg
      have hpg : p ∈ g.vars := by rw [ha] at hp; exact hp
      rw [binOpMembers_bytes _ (h.vars.nodup.sublist hok.members) hpg
        (fun q hq hne => hshare q (by rw [ha]; exact hq) hne (hok.member_writable hwr q hq))
        (hlen.trans hok.sums.size)]
      exact hbin.group id operation masks g op hcmd hpay hid hg hpg hop hlen hwr
  · have hagree := hw.agree h (r := (s.objs.var p).region) fun q hq hwr =>
      hshare q hq (fun he => hp (he ▸ hq)) hwr
    rw [show (s.objs.var p).bytes mem = (s.objs.var p).bytes s.world.mem from hagree.load]
    exact hvalid

/-- What a request must meet for `p` to stay valid. -/
def KeepsValid (p : Ptr) (ok : List UInt8 → Bool) (s : System σ) : Event σ → Prop
  | .processPacket req _ => req.Sized → BinOpsValid s p ok req.message ∧ Unshared s p req.message
  | _ => True

theorem respond_unsized {req : Request} (h : ¬ req.Sized) :
    respond md5 s req area = .ok (s.clearModified, answer .errMalformedMessage) :=
  if_pos (.inr h)

theorem step_valid (hs : Reachable md5 s) {p : Ptr} {ok : List UInt8 → Bool}
    (hcheck : (s.objs.var p).valueOk = some fun _ value => ok value)
    (hvalid : ok ((s.objs.var p).bytes s.world.mem) = true) (hcb : CallbacksSpare s (s.objs.var p).region)
    {req : Request} (hmeets : KeepsValid p ok s (.processPacket req area)) :
    ∃ s', step md5 s (.processPacket req area) = .ok s' ∧ SameApplication s s' ∧
      ok ((s'.objs.var p).bytes s'.world.mem) = true := by
  obtain ⟨⟨s', a⟩, hresp, ho⟩ := respond_outcome md5 hs.repInv req area
  have hsame : SameApplication s s' := (clearModified_same s).application.trans ho.sameApplication
  refine ⟨s', by simp only [step, bsmpProcessPacket, hresp, ok_bind]; rfl, hsame, ?_⟩
  by_cases hsized : req.Sized
  · obtain ⟨hbin, hshare⟩ := hmeets hsized
    obtain ⟨mem, hwrote, hcalls⟩ := ho.wrote
    have hmem := hwrote.valid (hs.repInv.same (clearModified_same s)) hcheck hvalid hshare
      ⟨hbin.var, hbin.group⟩
    have hagree := hcalls (s.objs.var p).region (hcb.same (clearModified_same s).application)
    rw [hsame.var, show (s.objs.var p).bytes s'.world.mem = (s.objs.var p).bytes mem from hagree.load]
    exact hmem
  · rw [respond_unsized hsized] at hresp
    cases hresp
    exact hvalid

/-- **The validator invariant, as far as it goes.** No callback writing the
variable, a checked variable stays valid in every run in which each binary
operation carried out on it leaves a value its checker accepts, and nothing
else that shares its memory is written. -/
theorem serve_valid (hs : Reachable md5 s) {p : Ptr} (ok : List UInt8 → Bool)
    (hcheck : (s.objs.var p).valueOk = some fun _ value => ok value)
    (hvalid : ok ((s.objs.var p).bytes s.world.mem) = true) (hcb : CallbacksSpare s (s.objs.var p).region)
    (reqs : Requests)
    (hmeets : Runs.Along (step md5) (KeepsValid p ok) s (reqs.map fun r => .processPacket r.1 r.2)) :
    ∃ s', serve md5 s reqs = .ok s' ∧ ok ((s'.objs.var p).bytes s'.world.mem) = true := by
  have hstep : ∀ t (r : Request × (Nat → UInt8)),
      (Reachable md5 t ∧ SameApplication s t ∧ ok ((t.objs.var p).bytes t.world.mem) = true) →
      KeepsValid p ok t (.processPacket r.1 r.2) → ∃ t', step md5 t (.processPacket r.1 r.2) = .ok t' ∧
        (Reachable md5 t' ∧ SameApplication s t' ∧ ok ((t'.objs.var p).bytes t'.world.mem) = true) := by
    rintro t r ⟨ht, hsame, hvalid⟩ hmeets
    obtain ⟨t', hstep, hsame', hvalid'⟩ := step_valid ht (by rw [hsame.var]; exact hcheck) hvalid
      (by rw [hsame.var]; exact hcb.same hsame) hmeets
    exact ⟨t', hstep, ht.step hstep, hsame.trans hsame', hvalid'⟩
  obtain ⟨s', hrun, -, -, hvalid'⟩ := Runs.run_along hstep reqs ⟨hs, .refl s, hvalid⟩ (Runs.along_map hmeets)
  refine ⟨s', ?_, hvalid'⟩
  rw [serve, Runs.run_map]
  exact hrun

theorem guarded_spare (r : Region) : CallbacksSpare guarded r := .of_none rfl rfl rfl rfl r

/-- The checker of the second byte admits what is below ten; an operation, on
the variable or on its group, makes it 255. -/
theorem binOp_unchecked :
    Reachable byteSum guarded ∧ (∀ r, CallbacksSpare guarded r) ∧ 1 ∈ guarded.server.vars ∧
      (guarded.objs.var 1).valueOk = (some fun _ value => value.all (· < 10)) ∧
      (guarded.objs.var 1).bytes guarded.world.mem = [0] ∧
      (∃ s', serve byteSum guarded [(request CommandCode.varBinOp.toByte [1, 0x4F, 255], fun _ => 0)] =
        .ok s' ∧
        (s'.objs.var 1).bytes s'.world.mem = [255]) ∧
      (∃ s', serve byteSum guarded
        [(request CommandCode.groupBinOp.toByte [0, 0x4F, 0, 255], fun _ => 0)] = .ok s' ∧
        (s'.objs.var 1).bytes s'.world.mem = [255]) :=
  ⟨guarded_reachable, guarded_spare, by decide, rfl, rfl, ⟨_, rfl, rfl⟩, _, rfl, rfl⟩

theorem guarded_keepsValid :
    KeepsValid 1 (fun value => value.all (· < 10)) guarded
      (.processPacket (request CommandCode.varBinOp.toByte [1, 0x4F, 5]) fun _ => 0) := by
  intro _
  refine ⟨⟨?_, ?_⟩, ?_⟩
  · intro id operation mask op _ hpay _ hop _ _
    obtain ⟨rfl, rfl, rfl⟩ : id = 1 ∧ operation = 0x4F ∧ mask = [5] := by
      have : [1, 0x4F, 5] = id :: operation :: mask := hpay
      simpa [eq_comm] using this
    cases hop
    decide
  · intro id operation masks g op hcmd
    exact absurd hcmd (by decide)
  · intro q hq hne _
    have hq' : q = 1 := by
      have : q ∈ [1] := hq
      simpa using this
    exact absurd hq' hne

theorem serve_valid_guarded :
    ∃ s', serve byteSum guarded [(request CommandCode.varBinOp.toByte [1, 0x4F, 5], fun _ => 0)] = .ok s' ∧
      ((s'.objs.var 1).bytes s'.world.mem).all (· < 10) = true :=
  serve_valid guarded_reachable (fun value => value.all (· < 10)) rfl rfl (guarded_spare _) _
    ⟨guarded_keepsValid, fun _ _ => trivial⟩

end UdcFirmware.Bsmp
