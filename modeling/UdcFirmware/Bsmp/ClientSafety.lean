/-
What the client makes of a peer it cannot trust.

`command` takes any response of two bytes: it does not compare the payload
size that the header declares with the size received, and it copies as many
payload bytes as the whole message has. So no response is ever taken the way
it should be (`Exchange.Sound`), and a session goes well exactly when no call
of it takes a response at all (`robust_iff`).
-/
import UdcFirmware.Bsmp.Operations

namespace UdcFirmware.Bsmp

open Checked Stateful

variable {τ α β : Type} {comm : Comm τ} {s s' : Session τ}

/-! ## What should hold -/

/-- A response taken whole: a header at least, as long as it says, and exactly
the payload copied. -/
structure Exchange.Sound (e : Exchange) : Prop where
  header : bsmpHeaderSize ≤ e.size
  declared : e.declared + bsmpHeaderSize = e.size
  copied : e.copied = e.declared

/-- The lists fit, and groups consist of known variables. -/
structure Client.Sound (c : Client) : Prop where
  vars : c.vars.length ≤ bsmpMaxVariables
  groups : c.groups.length ≤ bsmpMaxGroups
  curves : c.curves.length ≤ bsmpMaxCurves
  funcs : c.funcs.length ≤ bsmpMaxFunctions
  members : ∀ grp ∈ c.groups, ∀ i ∈ grp.list, i < c.vars.length

theorem Client.Sound.zeroLists (c : Client) : c.zeroLists.Sound where
  vars := Nat.zero_le _
  groups := Nat.zero_le _
  curves := Nat.zero_le _
  funcs := Nat.zero_le _
  members := by simp [Client.zeroLists]

/-- The call returns `err`, with enough fuel, and leaves `s'`. -/
def Ran (comm : Comm τ) (s : Session τ) (call : ClientCall) (err : BsmpErr) (s' : Session τ) : Prop :=
  ∃ fuel, call.run comm fuel s = .ok (err, s')

/-- Every call of the session returns within its buffers and lists, after
taking responses soundly, and leaves a sound client. -/
def Robust (comm : Comm τ) : Session τ → List ClientCall → Prop
  | _, [] => True
  | s, call :: calls => ∃ err s', Ran comm s call err s' ∧ (∀ e ∈ s'.log, e.Sound) ∧ s'.client.Sound ∧
      Robust comm s' calls

/-! ## When it does -/

/-- The request is sent, and answered by two bytes at least. -/
def Comm.answers (comm : Comm τ) (cmd : CommandCode) (payload : List UInt8) (chan : τ) : Bool :=
  match comm.send (sendBuf cmd payload) chan with
  | (false, _) => false
  | (true, chan) =>
    match comm.recv chan with
    | (none, _) => false
    | (some recvBuf, _) => 2 ≤ recvBuf.size

/-- The request of an operation, if its arguments are accepted. -/
def Operation.first (op : Operation) (c : Client) : Except Fault (Option (CommandCode × List UInt8)) := do
  match ← op.prepare c with
  | .error _ => return none
  | .ok payload => return some (op.cmd, payload)

/-- The first request of a call, if it makes any. -/
def ClientCall.first (c : Client) : ClientCall → Except Fault (Option (CommandCode × List UInt8))
  | init => .ok (some (.queryVersion, []))
  | operation op => op.first c
  | readCurve curve buf len =>
    match c.curve? curve, buf, len with
    | some info, some buf, some _ =>
      if info.nblocks.toNat = 0 then .ok none
      else (Operation.requestCurveBlock curve 0 (some buf) (some 0)).first c
    | _, _, _ => .ok none
  | writeCurve curve buf len =>
    match c.curve? curve, buf with
    | some info, some buf =>
      if info.nblocks.toNat = 0 then .ok none
      else (Operation.sendCurveBlock curve 0 (some buf) (blockLength len info.blockSize)).first c
    | _, _ => .ok none

/-- Nothing is sent, or a request, made within the buffers, is not answered. -/
def Unanswered (comm : Comm τ) (chan : τ) : Except Fault (Option (CommandCode × List UInt8)) → Prop
  | .error _ => False
  | .ok none => True
  | .ok (some (cmd, payload)) => comm.answers cmd payload chan = false

def Quiet (comm : Comm τ) (s : Session τ) (call : ClientCall) : Prop :=
  Unanswered comm s.chan (call.first s.client)

/-- Every call of the session is quiet in the state it finds. -/
def AllQuiet (comm : Comm τ) : Session τ → List ClientCall → Prop
  | _, [] => True
  | s, call :: calls => Quiet comm s call ∧ ∀ err s', Ran comm s call err s' → AllQuiet comm s' calls

/-! ## Responses are taken, never given back -/

/-- More has been taken. -/
def Grown (s s' : Session τ) : Prop := s.log <+: s'.log

theorem Grown.refl (s : Session τ) : Grown s s := List.prefix_refl _

theorem Grown.trans (s₁ s₂ s₃ : Session τ) (h : Grown s₁ s₂) (h' : Grown s₂ s₃) : Grown s₁ s₃ :=
  List.IsPrefix.trans h h'

/-- Wherever the program ends, nothing has been dropped from the log. -/
def Grows (x : Action τ α) : Prop := Moves Grown x

theorem Grows.pure (a : α) : Grows (pure a : Action τ α) := Moves.pure Grown.refl a

theorem Grows.lift (x : Except Fault α) : Grows (liftM x : Action τ α) := Moves.lift Grown.refl x

theorem Grows.get : Grows (get : Action τ (Session τ)) := Moves.get Grown.refl

theorem Grows.modify {g : Session τ → Session τ} (h : ∀ s, (g s).log = s.log) :
    Grows (modify g : Action τ PUnit) :=
  Moves.modify fun s => ⟨[], by rw [List.append_nil, h]⟩

theorem Grows.bind {x : Action τ α} {f : α → Action τ β} (hx : Grows x) (hf : ∀ a, Grows (f a)) :
    Grows (x >>= f) := Moves.bind Grown.trans hx hf

theorem Grows.ite {c : Prop} [Decidable c] {x y : Action τ α} (hx : Grows x) (hy : Grows y) :
    Grows (if c then x else y) := Moves.ite hx hy

theorem Grows.mapM {f : β → Action τ α} (hf : ∀ b, Grows (f b)) (l : List β) : Grows (l.mapM f) :=
  Moves.mapM Grown.refl Grown.trans hf l

/-- What `command` comes down to: nothing taken, or a response logged. -/
theorem command_cases {cmd : CommandCode} {payload : List UInt8} {r : Option Response}
    (h : Session.command comm cmd payload s = .ok (r, s')) :
    (comm.answers cmd payload s.chan = false ∧ r = none ∧ s'.client = s.client ∧ s'.log = s.log) ∨
    (comm.answers cmd payload s.chan = true ∧ ∃ response size, r = some response ∧ s'.client = s.client ∧
      s'.log = s.log ++ [⟨size, response.payloadSize.toNat, size⟩]) := by
  unfold Session.command at h
  unfold Comm.answers
  rcases hsend : comm.send (sendBuf cmd payload) s.chan with ⟨sent, chan⟩
  cases sent with
  | false =>
    simp only [hsend] at h ⊢
    cases h
    simp
  | true =>
    rcases hrecv : comm.recv chan with ⟨recvBuf, chan'⟩
    cases recvBuf with
    | none =>
      simp only [hsend, hrecv] at h ⊢
      cases h
      simp
    | some recvBuf =>
      simp only [hsend, hrecv] at h ⊢
      split at h
      · next hshort =>
        cases h
        exact .inl ⟨decide_eq_false (Nat.not_le_of_lt hshort), rfl, rfl, rfl⟩
      next hshort =>
      split at h
      · cases h
        exact .inr ⟨decide_eq_true (Nat.le_of_not_lt hshort), _, _, rfl, rfl, rfl⟩
      · cases h

/-- An unanswered request only moves the channel. -/
theorem command_quiet {cmd : CommandCode} {payload : List UInt8}
    (h : comm.answers cmd payload s.chan = false) :
    ∃ chan, Session.command comm cmd payload s = .ok (none, { s with chan }) := by
  unfold Comm.answers at h
  unfold Session.command
  rcases hsend : comm.send (sendBuf cmd payload) s.chan with ⟨sent, chan⟩
  cases sent with
  | false => exact ⟨chan, rfl⟩
  | true =>
    rcases hrecv : comm.recv chan with ⟨recvBuf, chan'⟩
    cases recvBuf with
    | none => exact ⟨chan', by simp only [hrecv]⟩
    | some recvBuf =>
      simp only [hsend, hrecv] at h
      have hshort : recvBuf.size < 2 := Nat.lt_of_not_le (of_decide_eq_false h)
      exact ⟨chan', by simp only [hrecv, hshort, if_true]⟩

theorem command_grows (cmd : CommandCode) (payload : List UInt8) :
    Grows (Session.command comm cmd payload) := by
  intro s r s' h
  rcases command_cases h with ⟨-, -, -, hlog⟩ | ⟨-, response, size, -, -, hlog⟩
  · exact ⟨[], by rw [List.append_nil, hlog]⟩
  · exact ⟨_, hlog.symm⟩

theorem expect_grows (cmd answer : CommandCode) (payload : List UInt8) :
    Grows (Session.expect comm cmd answer payload) := by
  refine .bind (command_grows cmd payload) fun r => ?_
  cases r with
  | none => exact .pure _
  | some response => exact .pure _

theorem updateVarsList_grows : Grows (updateVarsList comm) := by
  refine .bind (expect_grows _ _ _) fun r => ?_
  cases r with
  | none => exact .pure _
  | some response => exact .bind (.lift _) fun vars => .bind (.modify fun _ => rfl) fun _ => .pure _

theorem updateGroupsLoop_grows (response : Response) (n i : Nat) :
    Grows (updateGroupsLoop comm response n i) := by
  induction n generalizing i with
  | zero => exact .pure _
  | succ n ih =>
    refine .bind (.lift _) fun _ => .bind (expect_grows _ _ _) fun r => ?_
    cases r with
    | none => exact .pure _
    | some grpResponse =>
      refine .bind (.lift _) fun ids => .bind .get fun s => .bind (.lift _) fun grp => ?_
      refine .bind (ih (i + 1)) fun r => ?_
      cases r with
      | none => exact .pure _
      | some grps => exact .pure _

theorem updateGroupsList_grows : Grows (updateGroupsList comm) := by
  refine .bind (expect_grows _ _ _) fun r => ?_
  cases r with
  | none => exact .pure _
  | some response =>
    refine .bind (updateGroupsLoop_grows response _ _) fun r => ?_
    cases r with
    | none => exact .bind (.modify fun _ => rfl) fun _ => .pure _
    | some groups => exact .bind (.modify fun _ => rfl) fun _ => .pure _

theorem updateCurvesList_grows : Grows (updateCurvesList comm) := by
  refine .bind (expect_grows _ _ _) fun r => ?_
  cases r with
  | none => exact .pure _
  | some response =>
    refine .bind (.mapM (fun i => ?_) _) fun curves => .bind (.modify fun _ => rfl) fun _ => .pure _
    refine .bind (.lift _) fun curve => .bind (expect_grows _ _ _) fun r => ?_
    cases r with
    | none => exact .pure _
    | some responseCsum => exact .pure _

theorem updateFuncsList_grows : Grows (updateFuncsList comm) := by
  refine .bind (expect_grows _ _ _) fun r => ?_
  cases r with
  | none => exact .pure _
  | some response => exact .bind (.lift _) fun funcs => .bind (.modify fun _ => rfl) fun _ => .pure _

theorem andThen_grows {first second : Action τ BsmpErr} (h₁ : Grows first) (h₂ : Grows second) :
    Grows (andThen first second) :=
  .bind h₁ fun _ => .ite (.pure _) h₂

theorem operate_grows (cmd : CommandCode) (prepare : Client → Prepared) (out : α)
    (finish : Client → Response → Except Fault (BsmpErr × α)) :
    Grows (operate comm cmd prepare out finish) := by
  refine .bind .get fun s => .bind (.lift _) fun r => ?_
  cases r with
  | error err => exact .pure _
  | ok payload =>
    refine .bind (command_grows cmd payload) fun r => ?_
    cases r with
    | none => exact .pure _
    | some response => exact .lift _

theorem readCurveLoop_grows (curve : Nat) (info : CurveInfo) (fuel : Nat) (blk : UInt16) (bufp : Nat)
    (buf : List UInt8) (len : UInt32) : Grows (readCurveLoop comm curve info fuel blk bufp buf len) := by
  induction fuel generalizing blk bufp buf len with
  | zero =>
    intro s r s' h
    cases h
  | succ fuel ih =>
    refine .ite (.bind (operate_grows _ _ _ _) fun r => ?_) (.pure _)
    exact .ite (.pure _) (.ite (.pure _) (ih _ _ _ _))

theorem writeCurveLoop_grows (curve : Nat) (info : CurveInfo) (fuel : Nat) (blk : UInt16) (buf : List UInt8)
    (len : UInt32) : Grows (writeCurveLoop comm curve info fuel blk buf len) := by
  induction fuel generalizing blk buf len with
  | zero =>
    intro s r s' h
    cases h
  | succ fuel ih =>
    refine .ite (.bind (operate_grows _ _ _ _) fun r => ?_) (.pure _)
    exact .ite (.pure _) (ih _ _ _)

/-! ## Once a response is taken -/

/-- A response has been taken that should not have been. -/
def Tainted (s : Session τ) : Prop := ∃ e ∈ s.log, ¬ e.Sound

theorem Tainted.grown (h : Tainted s) (hg : Grown s s') : Tainted s' := by
  obtain ⟨e, he, hs⟩ := h
  exact ⟨e, hg.subset he, hs⟩

/-- Wherever the program ends when started in `s`, such a response was taken. -/
def Taints (x : Action τ α) (s : Session τ) : Prop := ∀ a s', x s = .ok (a, s') → Tainted s'

theorem Taints.bind {x : Action τ α} {f : α → Action τ β} (hx : Taints x s) (hf : ∀ a, Grows (f a)) :
    Taints (x >>= f) s := by
  intro b s' h
  obtain ⟨a, s₁, h₁, h₂⟩ := Stateful.bind_ok_iff.mp h
  exact (hx a s₁ h₁).grown (hf a s₁ b s' h₂)

theorem Taints.map {x : Action τ α} {f : α → β} (hx : Taints x s) : Taints (f <$> x) s := by
  rw [map_eq_pure_bind]
  exact hx.bind fun a => .pure (f a)

theorem Taints.of_error {x : Action τ α} {f : Fault} (h : x s = .error f) : Taints x s := by
  intro a s' ha
  cases h.symm.trans ha

/-- As many bytes as the message are never as many as its payload. -/
theorem not_sound_of_copied (size declared : Nat) : ¬ (⟨size, declared, size⟩ : Exchange).Sound := by
  rintro ⟨-, hdeclared, hcopied⟩
  simp only [bsmpHeaderSize] at hdeclared hcopied
  omega

theorem command_taints {cmd : CommandCode} {payload : List UInt8}
    (h : comm.answers cmd payload s.chan = true) : Taints (Session.command comm cmd payload) s := by
  intro r s' hr
  rcases command_cases hr with ⟨hn, -, -, -⟩ | ⟨-, response, size, -, -, hlog⟩
  · rw [hn] at h
    cases h
  · exact ⟨_, by rw [hlog]; exact List.mem_append_right _ (List.mem_singleton.mpr rfl),
    not_sound_of_copied _ _⟩

/-! ## One operation -/

section Operate

variable {cmd : CommandCode} {prepare : Client → Prepared} {out : α}
  {finish : Client → Response → Except Fault (BsmpErr × α)}

theorem operate_fault {f : Fault} (h : prepare s.client = .error f) :
    operate comm cmd prepare out finish s = .error f := by
  rw [operate, get_bind, lift_bind, h]
  rfl

theorem operate_reject {err : BsmpErr} (h : prepare s.client = .ok (.error err)) :
    operate comm cmd prepare out finish s = .ok ((err, out), s) := by
  rw [operate, get_bind, lift_bind, h]
  rfl

theorem operate_send {payload : List UInt8} (h : prepare s.client = .ok (.ok payload)) :
    operate comm cmd prepare out finish s =
      (Session.command comm cmd payload >>= fun r =>
        match r with
        | none => pure (.comm, out)
        | some response => liftM (finish s.client response)) s := by
  rw [operate, get_bind, lift_bind, h, ok_bind]
  refine congrArg (fun f => (Session.command comm cmd payload >>= f) s) (funext fun r => ?_)
  cases r <;> rfl

end Operate

theorem Operation.first_eq (op : Operation) (c : Client) :
    op.first c =
      match op.prepare c with
      | .error f => .error f
      | .ok (.error _) => .ok none
      | .ok (.ok payload) => .ok (some (op.cmd, payload)) := by
  unfold Operation.first
  cases op.prepare c with
  | error f => rfl
  | ok r => cases r <;> rfl

/-- A request that is refused is refused with an error. -/
def Refuses (p : Prepared) : Prop := ∀ err, p = .ok (.error err) → err ≠ .success

theorem refuses_reject {err : BsmpErr} (h : err ≠ .success) : Refuses (reject err) := by
  intro err' h'
  cases h'
  exact h

theorem refuses_packed (payload : List UInt8) : Refuses (packed payload) := by
  intro err h
  unfold packed at h
  split at h <;> cases h

theorem refuses_fetch {buf : List UInt8} {n : Nat} {f : List UInt8 → Prepared}
    (hf : ∀ data, Refuses (f data)) :
    Refuses (fetch buf n >>= f) := by
  intro err h
  obtain ⟨data, -, h⟩ := Checked.bind_ok_iff.mp h
  exact hf data err h

theorem createGroupLoop_refuses (c : Client) (list : List Nat) (payload : List UInt8) :
    Refuses (createGroupLoop c list payload) := by
  induction list generalizing payload with
  | nil =>
    unfold createGroupLoop
    split
    · exact refuses_reject (by decide)
    · intro err h
      cases h
  | cons var list ih =>
    unfold createGroupLoop
    split
    · exact refuses_reject (by decide)
    · split
      · exact ih _
      · intro err h
        cases h

theorem Operation.prepare_refuses (op : Operation) (c : Client) : Refuses (op.prepare c) := by
  cases op with
  | createGroup list =>
    simp only [prepare, createGroupRequest]
    split
    · exact refuses_reject (by decide)
    · exact createGroupLoop_refuses c _ _
  | _ =>
    simp only [prepare, readVarRequest, writeVarRequest, writeReadVarsRequest, readGroupRequest,
      writeGroupRequest, binOpVarRequest, binOpGroupRequest, requestCurveBlockRequest,
      sendCurveBlockRequest, recalcChecksumRequest, funcExecuteRequest]
    repeat' split
    all_goals first
      | exact refuses_reject (by decide)
      | exact refuses_packed _
      | exact refuses_fetch fun _ => refuses_packed _

/-- An operation that is not answered fails, without effect on the client. -/
theorem operate_quiet {op : Operation} (out : α) (finish : Client → Response → Except Fault (BsmpErr × α))
    (h : Unanswered comm s.chan (op.first s.client)) :
    ∃ err chan, operate comm op.cmd op.prepare out finish s = .ok ((err, out), { s with chan }) ∧
      err ≠ .success := by
  rw [Operation.first_eq] at h
  split at h
  · cases h
  · next err hp => exact ⟨err, s.chan, operate_reject hp, op.prepare_refuses _ err hp⟩
  · next payload hp =>
    obtain ⟨chan, hc⟩ := command_quiet h
    refine ⟨.comm, chan, ?_, by decide⟩
    rw [operate_send hp, bind_of hc]
    rfl

/-- One that is answered takes a response it should not. -/
theorem operate_taints {op : Operation} (out : α) (finish : Client → Response → Except Fault (BsmpErr × α))
    (h : ¬ Unanswered comm s.chan (op.first s.client)) :
    Taints (operate comm op.cmd op.prepare out finish) s := by
  rw [Operation.first_eq] at h
  split at h
  · next f hp => exact .of_error (operate_fault hp)
  · exact absurd trivial h
  · next payload hp =>
    intro r s' hr
    rw [operate_send hp] at hr
    have ha : comm.answers op.cmd payload s.chan = true := by simpa [Unanswered] using h
    refine Taints.bind (command_taints ha) (fun r => ?_) r s' hr
    cases r with
    | none => exact .pure _
    | some response => exact .lift _

/-- An operation is one command, whose failure it returns, and whatever
follows success. -/
theorem Operation.run_eq (op : Operation) (comm : Comm τ) :
    ∃ (α : Type) (out : α) (finish : Client → Response → Except Fault (BsmpErr × α))
      (rest : BsmpErr × α → Action τ BsmpErr),
      op.run comm = operate comm op.cmd op.prepare out finish >>= rest ∧ (∀ r, Grows (rest r)) ∧
      ∀ r, r.1 ≠ .success → rest r = pure r.1 := by
  have hfollow : ∀ (act : Action τ (BsmpErr × Unit)) (update : Action τ BsmpErr),
      Prod.fst <$> followedBy act update =
        act >>= fun r => if r.1 ≠ .success then pure r.1 else update >>= fun _ => pure .success := by
    intro act update
    rw [followedBy, map_bind]
    congr 1
    funext r
    by_cases hr : r.1 ≠ .success
    · simp only [hr, if_true, map_pure, ne_eq, not_false_eq_true]
    · simp only [hr, if_false, map_bind, map_pure]
  have hrest : ∀ (update : Action τ BsmpErr), Grows update → ∀ r : BsmpErr × Unit,
      Grows (if r.1 ≠ .success then pure r.1 else update >>= fun _ => pure BsmpErr.success) := by
    intro update hu r
    exact .ite (.pure _) (.bind hu fun _ => .pure _)
  cases op with
  | createGroup list =>
    exact ⟨_, (), _, _, hfollow _ _, hrest _ updateGroupsList_grows, fun r hr => if_pos hr⟩
  | removeAllGroups =>
    exact ⟨_, (), _, _, hfollow _ _, hrest _ updateGroupsList_grows, fun r hr => if_pos hr⟩
  | recalcChecksum curve =>
    exact ⟨_, (), _, _, hfollow _ _, hrest _ updateCurvesList_grows, fun r hr => if_pos hr⟩
  | _ => exact ⟨_, _, _, _, map_eq_pure_bind _ _, fun r => .pure _, fun r _ => rfl⟩

/-! ## One call -/

theorem Operation.run_quiet {op : Operation} (h : Unanswered comm s.chan (op.first s.client)) :
    ∃ err chan, op.run comm s = .ok (err, { s with chan }) := by
  obtain ⟨α, out, finish, rest, hrun, -, hfail⟩ := op.run_eq comm
  obtain ⟨err, chan, hop, herr⟩ := operate_quiet out finish h
  refine ⟨err, chan, ?_⟩
  rw [hrun, bind_of hop, hfail (err, out) herr]
  rfl

theorem Operation.run_taints {op : Operation} (h : ¬ Unanswered comm s.chan (op.first s.client)) :
    Taints (op.run comm) s := by
  obtain ⟨α, out, finish, rest, hrun, hgrows, -⟩ := op.run_eq comm
  rw [hrun]
  exact .bind (operate_taints out finish h) hgrows

/-- Both curve calls check their arguments first. -/
theorem bsmpReadCurve_cases (comm : Comm τ) (s : Session τ) (curve : Option Nat) (buf : Option (List UInt8))
    (len : Option UInt32) :
    (∃ i info bytes, curve = some i ∧ s.client.curve? (some i) = some info ∧ buf = some bytes ∧ len.isSome ∧
      ∀ fuel, bsmpReadCurve comm fuel curve buf len s = readCurveLoop comm i info fuel 0 0 bytes 0 s) ∨
    (ClientCall.first s.client (.readCurve curve buf len) = .ok none ∧
      ∀ fuel, bsmpReadCurve comm fuel curve buf len s =
        .ok ((.paramInvalid, buf.getD [], len.getD 0), s)) := by
  unfold bsmpReadCurve
  cases curve with
  | none => exact .inr ⟨rfl, fun fuel => rfl⟩
  | some i =>
    cases hc : s.client.curve? (some i) with
    | none => exact .inr ⟨by simp only [ClientCall.first, hc], fun fuel => by rw [get_bind, hc]; rfl⟩
    | some info =>
      cases buf with
      | none => exact .inr ⟨by simp only [ClientCall.first, hc], fun fuel => by rw [get_bind, hc]; rfl⟩
      | some bytes =>
        cases len with
        | none => exact .inr ⟨by simp only [ClientCall.first, hc], fun fuel => by rw [get_bind, hc]; rfl⟩
        | some n => exact .inl ⟨i, info, bytes, rfl, hc, rfl, rfl, fun fuel => by rw [get_bind, hc]⟩

theorem bsmpWriteCurve_cases (comm : Comm τ) (s : Session τ) (curve : Option Nat) (buf : Option (List UInt8))
    (len : UInt32) :
    (∃ i info bytes, curve = some i ∧ s.client.curve? (some i) = some info ∧ buf = some bytes ∧
      ∀ fuel, bsmpWriteCurve comm fuel curve buf len s = writeCurveLoop comm i info fuel 0 bytes len s) ∨
    (ClientCall.first s.client (.writeCurve curve buf len) = .ok none ∧
      ∀ fuel, bsmpWriteCurve comm fuel curve buf len s = .ok ((.paramInvalid, ()), s)) := by
  unfold bsmpWriteCurve
  cases curve with
  | none => exact .inr ⟨rfl, fun fuel => rfl⟩
  | some i =>
    cases hc : s.client.curve? (some i) with
    | none => exact .inr ⟨by simp only [ClientCall.first, hc], fun fuel => by rw [get_bind, hc]; rfl⟩
    | some info =>
      cases buf with
      | none => exact .inr ⟨by simp only [ClientCall.first, hc], fun fuel => by rw [get_bind, hc]; rfl⟩
      | some bytes => exact .inl ⟨i, info, bytes, rfl, hc, rfl, fun fuel => by rw [get_bind, hc]⟩

theorem map_of {x : Action τ α} {f : α → β} {a : α} (h : x s = .ok (a, s')) :
    (f <$> x) s = .ok (f a, s') := by
  rw [map_eq_pure_bind, bind_of h]
  rfl

theorem readCurveLoop_done {i : Nat} {info : CurveInfo} {blk : UInt16} {bufp : Nat} {buf : List UInt8}
    {len : UInt32} (fuel : Nat) (h : ¬ blk.toNat < info.nblocks.toNat) :
    readCurveLoop comm i info (fuel + 1) blk bufp buf len s = .ok ((.success, buf, len), s) := by
  rw [readCurveLoop, if_neg h]
  rfl

theorem writeCurveLoop_done {i : Nat} {info : CurveInfo} {blk : UInt16} {buf : List UInt8} {len : UInt32}
    (fuel : Nat) (h : ¬ blk.toNat < info.nblocks.toNat) :
    writeCurveLoop comm i info (fuel + 1) blk buf len s = .ok ((.success, ()), s) := by
  rw [writeCurveLoop, if_neg h]
  rfl

theorem readCurveLoop_failed {i : Nat} {info : CurveInfo} {blk : UInt16} {bufp : Nat} {buf : List UInt8}
    {len : UInt32} {err : BsmpErr} {out : List UInt8 × UInt16} (fuel : Nat)
    (h : blk.toNat < info.nblocks.toNat)
    (hop : bsmpRequestCurveBlock comm (some i) blk (some (buf.drop bufp)) (some 0) s = .ok ((err, out), s'))
    (herr : err ≠ .success) :
    readCurveLoop comm i info (fuel + 1) blk bufp buf len s = .ok ((err, buf.take bufp ++ out.1, 0), s') := by
  rw [readCurveLoop, if_pos h, bind_of hop]
  exact congrFun (if_pos herr) s'

theorem writeCurveLoop_failed {i : Nat} {info : CurveInfo} {blk : UInt16} {buf : List UInt8} {len : UInt32}
    {err : BsmpErr} (fuel : Nat) (h : blk.toNat < info.nblocks.toNat)
    (hop : bsmpSendCurveBlock comm (some i) blk (some buf) (blockLength len info.blockSize) s =
      .ok ((err, ()), s'))
    (herr : err ≠ .success) :
    writeCurveLoop comm i info (fuel + 1) blk buf len s = .ok ((err, ()), s') := by
  rw [writeCurveLoop, if_pos h]
  refine (bind_of hop).trans ?_
  exact congrFun (if_pos herr) s'

/-- A quiet call returns, and leaves the lists as they were or empty. -/
theorem quiet_ran {call : ClientCall} (h : Quiet comm s call) :
    ∃ err s', (∀ fuel, call.run comm (fuel + 1) s = .ok (err, s')) ∧ s'.log = s.log ∧
      (s'.client = s.client ∨ s'.client = s.client.zeroLists) := by
  cases call with
  | init =>
    obtain ⟨chan, hc⟩ := command_quiet (s := { s with client := s.client.zeroLists }) h
    refine ⟨.comm, ⟨s.client.zeroLists, chan, s.log⟩, fun fuel => ?_, rfl, .inr rfl⟩
    show bsmpClientInit comm s = _
    rw [bsmpClientInit, modify_bind]
    have hv : getVersion comm { s with client := s.client.zeroLists } = _ := bind_of hc
    rw [andThen, bind_of hv]
    rfl
  | operation op =>
    have hop : Unanswered comm s.chan (op.first s.client) := h
    obtain ⟨err, chan, hrun⟩ := Operation.run_quiet hop
    exact ⟨err, _, fun fuel => hrun, rfl, .inl rfl⟩
  | readCurve curve buf len =>
    rcases bsmpReadCurve_cases comm s curve buf len with
      ⟨i, info, bytes, rfl, hc, rfl, hlen, hrun⟩ | ⟨-, hrun⟩
    · obtain ⟨n, rfl⟩ := Option.isSome_iff_exists.mp hlen
      simp only [Quiet, ClientCall.first, hc] at h
      by_cases hz : info.nblocks.toNat = 0
      · have hdone : ¬ (0 : UInt16).toNat < info.nblocks.toNat := by rw [hz]; decide
        exact ⟨.success, s, fun fuel => map_of ((hrun _).trans (readCurveLoop_done fuel hdone)), rfl,
          .inl rfl⟩
      · rw [if_neg hz] at h
        obtain ⟨err, chan, hop, herr⟩ := operate_quiet (α := List UInt8 × UInt16) _ _ h
        refine ⟨err, { s with chan }, fun fuel => ?_, rfl, .inl rfl⟩
        exact map_of ((hrun _).trans (readCurveLoop_failed fuel (Nat.pos_of_ne_zero hz) hop herr))
    · exact ⟨.paramInvalid, s, fun fuel => map_of (hrun _), rfl, .inl rfl⟩
  | writeCurve curve buf len =>
    rcases bsmpWriteCurve_cases comm s curve buf len with ⟨i, info, bytes, rfl, hc, rfl, hrun⟩ | ⟨-, hrun⟩
    · simp only [Quiet, ClientCall.first, hc] at h
      by_cases hz : info.nblocks.toNat = 0
      · have hdone : ¬ (0 : UInt16).toNat < info.nblocks.toNat := by rw [hz]; decide
        exact ⟨.success, s, fun fuel => map_of ((hrun _).trans (writeCurveLoop_done fuel hdone)), rfl,
          .inl rfl⟩
      · rw [if_neg hz] at h
        obtain ⟨err, chan, hop, herr⟩ := operate_quiet (α := Unit) _ _ h
        refine ⟨err, { s with chan }, fun fuel => ?_, rfl, .inl rfl⟩
        exact map_of ((hrun _).trans (writeCurveLoop_failed fuel (Nat.pos_of_ne_zero hz) hop herr))
    · exact ⟨.paramInvalid, s, fun fuel => map_of (hrun _), rfl, .inl rfl⟩

/-- A call that is not quiet takes a response it should not, if it returns. -/
theorem loud_taints {call : ClientCall} (h : ¬ Quiet comm s call) (fuel : Nat) :
    Taints (call.run comm fuel) s := by
  cases call with
  | init =>
    have ha : comm.answers .queryVersion [] s.chan = true := by
      simpa [Quiet, ClientCall.first, Unanswered] using h
    have hv : Taints (getVersion comm) { s with client := s.client.zeroLists } := by
      refine Taints.bind (command_taints ha) fun r => ?_
      cases r with
      | none => exact .pure _
      | some response => exact .bind (.modify fun _ => rfl) fun _ => .pure _
    intro err s' hr
    rw [ClientCall.run, bsmpClientInit, modify_bind] at hr
    refine Taints.bind hv (fun _ => .ite (.pure _) ?_) err s' hr
    exact andThen_grows updateVarsList_grows (andThen_grows updateGroupsList_grows
      (andThen_grows updateCurvesList_grows updateFuncsList_grows))
  | operation op => exact Operation.run_taints h
  | readCurve curve buf len =>
    rcases bsmpReadCurve_cases comm s curve buf len with
      ⟨i, info, bytes, rfl, hc, rfl, hlen, hrun⟩ | ⟨hnone, -⟩
    · obtain ⟨n, rfl⟩ := Option.isSome_iff_exists.mp hlen
      simp only [Quiet, ClientCall.first, hc] at h
      by_cases hz : info.nblocks.toNat = 0
      · rw [if_pos hz] at h
        exact absurd trivial h
      · rw [if_neg hz] at h
        refine .map ?_
        intro r s' hr
        rw [hrun] at hr
        cases fuel with
        | zero => cases hr
        | succ fuel =>
          rw [readCurveLoop, if_pos (show (0 : UInt16).toNat < _ from Nat.pos_of_ne_zero hz)] at hr
          refine Taints.bind (operate_taints _ _ h) (fun r => ?_) r s' hr
          exact .ite (.pure _) (.ite (.pure _) (readCurveLoop_grows i info fuel _ _ _ _))
    · rw [Quiet, hnone] at h
      exact absurd trivial h
  | writeCurve curve buf len =>
    rcases bsmpWriteCurve_cases comm s curve buf len with ⟨i, info, bytes, rfl, hc, rfl, hrun⟩ | ⟨hnone, -⟩
    · simp only [Quiet, ClientCall.first, hc] at h
      by_cases hz : info.nblocks.toNat = 0
      · rw [if_pos hz] at h
        exact absurd trivial h
      · rw [if_neg hz] at h
        refine .map ?_
        intro r s' hr
        rw [hrun] at hr
        cases fuel with
        | zero => cases hr
        | succ fuel =>
          rw [writeCurveLoop, if_pos (show (0 : UInt16).toNat < _ from Nat.pos_of_ne_zero hz)] at hr
          refine Taints.bind (operate_taints _ _ h) (fun r => ?_) r s' hr
          exact .ite (.pure _) (writeCurveLoop_grows i info fuel _ _ _)
    · rw [Quiet, hnone] at h
      exact absurd trivial h

/-! ## Sessions -/

/-- A call that returns without any fuel needs none. -/
theorem ClientCall.run_zero {call : ClientCall} {err : BsmpErr} (h : call.run comm 0 s = .ok (err, s')) :
    call.run comm 1 s = .ok (err, s') := by
  cases call with
  | init => exact h
  | operation op => exact h
  | readCurve curve buf len =>
    rcases bsmpReadCurve_cases comm s curve buf len with ⟨i, info, bytes, -, -, -, -, hrun⟩ | ⟨-, hrun⟩
    · rw [run, map_eq_pure_bind] at h
      obtain ⟨r, s₁, hr, -⟩ := Stateful.bind_ok_iff.mp h
      rw [hrun] at hr
      cases hr
    · rw [run, map_of (hrun 0)] at h
      rw [run, map_of (hrun 1), h]
  | writeCurve curve buf len =>
    rcases bsmpWriteCurve_cases comm s curve buf len with ⟨i, info, bytes, -, -, -, hrun⟩ | ⟨-, hrun⟩
    · rw [run, map_eq_pure_bind] at h
      obtain ⟨r, s₁, hr, -⟩ := Stateful.bind_ok_iff.mp h
      rw [hrun] at hr
      cases hr
    · rw [run, map_of (hrun 0)] at h
      rw [run, map_of (hrun 1), h]

theorem Client.Sound.quiet (hs : s.client.Sound) (h : s'.client = s.client ∨ s'.client = s.client.zeroLists) :
    s'.client.Sound := by
  rcases h with h | h
  · rw [h]
    exact hs
  · rw [h]
    exact .zeroLists _

/-- A quiet call has one result. -/
theorem Quiet.ran_unique {call : ClientCall} {err₁ err₂ : BsmpErr} {s₁ s₂ : Session τ}
    (hq : Quiet comm s call)
    (h₁ : Ran comm s call err₁ s₁) (h₂ : Ran comm s call err₂ s₂) : s₁ = s₂ := by
  obtain ⟨err, s', hrun, -, -⟩ := quiet_ran hq
  have hall : ∀ {err' s''}, Ran comm s call err' s'' → s'' = s' := by
    rintro err' s'' ⟨fuel, hfuel⟩
    cases fuel with
    | zero => cases (hrun 0).symm.trans (ClientCall.run_zero hfuel); rfl
    | succ fuel => cases (hrun fuel).symm.trans hfuel; rfl
  rw [hall h₁, hall h₂]

/-- **Sessions that go well.** From a sound client, a session returns call by
call within its buffers and lists, with every response taken soundly and the
lists sound, if and only if no call of it is answered. -/
theorem robust_iff (comm : Comm τ) (calls : List ClientCall) (s : Session τ) (hlog : s.log = [])
    (hs : s.client.Sound) : Robust comm s calls ↔ AllQuiet comm s calls := by
  induction calls generalizing s with
  | nil => exact Iff.rfl
  | cons call calls ih =>
    constructor
    · rintro ⟨err, s₁, hran, hsound, hs₁, hrest⟩
      have hq : Quiet comm s call := by
        by_contra hq
        obtain ⟨fuel, hrun⟩ := hran
        obtain ⟨e, he, hbad⟩ := loud_taints hq fuel err s₁ hrun
        exact hbad (hsound e he)
      obtain ⟨err', s', hrun, hlog', -⟩ := quiet_ran hq
      obtain rfl := hq.ran_unique hran ⟨1, hrun 0⟩
      refine ⟨hq, fun err₂ s₂ hran₂ => ?_⟩
      obtain rfl := hq.ran_unique hran hran₂
      exact (ih s₁ (hlog'.trans hlog) hs₁).mp hrest
    · rintro ⟨hq, hrest⟩
      obtain ⟨err, s₁, hrun, hlog₁, hclient⟩ := quiet_ran hq
      have hran : Ran comm s call err s₁ := ⟨1, hrun 0⟩
      have hs₁ := hs.quiet hclient
      refine ⟨err, s₁, hran, ?_, hs₁, (ih s₁ (hlog₁.trans hlog) hs₁).mpr (hrest err s₁ hran)⟩
      rw [hlog₁, hlog]
      simp

/-- A peer that sends what it was told to send, whatever it is asked. -/
def scripted : Comm (List (List UInt8)) where
  send _ replies := (true, replies)
  recv replies :=
    match replies with
    | [] => (none, [])
    | reply :: replies => (some
        { data := fun i => reply.getD i 0
          size := min reply.length bsmpMaxMessage
          bound := Nat.min_le_right _ _ }, replies)
  junk _ _ := 0

/-- A client structure filled with zeros. -/
def blank : Client where
  serverVersion := ⟨0, 0, 0, ""⟩
  vars := []
  groups := []
  curves := []
  funcs := []

theorem blank_sound : blank.Sound :=
  Client.Sound.zeroLists blank

/-- A client that knows its peer. -/
def acquainted : Client where
  serverVersion := ⟨2, 20, 0, "2.20"⟩
  vars := [⟨0, true, 2⟩, ⟨1, false, 4⟩]
  groups := [⟨0, false, 6, 2, [0, 1]⟩, ⟨1, true, 2, 1, [0]⟩]
  curves := [⟨0, true, 3, 16, .replicate _ 0⟩]
  funcs := []

theorem acquainted_sound : acquainted.Sound where
  vars := by decide
  groups := by decide
  curves := by decide
  funcs := by decide
  members := by decide

/-- A peer that hangs up during discovery, and one that answers the first of two
reads with one byte and hangs up at the second. -/
theorem robust_iff_hangUp :
    Robust scripted ⟨blank, [], []⟩ [.init] ∧
      Robust scripted ⟨acquainted, [[0x01]], []⟩
        [.operation (.readVar (some 0) (some [])), .operation (.readGroup (some 0) (some []))] := by
  refine ⟨(robust_iff scripted [.init] ⟨blank, [], []⟩ rfl blank_sound).mpr ⟨rfl, fun _ _ _ => trivial⟩, ?_⟩
  have hfirst : Quiet scripted ⟨acquainted, [[0x01]], []⟩ (.operation (.readVar (some 0) (some []))) := rfl
  refine (robust_iff scripted _ ⟨acquainted, [[0x01]], []⟩ rfl acquainted_sound).mpr
    ⟨hfirst, fun err s' hran => ?_⟩
  obtain rfl : s' = ⟨acquainted, [], []⟩ := hfirst.ran_unique hran ⟨1, rfl⟩
  exact ⟨rfl, fun _ _ _ => trivial⟩

/-- A list of three bytes that says it tells 200 variables: the 129th is
written past the end of the client's list. -/
theorem init_not_robust :
    blank.Sound ∧
      ¬ Robust scripted ⟨blank, [[0x01, 0, 3, 2, 20, 0], [0x03, 0, 200]], []⟩ [.init] := by
  refine ⟨blank_sound, ?_⟩
  rintro ⟨err, s', ⟨fuel, hrun⟩, -⟩
  have hfault : bsmpClientInit scripted ⟨blank, [[0x01, 0, 3, 2, 20, 0], [0x03, 0, 200]], []⟩ =
      .error .clientList := rfl
  cases hfault.symm.trans hrun

end UdcFirmware.Bsmp
