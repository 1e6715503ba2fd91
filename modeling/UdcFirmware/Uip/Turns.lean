/-
What a step of the stack does to a connection, said once.

`Turn` lists what a segment can do to the connection it belongs to: how the
connection changes, and what the application is called with in between. `Tick`
lists what its timer can do, and `Opened` what a SYN makes of an unused one.
What is sent in any of these carries that connection's numbers and addresses
(`Served`).
-/
import UdcFirmware.Uip.Process

namespace UdcFirmware.Uip

open Bsmp ByteMem Checked Drivers

variable {τ : Type} {app : App τ} {s s' : Stack τ} {i : Connection} {p : Packet} {out : Option Packet}
  {fuel : Nat}

/-! ## Calls -/

/-- The application can answer `call` with these flags and so many bytes. -/
def Answers (app : App τ) (call : AppCall) (flags : Flags) (slen : UInt16) : Prop :=
  ∃ a reply a', app call a = .ok (reply, a') ∧ reply.flags = flags ∧ reply.send.length ≤ uipTcpMss + 2 ∧
    slen = UInt16.ofNat reply.send.length

/-- The state of the application after a call. -/
def App.step (app : App τ) (a : τ) (call : AppCall) : Except Fault τ := do
  let (_, a) ← app call a
  return a

/-- Of the application and the calls, a call; nothing else. -/
structure Called (app : App τ) (s : Stack τ) (call : AppCall) (s' : Stack τ) : Prop where
  app : App.step app s.app call = .ok s'.app
  conns : s'.conns = s.conns
  hostaddr : s'.hostaddr = s.hostaddr
  listenports : s'.listenports = s.listenports
  calls : s'.calls = s.calls ++ [call]

theorem appcall_ok {flags : Flags} {data : List UInt8} {buf : Nat → UInt8}
    {r : Flags × UInt16 × (Nat → UInt8) × Stack τ} (h : s.appcall app i flags data buf = .ok r) :
    Answers app ⟨i, (s.conns i).lport, flags, data⟩ r.1 r.2.1 ∧
      Called app s ⟨i, (s.conns i).lport, flags, data⟩ r.2.2.2 := by
  obtain ⟨⟨reply, a⟩, happ, h⟩ := bind_ok_iff.mp h
  simp only at h
  split at h
  · cases h
  · next hshort =>
    cases h
    exact ⟨⟨s.app, reply, a, happ, rfl, Nat.not_lt.mp hshort, rfl⟩, bind_ok_iff.mpr ⟨_, happ, rfl⟩, rfl, rfl, rfl,
      rfl⟩

/-! ## Connections -/

/-- The connection after the acknowledgement in the segment, if it has one. -/
def Conn.heard (c : Conn) (p : Packet) : Conn := if c.acknowledged p then c.acked else c

/-- The connection after `appsend`. -/
def Conn.appsent (c : Conn) (flags : Flags) (slen : UInt16) : Conn :=
  if flags.abort then { c with state := .closed }
  else if flags.close then { c with len := 1, state := .finWait1, nrtx := 0 }
  else { (if slen > 0 then (c.appsend flags slen).1 else c) with nrtx := 0 }

/-- The connection is one with the same peer, and has been acknowledged as much. -/
structure Conn.SamePeer (c c' : Conn) : Prop where
  ripaddr : c'.ripaddr = c.ripaddr
  lport : c'.lport = c.lport
  rport : c'.rport = c.rport

theorem Conn.SamePeer.refl (c : Conn) : c.SamePeer c := ⟨rfl, rfl, rfl⟩

theorem Conn.SamePeer.trans {c c' c'' : Conn} (h : c.SamePeer c') (h' : c'.SamePeer c'') : c.SamePeer c'' :=
  ⟨h'.ripaddr.trans h.ripaddr, h'.lport.trans h.lport, h'.rport.trans h.rport⟩

section Parts

variable (c : Conn) (p : Packet) (n wnd : UInt16) (flags : Flags) (slen : UInt16)

theorem Conn.acked_same : c.SamePeer c.acked ∧ c.acked.state = c.state ∧ c.acked.rcvNxt = c.rcvNxt ∧
    c.acked.nrtx = c.nrtx := by
  unfold acked estimate
  split <;> exact ⟨⟨rfl, rfl, rfl⟩, rfl, rfl, rfl⟩

theorem Conn.heard_samePeer : c.SamePeer (c.heard p) := by
  unfold heard
  split
  · exact c.acked_same.1
  · exact .refl c

@[simp] theorem Conn.heard_state : (c.heard p).state = c.state := by
  unfold heard
  split
  · exact c.acked_same.2.1
  · rfl

@[simp] theorem Conn.heard_rcvNxt : (c.heard p).rcvNxt = c.rcvNxt := by
  unfold heard
  split
  · exact c.acked_same.2.2.1
  · rfl

@[simp] theorem Conn.heard_nrtx : (c.heard p).nrtx = c.nrtx := by
  unfold heard
  split
  · exact c.acked_same.2.2.2
  · rfl

theorem Conn.heard_len : (c.heard p).len = c.len ∨ (c.heard p).len = 0 := by
  unfold heard
  split
  · right
    unfold acked estimate
    dsimp only
  · exact .inl rfl

theorem Conn.received_samePeer : c.SamePeer (c.received n) := by
  unfold received
  split <;> exact ⟨rfl, rfl, rfl⟩

@[simp] theorem Conn.received_state : (c.received n).state = c.state := by
  unfold received
  split <;> rfl

@[simp] theorem Conn.received_nrtx : (c.received n).nrtx = c.nrtx := by
  unfold received
  split <;> rfl

@[simp] theorem Conn.received_len : (c.received n).len = c.len := by
  unfold received
  split <;> rfl

@[simp] theorem Conn.received_rcvNxt : (c.received n).rcvNxt = c.rcvNxt + n.toUInt32 := by
  unfold received
  split
  · rfl
  · next h =>
    have hzero : n = 0 := by
      rw [gt_iff_lt, UInt16.not_lt] at h
      exact UInt16.le_zero_iff.mp h
    rw [hzero]
    exact (UInt32.add_zero _).symm

theorem Conn.appsend_samePeer : c.SamePeer (c.appsend flags slen).1 := by
  unfold appsend
  dsimp only
  split <;> split <;> exact ⟨rfl, rfl, rfl⟩

theorem Conn.appsent_samePeer : c.SamePeer (c.appsent flags slen) := by
  unfold appsent
  split
  · exact ⟨rfl, rfl, rfl⟩
  · split
    · exact ⟨rfl, rfl, rfl⟩
    · split
      · have h := c.appsend_samePeer flags slen
        exact ⟨h.ripaddr, h.lport, h.rport⟩
      · exact ⟨rfl, rfl, rfl⟩

end Parts

/-! ## What is sent -/

/-- A segment of connection `i`. -/
structure Speaks (s : Stack τ) (i : Connection) (q : Packet) : Prop where
  seqno : q.seqno = (s.conns i).sndNxt
  ackno : q.ackno = (s.conns i).rcvNxt
  srcport : q.srcport = (s.conns i).lport
  destport : q.destport = (s.conns i).rport
  srcipaddr : q.srcipaddr = s.hostaddr
  destipaddr : q.destipaddr = (s.conns i).ripaddr

/-- Of `s`, connection `i` has become `c`, the application has been called with
`calls`, and what is sent is a segment of the connection. -/
structure Served (app : App τ) (s : Stack τ) (i : Connection) (calls : List AppCall) (c : Conn)
    (r : Stack τ × Option Packet) : Prop where
  app : Runs.run (App.step app) s.app calls = .ok r.1.app
  conns : r.1.conns = Function.update s.conns i c
  hostaddr : r.1.hostaddr = s.hostaddr
  listenports : r.1.listenports = s.listenports
  calls : r.1.calls = s.calls ++ calls
  speaks : ∀ q, r.2 = some q → Speaks r.1 i q

theorem Served.conn {calls : List AppCall} {c : Conn} {r : Stack τ × Option Packet}
    (h : Served app s i calls c r) :
    r.1.conns i = c := by rw [h.conns, Function.update_self]

theorem Served.other {calls : List AppCall} {c : Conn} {r : Stack τ × Option Packet} (h : Served app s i calls c r)
    {j : Connection} (hj : j ≠ i) : r.1.conns j = s.conns j := by rw [h.conns, Function.update_of_ne hj]

/-- What the log has more is what the application has been called with. -/
theorem Served.mem_calls {calls calls' : List AppCall} {call : AppCall} {c : Conn} {r : Stack τ × Option Packet}
    (h : Served app s i calls c r) (hcalls : r.1.calls = s.calls ++ calls') (hcall : call ∈ calls') :
    call ∈ calls := by
  have hlog := hcalls.symm.trans h.calls
  rwa [List.append_cancel_left hlog] at hcall

theorem served_none (app : App τ) (s : Stack τ) (i : Connection) : Served app s i [] (s.conns i) (s, none) where
  app := rfl
  conns := (Function.update_eq_self i s.conns).symm
  hostaddr := rfl
  listenports := rfl
  calls := (List.append_nil _).symm
  speaks q h := by cases h

theorem tcpSend_served (app : App τ) (s : Stack τ) (i : Connection) (p : Packet) (n : UInt16) :
    Served app s i [] (s.conns i) (tcpSend s i p n) where
  app := rfl
  conns := (Function.update_eq_self i s.conns).symm
  hostaddr := rfl
  listenports := rfl
  calls := (List.append_nil _).symm
  speaks q h := by
    cases h
    exact ⟨rfl, rfl, rfl, rfl, rfl, rfl⟩

/-- The connection is set first. -/
theorem Served.set {c₁ c : Conn} {calls : List AppCall} {r : Stack τ × Option Packet}
    (h : Served app (s.setConn i c₁) i calls c r) : Served app s i calls c r where
  app := h.app
  conns := h.conns.trans (Function.update_idem ..)
  hostaddr := h.hostaddr
  listenports := h.listenports
  calls := h.calls
  speaks := h.speaks

/-- The application is called first. -/
theorem Served.call {call : AppCall} {calls : List AppCall} {c : Conn} {r : Stack τ × Option Packet}
    (hcall : Called app s call s') (h : Served app s' i calls c r) : Served app s i (call :: calls) c r where
  app := bind_ok_iff.mpr ⟨_, hcall.app, h.app⟩
  conns := h.conns.trans (congrArg (Function.update · i c) hcall.conns)
  hostaddr := h.hostaddr.trans hcall.hostaddr
  listenports := h.listenports.trans hcall.listenports
  calls := by rw [h.calls, hcall.calls, List.append_assoc, List.singleton_append]
  speaks := h.speaks

@[simp] theorem setConn_self (s : Stack τ) (i : Connection) (c : Conn) : (s.setConn i c).conns i = c :=
  Function.update_self ..

/-- The connection is set, and stays. -/
theorem Served.keep {c : Conn} {calls : List AppCall} {r : Stack τ × Option Packet}
    (h : Served app (s.setConn i c) i calls ((s.setConn i c).conns i) r) : Served app s i calls c r := by
  rw [setConn_self] at h
  exact h.set

theorem apprexmit_served (app : App τ) (s : Stack τ) (i : Connection) (flags : Flags) (slen : UInt16)
    (p : Packet) :
    Served app s i [] (s.conns i) (apprexmit s i flags slen p) := by
  unfold apprexmit
  split
  · exact tcpSend_served ..
  · split
    · exact tcpSend_served ..
    · exact served_none app s i

theorem appsend_served (app : App τ) (s : Stack τ) (i : Connection) (flags : Flags) (slen : UInt16) (p : Packet) :
    Served app s i [] ((s.conns i).appsent flags slen) (appsend s i flags slen p) := by
  unfold appsend Conn.appsent
  split
  · exact Served.keep (tcpSend_served ..)
  · split
    · exact Served.keep (tcpSend_served ..)
    · split <;> exact Served.keep (apprexmit_served ..)

/-! ## A segment -/

/-- What a segment without RST does to a connection that is neither closed nor in
`SYN_SENT`. The application is called with the list; the last argument is the
connection after it. -/
inductive Turn (app : App τ) (i : Connection) (p : Packet) (c : Conn) : List AppCall → Conn → Prop
  | unexpected (h : c.unexpected p p.dataLen) : Turn app i p c [] c
  /-- Nothing but the acknowledgement counts. -/
  | ignored (h : c.acknowledged p = false ∧ c.state ≠ .established ∨
        c.state = .established ∧ p.has tcpFin ∧ (c.heard p).len ≠ 0 ∨ c.state = .timeWait) :
      Turn app i p c [] (c.heard p)
  | connected (hstate : c.state = .synRcvd) (hack : c.acknowledged p) (hnext : c.unexpected p p.dataLen = false)
      {flags : Flags} {slen : UInt16}
      (hanswers : Answers app ⟨i, c.lport, { connected := true, newdata := decide (p.dataLen > 0) },
        appdata p 0 p.dataLen⟩ flags slen) :
      Turn app i p c
        [⟨i, c.lport, { connected := true, newdata := decide (p.dataLen > 0) }, appdata p 0 p.dataLen⟩]
        ((({ c.heard p with state := .established, len := 0 } : Conn).received p.dataLen).appsent flags slen)
  | finished (hstate : c.state = .established) (hfin : p.has tcpFin) (hnext : c.unexpected p p.dataLen = false)
      (hlen : (c.heard p).len = 0) :
      Turn app i p c
        [⟨i, c.lport, { ackdata := c.acknowledged p, close := true, newdata := decide (p.dataLen > 0) },
          appdata p 0 p.dataLen⟩]
        { (c.heard p).addRcvNxt (1 + p.dataLen) with len := 1, state := .lastAck, nrtx := 0 }
  /-- Data or an acknowledgement, for the application. -/
  | data (hstate : c.state = .established) (hfin : ¬ p.has tcpFin)
      (hnext : c.unexpected p p.dataLen = false) (skip : UInt16)
      (hskip : skip = if p.has tcpUrg then p.urgp else 0)
      (hcalls : p.dataLen - skip > 0 ∨ c.acknowledged p) {flags : Flags} {slen : UInt16}
      (hanswers : Answers app ⟨i, c.lport,
        { ackdata := c.acknowledged p, newdata := decide (p.dataLen - skip > 0) },
        appdata p skip.toNat (p.dataLen - skip)⟩ flags slen) :
      Turn app i p c
        [⟨i, c.lport, { ackdata := c.acknowledged p, newdata := decide (p.dataLen - skip > 0) },
          appdata p skip.toNat (p.dataLen - skip)⟩]
        ((((c.heard p).received (p.dataLen - skip)).windowed p.wnd).appsent flags slen)
  | window (hstate : c.state = .established) (hfin : ¬ p.has tcpFin) (skip : UInt16)
      (hskip : skip = if p.has tcpUrg then p.urgp else 0) (hnone : ¬ p.dataLen - skip > 0) :
      Turn app i p c [] (c.windowed p.wnd)
  | closed (hstate : c.state = .lastAck) (hack : c.acknowledged p) (data : List UInt8) :
      Turn app i p c [⟨i, c.lport, { close := true }, data⟩] { c.heard p with state := .closed }
  /-- After the application has closed the connection. -/
  | ending (hstate : c.state = .finWait1 ∨ c.state = .finWait2 ∨ c.state = .closing) {calls : List AppCall}
      (hcalls : calls = [] ∨ ∃ data, calls = [⟨i, c.lport, { close := true }, data⟩])
      {c' : Conn} (hsame : c.SamePeer c') (hnrtx : c'.nrtx = c.nrtx) (hlen : c'.len = c.len ∨ c'.len = 0)
      (hstate' : c'.state = .finWait1 ∨ c'.state = .finWait2 ∨ c'.state = .closing ∨ c'.state = .timeWait) :
      Turn app i p c calls c'

section Input

variable {c : Conn} {r : Stack τ × Option Packet}

/-- A call on a connection that is set first. -/
theorem appcall_set {c₁ : Conn} {flags : Flags} {data : List UInt8} {buf : Nat → UInt8}
    {a : Flags × UInt16 × (Nat → UInt8) × Stack τ}
    (h : (s.setConn i c₁).appcall app i flags data buf = .ok a) :
    Answers app ⟨i, c₁.lport, flags, data⟩ a.1 a.2.1 ∧
      Called app (s.setConn i c₁) ⟨i, c₁.lport, flags, data⟩ a.2.2.2 ∧ a.2.2.2.conns i = c₁ := by
  obtain ⟨hanswers, hcalled⟩ := appcall_ok h
  rw [setConn_self] at hanswers hcalled
  exact ⟨hanswers, hcalled, by rw [hcalled.conns, setConn_self]⟩

theorem synRcvdAcked_turn (hc : s.conns i = c.heard p) (hstate : c.state = .synRcvd) (hack : c.acknowledged p)
    (hnext : c.unexpected p p.dataLen = false) (h : synRcvdAcked app s i p.dataLen p = .ok r) :
    ∃ calls c', Turn app i p c calls c' ∧ Served app s i calls c' r := by
  obtain ⟨⟨flags, slen, data, s₁⟩, hcall, h⟩ := bind_ok_iff.mp h
  cases h
  rw [hc] at hcall
  obtain ⟨hanswers, hcalled, hconn⟩ := appcall_set hcall
  have hlport := (({ c.heard p with state := .established, len := 0 } : Conn).received_samePeer p.dataLen).lport
  have hlport' : ({ c.heard p with state := .established, len := 0 } : Conn).lport = c.lport :=
    (c.heard_samePeer p).lport
  rw [hlport, hlport'] at hanswers hcalled
  refine ⟨_, _, .connected hstate hack hnext hanswers, ?_⟩
  have hsent := appsend_served app s₁ i flags slen { p with data }
  rw [hconn] at hsent
  exact (hsent.call hcalled).set

theorem establishedFin_turn (hc : s.conns i = c.heard p) (hstate : c.state = .established) (hfin : p.has tcpFin)
    (hnext : c.unexpected p p.dataLen = false)
    (h : establishedFin app s i { ackdata := c.acknowledged p } p.dataLen p = .ok r) :
    ∃ calls c', Turn app i p c calls c' ∧ Served app s i calls c' r := by
  unfold establishedFin at h
  rw [hc] at h
  split at h
  · next hlen =>
    cases h
    exact ⟨_, _, .ignored (.inr (.inl ⟨hstate, hfin, hlen⟩)), hc ▸ served_none app s i⟩
  · next hlen =>
    obtain ⟨⟨flags, slen, data, s₁⟩, hcall, h⟩ := bind_ok_iff.mp h
    cases h
    obtain ⟨-, hcalled, hconn⟩ := appcall_set hcall
    have hlport : ((c.heard p).addRcvNxt (1 + p.dataLen)).lport = c.lport := (c.heard_samePeer p).lport
    rw [hlport, Bool.false_or] at hcalled
    refine ⟨_, _, .finished hstate hfin hnext (not_not.mp hlen), (Served.keep ?_ |>.call hcalled).set⟩
    rw [hconn]
    exact tcpSend_served ..

theorem establishedData_turn (hc : s.conns i = c.heard p) (hstate : c.state = .established)
    (hfin : ¬ p.has tcpFin) (hnext : c.unexpected p p.dataLen = false)
    (h : establishedData app s i { ackdata := c.acknowledged p } p.dataLen p = .ok r) :
    ∃ calls c', Turn app i p c calls c' ∧ Served app s i calls c' r := by
  obtain ⟨skip, hskip⟩ : ∃ skip, skip = if p.has tcpUrg then p.urgp else 0 := ⟨_, rfl⟩
  simp only [establishedData, Bool.false_or, decide_eq_true_eq, ← hskip, hc] at h
  have hsame := (c.heard_samePeer p).trans ((c.heard p).received_samePeer (p.dataLen - skip))
  split at h
  · next hcalls =>
    obtain ⟨⟨flags, slen, data, s₁⟩, hcall, h⟩ := bind_ok_iff.mp h
    cases h
    obtain ⟨hanswers, hcalled, hconn⟩ := appcall_set hcall
    have hlport : (((c.heard p).received (p.dataLen - skip)).windowed p.wnd).lport = c.lport := hsame.lport
    rw [hlport] at hanswers hcalled
    have hsent := appsend_served app s₁ i flags slen { p with data }
    rw [hconn] at hsent
    exact ⟨_, _, .data hstate hfin hnext skip hskip hcalls hanswers, (hsent.call hcalled).set⟩
  · next hnone =>
    cases h
    rw [not_or] at hnone
    have hunheard : c.heard p = c := by rw [Conn.heard, if_neg hnone.2]
    rw [hunheard, Conn.received, if_neg hnone.1]
    exact ⟨_, _, .window hstate hfin skip hskip hnone.1, (served_none _ _ i).keep⟩

/-- The application is told that the peer has closed the connection. -/
theorem ending_turn (c₁ : Conn) {r : Stack τ × Option Packet} {data : List UInt8}
    {buf : Nat → UInt8} (hstate : c.state = .finWait1 ∨ c.state = .finWait2 ∨ c.state = .closing)
    (hsame : c.SamePeer c₁) (hnrtx : c₁.nrtx = c.nrtx) (hlen : c₁.len = c.len ∨ c₁.len = 0)
    (hstate' : c₁.state = .finWait1 ∨ c₁.state = .finWait2 ∨ c₁.state = .closing ∨ c₁.state = .timeWait)
    (h : ((s.setConn i c₁).appcall app i { close := true } data buf >>= fun (_, _, data, s) =>
      .ok (tcpSendAck s i { p with data })) = .ok r) :
    ∃ calls c', Turn app i p c calls c' ∧ Served app s i calls c' r := by
  obtain ⟨⟨flags', slen, data', s₁⟩, hcall, h⟩ := bind_ok_iff.mp h
  cases h
  obtain ⟨-, hcalled, hconn⟩ := appcall_set hcall
  rw [hsame.lport] at hcalled
  refine ⟨_, c₁, .ending hstate (.inr ⟨data, rfl⟩) hsame hnrtx hlen hstate', (Served.call hcalled ?_).set⟩
  exact (congrArg (Served app s₁ i [] · _) hconn).mp (tcpSend_served ..)

theorem finWait1Input_turn {flags : Flags} (hc : s.conns i = c.heard p) (hstate : c.state = .finWait1)
    (h : finWait1Input app s i flags p.dataLen p = .ok r) :
    ∃ calls c', Turn app i p c calls c' ∧ Served app s i calls c' r := by
  have hsame := (c.heard_samePeer p).trans ((c.heard p).received_samePeer p.dataLen)
  have hnrtx : ((c.heard p).received p.dataLen).nrtx = c.nrtx := by simp
  have hlen : ((c.heard p).received p.dataLen).len = c.len ∨ ((c.heard p).received p.dataLen).len = 0 := by
    rw [Conn.received_len]
    exact c.heard_len p
  have hstate₁ : ((c.heard p).received p.dataLen).state = .finWait1 := by simp [hstate]
  unfold finWait1Input at h
  rw [hc] at h
  have hnone {c' : Conn} (hs : c.SamePeer c') (hn : c'.nrtx = c.nrtx) (hl : c'.len = c.len ∨ c'.len = 0)
      (hs' : c'.state = .finWait1 ∨ c'.state = .finWait2 ∨ c'.state = .closing ∨ c'.state = .timeWait) :
      Turn app i p c [] c' := .ending (.inl hstate) (.inl rfl) hs hn hl hs'
  split at h
  · refine ending_turn _ (.inl hstate) ?_ ?_ ?_ ?_ h
    · split <;> exact ⟨hsame.ripaddr, hsame.lport, hsame.rport⟩
    · split <;> exact hnrtx
    · split
      · exact .inr rfl
      · exact hlen
    · split
      · exact .inr (.inr (.inr rfl))
      · exact .inr (.inr (.inl rfl))
  · split at h
    · cases h
      exact ⟨[], { (c.heard p).received p.dataLen with state := .finWait2, len := 0 },
        hnone ⟨hsame.ripaddr, hsame.lport, hsame.rport⟩ hnrtx (.inr rfl) (.inr (.inl rfl)),
          (served_none _ _ i).keep⟩
    · split at h
      · cases h
        exact ⟨_, _, hnone hsame hnrtx hlen (.inl hstate₁), (tcpSend_served ..).keep⟩
      · cases h
        exact ⟨_, _, hnone hsame hnrtx hlen (.inl hstate₁), (served_none _ _ i).keep⟩

theorem finWait2Input_turn (hc : s.conns i = c.heard p) (hstate : c.state = .finWait2)
    (h : finWait2Input app s i p.dataLen p = .ok r) :
    ∃ calls c', Turn app i p c calls c' ∧ Served app s i calls c' r := by
  have hsame := (c.heard_samePeer p).trans ((c.heard p).received_samePeer p.dataLen)
  have hnrtx : ((c.heard p).received p.dataLen).nrtx = c.nrtx := by simp
  have hlen : ((c.heard p).received p.dataLen).len = c.len ∨ ((c.heard p).received p.dataLen).len = 0 := by
    rw [Conn.received_len]
    exact c.heard_len p
  have hstate₁ : ((c.heard p).received p.dataLen).state = .finWait2 := by simp [hstate]
  unfold finWait2Input at h
  rw [hc] at h
  have hnone : Turn app i p c [] ((c.heard p).received p.dataLen) :=
    .ending (.inr (.inl hstate)) (.inl rfl) hsame hnrtx hlen (.inr (.inl hstate₁))
  split at h
  · refine ending_turn
      (({ (c.heard p).received p.dataLen with state := .timeWait, timer := 0 } : Conn).addRcvNxt 1)
      (.inr (.inl hstate)) ⟨hsame.ripaddr, hsame.lport, hsame.rport⟩ hnrtx hlen (.inr (.inr (.inr rfl))) h
  · split at h
    · cases h
      exact ⟨_, _, hnone, (tcpSend_served ..).keep⟩
    · cases h
      exact ⟨_, _, hnone, (served_none _ _ i).keep⟩

theorem stateInput_turn (hc : s.conns i = c.heard p) (hnext : c.unexpected p p.dataLen = false)
    (hopen : c.state ≠ .closed) (hsent : c.state ≠ .synSent)
    (h : stateInput fuel app s i { ackdata := c.acknowledged p } p.dataLen p = .ok r) :
    ∃ calls c', Turn app i p c calls c' ∧ Served app s i calls c' r := by
  have hignored (hs : c.state ≠ .established) (hack : ¬ c.acknowledged p) : Turn app i p c [] (c.heard p) :=
    .ignored (.inl ⟨Bool.not_eq_true _ ▸ hack, hs⟩)
  have hstate := c.heard_state p
  have hending (hs : c.state = .closing) {c' : Conn} (hsame : c.SamePeer c') (hn : c'.nrtx = c.nrtx)
      (hl : c'.len = c.len ∨ c'.len = 0) (hs' : c'.state = .timeWait) : Turn app i p c [] c' :=
    .ending (.inr (.inr hs)) (.inl rfl) hsame hn hl (.inr (.inr (.inr hs')))
  unfold stateInput at h
  rw [hc, hstate] at h
  split at h
  · next hs =>
    split at h
    · next hack => exact synRcvdAcked_turn hc hs hack hnext h
    · next hack =>
      cases h
      exact ⟨_, _, hignored (by simp [hs]) hack, hc ▸ served_none app s i⟩
  · next hs => exact absurd hs hsent
  · next hs =>
    split at h
    · next hfin => exact establishedFin_turn hc hs hfin hnext h
    · next hfin => exact establishedData_turn hc hs hfin hnext h
  · next hs =>
    split at h
    · next hack =>
      obtain ⟨⟨flags, slen, data, s₁⟩, hcall, h⟩ := bind_ok_iff.mp h
      cases h
      rw [Stack.closeConn, hc] at hcall
      obtain ⟨-, hcalled, hconn⟩ := appcall_set hcall
      have hlport : ({ c.heard p with state := .closed } : Conn).lport = c.lport := (c.heard_samePeer p).lport
      rw [hlport] at hcalled
      have hnone := served_none app s₁ i
      rw [hconn] at hnone
      exact ⟨_, _, .closed hs hack _, (hnone.call hcalled).set⟩
    · next hack =>
      cases h
      exact ⟨_, _, hignored (by simp [hs]) hack, hc ▸ served_none app s i⟩
  · next hs => exact finWait1Input_turn hc hs h
  · next hs => exact finWait2Input_turn hc hs h
  · next hs =>
    cases h
    exact ⟨_, _, .ignored (.inr (.inr hs)), hc ▸ tcpSend_served ..⟩
  · next hs =>
    split at h
    · cases h
      have hsame := c.heard_samePeer p
      exact ⟨[], { c.heard p with state := .timeWait, timer := 0 },
        hending hs ⟨hsame.ripaddr, hsame.lport, hsame.rport⟩ (c.heard_nrtx p) (c.heard_len p) rfl,
          (served_none _ _ i).keep⟩
    · next hack =>
      cases h
      exact ⟨_, _, hignored (by simp [hs]) hack, hc ▸ served_none app s i⟩
  · next hs => exact absurd hs hopen

/-- **A segment of an open connection** is one of the turns. -/
theorem found_turn (hrst : ¬ p.has tcpRst) (hopen : (s.conns i).state ≠ .closed)
    (hsent : (s.conns i).state ≠ .synSent) (h : found fuel app s i p = .ok r) :
    ∃ calls c', Turn app i p (s.conns i) calls c' ∧ Served app s i calls c' r := by
  unfold found at h
  rw [if_neg hrst] at h
  split at h
  · next hnext =>
    cases h
    exact ⟨_, _, .unexpected hnext, tcpSend_served ..⟩
  · next hnext =>
    have hnext' := Bool.eq_false_iff.mpr hnext
    split at h
    · next hack =>
      have hheard : (s.conns i).heard p = (s.conns i).acked := if_pos hack
      rw [← hack, ← hheard] at h
      obtain ⟨calls, c', hturn, hserved⟩ := stateInput_turn (setConn_self s i _) hnext' hopen hsent h
      exact ⟨calls, c', hturn, hserved.set⟩
    · next hack =>
      have hheard : (s.conns i).heard p = s.conns i := if_neg hack
      have hflags : ({} : Flags) = { ackdata := (s.conns i).acknowledged p } := by
        rw [Bool.eq_false_iff.mpr hack]
      rw [hflags] at h
      exact stateInput_turn hheard.symm hnext' hopen hsent h

/-- A segment with RST closes the connection. -/
theorem found_rst (hrst : p.has tcpRst) (h : found fuel app s i p = .ok r) :
    ∃ data, Served app s i [⟨i, (s.conns i).lport, { abort := true }, data⟩]
      { s.conns i with state := .closed } r := by
  unfold found at h
  rw [if_pos hrst] at h
  obtain ⟨⟨flags, slen, data, s₁⟩, hcall, h⟩ := bind_ok_iff.mp h
  cases h
  obtain ⟨-, hcalled, hconn⟩ := appcall_set hcall
  have hnone := served_none app s₁ i
  rw [hconn] at hnone
  exact ⟨_, (hnone.call hcalled).set⟩

end Input

/-! ## A SYN -/

/-- What a SYN that belongs to no connection makes of an unused one. -/
structure Opened (s : Stack τ) (i : Connection) (p : Packet) (c : Conn) : Prop where
  unused : (s.conns i).state = .closed ∨ (s.conns i).state = .timeWait
  fresh : s.found? p = none
  syn : p.flags &&& tcpCtl = tcpSyn
  listened : p.destport ∈ s.listenports
  state : c.state = .synRcvd
  lport : c.lport = p.destport
  rport : c.rport = p.srcport
  ripaddr : c.ripaddr = p.srcipaddr
  rcvNxt : c.rcvNxt = p.seqno + 1
  sndNxt : c.sndNxt = s.iss
  len : c.len = 1
  nrtx : c.nrtx = 0

theorem unused_some {l : List Connection} {oldest : Option Connection}
    (holdest : ∀ j, oldest = some j → (s.conns j).state = .timeWait) (h : s.unused l oldest = some i) :
    (s.conns i).state = .closed ∨ (s.conns i).state = .timeWait := by
  induction l generalizing oldest with
  | nil => exact .inr (holdest i h)
  | cons j l ih =>
    unfold Stack.unused at h
    split at h
    · next hclosed =>
      cases h
      exact .inl hclosed
    · split at h
      · next hwait =>
        have hj : ∀ k, some j = some k → (s.conns k).state = .timeWait := by
          rintro k hk
          cases hk
          exact hwait
        split at h
        · exact ih hj h
        · split at h
          · exact ih hj h
          · exact ih holdest h
      · exact ih holdest h

/-- The options of a SYN set the limits of a segment, and nothing else. -/
theorem readOptions_ok {c c' : Conn} (h : c.readOptions fuel p = .ok c') :
    c' = { c with mss := c'.mss, initialmss := c'.initialmss } := by
  unfold Conn.readOptions at h
  split at h
  · obtain ⟨options, -, h⟩ := bind_ok_iff.mp h
    cases h
    cases options <;> rfl
  · cases h
    rfl

theorem foundListen_opened {r : Stack τ × Option Packet} (hfresh : s.found? p = none)
    (hsyn : p.flags &&& tcpCtl = tcpSyn) (hlistened : p.destport ∈ s.listenports)
    (h : foundListen fuel s p = .ok r) :
    r = (s, none) ∨ ∃ i c, Opened s i p c ∧ Served app s i [] c r := by
  unfold foundListen at h
  split at h
  · cases h
    exact .inl rfl
  · next i hunused =>
    obtain ⟨c, hc, h⟩ := bind_ok_iff.mp h
    cases h
    have hset := readOptions_ok hc
    refine .inr ⟨i, c, ⟨unused_some (fun _ h => by cases h) hunused, hfresh, hsyn, hlistened, ?_, ?_, ?_,
      ?_, ?_, ?_, ?_, ?_⟩, (tcpSend_served ..).keep⟩
    all_goals rw [hset]

/-! ## A timer -/

/-- The connection waits for nothing but time to pass. -/
def Conn.Lingers (c : Conn) : Prop := c.state = .timeWait ∨ c.state = .finWait2

instance (c : Conn) : Decidable c.Lingers := inferInstanceAs (Decidable (_ ∨ _))

/-- The connection after a tick that it has waited for. -/
def Conn.waited (c : Conn) : Conn :=
  { c with timer := c.timer + 1, state := if c.timer + 1 = uipTimeWaitTimeout then .closed else c.state }

/-- A connection with outstanding data has been tried often enough. -/
def Conn.GivesUp (c : Conn) : Prop := c.nrtx = uipMaxrtx ∨ c.state = .synRcvd ∧ c.nrtx = uipMaxsynrtx

/-- The connection has outstanding data, and its timer fires. -/
structure Conn.Fires (c : Conn) : Prop where
  active : ¬ c.Lingers
  opened : c.state ≠ .closed
  len : c.len ≠ 0
  timer : c.timer = 0

/-- What its timer does to a connection that is not in `SYN_SENT`. -/
inductive Tick (app : App τ) (i : Connection) (c : Conn) : List AppCall → Conn → Prop
  | waited (hlingers : c.Lingers) : Tick app i c [] c.waited
  | idle (h : c.state = .closed ∨ ¬ c.Lingers ∧ c.len = 0 ∧ c.state ≠ .established) : Tick app i c [] c
  | counted (hactive : ¬ c.Lingers) (hopen : c.state ≠ .closed) (hlen : c.len ≠ 0) (htimer : c.timer ≠ 0) :
      Tick app i c [] { c with timer := c.timer - 1 }
  | timedout (hfires : c.Fires) (hmax : c.GivesUp) :
      Tick app i c [⟨i, c.lport, { timedout := true }, []⟩] { c with timer := c.timer - 1, state := .closed }
  | resent (hfires : c.Fires) (hmax : ¬ c.GivesUp) (hstate : c.state ≠ .established) : Tick app i c [] c.backoff
  | rexmit (hfires : c.Fires) (hmax : ¬ c.GivesUp) (hstate : c.state = .established) :
      Tick app i c [⟨i, c.lport, { rexmit := true }, []⟩] c.backoff
  | polled (hstate : c.state = .established) (hlen : c.len = 0) {flags : Flags} {slen : UInt16}
      (hanswers : Answers app ⟨i, c.lport, { poll := true }, []⟩ flags slen) :
      Tick app i c [⟨i, c.lport, { poll := true }, []⟩] (c.appsent flags slen)

theorem retransmit_tick {c : Conn} {r : Stack τ × Option Packet} (hc : s.conns i = c.backoff)
    (hfires : c.Fires) (hmax : ¬ c.GivesUp) (h : retransmit app s i p = .ok r) :
    ∃ calls c', Tick app i c calls c' ∧ Served app s i calls c' r := by
  have hstate : (s.conns i).state = c.state := by rw [hc, Conn.backoff]
  have hresent (hs : c.state ≠ .established) : Tick app i c [] c.backoff := .resent hfires hmax hs
  unfold retransmit at h
  rw [hstate] at h
  split at h
  · next hs =>
    cases h
    exact ⟨_, _, hresent (by simp [hs]), hc ▸ tcpSend_served ..⟩
  · next hs =>
    cases h
    exact ⟨_, _, hresent (by simp [hs]), hc ▸ tcpSend_served ..⟩
  · next hs =>
    obtain ⟨⟨flags, slen, data, s₁⟩, hcall, h⟩ := bind_ok_iff.mp h
    cases h
    obtain ⟨-, hcalled⟩ := appcall_ok hcall
    have hsent := apprexmit_served app s₁ i flags slen { p with data }
    rw [hcalled.conns, hc] at hsent
    rw [hc] at hcalled
    exact ⟨_, _, .rexmit hfires hmax hs, hsent.call hcalled⟩
  iterate 3
    · next hs =>
      cases h
      exact ⟨_, _, hresent (by simp [hs]), hc ▸ tcpSend_served ..⟩
  · next _ _ hs _ _ _ =>
    cases h
    exact ⟨_, _, hresent hs, hc ▸ served_none app s i⟩

/-- What is not the connections' own does not matter to what is served. -/
theorem Served.of_same {s₀ : Stack τ} {calls : List AppCall} {c : Conn} {r : Stack τ × Option Packet}
    (h : Served app s i calls c r) (hconns : s.conns = s₀.conns) (hhost : s.hostaddr = s₀.hostaddr)
    (hports : s.listenports = s₀.listenports) (hcalls : s.calls = s₀.calls) (happ : s.app = s₀.app) :
    Served app s₀ i calls c r where
  app := happ ▸ h.app
  conns := h.conns.trans (congrArg (Function.update · i c) hconns)
  hostaddr := h.hostaddr.trans hhost
  listenports := h.listenports.trans hports
  calls := h.calls.trans (congrArg (· ++ calls) hcalls)
  speaks := h.speaks

theorem connTimer_tick {r : Stack τ × Option Packet} (h : connTimer app s i p = .ok r)
    (hunsent : (s.conns i).state ≠ .synSent) :
    ∃ calls c', Tick app i (s.conns i) calls c' ∧ Served app s i calls c' r ∧
      ((s.conns i).state = .closed → r.2 = none) := by
  dsimp only [connTimer] at h
  split at h
  · next hlingers =>
    cases h
    have hwaited : (if (s.conns i).timer + 1 = uipTimeWaitTimeout then
        { s.conns i with timer := (s.conns i).timer + 1, state := .closed }
        else { s.conns i with timer := (s.conns i).timer + 1 }) = (s.conns i).waited := by
      unfold Conn.waited
      split <;> rfl
    rw [hwaited]
    exact ⟨[], _, .waited hlingers, (served_none _ _ i).keep, fun _ => rfl⟩
  · next hactive =>
    split at h
    · next hopen =>
      split at h
      · next hlen =>
        split at h
        · next htimer =>
          have hfires : (s.conns i).Fires := ⟨hactive, hopen, hlen, htimer⟩
          split at h
          · next hmax =>
            obtain ⟨⟨flags, slen, data, s₁⟩, hcall, h⟩ := bind_ok_iff.mp h
            cases h
            rw [Stack.closeConn, setConn_self] at hcall
            obtain ⟨-, hcalled, hconn⟩ := appcall_set hcall
            have hsent := tcpSend_served app s₁ i
              { p with flags := tcpRst ||| tcpAck, tcpoffset := (5 : UInt8) <<< 4, data } 40
            rw [hconn] at hsent
            have hgives : (s.conns i).GivesUp := by
              rcases hmax with hn | ⟨hs | hs, hn⟩
              · exact .inl hn
              · exact absurd hs hunsent
              · exact .inr ⟨hs, hn⟩
            exact ⟨_, _, .timedout hfires hgives, (hsent.call hcalled).set.set, fun hs => absurd hs hopen⟩
          · next hmax =>
            rw [setConn_self] at h
            rw [not_or] at hmax
            have hgoes : ¬ (s.conns i).GivesUp := by
              rintro (hn | ⟨hs, hn⟩)
              · exact hmax.1 hn
              · exact hmax.2 ⟨.inr hs, hn⟩
            have hconn : ((s.setConn i { s.conns i with timer := (s.conns i).timer - 1 }).setConn i
                (s.conns i).backoff).conns i = (s.conns i).backoff := setConn_self ..
            obtain ⟨calls, c', htick, hserved⟩ := retransmit_tick hconn hfires hgoes h
            exact ⟨calls, c', htick, hserved.set.set, fun hs => absurd hs hopen⟩
        · next htimer =>
          cases h
          exact ⟨_, _, .counted hactive hopen hlen htimer, (served_none _ _ i).keep, fun _ => rfl⟩
      · next hlen =>
        split at h
        · next hs =>
          obtain ⟨⟨flags, slen, data, s₁⟩, hcall, h⟩ := bind_ok_iff.mp h
          cases h
          obtain ⟨hanswers, hcalled⟩ := appcall_ok hcall
          have hsent := appsend_served app s₁ i flags slen { p with data }
          rw [hcalled.conns] at hsent
          exact ⟨_, _, .polled hs (not_not.mp hlen) hanswers, hsent.call hcalled, fun hs => absurd hs hopen⟩
        · next hs =>
          cases h
          exact ⟨_, _, .idle (.inr ⟨hactive, not_not.mp hlen, hs⟩), served_none app s i, fun _ => rfl⟩
    · next hclosed =>
      cases h
      exact ⟨_, _, .idle (.inl (not_not.mp hclosed)), served_none app s i, fun _ => rfl⟩

/-- **The timer of a connection** is one of the ticks. -/
theorem uipTimer_tick {r : Stack τ × Option Packet} (hsent : (s.conns i).state ≠ .synSent)
    (h : uipTimer app s i p = .ok r) :
    ∃ calls c', Tick app i (s.conns i) calls c' ∧ Served app s i calls c' r ∧
      ((s.conns i).state = .closed → r.2 = none) := by
  obtain ⟨calls, c', htick, hserved, hnone⟩ := connTimer_tick h hsent
  exact ⟨calls, c', htick, hserved.of_same rfl rfl rfl rfl rfl, hnone⟩

end UdcFirmware.Uip
