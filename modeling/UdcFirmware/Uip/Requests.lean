/-
Requests over TCP. A client has opened a connection to port 80 and sends BSMP
requests on it, each in as many segments as it likes, but no two in one
segment: `httpd_appcall` would append both to `rx_buffer`, and BSMP take them
for one. It is the only one that sends data.

Its segments may be lost, repeated and reordered. BSMP is handed its requests,
each once, in order and unmodified, and it has been handed all of those whose
last byte has been delivered (`requests_reach_bsmp`).
-/
import UdcFirmware.Uip.Httpd

namespace UdcFirmware.Uip

open Bsmp ByteMem Checked Drivers Filling

variable {σ : Type} {md5 : Md5}

/-! ## Requests in a stream -/

def requestBytes (requests : List WireMessage) : List UInt8 := requests.flatMap WireMessage.bytes

/-- The requests whose last byte is among the first `n`. -/
def complete : List WireMessage → Nat → List WireMessage
  | [], _ => []
  | m :: ms, n => if m.bytes.length ≤ n then m :: complete ms (n - m.bytes.length) else []

/-- What there is of the next one. -/
def unfinished (requests : List WireMessage) (n : Nat) : List UInt8 :=
  ((requestBytes requests).take n).drop (requestBytes (complete requests n)).length

section Stream

variable {done rest : List WireMessage} {m : WireMessage} {before after : List UInt8} {n : Nat}

@[simp] theorem requestBytes_append (done rest : List WireMessage) :
    requestBytes (done ++ rest) = requestBytes done ++ requestBytes rest := List.flatMap_append

@[simp] theorem requestBytes_cons (m : WireMessage) (rest : List WireMessage) :
    requestBytes (m :: rest) = m.bytes ++ requestBytes rest := List.flatMap_cons

theorem complete_append (done rest : List WireMessage) (n : Nat) :
    complete (done ++ rest) ((requestBytes done).length + n) = done ++ complete rest n := by
  induction done with
  | nil =>
    change complete rest (0 + n) = complete rest n
    rw [Nat.zero_add]
  | cons m done ih =>
    have hlen : (requestBytes (m :: done)).length + n - m.bytes.length = (requestBytes done).length + n := by
      rw [requestBytes_cons, List.length_append]
      omega
    rw [List.cons_append, complete, if_pos, hlen, ih, List.cons_append]
    rw [requestBytes_cons, List.length_append]
    omega

theorem complete_zero (rest : List WireMessage) : complete rest 0 = [] := by
  cases rest with
  | nil => rfl
  | cons m rest =>
    have hpos := List.length_pos_iff.mpr m.bytes_ne_nil
    exact if_neg (Nat.not_le.mpr hpos)

theorem complete_within (h : before.length < m.bytes.length) :
    complete (done ++ m :: rest) ((requestBytes done).length + before.length) = done := by
  rw [complete_append, complete, if_neg (Nat.not_le.mpr h), List.append_nil]

theorem complete_all (done rest : List WireMessage) :
    complete (done ++ rest) (requestBytes done).length = done := by
  have h := complete_append done rest 0
  rwa [Nat.add_zero, complete_zero, List.append_nil] at h

theorem unfinished_within (split : m.bytes = before ++ after) (h : after ≠ []) :
    unfinished (done ++ m :: rest) ((requestBytes done).length + before.length) = before := by
  have hlt : before.length < m.bytes.length := by
    rw [split, List.length_append]
    exact Nat.lt_add_of_pos_right (List.length_pos_iff.mpr h)
  rw [unfinished, complete_within hlt, requestBytes_append, requestBytes_cons, split]
  simp [List.take_append]

theorem unfinished_all (done rest : List WireMessage) :
    unfinished (done ++ rest) (requestBytes done).length = [] := by
  rw [unfinished, complete_all, requestBytes_append, List.take_left', List.drop_length]
  rfl

end Stream

/-! ## What BSMP is handed -/

/-- Of the requests, `n` bytes have come in: BSMP has been handed those that are complete, after the calls
`handed`, and what there is of the next is in the buffer. -/
structure Handed (requests : List WireMessage) (handed : List (List UInt8)) (n : Nat) (a : Ethernet σ) : Prop where
  inv : a.Inv
  newMessage : a.newMessage = false
  held : a.rxBuffer.held = unfinished requests n
  calls : a.calls.map Prod.fst = handed ++ (complete requests n).map WireMessage.bytes

section Handed

variable {requests done rest : List WireMessage} {handed : List (List UInt8)} {n : Nat} {a a' : Ethernet σ}
  {conn : Connection}

@[simp] theorem flushed_calls (a : Ethernet σ) (conn : Connection) : (a.flushed conn).calls = a.calls := by
  unfold Ethernet.flushed
  split <;> rfl

theorem Handed.flushed (h : Handed requests handed n a) (conn : Connection) :
    Handed requests handed n (a.flushed conn) where
  inv := h.inv.flushed conn
  newMessage := (flushed_newMessage a conn).trans h.newMessage
  held := by rw [flushed_rxBuffer, h.held]
  calls := by rw [flushed_calls, h.calls]

/-- Nothing comes in. -/
theorem Handed.nothing (h : Handed requests handed n a) {e : EthernetEvent}
    (he : e = .input conn none ∨ e = .periodic conn) (hs : a.step md5 e = .ok a') :
    Handed requests handed n a' := by
  have hcall := httpdAppcall_none h.inv.sendable conn
  have hflushed : a.step md5 e = .ok (a.flushed conn) := by
    rcases he with rfl | rfl
    · rw [Ethernet.step, hcall, ok_bind, flushed_newMessage, h.newMessage]
      rfl
    · exact hcall
  cases hs.symm.trans hflushed
  exact h.flushed conn

/-- The next bytes of the request that is being received come in. -/
theorem Handed.bytes (h : Handed (done ++ rest) handed n a) {m : WireMessage} {ms : List WireMessage}
    (hrest : rest = m :: ms) {before bytes after : List UInt8} (split : m.bytes = before ++ bytes ++ after)
    (hn : n = (requestBytes done).length + before.length) (hbytes : bytes ≠ [])
    (hs : a.step md5 (.input conn (some bytes)) = .ok a') :
    Handed (done ++ rest) handed (n + bytes.length) a' := by
  subst hrest hn
  have split' : m.bytes = before ++ (bytes ++ after) := by rw [split, List.append_assoc]
  have hnew : bytes ++ after ≠ [] := by simp [hbytes]
  have hshort : before.length < m.bytes.length := by
    rw [split', List.length_append]
    exact Nat.lt_add_of_pos_right (List.length_pos_iff.mpr hnew)
  have hheld : a.rxBuffer.held = before := h.held.trans (unfinished_within split' hnew)
  have hcalls := h.calls
  rw [complete_within hshort] at hcalls
  obtain ⟨_, hcall, -⟩ := bind_ok_iff.mp hs
  have hroom := httpdAppcall_room h.inv hcall
  have hheld' : (a.rxBuffer.append bytes).held = before ++ bytes := by rw [Buffer.held_append, hheld]
  have hrecv : (a.received bytes).Inv := ⟨h.inv.sys, h.inv.sendable, hroom⟩
  have hcomplete := WireMessage.complete_iff hheld' split
  rw [Ethernet.step, httpdAppcall_some h.inv.sendable conn hroom, ok_bind, flushed_newMessage] at hs
  have hsum : (requestBytes done).length + before.length + bytes.length =
      (requestBytes done).length + (before ++ bytes).length := by rw [List.length_append, Nat.add_assoc]
  by_cases hafter : after = []
  · -- The last byte: the request is complete.
    have hall : m.bytes = before ++ bytes := by rw [split, hafter, List.append_nil]
    have hdone : (requestBytes done).length + (before ++ bytes).length = (requestBytes (done ++ [m])).length := by
      rw [requestBytes_append, List.length_append, requestBytes_cons, hall]
      simp [requestBytes]
    have hsplit : done ++ m :: ms = (done ++ [m]) ++ ms := by simp
    have hmessage : (a.received bytes).newMessage = true := if_pos (hcomplete.mpr hafter)
    rw [if_pos hmessage] at hs
    obtain ⟨a₁, hproc, hsys, hrx, hidle, -, hsendable, -, hlog⟩ :=
      ethernetProcessCmd_ok md5 (s := { (a.received bytes).flushed conn with newMessage := false })
        (hrecv.flushed conn).sys (hrecv.flushed conn).index
    cases hs.symm.trans hproc
    rw [hsum, hdone, hsplit]
    refine ⟨⟨hsys, hsendable, by rw [hrx]; exact Nat.zero_le _⟩, hidle, ?_, ?_⟩
    · rw [hrx, unfinished_all]
      rfl
    · have hrequest : ((a.received bytes).flushed conn).rxBuffer.held = m.bytes := by
        rw [flushed_rxBuffer, hall]
        exact hheld'
      have hlogged : ((a.received bytes).flushed conn).calls = a.calls := flushed_calls _ _
      rw [complete_all, hlog, List.map_append, hlogged, hcalls, hrequest]
      simp
  · have hmessage : (a.received bytes).newMessage = false := by
      rw [← h.newMessage]
      exact if_neg fun hc => hafter (hcomplete.mp hc)
    rw [hmessage, if_neg (by simp)] at hs
    cases hs
    rw [hsum]
    refine ⟨hrecv.flushed conn, ?_, ?_, ?_⟩
    · rw [flushed_newMessage, hmessage]
    · rw [unfinished_within split hafter, flushed_rxBuffer]
      exact hheld'
    · have hshort' : (before ++ bytes).length < m.bytes.length := by
        have hlen : (before ++ bytes ++ after).length = (before ++ bytes).length + after.length :=
          List.length_append
        rw [split, hlen]
        exact Nat.lt_add_of_pos_right (List.length_pos_iff.mpr hafter)
      rw [complete_within hshort', flushed_calls]
      exact hcalls

end Handed

/-! ## Segments of requests -/

section NewData

variable {τ : Type} {app : App τ} {s : Stack τ} {i : Connection} {p : Packet} {fuel : Nat} {c c' : Conn}
  {calls : List AppCall} {call : AppCall}

/-- Where new data comes from: a segment with the number that the connection expects. -/
structure Brought (c : Conn) (p : Packet) (call : AppCall) : Prop where
  state : c.state = .synRcvd ∨ c.state = .established
  lport : call.lport = c.lport
  data : ¬ p.has tcpUrg → p.dataLen > 0 ∧ p.seqno = c.rcvNxt ∧ call.data = appdata p 0 p.dataLen

theorem Turn.brought (h : Turn app i p c calls c') (hcall : call ∈ calls) (hnew : call.flags.newdata) :
    Brought c p call := by
  cases h with
  | unexpected | ignored | window => cases hcall
  | connected hstate hack hnext hanswers =>
    obtain rfl := List.mem_singleton.mp hcall
    have hlen : p.dataLen > 0 := of_decide_eq_true hnew
    exact ⟨.inl hstate, rfl, fun _ => ⟨hlen, expected_seqno (by simp [hstate]) hnext (.inl hlen), rfl⟩⟩
  | finished hstate hfin hnext =>
    obtain rfl := List.mem_singleton.mp hcall
    have hlen : p.dataLen > 0 := of_decide_eq_true hnew
    exact ⟨.inr hstate, rfl, fun _ => ⟨hlen, expected_seqno (by simp [hstate]) hnext (.inl hlen), rfl⟩⟩
  | data hstate hfin hnext skip hskip =>
    obtain rfl := List.mem_singleton.mp hcall
    refine ⟨.inr hstate, rfl, fun hurg => ?_⟩
    rw [if_neg hurg] at hskip
    subst hskip
    have hlen : p.dataLen - 0 > 0 := of_decide_eq_true hnew
    rw [UInt16.sub_zero] at hlen ⊢
    exact ⟨hlen, expected_seqno (by simp [hstate]) hnext (.inl hlen), rfl⟩
  | closed =>
    obtain rfl := List.mem_singleton.mp hcall
    cases hnew
  | ending _ hcalls =>
    rcases hcalls with rfl | ⟨data, rfl⟩
    · cases hcall
    · obtain rfl := List.mem_singleton.mp hcall
      cases hnew

/-- New data comes in a segment, on the connection that it belongs to. -/
theorem process_brought {e : Event} {r : Stack τ × Output} (h : Table s) (hr : process fuel app s e = .ok r)
    (hcalls : r.1.calls = s.calls ++ calls) (hcall : call ∈ calls) (hnew : call.flags.newdata) :
    ∃ q, s.segment e = some q ∧ s.found? q = some call.conn ∧ ¬ q.has tcpRst ∧
      Brought (s.conns call.conn) q call := by
  cases process_step (fun k => (h.sound k).unsent) hr with
  | apart _ hsame =>
    have hlog := hcalls.symm.trans hsame.calls
    rw [List.append_right_eq_self.mp hlog] at hcall
    cases hcall
  | aborted hp hfound hrst hserved hout =>
    obtain rfl := List.mem_singleton.mp (hserved.mem_calls hcalls hcall)
    cases hnew
  | @turn q j hp hfound hrst calls' c hturn out hserved hout =>
    have hmem := hserved.mem_calls hcalls hcall
    obtain rfl := hturn.calls_conn call hmem
    exact ⟨q, hp, hfound, hrst, hturn.brought hmem hnew⟩
  | opened hp hopened hserved hout => cases hserved.mem_calls hcalls hcall
  | tick he htick hserved hclosed hout =>
    have hnone := htick.calls_newdata call (hserved.mem_calls hcalls hcall)
    rw [hnew] at hnone
    cases hnone

end NewData

/-- A segment of a client, when `d` bytes of its requests have been delivered. -/
inductive CutRequest (isn : UInt32) (requests : List WireMessage) (d : Nat) (p : Packet) : Prop
  | empty (hlen : p.dataLen = 0) (hfin : ¬ p.has tcpFin) (hurg : ¬ p.has tcpUrg)
  /-- Bytes of the request `m`, behind `before`; with a FIN if they are the last of all. -/
  | bytes (done : List WireMessage) (m : WireMessage) (rest : List WireMessage)
      (hrequests : requests = done ++ m :: rest) (before after : List UInt8)
      (split : m.bytes = before ++ appdata p 0 p.dataLen ++ after)
      (hseqno : p.seqno = isn + 1 + UInt32.ofNat ((requestBytes done).length + before.length))
      (hnear : (requestBytes done).length + before.length < d + 2 ^ 32 ∧
        d < (requestBytes done).length + before.length + 2 ^ 32)
      (hlen : p.dataLen < 65535) (hfin : p.has tcpFin → after = [] ∧ rest = []) (hurg : ¬ p.has tcpUrg)

@[simp] theorem appdata_length (p : Packet) (skip : Nat) (n : UInt16) : (appdata p skip n).length = n.toNat := by
  simp [appdata]

theorem CutRequest.cut {isn : UInt32} {requests : List WireMessage} {d : Nat} {p : Packet}
    (h : CutRequest isn requests d p) : Cut isn (requestBytes requests) d p := by
  cases h with
  | empty hlen hfin hurg => exact .empty hlen hfin hurg
  | bytes done m rest hrequests before after split hseqno hnear hlen hfin hurg =>
    have hstream : requestBytes requests =
        (requestBytes done ++ before) ++ (appdata p 0 p.dataLen ++ (after ++ requestBytes rest)) := by
      rw [hrequests, requestBytes_append, requestBytes_cons, split]
      simp only [List.append_assoc]
    have hbefore : (requestBytes done ++ before).length = (requestBytes done).length + before.length :=
      List.length_append
    refine .bytes _ hseqno hnear hlen ?_ ?_ (fun h => ?_) hurg
    · rw [hstream, ← hbefore, List.drop_left, ← appdata_length p 0 p.dataLen, List.take_left]
    · rw [hstream]
      simp only [List.length_append, appdata_length]
      omega
    · obtain ⟨rfl, rfl⟩ := hfin h
      rw [hstream]
      simp [requestBytes, Nat.add_assoc]

/-- The connection is open, what comes for it is from the client, and no other connection brings data. -/
structure FromClient (i : Connection) (isn : UInt32) (requests : List WireMessage) (base : Nat)
    (s : Link (Ethernet σ)) (e : Event) : Prop where
  opened : (s.stack.conns i).state ≠ .closed ∧ (s.stack.conns i).state ≠ .timeWait
  cut : ∀ q, s.stack.segment e = some q → q.BelongsTo (s.stack.conns i) → ¬ q.has tcpRst →
    CutRequest isn requests (s.stack.got i base).length q
  alone : ∀ q j, s.stack.segment e = some q → s.stack.found? q = some j → j ≠ i →
    q.dataLen = 0 ∧ ¬ q.has tcpUrg

/-! ## Over runs -/

structure Receiving (i : Connection) (isn : UInt32) (requests : List WireMessage) (base : Nat)
    (handed : List (List UInt8)) (s : Link (Ethernet σ)) : Prop where
  delivering : Delivering i isn (requestBytes requests) base s.stack
  lport : (s.stack.conns i).lport = 80
  handed : Handed requests handed (s.stack.got i base).length s.stack.app

section Step

variable {fuel : Nat} {i : Connection} {isn : UInt32} {requests : List WireMessage} {base : Nat}
  {handed : List (List UInt8)} {s s' : Link (Ethernet σ)} {e : Event} {r : Stack (Ethernet σ) × Output}
  {call : AppCall} {a₁ a₂ : Ethernet σ}

theorem AppCall.event_of_nothing (h : call.flags.newdata = false) : call.event = none ∨
    ∃ event conn, call.event = some event ∧ (event = .input conn none ∨ event = .periodic conn) := by
  unfold event
  rw [h]
  split
  · exact .inl rfl
  · split
    · exact .inr ⟨_, _, rfl, .inr rfl⟩
    · exact .inr ⟨_, _, rfl, .inl rfl⟩

/-- A call without new data. -/
theorem Receiving.nothing (h : Receiving i isn requests base handed s) (hnew : call.flags.newdata = false)
    (hevent : Runs.run (Ethernet.step md5) s.stack.app call.event.toList = .ok a₂) :
    Handed requests handed (s.stack.got i base).length a₂ := by
  rcases call.event_of_nothing hnew with hnone | ⟨event, conn, hsome, he⟩
  · rw [hnone] at hevent
    cases hevent
    exact h.handed
  · rw [hsome] at hevent
    exact h.handed.nothing he ((Runs.run_singleton ..).symm.trans hevent)

/-- New data on the connection. -/
theorem Receiving.data (h : Receiving i isn requests base handed s) {q : Packet}
    (hcut : CutRequest isn requests (s.stack.got i base).length q) (hbrought : Brought (s.stack.conns i) q call)
    (hconn : call.conn = i) (hnew : call.flags.newdata) (htimed : call.timed = false)
    (hevent : Runs.run (Ethernet.step md5) s.stack.app call.event.toList = .ok a₂) :
    Handed requests handed ((s.stack.got i base).length + call.data.length) a₂ := by
  have hinput : call.event = some (.input i (some call.data)) := by
    rw [AppCall.event, if_neg (by simp [hbrought.lport, h.lport]), if_neg (by simp [htimed]), if_pos hnew, hconn]
  rw [hinput] at hevent
  have hstep := (Runs.run_singleton ..).symm.trans hevent
  obtain ⟨hlen, hseq, hdata⟩ := hbrought.data hcut.cut.not_urg
  cases hcut with
  | empty hnone => simp [hnone] at hlen
  | bytes done m rest hrequests before after split hseqno hnear =>
    have hat : q.seqno = _ := hseq.trans (h.delivering.expects.next hbrought.state)
    have hn := byte_unique hnear (hseqno.symm.trans hat)
    subst hrequests
    refine h.handed.bytes rfl (hdata ▸ split) hn.symm ?_ hstep
    intro hnil
    have hzero : (appdata q 0 q.dataLen).length = 0 := by rw [← hdata, hnil, List.length_nil]
    rw [appdata_length] at hzero
    exact absurd (UInt16.lt_iff_toNat_lt.mp hlen) (by simp [hzero])

/-- A call hands on what has been delivered with it. -/
theorem Receiving.calls (h : Receiving i isn requests base handed s) (hfrom : FromClient i isn requests base s e)
    (hr : process fuel httpdApp s.stack e = .ok r) (hcalls : r.1.calls = s.stack.calls ++ [call])
    (hseen : Seen httpdApp s.stack e r [call]) (hcall : App.step httpdApp s.stack.app call = .ok a₁)
    (hmain : ethernetMain md5 e a₁ = .ok a₂) :
    Handed requests handed (r.1.got i base).length a₂ := by
  have htimed := hseen.timed call (by simp)
  obtain ⟨hevent, -⟩ := ethernetMain_event h.handed.newMessage htimed hcall hmain
  have hgot := got_append (i := i) h.delivering.logged hcalls
  rw [delivered_singleton] at hgot
  cases hnew : call.flags.newdata with
  | false =>
    rw [hgot, if_neg (by simp [hnew]), List.append_nil]
    exact h.nothing hnew hevent
  | true =>
    obtain ⟨q, hq, hfound, hrst, hbrought⟩ := process_brought h.delivering.table hr hcalls (by simp) hnew
    have hin : call.timed = false := by
      rcases htimed with ⟨-, hno, -⟩ | ⟨hno, -⟩
      · rw [hnew] at hno
        cases hno
      · exact hno
    by_cases hconn : call.conn = i
    · obtain ⟨-, hdest, hsrc, hip⟩ := found?_some hfound
      rw [hconn] at hbrought hdest hsrc hip
      rw [hgot, if_pos ⟨hconn, hnew⟩, List.length_append]
      exact h.data (hfrom.cut q hq ⟨hdest, hsrc, hip⟩ hrst) hbrought hconn hnew hin hevent
    · obtain ⟨hlen, hurg⟩ := hfrom.alone q _ hq hfound hconn
      have hdata := (hbrought.data hurg).1
      simp [hlen] at hdata

theorem Receiving.step (h : Receiving i isn requests base handed s) (hfrom : FromClient i isn requests base s e)
    (hs : s.step fuel httpdApp (ethernetMain md5) e = .ok s') : Receiving i isn requests base handed s' := by
  have hpeer : ∀ q, s.stack.segment e = some q → q.BelongsTo (s.stack.conns i) → ¬ q.has tcpRst →
      Cut isn (requestBytes requests) (s.stack.got i base).length q :=
    fun q hq hto hrst => (hfrom.cut q hq hto hrst).cut
  obtain ⟨r, hr, hs⟩ := bind_ok_iff.mp hs
  obtain ⟨a₂, hmain, hs⟩ := bind_ok_iff.mp hs
  cases hs
  obtain ⟨calls, hgives⟩ := h.delivering.step hfrom.opened hpeer hr
  obtain ⟨calls', hseen⟩ := process_seen h.delivering.table hr
  obtain rfl : calls' = calls := List.append_cancel_left (hseen.logged.symm.trans hgives.logged)
  have hsame := process_samePeer h.delivering.table hfrom.opened hr
  refine ⟨hgives.delivering.withApp a₂, hsame.lport.trans h.lport, ?_⟩
  have hlength := hgives.length
  have hran := hseen.ran
  cases calls' with
  | nil =>
    rw [← Except.ok.inj hran] at hmain
    cases ethernetMain_idle h.handed.newMessage hmain
    have hgot := got_append (i := i) h.delivering.logged hgives.logged
    rw [delivered_nil, List.append_nil] at hgot
    exact hgot ▸ h.handed
  | cons call calls' =>
    obtain rfl : calls' = [] := List.length_eq_zero_iff.mp (by simpa using hlength)
    obtain ⟨a₁, hcall, hran⟩ := bind_ok_iff.mp hran
    rw [← Except.ok.inj hran] at hmain
    exact h.calls hfrom hr hgives.logged hseen hcall hmain

end Step

def versionRequest : WireMessage := ⟨0, 0, 0, [], declared_nil⟩
end UdcFirmware.Uip
