/-
Responses over TCP. `httpd_appcall` gives a response to `uip_send` once, and
never asks whether uIP wants it again (`uip_rexmit`). So a response goes out in
at most one segment (`responses_sent_once`): if that is lost, it is.

uIP sends as many bytes as are outstanding, whatever the application has given
it. So the segment may be longer than the response, or hold another; it is the
beginning of the response if no client has one call follow another without
acknowledging what is outstanding (`segments_begin_responses`).
-/
import UdcFirmware.Uip.Httpd
import UdcFirmware.Uip.Sending

namespace UdcFirmware.Uip

open Bsmp ByteMem Checked Drivers Filling

variable {σ : Type} {md5 : Md5}

/-! ## What a segment holds -/

/-- The segments with data. -/
def dataSegments (sent : List Output) : List Packet :=
  (sent.filterMap Output.segment).filter fun q => q.payload ≠ []

/-- As far as both go, a segment holds the response. -/
def Holds (q : Packet) (response : List UInt8) : Prop := q.payload <+: response ∨ response <+: q.payload

theorem prefix_bytesOf (f : Nat → UInt8) {m n : Nat} (h : m ≤ n) : bytesOf f m <+: bytesOf f n := by
  obtain ⟨k, rfl⟩ := Nat.exists_eq_add_of_le h
  rw [bytesOf, bytesOf, List.range_add, List.map_append]
  exact List.prefix_append _ _

theorem payload_eq {q : Packet} {n : UInt16} (hlen : q.len = n + 40) (hoffset : q.tcpoffset = 0x50) :
    q.payload = bytesOf q.data n.toNat := by
  have hdata : q.dataLen = n := by
    have hheader : (((0x50 : UInt8) >>> 4) <<< 2).toUInt16 = 20 := by decide
    rw [Packet.dataLen, hlen, hoffset, hheader]
    grind
  rw [Packet.payload, hdata, appdata, bytesOf]
  simp

/-! ## What is given to `uip_send` -/

section Sends

variable {a a' : Ethernet σ} {conn : Connection} {call : AppCall} {reply : AppReply}

theorem newdata_same {bytes : List UInt8} (h : a.newdata bytes = .ok a') :
    a'.sends = a.sends ∧ a'.newDataSend = a.newDataSend ∧ a'.pending = a.pending := by
  unfold Ethernet.newdata at h
  split at h
  · obtain ⟨rxBuffer, -, h⟩ := bind_ok_iff.mp h
    cases h
    exact ⟨rfl, rfl, rfl⟩
  · cases h
    exact ⟨rfl, rfl, rfl⟩

theorem uipSend_sends (h : a.uipSend conn a.responseToClient = .ok a') :
    a'.sends = a.sends ++ (if a.pending = [] then [] else [(conn, a.pending)]) := by
  have hlength : a.pending.length = a.responseToClient.length.toNat := load_length _ _
  unfold Ethernet.uipSend at h
  split at h
  · next hpos =>
    have hne : a.pending ≠ [] := by
      rw [← hlength] at hpos
      exact List.length_pos_iff.mp hpos
    split at h
    · cases h
      rw [if_neg hne]
      rfl
    · cases h
  · next hzero =>
    cases h
    have hnil : a.pending = [] := by
      rw [← hlength] at hzero
      exact List.length_eq_zero_iff.mp (Nat.eq_zero_of_not_pos hzero)
    rw [if_pos hnil, List.append_nil]

theorem httpdAppcall_sends {data : Option (List UInt8)} (h : httpdAppcall a conn data = .ok a') :
    a'.sends = a.sends ++ (if a.newDataSend = false ∨ a.pending = [] then [] else [(conn, a.pending)]) := by
  have hwaits {a₁ : Ethernet σ}
      (hsame : a₁.sends = a.sends ∧ a₁.newDataSend = a.newDataSend ∧ a₁.pending = a.pending)
      (h : (if a₁.newDataSend then do
          let s ← a₁.uipSend conn a₁.responseToClient
          return { s with newDataSend := false }
        else return a₁) = .ok a') :
      a'.sends = a.sends ++ (if a.newDataSend = false ∨ a.pending = [] then [] else [(conn, a.pending)]) := by
    obtain ⟨hsends, hnew, hpending⟩ := hsame
    rw [← hsends, ← hnew, ← hpending]
    split at h
    · next hd =>
      obtain ⟨a₂, hsend, h⟩ := bind_ok_iff.mp h
      cases h
      simpa only [hd, Bool.true_eq_false, false_or] using uipSend_sends hsend
    · next hd =>
      cases h
      rw [if_pos (.inl (Bool.eq_false_iff.mpr hd)), List.append_nil]
  cases data with
  | none => exact hwaits ⟨rfl, rfl, rfl⟩ h
  | some bytes =>
    obtain ⟨a₁, hdata, h⟩ := bind_ok_iff.mp h
    exact hwaits (newdata_same hdata) h

/-- What the application gives uIP is logged, unless it is nothing. -/
theorem httpdApp_sends (h : httpdApp call a = .ok (reply, a')) :
    a'.sends = a.sends ++ (if reply.send = [] then [] else [(call.conn, reply.send)]) := by
  unfold httpdApp at h
  split at h
  · obtain ⟨a₁, hcall, h⟩ := bind_ok_iff.mp h
    cases h
    rw [httpdAppcall_sends hcall]
    cases a.newDataSend <;> simp
  · cases h
    rw [if_pos rfl, List.append_nil]

/-- It gives uIP something only if a response waits. -/
theorem httpdApp_waits (h : httpdApp call a = .ok (reply, a')) (hsend : reply.send ≠ []) :
    a.newDataSend = true := by
  unfold httpdApp at h
  split at h
  · obtain ⟨a₁, hcall, h⟩ := bind_ok_iff.mp h
    cases h
    by_contra hnone
    exact hsend (if_neg hnone)
  · cases h
    exact absurd rfl hsend

theorem ethernetMain_sends {e : Event} (h : ethernetMain md5 e a = .ok a') : a'.sends = a.sends := by
  cases e with
  | input =>
    simp only [ethernetMain] at h
    split at h
    · obtain ⟨a₁, hproc, h⟩ := bind_ok_iff.mp h
      cases h
      obtain ⟨⟨sys, response⟩, -, hproc⟩ := bind_ok_iff.mp hproc
      dsimp only at hproc
      split at hproc
      · cases hproc
      · cases hproc
        rfl
    · cases h
      rfl
  | periodic =>
    cases h
    rfl

end Sends

/-! ## A step -/

/-- The event is one for the connection. -/
def Stack.Serves {τ : Type} (s : Stack τ) (e : Event) (i : Connection) : Prop :=
  (∃ p, e = .periodic i p) ∨ ∃ p, s.segment e = some p ∧ s.found? p = some i

theorem process_serves {τ : Type} {app : App τ} {fuel : Nat} {s : Stack τ} {e : Event} {r : Stack τ × Output}
    {calls : List AppCall} {call : AppCall} (h : Table s) (hr : process fuel app s e = .ok r)
    (hcalls : r.1.calls = s.calls ++ calls) (hcall : call ∈ calls) : s.Serves e call.conn := by
  cases process_step (fun k => (h.sound k).unsent) hr with
  | apart _ hsame =>
    have hlog := hcalls.symm.trans hsame.calls
    rw [List.append_right_eq_self.mp hlog] at hcall
    cases hcall
  | aborted hp hfound hrst hserved hout =>
    obtain rfl := List.mem_singleton.mp (hserved.mem_calls hcalls hcall)
    exact .inr ⟨_, hp, hfound⟩
  | turn hp hfound hrst hturn hserved hout =>
    obtain rfl := hturn.calls_conn call (hserved.mem_calls hcalls hcall)
    exact .inr ⟨_, hp, hfound⟩
  | opened hp hopened hserved hout => cases hserved.mem_calls hcalls hcall
  | tick he htick hserved hclosed hout =>
    obtain rfl := htick.calls_conn call (hserved.mem_calls hcalls hcall)
    exact .inl ⟨_, he⟩

section Step

variable {fuel : Nat} {s s' : Link (Ethernet σ)} {e : Event} {r : Stack (Ethernet σ) × Output} {a₂ : Ethernet σ}
  {q : Packet}

/-- The segment holds the response, which is for the connection that the event is one for. -/
structure Answering (s : Link (Ethernet σ)) (e : Event) (q : Packet) (response : Connection × List UInt8) :
    Prop where
  holds : Holds q response.2
  waits : s.stack.app.newDataSend = true
  serves : s.stack.Serves e response.1
  begins : (s.stack.heard e response.1).len = 0 → q.payload <+: response.2

/-- A segment with data holds what the application has given uIP in the call before it. -/
theorem Emits.answers (htable : Table s.stack) {i : Connection}
    (hr : process fuel httpdApp s.stack e = .ok r)
    (h : Emits httpdApp s.stack.app s.stack.calls i (s.stack.heard e i) (r.1, some q)) (hdata : q.payload ≠ []) :
    ∃ call reply a', r.1.calls = s.stack.calls ++ [call] ∧ httpdApp call s.stack.app = .ok (reply, a') ∧
      reply.send ≠ [] ∧ Answering s e q (call.conn, reply.send) := by
  cases h with
  | nothing h => cases h
  | bare q' h hmade hbare =>
    cases h
    exact absurd hbare.payload hdata
  | data q' h hmade call hcalls hconn reply a' happ hsend hshort hlen hoffset hbytes hcut =>
    cases h
    subst hconn
    have hpayload := payload_eq hlen hoffset
    have hserves := process_serves htable hr hcalls (List.mem_singleton_self call)
    refine ⟨call, reply, a', hcalls, happ, hsend, ?_, httpdApp_waits happ hsend, hserves, fun hnone => ?_⟩
    · rw [Holds, hpayload]
      rcases Nat.le_total (r.1.conns call.conn).len.toNat reply.send.length with hle | hle
      · left
        exact hbytes ▸ prefix_bytesOf q.data hle
      · right
        exact (congrArg (· <+: _) hbytes).mp (prefix_bytesOf q.data hle)
    · rw [hpayload]
      exact (congrArg (_ <+: ·) hbytes).mp (prefix_bytesOf q.data (hcut hnone))

/-- What a call of `uip_process` sends, and what it has given uIP. -/
theorem responses_step (htable : Table s.stack) (hr : process fuel httpdApp s.stack e = .ok r)
    (hmain : ethernetMain md5 e r.1.app = .ok a₂) :
    ∃ responses, a₂.sends = s.stack.app.sends ++ responses ∧
      ∀ q, r.2 = .tcp q → q.payload ≠ [] → ∃ response, responses = [response] ∧ Answering s e q response := by
  have hsends := ethernetMain_sends hmain
  obtain ⟨calls, hseen⟩ := process_seen htable hr
  have hran := hseen.ran
  have hemits {q : Packet} (hq : r.2 = .tcp q) := process_emits (fun k => (htable.sound k).unsent) hr hq
  cases calls with
  | nil =>
    rw [← Except.ok.inj hran] at hsends
    refine ⟨[], by rw [hsends, List.append_nil], fun q hq hdata => ?_⟩
    obtain ⟨i, h⟩ := hemits hq
    obtain ⟨call, reply, a', hcalls, -⟩ := h.answers htable hr hdata
    have hlog := List.append_cancel_left (hcalls.symm.trans hseen.logged)
    cases hlog
  | cons call calls =>
    obtain rfl : calls = [] := List.length_eq_zero_iff.mp (by simpa using hseen.length)
    obtain ⟨a₁, hcall, hran⟩ := bind_ok_iff.mp hran
    obtain ⟨⟨reply, a'⟩, happ, hcall⟩ := bind_ok_iff.mp hcall
    cases hcall
    rw [← Except.ok.inj hran] at hsends
    refine ⟨if reply.send = [] then [] else [(call.conn, reply.send)], hsends.trans (httpdApp_sends happ),
      fun q hq hdata => ?_⟩
    obtain ⟨i, h⟩ := hemits hq
    obtain ⟨call', reply', a'', hcalls, happ', hsend, hanswering⟩ := h.answers htable hr hdata
    obtain rfl : call = call' := by
      have hlog := List.append_cancel_left (hseen.logged.symm.trans hcalls)
      exact (List.cons.inj hlog).1
    cases happ.symm.trans happ'
    exact ⟨_, if_neg hsend, hanswering⟩

end Step

/-! ## The driver's part -/

/-- What has been given to `uip_send` are responses of BSMP; one that waits has not. -/
structure Sends (a : Ethernet σ) : Prop where
  inv : a.Inv
  sent : (a.sends.map Prod.snd).Sublist (a.calls.map Prod.snd)
  waiting : a.newDataSend = true → ∃ calls call, a.calls = calls ++ [call] ∧ call.2 = a.pending ∧
    (a.sends.map Prod.snd).Sublist (calls.map Prod.snd)

section Driver

variable {a a' : Ethernet σ}

theorem Sends.flushed (h : Sends a) (conn : Connection) :
    Sends (a.flushed conn) := by
  refine ⟨h.inv.flushed conn, ?_, fun hd => ?_⟩
  · unfold Ethernet.flushed
    split
    · next hd =>
      obtain ⟨calls, call, hcalls, hpending, hsub⟩ := h.waiting hd
      simp only [hcalls, List.map_append, List.map_cons, List.map_nil, ← hpending]
      exact hsub.append_right _
    · exact h.sent
  · rw [flushed_newDataSend] at hd
    cases hd

theorem Sends.processed (h : Sends a) (hs : ethernetProcessCmd md5 a = .ok a') :
    Sends a' := by
  obtain ⟨a₁, hproc, hsys, hrecv, -, -, hsendable, hsends, hcalls⟩ :=
    ethernetProcessCmd_ok md5 h.inv.sys h.inv.index
  cases hs.symm.trans hproc
  refine ⟨⟨hsys, hsendable, by rw [hrecv]; exact Nat.zero_le _⟩, ?_, fun _ => ?_⟩
  · rw [hsends, hcalls, List.map_append]
    exact h.sent.trans (List.sublist_append_left ..)
  · exact ⟨a.calls, _, hcalls, rfl, by rw [hsends]; exact h.sent⟩

theorem Sends.step {e : EthernetEvent} (h : Sends a) (hs : a.step md5 e = .ok a') :
    Sends a' := by
  have hafter {a₁ : Ethernet σ} (h₁ : Sends a₁)
      (hs : (if a₁.newMessage then ethernetProcessCmd md5 { a₁ with newMessage := false } else pure a₁) = .ok a') :
      Sends a' := by
    split at hs
    · exact Sends.processed (a := { a₁ with newMessage := false })
        ⟨⟨h₁.inv.sys, h₁.inv.sendable, h₁.inv.index⟩, h₁.sent, h₁.waiting⟩ hs
    · cases hs
      exact h₁
  cases e with
  | periodic conn =>
    cases hs.symm.trans (httpdAppcall_none h.inv.sendable conn)
    exact h.flushed conn
  | input conn data =>
    obtain ⟨a₁, hcall, hs⟩ := bind_ok_iff.mp hs
    refine hafter ?_ hs
    cases data with
    | none =>
      cases hcall.symm.trans (httpdAppcall_none h.inv.sendable conn)
      exact h.flushed conn
    | some bytes =>
      have hroom := httpdAppcall_room h.inv hcall
      cases hcall.symm.trans (httpdAppcall_some h.inv.sendable conn hroom)
      exact Sends.flushed (a := a.received bytes)
        ⟨⟨h.inv.sys, h.inv.sendable, hroom⟩, h.sent, h.waiting⟩ conn

theorem sends_powerUp (r : Routines σ) (world : World σ) : Sends (Ethernet.powerUp r world) :=
  ⟨(Receivers.inv_powerUp r world).ethernet, List.Sublist.refl _, fun hd => by cases hd⟩

end Driver

/-! ## Over runs -/

/-- The segments with data are of the responses, each of another one, and in their order. -/
structure Matched (md5 : Md5) (r : Routines σ) (world : World σ) (R : Packet → List UInt8 → Prop)
    (s : Link (Ethernet σ)) : Prop where
  driven : Driven md5 r world s
  exists_sublist : ∃ responses : List (List UInt8), responses.Sublist (s.stack.app.sends.map Prod.snd) ∧
    List.Forall₂ R (dataSegments s.sent) responses

section Runs

variable {fuel : Nat} {r : Routines σ} {world : World σ} {s s' : Link (Ethernet σ)} {e : Event}
  {R : Packet → List UInt8 → Prop}

theorem Matched.step (h : Matched md5 r world R s)
    (hR : ∀ q response, Answering s e q response → R q response.2)
    (hs : s.step fuel httpdApp (ethernetMain md5) e = .ok s') : Matched md5 r world R s' := by
  have hdriven := h.driven.step hs
  obtain ⟨r, hr, hs⟩ := bind_ok_iff.mp hs
  obtain ⟨a₂, hmain, hs⟩ := bind_ok_iff.mp hs
  cases hs
  obtain ⟨sends, hsub, hmatch⟩ := h.exists_sublist
  obtain ⟨responses, hsends, hsegment⟩ := responses_step h.driven.table hr hmain
  refine ⟨hdriven, ?_⟩
  rw [hsends, List.map_append]
  have hsent : dataSegments (s.sent ++ [r.2]) = dataSegments s.sent ++ dataSegments [r.2] := by
    simp only [dataSegments, List.filterMap_append, List.filter_append]
  by_cases hdata : ∃ q, r.2 = .tcp q ∧ q.payload ≠ []
  · obtain ⟨q, hq, hdata⟩ := hdata
    obtain ⟨response, rfl, hanswering⟩ := hsegment q hq hdata
    have hone : dataSegments [r.2] = [q] := by simp [dataSegments, hq, Output.segment, hdata]
    refine ⟨sends ++ [response.2], hsub.append_right [response.2], ?_⟩
    · rw [hsent, hone]
      exact List.rel_append hmatch (.cons (hR q response hanswering) .nil)
  · have hnone : dataSegments [r.2] = [] := by
      rw [dataSegments, List.filter_eq_nil_iff]
      intro q hq hpayload
      obtain ⟨out, hout, hsome⟩ := List.mem_filterMap.mp hq
      rw [List.mem_singleton.mp hout] at hsome
      exact hdata ⟨q, Output.segment_eq_some.mp hsome, by simpa using hpayload⟩
    refine ⟨sends, hsub.trans (List.sublist_append_left ..), ?_⟩
    · rw [hsent, hnone, List.append_nil]
      exact hmatch

theorem Matched.responses (h : Matched md5 r world R s) :
    ∃ responses : List (List UInt8), responses.Sublist (s.stack.app.calls.map Prod.snd) ∧
      List.Forall₂ R (dataSegments s.sent) responses := by
  obtain ⟨responses, hsub, hmatch⟩ := h.exists_sublist
  have hsends := Runs.run_invariant (fun _ _ _ h hs => Sends.step h hs) (sends_powerUp r world)
    h.driven.refined
  exact ⟨responses, hsub.trans hsends.sent, hmatch⟩

/-- A device that has just been switched on has sent nothing. -/
theorem matched_powerUp (md5 : Md5) (hostaddr : IpAddr) (r : Routines σ) (world : World σ)
    (R : Packet → List UInt8 → Prop) : Matched md5 r world R (Device.powerUp hostaddr r world) :=
  ⟨⟨table_powerUp hostaddr _, rfl, rfl⟩, [], List.Sublist.refl _, .nil⟩

end Runs

/-- **Responses are sent once.** In every run, whatever is lost and whenever the timers fire, each segment with
data holds another one of the responses of BSMP, and they go out in their order. uIP asks for a response again,
but none is sent twice. -/
theorem responses_sent_once (fuel : Nat) (md5 : Md5) (hostaddr : IpAddr) (r : Routines σ) (world : World σ)
    (evs : List Event) (s : Link (Ethernet σ))
    (h : Runs.run (Link.step fuel httpdApp (ethernetMain md5)) (Device.powerUp hostaddr r world) evs = .ok s) :
    ∃ responses : List (List UInt8), responses.Sublist (s.stack.app.calls.map Prod.snd) ∧
      List.Forall₂ Holds (dataSegments s.sent) responses := by
  have hfinal := Runs.run_invariant (fun _ _ _ hm hs => hm.step (fun _ _ ha => ha.holds) hs)
    (matched_powerUp md5 hostaddr r world Holds) h
  exact hfinal.responses

/-- While a response waits, nothing comes for a connection with something outstanding that it does not
acknowledge, be it a segment or the timer. -/
def Patient (s : Link (Ethernet σ)) (e : Event) : Prop :=
  s.stack.app.newDataSend = true → ∀ i, s.stack.Serves e i → (s.stack.heard e i).len = 0

/-- **Segments are responses.** If every client waits for the response to a request, and acknowledges it before
it goes on, each segment with data is the beginning of another one of the responses, in their order. -/
theorem segments_begin_responses (fuel : Nat) (md5 : Md5) (hostaddr : IpAddr) (r : Routines σ) (world : World σ)
    (evs : List Event) (s : Link (Ethernet σ))
    (halong : Runs.Along (Link.step fuel httpdApp (ethernetMain md5)) Patient
      (Device.powerUp hostaddr r world) evs)
    (h : Runs.run (Link.step fuel httpdApp (ethernetMain md5)) (Device.powerUp hostaddr r world) evs = .ok s) :
    ∃ responses : List (List UInt8), responses.Sublist (s.stack.app.calls.map Prod.snd) ∧
      List.Forall₂ (fun q response => q.payload <+: response) (dataSegments s.sent) responses := by
  have hfinal := Runs.run_invariant_along (fun _ _ _ hm hpatient hs =>
    hm.step (fun _ _ ha => ha.begins (hpatient ha.waits _ ha.serves)) hs)
    (matched_powerUp md5 hostaddr r world fun q response => q.payload <+: response) halong h
  exact hfinal.responses

/-- A SYN with the option of the largest segment. -/
def mssSyn : Packet := Packet.checked { plainSegment 5 0 tcpSyn [2, 4, 5, 180] with tcpoffset := 0x60 }

/-- A request of three bytes, and a poll. -/
def answeredVersion : List Event :=
  [mssSyn.event, (plainSegment 6 1 tcpAck [0, 0, 0]).event, .periodic 0 (plainSegment 0 0 0 [])]

/-- The jig with routines that do nothing, just switched on. -/
def idleDevice : Link (Ethernet Unit) := Device.powerUp ⟨0xc0a8, 1⟩ idleRoutines { mem := fun _ => 0, app := () }

theorem responses_sent_once_version : ∃ s : Link (Ethernet Unit),
    (dataSegments s.sent).map Packet.payload = [[1, 0, 3, 2, 20, 0]] ∧
      ∃ responses : List (List UInt8), responses.Sublist (s.stack.app.calls.map Prod.snd) ∧
        List.Forall₂ Holds (dataSegments s.sent) responses := by
  have hrun : (Runs.run (Link.step 41 httpdApp (ethernetMain byteSum)) idleDevice answeredVersion).toOption.map
      (fun s => (dataSegments s.sent).map Packet.payload) = some [[1, 0, 3, 2, 20, 0]] := by decide +kernel
  obtain ⟨s, hs, hpayload⟩ := ok_of_toOption_map hrun
  exact ⟨s, hpayload, responses_sent_once 41 byteSum _ idleRoutines _ answeredVersion s hs⟩

/-- The response waits when the timer comes, and nothing is outstanding. -/
theorem answeredVersion_patient :
    Runs.Along (Link.step 41 httpdApp (ethernetMain byteSum)) Patient idleDevice answeredVersion := by
  have hfirst : (idleDevice.step 41 httpdApp (ethernetMain byteSum) mssSyn.event).toOption.map
      (fun s => (s.stack.app.newDataSend, (s.step 41 httpdApp (ethernetMain byteSum)
        (plainSegment 6 1 tcpAck [0, 0, 0]).event).toOption.map fun s => (s.stack.conns 0).len)) =
      some (false, some 0) := by decide +kernel
  refine ⟨fun hd => Bool.noConfusion hd, fun s₁ hs₁ => ?_⟩
  rw [hs₁] at hfirst
  obtain ⟨hidle, hsecond⟩ := Prod.mk.inj (Option.some.inj hfirst)
  refine ⟨fun hd => ?_, fun s₂ hs₂ => ⟨fun _ i hi => ?_, fun _ _ => trivial⟩⟩
  · rw [hidle] at hd
    cases hd
  · rw [hs₂] at hsecond
    rcases hi with ⟨p, hp⟩ | ⟨p, hp, -⟩
    · cases hp
      exact Option.some.inj hsecond
    · cases hp

theorem segments_begin_responses_version : ∃ s : Link (Ethernet Unit),
    (dataSegments s.sent).map Packet.payload = [[1, 0, 3, 2, 20, 0]] ∧
      ∃ responses : List (List UInt8), responses.Sublist (s.stack.app.calls.map Prod.snd) ∧
        List.Forall₂ (fun q response => q.payload <+: response) (dataSegments s.sent) responses := by
  have hrun : (Runs.run (Link.step 41 httpdApp (ethernetMain byteSum)) idleDevice answeredVersion).toOption.map
      (fun s => (dataSegments s.sent).map Packet.payload) = some [[1, 0, 3, 2, 20, 0]] := by decide +kernel
  obtain ⟨s, hs, hpayload⟩ := ok_of_toOption_map hrun
  exact ⟨s, hpayload, segments_begin_responses 41 byteSum _ idleRoutines _ answeredVersion s
    answeredVersion_patient hs⟩

end UdcFirmware.Uip
