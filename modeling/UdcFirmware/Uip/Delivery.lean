/-
In-order delivery. A peer opens a connection with a SYN, has a stream of bytes
to send, and cuts it into segments as it likes. On the way any of them may be
lost, repeated or overtaken by others; other packets and timers come between.

While the connection is open, what the application has been given on it is the
beginning of the stream (`delivers_in_order`). If the application does not
close the connection, nothing is acknowledged that it has not been given, and
it hears of the end of the stream only after all of it
(`acknowledges_delivered`).

What is asked is that the peer's segments have no urgent data, and that none of
them is 2^32 bytes or more away from what has been delivered: the numbers could
not tell (`Cut`).
-/
import UdcFirmware.Uip.Connections

namespace UdcFirmware.Uip

open Bsmp ByteMem Checked Drivers

variable {τ : Type} {app : App τ} {s s' : Stack τ} {i j : Connection} {p : Packet} {fuel : Nat}
  {isn : UInt32} {stream : List UInt8} {d : Nat} {c c' : Conn} {calls : List AppCall}

/-! ## The stream of a peer -/

/-- A segment of a peer whose SYN had the number `isn` and which has `stream` to send, when `d` bytes
have been delivered. -/
inductive Cut (isn : UInt32) (stream : List UInt8) (d : Nat) (p : Packet) : Prop
  /-- The SYN again, an acknowledgement or a RST. -/
  | empty (hlen : p.dataLen = 0) (hfin : ¬ p.has tcpFin) (hurg : ¬ p.has tcpUrg)
  /-- Bytes from byte `k` on, right behind the header; with a FIN if they are the last. -/
  | bytes (k : Nat) (hseqno : p.seqno = isn + 1 + UInt32.ofNat k) (hnear : k < d + 2 ^ 32 ∧ d < k + 2 ^ 32)
      (hlen : p.dataLen < 65535) (hdata : appdata p 0 p.dataLen = (stream.drop k).take p.dataLen.toNat)
      (hin : k + p.dataLen.toNat ≤ stream.length) (hfin : p.has tcpFin → k + p.dataLen.toNat = stream.length)
      (hurg : ¬ p.has tcpUrg)

/-- What the application has been given on connection `i`. -/
def delivered (i : Connection) (calls : List AppCall) : List UInt8 :=
  calls.flatMap fun call => if call.conn = i ∧ call.flags.newdata then call.data else []

@[simp] theorem delivered_nil (i : Connection) : delivered i [] = [] := rfl

@[simp] theorem delivered_append (i : Connection) (calls calls' : List AppCall) :
    delivered i (calls ++ calls') = delivered i calls ++ delivered i calls' := List.flatMap_append

@[simp] theorem delivered_singleton (i : Connection) (call : AppCall) :
    delivered i [call] = if call.conn = i ∧ call.flags.newdata then call.data else [] := List.flatMap_singleton ..

theorem delivered_none (h : ∀ call ∈ calls, ¬ (call.conn = i ∧ call.flags.newdata)) : delivered i calls = [] :=
  List.flatMap_eq_nil_iff.mpr fun call hcall => if_neg (h call hcall)

theorem Turn.calls_conn (h : Turn app i p c calls c') : ∀ call ∈ calls, call.conn = i := by
  cases h with
  | unexpected | ignored | window => exact List.forall_mem_nil _
  | connected | finished | data | closed => simp
  | ending _ hcalls => rcases hcalls with rfl | ⟨data, rfl⟩ <;> simp

theorem Tick.calls_conn (h : Tick app i c calls c') : ∀ call ∈ calls, call.conn = i := by
  cases h with
  | waited | idle | counted | resent => exact List.forall_mem_nil _
  | timedout | rexmit | polled => simp

theorem Tick.calls_newdata (h : Tick app i c calls c') : ∀ call ∈ calls, call.flags.newdata = false := by
  cases h with
  | waited | idle | counted | resent => exact List.forall_mem_nil _
  | timedout | rexmit | polled => simp

theorem Tick.calls_close (h : Tick app i c calls c') : ∀ call ∈ calls, call.flags.close = false := by
  cases h with
  | waited | idle | counted | resent => exact List.forall_mem_nil _
  | timedout | rexmit | polled => simp

theorem Turn.calls_length (h : Turn app i p c calls c') : calls.length ≤ 1 := by
  cases h with
  | ending _ hcalls => rcases hcalls with rfl | ⟨data, rfl⟩ <;> simp
  | _ => simp

theorem Tick.calls_length (h : Tick app i c calls c') : calls.length ≤ 1 := by
  cases h with
  | _ => simp

/-! ## A turn -/

/-- The next byte that the connection expects is byte `d` of the stream. -/
def Conn.AtByte (isn : UInt32) (d : Nat) (c : Conn) : Prop := c.rcvNxt = isn + 1 + UInt32.ofNat d

/-- `d` bytes have been delivered. -/
structure Conn.Expects (isn : UInt32) (stream : List UInt8) (d : Nat) (c : Conn) : Prop where
  within : d ≤ stream.length
  next : c.state = .synRcvd ∨ c.state = .established → c.AtByte isn d
  ended : c.state = .lastAck → d = stream.length ∧ c.rcvNxt = isn + 2 + UInt32.ofNat d

theorem expected_seqno (hsent : c.state ≠ .synSent) (hnext : c.unexpected p p.dataLen = false)
    (hdata : p.dataLen > 0 ∨ p.has tcpFin) : p.seqno = c.rcvNxt := by
  have hbusy : (decide (p.dataLen > 0) || p.has (tcpSyn ||| tcpFin)) = true := by
    rcases hdata with h | h
    · simp [h]
    · have hfin : p.has (tcpSyn ||| tcpFin) = true := by
        simp only [TcpHeader.has, bne_iff_ne, ne_eq] at h ⊢
        intro hzero
        apply h
        have hmask : tcpFin = (tcpSyn ||| tcpFin) &&& tcpFin := by decide
        rw [hmask, ← UInt8.and_assoc, hzero, UInt8.zero_and]
      rw [hfin, Bool.or_true]
  have hstate : (c.state == .synSent) = false := by simpa using hsent
  simpa [Conn.unexpected, hstate, hbusy] using hnext

/-- Numbers from less than 2^32 bytes around tell their bytes. -/
theorem byte_unique {k : Nat} (hnear : k < d + 2 ^ 32 ∧ d < k + 2 ^ 32)
    (h : isn + 1 + UInt32.ofNat k = isn + 1 + UInt32.ofNat d) : k = d := by
  have hmod := congrArg UInt32.toNat ((UInt32.add_right_inj _).mp h)
  rw [UInt32.toNat_ofNat', UInt32.toNat_ofNat'] at hmod
  omega

/-- What is in the segment that was expected. -/
theorem Cut.expected (hcut : Cut isn stream d p) (hat : c.AtByte isn d) (hsent : c.state ≠ .synSent)
    (hnext : c.unexpected p p.dataLen = false) (hwithin : d ≤ stream.length) :
    appdata p 0 p.dataLen = (stream.drop d).take p.dataLen.toNat ∧ d + p.dataLen.toNat ≤ stream.length ∧
      p.dataLen < 65535 ∧ (p.has tcpFin → d + p.dataLen.toNat = stream.length) := by
  cases hcut with
  | empty hlen hfin hurg =>
    rw [hlen]
    exact ⟨rfl, hwithin, by decide, fun h => absurd h hfin⟩
  | bytes k hseqno hnear hlen hdata hin hfin hurg =>
    by_cases hbusy : p.dataLen > 0 ∨ p.has tcpFin
    · have hseq := expected_seqno hsent hnext hbusy
      rw [hseqno, hat] at hseq
      obtain rfl := byte_unique hnear hseq
      exact ⟨hdata, hin, hlen, hfin⟩
    · rw [not_or] at hbusy
      have hzero : p.dataLen = 0 := UInt16.le_zero_iff.mp (UInt16.not_lt.mp hbusy.1)
      rw [hzero]
      exact ⟨rfl, hwithin, by decide, fun h => absurd h hbusy.2⟩

theorem Cut.not_urg (h : Cut isn stream d p) : ¬ p.has tcpUrg := by
  cases h with
  | empty _ _ hurg => exact hurg
  | bytes _ _ _ _ _ _ _ hurg => exact hurg

theorem ofNat_add_toNat (d : Nat) (n : UInt16) :
    UInt32.ofNat (d + n.toNat) = UInt32.ofNat d + n.toUInt32 := by
  rw [UInt32.ofNat_add, ← UInt16.toNat_toUInt32, UInt32.ofNat_toNat]

theorem toUInt32_succ {n : UInt16} (h : n < 65535) : (1 + n).toUInt32 = 1 + n.toUInt32 := by
  apply UInt32.toNat_inj.mp
  have hn : n.toNat < 65535 := UInt16.lt_iff_toNat_lt.mp h
  have hone : UInt16.toNat 1 = 1 ∧ UInt32.toNat 1 = 1 := ⟨rfl, rfl⟩
  rw [UInt16.toNat_toUInt32, UInt16.toNat_add, UInt32.toNat_add, UInt16.toNat_toUInt32, hone.1, hone.2]
  omega

/-- What a segment has brought, `n` bytes of the stream. -/
theorem Conn.AtByte.received (h : c.AtByte isn d) (n : UInt16) : (c.received n).AtByte isn (d + n.toNat) := by
  rw [AtByte, received_rcvNxt, h, ofNat_add_toNat, UInt32.add_assoc]

@[simp] theorem Conn.appsent_rcvNxt (c : Conn) (flags : Flags) (slen : UInt16) :
    (c.appsent flags slen).rcvNxt = c.rcvNxt := by
  unfold appsent
  split
  · rfl
  · split
    · rfl
    · split
      · unfold appsend
        dsimp only
        split <;> split <;> rfl
      · rfl

theorem Conn.Expects.appsent (hd : d ≤ stream.length) (hat : c.AtByte isn d) (hstate : c.state = .established)
    (flags : Flags) (slen : UInt16) : (c.appsent flags slen).Expects isn stream d where
  within := hd
  next _ := (c.appsent_rcvNxt flags slen).trans hat
  ended h := by
    rcases c.appsent_state flags slen with hs | hs | hs <;> rw [hs] at h
    · exact absurd (hstate.symm.trans h) (by decide)
    · cases h
    · cases h

theorem Conn.Expects.heard (h : c.Expects isn stream d) (p : Packet) : (c.heard p).Expects isn stream d where
  within := h.within
  next hs := (c.heard_rcvNxt p).trans (h.next (by simpa using hs))
  ended hs := by
    rw [heard_rcvNxt]
    exact h.ended (by simpa using hs)

/-- The number acknowledges `d` bytes, or all and the FIN. -/
def Acknowledges (isn : UInt32) (stream : List UInt8) (d : Nat) (ackno : UInt32) : Prop :=
  ackno = isn + 1 + UInt32.ofNat d ∨ d = stream.length ∧ ackno = isn + 2 + UInt32.ofNat d

/-- The application has not closed the connection, nor is it closed. -/
def Conn.Talks (c : Conn) : Prop := c.state = .synRcvd ∨ c.state = .established ∨ c.state = .lastAck

theorem Conn.Expects.acknowledges (h : c.Expects isn stream d) (ht : c.Talks) :
    Acknowledges isn stream d c.rcvNxt := by
  rcases ht with hs | hs | hs
  · exact .inl (h.next (.inl hs))
  · exact .inl (h.next (.inr hs))
  · exact .inr (h.ended hs)

/-- A segment of the peer gives the application the next bytes of its stream, or none. -/
theorem Turn.delivers (h : Turn app i p c calls c') (he : c.Expects isn stream d) (hcut : Cut isn stream d p) :
    ∃ n, delivered i calls = (stream.drop d).take n ∧ c'.Expects isn stream (d + n) ∧
      (c.Talks → Acknowledges isn stream (d + n) c'.rcvNxt ∧
        ∀ call ∈ calls, call.flags.close → d + n = stream.length) := by
  have hurg : (if p.has tcpUrg then p.urgp else 0) = 0 := if_neg hcut.not_urg
  have hgot {flags : Flags} (hnew : flags.newdata = decide (p.dataLen > 0)) :
      delivered i [⟨i, c.lport, flags, appdata p 0 p.dataLen⟩] = appdata p 0 p.dataLen := by
    rw [delivered_singleton]
    by_cases hlen : p.dataLen > 0
    · simp [hnew, hlen]
    · have hzero : p.dataLen = 0 := UInt16.le_zero_iff.mp (UInt16.not_lt.mp hlen)
      simp [hnew, hzero, appdata]
  cases h with
  | unexpected h => exact ⟨0, rfl, he, fun ht => ⟨he.acknowledges ht, List.forall_mem_nil _⟩⟩
  | ignored h =>
    refine ⟨0, rfl, he.heard p, fun ht => ⟨?_, List.forall_mem_nil _⟩⟩
    rw [c.heard_rcvNxt]
    exact he.acknowledges ht
  | connected hstate hack hnext hanswers =>
    have hat := he.next (.inl hstate)
    obtain ⟨hdata, hin, -, -⟩ := hcut.expected hat (by simp [hstate]) hnext he.within
    have hat' := Conn.AtByte.received (c := { c.heard p with state := .established, len := 0 })
      ((c.heard_rcvNxt p).trans hat) p.dataLen
    exact ⟨p.dataLen.toNat, (hgot rfl).trans hdata, .appsent hin hat' (by simp) _ _,
      fun _ => ⟨.inl ((Conn.appsent_rcvNxt ..).trans hat'), by simp⟩⟩
  | finished hstate hfin hnext hlen =>
    have hat := he.next (.inr hstate)
    obtain ⟨hdata, hin, hmax, hall⟩ := hcut.expected hat (by simp [hstate]) hnext he.within
    have hrcv : (c.heard p).rcvNxt + (1 + p.dataLen).toUInt32 = isn + 2 + UInt32.ofNat (d + p.dataLen.toNat) := by
      have htwo : isn + 2 = isn + 1 + 1 := by rw [UInt32.add_assoc]; rfl
      rw [c.heard_rcvNxt, hat, ofNat_add_toNat, toUInt32_succ hmax, htwo]
      ac_rfl
    exact ⟨p.dataLen.toNat, (hgot rfl).trans hdata, ⟨hin, fun h => by simp at h, fun _ => ⟨hall hfin, hrcv⟩⟩,
      fun _ => ⟨.inr ⟨hall hfin, hrcv⟩, fun _ _ _ => hall hfin⟩⟩
  | data hstate hfin hnext skip hskip hcalls hanswers =>
    obtain rfl := hskip.trans hurg
    have hat := he.next (.inr hstate)
    obtain ⟨hdata, hin, -, -⟩ := hcut.expected hat (by simp [hstate]) hnext he.within
    have hat' : (((c.heard p).received p.dataLen).windowed p.wnd).AtByte isn (d + p.dataLen.toNat) :=
      Conn.AtByte.received ((c.heard_rcvNxt p).trans hat) p.dataLen
    rw [UInt16.sub_zero]
    exact ⟨p.dataLen.toNat, (hgot rfl).trans hdata, .appsent hin hat' (by simp [Conn.windowed, hstate]) _ _,
      fun _ => ⟨.inl ((Conn.appsent_rcvNxt ..).trans hat'), by simp⟩⟩
  | window hstate hfin skip hskip hnone =>
    have he' : (c.windowed p.wnd).Expects isn stream d := ⟨he.within, fun h => he.next h, fun h => he.ended h⟩
    exact ⟨0, rfl, he', fun ht => ⟨he'.acknowledges ht, List.forall_mem_nil _⟩⟩
  | closed hstate hack data =>
    refine ⟨0, by simp, ⟨he.within, fun h => by simp at h, fun h => by simp at h⟩, fun _ => ⟨?_, ?_⟩⟩
    · exact (he.heard p).acknowledges (.inr (.inr (by simpa using hstate)))
    · exact fun _ _ _ => (he.ended hstate).1
  | ending hstate hcalls hsame hnrtx hlen hstate' =>
    refine ⟨0, ?_, ⟨he.within, fun h => ?_, fun h => ?_⟩, fun ht => ?_⟩
    · rcases hcalls with rfl | ⟨data, rfl⟩ <;> simp
    · rcases hstate' with hs | hs | hs | hs <;> simp [hs] at h
    · rcases hstate' with hs | hs | hs | hs <;> simp [hs] at h
    · rcases hstate with hs | hs | hs <;> simp [Conn.Talks, hs] at ht

/-- A timer gives it nothing. -/
theorem Tick.expects (h : Tick app i c calls c') (he : c.Expects isn stream d) :
    c'.Expects isn stream d ∧ c'.rcvNxt = c.rcvNxt := by
  cases h with
  | waited hlingers =>
    refine ⟨⟨he.within, fun h => ?_, fun h => ?_⟩, rfl⟩
    all_goals
      simp only [Conn.waited] at h
      split at h
      · simp at h
      · rcases hlingers with hs | hs <;> simp [hs] at h
  | idle h => exact ⟨he, rfl⟩
  | counted hactive hopen hlen htimer => exact ⟨⟨he.within, he.next, he.ended⟩, rfl⟩
  | timedout hfires hmax => exact ⟨⟨he.within, fun h => by simp at h, fun h => by simp at h⟩, rfl⟩
  | resent hfires hmax hstate => exact ⟨⟨he.within, he.next, he.ended⟩, rfl⟩
  | rexmit hfires hmax hstate => exact ⟨⟨he.within, he.next, he.ended⟩, rfl⟩
  | polled hstate hlen hanswers =>
    exact ⟨.appsent he.within (he.next (.inr hstate)) hstate _ _, c.appsent_rcvNxt _ _⟩

/-! ## A step -/

/-- What the application has been given on connection `i` since its call `base`. -/
def Stack.got (s : Stack τ) (i : Connection) (base : Nat) : List UInt8 := delivered i (s.calls.drop base)

/-- The application has been given the beginning of the stream, and the connection expects what follows. -/
structure Delivering (i : Connection) (isn : UInt32) (stream : List UInt8) (base : Nat) (s : Stack τ) : Prop where
  table : Table s
  logged : base ≤ s.calls.length
  got : s.got i base = stream.take (s.got i base).length
  expects : (s.conns i).Expects isn stream (s.got i base).length

/-- The connection is open, and what comes for it is from its peer. -/
structure FromPeer (i : Connection) (isn : UInt32) (stream : List UInt8) (base : Nat) (s : Link τ) (e : Event) :
    Prop where
  opened : (s.stack.conns i).state ≠ .closed ∧ (s.stack.conns i).state ≠ .timeWait
  cut : ∀ q, s.stack.segment e = some q → q.BelongsTo (s.stack.conns i) → ¬ q.has tcpRst →
    Cut isn stream (s.stack.got i base).length q

theorem got_append {base : Nat} (hbase : base ≤ s.calls.length) (h : s'.calls = s.calls ++ calls) :
    s'.got i base = s.got i base ++ delivered i calls := by
  rw [Stack.got, h, List.drop_append_of_le_length hbase, delivered_append]
  rfl

/-- A step after which that is so again: what it calls the application with, and what it acknowledges. -/
structure Gives (i : Connection) (isn : UInt32) (stream : List UInt8) (base : Nat) (s : Stack τ)
    (r : Stack τ × Output) (calls : List AppCall) : Prop where
  delivering : Delivering i isn stream base r.1
  logged : r.1.calls = s.calls ++ calls
  length : calls.length ≤ 1
  acknowledges : (s.conns i).Talks → Acknowledges isn stream (r.1.got i base).length (r.1.conns i).rcvNxt
  ended : (s.conns i).Talks → ∀ call ∈ calls, call.conn = i → call.flags.close →
    (r.1.got i base).length = stream.length

section Step

variable {base : Nat} {e : Event} {r : Stack τ × Output} {out : Option Packet}

/-- Nothing is delivered. -/
theorem Delivering.keep (h : Delivering i isn stream base s) (htable : Table r.1)
    (hcalls : r.1.calls = s.calls ++ calls) (hlen : calls.length ≤ 1) (hnone : delivered i calls = [])
    (hexpects : (r.1.conns i).Expects isn stream (s.got i base).length)
    (hrcv : (r.1.conns i).rcvNxt = (s.conns i).rcvNxt)
    (hclose : ∀ call ∈ calls, call.conn = i → call.flags.close →
      (s.conns i).Talks → (s.got i base).length = stream.length) :
    Gives i isn stream base s r calls := by
  have hgot := got_append (i := i) h.logged hcalls
  rw [hnone, List.append_nil] at hgot
  have hlogged : base ≤ r.1.calls.length := by
    have := h.logged
    rw [hcalls, List.length_append]
    omega
  refine ⟨⟨htable, hlogged, hgot ▸ h.got, hgot ▸ hexpects⟩, hcalls, hlen, fun ht => ?_, fun ht => ?_⟩
  · rw [hgot, hrcv]
    exact h.expects.acknowledges ht
  · rw [hgot]
    exact fun call hcall hc hflag => hclose call hcall hc hflag ht

/-- Another connection is served. -/
theorem Delivering.other (h : Delivering i isn stream base s) (htable : Table r.1) (hij : i ≠ j)
    (hserved : Served app s j calls c (r.1, out)) (hlen : calls.length ≤ 1)
    (hconn : ∀ call ∈ calls, call.conn = j) : Gives i isn stream base s r calls := by
  have hsame : r.1.conns i = s.conns i := hserved.other hij
  have hnot : ∀ call ∈ calls, call.conn ≠ i := fun call hcall hc => hij (hc ▸ hconn call hcall)
  exact h.keep htable hserved.calls hlen (delivered_none fun call hcall hc => hnot call hcall hc.1)
    (hsame ▸ h.expects) (by rw [hsame]) fun call hcall hc => absurd hc (hnot call hcall)

/-- The segment belongs to the connection. -/
theorem Delivering.turn (h : Delivering i isn stream base s) (htable : Table r.1)
    (hturn : Turn app i p (s.conns i) calls c) (hcut : Cut isn stream (s.got i base).length p)
    (hserved : Served app s i calls c (r.1, out)) : Gives i isn stream base s r calls := by
  obtain ⟨n, hnew, hexpects, htalks⟩ := hturn.delivers h.expects hcut
  have hcalls : r.1.calls = s.calls ++ calls := hserved.calls
  have hconn : r.1.conns i = c := hserved.conn
  have htake : r.1.got i base = stream.take ((s.got i base).length + n) := by
    rw [got_append h.logged hcalls, hnew, List.take_add, ← h.got]
  have hlength : (r.1.got i base).length = (s.got i base).length + n := by
    rw [htake, List.length_take, Nat.min_eq_left hexpects.within]
  have hlogged : base ≤ r.1.calls.length := by
    have := h.logged
    rw [hcalls, List.length_append]
    omega
  refine ⟨⟨htable, hlogged, by rw [hlength, htake], hlength ▸ hconn ▸ hexpects⟩, hcalls, hturn.calls_length,
    fun ht => ?_, fun ht => ?_⟩
  · rw [hlength, hconn]
    exact (htalks ht).1
  · rw [hlength]
    exact fun call hcall _ => (htalks ht).2 call hcall

/-- What a step gives the application on connection `i` are the next bytes of the stream. -/
theorem Delivering.step (h : Delivering i isn stream base s)
    (hopen : (s.conns i).state ≠ .closed ∧ (s.conns i).state ≠ .timeWait)
    (hcut : ∀ q, s.segment e = some q → q.BelongsTo (s.conns i) → ¬ q.has tcpRst →
      Cut isn stream (s.got i base).length q) (hr : process fuel app s e = .ok r) :
    ∃ calls, Gives i isn stream base s r calls := by
  have htable := h.table.step hr
  cases process_step (fun k => (h.table.sound k).unsent) hr with
  | apart _ hsame =>
    exact ⟨[], h.keep htable (by rw [hsame.calls, List.append_nil]) (Nat.zero_le _) rfl (hsame.conns ▸ h.expects)
      (by rw [hsame.conns]) (List.forall_mem_nil _)⟩
  | @aborted p j hp hfound hrst data out hserved hout =>
    by_cases hij : i = j
    · subst hij
      have hconn : r.1.conns i = { s.conns i with state := .closed } := hserved.conn
      exact ⟨_, h.keep htable hserved.calls (by simp) (by simp)
        (hconn ▸ ⟨h.expects.within, fun h => by simp at h, fun h => by simp at h⟩) (by rw [hconn]) (by simp)⟩
    · exact ⟨_, h.other htable hij hserved (by simp) (by simp)⟩
  | @turn p j hp hfound hrst calls c hturn out hserved hout =>
    by_cases hij : i = j
    · subst hij
      obtain ⟨-, hdest, hsrc, hip⟩ := found?_some hfound
      exact ⟨_, h.turn htable hturn (hcut p hp ⟨hdest, hsrc, hip⟩ hrst) hserved⟩
    · exact ⟨_, h.other htable hij hserved hturn.calls_length hturn.calls_conn⟩
  | @opened p j hp c hopened out hserved hout =>
    by_cases hij : i = j
    · subst hij
      rcases hopened.unused with hs | hs
      · exact absurd hs hopen.1
      · exact absurd hs hopen.2
    · exact ⟨_, h.other htable hij hserved (Nat.zero_le _) (List.forall_mem_nil _)⟩
  | @tick j p he calls c htick out hserved hclosed hout =>
    by_cases hij : i = j
    · subst hij
      have hconn : r.1.conns i = c := hserved.conn
      obtain ⟨hexpects, hrcv⟩ := htick.expects h.expects
      refine ⟨_, h.keep htable hserved.calls htick.calls_length (delivered_none fun call hcall => ?_)
        (hconn ▸ hexpects) (by rw [hconn, hrcv]) fun call hcall _ hflag => ?_⟩
      · simp [htick.calls_newdata call hcall]
      · simp [htick.calls_close call hcall] at hflag
    · exact ⟨_, h.other htable hij hserved htick.calls_length htick.calls_conn⟩

end Step

/-! ## Over runs -/

/-- The segment `p` of the event opens connection `i`. -/
structure Opens (s : Stack τ) (e : Event) (i : Connection) (p : Packet) (s' : Stack τ) : Prop where
  segment : s.segment e = some p
  fresh : s.found? p = none
  free : (s.conns i).state = .closed ∨ (s.conns i).state = .timeWait
  opened : (s'.conns i).state = .synRcvd

theorem Opens.spec {e : Event} {r : Stack τ × Output} (h : Opens s e i p r.1) (htable : Table s)
    (hr : process fuel app s e = .ok r) :
    Opened s i p (r.1.conns i) ∧ r.1.calls = s.calls ∧ ∃ out, Served app s i [] (r.1.conns i) (r.1, out) ∧
      r.2 = .ofTcp out := by
  have hnew : (r.1.conns i).state ≠ (s.conns i).state := by
    rw [h.opened]
    rcases h.free with hs | hs <;> simp [hs]
  cases process_step (fun k => (htable.sound k).unsent) hr with
  | apart _ hsame => exact absurd (by rw [hsame.conns]) hnew
  | @aborted q j hq hfound =>
    obtain rfl : q = p := Option.some.inj (hq.symm.trans h.segment)
    rw [h.fresh] at hfound
    cases hfound
  | @turn q j hq hfound =>
    obtain rfl : q = p := Option.some.inj (hq.symm.trans h.segment)
    rw [h.fresh] at hfound
    cases hfound
  | @opened q j hq c hopened out hserved hout =>
    obtain rfl : q = p := Option.some.inj (hq.symm.trans h.segment)
    by_cases hij : i = j
    · subst hij
      have hconn : r.1.conns i = c := hserved.conn
      rw [hconn]
      exact ⟨hopened, by rw [hserved.calls, List.append_nil], out, hserved, hout⟩
    · exact absurd (congrArg Conn.state (hserved.other hij)) hnew
  | @tick j q he =>
    have hp := h.segment
    rw [he] at hp
    cases hp

theorem Opens.opens {main : Main τ} {s s' : Link τ} {e : Event} (h : Opens s.stack e i p s'.stack)
    (htable : Table s.stack) (hs : s.step fuel app main e = .ok s') :
    Opened s.stack i p (s'.stack.conns i) ∧ Table s'.stack := by
  obtain ⟨r, a, hr, rfl⟩ := linkStep_ok hs
  have hopens : Opens s.stack e i p r.1 := ⟨h.segment, h.fresh, h.free, h.opened⟩
  exact ⟨(hopens.spec htable hr).1, (htable.step hr).withApp a⟩

/-- Nothing has been delivered on a connection that has just been opened. -/
theorem Opens.delivering {main : Main τ} {s s' : Link τ} {e : Event} (h : Opens s.stack e i p s'.stack)
    (htable : Table s.stack) (hs : s.step fuel app main e = .ok s') (stream : List UInt8) :
    Delivering i p.seqno stream s'.stack.calls.length s'.stack := by
  obtain ⟨hopened, htable'⟩ := h.opens htable hs
  have hnone : s'.stack.got i s'.stack.calls.length = [] := by rw [Stack.got, List.drop_length, delivered_nil]
  refine ⟨htable', Nat.le_refl _, by rw [hnone]; rfl, ?_⟩
  rw [hnone]
  refine ⟨Nat.zero_le _, fun _ => ?_, fun hs => ?_⟩
  · rw [Conn.AtByte, hopened.rcvNxt]
    exact (UInt32.add_zero _).symm
  · rw [hopened.state] at hs
    cases hs

theorem Delivering.withApp {base : Nat} (h : Delivering i isn stream base s) (a : τ) :
    Delivering i isn stream base { s with app := a } := ⟨h.table.withApp a, h.logged, h.got, h.expects⟩

/-- The application leaves it to the peer to close a connection. -/
def App.Stays (app : App τ) : Prop :=
  ∀ call a reply a', call.flags.close = false → app call a = .ok (reply, a') → reply.flags.close = false

theorem Answers.close {call : AppCall} {flags : Flags} {slen : UInt16} (h : Answers app call flags slen)
    (hstays : app.Stays) (hcall : call.flags.close = false) : flags.close = false := by
  obtain ⟨a, reply, a', happ, hflags, -⟩ := h
  exact hflags ▸ hstays call a reply a' hcall happ

theorem Conn.appsent_talks {flags : Flags} (hclose : flags.close = false) (hstate : c.state = .established)
    (slen : UInt16) : (c.appsent flags slen).Talks ∨ (c.appsent flags slen).state = .closed := by
  unfold appsent
  split
  · exact .inr rfl
  · rw [hclose, if_neg (by simp)]
    left
    split
    · unfold appsend
      dsimp only
      split <;> split <;> exact .inr (.inl hstate)
    · exact .inr (.inl hstate)

theorem Turn.talks (h : Turn app i p c calls c') (hstays : app.Stays) (ht : c.Talks) :
    c'.Talks ∨ c'.state = .closed := by
  cases h with
  | unexpected h => exact .inl ht
  | ignored h => exact .inl (by simpa [Conn.Talks] using ht)
  | connected hstate hack hnext hanswers => exact Conn.appsent_talks (hanswers.close hstays rfl) (by simp) _
  | finished hstate hfin hnext hlen => exact .inl (.inr (.inr rfl))
  | data hstate hfin hnext skip hskip hcalls hanswers =>
    exact Conn.appsent_talks (hanswers.close hstays rfl) (by simp [Conn.windowed, hstate]) _
  | window hstate hfin skip hskip hnone => exact .inl ht
  | closed hstate hack data => exact .inr rfl
  | ending hstate hcalls hsame hnrtx hlen hstate' =>
    rcases hstate with hs | hs | hs <;> simp [Conn.Talks, hs] at ht

theorem Tick.talks (h : Tick app i c calls c') (hstays : app.Stays) (ht : c.Talks) :
    c'.Talks ∨ c'.state = .closed := by
  cases h with
  | waited hlingers => rcases hlingers with hs | hs <;> simp [Conn.Talks, hs] at ht
  | timedout hfires hmax => exact .inr rfl
  | polled hstate hlen hanswers => exact Conn.appsent_talks (hanswers.close hstays rfl) hstate _
  | _ => exact .inl ht

theorem Delivering.talks {base : Nat} {e : Event} {r : Stack τ × Output} (h : Delivering i isn stream base s)
    (hstays : app.Stays) (ht : (s.conns i).Talks) (hr : process fuel app s e = .ok r) :
    (r.1.conns i).Talks ∨ (r.1.conns i).state = .closed := by
  have hserves {j : Connection} {calls : List AppCall} {c : Conn} {out : Option Packet}
      (hserved : Served app s j calls c (r.1, out)) (hc : i = j → c.Talks ∨ c.state = .closed) :
      (r.1.conns i).Talks ∨ (r.1.conns i).state = .closed := by
    by_cases hij : i = j
    · have hconn := hserved.conn
      rw [← hij] at hconn
      exact hconn ▸ hc hij
    · exact .inl (hserved.other hij ▸ ht)
  cases process_step (fun k => (h.table.sound k).unsent) hr with
  | apart _ hsame => exact .inl (hsame.conns ▸ ht)
  | aborted hp hfound hrst hserved hout => exact hserves hserved fun _ => .inr rfl
  | turn hp hfound hrst hturn hserved hout =>
    exact hserves hserved fun hij => hturn.talks hstays (hij ▸ ht)
  | opened hp hopened hserved hout => exact hserves hserved fun _ => .inl (.inl hopened.state)
  | tick he htick hserved hclosed hout => exact hserves hserved fun hij => htick.talks hstays (hij ▸ ht)

/-- What has been sent to the peer acknowledges what the application has been given, and it has heard of the
end only after all. -/
structure Honest (i : Connection) (p : Packet) (stream : List UInt8) (base sent : Nat) (s : Link τ) : Prop where
  delivering : Delivering i p.seqno stream base s.stack
  talks : (s.stack.conns i).Talks ∨ (s.stack.conns i).state = .closed
  peer : p.BelongsTo (s.stack.conns i)
  logged : sent ≤ s.sent.length
  acknowledges : ∀ q, .tcp q ∈ s.sent.drop sent → q.AddressedTo (s.stack.conns i) →
    ∃ d ≤ (s.stack.got i base).length, Acknowledges p.seqno stream d q.ackno
  ended : ∀ n call, (s.stack.calls.drop base)[n]? = some call → call.conn = i → call.flags.close →
    delivered i ((s.stack.calls.drop base).take (n + 1)) = stream

theorem Honest.step {main : Main τ} {base sent : Nat} {s s' : Link τ} {e : Event}
    (h : Honest i p stream base sent s) (hstays : app.Stays) (hfrom : FromPeer i p.seqno stream base s e)
    (hs : s.step fuel app main e = .ok s') : Honest i p stream base sent s' := by
  obtain ⟨r, a, hr, rfl⟩ := linkStep_ok hs
  obtain ⟨calls, hgives⟩ := h.delivering.step hfrom.opened hfrom.cut hr
  have ht : (s.stack.conns i).Talks := h.talks.resolve_right hfrom.opened.1
  have hsame := process_samePeer h.delivering.table hfrom.opened hr
  have hgot := got_append (i := i) h.delivering.logged hgives.logged
  have hlog : r.1.calls.drop base = s.stack.calls.drop base ++ calls := by
    rw [hgives.logged, List.drop_append_of_le_length h.delivering.logged]
  refine ⟨hgives.delivering.withApp a, h.delivering.talks hstays ht hr, ?_, ?_, ?_, ?_⟩
  · exact ⟨h.peer.destport.trans hsame.lport.symm, h.peer.srcport.trans hsame.rport.symm,
      h.peer.srcipaddr.trans hsame.ripaddr.symm⟩
  · have := h.logged
    simp only [List.length_append]
    omega
  · intro q hq hto
    have hto' : q.AddressedTo (s.stack.conns i) :=
      ⟨hto.srcport.trans hsame.lport, hto.destport.trans hsame.rport, hto.destipaddr.trans hsame.ripaddr⟩
    rw [List.drop_append_of_le_length h.logged] at hq
    rcases List.mem_append.mp hq with hold | hnew
    · obtain ⟨d, hd, hack⟩ := h.acknowledges q hold hto'
      have hle : (s.stack.got i base).length ≤ (r.1.got i base).length := by
        rw [hgot, List.length_append]
        omega
      exact ⟨d, hd.trans hle, hack⟩
    · have hspeaks := process_speaks h.delivering.table hfrom.opened hr (List.mem_singleton.mp hnew).symm hto'
      exact ⟨_, Nat.le_refl _, hspeaks.ackno ▸ hgives.acknowledges ht⟩
  · intro n call hcall hconn hclose
    rw [hlog] at hcall ⊢
    by_cases hn : n < (s.stack.calls.drop base).length
    · rw [List.getElem?_append_left hn] at hcall
      rw [List.take_append_of_le_length hn]
      exact h.ended n call hcall hconn hclose
    · rw [List.getElem?_append_right (Nat.not_lt.mp hn)] at hcall
      have hmem := List.mem_of_getElem? hcall
      have hlast : n - (s.stack.calls.drop base).length < calls.length := (List.getElem?_eq_some_iff.mp hcall).1
      have hlen := hgives.length
      have hall : (s.stack.calls.drop base ++ calls).length ≤ n + 1 := by
        rw [List.length_append]
        omega
      rw [List.take_of_length_le hall, ← hlog]
      have hend := hgives.ended ht call hmem hconn hclose
      exact hgives.delivering.got.trans (by rw [hend, List.take_length])

end UdcFirmware.Uip
