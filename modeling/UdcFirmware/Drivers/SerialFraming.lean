/-
Messages over the serial line. A host sends well-formed messages, one at a
time, and each arrives in any number of invocations of the interrupt handler
(`Turn`); `Session` is what the line sees.

Between two messages the buffer holds the bytes of the last one, so after two
bytes of a message the handler reads a size that is made of its own second
byte and of the third byte of the message before. When these make more than
the buffer, the two bytes are dropped (`Misread`). That is the only way a
message is lost (`serial_delivers_iff`): what is dropped never comes back, as
bytes are only ever moved on (`run_weight`).
-/
import UdcFirmware.Drivers.UsbToSerial

namespace UdcFirmware.Drivers

open Bsmp ByteMem Checked Filling

variable {σ : Type} {md5 : Md5} {s s' s₀ : Usb2Serial σ}

/-! ## Messages and their arrival -/

/-- A message that fits the buffer. -/
structure SerialMessage extends WireMessage where
  fits : 3 + payload.length ≤ serialBufSize

theorem fits_nil : 3 + ([] : List UInt8).length ≤ serialBufSize := by decide

theorem rx_ne_other : IntStatus.rx ≠ .other := by decide

/-- What happens while a message arrives: invocations with some of its bytes,
requests of other tasks, and the main loop. -/
inductive Arrival
  | piece (status : IntStatus) (reads : status ≠ .other) (bytes : List UInt8)
  | request (task : ETask) (h : task ≠ .processUsb2SerialMessage)
  | taskCheck

def Arrival.event : Arrival → SerialEvent
  | piece status _ bytes => .interrupt status bytes
  | request task h => .request task h
  | taskCheck => .taskCheck

def Arrival.bytes : Arrival → List UInt8
  | piece _ _ bytes => bytes
  | _ => []

/-- One message, and how its bytes arrive. -/
structure Turn where
  message : SerialMessage
  arrivals : List Arrival
  delivers : arrivals.flatMap Arrival.bytes = message.bytes

abbrev Session := List Turn

def Session.arrivals (ts : Session) : List Arrival := ts.flatMap Turn.arrivals

def Session.messages (ts : Session) : List (List UInt8) := ts.map fun t => t.message.bytes

/-- The driver through a list of arrivals. -/
def Usb2Serial.runArrivals (md5 : Md5) (s : Usb2Serial σ) (as : List Arrival) : Except Fault (Usb2Serial σ) :=
  Runs.run (fun s (a : Arrival) => s.step md5 a.event) s as

/-- The host waits: no dispatch is pending when a message starts, or after the last one. -/
def Session.Waits (md5 : Md5) (s : Usb2Serial σ) : Session → Prop
  | [] => True
  | t :: ts => ∀ s', s.runArrivals md5 t.arrivals = .ok s' → s'.requested = false ∧ Waits md5 s' ts

/-- An invocation ends after two bytes of the message, whose second one makes,
with the third byte `lo` of the message before, a size beyond the buffer. -/
def Misread (lo : UInt8) (t : Turn) : Prop :=
  serialBufSize < t.message.hi.toNat * 256 + lo.toNat ∧
    ∃ as bs, t.arrivals = as ++ bs ∧ (as.flatMap Arrival.bytes).length = 2

/-- No message of the session is misread, `lo` being left by the one before. -/
def NoneMisread : UInt8 → Session → Prop
  | _, [] => True
  | lo, t :: ts => ¬ Misread lo t ∧ NoneMisread t.message.lo ts

theorem runArrivals_append (md5 : Md5) (s : Usb2Serial σ) (as bs : List Arrival) :
    s.runArrivals md5 (as ++ bs) = s.runArrivals md5 as >>= fun s' => s'.runArrivals md5 bs :=
  Runs.run_append s as bs

theorem runArrivals_cons (s : Usb2Serial σ) (a : Arrival) (as : List Arrival) :
    s.runArrivals md5 (a :: as) = s.step md5 a.event >>= fun s' => s'.runArrivals md5 as := rfl

theorem runArrivals_total (md5 : Md5) (as : List Arrival) (h : s.Inv) :
    ∃ s', s.runArrivals md5 as = .ok s' ∧ s'.Inv :=
  Runs.run_total (fun _ a hs => hs.step md5 a.event) as h

/-! ## Bytes are only moved on -/

/-- The bytes the driver has taken in and not dropped. -/
def Usb2Serial.weight (s : Usb2Serial σ) : Nat :=
  (s.calls.map List.length).sum + s.recvBuffer.index + s.fifo.length

theorem interrupt_weight (h : s.Inv) (status : IntStatus) :
    (usb2SerialIntHandler s status).weight ≤ s.weight := by
  have hmoved : s.received.index + (s.fifo.drop (serialBufSize - s.recvBuffer.index)).length =
      s.recvBuffer.index + s.fifo.length := by
    simp only [Usb2Serial.received, Buffer.index_append, List.length_take, List.length_drop]
    omega
  rcases usb2SerialIntHandler_cases h.index status with ⟨-, he⟩ | ⟨-, -, he⟩ | ⟨-, -, he⟩ | ⟨-, -, -, he⟩
  · rw [he]
  · rw [he]
    simp only [Usb2Serial.weight]
    omega
  · rw [he]
    simp only [Usb2Serial.weight, Buffer.index_reset]
    omega
  · rw [he]
    simp only [Usb2Serial.weight]
    omega

theorem step_weight (h : s.Inv) {a : Arrival} (hs : s.step md5 a.event = .ok s') :
    s'.weight ≤ s.weight + a.bytes.length := by
  cases a with
  | piece status reads bytes =>
    cases hs
    refine (interrupt_weight (h.fifo (s.fifo ++ bytes)) status).trans ?_
    simp only [Usb2Serial.weight, Arrival.bytes, List.length_append]
    omega
  | request task hne =>
    cases hs
    exact Nat.le_refl _
  | taskCheck =>
    rcases s.taskCheck_cases md5 h.sys h.index with ⟨-, s₁, hcheck, -, -, hfifo, hrecv, hcalls⟩ |
      ⟨flags, -, hcheck⟩
    · cases hcheck.symm.trans hs
      simp only [Usb2Serial.weight, hfifo, hrecv, hcalls, List.map_append, List.sum_append, List.map_cons,
        List.map_nil, List.sum_cons, List.sum_nil, Buffer.held_length, Buffer.index_reset]
      omega
    · cases hcheck.symm.trans hs
      exact Nat.le_refl _

theorem run_weight {as : List Arrival} (h : s.Inv) (hs : s.runArrivals md5 as = .ok s') :
    s'.weight ≤ s.weight + (as.flatMap Arrival.bytes).length := by
  induction as generalizing s with
  | nil =>
    cases hs
    exact Nat.le_refl _
  | cons a as ih =>
    obtain ⟨s₁, hs₁, hs'⟩ := bind_ok_iff.mp hs
    obtain ⟨s₂, hs₂, hinv⟩ := h.step md5 a.event
    cases hs₂.symm.trans hs₁
    have hfirst := step_weight h hs₁
    have hrest := ih hinv hs'
    simp only [List.flatMap_cons, List.length_append]
    omega

/-! ## One message -/

/-- Between two messages, `lo` being the third byte of the last one. -/
structure Ready (lo : UInt8) (s : Usb2Serial σ) : Prop where
  inv : s.Inv
  fifo : s.fifo = []
  empty : s.recvBuffer.index = 0
  requested : s.requested = false
  stale : s.recvBuffer.data 2 = lo
  small : (sCarga s.recvBuffer).toNat ≤ serialBufSize

/-- The bytes `p` of a message are in the buffer and `q` is to come. A dispatch
is pending exactly when nothing is. -/
structure Receiving (m : SerialMessage) (lo : UInt8) (s₀ : Usb2Serial σ) (p q : List UInt8)
    (s : Usb2Serial σ) :
    Prop where
  inv : s.Inv
  split : m.bytes = p ++ q
  fifo : s.fifo = []
  held : s.recvBuffer.held = p
  calls : s.calls = s₀.calls
  stale : p.length ≤ 2 → s.recvBuffer.data 2 = lo
  small : p.length ≤ 2 → (sCarga s.recvBuffer).toNat ≤ serialBufSize
  requested : s.requested = true ↔ q = []

/-- The message has been handed to BSMP. -/
def Handed (m : SerialMessage) (s₀ s : Usb2Serial σ) : Prop := Ready m.lo s ∧ s.calls = s₀.calls ++ [m.bytes]

/-- The bytes received so far have been dropped. -/
structure Lost (s₀ s : Usb2Serial σ) : Prop where
  inv : s.Inv
  weight : s.weight ≤ s₀.weight

variable {m : SerialMessage} {lo : UInt8} {p q : List UInt8}

theorem Ready.flags (h : Ready lo s) {flags : Flags}
    (hflag : flags ETask.processUsb2SerialMessage.flag = s.requested) : Ready lo { s with flags } :=
  ⟨h.inv.flags hflag, h.fifo, h.empty, hflag.trans h.requested, h.stale, h.small⟩

theorem Receiving.flags (h : Receiving m lo s₀ p q s) {flags : Flags}
    (hflag : flags ETask.processUsb2SerialMessage.flag = s.requested) :
    Receiving m lo s₀ p q { s with flags } := by
  refine ⟨h.inv.flags hflag, h.split, h.fifo, h.held, h.calls, h.stale, h.small, ?_⟩
  rw [← h.requested, ← hflag]
  exact Iff.rfl

theorem Receiving.start (h : Ready lo s) : Receiving m lo s [] m.bytes s where
  inv := h.inv
  split := rfl
  fifo := h.fifo
  held := List.length_eq_zero_iff.mp (by rw [Buffer.held_length, h.empty])
  calls := rfl
  stale := fun _ => h.stale
  small := fun _ => h.small
  requested := by simp [h.requested, m.bytes_ne_nil]

theorem Receiving.index (h : Receiving m lo s₀ p q s) : s.recvBuffer.index = p.length := by
  rw [← Buffer.held_length, h.held]

theorem Receiving.held_append (h : Receiving m lo s₀ p q s) (b : List UInt8) :
    (s.recvBuffer.append b).held = p ++ b := by
  rw [Buffer.held_append, h.held]

theorem Receiving.stale_append (h : Receiving m lo s₀ p q s) {b : List UInt8} (hle : (p ++ b).length ≤ 2) :
    (s.recvBuffer.append b).data 2 = lo := by
  have hindex := h.index
  rw [List.length_append] at hle
  rw [Buffer.data_append_of_ge _ _ (by omega), h.stale (by omega)]

/-- With one byte of the message, the size the handler reads is the one left of the message before. -/
theorem Receiving.size_of_few (h : Receiving m lo s₀ p q s) {b : List UInt8} (hle : (p ++ b).length ≤ 1) :
    (sCarga (s.recvBuffer.append b)).toNat ≤ serialBufSize := by
  have hindex := h.index
  rw [List.length_append] at hle
  rw [sCarga_congr (b := s.recvBuffer) (Buffer.data_append_of_ge _ _ (by omega))
    (Buffer.data_append_of_ge _ _ (by omega))]
  exact h.small (by omega)

/-- With two, it has the new high byte and the old low one. -/
theorem Receiving.size_of_two (h : Receiving m lo s₀ p q s) {b q' : List UInt8}
    (hsplit : m.bytes = (p ++ b) ++ q') (he : (p ++ b).length = 2) :
    (sCarga (s.recvBuffer.append b)).toNat = m.hi.toNat * 256 + lo.toNat := by
  rw [sCarga_toNat, (WireMessage.header_of_held (h.held_append b) hsplit).1 (by omega),
    h.stale_append (by omega)]

/-- More bytes of the message: it goes on, or they are dropped. -/
theorem Receiving.piece (h : Receiving m lo s₀ p q s) (hs₀ : Ready lo s₀) {status : IntStatus}
    (hst : status ≠ .other) {b q' : List UInt8} (hq : q = b ++ q') :
    Receiving m lo s₀ (p ++ b) q' (usb2SerialIntHandler { s with fifo := s.fifo ++ b } status) ∨
    ((p ++ b).length = 2 ∧ serialBufSize < m.hi.toNat * 256 + lo.toNat ∧
      Lost s₀ (usb2SerialIntHandler { s with fifo := s.fifo ++ b } status)) := by
  have hsplit : m.bytes = (p ++ b) ++ q' := by rw [h.split, hq, List.append_assoc]
  have hlen := WireMessage.split_length hsplit
  have hfits := m.fits
  have hindex := h.index
  have hinv := (h.inv.fifo (s.fifo ++ b)).interrupt status
  rw [List.length_append] at hlen
  -- All of `b` has room.
  have hrecv : ({ s with fifo := s.fifo ++ b } : Usb2Serial σ).received = s.recvBuffer.append b := by
    simp only [Usb2Serial.received, h.fifo, List.nil_append]
    rw [List.take_of_length_le (by omega)]
  have hrest : (s.fifo ++ b).drop (serialBufSize - s.recvBuffer.index) = [] := by
    rw [h.fifo, List.nil_append, List.drop_eq_nil_iff]
    omega
  have hheld := h.held_append b
  have hstale := h.stale_append (b := b)
  have hfew := h.size_of_few (b := b)
  have htwo := h.size_of_two hsplit
  have hmany := WireMessage.sCarga_of_held hheld hsplit
  simp only [List.length_append] at hfew htwo hmany ⊢
  rcases usb2SerialIntHandler_cases (h.inv.fifo (s.fifo ++ b)).index status with ⟨hother, -⟩ |
    ⟨-, hfull, he⟩ | ⟨-, hbig, he⟩ | ⟨-, hopen, hsmall, he⟩
  · exact absurd hother hst
  · rw [hrecv] at hfull he
    rw [Buffer.index_append, hindex] at hfull
    have hthree : 3 ≤ p.length + b.length := by omega
    have hdone : q' = [] := List.length_eq_zero_iff.mp (by rw [hmany hthree] at hfull; omega)
    rw [he] at hinv ⊢
    refine .inl ⟨hinv, hsplit, hrest, hheld, h.calls, hstale, ?_, ?_⟩
    · intro hle
      rw [List.length_append] at hle
      omega
    · simp [Usb2Serial.requested, hdone]
  · rw [hrecv] at hbig he
    have htwo' : p.length + b.length = 2 := by
      rcases Nat.lt_trichotomy (p.length + b.length) 2 with hlt | heq | hgt
      · have := hfew (by omega)
        omega
      · exact heq
      · have := hmany hgt
        omega
    refine .inr ⟨htwo', by rw [← htwo htwo']; exact hbig, hinv, ?_⟩
    rw [he]
    simp only [Usb2Serial.weight, Buffer.index_reset, h.calls, hrest, hs₀.empty, hs₀.fifo]
    exact Nat.le_refl _
  · rw [hrecv] at hopen hsmall he
    rw [Buffer.index_append, hindex] at hopen
    have hmore : q' ≠ [] := by
      rintro rfl
      rw [List.length_nil] at hlen
      have := hmany (by omega)
      omega
    rw [he] at hinv ⊢
    refine .inl ⟨hinv, hsplit, hrest, hheld, h.calls, hstale, fun _ => hsmall, ?_⟩
    have hq' : q ≠ [] := by simp [hq, hmore]
    simp only [Usb2Serial.requested, hmore, iff_false]
    exact fun hreq => hq' (h.requested.mp hreq)

theorem Ready.step (h : Ready lo s) (md5 : Md5) {a : Arrival} (ha : a.bytes = []) :
    ∃ s', s.step md5 a.event = .ok s' ∧ Ready lo s' ∧ s'.calls = s.calls := by
  cases a with
  | piece status reads bytes =>
    have hb : bytes = [] := ha
    subst hb
    have hinv := (h.inv.fifo (s.fifo ++ [])).interrupt status
    have hrecv : ({ s with fifo := s.fifo ++ [] } : Usb2Serial σ).received = s.recvBuffer := by
      simp [Usb2Serial.received, h.fifo]
    refine ⟨_, rfl, ?_⟩
    rcases usb2SerialIntHandler_cases (h.inv.fifo (s.fifo ++ [])).index status with ⟨hother, -⟩ |
      ⟨-, hfull, -⟩ | ⟨-, hbig, -⟩ | ⟨-, -, -, he⟩
    · exact absurd hother reads
    · rw [hrecv, h.empty] at hfull
      omega
    · rw [hrecv] at hbig
      have := h.small
      omega
    · rw [hrecv] at he
      rw [he] at hinv ⊢
      refine ⟨⟨hinv, ?_, h.empty, h.requested, h.stale, h.small⟩, rfl⟩
      simp [h.fifo]
  | request task hne => exact ⟨_, rfl, h.flags (requested_request _ hne), rfl⟩
  | taskCheck =>
    rcases s.taskCheck_cases md5 h.inv.sys h.inv.index with ⟨hreq, -⟩ | ⟨flags, hflag, hcheck⟩
    · rw [h.requested] at hreq
      cases hreq
    · exact ⟨_, hcheck, h.flags hflag, rfl⟩

/-- What happens while a message is received: it goes on, or the whole message
is handed on, or its first two bytes are dropped. -/
theorem Receiving.step (h : Receiving m lo s₀ p q s) (hs₀ : Ready lo s₀) (md5 : Md5) (a : Arrival)
    {q' : List UInt8} (hq : q = a.bytes ++ q') :
    ∃ s', s.step md5 a.event = .ok s' ∧
      (Receiving m lo s₀ (p ++ a.bytes) q' s' ∨ (q = [] ∧ Handed m s₀ s') ∨
        ((p ++ a.bytes).length = 2 ∧ serialBufSize < m.hi.toNat * 256 + lo.toNat ∧ Lost s₀ s')) := by
  cases a with
  | piece status reads bytes =>
    refine ⟨_, rfl, ?_⟩
    rcases h.piece hs₀ reads hq with hmore | hlost
    · exact .inl hmore
    · exact .inr (.inr hlost)
  | request task hne =>
    have hq' : q = q' := hq
    subst hq'
    refine ⟨_, rfl, .inl ?_⟩
    simp only [Arrival.bytes, List.append_nil]
    exact h.flags (requested_request s.flags hne)
  | taskCheck =>
    have hq' : q = q' := hq
    subst hq'
    obtain ⟨s', hstep, hinv⟩ := h.inv.step md5 .taskCheck
    rcases s.taskCheck_cases md5 h.inv.sys h.inv.index with
      ⟨hreq, s₁, hcheck, -, hclear, hfifo, hrecv, hcalls⟩ | ⟨flags, hflag, hcheck⟩
    · cases hcheck.symm.trans hstep
      -- A dispatch: all bytes are there.
      have hdone := h.requested.mp hreq
      have hsplit := h.split
      rw [hdone, List.append_nil] at hsplit
      have hlen : 3 ≤ p.length := by
        rw [← hsplit, m.bytes_length]
        omega
      refine ⟨_, hcheck, .inr (.inl ⟨hdone, ?_, ?_⟩)⟩
      · refine ⟨hinv, hfifo.trans h.fifo, by rw [hrecv]; rfl, hclear, ?_, ?_⟩
        · rw [hrecv]
          exact (WireMessage.header_of_held h.held h.split).2 hlen
        · rw [hrecv, sCarga_reset, WireMessage.sCarga_of_held h.held h.split hlen]
          have hfits := m.fits
          omega
      · rw [hcalls, h.calls, h.held, hsplit]
    · refine ⟨_, hcheck, .inl ?_⟩
      simp only [Arrival.bytes, List.append_nil]
      exact h.flags hflag

/-- With two bytes in the buffer, the size the handler has read is no more than the buffer. -/
theorem Receiving.mix (h : Receiving m lo s₀ p q s) (hp : p.length = 2) :
    m.hi.toNat * 256 + lo.toNat ≤ serialBufSize := by
  have hsmall := h.small (by omega)
  rw [sCarga_toNat, (WireMessage.header_of_held h.held h.split).1 (by omega), h.stale (by omega)] at hsmall
  exact hsmall

theorem Ready.run (h : Ready lo s) (md5 : Md5) {as : List Arrival} (has : as.flatMap Arrival.bytes = []) :
    ∃ s', s.runArrivals md5 as = .ok s' ∧ Ready lo s' ∧ s'.calls = s.calls := by
  induction as generalizing s with
  | nil => exact ⟨s, rfl, h, rfl⟩
  | cons a as ih =>
    rw [List.flatMap_cons, List.append_eq_nil_iff] at has
    obtain ⟨s₁, hstep, hready, hcalls⟩ := h.step md5 has.1
    obtain ⟨s', hrun, hready', hcalls'⟩ := ih hready has.2
    refine ⟨s', ?_, hready', hcalls'.trans hcalls⟩
    rw [runArrivals_cons, hstep, ok_bind, hrun]

/-- A message to its end: either it is all there, or handed on, and no
invocation ended after two bytes of it that make too large a size; or there
was such an invocation, and the two bytes are lost. -/
theorem Receiving.run (h : Receiving m lo s₀ p q s) (hs₀ : Ready lo s₀) (md5 : Md5) {as : List Arrival}
    (hq : q = as.flatMap Arrival.bytes) :
    (∃ s', s.runArrivals md5 as = .ok s' ∧ (Receiving m lo s₀ m.bytes [] s' ∨ Handed m s₀ s') ∧
      ∀ bs cs, as = bs ++ cs → (p ++ bs.flatMap Arrival.bytes).length = 2 →
        m.hi.toNat * 256 + lo.toNat ≤ serialBufSize) ∨
    (serialBufSize < m.hi.toNat * 256 + lo.toNat ∧ ∃ bs cs s', as = bs ++ cs ∧
      (p ++ bs.flatMap Arrival.bytes).length = 2 ∧ s.runArrivals md5 bs = .ok s' ∧ Lost s₀ s') := by
  induction as generalizing s p q with
  | nil =>
    have hnil : q = [] := hq
    subst hnil
    have hall : m.bytes = p := by rw [h.split, List.append_nil]
    refine .inl ⟨s, rfl, .inl (by rw [hall]; exact h), fun bs cs hsplit htwo => ?_⟩
    obtain ⟨rfl, -⟩ := List.append_eq_nil_iff.mp hsplit.symm
    exact h.mix (by simpa using htwo)
  | cons a as ih =>
    rw [List.flatMap_cons] at hq
    obtain ⟨s₁, hstep, hmore | ⟨hdone, hready, hcalls⟩ | ⟨htwo, hbig, hlost⟩⟩ := h.step hs₀ md5 a hq
    · rcases ih hmore rfl with ⟨s', hrun, hend, hcut⟩ | ⟨hbig, bs, cs, s', hsplit, htwo, hrun, hlost⟩
      · refine .inl ⟨s', by rw [runArrivals_cons, hstep, ok_bind, hrun], hend, ?_⟩
        intro bs cs hsplit htwo
        cases bs with
        | nil => exact h.mix (by simpa using htwo)
        | cons b bs =>
          obtain ⟨rfl, hsplit'⟩ := List.cons_eq_cons.mp hsplit
          exact hcut bs cs hsplit' (by simpa using htwo)
      · refine .inr ⟨hbig, a :: bs, cs, s', by rw [hsplit]; rfl, by simpa using htwo, ?_, hlost⟩
        rw [runArrivals_cons, hstep, ok_bind, hrun]
    · -- The message has been handed on, and nothing is left of it.
      have hnone := hq.symm.trans hdone
      rw [List.append_eq_nil_iff] at hnone
      obtain ⟨s', hrun, hready', hcalls'⟩ := hready.run md5 hnone.2
      refine .inl ⟨s', by rw [runArrivals_cons, hstep, ok_bind, hrun],
        .inr ⟨hready', hcalls'.trans hcalls⟩, fun bs cs hsplit htwo => ?_⟩
      have hlong := WireMessage.split_length h.split
      rw [hdone, List.length_nil] at hlong
      rw [List.length_append] at htwo
      omega
    · refine .inr ⟨hbig, [a], as, s₁, rfl, by simpa using htwo, ?_, hlost⟩
      rw [runArrivals_cons, hstep]
      rfl

/-! ## Sessions -/

theorem Session.messages_length (ts : Session) :
    (ts.messages.map List.length).sum = (ts.arrivals.flatMap Arrival.bytes).length := by
  induction ts with
  | nil => rfl
  | cons t ts ih =>
    simp only [Session.messages, Session.arrivals] at ih
    simp only [Session.messages, Session.arrivals, List.map_cons, List.sum_cons, List.flatMap_cons,
      List.flatMap_append, List.length_append, ih, t.delivers]

theorem Session.delivered {ts : Session} (h : Ready lo s) (hw : ts.Waits md5 s) :
    ∃ s', s.runArrivals md5 ts.arrivals = .ok s' ∧
      (s'.calls = s.calls ++ ts.messages ↔ NoneMisread lo ts) := by
  induction ts generalizing s lo with
  | nil => exact ⟨s, rfl, by simp [Session.messages, NoneMisread]⟩
  | cons t ts ih =>
    have hstart := Receiving.start (m := t.message) h
    rcases hstart.run h md5 t.delivers.symm with ⟨s₁, hrun, hend, hcut⟩ |
      ⟨hbig, bs, cs, s₁, hsplit, htwo, hrun, hlost⟩
    · obtain ⟨hidle, hw'⟩ := hw s₁ hrun
      -- The host has waited, so the message is not just all there.
      obtain ⟨hready, hcalls⟩ : Handed t.message s s₁ := by
        rcases hend with hall | hdone
        · have hreq := hall.requested.mpr rfl
          rw [hidle] at hreq
          cases hreq
        · exact hdone
      have hfine : ¬ Misread lo t := by
        rintro ⟨hbig, bs, cs, hsplit, htwo⟩
        have := hcut bs cs hsplit htwo
        omega
      obtain ⟨s', hrun', hiff⟩ := ih hready hw'
      refine ⟨s', ?_, ?_⟩
      · have happ := runArrivals_append md5 s t.arrivals (Session.arrivals ts)
        rw [hrun, ok_bind, hrun'] at happ
        exact happ
      · rw [hcalls, List.append_assoc] at hiff
        exact hiff.trans ⟨fun hrest => ⟨hfine, hrest⟩, And.right⟩
    · obtain ⟨s', hrun', hinv'⟩ := runArrivals_total md5 (cs ++ Session.arrivals ts) hlost.inv
      have harr : Session.arrivals (t :: ts) = bs ++ (cs ++ Session.arrivals ts) := by
        rw [← List.append_assoc, ← hsplit]
        rfl
      refine ⟨s', ?_, ?_⟩
      · rw [harr, runArrivals_append, hrun, ok_bind, hrun']
      · refine iff_of_false (fun hcalls => ?_) (fun hnone => hnone.1 ⟨hbig, bs, cs, hsplit, htwo⟩)
        -- Two bytes short.
        have hweight := run_weight hlost.inv hrun'
        have htotal := Session.messages_length (t :: ts)
        have hlost' := hlost.weight
        rw [harr, List.flatMap_append, List.length_append] at htotal
        simp only [List.nil_append] at htwo
        have hfinal : (s'.calls.map List.length).sum =
            (s.calls.map List.length).sum + ((Session.messages (t :: ts)).map List.length).sum := by
          rw [hcalls, List.map_append, List.sum_append]
        simp only [Usb2Serial.weight, h.empty, h.fifo, List.length_nil] at hweight hlost'
        omega

theorem Ready.powerUp (r : Routines σ) (world : World σ) : Ready 0 (Usb2Serial.powerUp r world) where
  inv := Usb2Serial.inv_powerUp r world
  fifo := rfl
  empty := rfl
  requested := rfl
  stale := rfl
  small := by simp [sCarga_toNat, Usb2Serial.powerUp]

/-- **What serial framing does depend on.** The messages are handed to BSMP, each
once, in order and unchanged, exactly when no message is cut after two bytes
that look, with a byte left by the message before, like an oversized header. -/
theorem serial_delivers_iff (md5 : Md5) (r : Routines σ) (world : World σ) (ts : Session)
    (h : ts.Waits md5 (.powerUp r world)) :
    (∃ s, Usb2Serial.runArrivals md5 (.powerUp r world) ts.arrivals = .ok s ∧ s.calls = ts.messages) ↔
      NoneMisread 0 ts := by
  obtain ⟨s, hrun, hiff⟩ := Session.delivered (Ready.powerUp r world) h
  have hcalls : s.calls = ts.messages ↔ NoneMisread 0 ts := hiff
  constructor
  · rintro ⟨s', hrun', hs'⟩
    cases hrun.symm.trans hrun'
    exact hcalls.mp hs'
  · intro hnone
    exact ⟨s, hrun, hcalls.mpr hnone⟩

/-! ## A host that goes on at once -/

theorem interrupt_canMess (h : s.recvBuffer.index ≤ serialBufSize) (status : IntStatus) :
    (usb2SerialIntHandler s status).flags .processCanMess = s.flags .processCanMess := by
  have hne : Flag.processCanMess ≠ ETask.processUsb2SerialMessage.flag := by decide
  rcases usb2SerialIntHandler_cases h status with ⟨-, he⟩ | ⟨-, -, he⟩ | ⟨-, -, he⟩ | ⟨-, -, -, he⟩
  all_goals rw [he]
  exact Function.update_of_ne hne true s.flags

/-- Only a CAN message comes before a message on the serial line. -/
theorem taskCheck_requested {flags : Flags} (h : flags ETask.processUsb2SerialMessage.flag = true) :
    (flags .processCanMess = true ∧
      Drivers.taskCheck flags = (Function.update flags .processCanMess false, some .canCheck)) ∨
    (flags .processCanMess = false ∧ Drivers.taskCheck flags =
      (Function.update flags ETask.processUsb2SerialMessage.flag false, some .usb2SerialProcessData)) := by
  have husb : flags .processUsb2SerialMess = true := h
  cases hcan : flags .processCanMess with
  | true => simp [Drivers.taskCheck, branches, checkChain, hcan]
  | false => simp [Drivers.taskCheck, branches, checkChain, hcan, husb, ETask.flag]

theorem taskCheck_clears {flags : Flags} (h : flags .processCanMess = false) :
    (Drivers.taskCheck flags).1 ETask.processUsb2SerialMessage.flag = false ∧
      (Drivers.taskCheck flags).1 .processCanMess = false := by
  constructor
  · cases husb : flags ETask.processUsb2SerialMessage.flag with
    | true =>
      rcases taskCheck_requested husb with ⟨hcan, -⟩ | ⟨-, hcheck⟩
      · rw [h] at hcan
        cases hcan
      · simp [hcheck]
    | false =>
      rcases taskCheck_task flags .processUsb2SerialMessage with ⟨-, -, hclear⟩ | ⟨-, hsame⟩
      · exact hclear
      · exact hsame.trans husb
  · rcases taskCheck_task flags .processCanMessage with ⟨-, -, hclear⟩ | ⟨-, hsame⟩
    · exact hclear
    · exact hsame.trans h

theorem Usb2Serial.Inv.taskCheck_flags (h : s.Inv) (hs : s.taskCheck md5 = .ok s') :
    s'.flags = (Drivers.taskCheck s.flags).1 := by
  simp only [Usb2Serial.taskCheck] at hs
  split at hs
  · obtain ⟨s₁, hproc, -, hflags, -⟩ :=
      usb2SerialProcessData_ok md5 (s := { s with flags := (Drivers.taskCheck s.flags).1 }) h.sys h.index
    cases hproc.symm.trans hs
    exact hflags
  · cases hs
    rfl

/-- Messages in pieces, each followed by one call of `TaskCheck`. -/
def Session.InPieces (ts : Session) : Prop :=
  ∀ t ∈ ts, ∃ cut : List (List UInt8),
    t.arrivals = cut.map (fun bytes => .piece .rx (by decide) bytes) ++ [.taskCheck]

/-- Unless there are CAN messages, one call is long enough to wait. -/
theorem Session.InPieces.waits {ts : Session} (hts : ts.InPieces) (h : s.Inv)
    (hcan : s.flags .processCanMess = false) : ts.Waits md5 s := by
  induction ts generalizing s with
  | nil => trivial
  | cons t ts ih =>
    intro s' hrun
    obtain ⟨cut, hcut⟩ := hts t (by simp)
    rw [hcut, runArrivals_append] at hrun
    obtain ⟨s₁, hpieces, hcheck⟩ := bind_ok_iff.mp hrun
    rw [Usb2Serial.runArrivals, Runs.run_map] at hpieces
    have hkept : s₁.Inv ∧ s₁.flags .processCanMess = false := by
      refine Runs.run_invariant (I := fun s => s.Inv ∧ s.flags .processCanMess = false) ?_ ⟨h, hcan⟩ hpieces
      rintro u bytes u' ⟨hinv, hu⟩ hstep
      cases hstep
      have hfifo := hinv.fifo (u.fifo ++ bytes)
      exact ⟨hfifo.interrupt .rx, (interrupt_canMess hfifo.index .rx).trans hu⟩
    have hcheck' : s₁.taskCheck md5 = .ok s' := by
      rw [runArrivals_cons] at hcheck
      obtain ⟨s₂, hs₂, hend⟩ := bind_ok_iff.mp hcheck
      cases hend
      exact hs₂
    obtain ⟨hidle, hcan'⟩ := taskCheck_clears hkept.2
    rw [← hkept.1.taskCheck_flags hcheck'] at hidle hcan'
    obtain ⟨s₂, hs₂, hinv'⟩ := hkept.1.step md5 .taskCheck
    cases hs₂.symm.trans hcheck'
    exact ⟨hidle, ih (fun t ht => hts t (by simp [ht])) hinv' hcan'⟩

/-- An empty message, in two pieces. -/
def emptyTurn : Turn where
  message := ⟨⟨0, 0, 0, [], declared_nil⟩, fits_nil⟩
  arrivals := [.piece .rx rx_ne_other [0], .piece .rx rx_ne_other [0, 0], .taskCheck]
  delivers := rfl

theorem emptyTurn_delivered : ∃ s, idleJig.runArrivals byteSum (Session.arrivals [emptyTurn]) = .ok s ∧
    s.calls = [[0, 0, 0]] := by
  have hpieces : Session.InPieces [emptyTurn] := by
    intro t ht
    cases List.mem_singleton.mp ht
    exact ⟨[[0], [0, 0]], rfl⟩
  refine (serial_delivers_iff byteSum idleRoutines _ [emptyTurn] (hpieces.waits idleJig_inv rfl)).mpr ?_
  refine ⟨?_, trivial⟩
  rintro ⟨hbig, -⟩
  exact absurd hbig (by decide)

theorem fits_replicate {m : WireMessage} {n : Nat} {b : UInt8} (hm : m.payload = List.replicate n b)
    (h : 3 + n ≤ serialBufSize) : 3 + m.payload.length ≤ serialBufSize := by
  rwa [hm, List.length_replicate]

theorem declared_long : (65 : UInt8).toNat * 256 + (0 : UInt8).toNat =
    (List.replicate 16640 (0 : UInt8)).length := by
  rw [List.length_replicate]
  decide

/-- A message with a payload of 201 bytes, and one with a payload of 16640 that
is cut after two bytes. -/
def cutSession : Session :=
  [{ message := ⟨⟨0, 0, 201, List.replicate 201 0, by simp only [List.length_replicate]; decide⟩,
        fits_replicate rfl (by decide)⟩
     arrivals := [.piece .rx (by decide) (0 :: 0 :: 201 :: List.replicate 201 0), .taskCheck]
     delivers := by simp [Arrival.bytes, WireMessage.bytes] },
    { message := ⟨⟨0, 65, 0, List.replicate 16640 0, declared_long⟩,
        fits_replicate rfl (by decide)⟩
      arrivals := [.piece .rx (by decide) [0, 65], .piece .rx (by decide) (0 :: List.replicate 16640 0),
        .taskCheck]
      delivers := by
        simp only [List.flatMap_cons, List.flatMap_nil, Arrival.bytes, WireMessage.bytes, List.append_nil,
          List.cons_append, List.nil_append] }]

theorem cutSession_inPieces : cutSession.InPieces := by
  intro t ht
  simp only [cutSession, List.mem_cons, List.not_mem_nil, or_false] at ht
  rcases ht with rfl | rfl
  · exact ⟨[_], rfl⟩
  · exact ⟨[_, _], rfl⟩

/-- The two bytes are dropped, and the rest of the message is taken for another. -/
theorem cutSession_misframed : cutSession.Waits byteSum idleJig ∧
    ¬ ∃ s, idleJig.runArrivals byteSum cutSession.arrivals = .ok s ∧ s.calls = cutSession.messages := by
  have hwaits : cutSession.Waits byteSum idleJig := cutSession_inPieces.waits idleJig_inv rfl
  refine ⟨hwaits, ?_⟩
  rintro ⟨s, hrun, hcalls⟩
  obtain ⟨s', hrun', hiff⟩ := Session.delivered (Ready.powerUp _ _) hwaits
  cases hrun.symm.trans hrun'
  refine (hiff.mp hcalls).2.1 ⟨by decide, [.piece .rx (by decide) [0, 65]], _, rfl, rfl⟩

end UdcFirmware.Drivers
