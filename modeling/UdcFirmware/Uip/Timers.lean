/-
How long a connection is kept for a peer that says nothing.

A connection with outstanding data is tried again after 3, 6, 12, 24 and then
always 48 ticks of its timer, eight times, or five times for a SYN; one in
TIME_WAIT or FIN_WAIT_2 waits until its timer has come round to 120. `patience`
is the number of ticks that this makes, and the connection is closed after as
many, not before (`silent_connection_closes`). The application has no say in it.

One with nothing outstanding is not among these: it is kept for ever.
-/
import Mathlib.Algebra.BigOperators.Intervals
import Mathlib.Algebra.Order.BigOperators.Group.Finset
import UdcFirmware.Uip.Connections

namespace UdcFirmware.Uip

open Bsmp ByteMem Checked Drivers

variable {τ : Type} {app : App τ} {main : Main τ} {s s' : Link τ} {i : Connection} {p : Packet} {fuel : Nat}
  {c c' : Conn} {calls : List AppCall} {listenports : List UInt16}

/-! ## Ticks -/

/-- The ticks from the `n`-th retransmission to the next one. -/
def rexmtTicks (n : Nat) : Nat := 3 * 2 ^ min n 4 + 1

/-- So often is outstanding data tried. -/
def Conn.maxnrtx (c : Conn) : Nat := if c.state = .synRcvd then 5 else 8

/-- The ticks until the connection is closed. -/
def Conn.patience (c : Conn) : Nat :=
  if c.Lingers then (uipTimeWaitTimeout - 1 - c.timer).toNat + 1
  else c.timer.toNat + 1 + ∑ n ∈ Finset.Ico c.nrtx.toNat c.maxnrtx, rexmtTicks n

/-- The connection is one that its timer closes. -/
def Conn.Waits (c : Conn) : Prop := c.Lingers ∨ c.state ≠ .closed ∧ c.len ≠ 0

theorem Conn.Waits.opened (h : c.Waits) : c.state ≠ .closed := by
  rcases h with (h | h) | h
  · simp [h]
  · simp [h]
  · exact h.1

theorem Conn.waited_patience (h : c.Lingers) (htimer : c.timer + 1 ≠ uipTimeWaitTimeout) :
    c.waited.Waits ∧ c.patience = c.waited.patience + 1 := by
  have hlingers : c.waited.Lingers := by
    simp only [Lingers, waited, if_neg htimer]
    exact h
  refine ⟨.inl hlingers, ?_⟩
  have hne : c.timer.toNat ≠ 119 := by
    intro heq
    exact htimer (UInt8.toNat_inj.mp (by rw [UInt8.toNat_add, heq]; rfl))
  have hlt := c.timer.toNat_lt
  have hleft (t : UInt8) : (uipTimeWaitTimeout - 1 - t).toNat = (256 - t.toNat + 119) % 256 := UInt8.toNat_sub ..
  have htick : c.waited.timer.toNat = (c.timer.toNat + 1) % 256 := UInt8.toNat_add ..
  rw [patience, if_pos h, patience, if_pos hlingers, hleft, hleft, htick]
  omega

theorem Conn.timer_sub (h : c.timer ≠ 0) : (c.timer - 1).toNat + 1 = c.timer.toNat := by
  have hpos : c.timer.toNat ≠ 0 := fun hz => h (UInt8.toNat_inj.mp hz)
  have hlt := c.timer.toNat_lt
  rw [UInt8.toNat_sub_of_le]
  · have hone : UInt8.toNat 1 = 1 := rfl
    omega
  · rw [UInt8.le_iff_toNat_le]
    have hone : UInt8.toNat 1 = 1 := rfl
    omega

theorem Conn.counted_patience (hactive : ¬ c.Lingers) (hlen : c.len ≠ 0) (hopen : c.state ≠ .closed)
    (htimer : c.timer ≠ 0) : { c with timer := c.timer - 1 }.Waits ∧
      c.patience = { c with timer := c.timer - 1 }.patience + 1 := by
  refine ⟨.inr ⟨hopen, hlen⟩, ?_⟩
  have hcount := timer_sub htimer
  have hactive' : ¬ { c with timer := c.timer - 1 }.Lingers := hactive
  rw [patience, if_neg hactive, patience, if_neg hactive']
  simp only [maxnrtx]
  omega

theorem Conn.givesUp_patience (hfires : c.Fires) (h : c.GivesUp) : c.patience = 1 := by
  have hnone : Finset.Ico c.nrtx.toNat c.maxnrtx = ∅ := by
    rw [Finset.Ico_eq_empty_iff]
    rcases h with hn | ⟨hs, hn⟩
    · rw [hn, maxnrtx]
      split <;> decide
    · rw [hn, maxnrtx, if_pos hs]
      decide
  rw [patience, if_neg hfires.active, hnone, Finset.sum_empty, hfires.timer]
  rfl

/-- What the timer of a retransmission is set to. -/
theorem rexmt_timer {n : UInt8} (h : n ≤ uipMaxrtx) :
    (uipRto <<< (if n > 4 then 4 else n)).toNat + 1 = rexmtTicks n.toNat ∧ (n + 1).toNat = n.toNat + 1 := by
  have hall : ∀ k < 9, (uipRto <<< (if UInt8.ofNat k > 4 then 4 else UInt8.ofNat k)).toNat + 1 = rexmtTicks k ∧
      (UInt8.ofNat k + 1).toNat = k + 1 := by decide
  have hlt := hall n.toNat (Nat.lt_succ_of_le (UInt8.le_iff_toNat_le.mp h))
  rwa [UInt8.ofNat_toNat] at hlt

theorem Conn.backoff_patience (hc : c.Sound listenports) (hfires : c.Fires) (h : ¬ c.GivesUp) :
    c.backoff.Waits ∧ c.patience = c.backoff.patience + 1 := by
  refine ⟨.inr ⟨hfires.opened, hfires.len⟩, ?_⟩
  obtain ⟨htimer, hnrtx⟩ := rexmt_timer hc.nrtx
  have hmore : c.nrtx.toNat < c.maxnrtx := by
    have hle := hc.nrtx
    have hlesyn := hc.nrtxSyn
    rw [UInt8.le_iff_toNat_le] at hle
    simp only [UInt8.le_iff_toNat_le] at hlesyn
    have hne : c.nrtx.toNat ≠ 8 := fun hn => h (.inl (UInt8.toNat_inj.mp hn))
    have hnesyn : c.state = .synRcvd → c.nrtx.toNat ≠ 5 := fun hs hn => h (.inr ⟨hs, UInt8.toNat_inj.mp hn⟩)
    have hmax : uipMaxrtx.toNat = 8 ∧ uipMaxsynrtx.toNat = 5 := ⟨rfl, rfl⟩
    rw [maxnrtx]
    split
    · next hs =>
      have := hlesyn hs
      have := hnesyn hs
      omega
    · omega
  have hactive : ¬ c.backoff.Lingers := hfires.active
  have htimer' : c.backoff.timer.toNat + 1 = rexmtTicks c.nrtx.toNat := htimer
  have hnrtx' : c.backoff.nrtx.toNat = c.nrtx.toNat + 1 := hnrtx
  have hmax : c.backoff.maxnrtx = c.maxnrtx := rfl
  have hzero : UInt8.toNat 0 = 0 := rfl
  rw [patience, if_neg hfires.active, patience, if_neg hactive, hfires.timer, hnrtx', hmax, htimer', hzero,
    Finset.sum_eq_sum_Ico_succ_bot hmore]
  omega

theorem Conn.patience_le (c : Conn) : c.patience ≤ 501 := by
  have hlt := c.timer.toNat_lt
  rw [patience]
  split
  · have := (uipTimeWaitTimeout - 1 - c.timer).toNat_lt
    omega
  · have hsub : Finset.Ico c.nrtx.toNat c.maxnrtx ⊆ Finset.range 8 := by
      intro n hn
      have hmax : c.maxnrtx ≤ 8 := by
        rw [maxnrtx]
        split <;> decide
      rw [Finset.mem_Ico] at hn
      exact Finset.mem_range.mpr (hn.2.trans_le hmax)
    have hsum := Finset.sum_le_sum_of_subset (f := rexmtTicks) hsub
    have hall : ∑ n ∈ Finset.range 8, rexmtTicks n = 245 := rfl
    omega

/-- One tick less, or the last one. -/
theorem Tick.countdown (h : Tick app i c calls c') (hc : c.Sound listenports) (hw : c.Waits) :
    c.patience = 1 ∧ c'.state = .closed ∨ c'.Waits ∧ c.patience = c'.patience + 1 := by
  cases h with
  | waited hlingers =>
    by_cases htimer : c.timer + 1 = uipTimeWaitTimeout
    · left
      have hlast : c.timer = uipTimeWaitTimeout - 1 := by rw [← htimer, UInt8.add_sub_cancel]
      refine ⟨?_, if_pos htimer⟩
      rw [Conn.patience, if_pos hlingers, hlast]
      rfl
    · exact .inr (Conn.waited_patience hlingers htimer)
  | idle h =>
    rcases h with hs | ⟨hactive, hlen, -⟩
    · exact absurd hs hw.opened
    · rcases hw with hs | hs
      · exact absurd hs hactive
      · exact absurd hlen hs.2
  | counted hactive hopen hlen htimer => exact .inr (Conn.counted_patience hactive hlen hopen htimer)
  | timedout hfires hmax => exact .inl ⟨Conn.givesUp_patience hfires hmax, rfl⟩
  | resent hfires hmax hstate => exact .inr (Conn.backoff_patience hc hfires hmax)
  | rexmit hfires hmax hstate => exact .inr (Conn.backoff_patience hc hfires hmax)
  | polled hstate hlen hanswers =>
    rcases hw with (hs | hs) | hs
    · simp [hs] at hstate
    · simp [hs] at hstate
    · exact absurd hlen hs.2

/-! ## Over runs -/

/-- A tick of the timer of connection `i`. -/
def Event.ticks (i : Connection) : Event → Bool
  | .periodic j _ => i == j
  | .input .. => false

/-- No segment that comes in belongs to the connection; and while a SYN could take its place, all
belong to others. -/
def Quiet (i : Connection) (s : Link τ) (e : Event) : Prop :=
  ∀ p, s.stack.segment e = some p → s.stack.found? p ≠ some i ∧
    ((s.stack.conns i).state = .closed ∨ (s.stack.conns i).state = .timeWait → s.stack.found? p ≠ none)

/-- The connection is closed after `n` ticks more. -/
def Conn.Left (n : Nat) (c : Conn) : Prop := 0 < n ∧ c.Waits ∧ c.patience = n ∨ n = 0 ∧ c.state = .closed

theorem Conn.patience_pos (c : Conn) : 0 < c.patience := by
  rw [patience]
  split <;> omega

theorem Conn.Waits.left (h : c.Waits) : c.Left c.patience := .inl ⟨c.patience_pos, h, rfl⟩

theorem Conn.Left.closed_iff {n : Nat} (h : c.Left n) : c.state = .closed ↔ n = 0 := by
  rcases h with ⟨hpos, hw, -⟩ | ⟨hzero, hclosed⟩
  · exact ⟨fun hs => absurd hs hw.opened, fun hn => absurd hn (Nat.ne_of_gt hpos)⟩
  · exact ⟨fun _ => hzero, fun _ => hclosed⟩

theorem Tick.left {n : Nat} (h : Tick app i c calls c') (hc : c.Sound listenports) (hl : c.Left n) :
    c'.Left (n - 1) := by
  rcases hl with ⟨hpos, hw, hn⟩ | ⟨hzero, hclosed⟩
  · rcases h.countdown hc hw with ⟨hlast, hclosed⟩ | ⟨hw', hnext⟩
    · exact .inr ⟨by omega, hclosed⟩
    · have := c'.patience_pos
      exact .inl ⟨by omega, hw', by omega⟩
  · refine .inr ⟨by omega, ?_⟩
    have hgoes := h.goes hc
    by_contra hopen
    exact hgoes.opened hopen hclosed

/-- Only its own timer does anything to the connection. -/
theorem Quiet.step {n : Nat} {e : Event} (hq : Quiet i s e) (htable : Table s.stack)
    (hl : (s.stack.conns i).Left n) (h : s.step fuel app main e = .ok s') :
    Table s'.stack ∧ (s'.stack.conns i).Left (n - if e.ticks i then 1 else 0) := by
  obtain ⟨r, a, hr, rfl⟩ := linkStep_ok h
  refine ⟨(htable.step hr).withApp a, ?_⟩
  have hnone (he : e.ticks i = false) (hsame : r.1.conns i = s.stack.conns i) :
      (r.1.conns i).Left (n - if e.ticks i then 1 else 0) := by
    rw [he, hsame]
    exact hl
  have hinput {p : Packet} (hp : s.stack.segment e = some p) : e.ticks i = false := by
    cases e with
    | input => rfl
    | periodic => cases hp
  cases process_step (fun k => (htable.sound k).unsent) hr with
  | apart hinput hsame =>
    cases e with
    | input => exact hnone rfl (by rw [hsame.conns])
    | periodic j p => exact absurd rfl (hinput j p)
  | @aborted p j hp hfound hrst data out hserved hout =>
    exact hnone (hinput hp) (hserved.other fun hij => (hq p hp).1 (hij ▸ hfound))
  | @turn p j hp hfound hrst calls c hturn out hserved hout =>
    exact hnone (hinput hp) (hserved.other fun hij => (hq p hp).1 (hij ▸ hfound))
  | @opened p j hp c hopened out hserved hout =>
    exact hnone (hinput hp) (hserved.other fun hij => (hq p hp).2 (hij ▸ hopened.unused) hopened.fresh)
  | @tick j p he calls c htick out hserved hclosed hout =>
    by_cases hij : i = j
    · subst hij
      have hconn : r.1.conns i = c := hserved.conn
      have hticks : e.ticks i = true := by rw [he, Event.ticks, beq_self_eq_true]
      rw [hticks, hconn]
      exact htick.left (htable.sound i) hl
    · refine hnone ?_ (hserved.other hij)
      rw [he, Event.ticks]
      exact beq_false_of_ne hij

theorem left_run {n : Nat} {evs : List Event} (htable : Table s.stack) (hl : (s.stack.conns i).Left n)
    (hq : Runs.Along (Link.step fuel app main) (Quiet i) s evs)
    (h : Runs.run (Link.step fuel app main) s evs = .ok s') :
    (s'.stack.conns i).Left (n - evs.countP (Event.ticks i)) := by
  induction evs generalizing s n with
  | nil =>
    cases h
    exact hl
  | cons e evs ih =>
    obtain ⟨s₁, h₁, h₂⟩ := bind_ok_iff.mp h
    obtain ⟨htable₁, hl₁⟩ := hq.1.step htable hl h₁
    have hrest := ih htable₁ hl₁ (hq.2 s₁ h₁) h₂
    rw [List.countP_cons, Nat.add_comm, ← Nat.sub_sub]
    exact hrest

/-- **A peer that says nothing** is given up after `patience` ticks of its connection's timer, at most 501, and
not before: in every run, whatever comes in for other connections and whatever the application does. So
is a connection that only waits for old segments to die out. -/
theorem silent_connection_closes (fuel : Nat) (app : App τ) (main : Main τ) (hostaddr : IpAddr) (a : τ)
    (before after : List Event) (s s' : Link τ) (i : Connection)
    (hbefore : Runs.run (Link.step fuel app main) (.powerUp hostaddr a) before = .ok s)
    (hw : (s.stack.conns i).Waits) (hq : Runs.Along (Link.step fuel app main) (Quiet i) s after)
    (hafter : Runs.run (Link.step fuel app main) s after = .ok s') :
    ((s'.stack.conns i).state = .closed ↔ (s.stack.conns i).patience ≤ after.countP (Event.ticks i)) ∧
      (s.stack.conns i).patience ≤ 501 := by
  have hleft := left_run (table_run hbefore).1 hw.left hq hafter
  exact ⟨hleft.closed_iff.trans Nat.sub_eq_zero_iff_le, (s.stack.conns i).patience_le⟩

/-- Ticks alone are quiet. -/
theorem quiet_ticks (i : Connection) (p : Packet) (n : Nat) (s : Link τ) :
    Runs.Along (Link.step fuel app main) (Quiet i) s (List.replicate n (.periodic i p)) := by
  induction n generalizing s with
  | zero => trivial
  | succ n ih => exact ⟨fun q hq => absurd hq nofun, fun s' _ => ih s'⟩

/-- A SYN that is not followed by anything is forgotten after 102 ticks. -/
theorem silent_connection_closes_syn :
    ∃ s s', Runs.run (Link.step 41 silentApp idleMain) (.powerUp ⟨0xc0a8, 1⟩ ())
        [(plainSegment 5 0 tcpSyn []).event] = .ok s ∧
      Runs.run (Link.step 41 silentApp idleMain) s
        (List.replicate 102 (.periodic 0 (plainSegment 5 0 tcpSyn []))) = .ok s' ∧
      (s'.stack.conns 0).state = .closed := by
  have hrun : (Runs.run (Link.step 41 silentApp idleMain) (.powerUp ⟨0xc0a8, 1⟩ ())
      [(plainSegment 5 0 tcpSyn []).event]).toOption.map (fun s =>
        (s.stack.conns 0, (Runs.run (Link.step 41 silentApp idleMain) s
          (List.replicate 102 (.periodic 0 (plainSegment 5 0 tcpSyn [])))).toOption.map fun _ => ())) =
      some ({ Conn.unset with
        ripaddr := ⟨0xc0a8, 2⟩, lport := 80, rport := 1024, rcvNxt := 6, sndNxt := 0, len := 1, sv := 4, rto := 3
        state := .synRcvd, timer := 3 }, some ()) := by decide +kernel
  obtain ⟨s, hs, hfacts⟩ := ok_of_toOption_map hrun
  simp only [Prod.mk.injEq] at hfacts
  obtain ⟨hconn, hnext⟩ := hfacts
  obtain ⟨s', hs', -⟩ := ok_of_toOption_map hnext
  have hw : (s.stack.conns 0).Waits := by
    rw [hconn]
    exact .inr ⟨by decide, by decide⟩
  have hpatience : (s.stack.conns 0).patience = 102 := by
    rw [hconn]
    rfl
  have hcloses := silent_connection_closes 41 silentApp idleMain _ () _ _ s s' 0 hs hw (quiet_ticks 0 _ 102 s) hs'
  refine ⟨s, s', hs, hs', hcloses.1.mpr ?_⟩
  rw [hpatience]
  decide +kernel

end UdcFirmware.Uip
