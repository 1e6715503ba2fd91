/-
uIP and the Ethernet driver together: `httpd_appcall` is uIP's application,
and `EthernetProcessData` looks at `new_message` after each packet.

What the driver does in any run is what it does on the events that uIP's calls
stand for (`ethernet_refined`): the runs of `Ethernet.step`, which take the
deliveries of uIP for granted, are those of the whole.
-/
import UdcFirmware.Drivers.Receivers
import UdcFirmware.Uip.Delivery

namespace UdcFirmware.Uip

open Bsmp ByteMem Checked Drivers Filling

variable {σ : Type} {md5 : Md5}

/-! ## The application -/

/-- `httpd_appcall`. For another port than 80 it calls `uip_abort`. -/
def httpdApp : App (Ethernet σ) := fun call s => do
  if call.lport = 80 then
    let s' ← httpdAppcall s call.conn (if call.flags.newdata then some call.data else none)
    return (⟨call.flags, if s.newDataSend then s.pending else []⟩, s')
  else return (⟨{ abort := true }, []⟩, s)

/-- `EthernetProcessData`, after the call of `uip_process`. -/
def ethernetMain (md5 : Md5) : Main (Ethernet σ)
  | .input .., s => if s.newMessage then ethernetProcessCmd md5 { s with newMessage := false } else .ok s
  | .periodic .., s => .ok s

/-- The device after `uip_init` and `httpd_init`. -/
abbrev Device.powerUp (hostaddr : IpAddr) (r : Routines σ) (world : World σ) : Link (Ethernet σ) :=
  .powerUp hostaddr (.powerUp r world)

/-- A call that a timer has brought about. -/
def AppCall.timed (call : AppCall) : Bool := call.flags.poll || call.flags.rexmit || call.flags.timedout

/-- The event of the driver that a call stands for. -/
def AppCall.event (call : AppCall) : Option EthernetEvent :=
  if call.lport ≠ 80 then none
  else if call.timed then some (.periodic call.conn)
  else some (.input call.conn (if call.flags.newdata then some call.data else none))

/-! ## The calls of a step -/

section Calls

variable {τ : Type} {app : App τ} {s : Stack τ} {i : Connection} {p : Packet} {fuel : Nat} {c c' : Conn}
  {calls : List AppCall}

theorem Turn.calls_timed (h : Turn app i p c calls c') : ∀ call ∈ calls, call.timed = false := by
  cases h with
  | unexpected | ignored | window => exact List.forall_mem_nil _
  | connected | finished | data | closed => simp [AppCall.timed]
  | ending _ hcalls => rcases hcalls with rfl | ⟨data, rfl⟩ <;> simp [AppCall.timed]

theorem Tick.calls_timed (h : Tick app i c calls c') :
    ∀ call ∈ calls, call.timed = true ∧ call.flags.newdata = false := by
  cases h with
  | waited | idle | counted | resent => exact List.forall_mem_nil _
  | timedout | rexmit | polled => simp [AppCall.timed]

/-- A call of `uip_process`, as the application sees it. -/
structure Seen (app : App τ) (s : Stack τ) (e : Event) (r : Stack τ × Output) (calls : List AppCall) : Prop where
  logged : r.1.calls = s.calls ++ calls
  ran : Runs.run (App.step app) s.app calls = .ok r.1.app
  length : calls.length ≤ 1
  timed : ∀ call ∈ calls, call.timed = true ∧ call.flags.newdata = false ∧ (∃ i p, e = .periodic i p) ∨
    call.timed = false ∧ ∃ uipLen ip rest, e = .input uipLen ip rest

theorem input_of_segment {e : Event} (h : s.segment e = some p) : ∃ uipLen ip rest, e = .input uipLen ip rest := by
  cases e with
  | input uipLen ip rest => exact ⟨uipLen, ip, rest, rfl⟩
  | periodic => cases h

theorem process_seen {e : Event} {r : Stack τ × Output} (h : Table s) (hr : process fuel app s e = .ok r) :
    ∃ calls, Seen app s e r calls := by
  cases process_step (fun k => (h.sound k).unsent) hr with
  | apart _ hsame =>
    exact ⟨[], by rw [hsame.calls, List.append_nil], congrArg Except.ok hsame.app.symm, Nat.zero_le _,
      List.forall_mem_nil _⟩
  | aborted hp hfound hrst hserved hout =>
    exact ⟨_, hserved.calls, hserved.app, by simp, by simp [AppCall.timed, input_of_segment hp]⟩
  | turn hp hfound hrst hturn hserved hout =>
    exact ⟨_, hserved.calls, hserved.app, hturn.calls_length, fun call hcall =>
      .inr ⟨hturn.calls_timed call hcall, input_of_segment hp⟩⟩
  | opened hp hopened hserved hout =>
    exact ⟨_, hserved.calls, hserved.app, Nat.zero_le _, List.forall_mem_nil _⟩
  | tick he htick hserved hclosed hout =>
    refine ⟨_, hserved.calls, hserved.app, htick.calls_length, fun call hcall => .inl ?_⟩
    obtain ⟨htimed, hnew⟩ := htick.calls_timed call hcall
    exact ⟨htimed, hnew, _, _, he⟩

end Calls

/-! ## The driver's part -/

theorem httpdApp_step {call : AppCall} {a a' : Ethernet σ} (h : App.step httpdApp a call = .ok a') :
    if call.lport = 80 then
      httpdAppcall a call.conn (if call.flags.newdata then some call.data else none) = .ok a'
    else a' = a := by
  obtain ⟨⟨reply, a₁⟩, happ, h⟩ := bind_ok_iff.mp h
  cases h
  unfold httpdApp at happ
  split at happ
  · next hport =>
    rw [if_pos hport]
    obtain ⟨a₂, hcall, happ⟩ := bind_ok_iff.mp happ
    cases happ
    exact hcall
  · next hport =>
    rw [if_neg hport]
    cases happ
    rfl

/-- A call that finishes has had room for the data. -/
theorem httpdAppcall_room {a a' : Ethernet σ} {conn : Connection} {bytes : List UInt8} (h : a.Inv)
    (hcall : httpdAppcall a conn (some bytes) = .ok a') : a.rxBuffer.index + bytes.length ≤ rxBufSize := by
  by_contra hover
  have hfail := newdata_overruns h.index (Nat.lt_of_not_le hover)
  simp only [httpdAppcall, hfail] at hcall
  cases hcall

theorem uipSend_newMessage {a a' : Ethernet σ} {conn : Connection} {response : Drivers.Response}
    (h : a.uipSend conn response = .ok a') : a'.newMessage = a.newMessage := by
  unfold Ethernet.uipSend at h
  split at h
  · split at h
    · cases h
      rfl
    · cases h
  · cases h
    rfl

theorem httpdAppcall_newMessage {a a' : Ethernet σ} {conn : Connection} (h : httpdAppcall a conn none = .ok a') :
    a'.newMessage = a.newMessage := by
  simp only [httpdAppcall, ok_bind] at h
  split at h
  · obtain ⟨a₁, hsend, h⟩ := bind_ok_iff.mp h
    cases h
    have hsame := uipSend_newMessage hsend
    exact hsame
  · cases h
    rfl

theorem ethernetProcessCmd_newMessage {a a' : Ethernet σ} (h : ethernetProcessCmd md5 a = .ok a') :
    a'.newMessage = a.newMessage := by
  obtain ⟨a₁, hproc, h⟩ := bind_ok_iff.mp h
  cases h
  obtain ⟨⟨sys, response⟩, -, hproc⟩ := bind_ok_iff.mp hproc
  dsimp only at hproc
  split at hproc
  · cases hproc
  · cases hproc
    rfl

/-! ## Refinement -/

variable {fuel : Nat} {s s' : Link (Ethernet σ)}

/-- No message waits between two events. -/
structure Driven (md5 : Md5) (r : Routines σ) (world : World σ) (s : Link (Ethernet σ)) : Prop where
  table : Table s.stack
  refined : Runs.run (Ethernet.step md5) (.powerUp r world) (s.stack.calls.filterMap AppCall.event) =
    .ok s.stack.app
  newMessage : s.stack.app.newMessage = false

theorem ethernetMain_idle {e : Event} {a a' : Ethernet σ} (hidle : a.newMessage = false)
    (h : ethernetMain md5 e a = .ok a') : a' = a := by
  cases e with
  | input =>
    simp only [ethernetMain, hidle] at h
    cases h
    rfl
  | periodic =>
    cases h
    rfl

theorem ethernetStep_input {conn : Connection} {data : Option (List UInt8)} {uipLen : UInt16} {ip : IpHeader}
    {rest : Nat → UInt8} {a a₁ a₂ : Ethernet σ} (hcall : httpdAppcall a conn data = .ok a₁)
    (hmain : ethernetMain md5 (.input uipLen ip rest) a₁ = .ok a₂) : a.step md5 (.input conn data) = .ok a₂ := by
  rw [Ethernet.step, hcall, ok_bind]
  exact hmain

/-- A call and what the main loop does after it are an event of the driver. -/
theorem ethernetMain_event {e : Event} {call : AppCall} {a a₁ a₂ : Ethernet σ} (hidle : a.newMessage = false)
    (htimed : call.timed = true ∧ call.flags.newdata = false ∧ (∃ i p, e = .periodic i p) ∨
      call.timed = false ∧ ∃ uipLen ip rest, e = .input uipLen ip rest)
    (hcall : App.step httpdApp a call = .ok a₁) (hmain : ethernetMain md5 e a₁ = .ok a₂) :
    Runs.run (Ethernet.step md5) a call.event.toList = .ok a₂ ∧ a₂.newMessage = false := by
  have hstep := httpdApp_step hcall
  unfold AppCall.event
  by_cases hport : call.lport = 80
  · rw [if_pos hport] at hstep
    rw [if_neg (not_not.mpr hport)]
    rcases htimed with ⟨htimed, hnew, j, p, rfl⟩ | ⟨htimed, uipLen, ip, rest, rfl⟩
    · cases hmain
      rw [hnew, if_neg (by simp)] at hstep
      rw [if_pos htimed]
      refine ⟨(Runs.run_singleton ..).trans hstep, ?_⟩
      rw [httpdAppcall_newMessage hstep, hidle]
    · rw [htimed, if_neg (by simp)]
      refine ⟨(Runs.run_singleton ..).trans (ethernetStep_input hstep hmain), ?_⟩
      simp only [ethernetMain] at hmain
      split at hmain
      · exact ethernetProcessCmd_newMessage hmain
      · next hnone =>
        cases hmain
        exact Bool.eq_false_iff.mpr hnone
  · rw [if_neg hport] at hstep
    subst hstep
    rw [if_pos hport]
    rw [ethernetMain_idle hidle hmain]
    exact ⟨rfl, hidle⟩

theorem Driven.step {r : Routines σ} {world : World σ} {e : Event} (h : Driven md5 r world s)
    (hs : s.step fuel httpdApp (ethernetMain md5) e = .ok s') : Driven md5 r world s' := by
  obtain ⟨r₁, hr, hs⟩ := bind_ok_iff.mp hs
  obtain ⟨a₂, hmain, hs⟩ := bind_ok_iff.mp hs
  cases hs
  obtain ⟨calls, hseen⟩ := process_seen h.table hr
  have htable := (h.table.step hr).withApp a₂
  have hlength := hseen.length
  have hran := hseen.ran
  have hrest : Runs.run (Ethernet.step md5) s.stack.app (calls.filterMap AppCall.event) = .ok a₂ ∧
      a₂.newMessage = false := by
    cases calls with
    | nil =>
      rw [← Except.ok.inj hran] at hmain
      rw [ethernetMain_idle h.newMessage hmain]
      exact ⟨rfl, h.newMessage⟩
    | cons call calls =>
      obtain rfl : calls = [] := List.length_eq_zero_iff.mp (by simpa using hlength)
      obtain ⟨a₁, hcall, hran⟩ := bind_ok_iff.mp hran
      rw [← Except.ok.inj hran] at hmain
      have hevent := ethernetMain_event h.newMessage (hseen.timed call (by simp)) hcall hmain
      cases hnone : call.event with
      | none => simpa [hnone] using hevent
      | some event => simpa [hnone] using hevent
  refine ⟨htable, ?_, hrest.2⟩
  rw [hseen.logged, List.filterMap_append, Runs.run_append, h.refined]
  exact hrest.1

theorem driven_run {hostaddr : IpAddr} {r : Routines σ} {world : World σ} {evs : List Event}
    (h : Runs.run (Link.step fuel httpdApp (ethernetMain md5)) (Device.powerUp hostaddr r world) evs = .ok s) :
    Driven md5 r world s := by
  have hinit : Driven md5 r world (Device.powerUp hostaddr r world) := ⟨table_powerUp hostaddr _, rfl, rfl⟩
  exact Runs.run_invariant (I := Driven md5 r world) (fun _ _ _ hs hstep => hs.step hstep) hinit h

/-- **uIP and the driver** do what the driver does by itself on the events that uIP's calls stand for, in every
run, whatever comes in. -/
theorem ethernet_refined (fuel : Nat) (md5 : Md5) (hostaddr : IpAddr) (r : Routines σ) (world : World σ)
    (evs : List Event) (s : Link (Ethernet σ))
    (h : Runs.run (Link.step fuel httpdApp (ethernetMain md5)) (Device.powerUp hostaddr r world) evs = .ok s) :
    Runs.run (Ethernet.step md5) (.powerUp r world) (s.stack.calls.filterMap AppCall.event) =
      .ok s.stack.app := (driven_run h).refined

/-- A request of three bytes, and a poll. -/
def versionSegments : List Event :=
  [(plainSegment 5 0 tcpSyn []).event, (plainSegment 6 1 tcpAck [0, 0, 0]).event,
    .periodic 0 (plainSegment 0 0 0 [])]

/-- The request is answered: it comes in with one call, and the response goes out with the next. -/
theorem ethernet_refined_version : ∃ s : Link (Ethernet Unit),
    (s.stack.calls.filterMap AppCall.event).length = 2 ∧ s.stack.app.sends = [(0, [1, 0, 3, 2, 20, 0])] ∧
      Runs.run (Ethernet.step byteSum) (.powerUp idleRoutines { mem := fun _ => 0, app := () })
        (s.stack.calls.filterMap AppCall.event) = .ok s.stack.app := by
  have hrun : (Runs.run (Link.step 41 httpdApp (ethernetMain byteSum))
      (Device.powerUp ⟨0xc0a8, 1⟩ idleRoutines { mem := fun _ => 0, app := () }) versionSegments).toOption.map
        (fun s => ((s.stack.calls.filterMap AppCall.event).length, s.stack.app.sends)) =
      some (2, [(0, [1, 0, 3, 2, 20, 0])]) := by decide +kernel
  obtain ⟨s, hs, hfacts⟩ := ok_of_toOption_map hrun
  obtain ⟨hlength, hsends⟩ := Prod.mk.injEq .. ▸ hfacts
  exact ⟨s, hlength, hsends, ethernet_refined 41 byteSum _ idleRoutines _ versionSegments s hs⟩

end UdcFirmware.Uip
