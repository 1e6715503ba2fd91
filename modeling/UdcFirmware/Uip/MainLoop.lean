/-
`EthernetProcessData` as a whole: a frame comes in, both timers count the
system ticks, and every datagram of uIP goes out through `uip_arp_out`.

What it does in a run is what uIP and the table of Ethernet addresses do on the
events of the run (`Wire.step`); each connection's timer is called at every
51st system tick that it sees, and that of the table at every 10001st
(`timers_called`).

Left out is `uip_udp_periodic`: there are no UDP connections.
-/
import UdcFirmware.Uip.Echo
import UdcFirmware.Uip.Resolution
import UdcFirmware.Uip.Responses

namespace UdcFirmware.Uip

open Bsmp ByteMem Checked Drivers

/-! ## Frames and timers -/

@[simp] abbrev uipPeriodicTimerMs : Nat := 50
@[simp] abbrev uipArpTimerMs : Nat := 10000
@[simp] abbrev systickms : Nat := 1

/-- The stack, the table of Ethernet addresses, and the frames given to `EthernetPacketPutDMA`. -/
structure Wire (τ : Type) where
  link : Link τ
  arp : Arp
  frames : List Frame

/-- What happens to the stack and to the table. -/
inductive WireEvent
  | uip (e : Event)
  | arp (e : ArpEvent)

/-- `uip_arp_out`, if there is something to be sent. -/
def Output.frame (n : Addresses) (a : Arp) : Output → Option Frame
  | .none => Option.none
  | .tcp p => some (uipArpOut n a p.len p.toIpHeader p.rest)
  | .icmp ip rest => some (uipArpOut n a ip.len ip rest)

variable {τ : Type}

def Wire.step (n : Addresses) (fuel : Nat) (app : App τ) (main : Main τ) (s : Wire τ) :
    WireEvent → Except Fault (Wire τ)
  | .uip e => do
    let link ← s.link.step fuel app main e
    -- the packet that is sent is the one that uIP has just left
    let out := link.sent.getLast?.getD .none
    return { s with link, frames := s.frames ++ (out.frame n s.arp).toList }
  | .arp .timer => .ok { s with arp := uipArpTimer s.arp }
  | .arp (.arpin uipLen h) =>
    let r := uipArpArpin n s.arp uipLen h
    .ok { s with arp := r.1, frames := s.frames ++ r.2.toList.map .arp }

/-- The variables of `EthernetProcessData`. -/
structure MainLoop (τ : Type) where
  lPeriodicTimer : Nat
  lARPTimer : Nat
  wire : Wire τ

/-- A frame that is read, by its type. -/
inductive RxPkt
  | ip (uipLen : UInt16) (ip : IpHeader) (rest : Nat → UInt8)
  | arp (uipLen : UInt16) (h : ArpHdr)
  | other

/-- What a call finds: `g_ulFlags`, with the frame that is read, and what the
buffer holds when the timer of a connection is called. -/
structure Pass where
  systick : Bool
  rxpkt : Option RxPkt
  others : Bool
  buffer : Connection → Packet

def RxPkt.events : RxPkt → List WireEvent
  | .ip uipLen header rest => [.uip (.input uipLen header rest)]
  | .arp uipLen h => [.arp (.arpin uipLen h)]
  | .other => []

def Pass.inputs (p : Pass) : List WireEvent := (p.rxpkt.map RxPkt.events).getD []

section Passes

variable (n : Addresses) (fuel : Nat) (app : App τ) (main : Main τ)

/-- The timer of each connection, if it is time for them. -/
def MainLoop.periodic (s : MainLoop τ) (buffer : Connection → Packet) : Except Fault (MainLoop τ) :=
  if s.lPeriodicTimer > uipPeriodicTimerMs then do
    let wire ← Runs.run (Wire.step n fuel app main) s.wire
      ((List.finRange uipConns).map fun i => .uip (.periodic i (buffer i)))
    return { s with lPeriodicTimer := 0, wire }
  else .ok s

/-- The timer of the table, if it is time for it. -/
def MainLoop.arpTimer (s : MainLoop τ) : Except Fault (MainLoop τ) :=
  if s.lARPTimer > uipArpTimerMs then do
    let wire ← s.wire.step n fuel app main (.arp .timer)
    return { s with lARPTimer := 0, wire }
  else .ok s

/-- `EthernetProcessData`. -/
def ethernetProcessData (s : MainLoop τ) (p : Pass) : Except Fault (MainLoop τ) :=
  if p.systick ∨ p.rxpkt.isSome ∨ p.others then do
    let ms := if p.systick then systickms else 0
    let wire ← Runs.run (Wire.step n fuel app main) s.wire p.inputs
    let s ← MainLoop.periodic n fuel app main ⟨s.lPeriodicTimer + ms, s.lARPTimer + ms, wire⟩ p.buffer
    s.arpTimer n fuel app main
  else .ok s

end Passes

/-- After `EthernetInit`. -/
def MainLoop.powerUp (hostaddr : IpAddr) (a : τ) : MainLoop τ :=
  ⟨0, 0, ⟨.powerUp hostaddr a, .powerUp, []⟩⟩

/-! ## The timers -/

def WireEvent.isPeriodic (i : Connection) : WireEvent → Bool
  | .uip (.periodic j _) => j == i
  | _ => false

def WireEvent.isArpTimer : WireEvent → Bool
  | .arp .timer => true
  | _ => false

def WireEvent.isInput : WireEvent → Bool
  | .uip (.input ..) => true
  | .arp (.arpin ..) => true
  | _ => false

section Timers

variable {n : Addresses} {fuel : Nat} {app : App τ} {main : Main τ} {s s₁ s₂ : MainLoop τ}
  {evs evs₁ evs₂ inputs inputs₁ inputs₂ : List WireEvent} {ticks ticks₁ ticks₂ : Nat}

/-- `s₂` is `s₁` after the events, with the inputs among them, and after system ticks. -/
structure Elapsed (n : Addresses) (fuel : Nat) (app : App τ) (main : Main τ) (s₁ : MainLoop τ)
    (evs inputs : List WireEvent) (ticks : Nat) (s₂ : MainLoop τ) : Prop where
  ran : Runs.run (Wire.step n fuel app main) s₁.wire evs = .ok s₂.wire
  received : evs.filter WireEvent.isInput = inputs
  periodic : ∀ i, 51 * evs.countP (WireEvent.isPeriodic i) + s₂.lPeriodicTimer = s₁.lPeriodicTimer + ticks
  arpTimer : 10001 * evs.countP WireEvent.isArpTimer + s₂.lARPTimer = s₁.lARPTimer + ticks

/-- It is time for neither timer. -/
structure MainLoop.Early (s : MainLoop τ) : Prop where
  periodic : s.lPeriodicTimer ≤ uipPeriodicTimerMs
  arpTimer : s.lARPTimer ≤ uipArpTimerMs

theorem Elapsed.refl (s : MainLoop τ) : Elapsed n fuel app main s [] [] 0 s :=
  ⟨rfl, rfl, fun _ => Nat.zero_add _, Nat.zero_add _⟩

theorem Elapsed.trans (h₁ : Elapsed n fuel app main s evs₁ inputs₁ ticks₁ s₁)
    (h₂ : Elapsed n fuel app main s₁ evs₂ inputs₂ ticks₂ s₂) :
    Elapsed n fuel app main s (evs₁ ++ evs₂) (inputs₁ ++ inputs₂) (ticks₁ + ticks₂) s₂ := by
  refine ⟨?_, ?_, fun i => ?_, ?_⟩
  · rw [Runs.run_append, h₁.ran]
    exact h₂.ran
  · rw [List.filter_append, h₁.received, h₂.received]
  · have hfirst := h₁.periodic i
    have hsecond := h₂.periodic i
    rw [List.countP_append]
    omega
  · have hfirst := h₁.arpTimer
    have hsecond := h₂.arpTimer
    rw [List.countP_append]
    omega

theorem inputs_elapsed {wire : Wire τ} {p : Pass} (ms : Nat)
    (h : Runs.run (Wire.step n fuel app main) s.wire p.inputs = .ok wire) :
    Elapsed n fuel app main s p.inputs p.inputs ms ⟨s.lPeriodicTimer + ms, s.lARPTimer + ms, wire⟩ := by
  have hkinds : ∀ e ∈ p.inputs, e.isInput = true ∧ (∀ i, e.isPeriodic i = false) ∧ e.isArpTimer = false := by
    intro e he
    obtain ⟨f, hf⟩ : ∃ f : RxPkt, e ∈ f.events := by
      unfold Pass.inputs at he
      cases hrx : p.rxpkt with
      | none =>
        rw [hrx] at he
        exact absurd he List.not_mem_nil
      | some f =>
        rw [hrx] at he
        exact ⟨f, he⟩
    cases f with
    | ip | arp =>
      cases List.mem_singleton.mp hf
      exact ⟨rfl, fun _ => rfl, rfl⟩
    | other => exact absurd hf List.not_mem_nil
  refine ⟨h, List.filter_eq_self.mpr fun e he => (hkinds e he).1, fun i => ?_, ?_⟩
  · rw [List.countP_eq_zero.mpr fun e he => by simp [(hkinds e he).2.1 i], Nat.mul_zero, Nat.zero_add]
  · rw [List.countP_eq_zero.mpr fun e he => by simp [(hkinds e he).2.2], Nat.mul_zero, Nat.zero_add]

theorem periodic_elapsed {buffer : Connection → Packet} (ht : s.lPeriodicTimer ≤ uipPeriodicTimerMs + systickms)
    (h : s.periodic n fuel app main buffer = .ok s₁) :
    s₁.lPeriodicTimer ≤ uipPeriodicTimerMs ∧ s₁.lARPTimer = s.lARPTimer ∧
      ∃ evs, Elapsed n fuel app main s evs [] 0 s₁ := by
  unfold MainLoop.periodic at h
  split at h
  · next hlate =>
    obtain ⟨wire, hrun, h⟩ := bind_ok_iff.mp h
    cases h
    refine ⟨Nat.zero_le _, rfl, _, hrun, rfl, fun i => ?_, Nat.zero_add _⟩
    have hcount : ((List.finRange uipConns).map fun i => WireEvent.uip (.periodic i (buffer i))).countP
        (WireEvent.isPeriodic i) = 1 := by
      rw [List.countP_map]
      exact List.count_eq_one_of_mem (List.nodup_finRange _) (List.mem_finRange i)
    simp only [uipPeriodicTimerMs, systickms] at hlate ht
    rw [hcount]
    dsimp only
    omega
  · next hearly =>
    cases h
    exact ⟨Nat.not_lt.mp hearly, rfl, [], .refl s⟩

theorem arpTimer_elapsed (ht : s.lARPTimer ≤ uipArpTimerMs + systickms) (h : s.arpTimer n fuel app main = .ok s₁) :
    s₁.lARPTimer ≤ uipArpTimerMs ∧ s₁.lPeriodicTimer = s.lPeriodicTimer ∧
      ∃ evs, Elapsed n fuel app main s evs [] 0 s₁ := by
  unfold MainLoop.arpTimer at h
  split at h
  · next hlate =>
    obtain ⟨wire, hstep, h⟩ := bind_ok_iff.mp h
    cases h
    refine ⟨Nat.zero_le _, rfl, [.arp .timer], (Runs.run_singleton ..).trans hstep, rfl,
      fun _ => Nat.zero_add _, ?_⟩
    simp only [uipArpTimerMs, systickms] at hlate ht
    have hcount : [WireEvent.arp .timer].countP WireEvent.isArpTimer = 1 := rfl
    rw [hcount]
    dsimp only
    omega
  · next hearly =>
    cases h
    exact ⟨Nat.not_lt.mp hearly, rfl, [], .refl s⟩

theorem pass_elapsed {p : Pass} (ht : s.Early) (h : ethernetProcessData n fuel app main s p = .ok s₁) :
    s₁.Early ∧ ∃ evs, Elapsed n fuel app main s evs p.inputs (if p.systick then systickms else 0) s₁ := by
  unfold ethernetProcessData at h
  split at h
  · obtain ⟨wire, hrun, h⟩ := bind_ok_iff.mp h
    obtain ⟨s₂, hperiodic, harp⟩ := bind_ok_iff.mp h
    have hms : (if p.systick then systickms else 0) ≤ systickms := by split <;> decide
    obtain ⟨hp₂, ha₂, evs₂, h₂⟩ := periodic_elapsed (Nat.add_le_add ht.periodic hms) hperiodic
    obtain ⟨ha₃, hp₃, evs₃, h₃⟩ := arpTimer_elapsed (ha₂ ▸ Nat.add_le_add ht.arpTimer hms) harp
    refine ⟨⟨hp₃ ▸ hp₂, ha₃⟩, p.inputs ++ evs₂ ++ evs₃, ?_⟩
    simpa using ((inputs_elapsed _ hrun).trans h₂).trans h₃
  · next hflags =>
    cases h
    simp only [not_or, Bool.not_eq_true, Option.isSome_eq_false_iff, Option.isNone_iff_eq_none] at hflags
    obtain ⟨hsystick, hrxpkt, -⟩ := hflags
    refine ⟨ht, [], ?_⟩
    simp only [Pass.inputs, hrxpkt, hsystick]
    exact .refl s

theorem passes_elapsed {passes : List Pass} (ht : s.Early)
    (h : Runs.run (ethernetProcessData n fuel app main) s passes = .ok s₁) :
    s₁.Early ∧
      ∃ evs, Elapsed n fuel app main s evs (passes.flatMap Pass.inputs) (passes.countP Pass.systick) s₁ := by
  induction passes generalizing s with
  | nil =>
    cases h
    exact ⟨ht, [], .refl _⟩
  | cons p passes ih =>
    obtain ⟨s₂, hpass, hrest⟩ := bind_ok_iff.mp h
    obtain ⟨ht₂, evs, hevs⟩ := pass_elapsed ht hpass
    obtain ⟨ht₁, evs', hevs'⟩ := ih ht₂ hrest
    have hticks : (p :: passes).countP Pass.systick =
        (if p.systick then systickms else 0) + passes.countP Pass.systick := by
      rw [List.countP_cons, Nat.add_comm]
    refine ⟨ht₁, evs ++ evs', ?_⟩
    rw [List.flatMap_cons, hticks]
    exact hevs.trans hevs'

end Timers

/-- The segment in a frame. -/
def Frame.segment : Frame → Option Packet
  | .ip _ _ header rest => if header.proto = uipProtoTcp then some (.ofBuffer header rest) else none
  | .arp _ => none

/-- The segments with data. -/
def dataFrames (frames : List Frame) : List Packet :=
  (frames.filterMap Frame.segment).filter fun q => q.payload ≠ []

section Frames

variable {n : Addresses} {fuel : Nat} {app : App τ} {main : Main τ} {w w' : Wire τ} {a : Arp}
  {evs : List WireEvent} {l : Ledger}

/-- `uip_arp_out` sends the datagram as it is, or not at all. -/
theorem uipArpOut_segment (n : Addresses) (a : Arp) (uipLen : UInt16) (ip : IpHeader) (rest : Nat → UInt8) :
    (uipArpOut n a uipLen ip rest).segment = none ∨
      (uipArpOut n a uipLen ip rest).segment =
        if ip.proto = uipProtoTcp then some (.ofBuffer ip rest) else none := by
  unfold uipArpOut
  split
  · exact .inr rfl
  · dsimp only
    split
    · exact .inl rfl
    · exact .inr rfl

theorem frame_segments (n : Addresses) (a : Arp) {out : Output} (hicmp : ∀ ip rest, out = .icmp ip rest →
    ip.proto = uipProtoIcmp) : ((out.frame n a).toList.filterMap Frame.segment).Sublist out.segment.toList := by
  cases out with
  | none => exact List.Sublist.refl _
  | tcp p =>
    have hframe := uipArpOut_segment n a p.len p.toIpHeader p.rest
    rw [ofBuffer_of_rest] at hframe
    simp only [Output.frame, Output.segment, Option.toList_some, List.filterMap_cons, List.filterMap_nil]
    rcases hframe with hframe | hframe <;> rw [hframe]
    · exact List.nil_sublist _
    · split_ifs
      · exact List.Sublist.refl _
      · exact List.nil_sublist _
  | icmp ip rest =>
    have hproto := hicmp ip rest rfl
    have hother : ip.proto ≠ uipProtoTcp := by
      rw [hproto]
      decide
    have hframe := uipArpOut_segment n a ip.len ip rest
    rw [if_neg hother, or_self] at hframe
    simp only [Output.frame, Output.segment, Option.toList_some, List.filterMap_cons, hframe, List.filterMap_nil]
    exact List.nil_sublist _

/-- What is on the wire is what uIP has sent, without what an ARP request has taken the place of. -/
structure Carried (w : Wire τ) : Prop where
  sublist : (w.frames.filterMap Frame.segment).Sublist (w.link.sent.filterMap Output.segment)

theorem Carried.step {e : WireEvent} (h : Carried w) (hs : w.step n fuel app main e = .ok w') : Carried w' := by
  cases e with
  | uip e =>
    obtain ⟨link, hlink, hs⟩ := bind_ok_iff.mp hs
    cases hs
    obtain ⟨⟨stack, out⟩, a, hr, rfl⟩ := linkStep_ok hlink
    have hicmp : ∀ ip rest, out = .icmp ip rest → ip.proto = uipProtoIcmp := by
      rintro ip rest rfl
      exact process_icmp hr
    refine ⟨?_⟩
    simp only [List.getLast?_append, List.getLast?_singleton, Option.some_or, Option.getD_some,
      List.filterMap_append]
    have hlast : [out].filterMap Output.segment = out.segment.toList := by cases out <;> rfl
    rw [hlast]
    exact h.sublist.append (frame_segments n w.arp hicmp)
  | arp e =>
    cases e with
    | timer =>
      cases Except.ok.inj hs
      exact ⟨h.sublist⟩
    | arpin uipLen header =>
      have hw := Except.ok.inj hs
      subst hw
      have hnone : ((uipArpArpin n w.arp uipLen header).2.toList.map Frame.arp).filterMap Frame.segment = [] := by
        cases (uipArpArpin n w.arp uipLen header).2 <;> rfl
      refine ⟨?_⟩
      simp only [List.filterMap_append, hnone, List.append_nil]
      exact h.sublist

/-- The events of the stack, and those of the table. -/
def WireEvent.uipEvent : WireEvent → Option Event
  | .uip e => some e
  | .arp _ => none

def WireEvent.arpEvent : WireEvent → Option ArpEvent
  | .uip _ => none
  | .arp e => some e

theorem uip_run (h : Runs.run (Wire.step n fuel app main) w evs = .ok w') :
    Runs.run (Link.step fuel app main) w.link (evs.filterMap WireEvent.uipEvent) = .ok w'.link := by
  induction evs generalizing w with
  | nil =>
    cases h
    rfl
  | cons e evs ih =>
    obtain ⟨w₁, hstep, hrest⟩ := bind_ok_iff.mp h
    cases e with
    | uip e =>
      obtain ⟨link, hlink, hstep⟩ := bind_ok_iff.mp hstep
      cases hstep
      have hrun := ih hrest
      simp only [List.filterMap_cons, WireEvent.uipEvent, Runs.run_cons, hlink]
      exact hrun
    | arp e =>
      have hsame : w₁.link = w.link := by
        cases e with
        | timer | arpin =>
          cases Except.ok.inj hstep
          rfl
      have hrun := ih hrest
      rw [hsame] at hrun
      exact hrun

theorem forall₂_of_sublist {α β : Type} {R : α → β → Prop} {l₁ l₂ : List α} {m : List β} (hs : l₁.Sublist l₂)
    (h : List.Forall₂ R l₂ m) : ∃ m', m'.Sublist m ∧ List.Forall₂ R l₁ m' := by
  induction hs generalizing m with
  | slnil => exact ⟨m, List.Sublist.refl m, h⟩
  | cons a hs ih =>
    cases h with
    | cons hab h =>
      obtain ⟨m', hm, hforall⟩ := ih h
      exact ⟨m', hm.cons _, hforall⟩
  | cons_cons a hs ih =>
    cases h with
    | cons hab h =>
      obtain ⟨m', hm, hforall⟩ := ih h
      exact ⟨_ :: m', hm.cons_cons _, .cons hab hforall⟩

/-- A datagram goes out to the address that the table has for its destination. -/
theorem uipArpOut_known (hl : Tracks a l) {uipLen uipLen' : UInt16} {ip ip' : IpHeader} {rest rest' : Nat → UInt8}
    {ethhdr : EthHdr} (hout : uipArpOut n a uipLen ip rest = .ip ethhdr uipLen' ip' rest')
    (huse : ip'.destipaddr.InUse) (hhost : ip'.destipaddr ≠ broadcastIpaddr)
    (hlink : uipIpaddrMaskcmp ip'.destipaddr n.hostaddr n.netmask = true) :
    l.known ip'.destipaddr = some ethhdr.dest := by
  unfold uipArpOut at hout
  split at hout
  · next hbroadcast =>
    cases hout
    exact absurd hbroadcast hhost
  · dsimp only at hout
    split at hout
    · cases hout
    · next ethaddr hlookup =>
      cases hout
      rw [if_pos hlink] at hlookup
      exact hl.known_of_lookup huse hlookup

/-- A datagram for a host on the link has the address that the host has announced. -/
def Frame.Addressed (n : Addresses) (l : Ledger) : Frame → Prop
  | .ip ethhdr _ header _ => header.destipaddr.InUse → header.destipaddr ≠ broadcastIpaddr →
    uipIpaddrMaskcmp header.destipaddr n.hostaddr n.netmask = true → l.known header.destipaddr = some ethhdr.dest
  | .arp _ => True

/-- An event's frames come after those that were there, and are right for the table it finds. -/
theorem step_addressed {e : WireEvent} (hl : Tracks w.arp l) (hs : w.step n fuel app main e = .ok w') :
    Tracks w'.arp (e.arpEvent.toList.foldl (Ledger.step n) l) ∧
      ∃ sent, w'.frames = w.frames ++ sent ∧ ∀ f ∈ sent, f.Addressed n l := by
  cases e with
  | uip e =>
    obtain ⟨link, -, hs⟩ := bind_ok_iff.mp hs
    cases hs
    refine ⟨hl, _, rfl, fun f hnew => ?_⟩
    have hout : ∃ uipLen ip rest, f = uipArpOut n w.arp uipLen ip rest := by
      rw [Option.mem_toList] at hnew
      cases hlast : link.sent.getLast?.getD .none with
      | none =>
        rw [hlast] at hnew
        cases hnew
      | tcp p =>
        rw [hlast] at hnew
        exact ⟨_, _, _, (Option.some.inj hnew).symm⟩
      | icmp ip rest =>
        rw [hlast] at hnew
        exact ⟨_, _, _, (Option.some.inj hnew).symm⟩
    obtain ⟨uipLen, ip, rest, hf⟩ := hout
    cases f with
    | arp h => trivial
    | ip ethhdr uipLen' header rest' =>
      exact fun huse hhost hlink => uipArpOut_known hl hf.symm huse hhost hlink
  | arp e =>
    have htable := tracks_step (n := n) (s := (w.arp, l)) hl e
    cases e with
    | timer =>
      cases Except.ok.inj hs
      exact ⟨htable, [], (List.append_nil _).symm, nofun⟩
    | arpin uipLen header =>
      have hw := Except.ok.inj hs
      subst hw
      refine ⟨htable, _, rfl, fun f hnew => ?_⟩
      obtain ⟨h, -, rfl⟩ := List.mem_map.mp hnew
      trivial

/-- Frames are only added. -/
theorem run_frames (hl : Tracks w.arp l) (h : Runs.run (Wire.step n fuel app main) w evs = .ok w') :
    w.frames <+: w'.frames := by
  induction evs generalizing w l with
  | nil =>
    cases h
    exact List.prefix_refl _
  | cons e evs ih =>
    obtain ⟨w₁, hstep, hrest⟩ := bind_ok_iff.mp h
    obtain ⟨hl₁, sent, hsent, -⟩ := step_addressed hl hstep
    exact List.IsPrefix.trans ⟨sent, hsent.symm⟩ (ih hl₁ hrest)

/-- The event that a frame was sent at, and the ledger it found. -/
theorem run_addressed (hl : Tracks w.arp l) (h : Runs.run (Wire.step n fuel app main) w evs = .ok w')
    {before after : List Frame} {f : Frame} (hf : w'.frames = before ++ f :: after)
    (hold : w.frames <+: before) :
    ∃ evs₁ e evs₂ w₁ w₂, evs = evs₁ ++ e :: evs₂ ∧
      Runs.run (Wire.step n fuel app main) w evs₁ = .ok w₁ ∧ w₁.step n fuel app main e = .ok w₂ ∧
      w₁.frames <+: before ∧ before ++ [f] <+: w₂.frames ∧
      f.Addressed n ((evs₁.filterMap WireEvent.arpEvent).foldl (Ledger.step n) l) := by
  induction evs generalizing w l with
  | nil =>
    cases h
    have hlen := hold.length_le
    rw [hf] at hlen
    simp at hlen
  | cons e evs ih =>
    obtain ⟨w₁, hstep, hrest⟩ := bind_ok_iff.mp h
    obtain ⟨hl₁, sent, hsent, haddressed⟩ := step_addressed hl hstep
    have hgrown : w₁.frames <+: w'.frames := run_frames hl₁ hrest
    by_cases hlen : w₁.frames.length ≤ before.length
    · have hbefore : w₁.frames <+: before :=
        List.prefix_of_prefix_length_le hgrown ⟨f :: after, hf.symm⟩ hlen
      obtain ⟨evs₁, e', evs₂, w₂, w₃, rfl, hrun, hstep', hbefore', hafter, hknown⟩ := ih hl₁ hrest hbefore
      refine ⟨e :: evs₁, e', evs₂, w₂, w₃, rfl, ?_, hstep', hbefore', hafter, ?_⟩
      · rw [Runs.run_cons, hstep]
        exact hrun
      · cases e with
        | uip | arp => exact hknown
    · have hnow : before ++ [f] <+: w₁.frames :=
        List.prefix_of_prefix_length_le ⟨after, by rw [hf]; simp⟩ hgrown (by simp; omega)
      refine ⟨[], e, evs, w, w₁, rfl, rfl, hstep, hold, hnow, haddressed f ?_⟩
      obtain ⟨new, rfl⟩ := hold
      rw [hsent, List.append_assoc, List.prefix_append_right_inj] at hnow
      exact hnow.subset (List.mem_append_right _ (List.mem_singleton_self f))

end Frames

/-- Whatever comes in and goes out: a datagram for a host on the link goes to
the Ethernet address that the host had last announced before the event that sent
it, at most 120 calls of the table's timer before, or with `arptime` at 136 or
more. -/
theorem frames_as_announced (n : Addresses) (fuel : Nat) (app : App τ) (main : Main τ) (hostaddr : IpAddr) (a : τ)
    (evs : List WireEvent) (w : Wire τ)
    (h : Runs.run (Wire.step n fuel app main) ⟨.powerUp hostaddr a, .powerUp, []⟩ evs = .ok w) (ethhdr : EthHdr)
    (uipLen : UInt16) (ip : IpHeader) (rest : Nat → UInt8) (before after : List Frame)
    (hf : w.frames = before ++ .ip ethhdr uipLen ip rest :: after) (huse : ip.destipaddr.InUse)
    (hhost : ip.destipaddr ≠ broadcastIpaddr)
    (hlink : uipIpaddrMaskcmp ip.destipaddr n.hostaddr n.netmask = true) :
    ∃ evs₁ e evs₂ w₁ w₂, evs = evs₁ ++ e :: evs₂ ∧
      Runs.run (Wire.step n fuel app main) ⟨.powerUp hostaddr a, .powerUp, []⟩ evs₁ = .ok w₁ ∧
      w₁.step n fuel app main e = .ok w₂ ∧
      w₁.frames <+: before ∧ before ++ [.ip ethhdr uipLen ip rest] <+: w₂.frames ∧
      ((evs₁.filterMap WireEvent.arpEvent).foldl (Ledger.step n) .empty).known ip.destipaddr =
        some ethhdr.dest := by
  obtain ⟨evs₁, e, evs₂, w₁, w₂, hsplit, hrun, hstep, hbefore, hafter, haddressed⟩ :=
    run_addressed (l := .empty) tracks_powerUp h hf List.nil_prefix
  exact ⟨evs₁, e, evs₂, w₁, w₂, hsplit, hrun, hstep, hbefore, hafter, haddressed huse hhost hlink⟩

section Responses

variable {σ : Type}

/-- What clients see of the responses: in any run of `EthernetProcessData`,
whatever frames are read and whenever the ticks come, the frames with data match
different responses of BSMP, in their order, and each agrees with its response as
far as both go. -/
theorem responses_on_wire (n : Addresses) (fuel : Nat) (md5 : Md5) (hostaddr : IpAddr) (r : Routines σ)
    (world : World σ) (passes : List Pass) (s : MainLoop (Ethernet σ))
    (h : Runs.run (ethernetProcessData n fuel httpdApp (ethernetMain md5)) (.powerUp hostaddr (.powerUp r world))
      passes = .ok s) :
    ∃ responses : List (List UInt8), responses.Sublist (s.wire.link.stack.app.calls.map Prod.snd) ∧
      List.Forall₂ Holds (dataFrames s.wire.frames) responses := by
  obtain ⟨-, evs, hevs⟩ := passes_elapsed ⟨Nat.zero_le _, Nat.zero_le _⟩ h
  have hmatched : Matched md5 r world Holds s.wire.link := by
    refine Runs.run_invariant (fun _ _ _ hm hs => hm.step (fun _ _ ha => ha.holds) hs) ?_ (uip_run hevs.ran)
    exact matched_powerUp md5 hostaddr r world Holds
  have hcarried : Carried s.wire :=
    Runs.run_invariant (fun _ _ _ hc hs => hc.step hs) ⟨List.Sublist.refl _⟩ hevs.ran
  obtain ⟨sent, hsent, hholds⟩ := hmatched.responses
  obtain ⟨responses, hsub, hforall⟩ := forall₂_of_sublist (hcarried.sublist.filter _) hholds
  exact ⟨responses, hsub.trans hsent, hforall⟩

/-- The jig, and the announcement of its client. -/
def jigAddresses : Addresses := ⟨⟨0xc0a8, 1⟩, ⟨0xffff, 0xff00⟩, ⟨0, 0⟩, .zero⟩

def clientRequest : ArpHdr :=
  ({ jigAddresses with hostaddr := ⟨0xc0a8, 2⟩, ethaddr := broadcastEthaddr } : Addresses).request ⟨0xc0a8, 1⟩

def Packet.pass (p : Packet) : Pass :=
  ⟨false, some (.ip (p.len + 14) p.toIpHeader p.rest), false, fun _ => plainSegment 0 0 0 []⟩

def tickPass : Pass := ⟨true, none, false, fun _ => plainSegment 0 0 0 []⟩

/-- The client announces itself and opens a connection. -/
def synEvents : List WireEvent := [.arp (.arpin 60 clientRequest), .uip (plainSegment 5 0 tcpSyn []).event]

theorem frames_as_announced_syn : ∃ w : Wire Unit, ∃ before ethhdr uipLen ip rest after,
    w.frames = before ++ .ip ethhdr uipLen ip rest :: after ∧
    ∃ evs₁ e evs₂ w₁ w₂, synEvents = evs₁ ++ e :: evs₂ ∧
      Runs.run (Wire.step jigAddresses 41 silentApp idleMain) ⟨.powerUp ⟨0xc0a8, 1⟩ (), .powerUp, []⟩ evs₁ =
        .ok w₁ ∧
      w₁.step jigAddresses 41 silentApp idleMain e = .ok w₂ ∧
      w₁.frames <+: before ∧ before ++ [.ip ethhdr uipLen ip rest] <+: w₂.frames ∧
      ((evs₁.filterMap WireEvent.arpEvent).foldl (Ledger.step jigAddresses) .empty).known ip.destipaddr =
        some ethhdr.dest := by
  let sentTo : Frame → Option IpAddr := fun
    | .ip _ _ ip _ => some ip.destipaddr
    | .arp _ => none
  have hrun : (Runs.run (Wire.step jigAddresses 41 silentApp idleMain) ⟨.powerUp ⟨0xc0a8, 1⟩ (), .powerUp, []⟩
      synEvents).toOption.map (fun w => w.frames.filterMap sentTo) = some [⟨0xc0a8, 2⟩] := by decide +kernel
  obtain ⟨w, hw, hsent⟩ := ok_of_toOption_map hrun
  have hmem : (⟨0xc0a8, 2⟩ : IpAddr) ∈ w.frames.filterMap sentTo := by
    rw [hsent]
    exact List.mem_singleton_self _
  obtain ⟨f, hf, hdest⟩ := List.mem_filterMap.mp hmem
  obtain ⟨before, after, hsplit⟩ := List.append_of_mem hf
  cases f with
  | arp h => cases hdest
  | ip ethhdr uipLen ip rest =>
    have hip : ip.destipaddr = ⟨0xc0a8, 2⟩ := Option.some.inj hdest
    refine ⟨w, before, ethhdr, uipLen, ip, rest, after, hsplit, ?_⟩
    exact frames_as_announced jigAddresses 41 silentApp idleMain _ () _ w hw ethhdr uipLen ip rest before after
      hsplit (hip ▸ by decide) (hip ▸ by decide) (hip ▸ by decide)

/-- The response goes out at the 51st tick. -/
theorem responses_on_wire_version : ∃ s : MainLoop (Ethernet Unit),
    (dataFrames s.wire.frames).map Packet.payload = [[1, 0, 3, 2, 20, 0]] ∧
      ∃ responses : List (List UInt8), responses.Sublist (s.wire.link.stack.app.calls.map Prod.snd) ∧
        List.Forall₂ Holds (dataFrames s.wire.frames) responses := by
  let arpPass : Pass := ⟨false, some (.arp 60 clientRequest), false, fun _ => plainSegment 0 0 0 []⟩
  let passes := [arpPass, mssSyn.pass, (plainSegment 6 1 tcpAck [0, 0, 0]).pass] ++ List.replicate 51 tickPass
  have hrun : (Runs.run (ethernetProcessData jigAddresses 41 httpdApp (ethernetMain byteSum))
      (.powerUp ⟨0xc0a8, 1⟩ (.powerUp idleRoutines { mem := fun _ => 0, app := () })) passes).toOption.map
        (fun s => (dataFrames s.wire.frames).map Packet.payload) = some [[1, 0, 3, 2, 20, 0]] := by decide +kernel
  obtain ⟨s, hs, hpayload⟩ := ok_of_toOption_map hrun
  exact ⟨s, hpayload, responses_on_wire jigAddresses 41 byteSum _ idleRoutines _ passes s hs⟩

end Responses

end UdcFirmware.Uip
