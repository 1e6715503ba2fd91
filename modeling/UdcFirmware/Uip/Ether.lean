/-
Hosts on one Ethernet, each with `uip_arp.c`.

Any host may hear any ARP packet ever sent, once, many times or never, and
their timers are called whenever they like. No datagram for a host ever goes to
the Ethernet address of another (`datagrams_reach_host`), and a request whose
answer gets through resolves both addresses (`request_resolves`).
-/
import UdcFirmware.Uip.Resolution

namespace UdcFirmware.Uip

open Relation

variable {ι : Type}

/-- The table of each host, and the frames sent so far. -/
structure Ether (ι : Type) where
  hosts : ι → Arp
  frames : List Frame

def Ether.powerUp : Ether ι := ⟨fun _ => .powerUp, []⟩

/-- A host has an ARP packet come in. -/
def Ether.hear [DecidableEq ι] (n : ι → Addresses) (s : Ether ι) (i : ι) (uipLen : UInt16) (h : ArpHdr) : Ether ι where
  hosts := Function.update s.hosts i (uipArpArpin (n i) (s.hosts i) uipLen h).1
  frames := s.frames ++ (uipArpArpin (n i) (s.hosts i) uipLen h).2.toList.map .arp

/-- A host sends a datagram, hears one of the ARP packets sent, or has its timer called. -/
inductive Ether.Step [DecidableEq ι] (n : ι → Addresses) (s : Ether ι) : Ether ι → Prop
  | out (i : ι) (uipLen : UInt16) (ip : IpHeader) (rest : Nat → UInt8) :
    Step n s { s with frames := s.frames ++ [uipArpOut (n i) (s.hosts i) uipLen ip rest] }
  | arpin (i : ι) (uipLen : UInt16) (h : ArpHdr) (hsent : .arp h ∈ s.frames) : Step n s (s.hear n i uipLen h)
  | timer (i : ι) : Step n s { s with hosts := Function.update s.hosts i (uipArpTimer (s.hosts i)) }

abbrev Ether.Steps [DecidableEq ι] (n : ι → Addresses) : Ether ι → Ether ι → Prop := ReflTransGen (Ether.Step n)

variable {n : ι → Addresses} {s s' : Ether ι} {a : Arp} {l : Ledger} {ipaddr : IpAddr} {ethaddr : EthAddr}
  {uipLen : UInt16} {h : ArpHdr}

/-! ## The invariant -/

/-- Some host has announced the address. -/
def Announced (n : ι → Addresses) (ipaddr : IpAddr) (ethaddr : EthAddr) : Prop :=
  ∃ j, (n j).hostaddr = ipaddr ∧ (n j).ethaddr = ethaddr

/-- What the hosts have been told, and what they are told, is true. -/
structure Ether.Honest (n : ι → Addresses) (s : Ether ι) : Prop where
  tracked : ∀ i, ∃ l, Tracks (s.hosts i) l
  table : ∀ i k, ((s.hosts i).arpTable k).ipaddr.InUse →
    Announced n ((s.hosts i).arpTable k).ipaddr ((s.hosts i).arpTable k).ethaddr
  sent : ∀ {h}, .arp h ∈ s.frames → Announced n h.sipaddr h.shwaddr

theorem honest_powerUp : (Ether.powerUp : Ether ι).Honest n where
  tracked := fun _ => ⟨.empty, tracks_powerUp⟩
  table := fun _ _ huse => absurd huse not_inUse_zero
  sent := fun hsent => nomatch hsent

theorem uipArpOut_arp {n : Addresses} {ip : IpHeader} {rest : Nat → UInt8}
    (hout : uipArpOut n a uipLen ip rest = .arp h) : ∃ ipaddr, h = n.request ipaddr := by
  unfold uipArpOut at hout
  split at hout
  · cases hout
  · dsimp only at hout
    split at hout
    · cases hout
      exact ⟨_, rfl⟩
    · cases hout

theorem uipArpArpin_reply {n : Addresses} {r : ArpHdr} (hr : (uipArpArpin n a uipLen h).2 = some r) :
    r = h.reply n := by
  unfold uipArpArpin at hr
  split_ifs at hr
  cases hr
  rfl

theorem uipArpUpdate_entry {P : IpAddr → EthAddr → Prop} (hnew : P ipaddr ethaddr)
    (hold : ∀ k, (a.arpTable k).ipaddr.InUse → P (a.arpTable k).ipaddr (a.arpTable k).ethaddr)
    (k : Fin uipArptabSize) (huse : ((uipArpUpdate a ipaddr ethaddr).arpTable k).ipaddr.InUse) :
    P ((uipArpUpdate a ipaddr ethaddr).arpTable k).ipaddr
      ((uipArpUpdate a ipaddr ethaddr).arpTable k).ethaddr := by
  simp only [uipArpUpdate, Arp.set] at huse ⊢
  by_cases hk : k = a.place ipaddr
  · simpa only [hk, Function.update_self] using hnew
  · simp only [Function.update_of_ne hk] at huse ⊢
    exact hold k huse

section Steps

variable [DecidableEq ι]

theorem honest_hear (hs : s.Honest n) (i : ι) (hh : Announced n h.sipaddr h.shwaddr) :
    (s.hear n i uipLen h).Honest n := by
  refine ⟨fun j => ?_, fun j k huse => ?_, fun {r} hsent => ?_⟩
  · by_cases hj : j = i
    · subst hj
      obtain ⟨l, hl⟩ := hs.tracked j
      have hstep := tracks_step (n := n j) (s := (s.hosts j, l)) hl (.arpin uipLen h)
      simp only [Ether.hear, Function.update_self]
      exact ⟨_, hstep⟩
    · simp only [Ether.hear, Function.update_of_ne hj]
      exact hs.tracked j
  · by_cases hj : j = i
    · subst hj
      simp only [Ether.hear, Function.update_self, uipArpArpin_table] at huse ⊢
      split_ifs at huse ⊢
      · exact uipArpUpdate_entry hh (hs.table j) k huse
      · exact hs.table j k huse
    · simp only [Ether.hear, Function.update_of_ne hj] at huse ⊢
      exact hs.table j k huse
  · rcases List.mem_append.mp hsent with hsent | hsent
    · exact hs.sent hsent
    · simp only [List.mem_map, Option.mem_toList] at hsent
      obtain ⟨r', hr, heq⟩ := hsent
      cases heq
      cases uipArpArpin_reply hr
      exact ⟨i, rfl, rfl⟩

theorem honest_step (hs : s.Honest n) (hstep : s.Step n s') : s'.Honest n := by
  cases hstep with
  | out i uipLen ip rest =>
    refine ⟨hs.tracked, hs.table, fun {h} hsent => ?_⟩
    rcases List.mem_append.mp hsent with hsent | hsent
    · exact hs.sent hsent
    · obtain ⟨ipaddr, rfl⟩ := uipArpOut_arp (List.mem_singleton.mp hsent).symm
      exact ⟨i, rfl, rfl⟩
  | arpin i uipLen h hsent => exact honest_hear hs i (hs.sent hsent)
  | timer i =>
    refine ⟨fun j => ?_, fun j k huse => ?_, hs.sent⟩
    · by_cases hj : j = i
      · subst hj
        obtain ⟨l, hl⟩ := hs.tracked j
        simp only [Function.update_self]
        exact ⟨_, tracks_timer hl⟩
      · simp only [Function.update_of_ne hj]
        exact hs.tracked j
    · by_cases hj : j = i
      · subst hj
        simp only [Function.update_self, uipArpTimer] at huse ⊢
        split_ifs at huse ⊢
        · exact absurd huse not_inUse_zero
        · exact hs.table j k huse
      · simp only [Function.update_of_ne hj] at huse ⊢
        exact hs.table j k huse

theorem honest_steps (hs : s.Honest n) (hsteps : s.Steps n s') : s'.Honest n := by
  induction hsteps with
  | refl => exact hs
  | tail _ hstep ih => exact honest_step ih hstep

end Steps

/-! ## Datagrams -/

/-- `j` is a host on the link of `i`. -/
structure OnLink (n : ι → Addresses) (i j : ι) : Prop where
  inUse : (n j).hostaddr.InUse
  host : (n j).hostaddr ≠ broadcastIpaddr
  link : uipIpaddrMaskcmp (n j).hostaddr (n i).hostaddr (n i).netmask = true

/-- The datagrams that `i` sends to `j` go to `j`. -/
def Ether.Resolved (n : ι → Addresses) (s : Ether ι) (i j : ι) : Prop :=
  ∀ uipLen ip rest, ip.destipaddr = (n j).hostaddr →
    uipArpOut (n i) (s.hosts i) uipLen ip rest =
      .ip ⟨(n j).ethaddr, (n i).ethaddr, uipEthtypeIp⟩ (uipLen + 14) ip rest

theorem resolved_of_lookup {i j : ι} (hj : OnLink n i j)
    (hlookup : (s.hosts i).lookup (n j).hostaddr = some (n j).ethaddr) : s.Resolved n i j := by
  intro uipLen ip rest hdest
  simp only [uipArpOut, hdest, hj.host, hj.link, if_false, if_true, hlookup]

variable [DecidableEq ι]

/-- Whatever the hosts send and hear: a host that sends a datagram to another
one sends it to that host's Ethernet address, or asks for it instead. -/
theorem datagrams_reach_host (n : ι → Addresses) (hdistinct : ∀ i j, (n i).hostaddr = (n j).hostaddr → i = j)
    (s : Ether ι) (hs : Ether.powerUp.Steps n s) (i j : ι) (hj : OnLink n i j) (uipLen : UInt16) (ip : IpHeader)
    (rest : Nat → UInt8) (hdest : ip.destipaddr = (n j).hostaddr) :
    uipArpOut (n i) (s.hosts i) uipLen ip rest = .arp ((n i).request (n j).hostaddr) ∨
      uipArpOut (n i) (s.hosts i) uipLen ip rest =
        .ip ⟨(n j).ethaddr, (n i).ethaddr, uipEthtypeIp⟩ (uipLen + 14) ip rest := by
  have hhonest := honest_steps honest_powerUp hs
  cases hlookup : (s.hosts i).lookup (n j).hostaddr with
  | none =>
    simp only [uipArpOut, hdest, hj.host, hj.link, if_false, if_true, hlookup, true_or]
  | some ethaddr =>
    obtain ⟨k, hk, rfl⟩ := lookup_eq_some hlookup
    obtain ⟨j', hip, heth⟩ := hhonest.table i k (hk ▸ hj.inUse)
    have hsame : j' = j := hdistinct j' j (hip.trans hk)
    subst hsame
    refine .inr (resolved_of_lookup hj ?_ uipLen ip rest hdest)
    rw [hlookup, heth]

/-- The device and a client. -/
def twoHosts : Fin 2 → Addresses
  | 0 => ⟨⟨0xc0a8, 0x0104⟩, ⟨0xffff, 0xff00⟩, ⟨0, 0⟩, .zero⟩
  | 1 => ⟨⟨0xc0a8, 0x0109⟩, ⟨0xffff, 0xff00⟩, ⟨0, 0⟩, broadcastEthaddr⟩

def toClient : IpHeader := ⟨0x45, 0, 40, 1, 0, 64, 6, 0, (twoHosts 0).hostaddr, (twoHosts 1).hostaddr⟩

/-- The device wants to send, and so asks for the client; the client hears that, and the device its answer. -/
def answered : Ether (Fin 2) :=
  let s : Ether (Fin 2) := ⟨fun _ => .powerUp, [uipArpOut (twoHosts 0) .powerUp 40 toClient fun _ => 0]⟩
  let h := (twoHosts 0).request (twoHosts 1).hostaddr
  (s.hear twoHosts 1 60 h).hear twoHosts 0 60 (h.reply (twoHosts 1))

theorem answered_steps : Ether.powerUp.Steps twoHosts answered := by
  have hout := Ether.Step.out (n := twoHosts) (s := .powerUp) 0 40 toClient fun _ => 0
  refine ((ReflTransGen.single hout).tail (.arpin 1 60 _ ?_)).tail (.arpin 0 60 _ ?_)
  · exact List.mem_singleton.mpr rfl
  · exact List.mem_append_right _ (List.mem_singleton.mpr rfl)

/-- Before, the client is asked for, and afterwards sent to. -/
theorem datagrams_reach_host_two :
    uipArpOut (twoHosts 0) (Ether.powerUp.hosts (0 : Fin 2)) 40 toClient (fun _ => 0) =
        .arp ((twoHosts 0).request (twoHosts 1).hostaddr) ∧
      uipArpOut (twoHosts 0) (answered.hosts 0) 40 toClient (fun _ => 0) =
        .ip ⟨(twoHosts 1).ethaddr, (twoHosts 0).ethaddr, uipEthtypeIp⟩ (40 + 14) toClient (fun _ => 0) := by
  have hreach := fun s hs => datagrams_reach_host twoHosts (by decide) s hs 0 1
    ⟨by decide, by decide, by decide⟩ 40 toClient (fun _ => 0) rfl
  refine ⟨(hreach .powerUp .refl).resolve_right ?_, (hreach answered answered_steps).resolve_left ?_⟩
  · intro h
    cases h
  · intro h
    cases h

/-! ## Requests -/

theorem Tracks.lookup_update (hl : Tracks a l) (huse : ipaddr.InUse) :
    (uipArpUpdate a ipaddr ethaddr).lookup ipaddr = some ethaddr := by
  have hknown : Ledger.known { l with heard := Function.update l.heard ipaddr (some (ethaddr, l.ticks)) } ipaddr =
      some ethaddr :=
    known_eq_some.mpr ⟨l.ticks, Function.update_self .., .inl (Nat.lt_add_of_pos_right (by decide))⟩
  rw [(tracks_update hl ipaddr ethaddr).lookup_eq_known huse, hknown]
  intro
  exact ⟨a.place ipaddr, by simp only [uipArpUpdate, Arp.set, Function.update_self]⟩

theorem hear_lookup (hs : s.Honest n) {i : ι} (hann : h.announces (n i) uipLen = true) (huse : h.sipaddr.InUse) :
    ((s.hear n i uipLen h).hosts i).lookup h.sipaddr = some h.shwaddr := by
  obtain ⟨l, hl⟩ := hs.tracked i
  simp only [Ether.hear, Function.update_self, uipArpArpin_table, hann, if_true]
  exact hl.lookup_update huse

/-- No frame is taken back. -/
theorem steps_frames {f : Frame} (hsteps : s.Steps n s') (hf : f ∈ s.frames) : f ∈ s'.frames := by
  induction hsteps with
  | refl => exact hf
  | tail _ hstep ih =>
    cases hstep with
    | out | arpin => exact List.mem_append_left _ ih
    | timer => exact ih

/-- When `j` hears a request of `i` for its address, it sends the answer, and
can send datagrams to `i`; whatever happens before `i` hears the answer, `i` can
then send datagrams to `j`. -/
theorem request_resolves (n : ι → Addresses) (s : Ether ι) (hs : Ether.powerUp.Steps n s) (i j : ι)
    (hj : OnLink n i j) (hi : OnLink n j i) (hsent : .arp ((n i).request (n j).hostaddr) ∈ s.frames)
    (uipLen uipLen' : UInt16) (hlen : arpHdrSize ≤ uipLen) (hlen' : arpHdrSize ≤ uipLen') :
    let h := (n i).request (n j).hostaddr
    let s₁ := s.hear n j uipLen h
    s.Step n s₁ ∧ s₁.Resolved n j i ∧ ∀ s₂, s₁.Steps n s₂ →
      s₂.Step n (s₂.hear n i uipLen' (h.reply (n j))) ∧ (s₂.hear n i uipLen' (h.reply (n j))).Resolved n i j := by
  intro h s₁
  have hhonest := honest_steps honest_powerUp hs
  have hstep : s.Step n s₁ := .arpin j uipLen h hsent
  have hask : h.announces (n j) uipLen = true := by simp [h, ArpHdr.announces, Addresses.request, hlen]
  have hanswer : (h.reply (n j)).announces (n i) uipLen' = true := by
    simp [h, ArpHdr.announces, ArpHdr.reply, Addresses.request, hlen']
  have hreply : .arp (h.reply (n j)) ∈ s₁.frames := by
    have hlong : ¬ uipLen < arpHdrSize := UInt16.not_lt.mpr hlen
    have hopcode : h.opcode = arpRequest := rfl
    have hdest : h.dipaddr = (n j).hostaddr := rfl
    have hr : (uipArpArpin (n j) (s.hosts j) uipLen h).2 = some (h.reply (n j)) := by
      simp only [uipArpArpin, hlong, hopcode, hdest, if_false, if_true]
    simp [s₁, Ether.hear, hr]
  refine ⟨hstep, resolved_of_lookup hi (hear_lookup hhonest hask hi.inUse), fun s₂ hsteps => ⟨?_, ?_⟩⟩
  · exact .arpin i uipLen' _ (steps_frames hsteps hreply)
  · have hhonest₂ := honest_steps (honest_step hhonest hstep) hsteps
    exact resolved_of_lookup hj (hear_lookup hhonest₂ hanswer hj.inUse)

theorem request_resolves_two :
    let s : Ether (Fin 2) := ⟨fun _ => .powerUp, [uipArpOut (twoHosts 0) .powerUp 40 toClient fun _ => 0]⟩
    let h := (twoHosts 0).request (twoHosts 1).hostaddr
    let s₁ := s.hear twoHosts 1 60 h
    s.Step twoHosts s₁ ∧ s₁.Resolved twoHosts 1 0 ∧ ∀ s₂, s₁.Steps twoHosts s₂ →
      s₂.Step twoHosts (s₂.hear twoHosts 0 60 (h.reply (twoHosts 1))) ∧
        (s₂.hear twoHosts 0 60 (h.reply (twoHosts 1))).Resolved twoHosts 0 1 :=
  request_resolves twoHosts _ (.single (.out 0 40 toClient fun _ => 0)) 0 1 ⟨by decide, by decide, by decide⟩
    ⟨by decide, by decide, by decide⟩ (List.mem_singleton.mpr rfl) 60 60 (by decide) (by decide)

end UdcFirmware.Uip
