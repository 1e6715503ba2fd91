/-
What the table of `uip_arp.c` remembers, against a ledger of all announcements.

The ledger keeps the last announcement of every address, and counts the calls
of `uip_arp_timer` without wrapping. An announcement is `Fresh` for 120 of
them, or for ever: `arptime` never gets 120 ahead of an entry from when it was
136 or more. The table answers with a fresh announcement or not at all
(`Tracks.known_of_lookup`), and it answers with every fresh announcement as long
as there are at most eight of them, no longer (`resolved_iff_eight`). A ninth
takes the place of the least recent one, while no entry is from before `arptime`
last wrapped (`least_recent_displaced`).
-/
import UdcFirmware.Uip.Arp

namespace UdcFirmware.Uip

open Traces

/-! ## The ledger -/

/-- The last announcement of each address: the Ethernet address, and the tick. -/
structure Ledger where
  ticks : Nat
  heard : IpAddr → Option (EthAddr × Nat)

def Ledger.empty : Ledger := ⟨0, fun _ => none⟩

def Ledger.Fresh (l : Ledger) (tick : Nat) : Prop :=
  l.ticks < tick + uipArpMaxage ∨ 256 - uipArpMaxage ≤ tick % 256

instance Ledger.Fresh.decidable (l : Ledger) (tick : Nat) : Decidable (l.Fresh tick) :=
  inferInstanceAs (Decidable (_ ∨ _))

/-- The fresh announcement of an address. -/
def Ledger.known (l : Ledger) (ipaddr : IpAddr) : Option EthAddr :=
  ((l.heard ipaddr).filter fun n => l.Fresh n.2).map Prod.fst

/-- At most `k` addresses have fresh announcements. -/
def Ledger.AtMost (l : Ledger) (k : Nat) : Prop :=
  ∃ hosts : Finset IpAddr, hosts.card ≤ k ∧ ∀ ipaddr, l.known ipaddr ≠ none → ipaddr ∈ hosts

/-- What comes to the table: ARP packets, and the timer. -/
inductive ArpEvent
  | arpin (uipLen : UInt16) (h : ArpHdr)
  | timer

/-- The address that an event announces. -/
def ArpEvent.sender (n : Addresses) : ArpEvent → Option IpAddr
  | .arpin uipLen h => if h.announces n uipLen then some h.sipaddr else none
  | .timer => none

def Arp.step (n : Addresses) (a : Arp) : ArpEvent → Arp
  | .arpin uipLen h => (uipArpArpin n a uipLen h).1
  | .timer => uipArpTimer a

def Ledger.step (n : Addresses) (l : Ledger) : ArpEvent → Ledger
  | .arpin uipLen h =>
    if h.announces n uipLen then { l with heard := Function.update l.heard h.sipaddr (some (h.shwaddr, l.ticks)) }
    else l
  | .timer => { l with ticks := l.ticks + 1 }

/-- The table and the ledger after the same events. -/
def arpNext (n : Addresses) (s : Arp × Ledger) (e : ArpEvent) : Arp × Ledger := (s.1.step n e, s.2.step n e)

variable {n : Addresses} {a : Arp} {l : Ledger} {ipaddr : IpAddr} {ethaddr : EthAddr} {uipLen : UInt16}
  {h : ArpHdr}

theorem known_eq_some :
    l.known ipaddr = some ethaddr ↔ ∃ tick, l.heard ipaddr = some (ethaddr, tick) ∧ l.Fresh tick := by
  simp [Ledger.known, Option.filter_eq_some_iff]

/-! ## One step of the table -/

theorem uipArpArpin_table : (uipArpArpin n a uipLen h).1 =
    if h.announces n uipLen then uipArpUpdate a h.sipaddr h.shwaddr else a := by
  by_cases hlen : uipLen < arpHdrSize
  · have hshort : ¬ arpHdrSize ≤ uipLen := UInt16.not_le.mpr hlen
    simp [uipArpArpin, ArpHdr.announces, hlen, hshort]
  · have hlong : arpHdrSize ≤ uipLen := UInt16.not_lt.mp hlen
    simp only [uipArpArpin, ArpHdr.announces, hlen, hlong, if_false, decide_true, Bool.true_and]
    split_ifs <;> simp_all

/-- Where an announcement goes. -/
inductive Place (a : Arp) (ipaddr : IpAddr) (i : Fin uipArptabSize) : Prop
  | known (hi : (a.arpTable i).ipaddr = ipaddr)
  | fresh (hnew : ∀ j, (a.arpTable j).ipaddr.InUse → (a.arpTable j).ipaddr ≠ ipaddr)
      (hi : (a.arpTable i).ipaddr = ⟨0, 0⟩ ∨ (∀ j, (a.arpTable j).ipaddr ≠ ⟨0, 0⟩) ∧ i = a.oldest)

theorem place_cases (a : Arp) (ipaddr : IpAddr) : Place a ipaddr (a.place ipaddr) := by
  unfold Arp.place
  dsimp only
  cases hknown : (List.finRange uipArptabSize).find? fun i =>
      (a.arpTable i).ipaddr.InUse ∧ ipaddr = (a.arpTable i).ipaddr with
  | some i =>
    have hi := List.find?_some hknown
    simp only [decide_eq_true_eq] at hi
    exact .known hi.2.symm
  | none =>
    have hnew : ∀ j, (a.arpTable j).ipaddr.InUse → (a.arpTable j).ipaddr ≠ ipaddr := by
      intro j huse heq
      have hj := List.find?_eq_none.mp hknown j (List.mem_finRange j)
      exact hj (decide_eq_true ⟨huse, heq.symm⟩)
    cases hunused : (List.finRange uipArptabSize).find? fun i => (a.arpTable i).ipaddr = ⟨0, 0⟩ with
    | some i =>
      have hi := List.find?_some hunused
      simp only [decide_eq_true_eq] at hi
      exact .fresh hnew (.inl hi)
    | none =>
      refine .fresh hnew (.inr ⟨fun j heq => ?_, rfl⟩)
      exact List.find?_eq_none.mp hunused j (List.mem_finRange j) (decide_eq_true heq)

theorem not_inUse_zero : ¬ IpAddr.InUse ⟨0, 0⟩ := by decide

theorem uipArpTimer_entry {i : Fin uipArptabSize} (huse : (a.arpTable i).ipaddr.InUse) :
    (uipArpTimer a).arpTable i =
      if (a.arptime + 1).toNat < (a.arpTable i).time.toNat + uipArpMaxage then a.arpTable i
      else { a.arpTable i with ipaddr := ⟨0, 0⟩ } := by
  have hor : (a.arpTable i).ipaddr.addr0 ||| (a.arpTable i).ipaddr.addr1 ≠ 0 := by
    intro h
    exact huse.1 (UInt16.or_eq_zero_iff.mp h).1
  have hage : (uipArpMaxage : Int) ≤ (a.arptime + 1).toNat - (a.arpTable i).time.toNat ↔
      ¬ (a.arptime + 1).toNat < (a.arpTable i).time.toNat + uipArpMaxage := by
    simp only [uipArpMaxage]
    omega
  simp only [uipArpTimer, hage, ne_eq, hor, not_false_eq_true, true_and]
  split_ifs <;> rfl

/-! ## The invariant -/

/-- The entries in use are fresh announcements, one for an address. -/
structure Tracks (a : Arp) (l : Ledger) : Prop where
  clock : a.arptime.toNat = l.ticks % 256
  past : ∀ {ipaddr ethaddr tick}, l.heard ipaddr = some (ethaddr, tick) → tick ≤ l.ticks
  distinct : ∀ {i j}, (a.arpTable i).ipaddr.InUse → (a.arpTable i).ipaddr = (a.arpTable j).ipaddr → i = j
  entry : ∀ {i}, (a.arpTable i).ipaddr.InUse → ∃ tick,
    l.heard (a.arpTable i).ipaddr = some ((a.arpTable i).ethaddr, tick) ∧ l.Fresh tick ∧
      (a.arpTable i).time.toNat = tick % 256

theorem tracks_powerUp : Tracks .powerUp .empty where
  clock := rfl
  past := fun hheard => nomatch hheard
  distinct := fun huse => absurd huse not_inUse_zero
  entry := fun huse => absurd huse not_inUse_zero

theorem Tracks.place_ne (hs : Tracks a l) {j : Fin uipArptabSize} (huse : (a.arpTable j).ipaddr.InUse)
    (hj : j ≠ a.place ipaddr) : (a.arpTable j).ipaddr ≠ ipaddr := by
  intro heq
  cases place_cases a ipaddr with
  | known hi => exact hj (hs.distinct huse (heq.trans hi.symm))
  | fresh hnew => exact hnew j huse heq

theorem tracks_update (hs : Tracks a l) (ipaddr : IpAddr) (ethaddr : EthAddr) :
    Tracks (uipArpUpdate a ipaddr ethaddr)
      { l with heard := Function.update l.heard ipaddr (some (ethaddr, l.ticks)) } where
  clock := hs.clock
  past := by
    intro ip mac tick hheard
    by_cases hip : ip = ipaddr
    · subst hip
      simp only [Function.update_self, Option.some.injEq, Prod.mk.injEq] at hheard
      exact hheard.2.ge
    · simp only [Function.update_of_ne hip] at hheard
      exact hs.past hheard
  distinct := by
    intro i j huse heq
    simp only [uipArpUpdate, Arp.set] at huse heq
    by_cases hi : i = a.place ipaddr <;> by_cases hj : j = a.place ipaddr
    · rw [hi, hj]
    · simp only [hi, Function.update_self, Function.update_of_ne hj] at huse heq
      exact absurd heq.symm (hs.place_ne (heq ▸ huse) hj)
    · simp only [hj, Function.update_self, Function.update_of_ne hi] at huse heq
      exact absurd heq (hs.place_ne huse hi)
    · simp only [Function.update_of_ne hi, Function.update_of_ne hj] at huse heq
      exact hs.distinct huse heq
  entry := by
    intro i huse
    simp only [uipArpUpdate, Arp.set] at huse ⊢
    by_cases hi : i = a.place ipaddr
    · simp only [hi, Function.update_self]
      exact ⟨l.ticks, rfl, .inl (Nat.lt_add_of_pos_right (by decide)), hs.clock⟩
    · simp only [Function.update_of_ne hi] at huse ⊢
      rw [Function.update_of_ne (hs.place_ne huse hi)]
      exact hs.entry huse

theorem arptime_tick (hclock : a.arptime.toNat = l.ticks % 256) :
    (a.arptime + 1).toNat = (l.ticks + 1) % 256 := by
  rw [UInt8.toNat_add, hclock]
  exact Nat.mod_add_mod l.ticks 256 1

/-- An entry outlives a tick exactly when its announcement is still fresh after it. -/
theorem Tracks.fresh_tick (hs : Tracks a l) {i : Fin uipArptabSize} (huse : (a.arpTable i).ipaddr.InUse)
    {tick : Nat} (hheard : l.heard (a.arpTable i).ipaddr = some (ethaddr, tick)) :
    (a.arptime + 1).toNat < (a.arpTable i).time.toNat + uipArpMaxage ↔
      Ledger.Fresh { l with ticks := l.ticks + 1 } tick := by
  obtain ⟨tick', hheard', hfresh, htime⟩ := hs.entry huse
  rw [hheard] at hheard'
  cases hheard'
  have hpast := hs.past hheard
  simp only [Ledger.Fresh, uipArpMaxage] at hfresh ⊢
  rw [arptime_tick hs.clock, htime]
  omega

theorem tracks_timer (hs : Tracks a l) : Tracks (uipArpTimer a) { l with ticks := l.ticks + 1 } := by
  -- an entry in use after the tick was in use before it, and is still fresh
  have hkept : ∀ {i}, ((uipArpTimer a).arpTable i).ipaddr.InUse →
      (uipArpTimer a).arpTable i = a.arpTable i ∧ (a.arpTable i).ipaddr.InUse ∧
        (a.arptime + 1).toNat < (a.arpTable i).time.toNat + uipArpMaxage := by
    intro i huse
    by_cases hbefore : (a.arpTable i).ipaddr.InUse
    · rw [uipArpTimer_entry hbefore] at huse ⊢
      split_ifs at huse ⊢ with hage
      · exact ⟨rfl, hbefore, hage⟩
      · exact absurd huse not_inUse_zero
    · have hnone : ¬ ((uipArpTimer a).arpTable i).ipaddr.InUse := by
        simp only [uipArpTimer]
        split_ifs
        · exact not_inUse_zero
        · exact hbefore
      exact absurd huse hnone
  refine ⟨arptime_tick hs.clock, fun hheard => Nat.le_succ_of_le (hs.past hheard), ?_, ?_⟩
  · intro i j huse heq
    obtain ⟨hi, hbefore, -⟩ := hkept huse
    obtain ⟨hj, -, -⟩ := hkept (heq ▸ huse)
    rw [hi, hj] at heq
    exact hs.distinct hbefore heq
  · intro i huse
    obtain ⟨hi, hbefore, hage⟩ := hkept huse
    obtain ⟨tick, hheard, -, htime⟩ := hs.entry hbefore
    rw [hi]
    exact ⟨tick, hheard, (hs.fresh_tick hbefore hheard).mp hage, htime⟩

theorem tracks_step {s : Arp × Ledger} (hs : Tracks s.1 s.2) (e : ArpEvent) :
    Tracks (arpNext n s e).1 (arpNext n s e).2 := by
  cases e with
  | arpin uipLen h =>
    simp only [arpNext, Arp.step, Ledger.step, uipArpArpin_table]
    split_ifs
    · exact tracks_update hs _ _
    · exact hs
  | timer => exact tracks_timer hs

/-! ## Lookups -/

theorem lookup_eq_some (hlookup : a.lookup ipaddr = some ethaddr) :
    ∃ i, (a.arpTable i).ipaddr = ipaddr ∧ (a.arpTable i).ethaddr = ethaddr := by
  obtain ⟨i, hfind, hi⟩ := Option.map_eq_some_iff.mp hlookup
  have heq := List.find?_some hfind
  simp only [decide_eq_true_eq] at heq
  exact ⟨i, heq.symm, hi⟩

theorem lookup_isSome (i : Fin uipArptabSize) (hi : (a.arpTable i).ipaddr = ipaddr) :
    (a.lookup ipaddr).isSome := by
  rw [Arp.lookup, Option.isSome_map, List.find?_isSome]
  exact ⟨i, List.mem_finRange i, decide_eq_true hi.symm⟩

/-- What the table answers is fresh. -/
theorem Tracks.known_of_lookup (hs : Tracks a l) (huse : ipaddr.InUse) (hlookup : a.lookup ipaddr = some ethaddr) :
    l.known ipaddr = some ethaddr := by
  obtain ⟨i, rfl, rfl⟩ := lookup_eq_some hlookup
  obtain ⟨tick, hheard, hfresh, -⟩ := hs.entry huse
  exact known_eq_some.mpr ⟨tick, hheard, hfresh⟩

theorem Tracks.lookup_eq_known (hs : Tracks a l) (huse : ipaddr.InUse)
    (hentry : l.known ipaddr ≠ none → ∃ i, (a.arpTable i).ipaddr = ipaddr) : a.lookup ipaddr = l.known ipaddr := by
  cases hlookup : a.lookup ipaddr with
  | some ethaddr => exact (hs.known_of_lookup huse hlookup).symm
  | none =>
    by_contra hknown
    obtain ⟨i, hi⟩ := hentry (Ne.symm hknown)
    have hsome := lookup_isSome i hi
    rw [hlookup] at hsome
    cases hsome

/-! ## Eight hosts -/

/-- Every sender has an address that an entry can be used for. -/
structure Ordinary (a : Arp) (l : Ledger) : Prop extends Tracks a l where
  used : ∀ i, (a.arpTable i).ipaddr.InUse ∨ (a.arpTable i).ipaddr = ⟨0, 0⟩
  hosts : ∀ {ipaddr}, l.heard ipaddr ≠ none → ipaddr.InUse

/-- The table answers for the fresh announcements, and for no others. -/
def Resolves (a : Arp) (l : Ledger) : Prop := ∀ ipaddr, ipaddr.InUse → a.lookup ipaddr = l.known ipaddr

theorem known_inUse (hs : Ordinary a l) (hknown : l.known ipaddr ≠ none) : ipaddr.InUse := by
  refine hs.hosts fun hheard => hknown ?_
  simp [Ledger.known, hheard]

theorem ordinary_step {s : Arp × Ledger} {e : ArpEvent} (hs : Ordinary s.1 s.2)
    (he : ∀ ipaddr ∈ e.sender n, ipaddr.InUse) : Ordinary (arpNext n s e).1 (arpNext n s e).2 := by
  refine { toTracks := tracks_step hs.toTracks e, used := ?_, hosts := ?_ }
  · intro i
    cases e with
    | arpin uipLen h =>
      simp only [arpNext, Arp.step, uipArpArpin_table]
      split_ifs with hann
      · simp only [ArpEvent.sender, hann, if_true, Option.mem_some_iff, forall_eq'] at he
        simp only [uipArpUpdate, Arp.set]
        by_cases hi : i = s.1.place h.sipaddr
        · simp only [hi, Function.update_self, he, true_or]
        · simp only [Function.update_of_ne hi, hs.used i]
      · exact hs.used i
    | timer =>
      simp only [arpNext, Arp.step, uipArpTimer]
      split_ifs
      · exact .inr rfl
      · exact hs.used i
  · intro ipaddr hheard
    cases e with
    | arpin uipLen h =>
      simp only [arpNext, Ledger.step] at hheard
      split_ifs at hheard with hann
      · simp only [ArpEvent.sender, hann, if_true, Option.mem_some_iff, forall_eq'] at he
        by_cases hip : ipaddr = h.sipaddr
        · exact hip ▸ he
        · simp only [Function.update_of_ne hip] at hheard
          exact hs.hosts hheard
      · exact hs.hosts hheard
    | timer => exact hs.hosts hheard

theorem entry_of_known (hs : Ordinary a l) (hres : Resolves a l) (hknown : l.known ipaddr ≠ none) :
    ∃ i, (a.arpTable i).ipaddr = ipaddr := by
  have huse := known_inUse hs hknown
  rw [← hres ipaddr huse] at hknown
  obtain ⟨ethaddr, hlookup⟩ := Option.ne_none_iff_exists'.mp hknown
  obtain ⟨i, hi, -⟩ := lookup_eq_some hlookup
  exact ⟨i, hi⟩

theorem ordinary_powerUp : Ordinary .powerUp .empty :=
  { toTracks := tracks_powerUp, used := fun _ => .inr rfl, hosts := fun hheard => absurd rfl hheard }

/-- Eight entries answer for eight hosts at most. -/
theorem atMost_of_resolves (hs : Ordinary a l) (hres : Resolves a l) : l.AtMost uipArptabSize := by
  refine ⟨Finset.univ.image fun i => (a.arpTable i).ipaddr, ?_, fun ipaddr hknown => ?_⟩
  · exact Finset.card_image_le.trans (Finset.card_fin _).le
  · obtain ⟨i, hi⟩ := entry_of_known hs hres hknown
    exact Finset.mem_image.mpr ⟨i, Finset.mem_univ i, hi⟩

/-- A full table has no place for a ninth host. -/
theorem card_of_full (hs : Ordinary a l) {hosts : Finset IpAddr} (hfull : ∀ j, (a.arpTable j).ipaddr ≠ ⟨0, 0⟩)
    (hnew : ∀ j, (a.arpTable j).ipaddr ≠ ipaddr) (hmem : ∀ j, (a.arpTable j).ipaddr ∈ hosts)
    (hip : ipaddr ∈ hosts) : uipArptabSize < hosts.card := by
  have hinj : Function.Injective fun j => (a.arpTable j).ipaddr := fun i j heq =>
    hs.distinct ((hs.used i).resolve_right (hfull i)) heq
  have hout : ipaddr ∉ Finset.univ.image fun j => (a.arpTable j).ipaddr := by
    intro h
    obtain ⟨j, -, hj⟩ := Finset.mem_image.mp h
    exact hnew j hj
  have hsub : insert ipaddr (Finset.univ.image fun j => (a.arpTable j).ipaddr) ⊆ hosts := by
    intro ip h
    rcases Finset.mem_insert.mp h with rfl | h
    · exact hip
    · obtain ⟨j, -, rfl⟩ := Finset.mem_image.mp h
      exact hmem j
  have hcard := Finset.card_le_card hsub
  rw [Finset.card_insert_of_notMem hout, Finset.card_image_of_injective _ hinj, Finset.card_fin] at hcard
  exact hcard

theorem resolves_timer (hs : Ordinary a l) (hres : Resolves a l) :
    Resolves (uipArpTimer a) { l with ticks := l.ticks + 1 } := by
  intro ipaddr huse
  refine (tracks_timer hs.toTracks).lookup_eq_known huse fun hknown => ?_
  obtain ⟨ethaddr, hknown⟩ := Option.ne_none_iff_exists'.mp hknown
  obtain ⟨tick, hheard, hfresh⟩ := known_eq_some.mp hknown
  have hbefore : l.known ipaddr = some ethaddr := by
    refine known_eq_some.mpr ⟨tick, hheard, ?_⟩
    simp only [Ledger.Fresh] at hfresh ⊢
    omega
  obtain ⟨i, rfl⟩ := entry_of_known hs hres (Option.ne_none_iff_exists'.mpr ⟨ethaddr, hbefore⟩)
  refine ⟨i, ?_⟩
  rw [uipArpTimer_entry huse, if_pos ((hs.fresh_tick huse hheard).mpr hfresh)]

/-- An announcement displaces nobody, if no more than eight are then fresh. -/
theorem resolves_update (hs : Ordinary a l) (hres : Resolves a l) (ipaddr : IpAddr) (ethaddr : EthAddr)
    (hmost : Ledger.AtMost { l with heard := Function.update l.heard ipaddr (some (ethaddr, l.ticks)) }
      uipArptabSize) :
    Resolves (uipArpUpdate a ipaddr ethaddr)
      { l with heard := Function.update l.heard ipaddr (some (ethaddr, l.ticks)) } := by
  have hother : ∀ {ip}, ip ≠ ipaddr →
      Ledger.known { l with heard := Function.update l.heard ipaddr (some (ethaddr, l.ticks)) } ip =
        l.known ip := by
    intro ip hip
    simp only [Ledger.known, Function.update_of_ne hip]
    rfl
  have hself : Ledger.known { l with heard := Function.update l.heard ipaddr (some (ethaddr, l.ticks)) } ipaddr =
      some ethaddr :=
    known_eq_some.mpr ⟨l.ticks, Function.update_self .., .inl (Nat.lt_add_of_pos_right (by decide))⟩
  intro ip huse
  refine (tracks_update hs.toTracks ipaddr ethaddr).lookup_eq_known huse fun hknown => ?_
  simp only [uipArpUpdate, Arp.set]
  by_cases hip : ip = ipaddr
  · exact ⟨a.place ipaddr, by rw [Function.update_self, hip]⟩
  rw [hother hip] at hknown
  obtain ⟨j, rfl⟩ := entry_of_known hs hres hknown
  by_cases hj : j = a.place ipaddr
  · subst hj
    exfalso
    cases place_cases a ipaddr with
    | known hi => exact hip hi
    | fresh hnew hi =>
      rcases hi with hzero | ⟨hfull, -⟩
      · rw [hzero] at huse
        exact not_inUse_zero huse
      · obtain ⟨hosts, hcard, hhosts⟩ := hmost
        have hused : ∀ j, (a.arpTable j).ipaddr.InUse := fun j => (hs.used j).resolve_right (hfull j)
        have hmore : uipArptabSize < hosts.card := by
          refine card_of_full hs hfull (fun j => hnew j (hused j)) (fun j => hhosts _ ?_) (hhosts ipaddr ?_)
          · rw [hother (hnew j (hused j))]
            obtain ⟨tick, hheard, hfresh, -⟩ := hs.entry (hused j)
            exact Option.ne_none_iff_exists'.mpr ⟨_, known_eq_some.mpr ⟨tick, hheard, hfresh⟩⟩
          · exact Option.ne_none_iff_exists'.mpr ⟨ethaddr, hself⟩
        exact absurd hcard (Nat.not_le.mpr hmore)
  · exact ⟨j, by rw [Function.update_of_ne hj]⟩

theorem resolves_step {s : Arp × Ledger} {e : ArpEvent} (hs : Ordinary s.1 s.2) (hres : Resolves s.1 s.2)
    (he : ∀ ipaddr ∈ e.sender n, ipaddr.InUse) :
    Resolves (arpNext n s e).1 (arpNext n s e).2 ↔ (arpNext n s e).2.AtMost uipArptabSize := by
  refine ⟨atMost_of_resolves (ordinary_step hs he), fun hmost => ?_⟩
  cases e with
  | arpin uipLen h =>
    simp only [arpNext, Arp.step, Ledger.step, uipArpArpin_table] at hmost ⊢
    split_ifs at hmost ⊢ with hann
    · exact resolves_update hs hres _ _ hmost
    · exact hres
  | timer => exact resolves_timer hs hres

/-- Whatever ARP packets come from hosts without a zero half in their addresses,
and whenever the timer is called: the table answers with the fresh announcement
of every host, in every state of the run, exactly if in none of them more than
eight hosts have one. -/
theorem resolved_iff_eight (n : Addresses) (es : List ArpEvent)
    (hes : ∀ e ∈ es, ∀ ipaddr ∈ e.sender n, ipaddr.InUse) :
    Always (arpNext n) (fun s => Resolves s.1 s.2) (.powerUp, .empty) es ↔
      Always (arpNext n) (fun s => s.2.AtMost uipArptabSize) (.powerUp, .empty) es := by
  have hnone : Resolves .powerUp .empty := fun ipaddr huse =>
    ordinary_powerUp.lookup_eq_known huse fun hknown => absurd rfl hknown
  exact always_iff_always (J := fun s : Arp × Ledger => Ordinary s.1 s.2)
    (fun s e he hs hres => ⟨ordinary_step hs he, resolves_step hs hres he⟩) hes ordinary_powerUp hnone
    ⟨∅, Nat.zero_le _, fun ipaddr hknown => absurd rfl hknown⟩

/-- Nine hosts announce themselves. -/
theorem resolved_iff_eight_nine :
    let n : Addresses := ⟨⟨0xc0a8, 0x0104⟩, ⟨0xffff, 0xff00⟩, ⟨0, 0⟩, .zero⟩
    let host (k : UInt16) : Addresses := ⟨⟨0xc0a8, 0x0105 + k⟩, ⟨0xffff, 0xff00⟩, ⟨0, 0⟩, .zero⟩
    let es : List ArpEvent := [0, 1, 2, 3, 4, 5, 6, 7, 8].map fun k => .arpin 60 ((host k).request n.hostaddr)
    Always (arpNext n) (fun s => Resolves s.1 s.2) (.powerUp, .empty) es ↔
      Always (arpNext n) (fun s => s.2.AtMost uipArptabSize) (.powerUp, .empty) es := by
  intro n host es
  exact resolved_iff_eight n es (by decide)

/-! ## A ninth host -/

def Arp.age (a : Arp) (i : Fin uipArptabSize) : Int := a.arptime.toNat - (a.arpTable i).time.toNat

/-- `tmpage` bounds the ages seen, and is the age at `c`. -/
theorem foldl_older (a : Arp) (is : List (Fin uipArptabSize)) (s : UInt8 × Fin uipArptabSize) :
    s.1.toNat ≤ (is.foldl a.older s).1.toNat ∧ (∀ i ∈ is, a.age i ≤ (is.foldl a.older s).1.toNat) ∧
      (is.foldl a.older s = s ∨ a.age (is.foldl a.older s).2 = (is.foldl a.older s).1.toNat) := by
  induction is generalizing s with
  | nil => exact ⟨Nat.le_refl _, fun i hi => (nomatch hi), .inl rfl⟩
  | cons i is ih =>
    rw [List.foldl_cons]
    obtain ⟨hle, hbound, hat⟩ := ih (a.older s i)
    by_cases hage : a.age i > s.1.toNat
    · have hstep : a.older s i = (a.arptime - (a.arpTable i).time, i) := if_pos hage
      have hnat : ((a.arptime - (a.arpTable i).time).toNat : Int) = a.age i := by
        have htime : (a.arpTable i).time ≤ a.arptime := by
          rw [UInt8.le_iff_toNat_le]
          simp only [Arp.age] at hage
          omega
        rw [UInt8.toNat_sub_of_le _ _ htime, Nat.cast_sub (UInt8.le_iff_toNat_le.mp htime)]
        rfl
      rw [hstep] at hle hbound hat ⊢
      have hfirst := Int.ofNat_le.mpr hle
      dsimp only at hfirst
      rw [hnat] at hfirst
      refine ⟨by omega, List.forall_mem_cons.mpr ⟨hfirst, hbound⟩, .inr ?_⟩
      rcases hat with heq | hat
      · rw [heq]
        exact hnat.symm
      · exact hat
    · have hstep : a.older s i = s := if_neg hage
      rw [hstep] at hle hbound hat ⊢
      exact ⟨hle, List.forall_mem_cons.mpr ⟨by omega, hbound⟩, hat⟩

/-- As long as no entry is from before `arptime` last wrapped, none is older than the oldest. -/
theorem age_le_oldest (hwrap : ∀ i, (a.arpTable i).time ≤ a.arptime) (i : Fin uipArptabSize) :
    a.age i ≤ a.age a.oldest := by
  obtain ⟨-, hbound, hat⟩ := foldl_older a (List.finRange uipArptabSize) (0, 0)
  have hi := hbound i (List.mem_finRange i)
  have hpos : 0 ≤ a.age a.oldest := by
    have := UInt8.le_iff_toNat_le.mp (hwrap a.oldest)
    simp only [Arp.age]
    omega
  rcases hat with heq | hat
  · rw [heq] at hi
    exact le_trans hi hpos
  · exact hi.trans hat.ge

theorem lookup_update_other {ip : IpAddr} (hip : ip ≠ ipaddr)
    (hplace : ip ≠ (a.arpTable (a.place ipaddr)).ipaddr) :
    (uipArpUpdate a ipaddr ethaddr).lookup ip = a.lookup ip := by
  have hsame : ∀ i, i ≠ a.place ipaddr → (uipArpUpdate a ipaddr ethaddr).arpTable i = a.arpTable i :=
    fun i hi => Function.update_of_ne hi ..
  have hentry : ∀ i, ip = ((uipArpUpdate a ipaddr ethaddr).arpTable i).ipaddr ↔ ip = (a.arpTable i).ipaddr := by
    intro i
    by_cases hi : i = a.place ipaddr
    · simp only [hi, uipArpUpdate, Arp.set, Function.update_self, hip, hplace]
    · rw [hsame i hi]
  rw [Arp.lookup, Arp.lookup, funext fun i => decide_eq_decide.mpr (hentry i)]
  cases hfind : (List.finRange uipArptabSize).find? fun i => ip = (a.arpTable i).ipaddr with
  | none => rfl
  | some i =>
    have hi := List.find?_some hfind
    simp only [decide_eq_true_eq] at hi
    have hne : i ≠ a.place ipaddr := by
      rintro rfl
      exact hplace hi
    rw [Option.map_some, Option.map_some, hsame i hne]

/-- One announcement makes the table forget at most one other host. If all that
are fresh date from since `arptime` last wrapped, no other has been heard less
recently. -/
theorem least_recent_displaced (n : Addresses) (es : List ArpEvent) (uipLen : UInt16) (h : ArpHdr)
    (hes : ∀ e ∈ es, ∀ ipaddr ∈ e.sender n, ipaddr.InUse) (hann : h.announces n uipLen = true) :
    let s := es.foldl (arpNext n) (.powerUp, .empty)
    let a := s.1.step n (.arpin uipLen h)
    ∃ victim, (∀ ipaddr, ipaddr ≠ h.sipaddr → ipaddr ≠ victim → a.lookup ipaddr = s.1.lookup ipaddr) ∧
      ((∀ ipaddr ethaddr tick, s.2.heard ipaddr = some (ethaddr, tick) → s.2.Fresh tick →
          tick / 256 = s.2.ticks / 256) →
        victim ≠ h.sipaddr → victim.InUse → ∀ ipaddr, ipaddr.InUse → s.1.lookup ipaddr ≠ none →
          ∀ ethaddr tick ethaddr' tick', s.2.heard victim = some (ethaddr, tick) →
            s.2.heard ipaddr = some (ethaddr', tick') → tick ≤ tick') := by
  intro s a
  have hordinary : Ordinary s.1 s.2 :=
    List.foldlRecOn (motive := fun s : Arp × Ledger => Ordinary s.1 s.2) es (arpNext n) ordinary_powerUp
      fun s hs e he => ordinary_step hs (hes e he)
  have ha : a = uipArpUpdate s.1 h.sipaddr h.shwaddr := by
    simp only [a, Arp.step, uipArpArpin_table, hann, if_true]
  rw [ha]
  refine ⟨(s.1.arpTable (s.1.place h.sipaddr)).ipaddr, fun ipaddr hip hplace => lookup_update_other hip hplace, ?_⟩
  intro hepoch hvictim huse ipaddr hipuse hlookup ethaddr tick ethaddr' tick' hheard hheard'
  cases place_cases s.1 h.sipaddr with
  | known hi => exact absurd hi hvictim
  | fresh hnew hi =>
    rcases hi with hzero | ⟨hfull, hplace⟩
    · rw [hzero] at huse
      exact absurd huse not_inUse_zero
    · obtain ⟨ethaddr, hsome⟩ := Option.ne_none_iff_exists'.mp hlookup
      obtain ⟨i, rfl, -⟩ := lookup_eq_some hsome
      have hentry : ∀ j, ∃ tick, s.2.heard (s.1.arpTable j).ipaddr = some ((s.1.arpTable j).ethaddr, tick) ∧
          (s.1.arpTable j).time.toNat = tick % 256 ∧ tick ≤ s.2.ticks ∧ tick / 256 = s.2.ticks / 256 := by
        intro j
        obtain ⟨tick, hheard, hfresh, htime⟩ := hordinary.entry ((hordinary.used j).resolve_right (hfull j))
        exact ⟨tick, hheard, htime, hordinary.past hheard, hepoch _ _ _ hheard hfresh⟩
      have hwrap : ∀ j, (s.1.arpTable j).time ≤ s.1.arptime := by
        intro j
        obtain ⟨tick, -, htime, hpast, hsame⟩ := hentry j
        rw [UInt8.le_iff_toNat_le, htime, hordinary.clock]
        omega
      have hage := age_le_oldest hwrap i
      rw [hplace] at hheard
      obtain ⟨t₁, h₁, htime₁, -, hsame₁⟩ := hentry s.1.oldest
      obtain ⟨t₂, h₂, htime₂, -, hsame₂⟩ := hentry i
      cases hheard.symm.trans h₁
      cases hheard'.symm.trans h₂
      simp only [Arp.age, htime₁, htime₂] at hage
      omega

/-- Nine hosts, with a tick in between: the first is forgotten. -/
theorem least_recent_displaced_ninth :
    let n : Addresses := ⟨⟨0xc0a8, 0x0104⟩, ⟨0xffff, 0xff00⟩, ⟨0, 0⟩, .zero⟩
    let host (k : UInt16) : Addresses := ⟨⟨0xc0a8, 0x0105 + k⟩, ⟨0xffff, 0xff00⟩, ⟨0, 0⟩, .zero⟩
    let es : List ArpEvent :=
      .arpin 60 ((host 0).request n.hostaddr) :: .timer ::
        [1, 2, 3, 4, 5, 6, 7].map fun k => .arpin 60 ((host k).request n.hostaddr)
    let s := es.foldl (arpNext n) (.powerUp, .empty)
    let a := s.1.step n (.arpin 60 ((host 8).request n.hostaddr))
    ∃ victim, (∀ ipaddr, ipaddr ≠ (host 8).hostaddr → ipaddr ≠ victim → a.lookup ipaddr = s.1.lookup ipaddr) ∧
      ((∀ ipaddr ethaddr tick, s.2.heard ipaddr = some (ethaddr, tick) → s.2.Fresh tick →
          tick / 256 = s.2.ticks / 256) →
        victim ≠ (host 8).hostaddr → victim.InUse → ∀ ipaddr, ipaddr.InUse → s.1.lookup ipaddr ≠ none →
          ∀ ethaddr tick ethaddr' tick', s.2.heard victim = some (ethaddr, tick) →
            s.2.heard ipaddr = some (ethaddr', tick') → tick ≤ tick') := by
  intro n host es
  exact least_recent_displaced n es 60 ((host 8).request n.hostaddr) (by decide) (by decide)

end UdcFirmware.Uip
