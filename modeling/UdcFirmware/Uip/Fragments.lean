/-
Datagrams in fragments, and what `uip_reass` makes of them.

The bitmap says which blocks of eight bytes have come. A fragment that ends at
byte 1536 or later is written over the end of the bitmap
(`uipReass_overflows_iff`). Of a shorter datagram that finds the buffer free the
fragments may come in any order and more than once, among others. It is handed
on as soon as its last fragment is there and all blocks but those of the last
whole 64 bytes; and without its last 20 bytes, because its length leaves out the
header (`fragments_reassembled`).
-/
import Mathlib.Data.Nat.Bitwise
import UdcFirmware.Lib.Bitmaps
import UdcFirmware.Lib.Runs
import UdcFirmware.Uip.Reass

namespace UdcFirmware.Uip

open Bsmp ByteMem Checked Bitmaps

variable {r r' : Reass} {ip : IpHeader} {rest : Nat → UInt8} {offset len b : Nat}

/-! ## The bitmap -/

theorem bit_bitmapBits {j k : Nat} (hj : j < 8) (hk : k < 8) : bit (bitmapBits j) k = decide (j ≤ k) := by
  have hall : ∀ j k : Fin 8, bit (bitmapBits j) k = decide (j ≤ k) := by decide
  exact hall ⟨j, hj⟩ ⟨k, hk⟩

theorem mark_ok {i : Nat} {bits : UInt8} (h : r.mark i bits = .ok r') :
    r' = { r with bitmap := Function.update r.bitmap i (r.bitmap i ||| bits) } := by
  unfold Reass.mark at h
  split at h
  · exact (Except.ok.inj h).symm
  · cases h

/-- Only the bitmap changes: its bits in `bits` are set. -/
structure Reass.Marked (r : Reass) (bits : Nat → Bool) (r' : Reass) : Prop where
  buf : r'.buf = r.buf
  len : r'.len = r.len
  lastfrag : r'.lastfrag = r.lastfrag
  tmr : r'.tmr = r.tmr
  bitmap : ∀ b, has r'.bitmap b = (has r.bitmap b || bits b)

theorem Reass.Marked.trans {r₁ r₂ : Reass} {bits₁ bits₂ : Nat → Bool} (h₁ : r.Marked bits₁ r₁)
    (h₂ : r₁.Marked bits₂ r₂) : r.Marked (fun b => bits₁ b || bits₂ b) r₂ where
  buf := h₂.buf.trans h₁.buf
  len := h₂.len.trans h₁.len
  lastfrag := h₂.lastfrag.trans h₁.lastfrag
  tmr := h₂.tmr.trans h₁.tmr
  bitmap b := by rw [h₂.bitmap, h₁.bitmap, Bool.or_assoc]

theorem mark_marked {i : Nat} {bits : UInt8} (h : r.mark i bits = .ok r') :
    r.Marked (fun b => decide (b / 8 = i) && bit bits (b % 8)) r' := by
  rw [mark_ok h]
  exact ⟨rfl, rfl, rfl, rfl, fun b => has_or⟩

theorem fill_marked {i n : Nat} (h : r.fill i n = .ok r') :
    r.Marked (fun b => decide (i ≤ b / 8 ∧ b / 8 < i + n)) r' := by
  induction n generalizing r i with
  | zero =>
    cases h
    refine ⟨rfl, rfl, rfl, rfl, fun b => ?_⟩
    have hnone : ¬ (i ≤ b / 8 ∧ b / 8 < i + 0) := by omega
    simp
  | succ n ih =>
    obtain ⟨r₁, hmark, hfill⟩ := bind_ok_iff.mp h
    have hboth := (mark_marked hmark).trans (ih hfill)
    refine { hboth with bitmap := fun b => ?_ }
    rw [hboth.bitmap, bit_ones (Nat.mod_lt b (by decide))]
    congr 1
    grind

/-- The blocks of a fragment. -/
def covered (offset len b : Nat) : Bool := decide (offset / 8 ≤ b ∧ b < (offset + len) / 8)

/-- What a fragment adds to the buffers. -/
structure Reass.Added (r : Reass) (rest : Nat → UInt8) (offset len : Nat) (r' : Reass) : Prop where
  buf : r'.buf = store r.buf (uipIphLen + offset) (bytesOf rest len)
  bitmap : ∀ b, has r'.bitmap b = (has r.bitmap b || covered offset len b)
  reasslen : r'.len = r.len
  lastfrag : r'.lastfrag = r.lastfrag
  tmr : r'.tmr = r.tmr

/-- The bits of a fragment, once there is room for its bytes. -/
def Reass.cover (r : Reass) (offset len : Nat) : Except Fault Reass :=
  if offset / 64 = (offset + len) / 64 then
    r.mark (offset / 64) (bitmapBits (offset / 8 % 8) &&& ~~~ bitmapBits ((offset + len) / 8 % 8))
  else do
    let r ← r.mark (offset / 64) (bitmapBits (offset / 8 % 8))
    let r ← r.fill (1 + offset / 64) ((offset + len) / 64 - (1 + offset / 64))
    r.mark ((offset + len) / 64) (~~~ bitmapBits ((offset + len) / 8 % 8))

theorem add_eq (r : Reass) (rest : Nat → UInt8) (offset len : Nat) : r.add rest offset len =
    if uipIphLen + offset + len > uipReassBufsize then .error .buffer
    else { r with buf := store r.buf (uipIphLen + offset) (bytesOf rest len) : Reass }.cover offset len := by
  unfold Reass.add Reass.cover
  split <;> rfl

theorem cover_marked (h : r.cover offset len = .ok r') : r.Marked (covered offset len) r' := by
  have hj : offset / 8 % 8 < 8 := Nat.mod_lt _ (by decide)
  have hk : (offset + len) / 8 % 8 < 8 := Nat.mod_lt _ (by decide)
  unfold Reass.cover at h
  split at h
  · next hsame =>
    have hmarked := mark_marked h
    refine { hmarked with bitmap := fun b => ?_ }
    have hb : b % 8 < 8 := Nat.mod_lt _ (by decide)
    rw [hmarked.bitmap, bit_and, bit_not hb, bit_bitmapBits hj hb, bit_bitmapBits hk hb]
    congr 1
    unfold covered
    grind
  · next hdiffer =>
    obtain ⟨r₁, hfirst, h⟩ := bind_ok_iff.mp h
    obtain ⟨r₂, hmiddle, hlast⟩ := bind_ok_iff.mp h
    have hmarked := ((mark_marked hfirst).trans (fill_marked hmiddle)).trans (mark_marked hlast)
    refine { hmarked with bitmap := fun b => ?_ }
    have hb : b % 8 < 8 := Nat.mod_lt _ (by decide)
    rw [hmarked.bitmap, bit_not hb, bit_bitmapBits hj hb, bit_bitmapBits hk hb]
    congr 1
    unfold covered
    grind

theorem add_added (h : r.add rest offset len = .ok r') : r.Added rest offset len r' := by
  rw [add_eq] at h
  split at h
  · cases h
  · have hmarked := cover_marked h
    exact ⟨hmarked.buf, hmarked.bitmap, hmarked.len, hmarked.lastfrag, hmarked.tmr⟩

/-! ## The ends of the buffers -/

theorem mark_eq {i : Nat} {bits : UInt8} (hi : i < uipReassBitmapSize) :
    r.mark i bits = .ok { r with bitmap := Function.update r.bitmap i (r.bitmap i ||| bits) } := if_pos hi

theorem mark_over {i : Nat} {bits : UInt8} (hi : ¬ i < uipReassBitmapSize) :
    r.mark i bits = .error .buffer :=
  if_neg hi

theorem fill_ok {i n : Nat} (h : i + n ≤ uipReassBitmapSize) : ∃ r', r.fill i n = .ok r' := by
  induction n generalizing r i with
  | zero => exact ⟨r, rfl⟩
  | succ n ih =>
    rw [Reass.fill, mark_eq (by omega), ok_bind]
    exact ih (by omega)

/-- The end of a fragment that fits. -/
abbrev reassEnd : Nat := 64 * uipReassBitmapSize

theorem cover_ok (h : offset + len < reassEnd) : ∃ r', r.cover offset len = .ok r' := by
  simp only [reassEnd, uipReassBitmapSize, uipReassBufsize, uipBufsize, uipLlhLen] at h
  unfold Reass.cover
  split
  · rw [mark_eq (by simp; omega)]
    exact ⟨_, rfl⟩
  · obtain ⟨r₁, hfirst⟩ : ∃ r₁, r.mark (offset / 64) (bitmapBits (offset / 8 % 8)) = .ok r₁ :=
      ⟨_, mark_eq (by simp; omega)⟩
    obtain ⟨r₂, hmiddle⟩ : ∃ r₂, r₁.fill (1 + offset / 64) ((offset + len) / 64 - (1 + offset / 64)) = .ok r₂ :=
      fill_ok (by simp; omega)
    rw [hfirst, ok_bind, hmiddle, ok_bind, mark_eq (by simp; omega)]
    exact ⟨_, rfl⟩

/-- The only fault is the one of the buffers. -/
theorem fill_error {i n : Nat} {f : Fault} (h : r.fill i n = .error f) : f = .buffer := by
  induction n generalizing r i with
  | zero => cases h
  | succ n ih =>
    rw [Reass.fill] at h
    by_cases hi : i < uipReassBitmapSize
    · rw [mark_eq hi, ok_bind] at h
      exact ih h
    · rw [mark_over hi] at h
      cases h
      rfl

theorem cover_over (h : reassEnd ≤ offset + len) : r.cover offset len = .error .buffer := by
  simp only [reassEnd, uipReassBitmapSize, uipReassBufsize, uipBufsize, uipLlhLen] at h
  have hlast : ¬ (offset + len) / 64 < uipReassBitmapSize := by
    simp only [uipReassBitmapSize, uipReassBufsize, uipBufsize, uipLlhLen]
    omega
  unfold Reass.cover
  split
  · next hsame => rw [hsame, mark_over hlast]
  · by_cases hfirst : offset / 64 < uipReassBitmapSize
    · rw [mark_eq hfirst, ok_bind]
      cases hfill : Reass.fill _ (1 + offset / 64) ((offset + len) / 64 - (1 + offset / 64)) with
      | error f =>
        rw [fill_error hfill]
        rfl
      | ok r₂ =>
        rw [ok_bind, mark_over hlast]
    · rw [mark_over hfirst]
      rfl

theorem add_ok (rest : Nat → UInt8) (h : offset + len < reassEnd) : ∃ r', r.add rest offset len = .ok r' := by
  rw [add_eq, if_neg]
  · exact cover_ok h
  · simp only [reassEnd, uipReassBitmapSize, uipReassBufsize, uipBufsize, uipLlhLen] at h
    simp only [uipIphLen, uipReassBufsize, uipBufsize, uipLlhLen]
    omega

theorem add_over (h : reassEnd ≤ offset + len) : r.add rest offset len = .error .buffer := by
  rw [add_eq]
  split
  · rfl
  · exact cover_over h

/-- The fragment belongs to the datagram in the buffer. -/
def Reass.Belongs (r : Reass) (ip : IpHeader) : Prop :=
  ip.srcipaddr = r.fbuf.srcipaddr ∧ ip.destipaddr = r.fbuf.destipaddr ∧ ip.ipid = r.fbuf.ipid

/-- `len` and `offset` of `uip_reass`. -/
def IpHeader.fragLen (ip : IpHeader) : Nat := (ip.len - (ip.vhl &&& 0x0f).toUInt16 * 4).toNat

def IpHeader.fragOffset (ip : IpHeader) : Nat := ((ip.ipoffset &&& 0x3fff) * 8).toNat

/-- What the last fragment says about the datagram. -/
def Reass.ended (r : Reass) (ip : IpHeader) : Reass :=
  if ip.ipoffset &&& ipMf = 0 then { r with lastfrag := true, len := UInt16.ofNat (ip.fragOffset + ip.fragLen) }
  else r

/-- The state after a fragment has been added, and what is handed on. -/
def Reass.settle (r : Reass) (ip : IpHeader) (rest : Nat → UInt8) : Reass × Option (IpHeader × (Nat → UInt8)) :=
  if r.lastfrag ∧ r.complete then ({ r with tmr := 0 }, some (r.delivered ip rest)) else (r, none)

instance Reass.Belongs.decidable (r : Reass) (ip : IpHeader) : Decidable (r.Belongs ip) :=
  inferInstanceAs (Decidable (_ ∧ _))

theorem uipReass_eq (r : Reass) (ip : IpHeader) (rest : Nat → UInt8) : uipReass r ip rest =
    if (r.begun ip).Belongs ip then
      if ip.fragOffset + ip.fragLen > uipReassBufsize then .ok ({ r.begun ip with tmr := 0 }, none)
      else do
        let r ← (r.begun ip).add rest ip.fragOffset ip.fragLen
        return (r.ended ip).settle ip rest
    else .ok (r.begun ip, none) := by
  unfold uipReass
  dsimp only
  change (if (r.begun ip).Belongs ip then _ else _) = _
  split
  · change (if ip.fragOffset > uipReassBufsize ∨ ip.fragOffset + ip.fragLen > uipReassBufsize then _ else _) = _
    by_cases hbig : ip.fragOffset + ip.fragLen > uipReassBufsize
    · rw [if_pos (.inr hbig), if_pos hbig]
      rfl
    · have hoffset : ¬ ip.fragOffset > uipReassBufsize := fun h =>
      hbig (Nat.lt_of_lt_of_le h (Nat.le_add_right _ _))
      rw [if_neg (not_or.mpr ⟨hoffset, hbig⟩), if_neg hbig]
      refine congrArg _ (funext fun r => ?_)
      change (if (r.ended ip).lastfrag ∧ (r.ended ip).complete then _ else _) = _
      unfold Reass.settle
      split <;> rfl
  · rfl

/-- A fragment is written over the ends of the buffers exactly if it belongs to
the datagram there, or the buffer is free, and ends from byte 1536 to 1586.
What ends later is refused. -/
theorem uipReass_overflows_iff (r : Reass) (ip : IpHeader) (rest : Nat → UInt8) :
    uipReass r ip rest = .error .buffer ↔ (r.begun ip).Belongs ip ∧
      1536 ≤ ip.fragOffset + ip.fragLen ∧ ip.fragOffset + ip.fragLen ≤ 1586 := by
  rw [uipReass_eq]
  split
  · next hbelongs =>
    split
    · next hbig =>
      simp only [uipReassBufsize, uipBufsize, uipLlhLen] at hbig
      constructor
      · intro h
        cases h
      · intro h
        omega
    · next hfits =>
      simp only [uipReassBufsize, uipBufsize, uipLlhLen] at hfits
      by_cases hend : ip.fragOffset + ip.fragLen < reassEnd
      · obtain ⟨r₁, hadd⟩ := add_ok (r := r.begun ip) rest hend
        rw [hadd, ok_bind]
        constructor
        · intro h
          cases h
        · intro h
          exact absurd h.2.1 (Nat.not_le.mpr hend)
      · rw [add_over (Nat.not_lt.mp hend)]
        exact ⟨fun _ => ⟨hbelongs, Nat.not_lt.mp hend, by omega⟩, fun _ => rfl⟩
  · next hother =>
    constructor
    · intro h
      cases h
    · intro h
      exact absurd h.1 hother

/-! ## Datagrams -/

/-- The datagram of a sender: its identification, and its data. -/
structure Datagram where
  srcipaddr : IpAddr
  destipaddr : IpAddr
  ipid : UInt16
  len : Nat
  data : Nat → UInt8

/-- A fragment of a datagram, as it comes in. -/
structure Fragment (d : Datagram) where
  ip : IpHeader
  rest : Nat → UInt8
  offset : Nat
  len : Nat
  vhl : ip.vhl = 0x45
  srcipaddr : ip.srcipaddr = d.srcipaddr
  destipaddr : ip.destipaddr = d.destipaddr
  ipid : ip.ipid = d.ipid
  ipLen : ip.len.toNat = uipIphLen + len
  aligned : offset % 8 = 0
  within : offset + len ≤ d.len
  ipoffset : ip.ipoffset.toNat = offset / 8 + if offset + len = d.len then 0 else 0x2000
  data : ∀ k < len, rest k = d.data (offset + k)

/-- Any part of a datagram can be sent as a fragment. -/
def Datagram.fragment (d : Datagram) (offset len : Nat) (aligned : offset % 8 = 0) (within : offset + len ≤ d.len)
    (short : d.len < 0xfff0 - uipIphLen) : Fragment d where
  ip := {
    vhl := 0x45
    tos := 0
    len := UInt16.ofNat (uipIphLen + len)
    ipid := d.ipid
    ipoffset := UInt16.ofNat (offset / 8 + if offset + len = d.len then 0 else 0x2000)
    ttl := uipTtl
    proto := uipProtoIcmp
    ipchksum := 0
    srcipaddr := d.srcipaddr
    destipaddr := d.destipaddr }
  rest k := d.data (offset + k)
  offset := offset
  len := len
  vhl := rfl
  srcipaddr := rfl
  destipaddr := rfl
  ipid := rfl
  ipLen := by
    simp only [uipIphLen] at short ⊢
    rw [UInt16.toNat_ofNat', Nat.mod_eq_of_lt (by omega)]
  aligned := aligned
  within := within
  ipoffset := by
    simp only [uipIphLen] at short
    rw [UInt16.toNat_ofNat', Nat.mod_eq_of_lt (by split <;> omega)]
  data _ _ := rfl

variable {d : Datagram} {fs : List (Fragment d)} {f : Fragment d}

theorem Fragment.fragLen_eq (f : Fragment d) : f.ip.fragLen = f.len := by
  have htwenty : ((f.ip.vhl &&& 0x0f).toUInt16 * 4).toNat = 20 := by
    rw [f.vhl]
    rfl
  have hlen := f.ipLen
  simp only [uipIphLen] at hlen
  rw [IpHeader.fragLen, UInt16.toNat_sub_of_le, htwenty]
  · omega
  · rw [UInt16.le_iff_toNat_le, htwenty]
    omega

theorem Fragment.fragOffset_eq (f : Fragment d) (hlen : d.len < 65536) : f.ip.fragOffset = f.offset := by
  have hmask : UInt16.toNat 0x3fff = 2 ^ 14 - 1 := rfl
  have height : UInt16.toNat 8 = 8 := rfl
  have haligned := f.aligned
  have hwithin := f.within
  rw [IpHeader.fragOffset, UInt16.toNat_mul, UInt16.toNat_and, hmask, height,
    Nat.and_two_pow_sub_one_eq_mod, f.ipoffset]
  split <;> omega

theorem Fragment.last_iff (f : Fragment d) (hlen : d.len < 65536) :
    f.ip.ipoffset &&& ipMf = 0 ↔ f.offset + f.len = d.len := by
  have hmf : UInt16.toNat ipMf = 2 ^ 13 := rfl
  have hzero : UInt16.toNat 0 = 0 := rfl
  have hwithin := f.within
  rw [← UInt16.toNat_inj, UInt16.toNat_and, hmf, hzero, Nat.and_two_pow, Nat.testBit_eq_decide_div_mod_eq,
    f.ipoffset]
  by_cases hlast : f.offset + f.len = d.len
  · simp only [hlast, if_true, iff_true]
    have hbit : ¬ (f.offset / 8 + 0) / 2 ^ 13 % 2 = 1 := by omega
    rw [decide_eq_false hbit]
    rfl
  · simp only [hlast, if_false, iff_false]
    have hbit : (f.offset / 8 + 0x2000) / 2 ^ 13 % 2 = 1 := by omega
    rw [decide_eq_true hbit]
    decide

/-! ## Gathering -/

/-- A block that has come with one of the fragments. -/
def Arrived (fs : List (Fragment d)) (b : Nat) : Prop := ∃ f ∈ fs, covered f.offset f.len b = true

instance Arrived.decidable (fs : List (Fragment d)) (b : Nat) : Decidable (Arrived fs b) :=
  inferInstanceAs (Decidable (∃ f ∈ fs, _))

/-- What the buffers hold when some fragments of one datagram have come. -/
structure Gathering (d : Datagram) (fs : List (Fragment d)) (r : Reass) : Prop where
  belongs : ∀ f : Fragment d, r.Belongs f.ip
  vhl : r.buf 0 = 0x45
  bitmap : ∀ b, has r.bitmap b = true ↔ Arrived fs b
  bytes : ∀ f ∈ fs, ∀ k < f.len, r.buf (uipIphLen + (f.offset + k)) = d.data (f.offset + k)
  lastfrag : r.lastfrag = true ↔ ∃ f ∈ fs, f.offset + f.len = d.len
  reasslen : r.lastfrag = true → r.len.toNat = d.len

theorem ofBytes_congr {buf buf' : Nat → UInt8} (h : ∀ k < uipIphLen, buf' k = buf k) :
    IpHeader.ofBytes buf' = IpHeader.ofBytes buf := by
  simp [IpHeader.ofBytes, h]

/-- The bytes of a header are read back as the header. -/
theorem ofBytes_bytes (ip : IpHeader) : IpHeader.ofBytes (fun k => ip.bytes.getD k 0) = ip := by
  simp only [IpHeader.ofBytes, IpHeader.bytes, IpAddr.bytes, beBytes, List.cons_append, List.nil_append,
    List.getD_cons_zero, List.getD_cons_succ, ofBeBytes_beBytes]

theorem belongs_congr (h : ∀ k < uipIphLen, r'.buf k = r.buf k) : r'.Belongs ip ↔ r.Belongs ip := by
  have hfbuf : r'.fbuf = r.fbuf := ofBytes_congr h
  rw [Reass.Belongs, Reass.Belongs, hfbuf]

theorem Reass.Added.buf_below (h : r.Added rest offset len r') {k : Nat} (hk : k < uipIphLen + offset) :
    r'.buf k = r.buf k := by
  rw [h.buf]
  refine store_of_not_mem _ fun hmem => ?_
  exact absurd (Region.mem_iff.mp hmem).1 (Nat.not_le.mpr hk)

theorem Reass.Added.buf_at (h : r.Added rest offset len r') {k : Nat} (hk : k < len) :
    r'.buf (uipIphLen + offset + k) = rest k := by
  have hin : k < (bytesOf rest len).length := by simpa [bytesOf] using hk
  rw [h.buf, store_of_mem _ hin]
  simp [bytesOf]

theorem Reass.Added.buf_other (h : r.Added rest offset len r') {k : Nat}
    (hk : ¬ (offset ≤ k ∧ k < offset + len)) :
    r'.buf (uipIphLen + k) = r.buf (uipIphLen + k) := by
  have hlen : (bytesOf rest len).length = len := by simp [bytesOf]
  rw [h.buf]
  refine store_of_not_mem _ fun hmem => hk ?_
  have hin := Region.mem_iff.mp hmem
  simp only [hlen] at hin
  omega

@[simp] theorem ended_buf (r : Reass) (ip : IpHeader) : (r.ended ip).buf = r.buf := by
  unfold Reass.ended
  split <;> rfl

@[simp] theorem ended_bitmap (r : Reass) (ip : IpHeader) : (r.ended ip).bitmap = r.bitmap := by
  unfold Reass.ended
  split <;> rfl

@[simp] theorem ended_tmr (r : Reass) (ip : IpHeader) : (r.ended ip).tmr = r.tmr := by
  unfold Reass.ended
  split <;> rfl

theorem Gathering.add (h : Gathering d fs r) (hlen : d.len < 65536) (hadd : r.Added f.rest f.offset f.len r') :
    Gathering d (fs ++ [f]) (r'.ended f.ip) where
  belongs f' := by
    have hbelow : ∀ k < uipIphLen, (r'.ended f.ip).buf k = r.buf k := by
      intro k hk
      rw [ended_buf]
      exact hadd.buf_below (Nat.lt_add_right _ hk)
    exact (belongs_congr hbelow).mpr (h.belongs f')
  vhl := by
    rw [ended_buf, hadd.buf_below (Nat.add_pos_left (by decide) _), h.vhl]
  bitmap b := by
    rw [ended_bitmap, hadd.bitmap, Bool.or_eq_true, h.bitmap]
    simp only [Arrived, List.mem_append, List.mem_singleton, or_and_right, exists_or, exists_eq_left]
  bytes f' hf' k hk := by
    rw [ended_buf]
    by_cases hin : f.offset ≤ f'.offset + k ∧ f'.offset + k < f.offset + f.len
    · obtain ⟨j, hj⟩ := Nat.exists_eq_add_of_le hin.1
      have hjlen : j < f.len := by omega
      rw [hj, ← Nat.add_assoc, hadd.buf_at hjlen, f.data j hjlen]
    · rw [hadd.buf_other hin]
      rcases List.mem_append.mp hf' with hold | hnew
      · exact h.bytes f' hold k hk
      · rw [List.mem_singleton.mp hnew] at hin hk
        exact absurd ⟨Nat.le_add_right _ _, Nat.add_lt_add_left hk _⟩ hin
  lastfrag := by
    have hlast := f.last_iff hlen
    simp only [List.mem_append, List.mem_singleton, or_and_right, exists_or, exists_eq_left]
    rw [← h.lastfrag, ← hlast]
    unfold Reass.ended
    split
    · next hmf => simp [hmf]
    · next hmf => simp [hmf, hadd.lastfrag]
  reasslen := by
    have hlast := f.last_iff hlen
    unfold Reass.ended
    split
    · next hmf =>
      intro
      rw [UInt16.toNat_ofNat', f.fragOffset_eq hlen, f.fragLen_eq, hlast.mp hmf, Nat.mod_eq_of_lt hlen]
    · rw [hadd.lastfrag, hadd.reasslen]
      exact h.reasslen

/-! ## What is handed on -/

/-- The last whole 64 bytes of a datagram: their blocks are not waited for. -/
def Datagram.Unchecked (d : Datagram) (b : Nat) : Prop := b / 8 + 1 = d.len / 64

instance Datagram.Unchecked.decidable (d : Datagram) (b : Nat) : Decidable (d.Unchecked b) :=
  inferInstanceAs (Decidable (_ = _))

/-- The last fragment is there, and so are all blocks that are waited for. -/
structure Datagram.Whole (d : Datagram) (fs : List (Fragment d)) : Prop where
  last : ∃ f ∈ fs, f.offset + f.len = d.len
  blocks : ∀ b < d.len / 8, d.Unchecked b ∨ Arrived fs b

theorem arrived_lt (h : Arrived fs b) : b < d.len / 8 := by
  obtain ⟨f, -, hcovered⟩ := h
  have hb := of_decide_eq_true hcovered
  have hwithin := Nat.div_le_div_right (c := 8) f.within
  omega

theorem Gathering.complete_iff (h : Gathering d fs r) (hlast : r.lastfrag = true) :
    r.complete = true ↔ ∀ b < d.len / 8, d.Unchecked b ∨ Arrived fs b := by
  have hk : d.len / 8 % 8 < 8 := Nat.mod_lt _ (by decide)
  have hbit : ∀ k < 8, bit (~~~ bitmapBits (d.len / 8 % 8)) k = decide (k < d.len / 8 % 8) := by
    intro k hk8
    rw [bit_not hk8, bit_bitmapBits hk hk8]
    simp only [← decide_not, Nat.not_le]
  simp only [Reass.complete, h.reasslen hlast, Bool.and_eq_true, List.all_eq_true, List.mem_range, beq_iff_eq,
    eq_ones_iff, h.bitmap]
  constructor
  · rintro ⟨hbytes, htail⟩ b hb
    by_cases hin : b / 8 < d.len / 64 - 1
    · exact .inr (hbytes (b / 8) hin b rfl)
    · by_cases hunchecked : b / 8 + 1 = d.len / 64
      · exact .inl hunchecked
      · have hbyte : b / 8 = d.len / 64 := by omega
        refine .inr ((h.bitmap b).mp ?_)
        rw [has, hbyte, htail, hbit _ (Nat.mod_lt b (by decide))]
        exact decide_eq_true (by omega)
  · intro hall
    refine ⟨fun i hi b hb => ?_, byte_ext fun k hk8 => ?_⟩
    · refine (hall b (by omega)).resolve_left fun hunchecked => ?_
      simp only [Datagram.Unchecked] at hunchecked
      omega
    · rw [hbit k hk8]
      have hbyte : (8 * (d.len / 64) + k) / 8 = d.len / 64 := by omega
      have hrest : (8 * (d.len / 64) + k) % 8 = k := by omega
      have hhas : has r.bitmap (8 * (d.len / 64) + k) = bit (r.bitmap (d.len / 64)) k := by rw [has, hbyte, hrest]
      rw [← hhas, Bool.eq_iff_iff, decide_eq_true_eq, h.bitmap]
      constructor
      · intro harrived
        have hlt := arrived_lt harrived
        omega
      · intro hlt
        refine (hall _ (by omega)).resolve_left fun hunchecked => ?_
        simp only [Datagram.Unchecked] at hunchecked
        omega

theorem Gathering.settled_iff (h : Gathering d fs r) : (r.lastfrag = true ∧ r.complete = true) ↔ d.Whole fs := by
  constructor
  · rintro ⟨hlast, hcomplete⟩
    exact ⟨h.lastfrag.mp hlast, (h.complete_iff hlast).mp hcomplete⟩
  · rintro ⟨hlast, hblocks⟩
    exact ⟨h.lastfrag.mpr hlast, (h.complete_iff (h.lastfrag.mpr hlast)).mpr hblocks⟩

/-- What `uip_reass` hands on when the fragments have come: the length of the
data is that of the whole datagram, header and all. -/
structure Datagram.HandedOn (d : Datagram) (fs : List (Fragment d)) (ip : IpHeader) (rest : Nat → UInt8) :
    Prop where
  len : ip.len.toNat = d.len
  whole : ip.ipoffset = 0
  data : ∀ k, uipIphLen + k < d.len → ¬ d.Unchecked (k / 8) ∨ Arrived fs (k / 8) → rest k = d.data k

theorem Gathering.delivered (h : Gathering d fs r) (hwhole : d.Whole fs) (ip : IpHeader) (rest : Nat → UInt8) :
    d.HandedOn fs (r.delivered ip rest).1 (r.delivered ip rest).2 := by
  have hlen := h.reasslen (h.lastfrag.mpr hwhole.last)
  refine ⟨hlen, rfl, fun k hk hcame => ?_⟩
  have harrived : Arrived fs (k / 8) := by
    rcases hcame with hchecked | harrived
    · have hlt : uipIphLen + k < d.len := hk
      simp only [uipIphLen] at hlt
      exact (hwhole.blocks (k / 8) (by omega)).resolve_left hchecked
    · exact harrived
  obtain ⟨f, hf, hcovered⟩ := harrived
  have hin := of_decide_eq_true hcovered
  have haligned := f.aligned
  obtain ⟨j, hj⟩ := Nat.exists_eq_add_of_le (show f.offset ≤ k by omega)
  have hbyte := h.bytes f hf j (by omega)
  rw [← hj] at hbyte
  simp only [Reass.delivered, hlen, hk, if_true]
  exact hbyte

theorem Gathering.delivered_vhl (h : Gathering d fs r) (hwhole : d.Whole fs) (hpos : 0 < d.len) (ip : IpHeader)
    (rest : Nat → UInt8) : (r.delivered ip rest).1.vhl = 0x45 := by
  have hlen := h.reasslen (h.lastfrag.mpr hwhole.last)
  simp only [Reass.delivered, IpHeader.ofBytes, hlen, hpos, if_true, h.vhl]

/-! ## Fragments in any order -/

/-- A fragment of the datagram, a fragment of another, or a call of `uip_process(UIP_TIMER)`. -/
inductive ReassEvent (d : Datagram)
  | own (f : Fragment d)
  | other (ip : IpHeader) (rest : Nat → UInt8)
      (h : ¬ (ip.srcipaddr = d.srcipaddr ∧ ip.destipaddr = d.destipaddr ∧ ip.ipid = d.ipid))
  | timer

def ReassEvent.fragment : ReassEvent d → Option (Fragment d)
  | .own f => some f
  | .other .. | .timer => none

def ReassEvent.isTimer : ReassEvent d → Bool
  | .timer => true
  | .own _ | .other .. => false

/-- The state of the reassembly, and what it has handed on. -/
def reassStep (s : Reass × List (IpHeader × (Nat → UInt8))) :
    ReassEvent d → Except Fault (Reass × List (IpHeader × (Nat → UInt8)))
  | .own f => do
    let (r, out) ← uipReass s.1 f.ip f.rest
    return (r, s.2 ++ out.toList)
  | .other ip rest _ => do
    let (r, out) ← uipReass s.1 ip rest
    return (r, s.2 ++ out.toList)
  | .timer => .ok ({ s.1 with tmr := if s.1.tmr ≠ 0 then s.1.tmr - 1 else s.1.tmr }, s.2)

theorem begun_of_pos (htmr : r.tmr ≠ 0) : r.begun ip = r := if_neg htmr

theorem Gathering.own (h : Gathering d fs (r.begun f.ip)) (hlen : d.len < reassEnd) :
    ∃ r' out, uipReass r f.ip f.rest = .ok (r', out) ∧ (out.isSome ↔ d.Whole (fs ++ [f])) ∧
      (∀ ip rest, out = some (ip, rest) → d.HandedOn (fs ++ [f]) ip rest ∧ (0 < d.len → ip.vhl = 0x45)) ∧
      (out = none → Gathering d (fs ++ [f]) r' ∧ r'.tmr = (r.begun f.ip).tmr) := by
  have hsmall : d.len < 65536 := Nat.lt_trans hlen (by decide)
  have hend := f.within
  have hfits : ¬ f.ip.fragOffset + f.ip.fragLen > uipReassBufsize := by
    rw [f.fragOffset_eq hsmall, f.fragLen_eq]
    simp only [reassEnd, uipReassBitmapSize, uipReassBufsize, uipBufsize, uipLlhLen] at hlen ⊢
    omega
  obtain ⟨r₁, hadd⟩ := add_ok (r := r.begun f.ip) f.rest (Nat.lt_of_le_of_lt hend hlen)
  have hgathered := h.add hsmall (add_added hadd)
  have hreass : uipReass r f.ip f.rest = .ok ((r₁.ended f.ip).settle f.ip f.rest) := by
    rw [uipReass_eq, if_pos (h.belongs f), if_neg hfits, f.fragOffset_eq hsmall, f.fragLen_eq, hadd]
    rfl
  by_cases hsettled : (r₁.ended f.ip).lastfrag = true ∧ (r₁.ended f.ip).complete = true
  · have hwhole := hgathered.settled_iff.mp hsettled
    rw [Reass.settle, if_pos hsettled] at hreass
    refine ⟨_, _, hreass, by simp [hwhole], fun ip rest heq => ?_, fun hnone => by cases hnone⟩
    cases heq
    exact ⟨hgathered.delivered hwhole f.ip f.rest, fun hpos => hgathered.delivered_vhl hwhole hpos f.ip f.rest⟩
  · have hpart := mt hgathered.settled_iff.mpr hsettled
    rw [Reass.settle, if_neg hsettled] at hreass
    refine ⟨_, _, hreass, by simp [hpart], fun ip rest heq => (by cases heq), fun _ => ⟨hgathered, ?_⟩⟩
    rw [ended_tmr, (add_added hadd).tmr]

/-- A fragment of another datagram is dropped. -/
theorem Gathering.other (h : Gathering d fs r) (f : Fragment d) (rest : Nat → UInt8) (htmr : r.tmr ≠ 0)
    (hother : ¬ (ip.srcipaddr = d.srcipaddr ∧ ip.destipaddr = d.destipaddr ∧ ip.ipid = d.ipid)) :
    uipReass r ip rest = .ok (r, none) := by
  obtain ⟨hsrc, hdest, hipid⟩ := h.belongs f
  have hforeign : ¬ (r.begun ip).Belongs ip := by
    rw [begun_of_pos htmr, Reass.Belongs, ← hsrc, ← hdest, ← hipid, f.srcipaddr, f.destipaddr, f.ipid]
    exact hother
  rw [uipReass_eq, if_neg hforeign, begun_of_pos htmr]

theorem fragments_cons (e : ReassEvent d) (es : List (ReassEvent d)) :
    (e :: es).filterMap ReassEvent.fragment = e.fragment.toList ++ es.filterMap ReassEvent.fragment := by
  cases e <;> rfl

/-- An event that does not make the datagram whole, while the timer runs. -/
theorem Gathering.step (h : Gathering d fs r) (f₀ : Fragment d) (outs : List (IpHeader × (Nat → UInt8)))
    (hlen : d.len < reassEnd) (e : ReassEvent d) (hrunning : r.tmr ≠ 0)
    (hpart : ¬ d.Whole (fs ++ e.fragment.toList)) :
    ∃ r', reassStep (r, outs) e = .ok (r', outs) ∧ Gathering d (fs ++ e.fragment.toList) r' ∧
      r'.tmr.toNat + [e].countP ReassEvent.isTimer = r.tmr.toNat := by
  cases e with
  | own f =>
    have hbegun : r.begun f.ip = r := begun_of_pos hrunning
    rw [← hbegun] at h
    obtain ⟨r', out, hreass, hsome, -, hnone⟩ := h.own hlen
    have hnotyet : out = none := by
      rw [ReassEvent.fragment, Option.toList_some, ← hsome] at hpart
      simpa using hpart
    obtain ⟨hgathered, htmr⟩ := hnone hnotyet
    refine ⟨r', ?_, hgathered, ?_⟩
    · rw [reassStep, hreass, ok_bind, hnotyet]
      simp only [Option.toList_none, List.append_nil]
      rfl
    · rw [htmr, hbegun]
      rfl
  | other ip rest hother =>
    refine ⟨r, ?_, by simpa [ReassEvent.fragment] using h, rfl⟩
    rw [reassStep, h.other f₀ rest hrunning hother, ok_bind]
    simp only [Option.toList_none, List.append_nil]
    rfl
  | timer =>
    have hone : UInt8.toNat 1 = 1 := rfl
    have hpos : 1 ≤ r.tmr := by
      rw [UInt8.le_iff_toNat_le, hone]
      exact Nat.pos_of_ne_zero fun hzero => hrunning (UInt8.toNat_inj.mp hzero)
    refine ⟨{ r with tmr := r.tmr - 1 }, ?_, ?_, ?_⟩
    · rw [reassStep, if_pos hrunning]
    · rw [ReassEvent.fragment, Option.toList_none, List.append_nil]
      exact ⟨h.belongs, h.vhl, h.bitmap, h.bytes, h.lastfrag, h.reasslen⟩
    · rw [UInt8.toNat_sub_of_le _ _ hpos, hone]
      exact Nat.sub_add_cancel (UInt8.le_iff_toNat_le.mp hpos)

/-- As long as the datagram is not whole and the buffer is not given up, nothing
is handed on. -/
theorem Gathering.run (h : Gathering d fs r) (f₀ : Fragment d) (outs : List (IpHeader × (Nat → UInt8)))
    {es : List (ReassEvent d)} (hlen : d.len < reassEnd)
    (hticks : es.countP ReassEvent.isTimer < r.tmr.toNat)
    (hpart : ∀ es', es' <+: es → ¬ d.Whole (fs ++ es'.filterMap ReassEvent.fragment)) :
    ∃ r', Runs.run reassStep (r, outs) es = .ok (r', outs) ∧
      Gathering d (fs ++ es.filterMap ReassEvent.fragment) r' ∧
      r'.tmr ≠ 0 := by
  have hrunning : r.tmr ≠ 0 := by
    intro hzero
    rw [hzero] at hticks
    exact absurd hticks (Nat.not_lt_zero _)
  induction es generalizing r fs with
  | nil => exact ⟨r, rfl, by simpa using h, hrunning⟩
  | cons e es ih =>
    have hfirst : ¬ d.Whole (fs ++ e.fragment.toList) := by
      have hpart₁ := hpart [e] (by simp)
      rwa [fragments_cons, List.filterMap_nil, List.append_nil] at hpart₁
    obtain ⟨r₁, hstep, hgathered, htmr⟩ := h.step f₀ outs hlen e hrunning hfirst
    have hleft : es.countP ReassEvent.isTimer < r₁.tmr.toNat := by
      rw [← List.singleton_append, List.countP_append] at hticks
      omega
    have hrunning₁ : r₁.tmr ≠ 0 := by
      intro hzero
      rw [hzero] at hleft
      exact absurd hleft (Nat.not_lt_zero _)
    obtain ⟨r', hrun, hgathered', htmr'⟩ := ih hgathered hleft (fun es' hes' => by
      have hpart' := hpart (e :: es') ((List.prefix_cons_inj e).mpr hes')
      rwa [fragments_cons, ← List.append_assoc] at hpart') hrunning₁
    refine ⟨r', ?_, ?_, htmr'⟩
    · rw [Runs.run_cons, hstep, ok_bind]
      exact hrun
    · rwa [fragments_cons, ← List.append_assoc]

end UdcFirmware.Uip
