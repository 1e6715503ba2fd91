/-
ICMP echo. The reply is made out of the request: three bytes and the addresses
change. The checksum is neither looked at nor computed anew: the reply's is
right exactly if the request's was (`ping_answered`). Nothing but an echo
request is answered (`process_icmp`).
-/
import Mathlib.Tactic.Ring
import UdcFirmware.Uip.Process

namespace UdcFirmware.Uip

open Bsmp ByteMem Checked

variable {τ : Type} {app : App τ} {s s' : Stack τ} {fuel : Nat} {ip ip' : IpHeader} {rest rest' : Nat → UInt8}

/-! ## Checksums -/

/-- An ICMP message of `n` bytes with the right checksum. -/
def IcmpVerifies (rest : Nat → UInt8) (n : Nat) : Prop := settled (chksum 0 (bytesOf rest n)) = 0xffff

theorem bytesOf_four (rest : Nat → UInt8) (n : Nat) :
    bytesOf rest (4 + n) = rest 0 :: rest 1 :: rest 2 :: rest 3 :: bytesOf (fun k => rest (4 + k)) n := by
  simp only [bytesOf, List.range_add, List.map_append, List.map_map]
  rfl

/-- A word with its bytes swapped is 256 times the word. -/
theorem swapped_modEq (hi lo : Nat) : lo * 256 + hi ≡ (hi * 256 + lo) * 256 [MOD 65535] := by
  unfold Nat.ModEq
  omega

/-- What is added to the checksum makes up for the type. -/
theorem echo_chksum (r1 r2 r3 : UInt8) (n : Nat) :
    let icmpchksum := ofBeBytes r3 r2
    let icmpchksum' := if icmpchksum ≥ 0xfff7 then icmpchksum + 9 else icmpchksum + 8
    (ofBeBytes icmpEchoReply r1).toNat + ((ofBeBytes icmpchksum'.toUInt8 (icmpchksum' >>> 8).toUInt8).toNat + n) ≡
      (ofBeBytes icmpEcho r1).toNat + ((ofBeBytes r2 r3).toNat + n) [MOD 65535] := by
  intro icmpchksum icmpchksum'
  have hsum : icmpchksum.toNat = r3.toNat * 256 + r2.toNat := ofBeBytes_toNat r3 r2
  have hnew : icmpchksum'.toNat ≡ icmpchksum.toNat + 8 [MOD 65535] := by
    have hnine : UInt16.toNat 9 = 9 := rfl
    have height : UInt16.toNat 8 = 8 := rfl
    have hbound : UInt16.toNat 0xfff7 = 65527 := rfl
    have hlt := icmpchksum.toNat_lt
    unfold Nat.ModEq
    dsimp only [icmpchksum']
    split
    · next hge =>
      rw [ge_iff_le, UInt16.le_iff_toNat_le, hbound] at hge
      rw [UInt16.toNat_add, hnine]
      omega
    · next hlt =>
      rw [ge_iff_le, UInt16.le_iff_toNat_le, hbound] at hlt
      rw [UInt16.toNat_add, height]
      omega
  clear_value icmpchksum'
  have hlt := icmpchksum'.toNat_lt
  have hswapped := swapped_modEq (icmpchksum'.toNat / 256) (icmpchksum'.toNat % 256)
  rw [Nat.div_add_mod'] at hswapped
  have hbytes : icmpchksum'.toNat % 256 * 256 + icmpchksum'.toNat / 256 ≡
      r2.toNat * 256 + r3.toNat + 2048 [MOD 65535] :=
    calc icmpchksum'.toNat % 256 * 256 + icmpchksum'.toNat / 256
      _ ≡ icmpchksum'.toNat * 256 [MOD 65535] := hswapped
      _ ≡ (icmpchksum.toNat + 8) * 256 [MOD 65535] := hnew.mul_right 256
      _ ≡ r2.toNat * 256 + r3.toNat + 2048 [MOD 65535] := by
        rw [hsum, Nat.add_mul]
        exact (swapped_modEq _ _).symm.add_right 2048
  have hshift : UInt16.toNat 8 % 16 = 8 := rfl
  have hecho : UInt8.toNat icmpEcho = 8 := rfl
  have hreply : UInt8.toNat icmpEchoReply = 0 := rfl
  simp only [ofBeBytes_toNat, UInt16.toNat_toUInt8, UInt16.toNat_shiftRight, Nat.shiftRight_eq_div_pow, hshift,
    hecho, hreply]
  have hhigh : icmpchksum'.toNat / 2 ^ 8 % 2 ^ 8 = icmpchksum'.toNat / 256 := Nat.mod_eq_of_lt (by omega)
  have hlow : icmpchksum'.toNat % 2 ^ 8 = icmpchksum'.toNat % 256 := rfl
  rw [hhigh, hlow]
  calc 0 * 256 + r1.toNat + (icmpchksum'.toNat % 256 * 256 + icmpchksum'.toNat / 256 + n)
    _ = icmpchksum'.toNat % 256 * 256 + icmpchksum'.toNat / 256 + (r1.toNat + n) := by ring
    _ ≡ r2.toNat * 256 + r3.toNat + 2048 + (r1.toNat + n) [MOD 65535] := hbytes.add_right _
    _ = 8 * 256 + r1.toNat + (r2.toNat * 256 + r3.toNat + n) := by ring

/-- The reply is as long as the request. -/
theorem icmpInput_keeps (h : icmpInput s ip rest = some (ip', rest')) :
    ip'.len = ip.len ∧ ip'.proto = ip.proto := by
  unfold icmpInput at h
  split at h <;> cases h
  exact ⟨rfl, rfl⟩

theorem echo_verifies (h : icmpInput s ip rest = some (ip', rest')) (n : Nat) :
    IcmpVerifies rest' (4 + n) ↔ IcmpVerifies rest (4 + n) := by
  unfold icmpInput at h
  split at h
  · cases h
  · next hecho =>
    cases h
    have hbytes : ∀ l : List UInt8, l.length = 4 → bytesOf (fun k => store rest 0 l (4 + k)) n =
        bytesOf (fun k => rest (4 + k)) n := by
      intro l hl
      simp [bytesOf, store, hl]
    have hzero : UInt16.toNat 0 = 0 := rfl
    rw [IcmpVerifies, IcmpVerifies, verifies_iff, verifies_iff, bytesOf_four, bytesOf_four, hbytes _ rfl, hzero,
      Nat.zero_add, Nat.zero_add]
    simp only [wordSum]
    have hsum := echo_chksum (rest 1) (rest 2) (rest 3) (wordSum (bytesOf (fun k => rest (4 + k)) n))
    rw [not_not.mp hecho]
    exact ⟨fun h => hsum.symm.trans h, fun h => hsum.trans h⟩

/-- The sum of a header does not tell source from destination. -/
theorem uipIpchksum_swapped (ip : IpHeader) :
    uipIpchksum { ip with srcipaddr := ip.destipaddr, destipaddr := ip.srcipaddr } = 0xffff ↔
      uipIpchksum ip = 0xffff := by
  have hsum : wordSum { ip with srcipaddr := ip.destipaddr, destipaddr := ip.srcipaddr }.bytes =
    wordSum ip.bytes := by
    simp only [IpHeader.bytes, IpAddr.bytes, beBytes, List.cons_append, List.nil_append, wordSum]
    omega
  rw [uipIpchksum, uipIpchksum, verifies_iff, verifies_iff, hsum]

/-! ## Replies -/

theorem store_beyond (buf : Nat → UInt8) {bytes : List UInt8} {k : Nat} (h : bytes.length ≤ k) :
    store buf 0 bytes k = buf k := by
  simp [store, List.getElem?_eq_none h]

/-- **Pings are answered.** Whatever its connections do, an echo request for this host, of any length but 0,
brings about the reply and changes nothing else. The reply goes back to the sender with the same
identifier, number and data; its header's checksum is right, and that of the message is if the
request's is. -/
theorem ping_answered (fuel : Nat) (app : App τ) (s : Stack τ) (uipLen : UInt16) (ip : IpHeader)
    (rest : Nat → UInt8) (hvhl : ip.vhl = 0x45) (hpos : ip.len ≠ 0) (hlen : ip.len ≤ uipLen)
    (hwhole : ip.ipoffset &&& 0x3fff = 0)
    (hdest : ip.destipaddr = s.hostaddr) (hsum : uipIpchksum ip = 0xffff) (hproto : ip.proto = uipProtoIcmp)
    (hecho : rest 0 = icmpEcho) :
    ∃ ip' rest', process fuel app s (.input uipLen ip rest) = .ok (s, .icmp ip' rest') ∧
      ip'.srcipaddr = ip.destipaddr ∧ ip'.destipaddr = ip.srcipaddr ∧ ip'.len = ip.len ∧
      uipIpchksum ip' = 0xffff ∧ rest' 0 = icmpEchoReply ∧ rest' 1 = rest 1 ∧ (∀ k, 4 ≤ k → rest' k = rest k) ∧
      ∀ n, IcmpVerifies rest' (4 + n) ↔ IcmpVerifies rest (4 + n) := by
  have hcheck : s.ipCheck ip = true := by
    rw [Stack.ipCheck, hdest, hsum]
    simp
  have haccept : ipAccept s uipLen ip rest = .ok (s, some (ip, rest)) := by
    rw [ipAccept, if_neg (by simp [hvhl, UInt16.not_lt.mpr hlen]), if_neg (not_not.mpr hwhole), if_pos hcheck]
    rfl
  have hother : uipProtoIcmp ≠ uipProtoTcp := by decide
  cases hreply : icmpInput s ip rest with
  | none =>
    rw [icmpInput, if_neg (not_not.mpr hecho)] at hreply
    cases hreply
  | some reply =>
    obtain ⟨ip', rest'⟩ := reply
    have hverifies := echo_verifies hreply
    have hsent : ip'.len ≠ 0 := (icmpInput_keeps hreply).1 ▸ hpos
    have hprocess : process fuel app s (.input uipLen ip rest) = .ok (s, .icmp ip' rest') := by
      simp only [process, uipInput, haccept, ok_bind, hproto, hother, if_false, if_true, hreply, if_neg hsent]
      rfl
    rw [icmpInput, if_neg (not_not.mpr hecho)] at hreply
    cases hreply
    refine ⟨_, _, hprocess, hdest.symm, rfl, rfl, ?_, rfl, rfl, fun k hk => store_beyond rest hk, hverifies⟩
    rw [← hdest]
    exact (uipIpchksum_swapped ip).mpr hsum

/-- A ping from 192.168.1.9. -/
def pingHeader : IpHeader :=
  let ip : IpHeader := ⟨0x45, 0, 36, 7, 0, 64, uipProtoIcmp, 0, ⟨0xc0a8, 0x0109⟩, ⟨0xc0a8, 0x0104⟩⟩
  { ip with ipchksum := ~~~ uipIpchksum ip }

theorem ping_answered_idle :
    let app : App Unit := fun call _ => .ok (⟨call.flags, []⟩, ())
    let s : Stack Unit := .powerUp ⟨0xc0a8, 0x0104⟩ ()
    let rest := store (fun _ => 0) 0 [icmpEcho, 0, 0xf5, 0xfd, 0, 1, 2, 1]
    ∃ ip' rest', process 41 app s (.input 60 pingHeader rest) = .ok (s, .icmp ip' rest') ∧
      ip'.srcipaddr = pingHeader.destipaddr ∧ ip'.destipaddr = pingHeader.srcipaddr ∧ ip'.len = pingHeader.len ∧
      uipIpchksum ip' = 0xffff ∧ rest' 0 = icmpEchoReply ∧ rest' 1 = rest 1 ∧ (∀ k, 4 ≤ k → rest' k = rest k) ∧
      ∀ n, IcmpVerifies rest' (4 + n) ↔ IcmpVerifies rest (4 + n) := by
  intro app s rest
  exact ping_answered 41 app s 60 pingHeader rest (by decide) (by decide) (by decide) (by decide) (by decide)
    (by decide +kernel) (by decide) (by decide)

/-- Nothing but ICMP is answered by ICMP. -/
theorem process_icmp {e : Event} (h : process fuel app s e = .ok (s', .icmp ip' rest')) :
    ip'.proto = uipProtoIcmp := by
  cases e with
  | periodic i p =>
    obtain ⟨⟨s₁, out⟩, -, h⟩ := bind_ok_iff.mp h
    cases out <;> cases h
  | input uipLen ip rest =>
    obtain ⟨⟨s₁, datagram⟩, -, h⟩ := bind_ok_iff.mp h
    cases datagram with
    | none => cases h
    | some d =>
      obtain ⟨ip₀, rest₀⟩ := d
      dsimp only at h
      split at h
      · obtain ⟨⟨s₂, out⟩, -, h⟩ := bind_ok_iff.mp h
        cases out <;> cases h
      · split at h
        · next hproto =>
          cases hreply : icmpInput s₁ ip₀ rest₀ with
          | none =>
            rw [hreply] at h
            cases h
          | some reply =>
            rw [hreply] at h
            obtain ⟨ip₁, rest₁⟩ := reply
            have hout := congrArg Prod.snd (Except.ok.inj h)
            dsimp only at hout
            split at hout <;> cases hout
            exact (icmpInput_keeps hreply).2.trans hproto
        · cases h

end UdcFirmware.Uip
