/-
What `md5.c` computes, however its input is divided.

A context represents the bytes that it was given (`Represents`): its state has
taken in their full blocks, the front of its buffer is the rest, its count is
that of their bits. `MD5Update` keeps this for any piece shorter than
`2^32 - 63` bytes (`md5Update_represents`): a longer one can bring `i + 63` of
its loop past the end of `unsigned int`. `MD5Final` completes the last block, or
two, so the digest is that of the padded message (`digest_of_pieces`).

The checksum command feeds it a curve's blocks, which are all short enough, so
what it stores and answers is the digest of the bytes it read
(`recalculates_digest`).
-/
import UdcFirmware.Bsmp.Md5Code
import UdcFirmware.Bsmp.CurveChecksum

namespace UdcFirmware.Bsmp.Md5Code

open Absorbing Blocks Checked

/-! ## The message -/

def initial : Words := { a := 0x67452301, b := 0xefcdab89, c := 0x98badcfe, d := 0x10325476 }

/-- The number of bits, modulo `2^64`, the low byte first. -/
def lengthBytes (len : Nat) : List UInt8 := (List.range 8).map fun i => UInt8.ofNat (8 * len / 256 ^ i)

/-- What comes after a message of `len` bytes: a bit, zeros up to 56 modulo 64, and the length. -/
def trailer (len : Nat) : List UInt8 := 0x80 :: List.replicate ((119 - len % 64) % 64) 0 ++ lengthBytes len

def padded (message : List UInt8) : List UInt8 := message ++ trailer message.length

/-- The digest of a message. -/
def digest (message : List UInt8) : List UInt8 :=
  encode ((full 64 (padded message)).foldl compress initial).list

example : digest [] = [0xd4, 0x1d, 0x8c, 0xd9, 0x8f, 0x00, 0xb2, 0x04, 0xe9, 0x80, 0x09, 0x98, 0xec, 0xf8,
    0x42, 0x7e] := by decide +kernel

/-! ## Words and bytes -/

/-- The low byte. -/
theorem low_byte (v : UInt32) : (v &&& 0xff).toUInt8 = UInt8.ofNat v.toNat := by
  have hmask : v.toNat &&& 255 = v.toNat % 256 := Nat.and_two_pow_sub_one_eq_mod v.toNat 8
  apply UInt8.toNat_inj.mp
  rw [UInt32.toNat_toUInt8, UInt32.toNat_and, UInt8.toNat_ofNat']
  exact (congrArg (· % 256) hmask).trans (Nat.mod_mod _ _)

theorem encodeWord_eq (v : UInt32) :
    encodeWord v = (List.range 4).map fun i => UInt8.ofNat (v.toNat / 256 ^ i) := by
  simp only [encodeWord, low_byte, UInt32.toNat_shiftRight, Nat.shiftRight_eq_div_pow]
  simp [List.range, List.range.loop]

/-- Two words, as they count to `2^64`. -/
theorem encode_count {lo hi : UInt32} {len : Nat}
    (h : lo.toNat + 2 ^ 32 * hi.toNat = 8 * len % 2 ^ 64) : encode [lo, hi] = lengthBytes len := by
  have hlo := lo.toNat_lt
  simp only [encode, List.flatMap_cons, List.flatMap_nil, encodeWord_eq, lengthBytes]
  simp only [List.range, List.range.loop, List.map_cons, List.map_nil, List.cons_append, List.nil_append,
    List.cons.injEq, and_true, ← UInt8.toNat_inj, UInt8.toNat_ofNat']
  omega

/-! ## Contexts -/

/-- The context was given the bytes of `message`. -/
structure Represents (context : Context) (message : List UInt8) : Prop where
  absorbed : Absorbed compress 64 initial message context.state (context.buffer.take (message.length % 64))
  count : context.count0.toNat + 2 ^ 32 * context.count1.toNat = 8 * message.length % 2 ^ 64
  buffer : context.buffer.length = 64

theorem md5Init_represents {context : Context} (h : context.buffer.length = 64) :
    Represents (md5Init context) [] where
  absorbed := .nil (by decide)
  count := rfl
  buffer := h

variable {context : Context} {message input : List UInt8} {inputLen i : UInt32} {fuel : Nat} {state : Words}

theorem Represents.index (h : Represents context message) : context.index = message.length % 64 := by
  have hmask : context.count0.toNat / 8 &&& 63 = context.count0.toNat / 8 % 64 :=
    Nat.and_two_pow_sub_one_eq_mod _ 6
  have hcount := h.count
  have hlo := context.count0.toNat_lt
  have hindex : context.index = context.count0.toNat / 8 &&& 63 := by
    rw [Context.index, UInt32.toNat_and, UInt32.toNat_shiftRight, Nat.shiftRight_eq_div_pow]
    rfl
  rw [hindex, hmask]
  omega

/-- The two words of the count, and the carry between them. -/
theorem countBits_count (h : context.count0.toNat + 2 ^ 32 * context.count1.toNat = 8 * message.length % 2 ^ 64)
    (n : UInt32) :
    (context.countBits n).count0.toNat + 2 ^ 32 * (context.countBits n).count1.toNat =
      8 * (message.length + n.toNat) % 2 ^ 64 := by
  have hlo := context.count0.toNat_lt
  have hn := n.toNat_lt
  have hbits : (n <<< 3).toNat = 8 * n.toNat % 2 ^ 32 := by
    rw [UInt32.toNat_shiftLeft, Nat.shiftLeft_eq, Nat.mul_comm]
    rfl
  have hhigh : (n >>> 29).toNat = n.toNat / 2 ^ 29 := by
    rw [UInt32.toNat_shiftRight, Nat.shiftRight_eq_div_pow]
    rfl
  have hone : (1 : UInt32).toNat = 1 := rfl
  simp only [Context.countBits]
  split
  · next hcarry =>
    rw [UInt32.lt_iff_toNat_lt, UInt32.toNat_add] at hcarry
    rw [UInt32.toNat_add, UInt32.toNat_add, UInt32.toNat_add, hone, hhigh]
    omega
  · next hnone =>
    rw [UInt32.lt_iff_toNat_lt, UInt32.toNat_add] at hnone
    rw [UInt32.toNat_add, UInt32.toNat_add, hhigh]
    omega

/-- From `i` on the loop takes in the full blocks, and ends where the rest starts. -/
theorem updateLoop_ok (fuel : Nat) (i : UInt32) (hheld : inputLen.toNat ≤ input.length)
    (hwrap : inputLen.toNat + 63 < 2 ^ 32) (hi : i.toNat ≤ inputLen.toNat)
    (hfuel : (inputLen.toNat - i.toNat) / 64 < fuel) (state : Words) :
    ∃ i' : UInt32, updateLoop input inputLen fuel i state =
        .ok ((full 64 ((input.take inputLen.toNat).drop i.toNat)).foldl compress state, i') ∧
      i'.toNat ≤ inputLen.toNat ∧
      (input.take inputLen.toNat).drop i'.toNat = rest 64 ((input.take inputLen.toNat).drop i.toNat) := by
  have hlen : (input.take inputLen.toNat).length = inputLen.toNat := by
    rw [List.length_take]
    omega
  induction fuel generalizing i state with
  | zero => exact absurd hfuel (Nat.not_lt_zero _)
  | succ fuel ih =>
    have hplus : (i + 63).toNat = i.toNat + 63 := by
      rw [UInt32.toNat_add]
      exact Nat.mod_eq_of_lt (Nat.lt_of_le_of_lt (Nat.add_le_add_right hi 63) hwrap)
    rw [updateLoop]
    split
    · next hmore =>
      rw [UInt32.lt_iff_toNat_lt, hplus] at hmore
      have hnext : (i + 64).toNat = i.toNat + 64 := by
        rw [UInt32.toNat_add]
        exact Nat.mod_eq_of_lt (Nat.lt_of_le_of_lt hmore inputLen.toNat_lt)
      have hblock : bytesAt input i.toNat 64 = .ok (((input.take inputLen.toNat).drop i.toNat).take 64) := by
        rw [bytesAt, if_pos (by omega), List.drop_take, List.take_take, Nat.min_eq_left (by omega)]
      have hsize : (((input.take inputLen.toNat).drop i.toNat).take 64).length = 64 := by
        rw [List.length_take, List.length_drop, hlen]
        omega
      have hsplit : (input.take inputLen.toNat).drop i.toNat =
          ((input.take inputLen.toNat).drop i.toNat).take 64 ++
            (input.take inputLen.toNat).drop (i + 64).toNat := by
        rw [hnext, ← List.drop_drop, List.take_append_drop]
      have hfull := full_block (by decide) hsize ((input.take inputLen.toNat).drop (i + 64).toNat)
      have hafter := rest_block (by decide) hsize ((input.take inputLen.toNat).drop (i + 64).toNat)
      rw [← hsplit] at hfull hafter
      obtain ⟨i', hloop, hle, hrest⟩ := ih (i := i + 64) (by omega) (by omega)
        (md5Transform state (((input.take inputLen.toNat).drop i.toNat).take 64))
      refine ⟨i', ?_, hle, ?_⟩
      · rw [hblock, ok_bind, hloop, hfull, List.foldl_cons, md5Transform_eq]
      · rw [hrest, hafter]
    · next hdone =>
      rw [UInt32.lt_iff_toNat_lt, hplus] at hdone
      have hshort : ((input.take inputLen.toNat).drop i.toNat).length < 64 := by
        rw [List.length_drop, hlen]
        omega
      exact ⟨i, by rw [full_short hshort]; rfl, hi, (rest_short hshort).symm⟩

theorem bytesAt_ok {n k : Nat} (h : k + n ≤ input.length) : bytesAt input k n = .ok ((input.drop k).take n) :=
  if_pos h

theorem copyTo_ok {buffer : List UInt8} (index : Nat) (bytes : List UInt8) (hbuffer : buffer.length = 64)
    (h : index + bytes.length ≤ 64) :
    ∃ copied, copyTo buffer index bytes = .ok copied ∧ copied.length = 64 ∧
      copied.take (index + bytes.length) = buffer.take index ++ bytes := by
  have hfront : (buffer.take index ++ bytes).length = index + bytes.length := by
    rw [List.length_append, List.length_take]
    omega
  refine ⟨_, if_pos h, ?_, List.take_left' hfront⟩
  rw [List.length_append, hfront, List.length_drop]
  omega

/-- The context after a piece, given what the state and the buffer hold. -/
theorem Represents.grown (h : Represents context message) {bytes pending buffer : List UInt8}
    (hlen : bytes.length = inputLen.toNat)
    (habsorbed : Absorbed compress 64 initial (message ++ bytes) state pending)
    (hpending : buffer.take pending.length = pending) (hbuffer : buffer.length = 64) :
    Represents { context.countBits inputLen with state, buffer } (message ++ bytes) where
  absorbed := by
    rw [← habsorbed.length, hpending]
    exact habsorbed
  count := by
    rw [List.length_append, hlen]
    exact countBits_count h.count inputLen
  buffer := hbuffer

/-- `MD5Update` of a piece that leaves the block in the buffer short. -/
theorem md5Update_short (h : Represents context message) (hheld : inputLen.toNat ≤ input.length)
    (hshort : inputLen.toNat < 64 - message.length % 64) (fuel : Nat) :
    ∃ c, md5Update fuel context input inputLen = .ok c ∧
      Represents c (message ++ input.take inputLen.toNat) := by
  have hlen : (input.take inputLen.toNat).length = inputLen.toNat := by
    rw [List.length_take]
    omega
  have hfront : (context.buffer.take (message.length % 64)).length = message.length % 64 := h.absorbed.length
  obtain ⟨copied, hcopy, hsize, htake⟩ := copyTo_ok (message.length % 64) (input.take inputLen.toNat)
    h.buffer (by omega)
  have hfew : (context.buffer.take (message.length % 64) ++ input.take inputLen.toNat).length < 64 := by
    rw [List.length_append]
    omega
  have habsorbed := h.absorbed.append (by decide) (input.take inputLen.toNat)
  rw [full_short hfew, rest_short hfew, List.foldl_nil] at habsorbed
  refine ⟨{ context.countBits inputLen with buffer := copied }, ?_, h.grown hlen habsorbed ?_ hsize⟩
  · rw [md5Update, h.index, if_neg (Nat.not_le.mpr hshort), bytesAt_ok (by omega), ok_bind, List.drop_zero]
    exact congrArg (· >>= _) hcopy
  · rw [List.length_append, hfront, htake]

/-- `MD5Update` of a piece that completes the block in the buffer. -/
theorem md5Update_full (h : Represents context message) (hheld : inputLen.toNat ≤ input.length)
    (hfull : 64 - message.length % 64 ≤ inputLen.toNat) (hwrap : inputLen.toNat + 63 < 2 ^ 32)
    (hfuel : inputLen.toNat / 64 < fuel) :
    ∃ c, md5Update fuel context input inputLen = .ok c ∧
      Represents c (message ++ input.take inputLen.toNat) := by
  have hlen : (input.take inputLen.toNat).length = inputLen.toNat := by
    rw [List.length_take]
    omega
  have hfront : (context.buffer.take (message.length % 64)).length = message.length % 64 := h.absorbed.length
  have hpart : (UInt32.ofNat (64 - message.length % 64)).toNat = 64 - message.length % 64 := by
    refine UInt32.toNat_ofNat_of_lt ?_
    have hsize : UInt32.size = 2 ^ 32 := rfl
    omega
  have hhead : (input.take (64 - message.length % 64)).length = 64 - message.length % 64 := by
    rw [List.length_take]
    omega
  have hmod : message.length % 64 < 64 := Nat.mod_lt _ (by decide)
  -- the block in the buffer is completed
  obtain ⟨first, hcopy, hsize, htake⟩ := copyTo_ok (message.length % 64)
    (input.take (64 - message.length % 64)) h.buffer (by omega)
  rw [hhead, Nat.add_sub_of_le hmod.le, List.take_of_length_le hsize.le] at htake
  -- the loop
  obtain ⟨i, hloop, hle, hrest⟩ := updateLoop_ok fuel (UInt32.ofNat (64 - message.length % 64)) hheld
    hwrap (by omega) (by omega) (md5Transform context.state first)
  rw [hpart] at hloop hrest
  -- what is left goes to the front of the buffer
  have hleft : ((input.drop i.toNat).take (inputLen - i).toNat) =
      rest 64 ((input.take inputLen.toNat).drop (64 - message.length % 64)) := by
    rw [← hrest, List.drop_take, UInt32.toNat_sub_of_le _ _ hle]
  have hshort := length_rest 64 ((input.take inputLen.toNat).drop (64 - message.length % 64))
  rw [← hleft] at hshort
  obtain ⟨copied, hcopy', hsize', htake'⟩ := copyTo_ok 0
    ((input.drop i.toNat).take (inputLen - i).toNat) hsize (by omega)
  rw [Nat.zero_add, List.take_zero, List.nil_append] at htake'
  have hjoined : context.buffer.take (message.length % 64) ++ input.take inputLen.toNat =
      first ++ (input.take inputLen.toNat).drop (64 - message.length % 64) := by
    have hsplit := List.take_append_drop (64 - message.length % 64) (input.take inputLen.toNat)
    rw [List.take_take, Nat.min_eq_left hfull] at hsplit
    rw [htake, List.append_assoc, hsplit]
  have habsorbed := h.absorbed.append (by decide) (input.take inputLen.toNat)
  rw [hjoined, full_block (by decide) hsize, rest_block (by decide) hsize, ← hleft, List.foldl_cons,
    ← md5Transform_eq] at habsorbed
  refine ⟨_, ?_, h.grown hlen habsorbed htake' hsize'⟩
  rw [md5Update, h.index, if_pos hfull, bytesAt_ok (by omega), ok_bind, List.drop_zero]
  simp only [Context.countBits_state, Context.countBits_buffer, hcopy, hloop, ok_bind]
  rw [bytesAt_ok (by rw [UInt32.toNat_sub_of_le _ _ hle]; omega), ok_bind, hcopy']
  rfl

/-- **A piece more.** The context represents it too, and no copy is out of bounds. -/
theorem md5Update_represents (fuel : Nat) (input : List UInt8) (inputLen : UInt32)
    (h : Represents context message) (hheld : inputLen.toNat ≤ input.length)
    (hwrap : inputLen.toNat + 63 < 2 ^ 32) (hfuel : inputLen.toNat / 64 < fuel) :
    ∃ c, md5Update fuel context input inputLen = .ok c ∧
      Represents c (message ++ input.take inputLen.toNat) := by
  by_cases hfull : 64 - message.length % 64 ≤ inputLen.toNat
  · exact md5Update_full h hheld hfull hwrap hfuel
  · exact md5Update_short h hheld (Nat.not_le.mp hfull) fuel

/-- The front of `PADDING` is a bit and zeros. -/
theorem padding_take {n : Nat} (h : n < 64) : padding.take (n + 1) = 0x80 :: List.replicate n 0 := by
  rw [padding, List.take_succ_cons, List.take_replicate, Nat.min_eq_left (by omega)]

theorem md5Final_digest (h : Represents context message) (hfuel : 2 ≤ fuel) :
    md5Final fuel context = .ok (digest message, Context.zero) := by
  have hmod : message.length % 64 < 64 := Nat.mod_lt _ (by decide)
  obtain ⟨padLen, hpadLen⟩ : ∃ padLen, padLen + 1 = if context.index < 56 then 56 - context.index else
      120 - context.index := by
    rw [h.index]
    split
    · exact ⟨55 - message.length % 64, by omega⟩
    · exact ⟨119 - message.length % 64, by omega⟩
  have hzeros : padLen = (119 - message.length % 64) % 64 := by
    rw [h.index] at hpadLen
    split at hpadLen <;> omega
  have hpad : (UInt32.ofNat (padLen + 1)).toNat = padLen + 1 := by
    refine UInt32.toNat_ofNat_of_lt ?_
    have hsize : UInt32.size = 2 ^ 32 := rfl
    omega
  have hlength : padding.length = 64 := rfl
  obtain ⟨c₁, hupdate₁, h₁⟩ := md5Update_represents fuel padding (UInt32.ofNat (padLen + 1)) h (by omega)
    (by omega) (by omega)
  rw [hpad, padding_take (by omega)] at h₁
  have hbits := encode_count h.count
  have height : (8 : UInt32).toNat = 8 := rfl
  have hsize : (lengthBytes message.length).length = 8 := by simp [lengthBytes]
  obtain ⟨c₂, hupdate₂, h₂⟩ := md5Update_represents fuel (lengthBytes message.length) 8 h₁ (by omega)
    (by omega) (by omega)
  have hpadded : message ++ 0x80 :: List.replicate padLen 0 ++ (lengthBytes message.length).take 8 =
      padded message := by
    rw [List.take_of_length_le hsize.le, padded, trailer, ← hzeros, List.append_assoc]
  rw [height, hpadded] at h₂
  rw [md5Final, ← hpadLen, hupdate₁, ok_bind, hbits, hupdate₂, ok_bind, h₂.absorbed.state]
  rfl

/-! ## Any division -/

/-- `MD5Init`, `MD5Update` of each piece, `MD5Final`. -/
def hash (fuel : Nat) (context : Context) (pieces : List (List UInt8)) :
    Except Fault (List UInt8 × Context) := do
  let context ← pieces.foldlM (fun c piece => md5Update fuel c piece (UInt32.ofNat piece.length))
    (md5Init context)
  md5Final fuel context

theorem foldlM_represents {pieces : List (List UInt8)} (h : Represents context message)
    (hpieces : ∀ piece ∈ pieces, piece.length + 63 < 2 ^ 32) (hfuel : 2 ^ 26 ≤ fuel) :
    ∃ c, pieces.foldlM (fun c piece => md5Update fuel c piece (UInt32.ofNat piece.length)) context = .ok c ∧
      Represents c (message ++ pieces.flatten) := by
  induction pieces generalizing context message with
  | nil => exact ⟨context, rfl, by rwa [List.flatten_nil, List.append_nil]⟩
  | cons piece pieces ih =>
    have hpiece := hpieces piece (by simp)
    have hlen : (UInt32.ofNat piece.length).toNat = piece.length := by
      refine UInt32.toNat_ofNat_of_lt ?_
      have hsize : UInt32.size = 2 ^ 32 := rfl
      omega
    obtain ⟨c₁, hupdate, h₁⟩ := md5Update_represents fuel piece (UInt32.ofNat piece.length) h (by omega)
      (by omega) (by omega)
    rw [hlen, List.take_length] at h₁
    obtain ⟨c, hrest, hc⟩ := ih h₁ fun piece hmem => hpieces piece (by simp [hmem])
    refine ⟨c, ?_, ?_⟩
    · rw [List.foldlM_cons, hupdate]
      exact hrest
    · rwa [List.flatten_cons, ← List.append_assoc]

/-- **The digest is that of the message**, however it is divided. From whatever
the context held, for pieces each shorter than `2^32 - 63` bytes, the calls
finish without reading or writing out of bounds; their digest is that of the
bytes one after the other, and the context is all zeros. -/
theorem digest_of_pieces (context : Context) (hbuffer : context.buffer.length = 64)
    (pieces : List (List UInt8)) (hpieces : ∀ piece ∈ pieces, piece.length + 63 < 2 ^ 32) (fuel : Nat)
    (hfuel : 2 ^ 26 ≤ fuel) :
    hash fuel context pieces = .ok (digest pieces.flatten, Context.zero) := by
  obtain ⟨c, hfold, hc⟩ := foldlM_represents (md5Init_represents hbuffer) hpieces hfuel
  rw [List.nil_append] at hc
  rw [hash, hfold]
  exact md5Final_digest hc (by omega)

/-- The bytes a, b and c, in two pieces. -/
theorem digest_of_pieces_abc :
    hash (2 ^ 26) Context.zero [[0x61], [0x62, 0x63]] =
      .ok ([0x90, 0x01, 0x50, 0x98, 0x3c, 0xd2, 0x4f, 0xb0, 0xd6, 0x96, 0x3f, 0x7d, 0x28, 0xe1, 0x7f, 0x72],
        Context.zero) := by
  have hdigest : digest [0x61, 0x62, 0x63] = [0x90, 0x01, 0x50, 0x98, 0x3c, 0xd2, 0x4f, 0xb0, 0xd6, 0x96, 0x3f,
      0x7d, 0x28, 0xe1, 0x7f, 0x72] := by decide +kernel
  rw [← hdigest]
  exact digest_of_pieces Context.zero rfl [[0x61], [0x62, 0x63]] (by decide) (2 ^ 26) le_rfl

/-! ## The checksum of a curve -/

/-- Sixteen bytes, as the checksum of a curve holds them. -/
def toChecksum (bytes : List UInt8) : Checksum := Vector.ofFn fun i => bytes.getD i 0

/-- `MD5Update` of a block. -/
def feed (c : Except Fault Context) (piece : List UInt8) : Except Fault Context :=
  c >>= fun c => md5Update (2 ^ 26) c piece (UInt32.ofNat piece.length)

/-- The checksum that `MD5Final` writes. -/
def sealed (c : Except Fault Context) : Checksum :=
  match c >>= md5Final (2 ^ 26) with
  | .ok (bytes, _) => toChecksum bytes
  | .error _ => toChecksum []

/-- `md5.c` as the server calls it, on a context of its stack. A fault stays one. -/
def code (context : Context) : Md5 where
  Ctx := Except Fault Context
  init := .ok (md5Init context)
  update := feed
  final := sealed

theorem foldl_feed (pieces : List (List UInt8)) (c : Except Fault Context) :
    pieces.foldl feed c =
      c >>= fun c => pieces.foldlM (fun c piece => md5Update (2 ^ 26) c piece (UInt32.ofNat piece.length)) c := by
  induction pieces generalizing c with
  | nil => cases c <;> rfl
  | cons piece pieces ih =>
    rw [List.foldl_cons, ih]
    cases c <;> rfl

theorem sealed_feed (context : Context) (hbuffer : context.buffer.length = 64) (pieces : List (List UInt8))
    (hpieces : ∀ piece ∈ pieces, piece.length + 63 < 2 ^ 32) :
    sealed (pieces.foldl feed (.ok (md5Init context))) = toChecksum (digest pieces.flatten) := by
  obtain ⟨c, hfold, hc⟩ := foldlM_represents (md5Init_represents hbuffer) hpieces (le_refl (2 ^ 26))
  rw [foldl_feed, ok_bind, hfold, sealed, ok_bind, md5Final_digest hc (by decide), List.nil_append]

section Curve

variable {σ : Type} {s : System σ} {p : Ptr} {stored : World σ → UInt16 → List UInt8}

/-- No block that the command hashes is longer than the block size. -/
theorem hashed_length (hinv : RepInv s) (hp : p ∈ s.server.curves) (htells : Tells (s.objs.curve p) stored)
    {block : List UInt8} (h : block ∈ (s.objs.curve p).info.hashed (stored s.world)) :
    block.length ≤ bsmpCurveBlockMaxSize := by
  have hcheck := curveCheck_success (hinv.curves.checked p hp)
  obtain ⟨j, hj, rfl⟩ := mem_untilShort h
  refine (htells.size _ s.world ?_).trans hcheck.2.1
  rwa [ofNat_toNat_block (Nat.lt_of_lt_of_le hj hcheck.1)]

/-- **The checksum command with `md5.c`.** For every registered curve whose blocks
can be read, with no custom function: the command stores and answers the digest
of the blocks that it hashes, and of the bytes of the curve where its blocks end
alike. -/
theorem recalculates_digest (hinv : RepInv s) (hp : p ∈ s.server.curves) (hcustom : s.server.customMd5 = none)
    (htells : Tells (s.objs.curve p) stored) (context : Context) (hbuffer : context.buffer.length = 64)
    (area : Nat → UInt8) :
    Recalculates (code context) s p area
        (toChecksum (digest ((s.objs.curve p).info.hashed (stored s.world)).flatten)) ∧
      (EndAlike (s.objs.curve p).info.nblocks.toNat (s.objs.curve p).info.blockSize.toNat
          (s.objs.curve p).info.nblocks.toNat (fun j => stored s.world (UInt16.ofNat j)) →
        Recalculates (code context) s p area
          (toChecksum (digest ((s.objs.curve p).info.bytes (stored s.world))))) := by
  have hpieces (piece : List UInt8) (hmem : piece ∈ (s.objs.curve p).info.hashed (stored s.world)) :
      piece.length + 63 < 2 ^ 32 := by
    have hlen := hashed_length hinv hp htells hmem
    simp only [bsmpCurveBlockMaxSize] at hlen
    omega
  have hdigest : Recalculates (code context) s p area
      (sealed (((s.objs.curve p).info.hashed (stored s.world)).foldl feed (.ok (md5Init context)))) :=
    recalculates_fold hinv hp hcustom htells (code context) area
  rw [sealed_feed context hbuffer _ hpieces] at hdigest
  refine ⟨hdigest, fun halike => ?_⟩
  have hsize (j : Nat) (hj : j < (s.objs.curve p).info.nblocks.toNat) :
      (stored s.world (UInt16.ofNat j)).length ≤ (s.objs.curve p).info.blockSize.toNat := by
    refine htells.size _ s.world ?_
    rwa [ofNat_toNat_block (Nat.lt_of_lt_of_le hj (curveCheck_success (hinv.curves.checked p hp)).1)]
  have hsame := (untilShort_eq_iff (Nat.eq_zero_or_pos _).symm hsize).mpr halike
  rwa [CurveInfo.hashed, hsame] at hdigest

/-- Three blocks of four bytes: the digest of twelve bytes. -/
theorem recalculates_digest_archive :
    Recalculates (code Context.zero) (archive 3) 0 (fun _ => 0)
        (toChecksum (digest (((archive 3).objs.curve 0).info.hashed (archived (archive 3).world)).flatten)) ∧
      Recalculates (code Context.zero) (archive 3) 0 (fun _ => 0)
        (toChecksum (digest [1, 2, 3, 4, 1, 2, 3, 4, 1, 2, 3, 4])) := by
  have hboth := recalculates_digest (archive_reachable 3).repInv (List.mem_singleton.mpr rfl) rfl
    (archive_tells 3) Context.zero rfl fun _ => 0
  refine ⟨hboth.1, hboth.2 ?_⟩
  -- each block has the four bytes of both limits
  intro i _ _ hshort
  have hnone : ¬ (4 < 3 ∨ 4 < 4) := by decide
  exact absurd hshort hnone

end Curve

end UdcFirmware.Bsmp.Md5Code
