/-
The hash that the server computes: `md5.c`.

A context holds the four words of the state, the number of bits so far (two
words, the low one first) and the bytes of the block that is not yet full.
`MD5Update` takes its input apart into blocks: what completes the block in the
buffer, the full blocks after it, and the rest, which it buffers. Its loop
tests `i + 63 < inputLen` in `unsigned int` (`updateLoop`); the copies into the
buffer and the reads of the input are checked against their bounds.

What it computes is stated without contexts and buffers: the message padded to
full blocks (`padded`), each compressed into the state by sixty-four steps whose
word, shift and constant are given by the number of the step (`compress`).
-/
import UdcFirmware.Lib.Absorbing
import UdcFirmware.Bsmp.Types

namespace UdcFirmware.Bsmp.Md5Code

open Absorbing Blocks Checked

/-! ## Words -/

/-- `state` of `MD5_CTX`. -/
structure Words where
  a : UInt32
  b : UInt32
  c : UInt32
  d : UInt32
  deriving DecidableEq

/-- One word of `Encode`. -/
def encodeWord (v : UInt32) : List UInt8 :=
  [(v &&& 0xff).toUInt8, ((v >>> 8) &&& 0xff).toUInt8, ((v >>> 16) &&& 0xff).toUInt8,
    ((v >>> 24) &&& 0xff).toUInt8]

def encode (input : List UInt32) : List UInt8 := input.flatMap encodeWord

/-- `output[i]` of `Decode`. -/
def decode (input : List UInt8) (i : Nat) : UInt32 :=
  (input.getD (4 * i) 0).toUInt32 ||| ((input.getD (4 * i + 1) 0).toUInt32 <<< 8) |||
    ((input.getD (4 * i + 2) 0).toUInt32 <<< 16) ||| ((input.getD (4 * i + 3) 0).toUInt32 <<< 24)

/-! ## `MD5Transform` -/

def fnF (x y z : UInt32) : UInt32 := (x &&& y) ||| (~~~x &&& z)

def fnG (x y z : UInt32) : UInt32 := (x &&& z) ||| (y &&& ~~~z)

def fnH (x y z : UInt32) : UInt32 := x ^^^ y ^^^ z

def fnI (x y z : UInt32) : UInt32 := y ^^^ (x ||| ~~~z)

def rotateLeft (x n : UInt32) : UInt32 := (x <<< n) ||| (x >>> (32 - n))

/-- The variable that a step assigns. The others follow it in the order a, b, c, d, a. -/
inductive Target
  | a | b | c | d

/-- `FF`, `GG`, `HH` and `II`, whose first argument is the variable they assign. -/
def step (f : UInt32 → UInt32 → UInt32 → UInt32) (target : Target) (x s ac : UInt32) (w : Words) : Words :=
  match target with
  | .a => { w with a := rotateLeft (w.a + (f w.b w.c w.d + x + ac)) s + w.b }
  | .b => { w with b := rotateLeft (w.b + (f w.c w.d w.a + x + ac)) s + w.c }
  | .c => { w with c := rotateLeft (w.c + (f w.d w.a w.b + x + ac)) s + w.d }
  | .d => { w with d := rotateLeft (w.d + (f w.a w.b w.c + x + ac)) s + w.a }

def ff : Target → UInt32 → UInt32 → UInt32 → Words → Words := step fnF

def gg : Target → UInt32 → UInt32 → UInt32 → Words → Words := step fnG

def hh : Target → UInt32 → UInt32 → UInt32 → Words → Words := step fnH

def ii : Target → UInt32 → UInt32 → UInt32 → Words → Words := step fnI

abbrev s11 : UInt32 := 7
abbrev s12 : UInt32 := 12
abbrev s13 : UInt32 := 17
abbrev s14 : UInt32 := 22
abbrev s21 : UInt32 := 5
abbrev s22 : UInt32 := 9
abbrev s23 : UInt32 := 14
abbrev s24 : UInt32 := 20
abbrev s31 : UInt32 := 4
abbrev s32 : UInt32 := 11
abbrev s33 : UInt32 := 16
abbrev s34 : UInt32 := 23
abbrev s41 : UInt32 := 6
abbrev s42 : UInt32 := 10
abbrev s43 : UInt32 := 15
abbrev s44 : UInt32 := 21

def round1 (x : Nat → UInt32) (w : Words) : Words :=
  w
    |> ff .a (x 0) s11 0xd76aa478
    |> ff .d (x 1) s12 0xe8c7b756
    |> ff .c (x 2) s13 0x242070db
    |> ff .b (x 3) s14 0xc1bdceee
    |> ff .a (x 4) s11 0xf57c0faf
    |> ff .d (x 5) s12 0x4787c62a
    |> ff .c (x 6) s13 0xa8304613
    |> ff .b (x 7) s14 0xfd469501
    |> ff .a (x 8) s11 0x698098d8
    |> ff .d (x 9) s12 0x8b44f7af
    |> ff .c (x 10) s13 0xffff5bb1
    |> ff .b (x 11) s14 0x895cd7be
    |> ff .a (x 12) s11 0x6b901122
    |> ff .d (x 13) s12 0xfd987193
    |> ff .c (x 14) s13 0xa679438e
    |> ff .b (x 15) s14 0x49b40821

def round2 (x : Nat → UInt32) (w : Words) : Words :=
  w
    |> gg .a (x 1) s21 0xf61e2562
    |> gg .d (x 6) s22 0xc040b340
    |> gg .c (x 11) s23 0x265e5a51
    |> gg .b (x 0) s24 0xe9b6c7aa
    |> gg .a (x 5) s21 0xd62f105d
    |> gg .d (x 10) s22 0x2441453
    |> gg .c (x 15) s23 0xd8a1e681
    |> gg .b (x 4) s24 0xe7d3fbc8
    |> gg .a (x 9) s21 0x21e1cde6
    |> gg .d (x 14) s22 0xc33707d6
    |> gg .c (x 3) s23 0xf4d50d87
    |> gg .b (x 8) s24 0x455a14ed
    |> gg .a (x 13) s21 0xa9e3e905
    |> gg .d (x 2) s22 0xfcefa3f8
    |> gg .c (x 7) s23 0x676f02d9
    |> gg .b (x 12) s24 0x8d2a4c8a

def round3 (x : Nat → UInt32) (w : Words) : Words :=
  w
    |> hh .a (x 5) s31 0xfffa3942
    |> hh .d (x 8) s32 0x8771f681
    |> hh .c (x 11) s33 0x6d9d6122
    |> hh .b (x 14) s34 0xfde5380c
    |> hh .a (x 1) s31 0xa4beea44
    |> hh .d (x 4) s32 0x4bdecfa9
    |> hh .c (x 7) s33 0xf6bb4b60
    |> hh .b (x 10) s34 0xbebfbc70
    |> hh .a (x 13) s31 0x289b7ec6
    |> hh .d (x 0) s32 0xeaa127fa
    |> hh .c (x 3) s33 0xd4ef3085
    |> hh .b (x 6) s34 0x4881d05
    |> hh .a (x 9) s31 0xd9d4d039
    |> hh .d (x 12) s32 0xe6db99e5
    |> hh .c (x 15) s33 0x1fa27cf8
    |> hh .b (x 2) s34 0xc4ac5665

def round4 (x : Nat → UInt32) (w : Words) : Words :=
  w
    |> ii .a (x 0) s41 0xf4292244
    |> ii .d (x 7) s42 0x432aff97
    |> ii .c (x 14) s43 0xab9423a7
    |> ii .b (x 5) s44 0xfc93a039
    |> ii .a (x 12) s41 0x655b59c3
    |> ii .d (x 3) s42 0x8f0ccc92
    |> ii .c (x 10) s43 0xffeff47d
    |> ii .b (x 1) s44 0x85845dd1
    |> ii .a (x 8) s41 0x6fa87e4f
    |> ii .d (x 15) s42 0xfe2ce6e0
    |> ii .c (x 6) s43 0xa3014314
    |> ii .b (x 13) s44 0x4e0811a1
    |> ii .a (x 4) s41 0xf7537e82
    |> ii .d (x 11) s42 0xbd3af235
    |> ii .c (x 2) s43 0x2ad7d2bb
    |> ii .b (x 9) s44 0xeb86d391

/-- `MD5Transform`. -/
def md5Transform (state : Words) (block : List UInt8) : Words :=
  let w := round4 (decode block) (round3 (decode block) (round2 (decode block) (round1 (decode block) state)))
  { a := state.a + w.a, b := state.b + w.b, c := state.c + w.c, d := state.d + w.d }

/-! ## Contexts -/

/-- `MD5_CTX`. -/
structure Context where
  state : Words
  count0 : UInt32
  count1 : UInt32
  buffer : List UInt8
  deriving DecidableEq

/-- `MD5Init`: the buffer stays as it is. -/
def md5Init (context : Context) : Context :=
  { context with
    count0 := 0
    count1 := 0
    state := { a := 0x67452301, b := 0xefcdab89, c := 0x98badcfe, d := 0x10325476 } }

/-- `memcpy` into the buffer of 64 bytes, at `index`. -/
def copyTo (buffer : List UInt8) (index : Nat) (bytes : List UInt8) : Except Fault (List UInt8) :=
  if index + bytes.length ≤ 64 then .ok (buffer.take index ++ bytes ++ buffer.drop (index + bytes.length))
  else .error .buffer

/-- `&input[i]`, `n` bytes of it. -/
def bytesAt (input : List UInt8) (i n : Nat) : Except Fault (List UInt8) :=
  if i + n ≤ input.length then .ok ((input.drop i).take n) else .error .buffer

/-- The number of bytes in the buffer. -/
def Context.index (context : Context) : Nat := ((context.count0 >>> 3) &&& 0x3F).toNat

/-- The number of bits, `inputLen` bytes later. -/
def Context.countBits (context : Context) (inputLen : UInt32) : Context :=
  let count0 := context.count0 + (inputLen <<< 3)
  let count1 := if count0 < inputLen <<< 3 then context.count1 + 1 else context.count1
  { context with count0, count1 := count1 + (inputLen >>> 29) }

@[simp] theorem Context.countBits_state (context : Context) (inputLen : UInt32) :
    (context.countBits inputLen).state = context.state := rfl

@[simp] theorem Context.countBits_buffer (context : Context) (inputLen : UInt32) :
    (context.countBits inputLen).buffer = context.buffer := rfl

/-- The loop over full blocks: the state, and where it ends. -/
def updateLoop (input : List UInt8) (inputLen : UInt32) :
    Nat → UInt32 → Words → Except Fault (Words × UInt32)
  | 0, _, _ => .error .outOfFuel
  | fuel + 1, i, state =>
    if i + 63 < inputLen then do
      let block ← bytesAt input i.toNat 64
      updateLoop input inputLen fuel (i + 64) (md5Transform state block)
    else .ok (state, i)

/-- `MD5Update`, its loop with `fuel`. -/
def md5Update (fuel : Nat) (context : Context) (input : List UInt8) (inputLen : UInt32) :
    Except Fault Context := do
  let index := context.index
  let context := context.countBits inputLen
  let partLen := 64 - index
  if inputLen.toNat ≥ partLen then
    let head ← bytesAt input 0 partLen
    let buffer ← copyTo context.buffer index head
    let state := md5Transform context.state buffer
    let (state, i) ← updateLoop input inputLen fuel (UInt32.ofNat partLen) state
    let tail ← bytesAt input i.toNat (inputLen - i).toNat
    let buffer ← copyTo buffer 0 tail
    return { context with state, buffer }
  else
    let tail ← bytesAt input 0 inputLen.toNat
    let buffer ← copyTo context.buffer index tail
    return { context with buffer }

def padding : List UInt8 := 0x80 :: List.replicate 63 0

def Words.list (w : Words) : List UInt32 := [w.a, w.b, w.c, w.d]

/-- `sizeof (*context)` zeros. -/
def Context.zero : Context :=
  { state := { a := 0, b := 0, c := 0, d := 0 }, count0 := 0, count1 := 0, buffer := List.replicate 64 0 }

/-- `MD5Final`: the digest, and the context after it. -/
def md5Final (fuel : Nat) (context : Context) : Except Fault (List UInt8 × Context) := do
  let bits := encode [context.count0, context.count1]
  let padLen := if context.index < 56 then 56 - context.index else 120 - context.index
  let context ← md5Update fuel context padding (UInt32.ofNat padLen)
  let context ← md5Update fuel context bits 8
  return (encode context.state.list, Context.zero)

/-! ## What it computes -/

/-- The constants of the steps. -/
def sines : List UInt32 :=
  [0xd76aa478, 0xe8c7b756, 0x242070db, 0xc1bdceee, 0xf57c0faf, 0x4787c62a, 0xa8304613, 0xfd469501,
    0x698098d8, 0x8b44f7af, 0xffff5bb1, 0x895cd7be, 0x6b901122, 0xfd987193, 0xa679438e, 0x49b40821,
    0xf61e2562, 0xc040b340, 0x265e5a51, 0xe9b6c7aa, 0xd62f105d, 0x2441453, 0xd8a1e681, 0xe7d3fbc8,
    0x21e1cde6, 0xc33707d6, 0xf4d50d87, 0x455a14ed, 0xa9e3e905, 0xfcefa3f8, 0x676f02d9, 0x8d2a4c8a,
    0xfffa3942, 0x8771f681, 0x6d9d6122, 0xfde5380c, 0xa4beea44, 0x4bdecfa9, 0xf6bb4b60, 0xbebfbc70,
    0x289b7ec6, 0xeaa127fa, 0xd4ef3085, 0x4881d05, 0xd9d4d039, 0xe6db99e5, 0x1fa27cf8, 0xc4ac5665,
    0xf4292244, 0x432aff97, 0xab9423a7, 0xfc93a039, 0x655b59c3, 0x8f0ccc92, 0xffeff47d, 0x85845dd1,
    0x6fa87e4f, 0xfe2ce6e0, 0xa3014314, 0x4e0811a1, 0xf7537e82, 0xbd3af235, 0x2ad7d2bb, 0xeb86d391]

def stepFn (i : Nat) : UInt32 → UInt32 → UInt32 → UInt32 :=
  if i < 16 then fnF else if i < 32 then fnG else if i < 48 then fnH else fnI

def stepWord (i : Nat) : Nat :=
  if i < 16 then i else if i < 32 then (5 * i + 1) % 16 else if i < 48 then (3 * i + 5) % 16 else 7 * i % 16

def shifts : List (List UInt32) := [[7, 12, 17, 22], [5, 9, 14, 20], [4, 11, 16, 23], [6, 10, 15, 21]]

def stepShift (i : Nat) : UInt32 := (shifts.getD (i / 16) []).getD (i % 4) 0

/-- Step `i`, after which the words change places. -/
def turn (x : Nat → UInt32) (w : Words) (i : Nat) : Words where
  a := w.d
  b := rotateLeft (w.a + (stepFn i w.b w.c w.d + x (stepWord i) + sines.getD i 0)) (stepShift i) + w.b
  c := w.b
  d := w.c

def compress (state : Words) (block : List UInt8) : Words :=
  let w := (List.range 64).foldl (turn (decode block)) state
  { a := state.a + w.a, b := state.b + w.b, c := state.c + w.c, d := state.d + w.d }

/-- After four steps the words are back in their places. -/
theorem foldl_four (x : Nat → UInt32) (w : Words) (i : Nat) :
    (List.range' i 4).foldl (turn x) w =
      (w
        |> step (stepFn i) .a (x (stepWord i)) (stepShift i) (sines.getD i 0)
        |> step (stepFn (i + 1)) .d (x (stepWord (i + 1))) (stepShift (i + 1)) (sines.getD (i + 1) 0)
        |> step (stepFn (i + 2)) .c (x (stepWord (i + 2))) (stepShift (i + 2)) (sines.getD (i + 2) 0)
        |> step (stepFn (i + 3)) .b (x (stepWord (i + 3))) (stepShift (i + 3)) (sines.getD (i + 3) 0)) := rfl

/-- Sixteen steps, by fours. -/
theorem turn_sixteen (x : Nat → UInt32) (w : Words) (i : Nat) :
    (List.range' i 16).foldl (turn x) w =
      (List.range' (i + 12) 4).foldl (turn x) ((List.range' (i + 8) 4).foldl (turn x)
        ((List.range' (i + 4) 4).foldl (turn x) ((List.range' i 4).foldl (turn x) w))) := by
  have hfours : List.range' i 16 =
      List.range' i 4 ++ List.range' (i + 4) 4 ++ List.range' (i + 8) 4 ++ List.range' (i + 12) 4 := rfl
  rw [hfours, List.foldl_append, List.foldl_append, List.foldl_append]

theorem round1_eq (x : Nat → UInt32) (w : Words) : round1 x w = (List.range' 0 16).foldl (turn x) w := by
  rw [turn_sixteen, foldl_four, foldl_four, foldl_four, foldl_four]
  rfl

theorem round2_eq (x : Nat → UInt32) (w : Words) : round2 x w = (List.range' 16 16).foldl (turn x) w := by
  rw [turn_sixteen, foldl_four, foldl_four, foldl_four, foldl_four]
  rfl

theorem round3_eq (x : Nat → UInt32) (w : Words) : round3 x w = (List.range' 32 16).foldl (turn x) w := by
  rw [turn_sixteen, foldl_four, foldl_four, foldl_four, foldl_four]
  rfl

theorem round4_eq (x : Nat → UInt32) (w : Words) : round4 x w = (List.range' 48 16).foldl (turn x) w := by
  rw [turn_sixteen, foldl_four, foldl_four, foldl_four, foldl_four]
  rfl

/-- The unrolled steps are those of the numbers `0` to `63`. -/
theorem md5Transform_eq (state : Words) (block : List UInt8) :
    md5Transform state block = compress state block := by
  have hsteps : List.range 64 =
      List.range' 0 16 ++ List.range' 16 16 ++ List.range' 32 16 ++ List.range' 48 16 := rfl
  simp only [md5Transform, compress, hsteps, List.foldl_append, ← round1_eq, ← round2_eq, ← round3_eq,
    ← round4_eq]

end UdcFirmware.Bsmp.Md5Code
