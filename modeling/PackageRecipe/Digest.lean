/-!
The MD5 digest of a sequence of bytes, which package indexes use to name icon
files.
-/

namespace PackageRecipe

namespace Digest

/-- The constants of the 64 steps: the whole parts of `2 ^ 32 * |sin (step + 1)|`. -/
def constants : List UInt32 :=
   [0xd76aa478, 0xe8c7b756, 0x242070db, 0xc1bdceee, 0xf57c0faf, 0x4787c62a,
    0xa8304613, 0xfd469501, 0x698098d8, 0x8b44f7af, 0xffff5bb1, 0x895cd7be,
    0x6b901122, 0xfd987193, 0xa679438e, 0x49b40821, 0xf61e2562, 0xc040b340,
    0x265e5a51, 0xe9b6c7aa, 0xd62f105d, 0x02441453, 0xd8a1e681, 0xe7d3fbc8,
    0x21e1cde6, 0xc33707d6, 0xf4d50d87, 0x455a14ed, 0xa9e3e905, 0xfcefa3f8,
    0x676f02d9, 0x8d2a4c8a, 0xfffa3942, 0x8771f681, 0x6d9d6122, 0xfde5380c,
    0xa4beea44, 0x4bdecfa9, 0xf6bb4b60, 0xbebfbc70, 0x289b7ec6, 0xeaa127fa,
    0xd4ef3085, 0x04881d05, 0xd9d4d039, 0xe6db99e5, 0x1fa27cf8, 0xc4ac5665,
    0xf4292244, 0x432aff97, 0xab9423a7, 0xfc93a039, 0x655b59c3, 0x8f0ccc92,
    0xffeff47d, 0x85845dd1, 0x6fa87e4f, 0xfe2ce6e0, 0xa3014314, 0x4e0811a1,
    0xf7537e82, 0xbd3af235, 0x2ad7d2bb, 0xeb86d391]

/-- The rotations of the four steps that each round repeats four times. -/
def rotations : List (List UInt32) :=
  [[7, 12, 17, 22], [5, 9, 14, 20], [4, 11, 16, 23], [6, 10, 15, 21]]

structure State where
  a : UInt32
  b : UInt32
  c : UInt32
  d : UInt32
  deriving DecidableEq

def initial : State :=
  ⟨0x67452301, 0xefcdab89, 0x98badcfe, 0x10325476⟩

def rotateLeft (word count : UInt32) : UInt32 :=
  (word <<< count) ||| (word >>> (32 - count))

def mixing (state : State) (step : Nat) : UInt32 × Nat :=
  let ⟨_, b, c, d⟩ := state
  if step < 16 then ((b &&& c) ||| (~~~b &&& d), step)
  else if step < 32 then ((d &&& b) ||| (~~~d &&& c), (5 * step + 1) % 16)
  else if step < 48 then (b ^^^ c ^^^ d, (3 * step + 5) % 16)
  else (c ^^^ (b ||| ~~~d), (7 * step) % 16)

def step (words : List UInt32) (state : State) (constant : UInt32) (index : Nat) : State :=
  let (mixed, word) := mixing state index
  let rotation := (rotations.getD (index / 16) []).getD (index % 4) 0
  let sum := mixed + state.a + constant + words.getD word 0
  ⟨state.d, state.b + rotateLeft sum rotation, state.b, state.c⟩

def wordsOf : List UInt8 → List UInt32
  | first :: second :: third :: fourth :: rest =>
      (first.toUInt32 ||| (second.toUInt32 <<< 8) ||| (third.toUInt32 <<< 16) |||
        (fourth.toUInt32 <<< 24)) :: wordsOf rest
  | _ => []

def compress (state : State) (block : List UInt8) : State :=
  let words := wordsOf block
  let final := constants.zipIdx.foldl
    (fun state (constant, index) => step words state constant index) state
  ⟨state.a + final.a, state.b + final.b, state.c + final.c, state.d + final.d⟩

def littleEndian (value : Nat) : (count : Nat) → List UInt8
  | 0 => []
  | count + 1 => UInt8.ofNat value :: littleEndian (value / 256) count

/-- The bytes with the padding that makes their number a multiple of 64: a one
bit, zeros, and the length in bits. -/
def padded (bytes : List UInt8) : List UInt8 :=
  let zeros := (119 - bytes.length % 64) % 64
  bytes ++ 0x80 :: List.replicate zeros 0 ++ littleEndian (8 * bytes.length) 8

/-- Compresses block after block. The number of blocks bounds the recursion. -/
def compressAll (state : State) : (blocks : Nat) → List UInt8 → State
  | 0, _ => state
  | blocks + 1, bytes => compressAll (compress state (bytes.take 64)) blocks (bytes.drop 64)

def hexadecimalByte (byte : UInt8) : List Char :=
  [Nat.digitChar (byte.toNat / 16), Nat.digitChar (byte.toNat % 16)]

def md5 (bytes : List UInt8) : String :=
  let message := padded bytes
  let ⟨a, b, c, d⟩ := compressAll initial (message.length / 64) message
  let words := [a, b, c, d].flatMap fun word => littleEndian word.toNat 4
  String.ofList (words.flatMap hexadecimalByte)

example : md5 [] = "d41d8cd98f00b204e9800998ecf8427e" := by decide +kernel

end Digest

end PackageRecipe
