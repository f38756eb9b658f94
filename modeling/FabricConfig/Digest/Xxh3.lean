/-!
# The hash XXH3 with 128 bits

The variant without a seed and with the default secret. An input of up to 240 bytes is mixed
through products of 64-bit words; a longer one is taken in stripes of 64 bytes by eight
accumulators, which are scrambled after each block and merged at the end.
-/

namespace FabricConfig.Xxh3

/-- The default secret. -/
def secret : ByteArray := ByteArray.mk #[
  0xb8, 0xfe, 0x6c, 0x39, 0x23, 0xa4, 0x4b, 0xbe, 0x7c, 0x01, 0x81, 0x2c, 0xf7, 0x21, 0xad, 0x1c,
  0xde, 0xd4, 0x6d, 0xe9, 0x83, 0x90, 0x97, 0xdb, 0x72, 0x40, 0xa4, 0xa4, 0xb7, 0xb3, 0x67, 0x1f,
  0xcb, 0x79, 0xe6, 0x4e, 0xcc, 0xc0, 0xe5, 0x78, 0x82, 0x5a, 0xd0, 0x7d, 0xcc, 0xff, 0x72, 0x21,
  0xb8, 0x08, 0x46, 0x74, 0xf7, 0x43, 0x24, 0x8e, 0xe0, 0x35, 0x90, 0xe6, 0x81, 0x3a, 0x26, 0x4c,
  0x3c, 0x28, 0x52, 0xbb, 0x91, 0xc3, 0x00, 0xcb, 0x88, 0xd0, 0x65, 0x8b, 0x1b, 0x53, 0x2e, 0xa3,
  0x71, 0x64, 0x48, 0x97, 0xa2, 0x0d, 0xf9, 0x4e, 0x38, 0x19, 0xef, 0x46, 0xa9, 0xde, 0xac, 0xd8,
  0xa8, 0xfa, 0x76, 0x3f, 0xe3, 0x9c, 0x34, 0x3f, 0xf9, 0xdc, 0xbb, 0xc7, 0xc7, 0x0b, 0x4f, 0x1d,
  0x8a, 0x51, 0xe0, 0x4b, 0xcd, 0xb4, 0x59, 0x31, 0xc8, 0x9f, 0x7e, 0xc9, 0xd9, 0x78, 0x73, 0x64,
  0xea, 0xc5, 0xac, 0x83, 0x34, 0xd3, 0xeb, 0xc3, 0xc5, 0x81, 0xa0, 0xff, 0xfa, 0x13, 0x63, 0xeb,
  0x17, 0x0d, 0xdd, 0x51, 0xb7, 0xf0, 0xda, 0x49, 0xd3, 0x16, 0x55, 0x26, 0x29, 0xd4, 0x68, 0x9e,
  0x2b, 0x16, 0xbe, 0x58, 0x7d, 0x47, 0xa1, 0xfc, 0x8f, 0xf8, 0xb8, 0xd1, 0x7a, 0xd0, 0x31, 0xce,
  0x45, 0xcb, 0x3a, 0x8f, 0x95, 0x16, 0x04, 0x28, 0xaf, 0xd7, 0xfb, 0xca, 0xbb, 0x4b, 0x40, 0x7e]

/-! ### Primes -/

def prime32a : UInt64 := 0x9E3779B1
def prime32b : UInt64 := 0x85EBCA77
def prime32c : UInt64 := 0xC2B2AE3D
def prime64a : UInt64 := 0x9E3779B185EBCA87
def prime64b : UInt64 := 0xC2B2AE3D27D4EB4F
def prime64c : UInt64 := 0x165667B19E3779F9
def prime64d : UInt64 := 0x85EBCA77C2B2AE63
def prime64e : UInt64 := 0x27D4EB2F165667C5
def primeMixA : UInt64 := 0x165667919E3779F9
def primeMixB : UInt64 := 0x9FB21C651E98DF25

/-! ### Words -/

/-- A byte, or zero past the end. -/
def byte (bytes : ByteArray) (offset : Nat) : UInt64 :=
  if inside : offset < bytes.size then bytes[offset].toUInt64 else 0

/-- Four bytes, the least significant first. -/
def read32 (bytes : ByteArray) (offset : Nat) : UInt64 :=
  byte bytes offset ||| byte bytes (offset + 1) <<< 8 ||| byte bytes (offset + 2) <<< 16 |||
    byte bytes (offset + 3) <<< 24

/-- Eight bytes, the least significant first. -/
def read64 (bytes : ByteArray) (offset : Nat) : UInt64 :=
  read32 bytes offset ||| read32 bytes (offset + 4) <<< 32

/-- The eight bytes of the secret at a place. -/
def key (offset : Nat) : UInt64 := read64 secret offset

/-- The lower half of a word. -/
def low32 (x : UInt64) : UInt64 := x &&& 0xFFFFFFFF

/-- The bytes of the lower half in reverse order. -/
def swap32 (x : UInt64) : UInt64 :=
  (x &&& 0xFF) <<< 24 ||| (x &&& 0xFF00) <<< 8 ||| (x &&& 0xFF0000) >>> 8 |||
    (x &&& 0xFF000000) >>> 24

/-- The bytes of a word in reverse order. -/
def swap64 (x : UInt64) : UInt64 := swap32 (low32 x) <<< 32 ||| swap32 (x >>> 32)

/-- The lower half turned left. -/
def rotate32 (x : UInt64) (count : UInt64) : UInt64 :=
  low32 (x <<< count) ||| low32 x >>> (32 - count)

/-- A number of 128 bits. -/
structure Wide where
  low : UInt64
  high : UInt64
deriving DecidableEq, Repr

/-- The full product of two words. -/
def multiply (x y : UInt64) : Wide :=
  let product := x.toNat * y.toNat
  ⟨UInt64.ofNat product, UInt64.ofNat (product >>> 64)⟩

/-- The two halves of the full product, folded into one word. -/
def fold (x y : UInt64) : UInt64 :=
  let product := multiply x y
  product.low ^^^ product.high

/-- The final mixing of a word of XXH3. -/
def avalanche (x : UInt64) : UInt64 :=
  let x := (x ^^^ x >>> 37) * primeMixA
  x ^^^ x >>> 32

/-- The final mixing of a word of XXH64. -/
def avalanche64 (x : UInt64) : UInt64 :=
  let x := (x ^^^ x >>> 33) * prime64b
  let x := (x ^^^ x >>> 29) * prime64c
  x ^^^ x >>> 32

/-! ### Inputs of up to sixteen bytes -/

/-- An input of one to three bytes. -/
def hash1to3 (input : ByteArray) : Wide :=
  let length := UInt64.ofNat input.size
  let first := byte input 0
  let middle := byte input (input.size / 2)
  let last := byte input (input.size - 1)
  let low := first <<< 16 ||| middle <<< 24 ||| last ||| length <<< 8
  let high := rotate32 (swap32 low) 13
  ⟨avalanche64 (low ^^^ (read32 secret 0 ^^^ read32 secret 4)),
    avalanche64 (high ^^^ (read32 secret 8 ^^^ read32 secret 12))⟩

/-- An input of four to eight bytes. -/
def hash4to8 (input : ByteArray) : Wide :=
  let length := UInt64.ofNat input.size
  let word := read32 input 0 + read32 input (input.size - 4) <<< 32
  let product := multiply (word ^^^ (key 16 ^^^ key 24)) (prime64a + length <<< 2)
  let high := product.high + product.low <<< 1
  let low := product.low ^^^ high >>> 3
  let low := (low ^^^ low >>> 35) * primeMixB
  ⟨low ^^^ low >>> 28, avalanche high⟩

/-- An input of nine to sixteen bytes. -/
def hash9to16 (input : ByteArray) : Wide :=
  let length := UInt64.ofNat input.size
  let first := read64 input 0
  let last := read64 input (input.size - 8)
  let product := multiply (first ^^^ last ^^^ (key 32 ^^^ key 40)) prime64a
  let low := product.low + (length - 1) <<< 54
  let last := last ^^^ (key 48 ^^^ key 56)
  let high := product.high + last + low32 last * (prime32b - 1)
  let low := low ^^^ swap64 high
  let mixed := multiply low prime64b
  ⟨avalanche mixed.low, avalanche (mixed.high + high * prime64b)⟩

/-! ### Inputs of up to 240 bytes -/

/-- Mixes the sixteen bytes at a place with the secret at another. -/
def mix16 (input : ByteArray) (offset place : Nat) : UInt64 :=
  fold (read64 input offset ^^^ key place) (read64 input (offset + 8) ^^^ key (place + 8))

/-- Mixes two times sixteen bytes into a pair of accumulators. -/
def mix32 (input : ByteArray) (sums : Wide) (first second place : Nat) : Wide :=
  let low := sums.low + mix16 input first place
  let high := sums.high + mix16 input second (place + 16)
  ⟨low ^^^ (read64 input second + read64 input (second + 8)),
    high ^^^ (read64 input first + read64 input (first + 8))⟩

/-- The hash from a pair of accumulators. -/
def finish (sums : Wide) (length : Nat) : Wide :=
  let low := avalanche (sums.low + sums.high)
  let high := sums.low * prime64a + sums.high * prime64d + UInt64.ofNat length * prime64b
  ⟨low, 0 - avalanche high⟩

/-- An input of 17 to 128 bytes, taken from both ends inwards. -/
def hash17to128 (input : ByteArray) : Wide :=
  let size := input.size
  let start : Wide := ⟨UInt64.ofNat size * prime64a, 0⟩
  let rounds := (size - 1) / 32
  let sums := (List.range (rounds + 1)).reverse.foldl
    (fun sums round => mix32 input sums (16 * round) (size - 16 * (round + 1)) (32 * round)) start
  finish sums size

/-- An input of 129 to 240 bytes. -/
def hash129to240 (input : ByteArray) : Wide :=
  let size := input.size
  let start : Wide := ⟨UInt64.ofNat size * prime64a, 0⟩
  let sums := (List.range 4).foldl
    (fun sums round => mix32 input sums (32 * round) (32 * round + 16) (32 * round)) start
  let sums : Wide := ⟨avalanche sums.low, avalanche sums.high⟩
  let sums := (List.range (size / 32 - 4)).foldl
    (fun sums round =>
      mix32 input sums (32 * round + 128) (32 * round + 144) (3 + 32 * round)) sums
  finish (mix32 input sums (size - 16) (size - 32) (136 - 17 - 16)) size

/-! ### Longer inputs -/

/-- The accumulators before the first stripe. -/
def startSums : Array UInt64 :=
  #[prime32c, prime64a, prime64b, prime64c, prime64d, prime32b, prime64e, prime32a]

/-- An accumulator, or zero if there is no such. -/
def sum (sums : Array UInt64) (lane : Nat) : UInt64 := sums.getD lane 0

/-- Takes the 64 bytes of a stripe, with the secret at a place. -/
def accumulate (input : ByteArray) (offset place : Nat) (sums : Array UInt64) : Array UInt64 :=
  (Array.range 8).map fun lane =>
    let value := read64 input (offset + 8 * lane)
    let keyed := value ^^^ key (place + 8 * lane)
    let neighbour := read64 input (offset + 8 * (if lane % 2 = 0 then lane + 1 else lane - 1))
    sum sums lane + neighbour + low32 keyed * (keyed >>> 32)

/-- Mixes the accumulators between two blocks. -/
def scramble (sums : Array UInt64) : Array UInt64 :=
  (Array.range 8).map fun lane =>
    let value := sum sums lane
    (value ^^^ value >>> 47 ^^^ key (128 + 8 * lane)) * prime32a

/-- The number of stripes in a block. -/
def stripesPerBlock : Nat := 16

/-- Takes the first stripes of the block at a place. -/
def accumulateStripes (input : ByteArray) (offset stripes : Nat) (sums : Array UInt64) :
    Array UInt64 :=
  (List.range stripes).foldl
    (fun sums stripe => accumulate input (offset + 64 * stripe) (8 * stripe) sums) sums

/-- Merges the accumulators with the secret at a place. -/
def merge (sums : Array UInt64) (place : Nat) (start : UInt64) : UInt64 :=
  avalanche ((List.range 4).foldl
    (fun total pair =>
      total + fold (sum sums (2 * pair) ^^^ key (place + 16 * pair))
        (sum sums (2 * pair + 1) ^^^ key (place + 16 * pair + 8)))
    start)

/-- An input of more than 240 bytes. -/
def hashLong (input : ByteArray) : Wide :=
  let size := input.size
  let blockSize := 64 * stripesPerBlock
  let blocks := (size - 1) / blockSize
  let sums := (List.range blocks).foldl
    (fun sums block => scramble (accumulateStripes input (blockSize * block) stripesPerBlock sums))
    startSums
  let rest := (size - 1 - blockSize * blocks) / 64
  let sums := accumulateStripes input (blockSize * blocks) rest sums
  let sums := accumulate input (size - 64) (192 - 64 - 7) sums
  let length := UInt64.ofNat size
  ⟨merge sums 11 (length * prime64a), merge sums (192 - 64 - 11) (~~~(length * prime64b))⟩

/-- The hash of some bytes. -/
def hash (input : ByteArray) : Wide :=
  if input.size = 0 then
    ⟨avalanche64 (key 64 ^^^ key 72), avalanche64 (key 80 ^^^ key 88)⟩
  else if input.size ≤ 3 then hash1to3 input
  else if input.size ≤ 8 then hash4to8 input
  else if input.size ≤ 16 then hash9to16 input
  else if input.size ≤ 128 then hash17to128 input
  else if input.size ≤ 240 then hash129to240 input
  else hashLong input

end FabricConfig.Xxh3
