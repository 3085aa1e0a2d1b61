/-!
# XXH3 with 128 bits

The hash of a byte string under seed zero. Short inputs are mixed by a rule for their length; inputs
of more than 240 bytes go through four pairs of accumulators, one stripe of 64 bytes at a time, and
the accumulators are scrambled after each block of sixteen stripes. All arithmetic is modulo 2 ^ 64.
-/

namespace ShaderWeave.Xxh3

/-- Two words of 64 bits. -/
structure Pair where
  low : UInt64
  high : UInt64
  deriving DecidableEq

/-! ## Constants -/

def prime32A : UInt64 := 0x9E3779B1
def prime32B : UInt64 := 0x85EBCA77
def prime32C : UInt64 := 0xC2B2AE3D
def primeA : UInt64 := 0x9E3779B185EBCA87
def primeB : UInt64 := 0xC2B2AE3D27D4EB4F
def primeC : UInt64 := 0x165667B19E3779F9
def primeD : UInt64 := 0x85EBCA77C2B2AE63
def primeE : UInt64 := 0x27D4EB2F165667C5
def mixA : UInt64 := 0x165667919E3779F9
def mixB : UInt64 := 0x9FB21C651E98DF25

/-- The 192 bytes that inputs are mixed with. -/
def secret : ByteArray := ⟨#[
  0xb8, 0xfe, 0x6c, 0x39, 0x23, 0xa4, 0x4b, 0xbe, 0x7c, 0x01, 0x81, 0x2c,
  0xf7, 0x21, 0xad, 0x1c, 0xde, 0xd4, 0x6d, 0xe9, 0x83, 0x90, 0x97, 0xdb,
  0x72, 0x40, 0xa4, 0xa4, 0xb7, 0xb3, 0x67, 0x1f, 0xcb, 0x79, 0xe6, 0x4e,
  0xcc, 0xc0, 0xe5, 0x78, 0x82, 0x5a, 0xd0, 0x7d, 0xcc, 0xff, 0x72, 0x21,
  0xb8, 0x08, 0x46, 0x74, 0xf7, 0x43, 0x24, 0x8e, 0xe0, 0x35, 0x90, 0xe6,
  0x81, 0x3a, 0x26, 0x4c, 0x3c, 0x28, 0x52, 0xbb, 0x91, 0xc3, 0x00, 0xcb,
  0x88, 0xd0, 0x65, 0x8b, 0x1b, 0x53, 0x2e, 0xa3, 0x71, 0x64, 0x48, 0x97,
  0xa2, 0x0d, 0xf9, 0x4e, 0x38, 0x19, 0xef, 0x46, 0xa9, 0xde, 0xac, 0xd8,
  0xa8, 0xfa, 0x76, 0x3f, 0xe3, 0x9c, 0x34, 0x3f, 0xf9, 0xdc, 0xbb, 0xc7,
  0xc7, 0x0b, 0x4f, 0x1d, 0x8a, 0x51, 0xe0, 0x4b, 0xcd, 0xb4, 0x59, 0x31,
  0xc8, 0x9f, 0x7e, 0xc9, 0xd9, 0x78, 0x73, 0x64, 0xea, 0xc5, 0xac, 0x83,
  0x34, 0xd3, 0xeb, 0xc3, 0xc5, 0x81, 0xa0, 0xff, 0xfa, 0x13, 0x63, 0xeb,
  0x17, 0x0d, 0xdd, 0x51, 0xb7, 0xf0, 0xda, 0x49, 0xd3, 0x16, 0x55, 0x26,
  0x29, 0xd4, 0x68, 0x9e, 0x2b, 0x16, 0xbe, 0x58, 0x7d, 0x47, 0xa1, 0xfc,
  0x8f, 0xf8, 0xb8, 0xd1, 0x7a, 0xd0, 0x31, 0xce, 0x45, 0xcb, 0x3a, 0x8f,
  0x95, 0x16, 0x04, 0x28, 0xaf, 0xd7, 0xfb, 0xca, 0xbb, 0x4b, 0x40, 0x7e]⟩

/-! ## Words -/

def byteAt (bytes : ByteArray) (i : Nat) : UInt64 :=
  if h : i < bytes.size then bytes[i].toUInt64 else 0

/-- The word whose low byte is at an index, with so many bytes. -/
def word (count : Nat) (bytes : ByteArray) (i : Nat) : UInt64 :=
  (List.range count).foldr (fun k acc => (acc <<< 8) ||| byteAt bytes (i + k)) 0

def word32 : ByteArray → Nat → UInt64 := word 4

def word64 : ByteArray → Nat → UInt64 := word 8

/-- The low half of a word. -/
def lowHalf (x : UInt64) : UInt64 := x &&& 0xFFFFFFFF

/-- The bytes of the low `count` bytes of a word in the other order. -/
def swapBytes (count : Nat) (x : UInt64) : UInt64 :=
  (List.range count).foldl
    (fun acc k => (acc <<< 8) ||| ((x >>> (8 * k).toUInt64) &&& 0xFF)) 0

def xorShift (x : UInt64) (n : UInt64) : UInt64 := x ^^^ (x >>> n)

/-- The full product of two words. -/
def multiply (x y : UInt64) : Pair :=
  let p := x.toNat * y.toNat
  ⟨p.toUInt64, (p >>> 64).toUInt64⟩

/-- The two halves of the full product, put together by exclusive or. -/
def foldedProduct (x y : UInt64) : UInt64 :=
  let p := multiply x y
  p.low ^^^ p.high

/-- The final mix of long inputs. -/
def avalanche (x : UInt64) : UInt64 := xorShift (xorShift x 37 * mixA) 32

/-- The final mix of the shortest inputs. -/
def shortAvalanche (x : UInt64) : UInt64 :=
  xorShift (xorShift (xorShift x 33 * primeB) 29 * primeC) 32

/-- The exclusive or of two words of the secret. -/
def secretPair (i j : Nat) : UInt64 := word64 secret i ^^^ word64 secret j

/-! ## Up to sixteen bytes -/

def ofEmpty : Pair :=
  ⟨shortAvalanche (secretPair 64 72), shortAvalanche (secretPair 80 88)⟩

def ofUpTo3 (bytes : ByteArray) : Pair :=
  let n := bytes.size
  let first := byteAt bytes 0
  let middle := byteAt bytes (n / 2)
  let last := byteAt bytes (n - 1)
  let low := (first <<< 16) ||| (middle <<< 24) ||| last ||| (n.toUInt64 <<< 8)
  let swapped := swapBytes 4 low
  let high := lowHalf (swapped <<< 13) ||| (swapped >>> 19)
  ⟨shortAvalanche (low ^^^ (word32 secret 0 ^^^ word32 secret 4)),
    shortAvalanche (high ^^^ (word32 secret 8 ^^^ word32 secret 12))⟩

def ofUpTo8 (bytes : ByteArray) : Pair :=
  let n := bytes.size
  let input := word32 bytes 0 + (word32 bytes (n - 4) <<< 32)
  let p := multiply (input ^^^ secretPair 16 24) (primeA + (n.toUInt64 <<< 2))
  let high := p.high + (p.low <<< 1)
  let low := p.low ^^^ (high >>> 3)
  ⟨xorShift (xorShift low 35 * mixB) 28, avalanche high⟩

def ofUpTo16 (bytes : ByteArray) : Pair :=
  let n := bytes.size
  let first := word64 bytes 0
  let last := word64 bytes (n - 8)
  let p := multiply (first ^^^ last ^^^ secretPair 32 40) primeA
  let low := p.low + ((n - 1).toUInt64 <<< 54)
  let last := last ^^^ secretPair 48 56
  let high := p.high + last + lowHalf last * (prime32B - 1)
  let q := multiply (low ^^^ swapBytes 8 high) primeB
  ⟨avalanche q.low, avalanche (q.high + high * primeB)⟩

/-! ## Up to 240 bytes -/

/-- Mixes sixteen bytes with sixteen bytes of the secret. -/
def mix16 (bytes : ByteArray) (i secretAt : Nat) (seed : UInt64) : UInt64 :=
  foldedProduct (word64 bytes i ^^^ (word64 secret secretAt + seed))
    (word64 bytes (i + 8) ^^^ (word64 secret (secretAt + 8) - seed))

/-- Mixes twice sixteen bytes, from two places, into a pair. -/
def mix32 (bytes : ByteArray) (acc : Pair) (i j secretAt : Nat) (seed : UInt64) : Pair :=
  ⟨(acc.low + mix16 bytes i secretAt seed) ^^^ (word64 bytes j + word64 bytes (j + 8)),
    (acc.high + mix16 bytes j (secretAt + 16) seed) ^^^ (word64 bytes i + word64 bytes (i + 8))⟩

def finishMiddle (n : Nat) (acc : Pair) : Pair :=
  ⟨avalanche (acc.low + acc.high),
    0 - avalanche (acc.low * primeA + acc.high * primeD + n.toUInt64 * primeB)⟩

/-- Mixes from both ends of the input to its middle, the innermost pieces first. -/
def ofUpTo128 (bytes : ByteArray) : Pair :=
  let n := bytes.size
  let rounds := (n - 1) / 32 + 1
  let step (acc : Pair) (k : Nat) : Pair :=
    mix32 bytes acc (16 * k) (n - 16 * (k + 1)) (32 * k) 0
  finishMiddle n ((List.range rounds).reverse.foldl step ⟨n.toUInt64 * primeA, 0⟩)

def ofUpTo240 (bytes : ByteArray) : Pair :=
  let n := bytes.size
  let early (acc : Pair) (k : Nat) : Pair :=
    mix32 bytes acc (32 * k) (32 * k + 16) (32 * k) 0
  let late (acc : Pair) (k : Nat) : Pair :=
    mix32 bytes acc (128 + 32 * k) (144 + 32 * k) (3 + 32 * k) 0
  let acc := (List.range 4).foldl early ⟨n.toUInt64 * primeA, 0⟩
  let acc := (List.range (n / 32 - 4)).foldl late ⟨avalanche acc.low, avalanche acc.high⟩
  finishMiddle n (mix32 bytes acc (n - 16) (n - 32) 103 0)

/-! ## Longer inputs -/

/-- Adds sixteen bytes to one of the four pairs of accumulators. -/
def addLane (bytes : ByteArray) (i secretAt : Nat) (acc : Pair) : Pair :=
  let x := word64 bytes i
  let y := word64 bytes (i + 8)
  let u := x ^^^ word64 secret secretAt
  let v := y ^^^ word64 secret (secretAt + 8)
  ⟨acc.low + y + lowHalf u * (u >>> 32), acc.high + x + lowHalf v * (v >>> 32)⟩

/-- Adds a stripe of 64 bytes to the accumulators. -/
def addStripe (bytes : ByteArray) (i secretAt : Nat) (acc : List Pair) : List Pair :=
  acc.mapIdx fun lane p => addLane bytes (i + 16 * lane) (secretAt + 16 * lane) p

/-- Adds stripes that follow one another. -/
def addStripes (bytes : ByteArray) (i count : Nat) (acc : List Pair) : List Pair :=
  (List.range count).foldl (fun acc k => addStripe bytes (i + 64 * k) (8 * k) acc) acc

def scrambleWord (secretAt : Nat) (x : UInt64) : UInt64 :=
  (xorShift x 47 ^^^ word64 secret secretAt) * prime32A

/-- What happens to the accumulators after a block. -/
def scramble (acc : List Pair) : List Pair :=
  acc.mapIdx fun lane p =>
    ⟨scrambleWord (128 + 16 * lane) p.low, scrambleWord (136 + 16 * lane) p.high⟩

def addBlock (bytes : ByteArray) (acc : List Pair) (k : Nat) : List Pair :=
  scramble (addStripes bytes (1024 * k) 16 acc)

def initial : List Pair :=
  [⟨prime32C, primeA⟩, ⟨primeB, primeC⟩, ⟨primeD, prime32B⟩, ⟨primeE, prime32A⟩]

/-- Puts the accumulators together to one word. -/
def merge (acc : List Pair) (secretAt : Nat) (start : UInt64) : UInt64 :=
  let parts := acc.mapIdx fun lane p =>
    foldedProduct (p.low ^^^ word64 secret (secretAt + 16 * lane))
      (p.high ^^^ word64 secret (secretAt + 16 * lane + 8))
  avalanche (parts.foldl (· + ·) start)

def ofLong (bytes : ByteArray) : Pair :=
  let n := bytes.size
  let blocks := (n - 1) / 1024
  let acc := (List.range blocks).foldl (addBlock bytes) initial
  let acc := addStripes bytes (1024 * blocks) ((n - 1 - 1024 * blocks) / 64) acc
  let acc := addStripe bytes (n - 64) 121 acc
  ⟨merge acc 11 (n.toUInt64 * primeA), merge acc 117 (~~~(n.toUInt64 * primeB))⟩

def hash (bytes : ByteArray) : Pair :=
  let n := bytes.size
  if n = 0 then ofEmpty
  else if n ≤ 3 then ofUpTo3 bytes
  else if n ≤ 8 then ofUpTo8 bytes
  else if n ≤ 16 then ofUpTo16 bytes
  else if n ≤ 128 then ofUpTo128 bytes
  else if n ≤ 240 then ofUpTo240 bytes
  else ofLong bytes

end ShaderWeave.Xxh3
