import CommandSpec.Number

/-!
# Digests

A digest folds blocks of a message into words. The message is closed by a bit, by zeros and by its
length. The constants of the SHA-2 family are the first bits behind the point of square and cube roots
of primes, and are computed as such.
-/

namespace CommandSpec

/-- How a message is made into a few bytes. -/
inductive Digest where
  | md5
  | sha1
  | sha224
  | sha256
  | sha384
  | sha512
  /-- A digest of so many bytes. -/
  | blake2b (size : Nat)
  deriving DecidableEq, Repr, Inhabited

namespace Digest

/-! ## Words and blocks -/

/-- The number that some bytes make, the first of them counting most. -/
def bigEndian (bytes : ByteArray) (start count : Nat) : Nat :=
  (List.range count).foldl (fun n k => 256 * n + (bytes.get! (start + k)).toNat) 0

/-- The number that some bytes make, the first of them counting least. -/
def littleEndian (bytes : ByteArray) (start count : Nat) : Nat :=
  (List.range count).foldr (fun k n => 256 * n + (bytes.get! (start + k)).toNat) 0

/-- A number as bytes, the first of them counting most. -/
def bigBytes (count n : Nat) : ByteArray :=
  ⟨((List.range count).reverse.map fun k => (n / 256 ^ k).toUInt8).toArray⟩

/-- A number as bytes, the first of them counting least. -/
def littleBytes (count n : Nat) : ByteArray :=
  ⟨((List.range count).map fun k => (n / 256 ^ k).toUInt8).toArray⟩

/-- A message closed so that it fills blocks, the last of which ends with the length. -/
def closed (block : Nat) (length : Nat → ByteArray) (message : ByteArray) : ByteArray :=
  let tail := length (8 * message.size)
  let used := (message.size + 1 + tail.size) % block
  let zeros := (block - used) % block
  (message.push 0x80) ++ ⟨Array.replicate zeros 0⟩ ++ tail

/-- Fold the blocks of a message, as words, into a state. -/
def foldBlocks {σ : Type} (block : Nat) (act : σ → (start : Nat) → σ) (s : σ) (message : ByteArray) : σ :=
  (List.range (message.size / block)).foldl (fun s k => act s (k * block)) s

/-! ## Constants -/

/-- The first primes. -/
def primes (count : Nat) : List Nat :=
  let isPrime (n : Nat) : Bool := (List.range n).all fun d => d < 2 || n % d ≠ 0
  ((List.range 420).filter fun n => 2 ≤ n && isPrime n).take count

/-- The greatest number below `bound` whose power is at most `n`, found bit by bit; `bound` is a power of
two with the exponent `bits`. -/
def rootBelow (power n : Nat) : (bits : Nat) → (soFar : Nat) → Nat
  | 0, r => r
  | bits + 1, r =>
    let next := r + 2 ^ bits
    rootBelow power n bits (if next ^ power ≤ n then next else r)

/-- The first bits behind the point of a root of a number. -/
def rootBits (power bits n : Nat) : Nat :=
  rootBelow power (n * 2 ^ (power * bits)) (bits + 6) 0 % 2 ^ bits

/-- The constants of SHA-256 and SHA-224. -/
def shortConstants : Array UInt32 :=
  ((primes 64).map fun p => (rootBits 3 32 p).toUInt32).toArray

/-- The constants of SHA-512 and SHA-384. -/
def longConstants : Array UInt64 :=
  ((primes 80).map fun p => (rootBits 3 64 p).toUInt64).toArray

/-- The constants of MD5: the first bits behind the point of sines. -/
def sineConstants : Array UInt32 := #[
  0xd76aa478, 0xe8c7b756, 0x242070db, 0xc1bdceee, 0xf57c0faf, 0x4787c62a, 0xa8304613, 0xfd469501,
  0x698098d8, 0x8b44f7af, 0xffff5bb1, 0x895cd7be, 0x6b901122, 0xfd987193, 0xa679438e, 0x49b40821,
  0xf61e2562, 0xc040b340, 0x265e5a51, 0xe9b6c7aa, 0xd62f105d, 0x02441453, 0xd8a1e681, 0xe7d3fbc8,
  0x21e1cde6, 0xc33707d6, 0xf4d50d87, 0x455a14ed, 0xa9e3e905, 0xfcefa3f8, 0x676f02d9, 0x8d2a4c8a,
  0xfffa3942, 0x8771f681, 0x6d9d6122, 0xfde5380c, 0xa4beea44, 0x4bdecfa9, 0xf6bb4b60, 0xbebfbc70,
  0x289b7ec6, 0xeaa127fa, 0xd4ef3085, 0x04881d05, 0xd9d4d039, 0xe6db99e5, 0x1fa27cf8, 0xc4ac5665,
  0xf4292244, 0x432aff97, 0xab9423a7, 0xfc93a039, 0x655b59c3, 0x8f0ccc92, 0xffeff47d, 0x85845dd1,
  0x6fa87e4f, 0xfe2ce6e0, 0xa3014314, 0x4e0811a1, 0xf7537e82, 0xbd3af235, 0x2ad7d2bb, 0xeb86d391]

/-! ## MD5 -/

/-- A word turned to the left. -/
def turnLeft (w : UInt32) (n : Nat) : UInt32 :=
  (w <<< n.toUInt32) ||| (w >>> (32 - n).toUInt32)

/-- How far a step of MD5 turns. -/
def md5Turn (i : Nat) : Nat :=
  let turns := match i / 16 with
    | 0 => [7, 12, 17, 22]
    | 1 => [5, 9, 14, 20]
    | 2 => [4, 11, 16, 23]
    | _ => [6, 10, 15, 21]
  turns.getD (i % 4) 0

/-- The state of a digest of 32-bit words. -/
abbrev Words := Array UInt32

/-- A word of a state. -/
def word (s : Words) (k : Nat) : UInt32 :=
  s[k]?.getD 0

/-- Words added one by one. -/
def addWords (a b : Words) : Words :=
  (a.zip b).map fun (x, y) => x + y

/-- Fold a block into the state of MD5. -/
def md5Block (message : ByteArray) (s : Words) (start : Nat) : Words :=
  let input : Words := ((List.range 16).map fun k => (littleEndian message (start + 4 * k) 4).toUInt32).toArray
  let step (s : Words) (i : Nat) : Words :=
    let (a, b, c, d) := (word s 0, word s 1, word s 2, word s 3)
    let (f, g) : UInt32 × Nat := match i / 16 with
      | 0 => ((b &&& c) ||| (~~~b &&& d), i)
      | 1 => ((d &&& b) ||| (~~~d &&& c), 5 * i + 1)
      | 2 => (b ^^^ c ^^^ d, 3 * i + 5)
      | _ => (c ^^^ (b ||| ~~~d), 7 * i)
    let sum := f + a + word sineConstants i + word input (g % 16)
    #[d, b + turnLeft sum (md5Turn i), b, c]
  addWords s ((List.range 64).foldl step s)

/-! ## SHA-1 -/

/-- The words of a block, with more made of them: `next` gives a word from those before. -/
def schedule {α : Type} (count : Nat) (next : Array α → Nat → α) (block : Array α) : Array α :=
  (List.range (count - 16)).foldl (fun ws k => ws.push (next ws (k + 16))) block

/-- The 32-bit words of a block. -/
def bigWords (message : ByteArray) (start : Nat) : Words :=
  ((List.range 16).map fun k => (bigEndian message (start + 4 * k) 4).toUInt32).toArray

/-- Fold a block into the state of SHA-1. -/
def sha1Block (message : ByteArray) (s : Words) (start : Nat) : Words :=
  let next (ws : Words) (i : Nat) : UInt32 :=
    turnLeft (word ws (i - 3) ^^^ word ws (i - 8) ^^^ word ws (i - 14) ^^^ word ws (i - 16)) 1
  let input := schedule 80 next (bigWords message start)
  let step (s : Words) (i : Nat) : Words :=
    let (a, b, c, d, e) := (word s 0, word s 1, word s 2, word s 3, word s 4)
    let (f, k) : UInt32 × UInt32 := match i / 20 with
      | 0 => ((b &&& c) ||| (~~~b &&& d), 0x5a827999)
      | 1 => (b ^^^ c ^^^ d, 0x6ed9eba1)
      | 2 => ((b &&& c) ||| (b &&& d) ||| (c &&& d), 0x8f1bbcdc)
      | _ => (b ^^^ c ^^^ d, 0xca62c1d6)
    #[turnLeft a 5 + f + e + k + word input i, a, turnLeft b 30, c, d]
  addWords s ((List.range 80).foldl step s)

/-! ## SHA-2 -/

/-- Fold a block into the state of SHA-256. -/
def shortBlock (message : ByteArray) (s : Words) (start : Nat) : Words :=
  let right (w : UInt32) (n : Nat) : UInt32 := turnLeft w (32 - n)
  let next (ws : Words) (i : Nat) : UInt32 :=
    let (x, y) := (word ws (i - 15), word ws (i - 2))
    word ws (i - 16) + (right x 7 ^^^ right x 18 ^^^ (x >>> 3)) + word ws (i - 7)
      + (right y 17 ^^^ right y 19 ^^^ (y >>> 10))
  let input := schedule 64 next (bigWords message start)
  let step (s : Words) (i : Nat) : Words :=
    let (a, b, c, d) := (word s 0, word s 1, word s 2, word s 3)
    let (e, f, g, h) := (word s 4, word s 5, word s 6, word s 7)
    let first := h + (right e 6 ^^^ right e 11 ^^^ right e 25) + ((e &&& f) ^^^ (~~~e &&& g))
      + word shortConstants i + word input i
    let second := (right a 2 ^^^ right a 13 ^^^ right a 22) + ((a &&& b) ^^^ (a &&& c) ^^^ (b &&& c))
    #[first + second, a, b, c, d + first, e, f, g]
  addWords s ((List.range 64).foldl step s)

/-- Fold a block into the state of SHA-512. -/
def longBlock (message : ByteArray) (s : Array UInt64) (start : Nat) : Array UInt64 :=
  let word (s : Array UInt64) (k : Nat) : UInt64 := s[k]?.getD 0
  let right (w : UInt64) (n : Nat) : UInt64 := (w >>> n.toUInt64) ||| (w <<< (64 - n).toUInt64)
  let next (ws : Array UInt64) (i : Nat) : UInt64 :=
    let (x, y) := (word ws (i - 15), word ws (i - 2))
    word ws (i - 16) + (right x 1 ^^^ right x 8 ^^^ (x >>> 7)) + word ws (i - 7)
      + (right y 19 ^^^ right y 61 ^^^ (y >>> 6))
  let block := ((List.range 16).map fun k => (bigEndian message (start + 8 * k) 8).toUInt64).toArray
  let input := schedule 80 next block
  let step (s : Array UInt64) (i : Nat) : Array UInt64 :=
    let (a, b, c, d) := (word s 0, word s 1, word s 2, word s 3)
    let (e, f, g, h) := (word s 4, word s 5, word s 6, word s 7)
    let first := h + (right e 14 ^^^ right e 18 ^^^ right e 41) + ((e &&& f) ^^^ (~~~e &&& g))
      + word longConstants i + word input i
    let second := (right a 28 ^^^ right a 34 ^^^ right a 39) + ((a &&& b) ^^^ (a &&& c) ^^^ (b &&& c))
    #[first + second, a, b, c, d + first, e, f, g]
  (s.zip ((List.range 80).foldl step s)).map fun (x, y) => x + y

/-! ## BLAKE2 -/

/-- The orders in which the rounds take the words of a block. -/
def wordOrders : Array (Array Nat) := #[
  #[0, 1, 2, 3, 4, 5, 6, 7, 8, 9, 10, 11, 12, 13, 14, 15],
  #[14, 10, 4, 8, 9, 15, 13, 6, 1, 12, 0, 2, 11, 7, 5, 3],
  #[11, 8, 12, 0, 5, 2, 15, 13, 10, 14, 3, 6, 7, 1, 9, 4],
  #[7, 9, 3, 1, 13, 12, 11, 14, 2, 6, 5, 10, 4, 0, 15, 8],
  #[9, 0, 5, 7, 2, 4, 10, 15, 14, 1, 11, 12, 6, 8, 3, 13],
  #[2, 12, 6, 10, 0, 11, 8, 3, 4, 13, 7, 5, 15, 14, 1, 9],
  #[12, 5, 1, 15, 14, 13, 4, 10, 0, 7, 6, 3, 9, 2, 8, 11],
  #[13, 11, 7, 14, 12, 1, 3, 9, 5, 0, 15, 4, 8, 6, 2, 10],
  #[6, 15, 14, 9, 11, 3, 0, 8, 12, 2, 13, 7, 1, 4, 10, 5],
  #[10, 2, 8, 4, 7, 6, 1, 5, 15, 11, 9, 14, 3, 12, 13, 0]]

/-- The places of a state that are mixed with each other in a round. -/
def mixedPlaces : List (Nat × Nat × Nat × Nat) :=
  [(0, 4, 8, 12), (1, 5, 9, 13), (2, 6, 10, 14), (3, 7, 11, 15), (0, 5, 10, 15), (1, 6, 11, 12), (2, 7, 8, 13),
    (3, 4, 9, 14)]

/-- Fold a block into the state of BLAKE2b; `count` bytes were folded with it, and `isLast` tells that no more
block comes. -/
def mixBlock (start : Array UInt64) (message : ByteArray) (isLast : Bool) (count : Nat) (s : Array UInt64)
    (place : Nat) : Array UInt64 :=
  let word (s : Array UInt64) (k : Nat) : UInt64 := s[k]?.getD 0
  let right (w : UInt64) (n : Nat) : UInt64 := (w >>> n.toUInt64) ||| (w <<< (64 - n).toUInt64)
  let block := ((List.range 16).map fun k => (littleEndian message (place + 8 * k) 8).toUInt64).toArray
  let v := (s ++ start).modify 12 (· ^^^ count.toUInt64)
  let v := if isLast then v.modify 14 (~~~ ·) else v
  let mix (v : Array UInt64) (places : Nat × Nat × Nat × Nat) (x y : UInt64) : Array UInt64 :=
    let (i, j, k, l) := places
    let a := word v i + word v j + x
    let d := right (word v l ^^^ a) 32
    let c := word v k + d
    let b := right (word v j ^^^ c) 24
    let a := a + b + y
    let d := right (d ^^^ a) 16
    let c := c + d
    let b := right (b ^^^ c) 63
    (((v.set! i a).set! j b).set! k c).set! l d
  let round (v : Array UInt64) (r : Nat) : Array UInt64 :=
    let order := (wordOrders[r % 10]?).getD #[]
    let input (k : Nat) : UInt64 := word block ((order[k]?).getD 0)
    mixedPlaces.zipIdx.foldl (fun v (places, k) => mix v places (input (2 * k)) (input (2 * k + 1))) v
  let v := (List.range 12).foldl round v
  ((List.range 8).map fun k => word s k ^^^ word v k ^^^ word v (k + 8)).toArray

/-- The BLAKE2b digest of a message with so many bytes. -/
def blake (size : Nat) (start : Array UInt64) (message : ByteArray) : ByteArray :=
  let blocks := max 1 ((message.size + 127) / 128)
  let filled := message ++ ⟨Array.replicate (128 * blocks - message.size) 0⟩
  let s := start.modify 0 (· ^^^ (0x01010000 + size).toUInt64)
  let s := (List.range blocks).foldl (fun s k =>
    mixBlock start filled (k + 1 = blocks) (min message.size (128 * (k + 1))) s (128 * k)) s
  (s.foldl (fun bs w => bs ++ littleBytes 8 w.toNat) .empty).extract 0 size

/-- The first bits behind the points of the square roots of eight primes, after some that are left out. -/
def rootsOf (omitted bits : Nat) : List Nat :=
  ((primes (omitted + 8)).drop omitted).map (rootBits 2 bits)

/-! ## All of them -/

/-- The bytes of a digest of a message. -/
def bytes (message : ByteArray) : Digest → ByteArray
  | md5 =>
    let start : Words := #[0x67452301, 0xefcdab89, 0x98badcfe, 0x10325476]
    let message := closed 64 (littleBytes 8) message
    (foldBlocks 64 (md5Block message) start message).foldl (fun bs w => bs ++ littleBytes 4 w.toNat) .empty
  | sha1 =>
    let start : Words := #[0x67452301, 0xefcdab89, 0x98badcfe, 0x10325476, 0xc3d2e1f0]
    let message := closed 64 (bigBytes 8) message
    joinWords (foldBlocks 64 (sha1Block message) start message)
  | sha224 =>
    let start := ((rootsOf 8 64).map fun n => (n % 2 ^ 32).toUInt32).toArray
    (short start message).extract 0 28
  | sha256 => short ((rootsOf 0 32).map Nat.toUInt32).toArray message
  | sha384 => (long ((rootsOf 8 64).map Nat.toUInt64).toArray message).extract 0 48
  | sha512 => long ((rootsOf 0 64).map Nat.toUInt64).toArray message
  | blake2b size => blake size ((rootsOf 0 64).map Nat.toUInt64).toArray message
where
  /-- Words as bytes. -/
  joinWords (s : Words) : ByteArray :=
    s.foldl (fun bs w => bs ++ bigBytes 4 w.toNat) .empty
  /-- The state of SHA-256 after a message. -/
  short (start : Words) (message : ByteArray) : ByteArray :=
    let message := closed 64 (bigBytes 8) message
    joinWords (foldBlocks 64 (shortBlock message) start message)
  /-- The state of SHA-512 after a message. -/
  long (start : Array UInt64) (message : ByteArray) : ByteArray :=
    let message := closed 128 (bigBytes 16) message
    (foldBlocks 128 (longBlock message) start message).foldl (fun bs w => bs ++ bigBytes 8 w.toNat) .empty

/-- A digest of a message in hexadecimal digits. -/
def hexadecimal (d : Digest) (message : ByteArray) : String :=
  .ofList ((d.bytes message).toList.flatMap fun b => [Nat.digitChar (b.toNat / 16), Nat.digitChar (b.toNat % 16)])

/-- The name of a digest. -/
def name : Digest → String
  | md5 => "MD5"
  | sha1 => "SHA1"
  | sha224 => "SHA224"
  | sha256 => "SHA256"
  | sha384 => "SHA384"
  | sha512 => "SHA512"
  | blake2b size => if size = 64 then "BLAKE2b" else "BLAKE2b-" ++ toString (8 * size)

/-- How many hexadecimal digits a digest has. -/
def digits : Digest → Nat
  | md5 => 32
  | sha1 => 40
  | sha224 => 56
  | sha256 => 64
  | sha384 => 96
  | sha512 => 128
  | blake2b size => 2 * size

/-- All digests. -/
def all : List Digest :=
  [md5, sha1, sha224, sha256, sha384, sha512, blake2b 64]

end Digest

end CommandSpec
