/-!
# SHA-256

The secure hash of a byte string, of 256 bits. The string is extended by one bit, zeros and its
length to a whole number of blocks of 64 bytes, and every block stirs a state of eight words.

## Main definitions

* `Sha256.hash`: the words of the hash
* `Sha256.hexadecimal`: the hash in lower-case hexadecimal
-/

namespace DomainFlow

namespace Sha256

/-- The state between two blocks: eight words. -/
structure State where
  a : UInt32
  b : UInt32
  c : UInt32
  d : UInt32
  e : UInt32
  f : UInt32
  g : UInt32
  h : UInt32

/-- The state before the first block: the fractional parts of the square roots of the first eight
primes. -/
def initial : State :=
  ⟨0x6a09e667, 0xbb67ae85, 0x3c6ef372, 0xa54ff53a, 0x510e527f, 0x9b05688c, 0x1f83d9ab, 0x5be0cd19⟩

/-- The round constants: the fractional parts of the cube roots of the first 64 primes. -/
def constants : List UInt32 :=
  [0x428a2f98, 0x71374491, 0xb5c0fbcf, 0xe9b5dba5, 0x3956c25b, 0x59f111f1, 0x923f82a4, 0xab1c5ed5,
    0xd807aa98, 0x12835b01, 0x243185be, 0x550c7dc3, 0x72be5d74, 0x80deb1fe, 0x9bdc06a7, 0xc19bf174,
    0xe49b69c1, 0xefbe4786, 0x0fc19dc6, 0x240ca1cc, 0x2de92c6f, 0x4a7484aa, 0x5cb0a9dc, 0x76f988da,
    0x983e5152, 0xa831c66d, 0xb00327c8, 0xbf597fc7, 0xc6e00bf3, 0xd5a79147, 0x06ca6351, 0x14292967,
    0x27b70a85, 0x2e1b2138, 0x4d2c6dfc, 0x53380d13, 0x650a7354, 0x766a0abb, 0x81c2c92e, 0x92722c85,
    0xa2bfe8a1, 0xa81a664b, 0xc24b8b70, 0xc76c51a3, 0xd192e819, 0xd6990624, 0xf40e3585, 0x106aa070,
    0x19a4c116, 0x1e376c08, 0x2748774c, 0x34b0bcb5, 0x391c0cb3, 0x4ed8aa4a, 0x5b9cca4f, 0x682e6ff3,
    0x748f82ee, 0x78a5636f, 0x84c87814, 0x8cc70208, 0x90befffa, 0xa4506ceb, 0xbef9a3f7, 0xc67178f2]

/-- A word turned right by some bits. -/
def rotate (x : UInt32) (bits : UInt32) : UInt32 := (x >>> bits) ||| (x <<< (32 - bits))

/-- The word of a schedule at a place. -/
def word (schedule : Array UInt32) (i : Nat) : UInt32 := schedule.getD i 0

/-- The next word of a schedule, from the sixteen before it. -/
def nextWord (schedule : Array UInt32) : UInt32 :=
  let x := word schedule (schedule.size - 15)
  let y := word schedule (schedule.size - 2)
  word schedule (schedule.size - 16) + (rotate x 7 ^^^ rotate x 18 ^^^ (x >>> 3)) +
    word schedule (schedule.size - 7) + (rotate y 17 ^^^ rotate y 19 ^^^ (y >>> 10))

/-- The 64 words that the 16 words of a block give. -/
def schedule (block : List UInt32) : List UInt32 :=
  (Nat.repeat (fun words => words.push (nextWord words)) 48 block.toArray).toList

/-- One round, with a constant and a word of the schedule. -/
def round (s : State) (input : UInt32 × UInt32) : State :=
  let mix := s.h + (rotate s.e 6 ^^^ rotate s.e 11 ^^^ rotate s.e 25) +
    ((s.e &&& s.f) ^^^ (~~~s.e &&& s.g)) + input.1 + input.2
  let major := (rotate s.a 2 ^^^ rotate s.a 13 ^^^ rotate s.a 22) +
    ((s.a &&& s.b) ^^^ (s.a &&& s.c) ^^^ (s.b &&& s.c))
  ⟨mix + major, s.a, s.b, s.c, s.d + mix, s.e, s.f, s.g⟩

/-- The state behind a block. -/
def absorb (s : State) (block : List UInt32) : State :=
  let t := (constants.zip (schedule block)).foldl round s
  ⟨s.a + t.a, s.b + t.b, s.c + t.c, s.d + t.d, s.e + t.e, s.f + t.f, s.g + t.g, s.h + t.h⟩

/-- A number in big-endian bytes, of which there are `count`. -/
def bigEndian (count n : Nat) : List UInt8 :=
  (List.range count).map fun i => UInt8.ofNat (n >>> (8 * (count - 1 - i)))

/-- The bytes extended to a whole number of blocks. -/
def pad (bytes : List UInt8) : List UInt8 :=
  bytes ++ 0x80 :: List.replicate ((119 - bytes.length % 64) % 64) 0 ++
    bigEndian 8 (8 * bytes.length)

/-- The words of a byte string, four bytes each. -/
def words : List UInt8 → List UInt32
  | a :: b :: c :: d :: rest =>
    (a.toUInt32 <<< 24 ||| b.toUInt32 <<< 16 ||| c.toUInt32 <<< 8 ||| d.toUInt32) :: words rest
  | _ => []

/-- The state behind all blocks of a list of words. -/
def absorbAll (s : State) (input : List UInt32) : State :=
  if input.isEmpty then s else absorbAll (absorb s (input.take 16)) (input.drop 16)
termination_by input.length
decreasing_by
  next h =>
    have : input ≠ [] := by simpa using h
    have := List.length_pos_iff.2 this
    simp only [List.length_drop]
    omega

/-- **The hash of a byte string**, as eight words. -/
def hash (bytes : List UInt8) : List UInt32 :=
  let s := absorbAll initial (words (pad bytes))
  [s.a, s.b, s.c, s.d, s.e, s.f, s.g, s.h]

/-- A word in eight lower-case hexadecimal digits. -/
def hexWord (x : UInt32) : List Char :=
  (List.range 8).map fun i => Nat.digitChar ((x.toNat >>> (4 * (7 - i))) % 16)

/-- **The hash of a text**, taken as its UTF-8 bytes, in hexadecimal. -/
def hexadecimal (text : String) : String :=
  String.ofList ((hash text.toUTF8.toList).flatMap hexWord)

end Sha256

end DomainFlow
