import Concord.Octets

/-!
# The MD5 digest

The digest of octets in sixteen octets. The message is padded to whole blocks of sixty-four octets
(`padded`), and each block stirs a state of four words in sixty-four rounds (`stir`). Words are
little-endian throughout.
-/

namespace Concord.Digest

/-- The four words of the state. -/
structure State where
  a : UInt32
  b : UInt32
  c : UInt32
  d : UInt32
deriving DecidableEq

/-- The state before the first block. -/
def State.initial : State := ⟨0x67452301, 0xefcdab89, 0x98badcfe, 0x10325476⟩

/-- The words added in the rounds: the whole parts of `2 ^ 32` times the sines of the first
sixty-four radians, without their signs. -/
def sines : List UInt32 :=
  [0xd76aa478, 0xe8c7b756, 0x242070db, 0xc1bdceee, 0xf57c0faf, 0x4787c62a, 0xa8304613, 0xfd469501,
   0x698098d8, 0x8b44f7af, 0xffff5bb1, 0x895cd7be, 0x6b901122, 0xfd987193, 0xa679438e, 0x49b40821,
   0xf61e2562, 0xc040b340, 0x265e5a51, 0xe9b6c7aa, 0xd62f105d, 0x02441453, 0xd8a1e681, 0xe7d3fbc8,
   0x21e1cde6, 0xc33707d6, 0xf4d50d87, 0x455a14ed, 0xa9e3e905, 0xfcefa3f8, 0x676f02d9, 0x8d2a4c8a,
   0xfffa3942, 0x8771f681, 0x6d9d6122, 0xfde5380c, 0xa4beea44, 0x4bdecfa9, 0xf6bb4b60, 0xbebfbc70,
   0x289b7ec6, 0xeaa127fa, 0xd4ef3085, 0x04881d05, 0xd9d4d039, 0xe6db99e5, 0x1fa27cf8, 0xc4ac5665,
   0xf4292244, 0x432aff97, 0xab9423a7, 0xfc93a039, 0x655b59c3, 0x8f0ccc92, 0xffeff47d, 0x85845dd1,
   0x6fa87e4f, 0xfe2ce6e0, 0xa3014314, 0x4e0811a1, 0xf7537e82, 0xbd3af235, 0x2ad7d2bb, 0xeb86d391]

/-- The number of bits to rotate by in a round. -/
def rotation (round : Nat) : UInt32 :=
  match round / 16, round % 4 with
  | 0, 0 => 7
  | 0, 1 => 12
  | 0, 2 => 17
  | 0, _ => 22
  | 1, 0 => 5
  | 1, 1 => 9
  | 1, 2 => 14
  | 1, _ => 20
  | 2, 0 => 4
  | 2, 1 => 11
  | 2, 2 => 16
  | 2, _ => 23
  | _, 0 => 6
  | _, 1 => 10
  | _, 2 => 15
  | _, _ => 21

/-- The place in the block of the word that a round takes. -/
def wordIndex (round : Nat) : Nat :=
  match round / 16 with
  | 0 => round
  | 1 => (5 * round + 1) % 16
  | 2 => (3 * round + 5) % 16
  | _ => 7 * round % 16

/-- The mixture of three words of the state in a round. -/
def mix (round : Nat) (s : State) : UInt32 :=
  match round / 16 with
  | 0 => (s.b &&& s.c) ||| (~~~s.b &&& s.d)
  | 1 => (s.d &&& s.b) ||| (~~~s.d &&& s.c)
  | 2 => s.b ^^^ s.c ^^^ s.d
  | _ => s.c ^^^ (s.b ||| ~~~s.d)

/-- The bits moved up, those that leave at the top coming in at the bottom. -/
def rotated (x n : UInt32) : UInt32 := (x <<< n) ||| (x >>> (32 - n))

/-- One round. -/
def stirRound (words : List UInt32) (s : State) (round : Nat) : State :=
  let sum := s.a + mix round s + sines.getD round 0 + words.getD (wordIndex round) 0
  ⟨s.d, s.b + rotated sum (rotation round), s.b, s.c⟩

/-- The state after the sixteen words of a block. -/
def stir (s : State) (words : List UInt32) : State :=
  let t := (List.range 64).foldl (stirRound words) s
  ⟨s.a + t.a, s.b + t.b, s.c + t.c, s.d + t.d⟩

/-- The words of a block. -/
def wordsOf (block : List UInt8) : List UInt32 :=
  (List.range 16).map fun i => .ofNat (ofOctets ((block.drop (4 * i)).take 4).reverse)

/-- The message with a one bit, zeros up to eight octets before the end of a block, and its length
in bits. -/
def padded (message : List UInt8) : List UInt8 :=
  message ++ 0x80 :: List.replicate ((119 - message.length % 64) % 64) 0 ++
    (toOctets 8 (8 * message.length)).reverse

/-- The digest of a message. -/
def md5 (message : List UInt8) : List UInt8 :=
  let octets := padded message
  let blocks := (List.range (octets.length / 64)).map fun i =>
    wordsOf ((octets.drop (64 * i)).take 64)
  let s := blocks.foldl stir .initial
  [s.a, s.b, s.c, s.d].flatMap fun word => (toOctets 4 word.toNat).reverse

/-- A digest has sixteen octets. -/
theorem length_md5 (message : List UInt8) : (md5 message).length = 16 := by simp [md5]

end Concord.Digest
