import ObjectAccess.Digest.Blocks

/-!
# MD5

The entity tag of an object is the MD5 digest of its body.  The state is four words;
the sixty-four rounds differ in their mixing function, rotation, constant and
message word, which one list of rounds holds.
-/

namespace ObjectAccess.Digest.Md5

set_option autoImplicit false

open ObjectAccess.Digest

/-- Rotates a word to the left. -/
def rotateLeft (x : UInt32) (n : UInt32) : UInt32 := (x <<< n) ||| (x >>> (32 - n))

/-- The four words carried from block to block. -/
structure State where
  a : UInt32
  b : UInt32
  c : UInt32
  d : UInt32

/-- The round constants. -/
def constants : List UInt32 := [
  0xd76aa478, 0xe8c7b756, 0x242070db, 0xc1bdceee, 0xf57c0faf, 0x4787c62a, 0xa8304613, 0xfd469501,
  0x698098d8, 0x8b44f7af, 0xffff5bb1, 0x895cd7be, 0x6b901122, 0xfd987193, 0xa679438e, 0x49b40821,
  0xf61e2562, 0xc040b340, 0x265e5a51, 0xe9b6c7aa, 0xd62f105d, 0x02441453, 0xd8a1e681, 0xe7d3fbc8,
  0x21e1cde6, 0xc33707d6, 0xf4d50d87, 0x455a14ed, 0xa9e3e905, 0xfcefa3f8, 0x676f02d9, 0x8d2a4c8a,
  0xfffa3942, 0x8771f681, 0x6d9d6122, 0xfde5380c, 0xa4beea44, 0x4bdecfa9, 0xf6bb4b60, 0xbebfbc70,
  0x289b7ec6, 0xeaa127fa, 0xd4ef3085, 0x04881d05, 0xd9d4d039, 0xe6db99e5, 0x1fa27cf8, 0xc4ac5665,
  0xf4292244, 0x432aff97, 0xab9423a7, 0xfc93a039, 0x655b59c3, 0x8f0ccc92, 0xffeff47d, 0x85845dd1,
  0x6fa87e4f, 0xfe2ce6e0, 0xa3014314, 0x4e0811a1, 0xf7537e82, 0xbd3af235, 0x2ad7d2bb, 0xeb86d391]

/-- The four rotations of each quarter of the rounds. -/
def rotations : List (List UInt32) :=
  [[7, 12, 17, 22], [5, 9, 14, 20], [4, 11, 16, 23], [6, 10, 15, 21]]

/-- The mixing function of each quarter. -/
def mix (quarter : Nat) (b c d : UInt32) : UInt32 :=
  match quarter with
  | 0 => (b &&& c) ||| (~~~b &&& d)
  | 1 => (d &&& b) ||| (~~~d &&& c)
  | 2 => b ^^^ c ^^^ d
  | _ => c ^^^ (b ||| ~~~d)

/-- Which message word a round uses. -/
def wordIndex (i : Nat) : Nat :=
  match i / 16 with
  | 0 => i % 16
  | 1 => (5 * i + 1) % 16
  | 2 => (3 * i + 5) % 16
  | _ => (7 * i) % 16

/-- Round `i` with its constant. -/
def round (words : List UInt32) (s : State) (numbered : UInt32 × Nat) : State :=
  let (constant, i) := numbered
  let sum := s.a + mix (i / 16) s.b s.c s.d + constant + words.getD (wordIndex i) 0
  let turn := (rotations.getD (i / 16) []).getD (i % 4) 0
  ⟨s.d, s.b + rotateLeft sum turn, s.b, s.c⟩

/-- Four octets as a word, lowest first. -/
def word (octets : List UInt8) : UInt32 :=
  octets.foldr (fun b w => (w <<< 8) ||| b.toUInt32) 0

/-- The state before the first block. -/
def start : State := ⟨0x67452301, 0xefcdab89, 0x98badcfe, 0x10325476⟩

/-- The state after one block. -/
def compress (s : State) (block : List UInt8) : State :=
  let t := constants.zipIdx.foldl (round ((groups 4 block).map word)) s
  ⟨s.a + t.a, s.b + t.b, s.c + t.c, s.d + t.d⟩

/-- The octets of a state, lowest first in each word. -/
def State.octets (s : State) : List UInt8 :=
  [s.a, s.b, s.c, s.d].flatMap fun w => littleOctets 4 w.toNat

/-- The digest of a message: sixteen octets. -/
def digest (message : List UInt8) : List UInt8 :=
  ((groups 64 (padded littleOctets message)).foldl compress start).octets

end ObjectAccess.Digest.Md5
