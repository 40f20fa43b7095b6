import TlsListener.Crypto.Word

/-!
# The MD5 digest
-/

namespace TlsListener.Md5

/-- The four words that are carried from block to block. -/
structure State where
  a : UInt32
  b : UInt32
  c : UInt32
  d : UInt32

/-- The constants of the rounds: the first 32 bits after the point of the sines of one to
sixty-four, without their signs. -/
def constants : List UInt32 := [
  0xd76aa478, 0xe8c7b756, 0x242070db, 0xc1bdceee, 0xf57c0faf, 0x4787c62a, 0xa8304613, 0xfd469501,
  0x698098d8, 0x8b44f7af, 0xffff5bb1, 0x895cd7be, 0x6b901122, 0xfd987193, 0xa679438e, 0x49b40821,
  0xf61e2562, 0xc040b340, 0x265e5a51, 0xe9b6c7aa, 0xd62f105d, 0x02441453, 0xd8a1e681, 0xe7d3fbc8,
  0x21e1cde6, 0xc33707d6, 0xf4d50d87, 0x455a14ed, 0xa9e3e905, 0xfcefa3f8, 0x676f02d9, 0x8d2a4c8a,
  0xfffa3942, 0x8771f681, 0x6d9d6122, 0xfde5380c, 0xa4beea44, 0x4bdecfa9, 0xf6bb4b60, 0xbebfbc70,
  0x289b7ec6, 0xeaa127fa, 0xd4ef3085, 0x04881d05, 0xd9d4d039, 0xe6db99e5, 0x1fa27cf8, 0xc4ac5665,
  0xf4292244, 0x432aff97, 0xab9423a7, 0xfc93a039, 0x655b59c3, 0x8f0ccc92, 0xffeff47d, 0x85845dd1,
  0x6fa87e4f, 0xfe2ce6e0, 0xa3014314, 0x4e0811a1, 0xf7537e82, 0xbd3af235, 0x2ad7d2bb, 0xeb86d391]

/-- By how much each round turns: four amounts in each quarter, over and over. -/
def turns (number : Nat) : UInt32 :=
  let amounts : List UInt32 :=
    if number < 16 then [7, 12, 17, 22]
    else if number < 32 then [5, 9, 14, 20]
    else if number < 48 then [4, 11, 16, 23]
    else [6, 10, 15, 21]
  amounts.getD (number % 4) 0

/-- The function of a round, and which word of the block it takes, by its number. -/
def mix (s : State) (number : Nat) : UInt32 × Nat :=
  if number < 16 then ((s.b &&& s.c) ||| (~~~s.b &&& s.d), number)
  else if number < 32 then ((s.d &&& s.b) ||| (~~~s.d &&& s.c), (5 * number + 1) % 16)
  else if number < 48 then (s.b ^^^ s.c ^^^ s.d, (3 * number + 5) % 16)
  else (s.c ^^^ (s.b ||| ~~~s.d), 7 * number % 16)

/-- One round. -/
def round (block : Array UInt32) (s : State) (number : Nat) (constant : UInt32) : State :=
  let (mixed, index) := mix s number
  let sum := s.a + mixed + constant + block.getD index 0
  ⟨s.d, s.b + rotateLeft32 (turns number) sum, s.b, s.c⟩

/-- The state after one more block. -/
def compress (s : State) (block : Array UInt32) : State :=
  let t := constants.zipIdx.foldl (fun s (k, number) => round block s number k) s
  ⟨s.a + t.a, s.b + t.b, s.c + t.c, s.d + t.d⟩

/-- MD5. -/
def md5 (message : Bytes) : Bytes :=
  let words := Bytes.words32Reversed (Bytes.closedReversed 64 8 message)
  let s := (pieces 16 words).foldl (fun s block => compress s block.toArray)
    ⟨0x67452301, 0xefcdab89, 0x98badcfe, 0x10325476⟩
  Bytes.ofWords32Reversed [s.a, s.b, s.c, s.d]

end TlsListener.Md5
