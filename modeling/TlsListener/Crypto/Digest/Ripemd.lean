import TlsListener.Crypto.Word

/-!
# The RIPEMD-160 digest

Each block passes through two lines of eighty rounds side by side, whose results are combined with
the state crosswise. The lines differ in their constants, in the order in which they take the words
of the block, in their turns, and in that one runs through the functions of the rounds backwards.
-/

namespace TlsListener.Ripemd

/-- The five words that are carried from block to block. -/
structure State where
  a : UInt32
  b : UInt32
  c : UInt32
  d : UInt32
  e : UInt32

/-- The function of the rounds of one fifth of a line. -/
def mix (fifth : Nat) (x y z : UInt32) : UInt32 :=
  match fifth with
  | 0 => x ^^^ y ^^^ z
  | 1 => (x &&& y) ||| (~~~x &&& z)
  | 2 => (x ||| ~~~y) ^^^ z
  | 3 => (x &&& z) ||| (y &&& ~~~z)
  | _ => x ^^^ (y ||| ~~~z)

/-- One round: the function of its fifth, its constant, its word of the block, and its turn. -/
structure Round where
  fifth : Nat
  constant : UInt32
  word : Nat
  turn : UInt32

/-- The rounds of a line. -/
def line (fifths : List (Nat × UInt32)) (words : List Nat) (turns : List UInt32) : List Round :=
  let fifths := fifths.flatMap fun fifth => List.replicate 16 fifth
  (fifths.zip (words.zip turns)).map fun ((fifth, constant), (word, turn)) =>
    ⟨fifth, constant, word, turn⟩

/-- The left line. -/
def leftLine : List Round :=
  line [(0, 0), (1, 0x5a827999), (2, 0x6ed9eba1), (3, 0x8f1bbcdc), (4, 0xa953fd4e)]
    [0, 1, 2, 3, 4, 5, 6, 7, 8, 9, 10, 11, 12, 13, 14, 15,
      7, 4, 13, 1, 10, 6, 15, 3, 12, 0, 9, 5, 2, 14, 11, 8,
      3, 10, 14, 4, 9, 15, 8, 1, 2, 7, 0, 6, 13, 11, 5, 12,
      1, 9, 11, 10, 0, 8, 12, 4, 13, 3, 7, 15, 14, 5, 6, 2,
      4, 0, 5, 9, 7, 12, 2, 10, 14, 1, 3, 8, 11, 6, 15, 13]
    [11, 14, 15, 12, 5, 8, 7, 9, 11, 13, 14, 15, 6, 7, 9, 8,
      7, 6, 8, 13, 11, 9, 7, 15, 7, 12, 15, 9, 11, 7, 13, 12,
      11, 13, 6, 7, 14, 9, 13, 15, 14, 8, 13, 6, 5, 12, 7, 5,
      11, 12, 14, 15, 14, 15, 9, 8, 9, 14, 5, 6, 8, 6, 5, 12,
      9, 15, 5, 11, 6, 8, 13, 12, 5, 12, 13, 14, 11, 8, 5, 6]

/-- The right line. -/
def rightLine : List Round :=
  line [(4, 0x50a28be6), (3, 0x5c4dd124), (2, 0x6d703ef3), (1, 0x7a6d76e9), (0, 0)]
    [5, 14, 7, 0, 9, 2, 11, 4, 13, 6, 15, 8, 1, 10, 3, 12,
      6, 11, 3, 7, 0, 13, 5, 10, 14, 15, 8, 12, 4, 9, 1, 2,
      15, 5, 1, 3, 7, 14, 6, 9, 11, 8, 12, 2, 10, 0, 4, 13,
      8, 6, 4, 1, 3, 11, 15, 0, 5, 12, 2, 13, 9, 7, 10, 14,
      12, 15, 10, 4, 1, 5, 8, 7, 6, 2, 13, 14, 0, 3, 9, 11]
    [8, 9, 9, 11, 13, 15, 15, 5, 7, 7, 8, 11, 14, 14, 12, 6,
      9, 13, 15, 7, 12, 8, 9, 11, 7, 7, 12, 7, 6, 15, 13, 11,
      9, 7, 15, 11, 8, 6, 6, 14, 12, 13, 5, 14, 13, 13, 7, 5,
      15, 5, 8, 11, 14, 14, 6, 14, 6, 9, 12, 9, 12, 5, 15, 8,
      8, 5, 12, 9, 12, 5, 14, 6, 8, 13, 6, 5, 15, 13, 11, 11]

/-- The state after a round. -/
def Round.apply (round : Round) (block : Array UInt32) (s : State) : State :=
  let sum := s.a + mix round.fifth s.b s.c s.d + block.getD round.word 0 + round.constant
  ⟨s.e, rotateLeft32 round.turn sum + s.e, s.b, rotateLeft32 10 s.c, s.d⟩

/-- The state after one more block. -/
def compress (s : State) (block : Array UInt32) : State :=
  let run := fun (rounds : List Round) => rounds.foldl (fun s round => round.apply block s) s
  let l := run leftLine
  let r := run rightLine
  ⟨s.b + l.c + r.d, s.c + l.d + r.e, s.d + l.e + r.a, s.e + l.a + r.b, s.a + l.b + r.c⟩

/-- RIPEMD-160. -/
def ripemd160 (message : Bytes) : Bytes :=
  let words := Bytes.words32Reversed (Bytes.closedReversed 64 8 message)
  let s := (pieces 16 words).foldl (fun s block => compress s block.toArray)
    ⟨0x67452301, 0xefcdab89, 0x98badcfe, 0x10325476, 0xc3d2e1f0⟩
  Bytes.ofWords32Reversed [s.a, s.b, s.c, s.d, s.e]

end TlsListener.Ripemd
