import TlsListener.Crypto.Word

/-!
# The BLAKE2 digests

One construction over words of 64 bits and over words of 32. A block is mixed into sixteen words in
rounds of eight steps, each over a column or a diagonal of the words seen as a square, and each with
two words of the block in an order that changes from round to round.
-/

namespace TlsListener.Blake2

/-- What a digest is over one word type. -/
structure Family (ω : Type) where
  wordSize : Nat
  ofNat : Nat → ω
  toNat : ω → Nat
  /-- Turn a word to the right by the four amounts in use. -/
  turns : (ω → ω) × (ω → ω) × (ω → ω) × (ω → ω)
  rounds : Nat
  /-- The words that a state starts from. -/
  start : Array ω

/-- The digest over words of 64 bits. Its start is the one of SHA-512. -/
def words64 : Family UInt64 where
  wordSize := 8
  ofNat := Nat.toUInt64
  toNat := UInt64.toNat
  turns := (rotateRight64 32, rotateRight64 24, rotateRight64 16, rotateRight64 63)
  rounds := 12
  start := #[0x6a09e667f3bcc908, 0xbb67ae8584caa73b, 0x3c6ef372fe94f82b, 0xa54ff53a5f1d36f1,
    0x510e527fade682d1, 0x9b05688c2b3e6c1f, 0x1f83d9abfb41bd6b, 0x5be0cd19137e2179]

/-- The digest over words of 32 bits. Its start is the one of SHA-256. -/
def words32 : Family UInt32 where
  wordSize := 4
  ofNat := Nat.toUInt32
  toNat := UInt32.toNat
  turns := (rotateRight32 16, rotateRight32 12, rotateRight32 8, rotateRight32 7)
  rounds := 10
  start := #[0x6a09e667, 0xbb67ae85, 0x3c6ef372, 0xa54ff53a, 0x510e527f, 0x9b05688c, 0x1f83d9ab,
    0x5be0cd19]

/-- The orders in which rounds take the words of a block. The first two are used again after the
last. -/
def orders : Array (List Nat) := #[
  [0, 1, 2, 3, 4, 5, 6, 7, 8, 9, 10, 11, 12, 13, 14, 15],
  [14, 10, 4, 8, 9, 15, 13, 6, 1, 12, 0, 2, 11, 7, 5, 3],
  [11, 8, 12, 0, 5, 2, 15, 13, 10, 14, 3, 6, 7, 1, 9, 4],
  [7, 9, 3, 1, 13, 12, 11, 14, 2, 6, 5, 10, 4, 0, 15, 8],
  [9, 0, 5, 7, 2, 4, 10, 15, 14, 1, 11, 12, 6, 8, 3, 13],
  [2, 12, 6, 10, 0, 11, 8, 3, 4, 13, 7, 5, 15, 14, 1, 9],
  [12, 5, 1, 15, 14, 13, 4, 10, 0, 7, 6, 3, 9, 2, 8, 11],
  [13, 11, 7, 14, 12, 1, 3, 9, 5, 0, 15, 4, 8, 6, 2, 10],
  [6, 15, 14, 9, 11, 3, 0, 8, 12, 2, 13, 7, 1, 4, 10, 5],
  [10, 2, 8, 4, 7, 6, 1, 5, 15, 11, 9, 14, 3, 12, 13, 0]]

/-- The columns and then the diagonals of the square of words. -/
def lines : List (Nat × Nat × Nat × Nat) := [
  (0, 4, 8, 12), (1, 5, 9, 13), (2, 6, 10, 14), (3, 7, 11, 15),
  (0, 5, 10, 15), (1, 6, 11, 12), (2, 7, 8, 13), (3, 4, 9, 14)]

variable {ω : Type} [Inhabited ω] [Add ω] [XorOp ω] [Complement ω]

/-- One step: the four words of a line, with two words of the block. -/
@[specialize] def step (family : Family ω) (v : Array ω) (line : Nat × Nat × Nat × Nat)
    (x y : ω) : Array ω :=
  let (i, j, k, l) := line
  let (turn₁, turn₂, turn₃, turn₄) := family.turns
  let (a, b, c, d) :=
    (v.getD i default, v.getD j default, v.getD k default, v.getD l default)
  let a := a + b + x
  let d := turn₁ (d ^^^ a)
  let c := c + d
  let b := turn₂ (b ^^^ c)
  let a := a + b + y
  let d := turn₃ (d ^^^ a)
  let c := c + d
  let b := turn₄ (b ^^^ c)
  (((v.setIfInBounds i a).setIfInBounds j b).setIfInBounds k c).setIfInBounds l d

/-- One round. -/
@[specialize] def round (family : Family ω) (block : Array ω) (v : Array ω) (number : Nat) :
    Array ω :=
  let words := (orders.getD (number % 10) []).map fun i => block.getD i default
  (lines.zip (pieces 2 words)).foldl (fun v (line, words) =>
    match words with
    | [x, y] => step family v line x y
    | _ => v) v

/-- The state after one more block, given how many bytes have been taken in with it and whether it
is the last. -/
@[specialize] def compress (family : Family ω) (state : Array ω) (count : Nat) (last : Bool)
    (block : Array ω) : Array ω :=
  let v := (state ++ family.start).modify 12 (· ^^^ family.ofNat count)
  let v := if last then v.modify 14 (~~~ ·) else v
  let v := (List.range family.rounds).foldl (round family block) v
  state.mapIdx fun i word => word ^^^ v.getD i default ^^^ v.getD (i + 8) default

/-- The state after all blocks, of which the last may be short. -/
@[specialize] def compressAll (family : Family ω) (state : Array ω) (count : Nat) :
    List Bytes → Array ω
  | [] => state
  | block :: blocks =>
    let count := count + block.length
    let filled := block ++ List.replicate (16 * family.wordSize - block.length) 0
    let words := (pieces family.wordSize filled).map fun w =>
      family.ofNat (Bytes.toNatReversed w)
    compressAll family (compress family state count blocks.isEmpty words.toArray) count blocks

/-- The digest of full size. A message without bytes still is a block. -/
@[specialize] def digest (family : Family ω) (message : Bytes) : Bytes :=
  let size := 8 * family.wordSize
  let start := family.start.modify 0 (· ^^^ family.ofNat (0x01010000 + size))
  let blocks := if message.isEmpty then [[]] else pieces (2 * size) message
  (compressAll family start 0 blocks).toList.flatMap fun word =>
    Bytes.ofNatReversed family.wordSize (family.toNat word)

/-- BLAKE2b with 512 bits. -/
def blake2b : Bytes → Bytes := digest words64

/-- BLAKE2s with 256 bits. -/
def blake2s : Bytes → Bytes := digest words32

end TlsListener.Blake2
