import TlsListener.Crypto.KeyDerivation
import TlsListener.Number.Power

/-!
# Keys from passwords at the cost of memory

A key derivation that fills a table with values, each made of the one before, and then mixes values
of the table in an order that only the values themselves tell. How many values there are, how large
they are, and how many tables are filled, are parameters; what they may be is limited.
-/

namespace TlsListener.Scrypt

/-- A block of sixteen words, as a square. -/
structure Block where
  (x0 x1 x2 x3 x4 x5 x6 x7 x8 x9 x10 x11 x12 x13 x14 x15 : UInt32)

namespace Block

/-- The block of sixteen words. -/
def ofWords : List UInt32 → Block
  | [x0, x1, x2, x3, x4, x5, x6, x7, x8, x9, x10, x11, x12, x13, x14, x15] =>
    ⟨x0, x1, x2, x3, x4, x5, x6, x7, x8, x9, x10, x11, x12, x13, x14, x15⟩
  | _ => ⟨0, 0, 0, 0, 0, 0, 0, 0, 0, 0, 0, 0, 0, 0, 0, 0⟩

/-- The words of a block. -/
def toWords (b : Block) : List UInt32 :=
  [b.x0, b.x1, b.x2, b.x3, b.x4, b.x5, b.x6, b.x7, b.x8, b.x9, b.x10, b.x11, b.x12, b.x13, b.x14,
    b.x15]

/-- Two blocks combined word by word. -/
@[inline] def combine (f : UInt32 → UInt32 → UInt32) (a b : Block) : Block :=
  ⟨f a.x0 b.x0, f a.x1 b.x1, f a.x2 b.x2, f a.x3 b.x3, f a.x4 b.x4, f a.x5 b.x5, f a.x6 b.x6,
    f a.x7 b.x7, f a.x8 b.x8, f a.x9 b.x9, f a.x10 b.x10, f a.x11 b.x11, f a.x12 b.x12,
    f a.x13 b.x13, f a.x14 b.x14, f a.x15 b.x15⟩

/-- Two blocks combined bit by bit. -/
def xor (a b : Block) : Block := combine (· ^^^ ·) a b

/-- One step over four words of a column, each in turn changed by the two before it. -/
@[inline] def quarter (a b c d : UInt32) : UInt32 × UInt32 × UInt32 × UInt32 :=
  let b := b ^^^ rotateLeft32 7 (a + d)
  let c := c ^^^ rotateLeft32 9 (b + a)
  let d := d ^^^ rotateLeft32 13 (c + b)
  let a := a ^^^ rotateLeft32 18 (d + c)
  (a, b, c, d)

/-- One round: a step over each column, from its place on the diagonal down. Columns and rows change
places after it. -/
def round (b : Block) : Block :=
  let (y0, y4, y8, y12) := quarter b.x0 b.x4 b.x8 b.x12
  let (y5, y9, y13, y1) := quarter b.x5 b.x9 b.x13 b.x1
  let (y10, y14, y2, y6) := quarter b.x10 b.x14 b.x2 b.x6
  let (y15, y3, y7, y11) := quarter b.x15 b.x3 b.x7 b.x11
  ⟨y0, y4, y8, y12, y1, y5, y9, y13, y2, y6, y10, y14, y3, y7, y11, y15⟩

/-- Eight rounds, and the sum with the block before them. -/
def stir (b : Block) : Block :=
  combine (· + ·) b (round (round (round (round (round (round (round (round b))))))))

end Block

/-- A value: an even number of blocks. -/
abbrev Value := List Block

/-- The values of the mixing of blocks one after the other, last first. -/
def stirAll : Block → List Block → Value → Value
  | _, [], done => done
  | last, block :: blocks, done =>
    let next := (last.xor block).stir
    stirAll next blocks (next :: done)

/-- The items in even places and those in odd places. -/
def alternate : List α → List α × List α
  | [] => ([], [])
  | a :: rest =>
    let (even, odd) := alternate rest
    (a :: odd, even)

/-- The next value. -/
def next (value : Value) : Value :=
  match value.getLast? with
  | none => []
  | some last =>
    let (even, odd) := alternate (stirAll last value []).reverse
    even ++ odd

/-- Fill a table with the given number of values; the value after the last. -/
def fill : Nat → Value → Array Value → Array Value × Value
  | 0, value, table => (table, value)
  | count + 1, value, table => fill count (next value) (table.push value)

/-- The number that a value tells: the first words of its last block. -/
def toNat (value : Value) : Nat :=
  match value.getLast? with
  | none => 0
  | some block => block.x0.toNat + block.x1.toNat * 0x100000000

/-- Mix values of a table into a value, the given number of times. -/
def mixTable (table : Array Value) : Nat → Value → Value
  | 0, value => value
  | count + 1, value =>
    let other := table.getD (toNat value % table.size) []
    mixTable table count (next (List.zipWith Block.xor value other))

/-- What a table of the given size makes of a value. -/
def mix (cost : Nat) (value : Value) : Value :=
  let (table, value) := fill cost value #[]
  mixTable table cost value

/-- Bytes as a value. -/
def valueOf (bytes : Bytes) : Value :=
  (pieces 16 (Bytes.words32Reversed bytes)).map Block.ofWords

/-- A value as bytes. -/
def bytesOf (value : Value) : Bytes :=
  value.flatMap fun block => Bytes.ofWords32Reversed block.toWords

/-- The parameters: how many values a table has, how many pairs of blocks a value has, and how many
tables there are. -/
structure Parameters where
  cost : Nat
  blockSize : Nat
  parallelism : Nat
  deriving DecidableEq, Repr

namespace Parameters

/-- The most memory that may be taken, in bytes. -/
def maxMemory : Nat := 32 * 1024 * 1024

/-- The memory that is taken: for the first values, for the table, and for two more values. -/
def memory (p : Parameters) : Nat :=
  128 * p.blockSize * p.parallelism + 128 * p.blockSize * (p.cost + 2)

/-- Whether parameters may be used: the table has a power of two of values, and does not take too
much memory. -/
def areValid (p : Parameters) : Bool :=
  2 ≤ p.cost && p.cost &&& (p.cost - 1) = 0 && 1 ≤ p.blockSize && 1 ≤ p.parallelism &&
    (4 ≤ p.blockSize || p.cost < twoTo (16 * p.blockSize)) && p.memory ≤ maxMemory

end Parameters

/-- Key bytes of the given number. -/
def derive (parameters : Parameters) (password salt : Bytes) (length : Nat) : Bytes :=
  let valueSize := 128 * parameters.blockSize
  let start := KeyDerivation.pbkdf2 .sha256 password salt 1 (valueSize * parameters.parallelism)
  let mixed := (pieces valueSize start).flatMap fun value =>
    bytesOf (mix parameters.cost (valueOf value))
  KeyDerivation.pbkdf2 .sha256 password mixed 1 length

end TlsListener.Scrypt
