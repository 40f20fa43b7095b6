import TlsListener.Crypto.Word

/-!
# The SHA-3 family of digests

A state of twenty-five lanes of 64 bits, five by five, is stirred by twenty-four rounds after each
block that is mixed into it. A digest takes in blocks of as many bytes as are left of the state when
twice its strength is set aside.
-/

namespace TlsListener.Sha3

/-- The lanes, row after row. -/
abbrev State := Array UInt64

/-- A lane by its column and its row, both counted around. -/
def lane (state : State) (x y : Nat) : UInt64 := state.getD (x % 5 + 5 * (y % 5)) 0

/-- The state of the given lanes. -/
@[specialize] def ofLanes (f : Nat → Nat → UInt64) : State :=
  (Array.range 25).map fun i => f (i % 5) (i / 5)

/-- The lanes of each column combined. -/
def parities (state : State) : Array UInt64 :=
  (Array.range 5).map fun x =>
    lane state x 0 ^^^ lane state x 1 ^^^ lane state x 2 ^^^ lane state x 3 ^^^ lane state x 4

/-- Mix the two neighbouring columns into each lane. -/
def mixColumns (state : State) : State :=
  let parities := parities state
  let parity := fun x => parities.getD (x % 5) 0
  ofLanes fun x y => lane state x y ^^^ parity (x + 4) ^^^ rotateLeft64 1 (parity (x + 1))

/-- By how much each lane is turned, row after row. -/
def turns : Array UInt64 := #[
  0, 1, 62, 28, 27,
  36, 44, 6, 55, 20,
  3, 10, 43, 25, 39,
  41, 45, 15, 21, 8,
  18, 2, 61, 56, 14]

/-- A lane turned by its own amount. One that is turned by nothing stays as it is. -/
def turned (state : State) (x y : Nat) : UInt64 :=
  let amount := turns.getD (x % 5 + 5 * (y % 5)) 0
  if amount = 0 then lane state x y else rotateLeft64 amount (lane state x y)

/-- Turn each lane and move it to another place. -/
def moveLanes (state : State) : State :=
  ofLanes fun x y => turned state (x + 3 * y) x

/-- Combine each lane with the two that follow it in its row. -/
def mixRows (state : State) : State :=
  ofLanes fun x y => lane state x y ^^^ (~~~lane state (x + 1) y &&& lane state (x + 2) y)

/-- The constants of the rounds, which are mixed into the first lane. -/
def constants : List UInt64 := [
  0x0000000000000001, 0x0000000000008082, 0x800000000000808a, 0x8000000080008000,
  0x000000000000808b, 0x0000000080000001, 0x8000000080008081, 0x8000000000008009,
  0x000000000000008a, 0x0000000000000088, 0x0000000080008009, 0x000000008000000a,
  0x000000008000808b, 0x800000000000008b, 0x8000000000008089, 0x8000000000008003,
  0x8000000000008002, 0x8000000000000080, 0x000000000000800a, 0x800000008000000a,
  0x8000000080008081, 0x8000000000008080, 0x0000000080000001, 0x8000000080008008]

/-- One round. -/
def round (state : State) (constant : UInt64) : State :=
  (mixRows (moveLanes (mixColumns state))).modify 0 (· ^^^ constant)

/-- All rounds. -/
def stir (state : State) : State := constants.foldl round state

/-- The state after one more block. -/
def absorb (state : State) (block : Bytes) : State :=
  let words := (Bytes.words64Reversed block).toArray
  stir (state.mapIdx fun i word => word ^^^ words.getD i 0)

/-- A message made up to whole blocks: the bits of a mark, zero bits, and a one bit. -/
def closed (mark : UInt8) (blockSize : Nat) (message : Bytes) : Bytes :=
  let missing := blockSize - message.length % blockSize
  if missing = 1 then message ++ [mark ||| 0x80]
  else message ++ mark :: List.replicate (missing - 2) 0 ++ [0x80]

/-- How many bytes a digest of the given strength, in bytes, takes in at a time. -/
def blockSize (strength : Nat) : Nat := 200 - 2 * strength

/-- The beginning of the state after a message. -/
def digest (mark : UInt8) (strength size : Nat) (message : Bytes) : Bytes :=
  let blocks := pieces (blockSize strength) (closed mark (blockSize strength) message)
  let state := blocks.foldl absorb (Array.replicate 25 0)
  (Bytes.ofWords64Reversed state.toList).take size

/-- The digest of the given size, in bytes. -/
def sha3 (size : Nat) : Bytes → Bytes := digest 0x06 size size

/-- SHAKE256 cut to a size of at most one block. -/
def shake256 (size : Nat) : Bytes → Bytes := digest 0x1F 32 size

end TlsListener.Sha3
