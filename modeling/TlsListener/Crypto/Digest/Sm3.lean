import TlsListener.Crypto.Word

/-!
# The SM3 digest
-/

namespace TlsListener.Sm3

/-- The eight words that are carried from block to block. -/
structure State where
  a : UInt32
  b : UInt32
  c : UInt32
  d : UInt32
  e : UInt32
  f : UInt32
  g : UInt32
  h : UInt32

/-- A word mixed with two turned copies of itself, as in the rounds. -/
def spread (x : UInt32) : UInt32 := x ^^^ rotateLeft32 9 x ^^^ rotateLeft32 17 x

/-- A word mixed with two turned copies of itself, as in the schedule. -/
def spreadFurther (x : UInt32) : UInt32 := x ^^^ rotateLeft32 15 x ^^^ rotateLeft32 23 x

/-- The words of a block, continued by the given number. -/
def schedule (block : Array UInt32) : Nat → Array UInt32
  | 0 => block
  | count + 1 =>
    let words := schedule block count
    let fromEnd := fun back => words.getD (words.size - back) 0
    words.push (spreadFurther (fromEnd 16 ^^^ fromEnd 9 ^^^ rotateLeft32 15 (fromEnd 3)) ^^^
      rotateLeft32 7 (fromEnd 13) ^^^ fromEnd 6)

/-- The constant of a round, turned by the number of the round. -/
def constant (number : Nat) : UInt32 :=
  let amount := (number % 32).toUInt32
  let base : UInt32 := if number < 16 then 0x79cc4519 else 0x7a879d8a
  if amount = 0 then base else rotateLeft32 amount base

/-- The function of the first three words of a round. -/
def first (number : Nat) (x y z : UInt32) : UInt32 :=
  if number < 16 then x ^^^ y ^^^ z else (x &&& y) ||| (x &&& z) ||| (y &&& z)

/-- The function of the fifth to the seventh word of a round. -/
def second (number : Nat) (x y z : UInt32) : UInt32 :=
  if number < 16 then x ^^^ y ^^^ z else (x &&& y) ||| (~~~x &&& z)

/-- One round, with the word of its number and the one four places further on. -/
def round (s : State) (number : Nat) (word later : UInt32) : State :=
  let turned := rotateLeft32 12 s.a
  let mixed := rotateLeft32 7 (turned + s.e + constant number)
  let t₁ := first number s.a s.b s.c + s.d + (mixed ^^^ turned) + (word ^^^ later)
  let t₂ := second number s.e s.f s.g + s.h + mixed + word
  ⟨t₁, s.a, rotateLeft32 9 s.b, s.c, spread t₂, s.e, rotateLeft32 19 s.f, s.g⟩

/-- The state after one more block. -/
def compress (s : State) (block : Array UInt32) : State :=
  let words := schedule block 52
  let t := (List.range 64).foldl (fun s number =>
    round s number (words.getD number 0) (words.getD (number + 4) 0)) s
  ⟨s.a ^^^ t.a, s.b ^^^ t.b, s.c ^^^ t.c, s.d ^^^ t.d, s.e ^^^ t.e, s.f ^^^ t.f, s.g ^^^ t.g,
    s.h ^^^ t.h⟩

/-- SM3. -/
def sm3 (message : Bytes) : Bytes :=
  let words := Bytes.words32 (Bytes.closedForward 64 8 message)
  let s := (pieces 16 words).foldl (fun s block => compress s block.toArray)
    ⟨0x7380166f, 0x4914b2b9, 0x172442d7, 0xda8a0600, 0xa96f30bc, 0x163138aa, 0xe38dee4d,
      0xb0fb0e4e⟩
  Bytes.ofWords32 [s.a, s.b, s.c, s.d, s.e, s.f, s.g, s.h]

end TlsListener.Sm3
