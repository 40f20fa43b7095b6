import TlsListener.Crypto.Word

/-!
# The SHA-1 digest
-/

namespace TlsListener.Sha1

/-- The five words that are carried from block to block. -/
structure State where
  a : UInt32
  b : UInt32
  c : UInt32
  d : UInt32
  e : UInt32

/-- The words of a block, continued to eighty. -/
def schedule (block : Array UInt32) : Nat → Array UInt32
  | 0 => block
  | count + 1 =>
    let words := schedule block count
    let fromEnd := fun back => words.getD (words.size - back) 0
    words.push (rotateLeft32 1 (fromEnd 3 ^^^ fromEnd 8 ^^^ fromEnd 14 ^^^ fromEnd 16))

/-- The function and the constant of a round, by its number. -/
def mix (s : State) (number : Nat) : UInt32 :=
  if number < 20 then ((s.b &&& s.c) ||| (~~~s.b &&& s.d)) + 0x5a827999
  else if number < 40 then (s.b ^^^ s.c ^^^ s.d) + 0x6ed9eba1
  else if number < 60 then ((s.b &&& s.c) ||| (s.b &&& s.d) ||| (s.c &&& s.d)) + 0x8f1bbcdc
  else (s.b ^^^ s.c ^^^ s.d) + 0xca62c1d6

/-- One round. -/
def round (s : State) (number : Nat) (word : UInt32) : State :=
  ⟨rotateLeft32 5 s.a + mix s number + s.e + word, s.a, rotateLeft32 30 s.b, s.c, s.d⟩

/-- The state after one more block. -/
def compress (s : State) (block : Array UInt32) : State :=
  let words := (schedule block 64).toList
  let t := words.zipIdx.foldl (fun s (w, number) => round s number w) s
  ⟨s.a + t.a, s.b + t.b, s.c + t.c, s.d + t.d, s.e + t.e⟩

/-- SHA-1. -/
def sha1 (message : Bytes) : Bytes :=
  let words := Bytes.words32 (Bytes.closedForward 64 8 message)
  let s := (pieces 16 words).foldl (fun s block => compress s block.toArray)
    ⟨0x67452301, 0xefcdab89, 0x98badcfe, 0x10325476, 0xc3d2e1f0⟩
  Bytes.ofWords32 [s.a, s.b, s.c, s.d, s.e]

end TlsListener.Sha1
