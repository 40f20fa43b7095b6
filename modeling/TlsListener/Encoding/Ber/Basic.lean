import TlsListener.Crypto.Bytes

/-!
# Tagged values

A value is written as a header and contents, which may be further values. The header gives the tag
of the value, tells whether its contents are values, and how many bytes they take; contents that are
values may instead go on until an end mark.
-/

namespace TlsListener.Ber

/-- Where a tag has its meaning. -/
inductive TagClass where
  | universal
  | application
  /-- In the value around it. -/
  | contextual
  | privateUse
  deriving DecidableEq, Repr

/-- The tag of a value. -/
structure Tag where
  tagClass : TagClass
  number : Nat
  deriving DecidableEq, Repr

namespace Tag

/-- The tag of a value of one of the types that are known everywhere. -/
def universal (number : Nat) : Tag := ⟨.universal, number⟩

/-- The tag of a field by its number. -/
def field (number : Nat) : Tag := ⟨.contextual, number⟩

end Tag

/-- What stands before contents. -/
structure Header where
  tag : Tag
  /-- The contents are values. -/
  constructed : Bool
  /-- The number of bytes of the contents; without it they go on until an end mark. -/
  length : Option Nat
  deriving DecidableEq, Repr

/-- The class of a tag by its first byte. -/
def classOf (first : UInt8) : TagClass :=
  match first >>> 6 with
  | 0 => .universal
  | 1 => .application
  | 2 => .contextual
  | _ => .privateUse

/-- The greatest number that a further digit of a tag may follow. -/
def maxNumberFront : Nat := 0xFFFFFF

/-- The number of a tag in base 128 after its first digits, each digit but the last marked. -/
def readNumber : Nat → Bytes → Option (Nat × Bytes)
  | _, [] => none
  | front, digit :: rest =>
    let number := front * 128 + (digit &&& 0x7F).toNat
    if digit < 0x80 then some (number, rest)
    else if maxNumberFront < number then none
    else readNumber number rest

/-- The tag at the beginning of bytes, with its first byte. -/
def readTag : Bytes → Option (UInt8 × Tag × Bytes)
  | [] => none
  | first :: rest =>
    let short := (first &&& 0x1F).toNat
    if short < 31 then some (first, ⟨classOf first, short⟩, rest)
    else do
      let (number, rest) ← readNumber 0 rest
      return (first, ⟨classOf first, number⟩, rest)

/-- The most bytes that a length may take, leading zeros aside. -/
def maxLengthSize : Nat := 8

/-- The length at the beginning of bytes; none stands for contents up to an end mark. A length in
several bytes has to be followed by something. -/
def readLength : Bytes → Option (Option Nat × Bytes)
  | [] => none
  | first :: rest =>
    if first < 0x80 then some (some first.toNat, rest)
    else if first = 0x80 then some (none, rest)
    else do
      let (digits, after) ← splitAt? (first - 0x80).toNat rest
      let digits := digits.dropWhile (· = 0)
      guard (!after.isEmpty && digits.length ≤ maxLengthSize)
      return (some (Bytes.toNat digits), after)

/-- The header at the beginning of bytes. -/
def readHeader (bytes : Bytes) : Option (Header × Bytes) := do
  let (first, tag, rest) ← readTag bytes
  let (length, rest) ← readLength rest
  let constructed := first &&& 0x20 ≠ 0
  guard (constructed || length.isSome)
  return (⟨tag, constructed, length⟩, rest)

/-- A value whose header has been read. -/
structure Opened where
  tag : Tag
  constructed : Bool
  /-- The contents; if they go on until an end mark, everything that follows the header. -/
  contents : Bytes
  /-- What follows the contents, unless they go on until an end mark. -/
  after : Option Bytes

/-- Whether contents go on until an end mark. -/
def Opened.isEndless (opened : Opened) : Bool := opened.after.isNone

/-- Read the header at the beginning of bytes. -/
def open? (bytes : Bytes) : Option Opened := do
  let (header, rest) ← readHeader bytes
  match header.length with
  | none => return ⟨header.tag, header.constructed, rest, none⟩
  | some length =>
    let (contents, after) ← splitAt? length rest
    return ⟨header.tag, header.constructed, contents, some after⟩

/-- What follows an end mark, if there is one. -/
def afterEnd? : Bytes → Option Bytes
  | 0 :: 0 :: rest => some rest
  | _ => none

/-- How deep texts in several pieces may hold further pieces. -/
def maxPieceDepth : Nat := 5

/-- The contents of a text in several pieces, and what follows it. The pieces may be texts in pieces
themselves; their tags do not count. -/
def joinPieces (depth : Nat) (fuel : Nat) (endless : Bool) (bytes : Bytes) :
    Option (Bytes × Bytes) :=
  match fuel with
  | 0 => none
  | fuel + 1 =>
    match bytes with
    | [] => if endless then none else some ([], [])
    | b :: bs =>
      match afterEnd? (b :: bs) with
      | some rest => if endless then some ([], rest) else none
      | none => do
        let piece ← open? (b :: bs)
        let (front, rest) ←
          if piece.constructed then
            match depth with
            | 0 => none
            | depth + 1 =>
              let (inner, rest) ← joinPieces depth (piece.contents.length + 1) piece.isEndless
                piece.contents
              some (inner, piece.after.getD rest)
          else piece.after.map fun after => (piece.contents, after)
        let (back, rest) ← joinPieces depth fuel endless rest
        return (front ++ back, rest)
termination_by (depth, fuel)

/-- What follows the end marks that are due, each for a value whose contents go on until one. -/
def skipEnds : Nat → Nat → Bytes → Option Bytes
  | _, 0, bytes => some bytes
  | 0, _ + 1, _ => none
  | fuel + 1, due + 1, bytes =>
    match afterEnd? bytes with
    | some rest => skipEnds fuel due rest
    | none => do
      let value ← open? bytes
      match value.after with
      | some after => skipEnds fuel (due + 1) after
      | none => skipEnds fuel (due + 2) value.contents

/-- What follows a value whose header has been read. -/
def Opened.rest? (opened : Opened) : Option Bytes :=
  match opened.after with
  | some after => some after
  | none => skipEnds (opened.contents.length + 1) 1 opened.contents

/-- What stands before the given rest of bytes. -/
def front (bytes rest : Bytes) : Bytes :=
  bytes.take (bytes.length - rest.length)

end TlsListener.Ber
