import TlsListener.Encoding.Base64

/-!
# Armoured blocks of bytes

A PEM text holds blocks of bytes, each between a line that begins it and one that ends it, both with
the block's label. Text between blocks does not count. A block may have a header, which a blank line
ends. Where a block is not well-formed it is given up, and the next one is looked for in the lines
that follow; that it was there is not forgotten, for it is up to the reader of a text whether it
counts.

Lines are taken in pieces of at most 254 bytes, and what ends a line in blanks, control characters
or bytes outside ASCII is cut off.
-/

namespace TlsListener

/-- A text in ASCII as bytes. -/
def ascii (s : String) : Bytes := s.toUTF8.toList

namespace Pem

/-- A block: its label, its header lines, and its bytes. -/
structure Block where
  label : Bytes
  header : List Bytes
  data : Bytes
  deriving Repr

/-- The longest piece of a line that is taken at a time, in bytes. -/
def maxPiece : Nat := 254

/-- The pieces of lines of a text, line ends included. -/
def linePieces (text : Bytes) : List Bytes :=
  let (done, last, _) := text.foldl (fun (done, piece, size) b =>
    if b = 10 || size + 1 = maxPiece then ((b :: piece).reverse :: done, [], 0)
    else (done, b :: piece, size + 1)) (([] : List Bytes), ([] : Bytes), 0)
  (if last.isEmpty then done else last.reverse :: done).reverse

/-- A piece without what is cut off its end. -/
def trimEnd (piece : Bytes) : Bytes :=
  (piece.reverse.dropWhile fun b => b ≤ 32 || 128 ≤ b).reverse

/-- What is between a prefix and a suffix of a line that has both. -/
def between? (front back line : Bytes) : Option Bytes :=
  if front.isPrefixOf line && back.isSuffixOf line then
    some ((line.drop front.length).take (line.length - front.length - back.length))
  else none

/-- The label of a line that begins a block. -/
def beginLabel? (line : Bytes) : Option Bytes :=
  between? (ascii "-----BEGIN ") (ascii "-----") line

/-- What a line that ends a block begins with. -/
def endMark : Bytes := ascii "-----END "

/-- The line that ends a block with a given label. -/
def endLine (label : Bytes) : Bytes := endMark ++ label ++ ascii "-----"

/-- How far the reading of a block has come. -/
inductive Phase where
  /-- It is not known whether the lines so far are a header. -/
  | undecided
  /-- A line with a colon was read. -/
  | header
  /-- A blank line was read. -/
  | body
  deriving DecidableEq, Repr

/-- A block being read: its label, the lines before and after the blank line, last first, whether
the last piece left its line unfinished, and whether a short line was read after the blank one. -/
structure Pending where
  label : Bytes
  phase : Phase := .undecided
  front : List Bytes := []
  rest : List Bytes := []
  unfinished : Bool := false
  short : Bool := false

/-- The length of full lines after a header. -/
def fullLine : Nat := 64

namespace Pending

/-- The block that is complete. Without a blank line and without a colon there is no header. A block
has to hold something. -/
def finish (p : Pending) : Option Block := do
  let (header, body) := if p.phase = .undecided then ([], p.front) else (p.front, p.rest)
  let data ← Base64.decode? body.reverse.flatten
  guard !data.isEmpty
  return ⟨p.label, header.reverse, data⟩

/-- One more line of text. After a header all lines but the last have their full length. -/
def addLine (p : Pending) (line : Bytes) : Option Pending :=
  let text := line.takeWhile (· ≠ 0)
  if p.short then none
  else if p.phase = .body then
    if fullLine < line.length then none
    else some { p with rest := text :: p.rest, short := line.length < fullLine }
  else some { p with front := text :: p.front }

/-- A blank line. A piece that only ends an unfinished line is none. -/
def addBlank (p : Pending) (unfinished : Bool) : Option Pending :=
  if unfinished then some p
  else if p.phase = .body then none
  else some { p with phase := .body }

end Pending

/-- The reading of a text: the blocks so far, last first, with nothing in the place of one that was
given up, the block being read, and whether no line has been read since the last block. -/
structure Reading where
  blocks : List (Option Block) := []
  pending : Option Pending := none
  fresh : Bool := true

/-- A byte order mark. -/
def byteOrderMark : Bytes := [0xEF, 0xBB, 0xBF]

/-- One more piece of a line while no block is being read. -/
def Reading.addOutside (reading : Reading) (piece : Bytes) : Reading :=
  let marked := reading.fresh && byteOrderMark.isPrefixOf piece && 3 < piece.length
  let line := trimEnd (if marked then piece.drop 3 else piece)
  { reading with
    fresh := false
    pending := (beginLabel? line).map fun label => { label } }

/-- What a block being read comes to by one more piece of a line: it goes on, or it is complete. -/
def Pending.add (p : Pending) (piece : Bytes) : Option (Pending ⊕ Block) := do
  let before := p.unfinished
  let line := trimEnd piece
  let phase := if p.phase = .undecided && piece.contains 58 then Phase.header else p.phase
  let p := { p with
    phase
    unfinished := piece.length = maxPiece && piece.getLast? ≠ some 10 }
  if line.isEmpty then return .inl (← p.addBlank before)
  else if endMark.isPrefixOf line then
    guard (line = endLine p.label)
    return .inr (← p.finish)
  else return .inl (← p.addLine line)

/-- One more piece of a line. -/
def Reading.add (reading : Reading) (piece : Bytes) : Reading :=
  match reading.pending with
  | none => reading.addOutside piece
  | some pending =>
    match pending.add piece with
    | some (.inl pending) => { reading with pending := some pending }
    | some (.inr block) => ⟨some block :: reading.blocks, none, true⟩
    | none => ⟨none :: reading.blocks, none, true⟩

/-- The blocks of a text in order, with nothing in the place of one that is not well-formed. A block
that has no end is not. -/
def blocks (text : Bytes) : List (Option Block) :=
  let reading := (linePieces text).foldl Reading.add {}
  reading.blocks.reverse ++ (reading.pending.map fun _ => none).toList

end Pem

end TlsListener
