import TlsListener.Text.Quoted

/-!
# Internet addresses

Addresses of the two families and their texts. An address of four bytes is written in decimal with
points. One of sixteen bytes is written as eight groups in base sixteen with colons, where the
longest run of two or more zero groups, the first of equal ones, is left out between two colons; the
addresses that embed one of four bytes end in its text.
-/

namespace TlsListener

/-- An internet address. -/
inductive Ip where
  | v4 (a b c d : UInt8)
  | v6 (groups : Vector UInt16 8)
  deriving DecidableEq

namespace Ip

/-- Four bytes in decimal with points. -/
def dotted (a b c d : UInt8) : String :=
  s!"{a.toNat}.{b.toNat}.{c.toNat}.{d.toNat}"

/-- Groups in base sixteen with colons between them. -/
def colons (groups : List UInt16) : String :=
  String.intercalate ":" (groups.map fun g => Text.hex g.toNat)

/-- The number of zeros that a list of groups begins with. -/
def leadingZeros (groups : List UInt16) : Nat :=
  (groups.takeWhile (· == 0)).length

/-- Where the longest run of zeros begins and how long it is; the first of equal runs. -/
def longestZeros (groups : List UInt16) : Nat × Nat :=
  (List.range groups.length).foldl (fun best start =>
    let length := leadingZeros (groups.drop start)
    if best.2 < length then (start, length) else best) (0, 0)

/-- Eight groups with the longest run of zeros left out. -/
def compressed (groups : List UInt16) : String :=
  let (start, length) := longestZeros groups
  if length < 2 then colons groups
  else colons (groups.take start) ++ "::" ++ colons (groups.drop (start + length))

/-- The two bytes of a group. -/
def bytesOf (group : UInt16) : UInt8 × UInt8 :=
  ((group >>> 8).toUInt8, group.toUInt8)

/-- The text of an address. -/
def text : Ip → String
  | v4 a b c d => dotted a b c d
  | v6 groups =>
    match groups.toList with
    | [0, 0, 0, 0, 0, 0xFFFF, high, low] =>
      "::ffff:" ++ dotted (bytesOf high).1 (bytesOf high).2 (bytesOf low).1 (bytesOf low).2
    | groups => compressed groups

/-- The groups that pairs of bytes make up. -/
def groupsOfBytes : List UInt8 → List UInt16
  | high :: low :: rest => (high.toUInt16 <<< 8 ||| low.toUInt16) :: groupsOfBytes rest
  | _ => []

/-- The address that four or sixteen bytes stand for. -/
def ofBytes? (bytes : List UInt8) : Option Ip :=
  match bytes with
  | [a, b, c, d] => some (v4 a b c d)
  | _ =>
    if bytes.length = 16 then
      let groups := (groupsOfBytes bytes).toArray
      if h : groups.size = 8 then some (v6 ⟨groups, h⟩) else none
    else none

end Ip

end TlsListener
