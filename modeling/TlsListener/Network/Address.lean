import TlsListener.Network.Ip

/-!
# Socket addresses

An internet address with a port. In text the port follows a colon, and an address with colons of its
own stands in brackets, perhaps with the zone in which it is valid after a percent sign.
-/

namespace TlsListener

/-- An internet address with a port. Port zero asks for any free port. -/
structure Address where
  ip : Ip
  port : UInt16
  /-- The zone in which an address of sixteen bytes is valid, by number; zero stands for none. -/
  zone : UInt32 := 0
  deriving DecidableEq

namespace Address

/-- The text of a socket address. -/
def text (address : Address) : String :=
  match address.ip with
  | .v4 _ _ _ _ => s!"{address.ip.text}:{address.port.toNat}"
  | .v6 _ =>
    let zone := if address.zone = 0 then "" else s!"%{address.zone}"
    s!"[{address.ip.text}{zone}]:{address.port.toNat}"

/-- A number in decimal, up to a limit. -/
def decimal? (limit : Nat) (digits : List Char) : Option Nat := do
  guard (digits.all Char.isDigit && !digits.isEmpty)
  let n := digits.foldl (fun n c => n * 10 + (c.toNat - '0'.toNat)) 0
  guard (n ≤ limit)
  return n

/-- A byte in decimal, without a leading zero. -/
def byte? (digits : List Char) : Option UInt8 := do
  guard (digits.length = 1 || digits.head? ≠ some '0')
  return (← decimal? 255 digits).toUInt8

/-- Four bytes in decimal with points. -/
def dotted? (text : List Char) : Option (List UInt8) := do
  let parts := text.splitOn '.'
  guard (parts.length = 4)
  parts.mapM byte?

/-- A group of at most four digits in base sixteen. -/
def group? (digits : List Char) : Option UInt16 := do
  guard (!digits.isEmpty && digits.length ≤ 4)
  let values ← digits.mapM fun c => ("0123456789abcdef".toList.idxOf? c.toLower)
  return (values.foldl (fun n d => n * 16 + d) 0).toUInt16

/-- Groups with colons between them, of which the last two may be four bytes in decimal. -/
def groups? (text : List Char) : Option (List UInt16) :=
  if text.isEmpty then some []
  else
    let parts := text.splitOn ':'
    match parts.getLast? with
    | some last =>
      if last.contains '.' then do
        let front ← parts.dropLast.mapM group?
        return front ++ Ip.groupsOfBytes (← dotted? last)
      else parts.mapM group?
    | none => none

/-- Split a text at the first occurrence of two colons. -/
def splitAtGap : List Char → Option (List Char × List Char)
  | ':' :: ':' :: rest => some ([], rest)
  | c :: rest => (splitAtGap rest).map fun (front, back) => (c :: front, back)
  | [] => none

/-- Sixteen bytes as eight groups, of which a run of zeros may be left out between two colons. -/
def colons? (text : List Char) : Option Ip := do
  let groups ← match splitAtGap text with
    | none => groups? text
    | some (front, back) => do
      let front ← groups? front
      let back ← groups? back
      guard (front.length + back.length ≤ 7)
      pure (front ++ List.replicate (8 - front.length - back.length) 0 ++ back)
  if h : groups.toArray.size = 8 then some (.v6 ⟨groups.toArray, h⟩) else none

/-- Sixteen bytes with the zone that may follow them. -/
def zoned? (text : List Char) : Option (Ip × UInt32) := do
  let ip ← colons? (text.takeWhile (· ≠ '%'))
  match text.dropWhile (· ≠ '%') with
  | _ :: digits => return (ip, (← decimal? 0xFFFFFFFF digits).toUInt32)
  | [] => return (ip, 0)

/-- The socket address of a text. -/
def parse? (text : String) : Option Address := do
  let reversed := text.toList.reverse
  let port ← decimal? 65535 (reversed.takeWhile (· ≠ ':')).reverse
  match (reversed.dropWhile (· ≠ ':')).drop 1 with
  | ']' :: inner =>
    let '[' :: inner := inner.reverse | none
    let (ip, zone) ← zoned? inner
    return { ip, zone, port := port.toUInt16 }
  | front =>
    return { ip := ← Ip.ofBytes? (← dotted? front.reverse), port := port.toUInt16 }

end Address

end TlsListener
