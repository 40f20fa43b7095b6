import TlsListener.Number.Binary64
import TlsListener.Toml.Text

/-!
# Numbers, dates and times of TOML

Integers have 64 bits. Underscores may stand between digits. A floating-point number that is too
large for its width is refused, unless it is negative. Dates must exist in the calendar; dates and
times are recognised here and not kept apart.
-/

namespace TlsListener.Toml.Reader

/-- The digits of base ten. -/
def isDigit (c : Char) : Bool :=
  '0' ≤ c && c ≤ '9'

/-- Further digits, an underscore allowed before each. -/
def moreDigits (admits : Char → Bool) : Reader (List Char) :=
  many (satisfy admits <|> (do char '_'; satisfy admits))

/-- The number that digits stand for in a base of at most sixteen. -/
def digitsValue (base : Nat) (digits : List Char) : Nat :=
  digits.foldl (fun n c => n * base + (hexValue? c).getD 0) 0

/-- An optional sign; `true` for minus. -/
def sign : Reader Bool :=
  (do char '-'; pure true) <|> (do char '+'; pure false) <|> pure false

/-- The digits of a whole number, without a leading zero unless it is zero. -/
def wholeDigits : Reader (List Char) :=
  (do
    let first ← satisfy fun c => '1' ≤ c && c ≤ '9'
    let others ← moreDigits isDigit
    return first :: others) <|>
  (do char '0'; return ['0'])

/-- Digits that may begin with zeros. -/
def anyDigits : Reader (List Char) := do
  let first ← satisfy isDigit
  let others ← moreDigits isDigit
  return first :: others

/-- Whether a whole number has a place among the 64-bit integers. -/
def fitsInteger (n : Int) : Bool :=
  -(twoTo 63 : Int) ≤ n && n < twoTo 63

/-- An integer in base sixteen, eight or two, marked by the letter after a zero. -/
def markedInteger (mark : Char) (base : Nat) (admits : Char → Bool) : Reader Int := do
  literal ['0', mark]
  let first ← satisfy admits
  let others ← moreDigits admits
  return digitsValue base (first :: others)

/-- An integer. -/
def integer : Reader Int := do
  let n ← markedInteger 'x' 16 (fun c => (hexValue? c).isSome) <|>
    markedInteger 'o' 8 (fun c => '0' ≤ c && c ≤ '7') <|>
    markedInteger 'b' 2 (fun c => c == '0' || c == '1') <|>
    (do
      let negative ← sign
      let n := digitsValue 10 (← wholeDigits)
      return if negative then -(n : Int) else n)
  if fitsInteger n then pure n else failure

/-- The exponent of a floating-point number. -/
def exponent : Reader Int := do
  let _ ← satisfy fun c => c == 'e' || c == 'E'
  let negative ← sign
  let n := digitsValue 10 (← anyDigits)
  return if negative then -(n : Int) else n

/-- The digits after the point. -/
def fraction : Reader (List Char) := do
  char '.'
  anyDigits

/-- Infinity or not-a-number, by name. -/
def namedNumber : Reader Binary64 := do
  let negative ← sign
  (do literal ['i', 'n', 'f']; return .infinite negative) <|>
    (do literal ['n', 'a', 'n']; return .nan)

/-- A floating-point number in digits. -/
def decimalNumber : Reader Binary64 := do
  let negative ← sign
  let whole ← wholeDigits
  let (after, power) ← (do return ([], ← exponent)) <|>
    (do return (← fraction, (← optional exponent).getD 0))
  let number := Binary64.ofDecimal negative (digitsValue 10 (whole ++ after)) (power - after.length)
  if number = .infinite false then failure else pure number

/-- A floating-point number. -/
def number : Reader Binary64 :=
  decimalNumber <|> namedNumber

/-- A number of exactly `count` digits within bounds. -/
def bounded (count low high : Nat) : Reader Nat := do
  let digits ← upTo (satisfy isDigit) count
  let n := digitsValue 10 digits
  if digits.length = count ∧ low ≤ n ∧ n ≤ high then pure n else failure

/-- The days of a month of the Gregorian calendar. -/
def daysInMonth (year month : Nat) : Nat :=
  if month = 2 then
    if year % 4 = 0 ∧ (year % 100 ≠ 0 ∨ year % 400 = 0) then 29 else 28
  else if month = 4 ∨ month = 6 ∨ month = 9 ∨ month = 11 then 30
  else 31

/-- A date. -/
def date : Reader Unit := do
  let year ← bounded 4 0 9999
  char '-'
  let month ← bounded 2 1 12
  char '-'
  let day ← bounded 2 1 31
  if daysInMonth year month < day then failure

/-- A time of day. -/
def time : Reader Unit := do
  let _ ← bounded 2 0 23
  char ':'
  let _ ← bounded 2 0 59
  char ':'
  let _ ← bounded 2 0 60
  let _ ← optional (do char '.'; takeWhile1 isDigit)

/-- The distance of a local time from universal time. -/
def timeZone : Reader Unit :=
  (do let _ ← satisfy fun c => c == 'Z' || c == 'z') <|>
  (do
    let _ ← satisfy fun c => c == '+' || c == '-'
    let _ ← bounded 2 0 23
    char ':'
    let _ ← bounded 2 0 59)

/-- A date, a time, or both. -/
def moment : Reader Unit :=
  (do
    date
    let _ ← optional do
      let _ ← satisfy fun c => c == 'T' || c == 't' || c == ' '
      time
      let _ ← optional timeZone) <|> time

end TlsListener.Toml.Reader
