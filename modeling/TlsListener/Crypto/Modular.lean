import TlsListener.Crypto.Bytes

/-!
# Arithmetic modulo a number

Powers, inverses and square roots modulo a number. Inverses are found by Euclid's algorithm; square
roots exist modulo a prime number only, and are found from a number that is no square.
-/

namespace TlsListener

/-- The number of bits of a number. -/
def bitLength (n : Nat) : Nat :=
  if n = 0 then 0 else n.log2 + 1

/-- A power modulo a number, by squaring over the given number of bits of the exponent. -/
def powerBits (modulus base : Nat) : Nat → Nat → Nat
  | 0, _ => 1 % modulus
  | bits + 1, exponent =>
    let half := powerBits modulus (base * base % modulus) bits (exponent / 2)
    if exponent % 2 = 1 then half * base % modulus else half

/-- A power modulo a number. -/
def powerMod (modulus base exponent : Nat) : Nat :=
  powerBits modulus (base % modulus) (bitLength exponent) exponent

/-- Euclid's algorithm on two numbers, each of which is a multiple of one number modulo another; the
factor of the last number before zero. -/
def euclid (modulus n m factor factor' : Nat) : Nat :=
  if _h : m = 0 then factor
  else
    let quotient := n / m
    euclid modulus m (n % m) factor' ((factor + (modulus - quotient * factor' % modulus)) % modulus)
termination_by m
decreasing_by exact Nat.mod_lt _ (Nat.pos_of_ne_zero _h)

/-- The inverse of a number modulo another with which it has no divisor in common. -/
def inverseMod (modulus n : Nat) : Nat :=
  euclid modulus modulus (n % modulus) 0 (1 % modulus)

/-- How often a number can be halved, counted up to a limit, and what remains. -/
def halvings : Nat → Nat → Nat × Nat
  | 0, n => (0, n)
  | limit + 1, n =>
    if n % 2 = 1 then (0, n)
    else
      let (count, odd) := halvings limit (n / 2)
      (count + 1, odd)

/-- A number squared again and again modulo another. -/
def squareMod (modulus : Nat) : Nat → Nat → Nat
  | 0, n => n
  | count + 1, n => squareMod modulus count (n * n % modulus)

/-- Make the square of a root equal to a number, of which it is a multiple: the factor has an order
of at most two to the `count`, and `turn` has twice that order. -/
def correctRoot (modulus : Nat) : Nat → Nat → Nat → Nat → Nat
  | 0, root, _, _ => root
  | count + 1, root, factor, turn =>
    let square := turn * turn % modulus
    if squareMod modulus count factor = 1 then correctRoot modulus count root factor square
    else correctRoot modulus count (root * turn % modulus) (factor * square % modulus) square

/-- Whether a number is no square modulo a prime number. -/
def isNonsquare (prime n : Nat) : Bool := powerMod prime n ((prime - 1) / 2) = prime - 1

/-- How many numbers are tried to find one that is no square. -/
def maxTrials : Nat := 1000

/-- A square root of a number modulo an odd prime number, if it has one. -/
def rootMod? (prime n : Nat) : Option Nat := do
  let n := n % prime
  let (count, odd) := halvings (bitLength prime) (prime - 1)
  let nonsquare ← (List.range maxTrials).find? (isNonsquare prime)
  let root := correctRoot prime (count - 1) (powerMod prime n ((odd + 1) / 2))
    (powerMod prime n odd) (powerMod prime nonsquare odd)
  guard (root * root % prime = n)
  return root

end TlsListener
