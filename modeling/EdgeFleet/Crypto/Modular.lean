/-!
# Numbers modulo a number

Powers by repeated squaring, and what follows from them: inverses modulo a prime.
-/

namespace EdgeFleet.Crypto

/-- The binary digits of a number, the highest first. -/
def binary (value : Nat) : List Bool :=
  (List.range (Nat.log2 value + 1)).reverse.map value.testBit

/-- A power modulo a number. -/
def powMod (modulus base exponent : Nat) : Nat :=
  (binary exponent).foldl
    (fun power bit =>
      let square := power * power % modulus
      if bit then square * base % modulus else square)
    (1 % modulus)

/-- The inverse of a number that a prime does not divide, modulo that prime. -/
def inverseMod (prime value : Nat) : Nat :=
  powMod prime (value % prime) (prime - 2)

/-- A difference modulo a number, of numbers below it. -/
def subMod (modulus a b : Nat) : Nat :=
  (a + modulus - b) % modulus

example : powMod 1000003 3 1000002 = 1 := by decide +kernel

example : inverseMod 1000003 1234 * 1234 % 1000003 = 1 := by decide +kernel

end EdgeFleet.Crypto
