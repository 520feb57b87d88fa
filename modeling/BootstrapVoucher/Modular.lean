/-!
# Arithmetic modulo a number

Powers by repeated squaring, inverses by Euclid's algorithm and square roots modulo a prime.
-/

namespace BootstrapVoucher.Modular

/-- The power `base ^ exponent` modulo `m`. -/
def power (m base : Nat) (exponent : Nat) : Nat :=
  if exponent = 0 then 1 % m
  else
    let root := power m base (exponent / 2)
    if exponent % 2 = 0 then root * root % m else root * root % m * base % m

/-- Euclid's algorithm on two remainders, each with the factor that gives it from the number whose
inverse is wanted. -/
def bezout (r s : Nat) (x y : Int) : Nat × Int :=
  if h : s = 0 then (r, x)
  else
    have : r % s < s := Nat.mod_lt r (Nat.pos_of_ne_zero h)
    bezout s (r % s) y (x - (r / s : Nat) * y)
termination_by s

/-- The inverse of `a` modulo `m`, for `a` coprime to `m`. -/
def inverse (m a : Nat) : Nat := ((bezout (a % m) m 1 0).2 % m).toNat

/-- The number of times that two divides `n`, and what is left of `n`. -/
def twos (n : Nat) : Nat × Nat :=
  if h : n ≠ 0 ∧ n % 2 = 0 then
    have : n / 2 < n := by omega
    let (k, odd) := twos (n / 2)
    (k + 1, odd)
  else (0, n)
termination_by n

/-- The least number of squarings that takes `t` to one, at most `limit`. -/
def order (m t : Nat) : (limit : Nat) → Nat
  | 0 => 0
  | limit + 1 => if t = 1 then 0 else order m (t * t % m) limit + 1

/-- Corrects a root `r` whose square is `t` times too big, where `c` generates the elements of order
`2 ^ k`; each step makes the order of `t` smaller. -/
def adjust (m : Nat) : (steps : Nat) → (k c t r : Nat) → Nat
  | 0, _, _, _, r => r
  | steps + 1, k, c, t, r =>
    if t = 1 then r
    else
      let i := order m t k
      let b := power m c (1 <<< (k - i - 1))
      adjust m steps i (b * b % m) (t * (b * b % m) % m) (r * b % m)

/-- The least number from `z` on that is no square modulo the prime `p`. -/
def nonSquare (p : Nat) : (steps : Nat) → (z : Nat) → Nat
  | 0, z => z
  | steps + 1, z => if power p z ((p - 1) / 2) = p - 1 then z else nonSquare p steps (z + 1)

/-- A square root of `a` modulo the prime `p`, if there is one. -/
def squareRoot? (p a : Nat) : Option Nat :=
  let a := a % p
  let root :=
    if p % 4 = 3 then power p a ((p + 1) / 4)
    else
      let (k, odd) := twos (p - 1)
      adjust p k k (power p (nonSquare p 1000 2) odd) (power p a odd) (power p a ((odd + 1) / 2))
  if root * root % p = a then some root else none

end BootstrapVoucher.Modular
