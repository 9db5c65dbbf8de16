/-
  The nearest binary64 number.

  A finite binary64 number is `mantissa · 2 ^ exponent`, where the mantissa is below `2 ^ 53` and
  the exponent no less than -1074.  A quotient of natural numbers is rounded to the nearest such
  number; of two that are equally near the one with the even mantissa is taken.  All arithmetic is
  exact.

  Of the decimals that are read as a given number, those with the fewest digits are wanted, and of
  these the nearest.  If some decimal on a grid is read as the number, so is one of the two on the
  grid between which the number lies; and seventeen digits always suffice.
-/

namespace QueryTypings

/-- A number that is finite and not negative, as binary64 has it. -/
structure Binary64 where
  mantissa : Nat
  exponent : Int
deriving Repr, BEq, DecidableEq

namespace Binary64

/-- A quotient rounded to the nearest natural number, a half to the even one. -/
def roundedQuotient (num den : Nat) : Nat :=
  let q := num / den
  let twice := 2 * (num % den)
  if den < twice || (twice == den && q % 2 == 1) then q + 1 else q

/-- The quotient divided by `2 ^ e`, as a numerator and a denominator. -/
def scaled (num den : Nat) (e : Int) : Nat × Nat :=
  if 0 ≤ e then (num, den * Nat.pow 2 e.toNat) else (num * Nat.pow 2 e.natAbs, den)

/-- The exponent that leaves a mantissa of 53 bits, or the least one. -/
def exponentOf (num den : Nat) : Int :=
  let guess : Int := (num.log2 : Int) - den.log2 - 52
  let (n, d) := scaled num den guess
  max (if n < d * Nat.pow 2 52 then guess - 1 else guess) (-1074)

/-- The number nearest to a quotient; none if that is too great. -/
def nearest? (num den : Nat) : Option Binary64 :=
  if num = 0 then some ⟨0, 0⟩
  else
    let e := exponentOf num den
    let (n, d) := scaled num den e
    let m := roundedQuotient n d
    let (m, e) := if m = Nat.pow 2 53 then (Nat.pow 2 52, e + 1) else (m, e)
    if 971 < e then none else some ⟨m, e⟩

/-- The least power of ten that is too great. -/
def decimalLimit : Int := 310

/-- The number nearest to `digits · 10 ^ exponent`; none if that is too great. -/
def ofDecimal? (digits : Nat) (exponent : Int) : Option Binary64 :=
  let last : Int := (toString digits).length + exponent
  if digits = 0 || last < -decimalLimit - 20 then some ⟨0, 0⟩
  else if decimalLimit < last then none
  else if 0 ≤ exponent then nearest? (digits * Nat.pow 10 exponent.toNat) 1
  else nearest? digits (Nat.pow 10 exponent.natAbs)

/-- The natural number that it is, if it is one. -/
def whole? (x : Binary64) : Option Nat :=
  if 0 ≤ x.exponent then some (x.mantissa * Nat.pow 2 x.exponent.toNat)
  else if x.mantissa % Nat.pow 2 x.exponent.natAbs = 0 then
    some (x.mantissa / Nat.pow 2 x.exponent.natAbs)
  else none

/-! ## The fewest digits that read back -/

/-- The number divided by `10 ^ e`, as a numerator and a denominator. -/
def scaledByTen (x : Binary64) (e : Int) : Nat × Nat :=
  (x.mantissa * Nat.pow 2 x.exponent.toNat * Nat.pow 10 (-e).toNat,
    Nat.pow 2 (-x.exponent).toNat * Nat.pow 10 e.toNat)

/-- How many digits stand in front of the point; no more than zero below one tenth. -/
def wholeDigits (x : Binary64) : Int :=
  let guess : Int := Int.fdiv (((x.mantissa.log2 : Int) + x.exponent) * 30103) 100000 + 1
  let (n, d) := x.scaledByTen guess
  if n < d then guess else guess + 1

/-- The two decimals `digits · 10 ^ e` on both sides of the number, the nearer first. -/
def neighbours (x : Binary64) (e : Int) : List (Nat × Int) :=
  let (n, d) := x.scaledByTen e
  let low := n / d
  if roundedQuotient n d = low then [(low, e), (low + 1, e)] else [(low + 1, e), (low, e)]

/-- The fewest digits that are read as the number, with the power of ten that they count. -/
def shortest (x : Binary64) : Nat × Int :=
  if x.mantissa = 0 then (0, 0)
  else
    let grids := (List.range 17).map fun k => x.wholeDigits - (k + 1 : Nat)
    let fitting := grids.findSome? fun e =>
      (x.neighbours e).find? fun c => ofDecimal? c.1 c.2 == some x
    fitting.getD (x.mantissa, 0)

end Binary64

end QueryTypings
