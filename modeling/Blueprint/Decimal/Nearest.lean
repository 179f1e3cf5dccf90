/-!
# Nearest doubles

The double nearest to a decimal number, found in whole numbers. Of two doubles that are equally near
the one with an even mantissa is taken.

* `nearest`: the bits of the double nearest to `digits * 10 ^ power`.
-/

namespace Blueprint.Decimal

/-- `num / den`, in units of `2 ^ e`, as a fraction. -/
def inUnits (num den : Nat) (e : Int) : Nat × Nat :=
  if 0 ≤ e then (num, den * Nat.pow 2 e.toNat) else (num * Nat.pow 2 (-e).toNat, den)

/-- A fraction rounded to a whole number, a half to the even neighbour. -/
def roundHalfEven (num den : Nat) : Nat :=
  let below := num / den
  let rest := 2 * (num % den)
  if den < rest || (rest = den && below % 2 = 1) then below + 1 else below

/-- The exponent of the unit in which a positive fraction has a mantissa of 53 bits; subnormal
numbers share the least unit. -/
def unitOf (num den : Nat) : Int :=
  let e : Int := max (-1074) ((num.log2 : Int) - den.log2 - 53)
  let (n, d) := inUnits num den e
  if n / d < 0x20000000000000 then e else e + 1

/-- The bits of the double nearest to a positive fraction. A mantissa rounded up to a power of two
carries into the exponent, as the layout of doubles has it. -/
def nearestTo (num den : Nat) : Nat :=
  let e := unitOf num den
  let (n, d) := inUnits num den e
  (e + 1074).toNat * 0x10000000000000 + roundHalfEven n d

/-- The bits of infinity, which are more than those of every finite double. -/
def infiniteBits : Nat := 0x7FF0000000000000

/-- The bits of the finite double nearest to `digits * 10 ^ power`, if there is one. Powers out of
the range of doubles are told by the number of digits alone. -/
def nearest (digits : Nat) (power : Int) : Option Nat :=
  let size : Int := (Nat.toDigits 10 digits).length + power
  if digits = 0 || size < -330 then some 0
  else if 310 < size then none
  else
    let bits :=
      if 0 ≤ power then nearestTo (digits * Nat.pow 10 power.toNat) 1
      else nearestTo digits (Nat.pow 10 (-power).toNat)
    if bits < infiniteBits then some bits else none

end Blueprint.Decimal
