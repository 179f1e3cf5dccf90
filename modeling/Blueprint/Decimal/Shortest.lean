/-!
# Shortest decimals

A double stands for every real that rounds to it. Its shortest decimal is the one with the fewest
digits among those reals, and of two with that many digits the one nearest to the double.

* `Binary`: a positive double as `mantissa * 2 ^ exponent`.
* `shortest`: the digits of the shortest decimal and the power of ten that scales them.
* `layout`: digits and power written out, positional up to sixteen digits before the point.
-/

namespace Blueprint.Decimal

/-- A positive double. `narrow` marks a power of two, whose lower neighbour is half as far. -/
structure Binary where
  mantissa : Nat
  exponent : Int
  narrow : Bool

/-- The magnitude of the double with the given bits, which must be finite. -/
def Binary.ofBits (bits : UInt64) : Binary :=
  let fraction : Nat := bits.toNat % 0x10000000000000
  let biased : Nat := bits.toNat / 0x10000000000000 % 0x800
  if biased = 0 then ⟨fraction, -1074, false⟩
  else ⟨fraction + 0x10000000000000, (biased : Int) - 1075, fraction == 0 && biased > 1⟩

/-- A decimal number `digits * 10 ^ power`. -/
structure Scaled where
  digits : Nat
  power : Int
  deriving DecidableEq, Repr

/-- A power of an exponent of either sign, as numerator and denominator. -/
def ratio (base : Nat) (e : Int) : Nat × Nat :=
  if 0 ≤ e then (Nat.pow base e.toNat, 1) else (1, Nat.pow base (-e).toNat)

/-- The interval of the reals that round to `x`, in quarters of a unit in the last place. -/
def Binary.bounds (x : Binary) : Nat × Nat :=
  (4 * x.mantissa - (if x.narrow then 1 else 2), 4 * x.mantissa + 2)

/-- Whether `digits * 10 ^ power` rounds to `x`. The ends count when the mantissa is even. -/
def Binary.holds (x : Binary) (d : Scaled) : Bool :=
  let (bn, bd) := ratio 2 (x.exponent - 2)
  let (tn, td) := ratio 10 d.power
  let value := d.digits * tn * bd
  let low := x.bounds.1 * bn * td
  let high := x.bounds.2 * bn * td
  if x.mantissa % 2 = 0 then low ≤ value && value ≤ high else low < value && value < high

/-- The power of ten at or below `num / den`, looked for upwards from `e` in `fuel` steps. -/
def magnitude (num den : Nat) : Nat → Int → Int
  | 0, e => e
  | fuel + 1, e =>
    let (tn, td) := ratio 10 (e + 1)
    if num * td < den * tn then e else magnitude num den fuel (e + 1)

/-- The decimals with `n` digits next to `x`, the nearer first. -/
def Binary.neighbours (x : Binary) (top : Int) (n : Nat) : List Scaled :=
  let power := top - (n - 1 : Nat)
  let (bn, bd) := ratio 2 x.exponent
  let (tn, td) := ratio 10 power
  let num := x.mantissa * bn * td
  let den := bd * tn
  let below := num / den
  let above := below + 1
  if 2 * (num % den) ≤ den then [⟨below, power⟩, ⟨above, power⟩]
  else [⟨above, power⟩, ⟨below, power⟩]

/-- The first decimal that rounds to `x`, with `n` or more digits, seventeen at most. -/
def Binary.search (x : Binary) (top : Int) : Nat → Nat → Scaled
  | 0, n => ((x.neighbours top n).head?).getD ⟨0, 0⟩
  | fuel + 1, n =>
    match (x.neighbours top n).find? x.holds with
    | some d => d
    | none => x.search top fuel (n + 1)

/-- Trailing zeros moved from the digits to the power. -/
def Scaled.strip : Nat → Scaled → Scaled
  | 0, d => d
  | fuel + 1, d =>
    if d.digits ≠ 0 ∧ d.digits % 10 = 0 then Scaled.strip fuel ⟨d.digits / 10, d.power + 1⟩ else d

/-- The shortest decimal of a positive double. -/
def shortest (x : Binary) : Scaled :=
  let (bn, bd) := ratio 2 x.exponent
  let top := magnitude (x.mantissa * bn) bd 640 (-330)
  (x.search top 16 1).strip 20

/-- The decimal digits of a number. -/
def digitsOf (n : Nat) : List Char := Nat.toDigits 10 n

/-- An exponent, with a sign when negative. -/
def exponentText (e : Int) : List Char :=
  if e < 0 then '-' :: digitsOf (-e).toNat else digitsOf e.toNat

/-- A decimal written out. The point stands inside or next to the digits when at most sixteen
digits precede it or at most four zeros follow it; otherwise an exponent is written. -/
def layout (d : Scaled) : List Char :=
  let ds := digitsOf d.digits
  let point : Int := ds.length + d.power
  if 0 ≤ d.power ∧ point ≤ 16 then ds ++ List.replicate d.power.toNat '0' ++ ['.', '0']
  else if 0 < point ∧ point ≤ 16 then ds.take point.toNat ++ '.' :: ds.drop point.toNat
  else if -5 < point ∧ point ≤ 0 then
    '0' :: '.' :: List.replicate (-point).toNat '0' ++ ds
  else match ds with
    | [c] => c :: 'e' :: exponentText (point - 1)
    | c :: rest => c :: '.' :: rest ++ 'e' :: exponentText (point - 1)
    | [] => []

/-- A finite double, written so that it reads back. -/
def ofDouble (bits : UInt64) : List Char :=
  let sign := if bits.toNat / 0x8000000000000000 = 1 then ['-'] else []
  let x := Binary.ofBits bits
  sign ++ (if x.mantissa = 0 then ['0', '.', '0'] else layout (shortest x))

end Blueprint.Decimal
