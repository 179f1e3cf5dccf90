import Blueprint.Source.Node

/-!
# Numerals

The number of a JSON numeral. An integer of 64 bits is exact. Any other numeral becomes a double:
its leading digits, as many as 64 bits hold, are scaled by a power of ten in one multiplication or
division of doubles (two or more for powers beyond `10 ^ 308`), each rounded on its own.

* `Numeral`: the parts of a numeral.
* `Numeral.toNumber`: its number; one beyond the largest double has none.
* `Numeral.scan`: reads a numeral, with the faults of readers and of skippers.
-/

namespace Blueprint.Json

/-- The parts of a numeral: sign, digits before and after the point, and the exponent's sign and
digits. -/
structure Numeral where
  negative : Bool
  whole : List Nat
  fraction : Option (List Nat)
  exponent : Option (Bool × List Nat)
  deriving DecidableEq, Repr

namespace Numeral

/-- One more than the largest number of 64 bits. -/
def limit : Nat := 0x10000000000000000

/-- The significand of digits before the point, and how many of them no longer fit. -/
def wholePart (digits : List Nat) : Nat × Nat :=
  digits.foldl
    -- once a digit is dropped, all behind it are
    (fun (s, dropped) d =>
      if dropped = 0 ∧ s * 10 + d < limit then (s * 10 + d, 0) else (s, dropped + 1))
    (0, 0)

/-- The significand extended by digits after the point, and how many of them fit. -/
def fractionPart : Nat → List Nat → Nat × Nat
  | s, [] => (s, 0)
  | s, d :: rest =>
    if s * 10 + d < limit then
      let (t, n) := fractionPart (s * 10 + d) rest
      (t, n + 1)
    else (s, 0)

/-- A power of ten as a double. -/
def powerOfTen (n : Nat) : Float := Float.ofScientific 1 false n

/-- `f` scaled by a power of ten. A factor beyond the largest power of ten is applied in parts. -/
def scale : Nat → Float → Int → Except Fault Float
  | 0, f, _ => .ok f
  | fuel + 1, f, e =>
    if e.natAbs ≤ 308 then
      .ok (if 0 ≤ e then f * powerOfTen e.natAbs else f / powerOfTen e.natAbs)
    else if f == 0 then .ok f
    else if 0 ≤ e then .error .malformed
    else scale fuel (f / powerOfTen 308) (e + 308)

/-- A double under a sign, which must be finite. -/
def signed (negative : Bool) (f : Float) : Except Fault Number :=
  let bits := (if negative then -f else f).toBits
  if isFiniteDouble bits then .ok (.float bits) else .error .malformed

/-- The largest exponent that is kept. -/
def exponentLimit : Nat := 0x80000000

/-- The number of a significand and a power of ten, with an exponent to come. -/
def withExponent (negative : Bool) (s : Nat) (power : Int) (minus : Bool) (digits : List Nat) :
    Except Fault Number :=
  let e := digits.foldl (fun n d => if n < exponentLimit then n * 10 + d else n) 0
  if exponentLimit ≤ e then
    if s ≠ 0 ∧ !minus then .error .malformed else signed negative 0
  else do
    signed negative (← scale 8 s.toUInt64.toFloat (if minus then power - e else power + e))

/-- The number of a numeral. -/
def toNumber (n : Numeral) : Except Fault Number :=
  let (s, dropped) := wholePart n.whole
  match n.fraction, n.exponent with
  | none, none =>
    if dropped = 0 then
      if !n.negative then .ok (.int s)
      else if s ≠ 0 ∧ s ≤ 0x8000000000000000 then .ok (.int (-s))
      -- zero with a sign, or an integer below all of 64 bits
      else signed true s.toUInt64.toFloat
    else do signed n.negative (← scale 8 s.toUInt64.toFloat dropped)
  | none, some (minus, ds) => withExponent n.negative s dropped minus ds
  | some fs, e =>
    let (t, taken) := fractionPart s fs
    let power : Int := (dropped : Int) - taken
    match e with
    | none => do signed n.negative (← scale 8 t.toUInt64.toFloat power)
    | some (minus, ds) => withExponent n.negative t power minus ds

/-- The value of a decimal digit. -/
def digit? (c : Char) : Option Nat := if c.isDigit then some (c.toNat - '0'.toNat) else none

/-- The decimal digits at the start of a text, and what follows them. -/
def digits : List Char → List Nat × List Char
  | [] => ([], [])
  | c :: rest =>
    match digit? c with
    | none => ([], c :: rest)
    | some d =>
      let (ds, after) := digits rest
      (d :: ds, after)

/-- A fault of readers and a fault of skippers. -/
structure Stop where
  onRead : Fault
  onSkip : Fault
  deriving DecidableEq, Repr

/-- The stop where a digit is missing: only a reader takes note that the text has ended. -/
def Stop.noDigit : List Char → Stop
  | [] => ⟨.incomplete, .malformed⟩
  | _ :: _ => ⟨.malformed, .malformed⟩

/-- Reads the digits before the point: a zero stands alone. -/
def scanWhole (cs : List Char) : Except Stop (List Nat × List Char) :=
  match digits cs with
  | ([], rest) => .error (.noDigit rest)
  | (0 :: _ :: _, _) => .error ⟨.malformed, .malformed⟩
  | (ds, rest) => .ok (ds, rest)

/-- Reads a point and the digits after it, if a point follows. -/
def scanFraction : List Char → Except Stop (Option (List Nat) × List Char)
  | [] => .ok (none, [])
  | c :: cs =>
    if c ≠ '.' then .ok (none, c :: cs)
    else match digits cs with
      | ([], rest) => .error (.noDigit rest)
      | (ds, rest) => .ok (some ds, rest)

/-- Reads the sign of an exponent. -/
def scanSign : List Char → Bool × List Char
  | [] => (false, [])
  | c :: cs => if c = '-' then (true, cs) else if c = '+' then (false, cs) else (false, c :: cs)

/-- Reads an exponent, if one follows. -/
def scanExponent : List Char → Except Stop (Option (Bool × List Nat) × List Char)
  | [] => .ok (none, [])
  | c :: cs =>
    if c ≠ 'e' ∧ c ≠ 'E' then .ok (none, c :: cs)
    else
      let (minus, rest) := scanSign cs
      match digits rest with
      | ([], rest) => .error (.noDigit rest)
      | (ds, rest) => .ok (some (minus, ds), rest)

/-- Reads a numeral and returns what follows it. -/
def scan (cs : List Char) : Except Stop (Numeral × List Char) := do
  let (negative, cs) := match cs with
    | '-' :: rest => (true, rest)
    | _ => (false, cs)
  let (whole, cs) ← scanWhole cs
  let (fraction, cs) ← scanFraction cs
  let (exponent, cs) ← scanExponent cs
  return (⟨negative, whole, fraction, exponent⟩, cs)

end Numeral

end Blueprint.Json
