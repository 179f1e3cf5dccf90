import Blueprint.Decimal.Nearest
import Blueprint.Source.Node
import Blueprint.Yaml.Tree

/-!
# Values of scalars

What the text of a plain scalar stands for: nothing, a truth value, a number or itself.

* `plainDatum`: the value of a plain scalar.
* `scalarOf`: what a scalar reads as, for each type that may be wanted.
-/

namespace Blueprint.Yaml

/-- A word for the absence of a value. -/
def isNullWord (s : String) : Bool := ["null", "Null", "NULL", "~"].contains s

/-- The truth value of a word. -/
def boolOfWord? (s : String) : Option Bool :=
  if ["true", "True", "TRUE"].contains s then some true
  else if ["false", "False", "FALSE"].contains s then some false
  else none

/-! ## Numbers -/

/-- The value of a digit in some base. -/
def digitIn? (base : Nat) (c : Char) : Option Nat := (hexDigit? c).filter (· < base)

/-- The number of some digits. -/
def digitsIn? (base : Nat) : List Char → Option Nat
  | [] => none
  | cs => cs.foldlM (fun n c => (digitIn? base c).map (n * base + ·)) 0

/-- Whether a text is a number of several digits that starts with zero; it then is no number. -/
def hasLeadingZero (cs : List Char) : Bool :=
  let digits := match cs with
    | '-' :: rest | '+' :: rest => rest
    | _ => cs
  match digits with
  | '0' :: c :: rest => (c :: rest).all Char.isDigit
  | _ => false

/-- A number written in one of four bases, without a sign. -/
def magnitude? (cs : List Char) : Option Nat :=
  match cs with
  | '0' :: 'x' :: rest => digitsIn? 16 rest
  | '0' :: 'o' :: rest => digitsIn? 8 rest
  | '0' :: 'b' :: rest => digitsIn? 2 rest
  | _ => if hasLeadingZero cs then none else digitsIn? 10 cs

/-- The whole number that a text stands for. -/
def integer? (cs : List Char) : Option Int :=
  match cs with
  | '-' :: rest => (magnitude? rest).map fun n => -(n : Int)
  | '+' :: rest => (magnitude? rest).map Int.ofNat
  | _ => (magnitude? cs).map Int.ofNat

/-- The digits before and after a point, and the exponent, of a number without a sign. -/
def decimalParts? (cs : List Char) : Option (List Char × List Char × Int) := do
  let whole := cs.takeWhile Char.isDigit
  let rest := cs.dropWhile Char.isDigit
  let (fraction, rest) := match rest with
    | '.' :: after => (after.takeWhile Char.isDigit, after.dropWhile Char.isDigit)
    | _ => ([], rest)
  if whole.isEmpty && fraction.isEmpty then none
  match rest with
  | [] => return (whole, fraction, 0)
  | c :: after =>
    if c ≠ 'e' && c ≠ 'E' then none
    let exponent ← match after with
      | '-' :: ds => (digitsIn? 10 ds).map fun n => -(n : Int)
      | '+' :: ds => (digitsIn? 10 ds).map Int.ofNat
      | _ => (digitsIn? 10 after).map Int.ofNat
    return (whole, fraction, exponent)

/-- The bits of the finite double that a number without a sign stands for. -/
def magnitudeBits? (cs : List Char) : Option Nat := do
  let (whole, fraction, exponent) ← decimalParts? cs
  let digits ← digitsIn? 10 (whole ++ fraction)
  Decimal.nearest digits (exponent - fraction.length)

/-- The bit that makes a double negative. -/
def signBit : Nat := 0x8000000000000000

/-- The bits of the double that a text stands for. -/
def doubleBits? (cs : List Char) : Option Nat :=
  let word := String.ofList cs
  if [".inf", ".Inf", ".INF", "+.inf", "+.Inf", "+.INF"].contains word then
    some Decimal.infiniteBits
  else if ["-.inf", "-.Inf", "-.INF"].contains word then some (signBit + Decimal.infiniteBits)
  else if [".nan", ".NaN", ".NAN"].contains word then some (Decimal.infiniteBits + 0x8000000000000)
  else match cs with
    | '-' :: rest => (magnitudeBits? rest).map (signBit + ·)
    | '+' :: rest => magnitudeBits? rest
    | _ => magnitudeBits? cs

/-! ## Plain scalars -/

/-- The number of a whole number. One that 64 bits do not hold is refused. -/
def integerNumber (n : Int) : Except Fault Json.Number :=
  if -0x8000000000000000 ≤ n ∧ n < 0x10000000000000000 then .ok (.int n) else .error .mismatch

/-- Whether a whole number is kept as one at all. Larger ones are read as doubles. -/
def isWide (n : Int) : Bool :=
  -0x80000000000000000000000000000000 ≤ n && n < 0x100000000000000000000000000000000

/-- The whole number that a text stands for, if it is kept as one. -/
def keptInteger? (cs : List Char) : Option Int := (integer? cs).filter isWide

/-- The double that a text stands for. -/
def double? (cs : List Char) : Option Json.Number :=
  (doubleBits? cs).map fun bits => .float bits.toUInt64

/-- The value of a plain scalar. -/
def plainDatum (s : String) : Except Fault Datum :=
  if s.isEmpty || isNullWord s then .ok .null
  else match boolOfWord? s, keptInteger? s.toList with
    | some b, _ => .ok (.bool b)
    | none, some n => (integerNumber n).map .number
    | none, none =>
      match (if hasLeadingZero s.toList then none else double? s.toList) with
      | some d => .ok (.number d)
      | none => .ok (.text s)

/-! ## Tagged scalars -/

/-- The start of the tags that the notation itself defines. -/
def coreTag : String := "tag:yaml.org,2002:"

/-- Whether a tag belongs to the document alone. -/
def isLocalTag (tag : String) : Bool := tag.toList.head? = some '!'

/-- A value that has to be there. -/
def orMismatch (d : Option Datum) : Except Fault Datum :=
  match d with
  | some d => .ok d
  | none => .error .mismatch

/-- The value of a scalar with a tag. Four tags ask for a type, and a local tag is refused. -/
def taggedDatum (tag s : String) : Except Fault Datum :=
  if isLocalTag tag then .error .mismatch
  else if tag = coreTag ++ "bool" then orMismatch ((boolOfWord? s).map .bool)
  else if tag = coreTag ++ "int" then
    match keptInteger? s.toList with
    | some n => (integerNumber n).map .number
    | none => .error .mismatch
  else if tag = coreTag ++ "float" then orMismatch ((double? s.toList).map .number)
  else if tag = coreTag ++ "null" then orMismatch (if isNullWord s then some .null else none)
  else .ok (.text s)

/-- Whether a scalar stands for no value where a value may be missing. -/
def isAbsent (tag : Option String) (s : String) (style : Style) : Except Fault Bool :=
  if style ≠ .plain then .ok false
  else match tag with
    | none => .ok (s.isEmpty || isNullWord s)
    | some t =>
      if t ≠ coreTag ++ "null" then .ok false
      else if isNullWord s then .ok true
      else .error .mismatch

/-- What a scalar reads as. -/
def scalarOf (tag : Option String) (s : String) (style : Style) : Scalar where
  text := .ok s
  flag :=
    if style = .plain || (style = .literal && tag = some (coreTag ++ "bool")) then
      match boolOfWord? s with
      | some b => .ok b
      | none => .error .mismatch
    else .error .mismatch
  absent := isAbsent tag s style
  blank := s.isEmpty && style = .plain
  datum := match tag with
    | some t => taggedDatum t s
    | none => if style = .plain then plainDatum s else .ok (.text s)

end Blueprint.Yaml
