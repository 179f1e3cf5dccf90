import Blueprint.Pattern.Basic
import Blueprint.Unicode.Trait

/-!
# Character classes

The sets of characters that patterns can name.

* `digits`, `blanks`, `wordChars`: the classes of one letter.
* `asciiClass?`: the classes in brackets and colons.
* `property?`: the classes of Unicode properties.
-/

namespace Blueprint.Pattern

open Unicode

/-- Decimal digits; of ASCII alone if so asked. -/
def digits (ascii : Bool) : CharSet :=
  if ascii then .range '0' '9' else ⟨isDecimalDigit, 72 * CharSet.rangeWeight⟩

/-- White space; of ASCII alone if so asked. -/
def blanks (ascii : Bool) : CharSet :=
  if ascii then ⟨fun c => c = ' ' || (9 ≤ c.toNat && c.toNat ≤ 13), 48⟩
  else .ofRanges whiteSpace

/-- The characters of words; of ASCII alone if so asked. -/
def wordChars (ascii : Bool) : CharSet :=
  if ascii then ⟨isAsciiWord, 64⟩ else ⟨isWord, 802 * CharSet.rangeWeight⟩

/-- A set of ASCII characters. -/
def asciiSet (p : Char → Bool) : CharSet := ⟨fun c => c.toNat < 128 && p c, 64⟩

/-- Printing ASCII characters other than letters, digits and the space. -/
def isAsciiPunctuation (c : Char) : Bool := 33 ≤ c.toNat && c.toNat ≤ 126 && !c.isAlphanum

/-- The classes in brackets and colons. -/
def asciiClasses : List (String × CharSet) := [
  ("alnum", asciiSet Char.isAlphanum),
  ("alpha", asciiSet Char.isAlpha),
  ("ascii", asciiSet fun _ => true),
  ("blank", asciiSet fun c => c = ' ' || c = '\t'),
  ("cntrl", asciiSet fun c => c.toNat < 32 || c.toNat = 127),
  ("digit", asciiSet Char.isDigit),
  ("graph", asciiSet fun c => 33 ≤ c.toNat && c.toNat ≤ 126),
  ("lower", asciiSet Char.isLower),
  ("print", asciiSet fun c => 32 ≤ c.toNat && c.toNat ≤ 126),
  ("punct", asciiSet isAsciiPunctuation),
  ("space", asciiSet fun c => c = ' ' || (9 ≤ c.toNat && c.toNat ≤ 13)),
  ("upper", asciiSet Char.isUpper),
  ("word", asciiSet isAsciiWord),
  ("xdigit", asciiSet fun c =>
    c.isDigit || ('a' ≤ c && c ≤ 'f') || ('A' ≤ c && c ≤ 'F'))]

/-- The class of a name in brackets and colons. -/
def asciiClass? (name : String) : Option CharSet := asciiClasses.lookup name

/-! ## Properties -/

/-- A name of a property as it is looked up: small ASCII letters without blanks, hyphens and
underscores, and without a leading `is`. -/
def looseName (s : List Char) : String :=
  let lower := s.map Char.toLower
  let dropped := match lower with
    | 'i' :: 's' :: rest => rest
    | _ => lower
  let kept := fun (cs : List Char) =>
    cs.filter fun c => c.toNat < 128 && c != ' ' && c != '-' && c != '_'
  match kept dropped with
  | ['c'] => if dropped.length < lower.length then "isc" else "c"
  | cs => String.ofList cs

/-- A property: its names, and the characters that have it. -/
structure Property where
  names : List String
  set : CharSet

/-- The characters of some categories, in about `ranges` ranges. -/
def ofCategories (ks : List Category) (ranges : Nat) : CharSet :=
  ⟨fun c => ks.contains (category c.toNat), ranges * CharSet.rangeWeight⟩

/-- The general categories and their unions. -/
def categoryProperties : List Property := [
  ⟨["lu", "uppercaseletter"], ofCategories [.lu] 650⟩,
  ⟨["ll", "lowercaseletter"], ofCategories [.ll] 660⟩,
  ⟨["lt", "titlecaseletter"], ofCategories [.lt] 10⟩,
  ⟨["lc", "casedletter"], ofCategories [.lu, .ll, .lt] 140⟩,
  ⟨["lm", "modifierletter"], ofCategories [.lm] 75⟩,
  ⟨["lo", "otherletter"], ofCategories [.lo] 530⟩,
  ⟨["l", "letter"], ofCategories [.lu, .ll, .lt, .lm, .lo] 680⟩,
  ⟨["mn", "nonspacingmark"], ofCategories [.mn] 360⟩,
  ⟨["mc", "spacingmark"], ofCategories [.mc] 190⟩,
  ⟨["me", "enclosingmark"], ofCategories [.me] 5⟩,
  ⟨["m", "mark", "combiningmark"], ofCategories [.mn, .mc, .me] 320⟩,
  ⟨["nd", "decimalnumber", "digit"], ofCategories [.nd] 72⟩,
  ⟨["nl", "letternumber"], ofCategories [.nl] 12⟩,
  ⟨["no", "othernumber"], ofCategories [.no] 72⟩,
  ⟨["n", "number"], ofCategories [.nd, .nl, .no] 145⟩,
  ⟨["pc", "connectorpunctuation"], ofCategories [.pc] 6⟩,
  ⟨["pd", "dashpunctuation"], ofCategories [.pd] 20⟩,
  ⟨["ps", "openpunctuation"], ofCategories [.ps] 79⟩,
  ⟨["pe", "closepunctuation"], ofCategories [.pe] 76⟩,
  ⟨["pi", "initialpunctuation"], ofCategories [.pi] 11⟩,
  ⟨["pf", "finalpunctuation"], ofCategories [.pf] 10⟩,
  ⟨["po", "otherpunctuation"], ofCategories [.po] 190⟩,
  ⟨["p", "punctuation", "punct"], ofCategories [.pc, .pd, .ps, .pe, .pi, .pf, .po] 200⟩,
  ⟨["sm", "mathsymbol"], ofCategories [.sm] 64⟩,
  ⟨["sc", "currencysymbol"], ofCategories [.sc] 21⟩,
  ⟨["sk", "modifiersymbol"], ofCategories [.sk] 31⟩,
  ⟨["so", "othersymbol"], ofCategories [.so] 190⟩,
  ⟨["s", "symbol"], ofCategories [.sm, .sc, .sk, .so] 240⟩,
  ⟨["zs", "spaceseparator"], ofCategories [.zs] 7⟩,
  ⟨["zl", "lineseparator"], ofCategories [.zl] 1⟩,
  ⟨["zp", "paragraphseparator"], ofCategories [.zp] 1⟩,
  ⟨["z", "separator"], ofCategories [.zs, .zl, .zp] 8⟩,
  ⟨["cc", "control", "cntrl"], ofCategories [.cc] 2⟩,
  ⟨["cf", "format"], ofCategories [.cf] 21⟩,
  ⟨["cs", "surrogate"], ofCategories [.cs] 1⟩,
  ⟨["co", "privateuse"], ofCategories [.co] 3⟩,
  ⟨["cn", "unassigned"], ofCategories [.cn] 740⟩,
  ⟨["c", "other"], ofCategories [.cc, .cf, .cs, .co, .cn] 740⟩,
  ⟨["any"], ⟨fun _ => true, 7 * CharSet.rangeWeight⟩⟩,
  ⟨["assigned"], ⟨fun c => category c.toNat != .cn, 740 * CharSet.rangeWeight⟩⟩,
  ⟨["ascii"], asciiSet fun _ => true⟩]

/-- Characters that may start an identifier. -/
def startsIdentifier (c : Char) : Bool :=
  match category c.toNat with
  | .lu | .ll | .lt | .lm | .lo | .nl => c.toNat != 0x2E2F
  | _ => [0x1885, 0x1886, 0x2118, 0x212E, 0x309B, 0x309C].contains c.toNat

/-- Characters that may continue an identifier. -/
def continuesIdentifier (c : Char) : Bool :=
  startsIdentifier c || match category c.toNat with
    | .mn | .mc | .nd | .pc => true
    | _ => [0xB7, 0x387, 0x19DA, 0x200C, 0x200D, 0x30FB, 0xFF65].contains c.toNat
        || (0x1369 ≤ c.toNat && c.toNat ≤ 0x1371)

/-- The traits that follow from the category and from the case of a character. -/
def derivedProperties : List Property := [
  ⟨["alphabetic", "alpha"], ⟨isAlphabetic, 760 * CharSet.rangeWeight⟩⟩,
  ⟨["lowercase", "lower"], ⟨isLowercase, 680 * CharSet.rangeWeight⟩⟩,
  ⟨["uppercase", "upper"], ⟨isUppercase, 660 * CharSet.rangeWeight⟩⟩,
  ⟨["whitespace", "wspace", "space"], .ofRanges whiteSpace⟩,
  ⟨["graphemeextend", "grext"], ⟨isGraphemeExtend, 380 * CharSet.rangeWeight⟩⟩,
  ⟨["cased"], ⟨fun c => isUppercase c || isLowercase c || category c.toNat = .lt,
    160 * CharSet.rangeWeight⟩⟩,
  ⟨["idstart", "ids", "xidstart", "xids"], ⟨startsIdentifier, 690 * CharSet.rangeWeight⟩⟩,
  ⟨["idcontinue", "idc", "xidcontinue", "xidc"],
    ⟨continuesIdentifier, 800 * CharSet.rangeWeight⟩⟩]

/-- The property of a name in a list. -/
def find? (name : String) (ps : List Property) : Option CharSet :=
  (ps.find? (·.names.contains name)).map (·.set)

/-- The set of a name in a table of ranges. -/
def findNamed? (name : String) (table : List Named) : Option CharSet :=
  (table.find? fun t => looseName t.name.toList = name || looseName t.code.toList = name).map
    fun t => .ofRanges t.ranges

/-- The characters of a property given by its name alone. A category goes before a trait where
both have the name. -/
def property? (name : List Char) : Option CharSet :=
  let n := looseName name
  let traits := (find? n derivedProperties).or (findNamed? n traits)
  let categories := find? n categoryProperties
  (if n = "cf" ∨ n = "sc" ∨ n = "lc" then categories.or traits else traits.or categories).or
    (findNamed? n scripts)

/-- The characters with a value of a property. -/
def propertyValue? (name value : List Char) : Option CharSet :=
  let n := looseName name
  let v := looseName value
  if n = "generalcategory" ∨ n = "gc" then find? v categoryProperties
  else if n = "script" ∨ n = "sc" ∨ n = "scriptextensions" ∨ n = "scx" then findNamed? v scripts
  else none

end Blueprint.Pattern
