import Blueprint.Source.Node

/-!
# Quoted strings

The text between the quotes of a JSON string. Quotes, backslashes and control characters are
escaped and everything else stands for itself.

* `encode`: the escaped form.
* `scan`: a string read up to its closing quote. Reading decodes every escape; skipping only
  looks for the end, so an unpaired surrogate stops a reader and not a skipper.
-/

namespace Blueprint

namespace Json.Quoted

/-- A hexadecimal digit in small letters. -/
def hexDigit (n : Nat) : Char :=
  Char.ofNat (if n < 10 then '0'.toNat + n else 'a'.toNat + (n - 10))

/-- The escaped form of a character. -/
def encodeChar (c : Char) : List Char :=
  if c = '"' then ['\\', '"']
  else if c = '\\' then ['\\', '\\']
  else if c = '\n' then ['\\', 'n']
  else if c = '\r' then ['\\', 'r']
  else if c = '\t' then ['\\', 't']
  else if c.toNat = 8 then ['\\', 'b']
  else if c.toNat = 12 then ['\\', 'f']
  else if c.toNat < 32 then ['\\', 'u', '0', '0', hexDigit (c.toNat / 16), hexDigit (c.toNat % 16)]
  else [c]

/-- The escaped form of a text. -/
def encode (cs : List Char) : List Char := cs.flatMap encodeChar

/-- The value of a hexadecimal digit. -/
def hexValue? (c : Char) : Option Nat :=
  if '0' ≤ c ∧ c ≤ '9' then some (c.toNat - '0'.toNat)
  else if 'a' ≤ c ∧ c ≤ 'f' then some (c.toNat - 'a'.toNat + 10)
  else if 'A' ≤ c ∧ c ≤ 'F' then some (c.toNat - 'A'.toNat + 10)
  else none

/-- The value of four hexadecimal digits. -/
def hex4? (a b c d : Char) : Option Nat := do
  return (((← hexValue? a) * 16 + (← hexValue? b)) * 16 + (← hexValue? c)) * 16 + (← hexValue? d)

/-- The character of a one-letter escape. -/
def unescape? (c : Char) : Option Char :=
  if c = '"' ∨ c = '\\' ∨ c = '/' then some c
  else if c = 'b' then some (Char.ofNat 8)
  else if c = 'f' then some (Char.ofNat 12)
  else if c = 'n' then some '\n'
  else if c = 'r' then some '\r'
  else if c = 't' then some '\t'
  else none

/-- The fault of a `\u` whose four digits do not follow: the text is incomplete when fewer than
four bytes of it are left. -/
def shortEscape (rest : List Char) : Fault :=
  if rest.foldl (fun n c => n + c.utf8Size) 0 < 4 then .incomplete else .malformed

/-- A piece of a string: a character, or the code unit of a `\u` escape. -/
inductive Piece where
  | char (c : Char)
  | code (n : Nat)
  deriving DecidableEq, Repr

/-- The pieces of a string whose opening quote has been read, and what follows its closing quote. -/
def pieces : List Char → List Piece × Except Fault (List Char)
  | [] => ([], .error .incomplete)
  | [c] =>
    if c = '"' then ([], .ok [])
    else if c.toNat < 32 then ([], .error .malformed)
    else ([], .error .incomplete)
  | c :: e :: rest =>
    if c = '"' then ([], .ok (e :: rest))
    else if c.toNat < 32 then ([], .error .malformed)
    else if c ≠ '\\' then
      let (ps, after) := pieces (e :: rest)
      (.char c :: ps, after)
    else if e ≠ 'u' then
      match unescape? e with
      | none => ([], .error .malformed)
      | some d =>
        let (ps, after) := pieces rest
        (.char d :: ps, after)
    else
      match rest with
      | h₁ :: h₂ :: h₃ :: h₄ :: digitsRest =>
        match hex4? h₁ h₂ h₃ h₄ with
        | none => ([], .error .malformed)
        | some n =>
          let (ps, after) := pieces digitsRest
          (.code n :: ps, after)
      | short => ([], .error (shortEscape short))

/-- A high and a low surrogate joined. -/
def joinSurrogates (high low : Nat) : Char :=
  Char.ofNat (0x10000 + (high - 0xD800) * 0x400 + (low - 0xDC00))

/-- The text of the pieces, up to the fault that ended them. Surrogates must come in pairs. -/
def decode (stop : Option Fault) : List Piece → Except Fault (List Char)
  | [] => match stop with
    | none => .ok []
    | some f => .error f
  | .char c :: rest => (decode stop rest).map (c :: ·)
  | .code n :: rest =>
    if n < 0xD800 ∨ 0xDFFF < n then (decode stop rest).map (Char.ofNat n :: ·)
    else if 0xDC00 ≤ n then .error .malformed
    else match rest with
      | [] => .error (stop.getD .malformed)
      | .char _ :: _ => .error .malformed
      | .code m :: after =>
        if 0xDC00 ≤ m ∧ m ≤ 0xDFFF then (decode stop after).map (joinSurrogates n m :: ·)
        else .error .malformed

/-- What a string reads as, and what follows its closing quote. -/
structure Scan where
  text : Except Fault (List Char)
  rest : Except Fault (List Char)

/-- Reads a string whose opening quote has been read. -/
def scan (cs : List Char) : Scan :=
  match pieces cs with
  | (ps, .ok rest) => ⟨decode none ps, .ok rest⟩
  | (ps, .error f) => ⟨decode (some f) ps, .error f⟩

end Json.Quoted

end Blueprint
