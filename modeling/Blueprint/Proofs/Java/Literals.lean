import Blueprint.Java.Lexeme

/-!
# String literals read back

* `escape?`: an escape sequence; `readBody`, `readLiteral`: a string literal at the start of a text.
* `hasCodeEscape`: whether a text gives a character by its code; such escapes are replaced before
  literals are read.
* `readBody_literalChar`: a character is read from how it is written, unless it ends a line.
* **`readLiteral_literal`**: a text without line breaks is read back from its literal, up to the
  last quote, whatever quotes and backslashes it has. Otherwise the first line break leaves the
  literal without its closing quote.
-/

namespace Blueprint.Java

/-! ## Reading -/

/-- Why no string literal is read. -/
inductive LiteralFault where
  /-- The text does not start with a quote. -/
  | unquoted
  /-- The text ends before the closing quote. -/
  | unfinished
  /-- The line ends before the closing quote. -/
  | brokenLine
  /-- What follows a backslash is no escape sequence. -/
  | unknownEscape
  deriving DecidableEq, Repr

/-- A line feed or a carriage return. -/
def endsLine (c : Char) : Bool := c = '\n' || c = '\r'

/-- The characters that stand for another one behind a backslash. -/
def letterEscapes : List (Char × Char) := [
  ('b', '\x08'), ('s', ' '), ('t', '\t'), ('n', '\n'), ('f', '\x0c'), ('r', '\r'), ('"', '"'),
  ('\x27', '\x27'), ('\\', '\\')]

/-- An octal digit. -/
def isOctal (c : Char) : Bool := '0' ≤ c && c ≤ '7'

/-- The character of an octal code of up to three digits, at most `377`, and the number of digits.
-/
def octalEscape? (cs : List Char) : Option (Char × Nat) :=
  match (cs.take (if cs.head?.any (· ≤ '3') then 3 else 2)).takeWhile isOctal with
  | [] => none
  | ds => some (Char.ofNat (ds.foldl (fun n d => 8 * n + (d.toNat - '0'.toNat)) 0), ds.length)

/-- The character of an escape sequence behind its backslash, and the number of characters read. -/
def escape? (cs : List Char) : Option (Char × Nat) :=
  match cs.head?.bind fun c => letterEscapes.lookup c with
  | some d => some (d, 1)
  | none => octalEscape? cs

/-- The value of a string literal behind its opening quote, and what follows the closing one. The
first `skip` characters are part of an escape sequence that has been read. -/
def readBody : Nat → List Char → Except LiteralFault (List Char × List Char)
  | _, [] => .error .unfinished
  | skip + 1, _ :: rest => readBody skip rest
  | 0, c :: rest =>
    if c = '"' then .ok ([], rest)
    else if c = '\\' then
      match escape? rest with
      | none => .error .unknownEscape
      | some (d, n) => (readBody n rest).map fun r => (d :: r.1, r.2)
    else if endsLine c then .error .brokenLine
    else (readBody 0 rest).map fun r => (c :: r.1, r.2)

/-- The value of the string literal that a text starts with, and what follows it. -/
def readLiteral : List Char → Except LiteralFault (List Char × List Char)
  | '"' :: rest => readBody 0 rest
  | _ => .error .unquoted

/-- Whether a backslash that no other one escapes precedes a `u`, which starts the code of a
character. -/
def hasCodeEscape : List Char → Bool
  | '\\' :: '\\' :: rest => hasCodeEscape rest
  | '\\' :: 'u' :: _ => true
  | _ :: rest => hasCodeEscape rest
  | [] => false

/-! ## Writing and reading -/

variable {c : Char} {cs : List Char}

theorem toList_literal (s : String) :
    (literal s).toList = '"' :: (s.toList.flatMap literalChar ++ ['"']) := by
  simp [literal, literalBody]

theorem readBody_literalChar (c : Char) (rest : List Char) :
    readBody 0 (literalChar c ++ rest) = if endsLine c then .error .brokenLine
      else (readBody 0 rest).map fun r => (c :: r.1, r.2) := by
  rw [literalChar]
  by_cases hback : c = '\\'
  · subst hback
    rfl
  by_cases hquote : c = '"'
  · subst hquote
    rfl
  · rw [if_neg hback, if_neg hquote, List.singleton_append, readBody, if_neg hquote, if_neg hback]

/-- A text is read back up to its closing quote, unless a line break stops the reading. -/
theorem readBody_flatMap (cs rest : List Char) :
    readBody 0 (cs.flatMap literalChar ++ '"' :: rest) =
      if cs.any endsLine then .error .brokenLine else .ok (cs, rest) := by
  induction cs with
  | nil => rfl
  | cons c cs ih =>
    rw [List.flatMap_cons, List.append_assoc, readBody_literalChar, ih, List.any_cons]
    cases endsLine c
    · cases cs.any endsLine <;> rfl
    · rfl

theorem hasCodeEscape_cons (hc : c ≠ '\\') (rest : List Char) :
    hasCodeEscape (c :: rest) = hasCodeEscape rest := by
  rw [hasCodeEscape]
  · rintro more rfl
    exact absurd rfl hc
  · rintro more rfl
    exact absurd rfl hc

theorem hasCodeEscape_literalChar (c : Char) (rest : List Char) :
    hasCodeEscape (literalChar c ++ rest) = hasCodeEscape rest := by
  rw [literalChar]
  split
  · rfl
  · split
    · exact hasCodeEscape_cons (by decide) rest
    · exact hasCodeEscape_cons (by assumption) rest

theorem hasCodeEscape_flatMap (cs rest : List Char) :
    hasCodeEscape (cs.flatMap literalChar ++ rest) = hasCodeEscape rest := by
  induction cs with
  | nil => rfl
  | cons c cs ih => rw [List.flatMap_cons, List.append_assoc, hasCodeEscape_literalChar, ih]

/-- **A text is read back from its literal, unless it has a line break.** -/
theorem readLiteral_literal (s : String) : hasCodeEscape (literal s).toList = false ∧
    readLiteral (literal s).toList =
      if s.toList.any endsLine then .error .brokenLine else .ok (s.toList, []) := by
  rw [toList_literal]
  constructor
  · rw [hasCodeEscape_cons (by decide), hasCodeEscape_flatMap]
    rfl
  · rw [readLiteral, readBody_flatMap]

/-- Not every text is read back from its literal. -/
theorem not_readLiteral_literal :
    ¬ ∀ s : String, readLiteral (literal s).toList = .ok (s.toList, []) := by
  intro h
  have hbroken : readLiteral (literal "a\nb").toList = .error .brokenLine := by
    rw [toList_literal]
    rfl
  exact nomatch hbroken.symm.trans (h "a\nb")

end Blueprint.Java
