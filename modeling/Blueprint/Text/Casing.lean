import Blueprint.Text.Words
import Blueprint.Unicode.CaseMapping

/-!
# Casings

The ways to write a sequence of words as one name.

* `pascal`: `CouponCode`; `camel`: `couponCode`; `snake`: `coupon_code`; `screaming`: `COUPON_CODE`.
-/

namespace Blueprint.Text

open Unicode

/-- A word in small letters. A capital sigma at the end of the word becomes the final form. -/
def lowercase : List Char → List Char
  | [] => []
  | [c] => if c = 'Σ' then ['ς'] else toLower c
  | c :: rest => toLower c ++ lowercase rest

/-- A word in capitals. -/
def uppercase (cs : List Char) : List Char := cs.flatMap toUpper

/-- A word with its first character in capitals and the rest in small letters. -/
def capitalize : List Char → List Char
  | [] => []
  | c :: rest => toUpper c ++ lowercase rest

/-- Capitalised words, written together. -/
def pascal (ws : List (List Char)) : List Char := ws.flatMap capitalize

/-- Capitalised words, written together, but the first in small letters. -/
def camel : List (List Char) → List Char
  | [] => []
  | w :: ws => lowercase w ++ pascal ws

/-- Words in small letters, joined by underscores. -/
def snake (ws : List (List Char)) : List Char := joinWith ['_'] (ws.map lowercase)

/-- Words in capitals, joined by underscores. -/
def screaming (ws : List (List Char)) : List Char := joinWith ['_'] (ws.map uppercase)

/-- The words of a string, capitalised and written together. -/
def toPascal (s : String) : String := String.ofList (pascal (words s.toList))

/-- The words of a string in camel case. -/
def toCamel (s : String) : String := String.ofList (camel (words s.toList))

end Blueprint.Text
