import Blueprint.Text.Basic

/-!
# Words

A name is read as a sequence of words. Every character that is neither letter nor digit separates
words. Inside a piece a word ends after a small letter that a capital follows, and before the last
capital of a run of capitals that a small letter follows: `parseHTTPRequest` has the words `parse`,
`HTTP` and `Request`. A character without case belongs to the letters before it.

* `words`: the words of a text.
-/

namespace Blueprint.Text

open Unicode

/-- The case of the last letter of the current word. -/
inductive Hump where
  | boundary | lower | upper
  deriving DecidableEq, Repr

/-- The case after a further character; one without case keeps it. -/
def Hump.after (h : Hump) (c : Char) : Hump :=
  if isLowercase c then .lower else if isUppercase c then .upper else h

/-- The words of a piece without separators, where `word` has been read with last case `h`. -/
def humps (h : Hump) (word : List Char) : List Char → List (List Char)
  | [] => []
  | [c] => [word ++ [c]]
  | c :: next :: rest =>
    -- a capital behind a small letter starts a word
    if h.after c = .lower ∧ isUppercase next then
      (word ++ [c]) :: humps .boundary [] (next :: rest)
    -- so does the last capital of a run, if a small letter follows
    else if h = .upper ∧ isUppercase c ∧ isLowercase next then
      word :: humps .boundary [c] (next :: rest)
    else humps (h.after c) (word ++ [c]) (next :: rest)

/-- The words of a text, in order. -/
def words (cs : List Char) : List (List Char) :=
  (splitWhere (fun c => !isAlphanumeric c) cs).flatMap (humps .boundary [])

end Blueprint.Text
