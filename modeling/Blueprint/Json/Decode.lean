import Blueprint.Json.Reader
import Blueprint.Source.Reader

/-!
# Decoding JSON

Reading a value of a wanted type from a JSON text.

* `decode`: reads a value of a wanted type from a text, which must hold nothing else.
* `parse?`: reads any value from a text.
-/

namespace Blueprint.Json

open Source

/-- A text may nest 127 arrays and objects. -/
def textFrame : Frame := { levels := 127, positional := true }

/-- Reads a value of a wanted type from a text. -/
def decode {α : Type} (r : Reader α) (s : String) : Except Fault α := do
  let t := Text.ofChars s.toList
  let a ← r textFrame t.root
  if t.trailing then throw .malformed
  return a

/-- Reads any JSON value from a text. -/
def parse? (s : String) : Option Json :=
  match decode datum s with
  | .ok d => d.toJson?
  | .error _ => none

end Blueprint.Json
