import Blueprint.Ast.Document
import Blueprint.Diagnostic
import Blueprint.Text.Basic

/-!
# Response statuses

The status that an action responds with is the first successful one among the names of its
responses.

* `Status`, `Status.ofCode?`: the successful statuses and their descriptions.
* `leadingInteger?`: the number of 16 bits at the start of a text.
* `successCodes`: the successful codes that responses name.
* `chooseStatus`: the status of an action.
-/

namespace Blueprint

/-- A successful status. -/
structure Status where
  code : Nat
  name : String
  displayName : String
  /-- Whether it is the one of an unannotated action. -/
  isDefault : Bool := false
  deriving DecidableEq, Repr

namespace Status

/-- The successful statuses. -/
def all : List Status := [
  { code := 200, name := "OK", displayName := "OK", isDefault := true },
  { code := 201, name := "CREATED", displayName := "Created" },
  { code := 202, name := "ACCEPTED", displayName := "Accepted" },
  { code := 203, name := "NON_AUTHORITATIVE_INFORMATION",
    displayName := "Non-Authoritative Information" },
  { code := 204, name := "NO_CONTENT", displayName := "No Content" },
  { code := 205, name := "RESET_CONTENT", displayName := "Reset Content" },
  { code := 206, name := "PARTIAL_CONTENT", displayName := "Partial Content" },
  { code := 207, name := "MULTI_STATUS", displayName := "Multi-Status" },
  { code := 208, name := "ALREADY_REPORTED", displayName := "Already Reported" },
  { code := 226, name := "IM_USED", displayName := "IM Used" }]

/-- The status of a code. -/
def ofCode? (code : Nat) : Option Status := all.find? (·.code = code)

/-- The annotation that selects a status. -/
def annotationText (s : Status) : String :=
  "@ResponseStatus(org.springframework.http.HttpStatus." ++ s.name ++ ")"

end Status

/-- A number that 16 bits hold. -/
def word? (n : Nat) : Option Nat := if n < 0x10000 then some n else none

/-- A number with a decimal digit behind it. No step on the way may take more than 16 bits. -/
def pushDigit? (n : Nat) (c : Char) : Option Nat := do
  let shifted ← word? (n * 10)
  word? (shifted + (c.toNat - '0'.toNat))

/-- The number of 16 bits that decimal digits stand for; no digits stand for none. -/
def wordOfDigits? : List Char → Option Nat
  | [] => none
  | ds => ds.foldlM pushDigit? 0

/-- The number of 16 bits at the start of a text, after blanks. -/
def leadingInteger? (s : String) : Option Nat :=
  wordOfDigits? ((Text.trimStart s.toList).takeWhile Char.isDigit)

/-- The successful codes that responses name, in order. -/
def successCodes (responses : List Ast.Payload) : List Nat :=
  (responses.filterMap fun r => leadingInteger? r.name).filter fun n => 200 ≤ n && n < 300

/-- The status of an action with the given successful codes: the first, which must be known. -/
def chooseStatus (codes : List Nat) (uri : String) : Noted (Option Status) :=
  match codes with
  | [] => .pure none
  | first :: more => do
    if more ≠ [] then
      Noted.note (.warn .multipleSuccessStatuses
        ("More than 1 2xx return status defined for action " ++ uri ++
          " - will use the first (" ++ Text.decimal first ++ ")"))
    match Status.ofCode? first with
    | none =>
      Noted.note (.warn .unknownStatusCode
        ("Unknown status code " ++ Text.decimal first ++ " for action " ++ uri))
      return none
    | some s => return some s

end Blueprint
