import Blueprint.Proofs.Groups.Account
import Blueprint.Proofs.Text.Ascii
import Mathlib.Data.Nat.Digits.Defs

/-!
# The statuses of actions

* `numberOf`: the number that decimal digits stand for, of any size; **`wordOfDigits?_eq_some`**:
  reading digits step by step gives it if 16 bits hold it, and nothing if they do not.
* `StartsWithNumber`: a text that starts with a number behind blanks; `leadingInteger?_eq_some`.
* `successCode?`: the successful code of a response; `successCodes_eq`: those of responses, in
  order.
* `severalStatuses`, `unknownStatus`: the warnings about the codes of an action;
  `notes_chooseStatus`: which of them are recorded.
* `RespondsBy`: what the codes of an action make of it.
* **`normalizeAction_status`**: the successful codes are the numbers from 200 up to 299 that the
  names of responses start with, in order. An action with a supported method has the first one as
  its status if it is known, and its annotation unless it is 200; more than one code, or a first one
  that is not known, is remarked on once.
-/

namespace Blueprint

open Text Unicode

/-! ## Numbers -/

/-- The number that decimal digits stand for. -/
def numberOf (ds : List Char) : Nat :=
  Nat.ofDigits 10 (ds.reverse.map fun c => c.toNat - '0'.toNat)

theorem numberOf_concat (ds : List Char) (c : Char) :
    numberOf (ds ++ [c]) = numberOf ds * 10 + (c.toNat - '0'.toNat) := by
  simp only [numberOf, List.reverse_append, List.reverse_singleton, List.singleton_append,
    List.map_cons, Nat.ofDigits_cons]
  omega

theorem word?_eq_some {n m : Nat} : word? n = some m ↔ n = m ∧ m < 0x10000 := by
  rw [word?]
  split <;> simp <;> omega

/-- A digit fits behind a number if the result does: what is on the way is no larger. -/
theorem pushDigit?_eq_some {n m : Nat} {c : Char} :
    pushDigit? n c = some m ↔ n * 10 + (c.toNat - '0'.toNat) = m ∧ m < 0x10000 := by
  simp only [pushDigit?, Option.bind_eq_bind, Option.bind_eq_some_iff, word?_eq_some]
  constructor
  · rintro ⟨shifted, ⟨rfl, -⟩, h⟩
    exact h
  · rintro ⟨h, hm⟩
    exact ⟨n * 10, ⟨rfl, by omega⟩, h, hm⟩

/-- Reading stops exactly if the number grows too large: with each digit it grows or stays zero. -/
theorem foldlM_pushDigit?_eq_some {ds : List Char} {n : Nat} :
    ds.foldlM pushDigit? 0 = some n ↔ numberOf ds = n ∧ n < 0x10000 := by
  induction ds using List.reverseRecOn generalizing n with
  | nil =>
    simp [numberOf]
    omega
  | append_singleton ds c ih =>
    rw [List.foldlM_append, Option.bind_eq_bind, Option.bind_eq_some_iff, numberOf_concat]
    simp only [ih, List.foldlM_cons, List.foldlM_nil, bind_pure, pushDigit?_eq_some]
    constructor
    · rintro ⟨m, ⟨rfl, -⟩, h⟩
      exact h
    · rintro ⟨h, hn⟩
      exact ⟨numberOf ds, ⟨rfl, by omega⟩, h, hn⟩

/-- **Digits are read as the number that they stand for**, if 16 bits hold it. -/
theorem wordOfDigits?_eq_some {ds : List Char} {n : Nat} :
    wordOfDigits? ds = some n ↔ ds ≠ [] ∧ numberOf ds = n ∧ n < 0x10000 := by
  cases ds with
  | nil => simp [wordOfDigits?]
  | cons d ds =>
    rw [wordOfDigits?, foldlM_pushDigit?_eq_some]
    · simp
    · simp

/-! ## Texts that start with a number -/

/-- A text that starts, behind blanks, with digits that stand for a number and that no further digit
follows. -/
def StartsWithNumber (cs : List Char) (n : Nat) : Prop :=
  ∃ blanks digits rest, cs = blanks ++ (digits ++ rest) ∧ (∀ c ∈ blanks, isWhiteSpace c = true) ∧
    digits ≠ [] ∧ (∀ c ∈ digits, c.isDigit = true) ∧ (∀ c ∈ rest.head?, c.isDigit = false) ∧
    numberOf digits = n

theorem trimStart_digits {blanks digits rest : List Char}
    (hblanks : ∀ c ∈ blanks, isWhiteSpace c = true) (hne : digits ≠ [])
    (hdigits : ∀ c ∈ digits, c.isDigit = true) (hrest : ∀ c ∈ rest.head?, c.isDigit = false) :
    (trimStart (blanks ++ (digits ++ rest))).takeWhile Char.isDigit = digits := by
  have hstart : ∀ c ∈ (digits ++ rest).head?, isWhiteSpace c = false := by
    obtain ⟨d, ds, rfl⟩ := List.exists_cons_of_ne_nil hne
    rintro c ⟨⟩
    exact isWhiteSpace_of_isAlphanum (by simp [Char.isAlphanum, hdigits d List.mem_cons_self])
  rw [trimStart, dropWhile_run hblanks hstart, takeWhile_run hdigits hrest]

theorem startsWithNumber_iff {cs : List Char} {n : Nat} : StartsWithNumber cs n ↔
    (trimStart cs).takeWhile Char.isDigit ≠ [] ∧
      numberOf ((trimStart cs).takeWhile Char.isDigit) = n := by
  constructor
  · rintro ⟨blanks, digits, rest, rfl, hblanks, hne, hdigits, hrest, hn⟩
    rw [trimStart_digits hblanks hne hdigits hrest]
    exact ⟨hne, hn⟩
  · rintro ⟨hne, hn⟩
    refine ⟨cs.takeWhile isWhiteSpace, _, (trimStart cs).dropWhile Char.isDigit, ?_, ?_, hne, ?_, ?_,
      hn⟩
    · rw [List.takeWhile_append_dropWhile, trimStart, List.takeWhile_append_dropWhile]
    · exact fun c hc => List.mem_takeWhile_imp hc
    · exact fun c hc => List.mem_takeWhile_imp hc
    · exact fun c hc => head?_dropWhile hc

/-- The number at the start of a text is read exactly if 16 bits hold it. -/
theorem leadingInteger?_eq_some {s : String} {n : Nat} :
    leadingInteger? s = some n ↔ StartsWithNumber s.toList n ∧ n < 0x10000 := by
  rw [leadingInteger?, wordOfDigits?_eq_some, startsWithNumber_iff, and_assoc]

/-! ## Successful codes -/

/-- The successful code that a response names. -/
def successCode? (p : Ast.Payload) : Option Nat :=
  (leadingInteger? p.name).filter fun n => 200 ≤ n && n < 300

/-- A successful code is the number that a name starts with, of whatever size. -/
theorem successCode?_eq_some {p : Ast.Payload} {n : Nat} :
    successCode? p = some n ↔ StartsWithNumber p.name.toList n ∧ 200 ≤ n ∧ n < 300 := by
  rw [successCode?, Option.filter_eq_some_iff, leadingInteger?_eq_some, Bool.and_eq_true,
    decide_eq_true_iff, decide_eq_true_iff, and_assoc]
  refine and_congr_right fun _ => ?_
  omega

theorem successCodes_eq (responses : List Ast.Payload) :
    successCodes responses = responses.filterMap successCode? :=
  List.filter_filterMap ..

/-! ## The status of codes -/

namespace Status

theorem ofCode?_eq_some {n : Nat} {s : Status} : ofCode? n = some s ↔ s ∈ all ∧ s.code = n := by
  have hunique : ∀ s ∈ all, ∀ t ∈ all, s.code = t.code → s = t := by decide
  rw [ofCode?]
  constructor
  · intro h
    exact ⟨List.mem_of_find?_eq_some h, by simpa using List.find?_some h⟩
  · rintro ⟨hs, rfl⟩
    have hfound : (all.find? (·.code = s.code)).isSome = true :=
      List.find?_isSome.mpr ⟨s, hs, by simp⟩
    obtain ⟨t, ht⟩ := Option.isSome_iff_exists.mp hfound
    rw [ht, hunique t (List.mem_of_find?_eq_some ht) s hs (by simpa using List.find?_some ht)]

theorem ofCode?_eq_none {n : Nat} : ofCode? n = none ↔ n ∉ all.map (·.code) := by
  simp [ofCode?, List.find?_eq_none]

theorem isDefault_iff {s : Status} (hs : s ∈ all) : s.isDefault = true ↔ s.code = 200 := by
  have hall : ∀ s ∈ all, s.isDefault = true ↔ s.code = 200 := by decide
  exact hall s hs

end Status

/-- The warning about more than one successful code. -/
def severalStatuses (uri : String) (first : Nat) : Diagnostic :=
  .warn .multipleSuccessStatuses
    ("More than 1 2xx return status defined for action " ++ uri ++
      " - will use the first (" ++ decimal first ++ ")")

/-- The warning about a successful code that no status has. -/
def unknownStatus (uri : String) (first : Nat) : Diagnostic :=
  .warn .unknownStatusCode ("Unknown status code " ++ decimal first ++ " for action " ++ uri)

theorem value_chooseStatus_eq_some {codes : List Nat} {uri : String} {s : Status} :
    (chooseStatus codes uri).value = some s ↔ s ∈ Status.all ∧ codes.head? = some s.code := by
  cases codes with
  | nil => simp [chooseStatus, Noted.pure]
  | cons first more =>
    have hvalue : (chooseStatus (first :: more) uri).value = Status.ofCode? first := by
      rw [chooseStatus]
      cases Status.ofCode? first <;> split <;> rfl
    rw [hvalue, Status.ofCode?_eq_some, List.head?_cons, Option.some.injEq, eq_comm (a := first)]

/-- What is remarked on more than one code. -/
def severalWarnings (uri : String) : List Nat → List Diagnostic
  | first :: _ :: _ => [severalStatuses uri first]
  | _ => []

/-- What is remarked on a first code that is not known. -/
def unknownWarnings (uri : String) : List Nat → List Diagnostic
  | first :: _ => if first ∈ Status.all.map (·.code) then [] else [unknownStatus uri first]
  | [] => []

theorem notes_chooseStatus (codes : List Nat) (uri : String) :
    (chooseStatus codes uri).notes = severalWarnings uri codes ++ unknownWarnings uri codes := by
  cases codes with
  | nil => rfl
  | cons first more =>
    have hunknown := Status.ofCode?_eq_none (n := first)
    rw [chooseStatus, unknownWarnings]
    cases hstatus : Status.ofCode? first with
    | none =>
      rw [if_neg (hunknown.mp hstatus)]
      cases more <;> rfl
    | some s =>
      rw [if_pos (not_not.mp fun h => absurd (hunknown.mpr h) (by simp [hstatus]))]
      cases more <;> rfl

theorem kind_of_mem_severalWarnings {uri : String} {codes : List Nat} {n : Diagnostic}
    (h : n ∈ severalWarnings uri codes) : n.kind = .multipleSuccessStatuses := by
  unfold severalWarnings at h
  split at h
  · rw [List.mem_singleton.mp h]
    rfl
  · exact nomatch h

theorem kind_of_mem_unknownWarnings {uri : String} {codes : List Nat} {n : Diagnostic}
    (h : n ∈ unknownWarnings uri codes) : n.kind = .unknownStatusCode := by
  unfold unknownWarnings at h
  split at h
  · split at h
    · exact nomatch h
    · rw [List.mem_singleton.mp h]
      rfl
  · exact nomatch h

theorem filter_of_kind {k : Diagnostic.Kind} {ds : List Diagnostic} (h : ∀ n ∈ ds, n.kind = k)
    (k' : Diagnostic.Kind) : ds.filter (·.kind = k') = if k = k' then ds else [] := by
  split
  · rename_i hk
    exact List.filter_eq_self.mpr fun n hn => by simp [h n hn, hk]
  · rename_i hk
    exact List.filter_eq_nil_iff.mpr fun n hn => by simp [h n hn, hk]

namespace Api

/-- What the successful codes of an action make of it and of what is remarked on it. -/
structure RespondsBy (codes : List Nat) (uri : String) (b : Action) (notes : List Diagnostic) :
    Prop where
  /-- The status is the first code if that is known. -/
  status : ∀ n, b.responseStatus = some n ↔ codes.head? = some n ∧ n ∈ Status.all.map (·.code)
  /-- The annotation is that of the first code if that is known, and not 200. -/
  annotated : ∀ t, b.annotations = [t] ↔
    ∃ s ∈ Status.all, codes.head? = some s.code ∧ s.code ≠ 200 ∧ t = s.annotationText
  bare : b.annotations = [] ↔ ∀ s ∈ Status.all, codes.head? = some s.code → s.code = 200
  /-- More than one code is remarked on once. -/
  several : notes.filter (·.kind = .multipleSuccessStatuses) = severalWarnings uri codes
  /-- A first code that is not known is remarked on once. -/
  unknown : notes.filter (·.kind = .unknownStatusCode) = unknownWarnings uri codes

/-- The responses of the first example of an action. -/
def shownResponses (a : Ast.Action) : List Ast.Payload :=
  (a.examples.head?.map (·.responses)).getD []

theorem payloads_response (r : Ast.Resource) (a : Ast.Action) (method uri : String) :
    Context.payloads { resource := r, action := a, method, uri } .response = shownResponses a := by
  rw [Context.payloads, shownResponses]
  cases a.examples <;> rfl

section Actions

variable (r : Ast.Resource) (a : Ast.Action) (m : Method) (default : String)

/-- The status that the responses of an action choose. -/
def chosenStatus : Noted (Option Status) :=
  chooseStatus (successCodes (shownResponses a)) (effectiveTemplate r a)

theorem responseStatus_buildAction :
    (buildAction r a m default).value.responseStatus =
      (chosenStatus r a).value.map (·.code) := by
  rw [chosenStatus, ← payloads_response r a m.name (effectiveTemplate r a)]
  rfl

theorem annotations_buildAction :
    (buildAction r a m default).value.annotations = statusAnnotations (chosenStatus r a).value := by
  rw [chosenStatus, ← payloads_response r a m.name (effectiveTemplate r a)]
  rfl

theorem exists_notes_buildAction : ∃ types : List Diagnostic, (∀ n ∈ types, IsTypeWarning n) ∧
    (buildAction r a m default).notes = types ++ (chosenStatus r a).notes := by
  let x : Context := { resource := r, action := a, method := m.name, uri := effectiveTemplate r a }
  refine ⟨(responseType x default).notes ++ (requestBody x default).notes, fun n hn => ?_, ?_⟩
  · rcases List.mem_append.mp hn with hn | hn
    · exact warns_responseType x default n hn
    · exact warns_requestBody x default n hn
  · rw [chosenStatus, ← payloads_response r a m.name (effectiveTemplate r a), List.append_assoc]
    simp only [buildAction, Noted.notes_bind, Noted.notes_pure, List.append_nil]
    rfl

theorem filter_notes_buildAction {k : Diagnostic.Kind} (hmismatch : k ≠ .exampleTypeMismatch)
    (hmissing : k ≠ .missingResponseType) :
    (buildAction r a m default).notes.filter (·.kind = k) =
      (chosenStatus r a).notes.filter (·.kind = k) := by
  obtain ⟨types, htypes, hnotes⟩ := exists_notes_buildAction r a m default
  have hnone : types.filter (·.kind = k) = [] := by
    rw [List.filter_eq_nil_iff]
    intro n hn
    rw [decide_eq_true_iff]
    rintro rfl
    cases htypes n hn with
    | mismatch message => exact hmismatch rfl
    | missing message => exact hmissing rfl
  rw [hnotes, List.filter_append, hnone, List.nil_append]

theorem statusAnnotations_eq_singleton {o : Option Status} {t : String} :
    statusAnnotations o = [t] ↔ ∃ s, o = some s ∧ s.isDefault = false ∧ t = s.annotationText := by
  cases o with
  | none => simp [statusAnnotations]
  | some s => cases h : s.isDefault <;> simp [statusAnnotations, h, eq_comm (b := t)]

theorem statusAnnotations_eq_nil {o : Option Status} :
    statusAnnotations o = [] ↔ ∀ s, o = some s → s.isDefault = true := by
  cases o with
  | none => simp [statusAnnotations]
  | some s => cases h : s.isDefault <;> simp [statusAnnotations, h]

theorem respondsBy_buildAction :
    RespondsBy (successCodes (shownResponses a)) (effectiveTemplate r a)
      (buildAction r a m default).value (buildAction r a m default).notes := by
  have hchosen : ∀ s, (chosenStatus r a).value = some s ↔
      s ∈ Status.all ∧ (successCodes (shownResponses a)).head? = some s.code :=
    fun s => value_chooseStatus_eq_some
  have hnotes : ∀ k, k ≠ .exampleTypeMismatch → k ≠ .missingResponseType →
      (buildAction r a m default).notes.filter (·.kind = k) =
        (if .multipleSuccessStatuses = k then
          severalWarnings (effectiveTemplate r a) (successCodes (shownResponses a)) else []) ++
        if .unknownStatusCode = k then
          unknownWarnings (effectiveTemplate r a) (successCodes (shownResponses a)) else [] := by
    intro k hmismatch hmissing
    rw [filter_notes_buildAction r a m default hmismatch hmissing, chosenStatus,
      notes_chooseStatus, List.filter_append,
      filter_of_kind (fun n => kind_of_mem_severalWarnings) k,
      filter_of_kind (fun n => kind_of_mem_unknownWarnings) k]
  -- the status, the annotation, its absence, and both warnings
  refine ⟨fun n => ?_, fun t => ?_, ?_, ?_, ?_⟩
  · rw [responseStatus_buildAction, Option.map_eq_some_iff, List.mem_map]
    simp only [hchosen]
    constructor
    · rintro ⟨s, ⟨hs, hfirst⟩, rfl⟩
      exact ⟨hfirst, s, hs, rfl⟩
    · rintro ⟨hfirst, s, hs, rfl⟩
      exact ⟨s, ⟨hs, hfirst⟩, rfl⟩
  · rw [annotations_buildAction, statusAnnotations_eq_singleton]
    simp only [hchosen]
    constructor
    · rintro ⟨s, ⟨hs, hfirst⟩, hdefault, rfl⟩
      exact ⟨s, hs, hfirst, fun h => by simp [(Status.isDefault_iff hs).mpr h] at hdefault, rfl⟩
    · rintro ⟨s, hs, hfirst, hcode, rfl⟩
      refine ⟨s, ⟨hs, hfirst⟩, ?_, rfl⟩
      rwa [← Bool.not_eq_true, Status.isDefault_iff hs]
  · rw [annotations_buildAction, statusAnnotations_eq_nil]
    simp only [hchosen]
    constructor
    · intro h s hs hfirst
      exact (Status.isDefault_iff hs).mp (h s ⟨hs, hfirst⟩)
    · rintro h s ⟨hs, hfirst⟩
      exact (Status.isDefault_iff hs).mpr (h s hs hfirst)
  · rw [hnotes .multipleSuccessStatuses (by decide) (by decide)]
    exact List.append_nil _
  · rw [hnotes .unknownStatusCode (by decide) (by decide)]
    rfl

end Actions

/-- **The status of an action follows from the successful codes of its responses.** -/
theorem normalizeAction_status :
    (∃ code? : Ast.Payload → Option Nat,
      (∀ p n, code? p = some n ↔ StartsWithNumber p.name.toList n ∧ 200 ≤ n ∧ n < 300) ∧
      ∀ responses, successCodes responses = responses.filterMap code?) ∧
    ∀ (o : Options) (r : Ast.Resource) (a : Ast.Action),
      (isSupported a = true → ∃ b, (normalizeAction o r a).value = some b ∧
        RespondsBy (successCodes (shownResponses a)) (effectiveTemplate r a) b
          (normalizeAction o r a).notes) ∧
      (isSupported a = false → normalizeAction o r a = ⟨none, [unsupportedMethod r a]⟩) := by
  refine ⟨⟨successCode?, fun p n => successCode?_eq_some, successCodes_eq⟩, fun o r a => ?_⟩
  rw [isSupported_eq, normalizeAction]
  cases Method.ofString? a.method with
  | none => exact ⟨by simp, fun _ => rfl⟩
  | some m =>
    refine ⟨fun _ => ⟨(buildAction r a m o.defaultType).value, rfl, ?_⟩, by simp⟩
    have hnotes := respondsBy_buildAction r a m o.defaultType
    rw [← List.append_nil (buildAction r a m o.defaultType).notes] at hnotes
    exact hnotes

/-- An action whose first response has a number that 16 bits would take for 200. -/
def creatingAction : Ast.Action :=
  { method := "post"
    attributes := { uriTemplate := "/coupons" }
    examples := [{ responses :=
      [{ name := "65736" }, { name := " 000201 (application/json)" }, { name := "204" }] }] }

/-- Of three responses two name a successful code, and the first of these is the status. -/
theorem normalizeAction_status_creating :
    successCodes (shownResponses creatingAction) = [201, 204] ∧
    ∃ b, (normalizeAction {} {} creatingAction).value = some b ∧ b.responseStatus = some 201 ∧
      b.annotations = ["@ResponseStatus(org.springframework.http.HttpStatus.CREATED)"] ∧
      (normalizeAction {} {} creatingAction).notes.filter (·.kind = .multipleSuccessStatuses) =
        [severalStatuses "/coupons" 201] := by
  have hcodes : successCodes (shownResponses creatingAction) = [201, 204] := by decide +kernel
  obtain ⟨-, hactions⟩ := normalizeAction_status
  obtain ⟨b, hb, hresponds⟩ := (hactions {} {} creatingAction).1 (by decide +kernel)
  rw [hcodes] at hresponds
  refine ⟨hcodes, b, hb, (hresponds.status 201).mpr (by decide), ?_, hresponds.several⟩
  exact (hresponds.annotated _).mpr ⟨{ code := 201, name := "CREATED", displayName := "Created" },
    by decide, rfl, by decide, rfl⟩

end Api

end Blueprint
