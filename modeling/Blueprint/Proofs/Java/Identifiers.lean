import Blueprint.Java.Model
import Blueprint.Java.Signature
import Blueprint.Proofs.Models.Fields
import Blueprint.Proofs.Name.Casings
import Blueprint.Proofs.Transform

/-!
# Identifiers

An action, a parameter and a field are declared under their names in camel case; a reserved word
takes an underscore at its end. A digit at the start stays where it is.

* `IsIdentifier`: what may be declared, by the rules of the language for ASCII characters;
  `isIdentifier_identifier`: a word of letters and digits may, unless it starts with a digit.
* `DeclaredAs`: a word of letters and digits, with an underscore if it is reserved;
  `declaredAs_identifier`: so is every name in ASCII.
* `Declares`: the names that a run declares, and what it declares them as.
* **`identifier_legal`**: a name in ASCII is declared as an identifier exactly if the first of its
  letters and digits is no digit, and as no reserved word in any case. So are the methods, the
  declared parameters and the fields of every run.
* `exists_illegal_field`: a class with a field that starts with a digit.
-/

namespace Blueprint

open Text Unicode

namespace Java

/-! ## The rules of the language -/

/-- The keywords of the language. -/
def keywords : List String := [
  "abstract", "assert", "boolean", "break", "byte", "case", "catch", "char", "class", "const",
  "continue", "default", "do", "double", "else", "enum", "extends", "final", "finally", "float",
  "for", "goto", "if", "implements", "import", "instanceof", "int", "interface", "long", "native",
  "new", "package", "private", "protected", "public", "return", "short", "static", "strictfp",
  "super", "switch", "synchronized", "this", "throw", "throws", "transient", "try", "void",
  "volatile", "while", "_"]

/-- The words that are literals. -/
def wordLiterals : List String := ["true", "false", "null"]

/-- A word that is no identifier although it is spelled as one. -/
def IsReserved (s : String) : Prop := s ∈ keywords ++ wordLiterals

instance : DecidablePred IsReserved := fun s => inferInstanceAs (Decidable (s ∈ keywords ++ wordLiterals))

/-- A character that an identifier may start with. -/
def isLetter (c : Char) : Bool := c.isAlpha || c = '_' || c = '$'

/-- A text in ASCII that may name a method, a parameter or a field. -/
structure IsIdentifier (s : String) : Prop where
  start : s.toList.head?.any isLetter = true
  chars : ∀ c ∈ s.toList, isLetter c = true ∨ c.isDigit = true
  free : ¬ IsReserved s

instance : DecidablePred IsIdentifier := fun s =>
  have := List.decidableBAll (fun c : Char => isLetter c = true ∨ c.isDigit = true) s.toList
  decidable_of_iff (s.toList.head?.any isLetter = true ∧
      (∀ c ∈ s.toList, isLetter c = true ∨ c.isDigit = true) ∧ ¬ IsReserved s)
    ⟨fun ⟨hstart, hchars, hfree⟩ => ⟨hstart, hchars, hfree⟩,
      fun h => ⟨h.start, h.chars, h.free⟩⟩

/-! ## Reserved words -/

theorem isReserved_of_mem_reserved {w : String} (h : w ∈ reserved) : IsReserved w := by
  have hall : ∀ v ∈ reserved, IsReserved v := by decide
  exact hall w h

/-- Names take no mark for one reserved word alone, which no name is. -/
theorem mem_reserved_of_isReserved {w : String} (h : IsReserved w) : w ∈ reserved ∨ w = "_" := by
  have hall : ∀ v ∈ keywords ++ wordLiterals, v ∈ reserved ∨ v = "_" := by decide
  exact hall w h

section Word

variable {word : String} (hmark : '_' ∉ word.toList)
include hmark

theorem mem_reserved_iff : word ∈ reserved ↔ IsReserved word := by
  refine ⟨isReserved_of_mem_reserved, fun h => (mem_reserved_of_isReserved h).resolve_right ?_⟩
  rintro rfl
  exact hmark (by decide)

/-- A word without an underscore takes one exactly if it is reserved. -/
theorem identifier_eq : identifier word = if IsReserved word then word ++ "_" else word := by
  rw [identifier]
  exact if_congr (List.contains_iff_mem.trans (mem_reserved_iff hmark)) rfl rfl

theorem not_isReserved_identifier (hword : word ≠ "") : ¬ IsReserved (identifier word) := by
  rw [identifier_eq hmark]
  split
  · -- the underscore at the end sets the text apart from every word of the list
    intro h
    rcases mem_reserved_of_isReserved h with hmem | heq
    · have hall : ∀ w ∈ reserved, '_' ∉ w.toList := by decide
      exact hall _ hmem (by simp)
    · exact hword (String.toList_inj.mp (by simpa using congrArg String.toList heq))
  · assumption

end Word

/-! ## Words of letters and digits -/

theorem isLetter_of_isAlphanum {c : Char} (hc : c.isAlphanum = true) : isLetter c = !c.isDigit := by
  have hall := forall_ascii (P := fun c => c.isAlphanum = true → isLetter c = !c.isDigit)
    (by decide) (lt_of_isAlphanum hc)
  exact hall hc

section Letters

variable {word : String}

theorem exists_toList_identifier (word : String) :
    ∃ mark, (identifier word).toList = word.toList ++ mark ∧ ∀ x ∈ mark, x = '_' := by
  rw [identifier]
  split
  · exact ⟨['_'], String.toList_append, by simp⟩
  · exact ⟨[], by simp, by simp⟩

theorem head?_identifier {c : Char} {rest : List Char} (hword : word.toList = c :: rest) :
    (identifier word).toList.head? = some c := by
  obtain ⟨mark, hid, -⟩ := exists_toList_identifier word
  rw [hid, hword]
  rfl

variable (halpha : ∀ x ∈ word.toList, x.isAlphanum = true)
include halpha

theorem chars_identifier : ∀ x ∈ (identifier word).toList, isLetter x = true ∨ x.isDigit = true := by
  obtain ⟨mark, hid, hmark⟩ := exists_toList_identifier word
  rw [hid]
  refine List.forall_mem_append.mpr ⟨fun x hx => ?_, fun x hx => .inl (hmark x hx ▸ rfl)⟩
  rw [isLetter_of_isAlphanum (halpha x hx)]
  cases x.isDigit <;> simp

/-- A word of letters and digits is declared as an identifier unless it starts with a digit. -/
theorem isIdentifier_identifier {c : Char} {rest : List Char} (hword : word.toList = c :: rest) :
    IsIdentifier (identifier word) ↔ c.isDigit = false := by
  have hmark : '_' ∉ word.toList := fun hx => absurd (halpha '_' hx) (by decide)
  have hne : word ≠ "" := by
    rintro rfl
    exact nomatch hword
  have hc : isLetter c = !c.isDigit :=
    isLetter_of_isAlphanum (halpha c (hword ▸ List.mem_cons_self))
  have hstart : (identifier word).toList.head?.any isLetter = !c.isDigit := by
    rw [head?_identifier hword, Option.any_some, hc]
  constructor
  · intro h
    simpa [hstart] using h.start
  · intro h
    exact ⟨by rw [hstart, h]; rfl, chars_identifier halpha, not_isReserved_identifier hmark hne⟩

end Letters

/-! ## Names in ASCII -/

/-- Whether the first of the letters and digits of a text is a digit. -/
def startsWithDigit (s : String) : Bool := (s.toList.find? Char.isAlphanum).any Char.isDigit

/-- What a spelling is declared as: a word of letters and digits, with an underscore if it is reserved.
This is an identifier exactly if the spelling does not start with a digit, and no reserved word even
if it does. -/
structure DeclaredAs (spelling word id : String) : Prop where
  ne_empty : word ≠ ""
  alphanumeric : ∀ c ∈ word.toList, c.isAlphanum = true
  marked : id = if IsReserved word then word ++ "_" else word
  free : ¬ IsReserved id
  start : id.toList.head?.any Char.isAlpha = !startsWithDigit spelling
  legal : IsIdentifier id ↔ startsWithDigit spelling = false

theorem isDigit_eq_startsWithDigit {s : String} (hs : IsAscii s) {c : Char} {w : List Char}
    {ws : List (List Char)} (h : words (Name.sanitize s.toList) = (c :: w) :: ws) :
    c.isDigit = startsWithDigit s := by
  rw [startsWithDigit, ← List.head?_filter, ← Name.filter_isAlphanumeric hs]
  rw [Name.words_sanitize] at h
  split at h
  · rename_i hnone
    rw [hnone]
    obtain ⟨⟨rfl, -⟩, -⟩ : ('u' = c ∧ "nnamed".toList = w) ∧ [] = ws := by simpa using h
    rfl
  · rw [← flatten_words, h]
    rfl

theorem exists_camel_eq {s : String} (hs : IsAscii s) : ∃ c rest,
    (Name.ofString s).camel.toList = c :: rest ∧
      (∀ x ∈ (Name.ofString s).camel.toList, x.isAlphanum = true) ∧ c.isDigit = startsWithDigit s := by
  obtain ⟨c, w, ws, hws⟩ := Name.exists_words_eq s.toList
  have hascii : ∀ v ∈ (c :: w) :: ws, ∀ x ∈ v, x.toNat < 128 := fun v hv x hx =>
    Name.lt_of_mem_words hs (hws ▸ hv) hx
  have halpha : ∀ v ∈ (c :: w) :: ws, ∀ x ∈ v, x.isAlphanum = true := fun v hv x hx => by
    rw [← isAlphanumeric_of_lt (hascii v hv x hx)]
    exact forall_mem_of_words (fun _ => id) (hws ▸ hv) x hx
  have hcamel := (Name.cased_of_words hws hascii).camel
  refine ⟨c.toLower, w.map Char.toLower ++ ws.flatMap capitalized, hcamel, ?_, ?_⟩
  · rw [hcamel]
    refine List.forall_mem_append.mpr ⟨?_, fun x hx => ?_⟩
    · exact isAlphanum_of_mem_toLower (halpha _ List.mem_cons_self)
    · obtain ⟨v, hv, hx⟩ := List.mem_flatMap.mp hx
      exact isAlphanum_of_mem_capitalized (halpha v (List.mem_cons_of_mem _ hv)) x hx
  · rw [isDigit_toLower_of_lt (hascii _ List.mem_cons_self c List.mem_cons_self),
      isDigit_eq_startsWithDigit hs hws]

theorem declaredAs_identifier {s : String} (hs : IsAscii s) :
    DeclaredAs s (Name.ofString s).camel (identifier (Name.ofString s).camel) := by
  have hne := Name.camel_ne_empty s
  have hmark := Name.underscore_notMem_camel s
  obtain ⟨c, rest, hcamel, halpha, hdigit⟩ := exists_camel_eq hs
  have hc : c.isAlpha = !c.isDigit :=
    isAlpha_of_isAlphanum (halpha c (hcamel ▸ List.mem_cons_self))
  have hlegal := isIdentifier_identifier halpha hcamel
  refine ⟨hne, halpha, identifier_eq hmark, not_isReserved_identifier hmark hne, ?_, hdigit ▸ hlegal⟩
  rw [head?_identifier hcamel, Option.any_some, hc, hdigit]

/-! ## Names in a run -/

/-- The names that generated code declares, and what it declares them as: those of its methods, of the
parameters that the document declares, and of fields. Parameters that rules add are declared as the
rules have them. -/
inductive Declares (api : Api) : Name → String → Prop
  | method {g : Api.Group} {a : Api.Action} (hg : g ∈ api.groups) (ha : a ∈ g.actions) :
    Declares api a.name (Method.ofAction a).name
  | parameter {g : Api.Group} {a : Api.Action} {p : Api.Parameter} (hg : g ∈ api.groups)
    (ha : a ∈ g.actions) (hp : p ∈ a.parameters) (h : p.binding = .path ∨ p.binding = .query) :
    Declares api p.name (Argument.ofParameter p).name
  | field {m : Api.Model} {f : Api.Field} (hm : m ∈ api.models) (hf : f ∈ m.fields) :
    Declares api f.name (fieldName f)

variable {compile? : String → Option (String → Bool)} {o : Options} {d : Ast.Document} {api : Api}
  {n : Name} {id : String}

theorem Declares.id_eq (h : Declares api n id) : id = identifier n.camel := by
  cases h <;> rfl

theorem Declares.name_eq (h : (Api.transformWith compile? o d).value = .ok api)
    (hn : Declares api n id) : n = Name.ofString n.spelling := by
  cases hn with
  | method hg ha => exact Api.name_of_mem_actions h hg ha
  | parameter hg ha hp hbinding => exact Api.name_of_mem_parameters h hg ha hp hbinding
  | field hm hf =>
    rw [Api.models_of_transformWith_eq_ok h] at hm
    exact Api.name_of_mem_fields hm _ hf

/-- **A name in ASCII is declared as an identifier** exactly if the first of its letters and digits
is no digit. -/
theorem identifier_legal {s : String} (hs : IsAscii s) :
    DeclaredAs s (Name.ofString s).camel (identifier (Name.ofString s).camel) ∧
      ∀ compile? o d api, (Api.transformWith compile? o d).value = .ok api →
        ∀ n id, Declares api n id → n.spelling = s → n = Name.ofString s ∧ DeclaredAs s n.camel id := by
  have hdeclared := declaredAs_identifier hs
  refine ⟨hdeclared, fun compile? o d api h n id hn hspelling => ?_⟩
  have hname : n = Name.ofString s := hspelling ▸ hn.name_eq h
  refine ⟨hname, ?_⟩
  rw [hn.id_eq, hname]
  exact hdeclared

/-- A document with one definition, which has a field of each name. -/
def fieldsDocument (names : List String) : Ast.Document :=
  { content := [
      { kind := Ast.Element.dataStructure
        content := .elements [
          { kind := "object", «meta» := some { id := some "Coupon" }
            content := .elements (names.map fun name => Ast.Element.member name none) }] }] }

/-- A name that is a reserved word only in camel case. -/
theorem identifier_legal_class : IsAscii "Class" ∧
    ∃ api n, (Api.transformWith Pattern.test? {} (fieldsDocument ["2fa", "Class"])).value = .ok api ∧
      Declares api n "class_" ∧ n.spelling = "Class" ∧ DeclaredAs "Class" n.camel "class_" ∧
      IsIdentifier "class_" := by
  have hs : IsAscii "Class" := by decide
  obtain ⟨api, m, f, h, hm, hf, hspelling, hname⟩ : ∃ api m f,
      (Api.transformWith Pattern.test? {} (fieldsDocument ["2fa", "Class"])).value = .ok api ∧
        m ∈ api.models ∧ f ∈ m.fields ∧ f.name.spelling = "Class" ∧ fieldName f = "class_" :=
    ⟨_, _, _, rfl, List.mem_singleton.mpr rfl, List.mem_cons_of_mem _ (List.mem_singleton.mpr rfl),
      rfl, by decide⟩
  have hdeclares : Declares api f.name "class_" := hname ▸ .field hm hf
  obtain ⟨-, hdeclared⟩ := (identifier_legal hs).2 _ _ _ api h f.name _ hdeclares hspelling
  exact ⟨hs, api, f.name, h, hdeclares, hspelling, hdeclared, hdeclared.legal.mpr (by decide)⟩

/-- A class with a field that the language does not allow: a digit at the start stays there. -/
theorem exists_illegal_field :
    ¬ (∀ s, IsAscii s → IsIdentifier (identifier (Name.ofString s).camel)) ∧
      ∃ api m f, (Api.transformWith Pattern.test? {} (fieldsDocument ["2fa"])).value = .ok api ∧
        m ∈ api.models ∧ f ∈ m.fields ∧ IsAscii f.name.spelling ∧ ¬ IsIdentifier (fieldName f) ∧
        "    private Object 2fa;" ∈ fieldLines f := by
  refine ⟨fun h => absurd (h "2fa" (by decide)) (by decide), ?_⟩
  exact ⟨_, _, _, rfl, List.mem_singleton.mpr rfl, List.mem_singleton.mpr rfl, by decide, by decide,
    by decide⟩

end Java

end Blueprint
