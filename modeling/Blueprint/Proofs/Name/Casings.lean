import Blueprint.Proofs.Name.Ascii
import Mathlib.Data.List.Basic

/-!
# The casings of a name

* `lowercase_eq`, `uppercase_eq`, `capitalize_eq`: words in ASCII in small letters, in capitals and
  capitalised.
* `Cased`: the casings that a list of words has; `cased_ofString`: those of a name in ASCII.
* **`casings_ofString`**: the casings of a name in ASCII come from one list of words, which hold its
  letters and digits, and its casing with underscores is a name with the same casings.
-/

namespace Blueprint

open Text Unicode

/-! ## Words in ASCII -/

namespace Text

/-- A word with its first letter in capitals and the rest in small letters. -/
def capitalized : List Char → List Char
  | [] => []
  | c :: rest => c.toUpper :: rest.map Char.toLower

variable {w : List Char}

theorem lowercase_eq (hw : ∀ c ∈ w, c.toNat < 128) : lowercase w = w.map Char.toLower := by
  induction w with
  | nil => rfl
  | cons c rest ih =>
    have hc : c.toNat < 128 := hw c List.mem_cons_self
    have hsigma : c ≠ 'Σ' := by
      rintro rfl
      exact absurd hc (by decide)
    rw [lowercase_cons hsigma, toLower_of_lt hc, ih fun x hx => hw x (List.mem_cons_of_mem c hx)]
    rfl

theorem uppercase_eq (hw : ∀ c ∈ w, c.toNat < 128) : uppercase w = w.map Char.toUpper := by
  induction w with
  | nil => rfl
  | cons c rest ih =>
    have hrest : uppercase rest = rest.map Char.toUpper :=
      ih fun x hx => hw x (List.mem_cons_of_mem c hx)
    rw [uppercase, List.flatMap_cons, ← uppercase, hrest, toUpper_of_lt (hw c List.mem_cons_self)]
    rfl

theorem capitalize_eq (hw : ∀ c ∈ w, c.toNat < 128) : capitalize w = capitalized w := by
  cases w with
  | nil => rfl
  | cons c rest =>
    rw [capitalize, toUpper_of_lt (hw c List.mem_cons_self),
      lowercase_eq fun x hx => hw x (List.mem_cons_of_mem c hx)]
    rfl

theorem isAlphanum_of_mem_toLower (hw : ∀ c ∈ w, c.isAlphanum = true) :
    ∀ x ∈ w.map Char.toLower, x.isAlphanum = true := by
  intro x hx
  obtain ⟨c, hc, rfl⟩ := List.mem_map.mp hx
  have hc := hw c hc
  rw [isAlphanum_toLower_of_lt (lt_of_isAlphanum hc), hc]

theorem isAlphanum_of_mem_capitalized (hw : ∀ c ∈ w, c.isAlphanum = true) :
    ∀ x ∈ capitalized w, x.isAlphanum = true := by
  cases w with
  | nil => exact fun x hx => absurd hx List.not_mem_nil
  | cons c rest =>
    intro x hx
    rcases List.mem_cons.mp hx with rfl | hx
    · have hc := hw c List.mem_cons_self
      rw [isAlphanum_toUpper_of_lt (lt_of_isAlphanum hc), hc]
    · exact isAlphanum_of_mem_toLower (fun d hd => hw d (List.mem_cons_of_mem c hd)) x hx

end Text

namespace Name

/-! ## Casings -/

/-- The casings that come from words: small words or words in capitals, joined by underscores, and
capitalised words written together, with the first one capitalised or small. -/
structure Cased (first : List Char) (rest : List (List Char)) (n : Name) : Prop where
  snake : n.snake.toList = joinWith ['_'] ((first :: rest).map (·.map Char.toLower))
  screaming : n.screaming.toList = joinWith ['_'] ((first :: rest).map (·.map Char.toUpper))
  pascal : n.pascal.toList = (first :: rest).flatMap capitalized
  camel : n.camel.toList = first.map Char.toLower ++ rest.flatMap capitalized

section Words

variable {s : String} {first : List Char} {rest : List (List Char)}

theorem cased_of_words (hws : words (sanitize s.toList) = first :: rest)
    (hascii : ∀ w ∈ first :: rest, ∀ c ∈ w, c.toNat < 128) : Cased first rest (Name.ofString s) := by
  have hpascal : ∀ ws ⊆ first :: rest, Text.pascal ws = ws.flatMap capitalized := fun ws hsub =>
    List.flatMap_congr fun w hw => capitalize_eq (hascii w (hsub hw))
  have hlower : (first :: rest).map lowercase = (first :: rest).map (·.map Char.toLower) :=
    List.map_congr_left fun w hw => lowercase_eq (hascii w hw)
  have hupper : (first :: rest).map uppercase = (first :: rest).map (·.map Char.toUpper) :=
    List.map_congr_left fun w hw => uppercase_eq (hascii w hw)
  refine ⟨?_, ?_, ?_, ?_⟩
  · rw [Name.ofString, String.toList_ofList, hws, Text.snake, hlower]
  · rw [Name.ofString, String.toList_ofList, hws, Text.screaming, hupper]
  · rw [Name.ofString, String.toList_ofList, hws, hpascal _ (List.Subset.refl _)]
  · rw [Name.ofString, String.toList_ofList, hws, Text.camel, hpascal rest (List.subset_cons_self _ _),
      lowercase_eq (hascii first List.mem_cons_self)]

/-- Names that are cased by the same words have the same casings. -/
theorem Cased.unique {m n : Name} (hm : Cased first rest m) (hn : Cased first rest n) :
    { m with spelling := n.spelling } = n := by
  cases m
  cases n
  simp only [Name.mk.injEq, true_and, ← String.toList_inj]
  exact ⟨hm.pascal.trans hn.pascal.symm, hm.camel.trans hn.camel.symm, hm.snake.trans hn.snake.symm,
    hm.screaming.trans hn.screaming.symm⟩

variable (hascii : ∀ w ∈ first :: rest, ∀ c ∈ w, c.toNat < 128)
include hascii

theorem Cased.of_small {n : Name}
    (h : Cased (first.map Char.toLower) (rest.map (·.map Char.toLower)) n) : Cased first rest n := by
  have hlower : ∀ w ∈ first :: rest, (w.map Char.toLower).map Char.toLower = w.map Char.toLower :=
    fun w hw => by
      rw [List.map_map]
      exact List.map_congr_left fun c hc => toLower_toLower_of_lt (hascii w hw c hc)
  have hupper : ∀ w ∈ first :: rest, (w.map Char.toLower).map Char.toUpper = w.map Char.toUpper :=
    fun w hw => by
      rw [List.map_map]
      exact List.map_congr_left fun c hc => toUpper_toLower_of_lt (hascii w hw c hc)
  have hcapital : ∀ w ∈ first :: rest, capitalized (w.map Char.toLower) = capitalized w := by
    intro w hw
    cases w with
    | nil => rfl
    | cons c w =>
      have hc := toUpper_toLower_of_lt (hascii _ hw c List.mem_cons_self)
      have hw' := hlower _ hw
      simp only [List.map_cons, List.cons.injEq] at hw'
      simp only [List.map_cons, capitalized, hc, hw'.2]
  have hfirst : first ∈ first :: rest := List.mem_cons_self
  have hrest : (rest.map (·.map Char.toLower)).flatMap capitalized = rest.flatMap capitalized := by
    rw [List.flatMap_map]
    exact List.flatMap_congr fun w hw => hcapital w (List.mem_cons_of_mem _ hw)
  refine ⟨?_, ?_, ?_, ?_⟩
  · rw [h.snake, ← List.map_cons, List.map_map]
    exact congrArg (joinWith ['_']) (List.map_congr_left hlower)
  · rw [h.screaming, ← List.map_cons, List.map_map]
    exact congrArg (joinWith ['_']) (List.map_congr_left hupper)
  · rw [h.pascal, List.flatMap_cons, hcapital first hfirst, hrest, List.flatMap_cons]
  · rw [h.camel, hlower first hfirst, hrest]

end Words

/-! ## Names in ASCII -/

theorem words_sanitize_of_ne_nil {cs : List Char} (h : words cs ≠ []) :
    words (sanitize cs) = words cs := by
  rw [words_sanitize, if_neg]
  intro hnone
  obtain ⟨w, hw⟩ := List.exists_mem_of_ne_nil _ h
  have hflat := flatten_words cs
  rw [hnone, List.flatten_eq_nil_iff] at hflat
  exact ne_nil_of_mem_words hw (hflat w hw)

theorem isSmall_map_toLower {w : List Char} (hne : w ≠ []) (hascii : ∀ c ∈ w, c.toNat < 128)
    (hw : ∀ c ∈ w, isAlphanumeric c = true) : IsSmall (w.map Char.toLower) where
  ne_nil := by simpa using hne
  alphanumeric := by
    intro x hx
    obtain ⟨c, hc, rfl⟩ := List.mem_map.mp hx
    rw [isAlphanumeric_of_lt (toLower_lt (hascii c hc)), isAlphanum_toLower_of_lt (hascii c hc),
      ← isAlphanumeric_of_lt (hascii c hc), hw c hc]
  small := by
    intro x hx
    obtain ⟨c, hc, rfl⟩ := List.mem_map.mp hx
    exact isUppercase_toLower_of_lt (hascii c hc)

theorem filter_isAlphanumeric {s : String} (hs : IsAscii s) :
    s.toList.filter isAlphanumeric = s.toList.filter Char.isAlphanum :=
  List.filter_congr fun c hc => isAlphanumeric_of_lt (hs c hc)

/-- The casing with underscores of words in ASCII has these words again, in small letters. -/
theorem words_sanitize_snake {s : String} {first : List Char} {rest : List (List Char)}
    (hs : IsAscii s) (hws : words (sanitize s.toList) = first :: rest) :
    words (sanitize (Name.ofString s).snake.toList) =
      first.map Char.toLower :: rest.map (·.map Char.toLower) := by
  have hbreak : isAlphanumeric '_' = false := by decide
  have hascii : ∀ w ∈ first :: rest, ∀ c ∈ w, c.toNat < 128 := fun w hw c hc =>
    lt_of_mem_words hs (hws ▸ hw) hc
  have hsmall : ∀ w ∈ (first :: rest).map (·.map Char.toLower), IsSmall w := by
    intro x hx
    obtain ⟨w, hw, rfl⟩ := List.mem_map.mp hx
    have hword : w ∈ words (sanitize s.toList) := hws ▸ hw
    exact isSmall_map_toLower (ne_nil_of_mem_words hword) (hascii w hw)
      (forall_mem_of_words (fun _ => id) hword)
  have hsnake : words (Name.ofString s).snake.toList = (first :: rest).map (·.map Char.toLower) := by
    rw [(cased_of_words hws hascii).snake]
    exact words_joinWith hbreak hsmall
  rw [words_sanitize_of_ne_nil (by simp [hsnake]), hsnake, List.map_cons]

/-- **The casings of a name in ASCII come from one list of words**, of its letters and digits. -/
theorem casings_ofString {s : String} (hs : IsAscii s) : ∃ first rest,
    (∀ w ∈ first :: rest, w ≠ []) ∧
    (s.toList.filter Char.isAlphanum ≠ [] → (first :: rest).flatten.map Char.toLower =
      (s.toList.filter Char.isAlphanum).map Char.toLower) ∧
    (s.toList.filter Char.isAlphanum = [] → first = "unnamed".toList ∧ rest = []) ∧
    Cased first rest (Name.ofString s) ∧
    { Name.ofString (Name.ofString s).snake with spelling := s } = Name.ofString s := by
  obtain ⟨c, w, rest, hws⟩ := exists_words_eq s.toList
  have hascii : ∀ v ∈ (c :: w) :: rest, ∀ x ∈ v, x.toNat < 128 := fun v hv x hx =>
    lt_of_mem_words hs (hws ▸ hv) hx
  have hcased : Cased (c :: w) rest (Name.ofString s) := cased_of_words hws hascii
  have hspelling := words_sanitize s.toList
  rw [filter_isAlphanumeric hs, hws] at hspelling
  refine ⟨c :: w, rest, fun v hv => ne_nil_of_mem_words (hws ▸ hv), fun hsome => ?_, fun hnone => ?_,
    hcased, ?_⟩
  · rw [if_neg hsome] at hspelling
    rw [hspelling, flatten_words, filter_isAlphanumeric hs]
  · rw [if_pos hnone, List.cons.injEq] at hspelling
    exact hspelling
  · -- its words in small letters have the same casings
    have hsnake := words_sanitize_snake hs hws
    have hlower : ∀ v ∈ ((c :: w) :: rest).map (·.map Char.toLower), ∀ x ∈ v, x.toNat < 128 := by
      intro v hv x hx
      obtain ⟨u, hu, rfl⟩ := List.mem_map.mp hv
      obtain ⟨y, hy, rfl⟩ := List.mem_map.mp hx
      exact toLower_lt (hascii u hu y hy)
    exact ((cased_of_words hsnake hlower).of_small hascii).unique hcased

/-- A name with separators, humps, capitals and digits has five words, which its snake casing
keeps. -/
theorem casings_ofString_request : ∃ first rest,
    (first :: rest).flatten.map Char.toLower = "parsehttp2requestv10beta".toList ∧
    Cased first rest (Name.ofString " parseHTTP2Request v10--Beta!") ∧
    (Name.ofString " parseHTTP2Request v10--Beta!").snake = "parse_http2_request_v10_beta" ∧
    (Name.ofString "parse_http2_request_v10_beta").camel =
      (Name.ofString " parseHTTP2Request v10--Beta!").camel := by
  have hs : IsAscii " parseHTTP2Request v10--Beta!" := by decide
  have hsnake : (Name.ofString " parseHTTP2Request v10--Beta!").snake =
      "parse_http2_request_v10_beta" := by decide +kernel
  obtain ⟨first, rest, -, hletters, -, hcased, hagain⟩ := casings_ofString hs
  rw [hsnake] at hagain
  have hcamel := congrArg Name.camel hagain
  refine ⟨first, rest, ?_, hcased, hsnake, hcamel⟩
  rw [hletters (by decide +kernel)]
  decide +kernel

end Name

end Blueprint
