import Blueprint.Api.Models
import Blueprint.Proofs.Text.Ascii
import Blueprint.Proofs.Text.Lines

/-!
# Lines with options

* `StartsOption`: a text that starts with a key and a colon; `optionAfterPlus?_eq_some`: the option
  behind a plus sign is read from such a text, and from no other.
* `HasOption`: a line with an option behind one of its plus signs; **`isSome_lineOption?_iff`**.
* `FirstOption`: the option behind the leftmost of these plus signs; **`lineOption?_eq_some`**: this
  is the one that is read.
* `lineOption?_trimEnd`: blanks at the end of a line do not matter.
* `linesOptions`: the options of a text; **`linesOptions_trim`**: the blanks at its ends do not
  matter.
-/

namespace Blueprint.Api

open Text Unicode

variable {c : Char} {cs : List Char}

/-! ## Options -/

/-- A text that starts, behind blanks, with a key of ASCII letters and a colon, which blanks may
precede. -/
def StartsOption (cs key value : List Char) : Prop := ∃ gap blank,
  cs = gap ++ (key ++ (blank ++ ':' :: value)) ∧ (∀ c ∈ gap, isWhiteSpace c = true) ∧
    key ≠ [] ∧ (∀ c ∈ key, c.isAlpha = true) ∧ ∀ c ∈ blank, isWhiteSpace c = true

/-- A line with an option behind one of its plus signs. -/
def HasOption (line : List Char) : Prop :=
  ∃ before rest key value, line = before ++ '+' :: rest ∧ StartsOption rest key value

theorem isWhiteSpace_of_isAlpha (h : c.isAlpha = true) : isWhiteSpace c = false :=
  isWhiteSpace_of_isAlphanum (by simp [Char.isAlphanum, h])

theorem isAlpha_of_isWhiteSpace (h : isWhiteSpace c = true) : c.isAlpha = false :=
  Bool.eq_false_iff.mpr fun halpha => by simp [isWhiteSpace_of_isAlpha halpha] at h

theorem optionAfterPlus?_of_startsOption {key value : List Char} (h : StartsOption cs key value) :
    optionAfterPlus? cs = some (String.ofList key, String.ofList (trim value)) := by
  obtain ⟨gap, blank, rfl, hgap, hne, hkey, hblank⟩ := h
  obtain ⟨k, ks, rfl⟩ := List.exists_cons_of_ne_nil hne
  have hstart : ∀ c ∈ (k :: ks ++ (blank ++ ':' :: value)).head?, isWhiteSpace c = false := by
    rintro c ⟨⟩
    exact isWhiteSpace_of_isAlpha (hkey k List.mem_cons_self)
  have hstop : ∀ c ∈ (blank ++ ':' :: value).head?, c.isAlpha = false := by
    cases blank with
    | nil => rintro c ⟨⟩; decide
    | cons b blank => rintro c ⟨⟩; exact isAlpha_of_isWhiteSpace (hblank b List.mem_cons_self)
  have hcolon : ∀ c ∈ (':' :: value).head?, isWhiteSpace c = false := by rintro c ⟨⟩; decide
  simp only [optionAfterPlus?, trimStart]
  rw [dropWhile_run hgap hstart, takeWhile_run hkey hstop, dropWhile_run hkey hstop,
    dropWhile_run hblank hcolon]
  rfl

theorem startsOption_of_optionAfterPlus? {option : String × String}
    (h : optionAfterPlus? cs = some option) :
    ∃ key value, StartsOption cs key value ∧
      option = (String.ofList key, String.ofList (trim value)) := by
  unfold optionAfterPlus? at h
  dsimp only at h
  split at h
  · rename_i k ks value hkey hvalue
    rw [hkey] at h
    refine ⟨k :: ks, value, ⟨cs.takeWhile isWhiteSpace,
      ((trimStart cs).dropWhile Char.isAlpha).takeWhile isWhiteSpace, ?_, ?_, ?_, ?_, ?_⟩,
      (Option.some.inj h).symm⟩
    · simp only [← hvalue, ← hkey, trimStart, List.takeWhile_append_dropWhile]
    · exact fun c hc => List.mem_takeWhile_imp hc
    · exact List.cons_ne_nil k ks
    · exact fun c hc => List.mem_takeWhile_imp (hkey ▸ hc)
    · exact fun c hc => List.mem_takeWhile_imp hc
  · cases h

theorem optionAfterPlus?_eq_some {option : String × String} :
    optionAfterPlus? cs = some option ↔ ∃ key value, StartsOption cs key value ∧
      option = (String.ofList key, String.ofList (trim value)) := by
  refine ⟨startsOption_of_optionAfterPlus?, ?_⟩
  rintro ⟨key, value, h, rfl⟩
  exact optionAfterPlus?_of_startsOption h

theorem hasOption_cons : HasOption (c :: cs) ↔
    (c = '+' ∧ ∃ key value, StartsOption cs key value) ∨ HasOption cs := by
  constructor
  · rintro ⟨before, rest, key, value, heq, h⟩
    cases before with
    | nil =>
      obtain ⟨rfl, rfl⟩ := List.cons.inj heq
      exact .inl ⟨rfl, key, value, h⟩
    | cons b before => exact .inr ⟨before, rest, key, value, (List.cons.inj heq).2, h⟩
  · rintro (⟨rfl, key, value, h⟩ | ⟨before, rest, key, value, rfl, h⟩)
    · exact ⟨[], cs, key, value, rfl, h⟩
    · exact ⟨c :: before, rest, key, value, rfl, h⟩

/-- **A line is read as an option exactly if it has one** behind one of its plus signs. -/
theorem isSome_lineOption?_iff {line : List Char} :
    (lineOption? line).isSome = true ↔ HasOption line := by
  induction line with
  | nil => simp [lineOption?, HasOption]
  | cons c rest ih =>
    have hplus : (optionAfterPlus? rest).isSome = true ↔
        ∃ key value, StartsOption rest key value := by
      rw [Option.isSome_iff_exists]
      simp only [optionAfterPlus?_eq_some]
      exact ⟨fun ⟨_, key, value, h, _⟩ => ⟨key, value, h⟩,
        fun ⟨key, value, h⟩ => ⟨_, key, value, h, rfl⟩⟩
    rw [hasOption_cons, lineOption?, ← ih, ← hplus]
    split
    · rename_i hc
      simp [hc]
    · rename_i hc
      simp [hc]

instance : DecidablePred HasOption := fun _ => decidable_of_iff _ isSome_lineOption?_iff

/-! ## The leftmost option -/

/-- The option behind the leftmost plus sign of a line that an option follows. -/
def FirstOption (line : List Char) (option : String × String) : Prop :=
  ∃ before rest key value, line = before ++ '+' :: rest ∧ StartsOption rest key value ∧
    option = (String.ofList key, String.ofList (trim value)) ∧
    ∀ earlier more, line = earlier ++ '+' :: more → earlier.length < before.length →
      ∀ key value, ¬ StartsOption more key value

theorem firstOption_cons {option : String × String} : FirstOption (c :: cs) option ↔
    c = '+' ∧ optionAfterPlus? cs = some option ∨
      (c = '+' → optionAfterPlus? cs = none) ∧ FirstOption cs option := by
  constructor
  · rintro ⟨before, rest, key, value, hline, hstart, rfl, hleft⟩
    -- the leftmost option is behind the first character, or further on
    cases before with
    | nil =>
      obtain ⟨rfl, rfl⟩ := List.cons.inj hline
      exact .inl ⟨rfl, optionAfterPlus?_of_startsOption hstart⟩
    | cons b before =>
      obtain ⟨rfl, rfl⟩ := List.cons.inj hline
      refine .inr ⟨?_, before, rest, key, value, rfl, hstart, rfl, ?_⟩
      · rintro rfl
        refine Option.eq_none_iff_forall_ne_some.mpr fun option hoption => ?_
        obtain ⟨key', value', hother, -⟩ := optionAfterPlus?_eq_some.mp hoption
        exact hleft [] _ rfl (by simp) key' value' hother
      · intro earlier more hmore hlt
        refine hleft (c :: earlier) more (by rw [hmore]; rfl) ?_
        simpa using hlt
  · rintro (⟨rfl, hoption⟩ | ⟨hnone, before, rest, key, value, rfl, hstart, rfl, hleft⟩)
    · obtain ⟨key, value, hstart, rfl⟩ := optionAfterPlus?_eq_some.mp hoption
      exact ⟨[], cs, key, value, rfl, hstart, rfl, fun _ _ _ hlt => absurd hlt (by simp)⟩
    · refine ⟨c :: before, rest, key, value, rfl, hstart, rfl, ?_⟩
      intro earlier more hmore hlt key' value' hother
      -- nothing is further to the left: neither the first character nor one behind it
      cases earlier with
      | nil =>
        obtain ⟨rfl, rfl⟩ := List.cons.inj hmore
        have hsome := optionAfterPlus?_of_startsOption hother
        rw [hnone rfl] at hsome
        exact nomatch hsome
      | cons b earlier =>
        have hlt' : earlier.length < before.length := by simpa using hlt
        exact hleft earlier more (List.cons.inj hmore).2 hlt' key' value' hother

/-- **The option of a line is the leftmost one.** -/
theorem lineOption?_eq_some {line : List Char} {option : String × String} :
    lineOption? line = some option ↔ FirstOption line option := by
  induction line with
  | nil => simp [lineOption?, FirstOption]
  | cons c rest ih =>
    rw [firstOption_cons, ← ih, lineOption?]
    split
    · rename_i hc
      simp [hc, Option.or_eq_some_iff]
    · rename_i hc
      simp [hc]

/-! ## Blanks at the ends -/

theorem lineOption?_cons_of_ne (hc : c ≠ '+') (cs : List Char) :
    lineOption? (c :: cs) = lineOption? cs :=
  if_neg hc

theorem lineOption?_of_notMem (h : '+' ∉ cs) : lineOption? cs = none := by
  induction cs with
  | nil => rfl
  | cons c cs ih =>
    obtain ⟨hc, hcs⟩ := not_or.mp (mt List.mem_cons.mpr h)
    rw [lineOption?_cons_of_ne (Ne.symm hc), ih hcs]

theorem StartsOption.trimEnd {key value : List Char} (h : StartsOption cs key value) :
    StartsOption (trimEnd cs) key (Text.trimEnd value) := by
  obtain ⟨gap, blank, rfl, hgap, hne, hkey, hblank⟩ := h
  refine ⟨gap, blank, ?_, hgap, hne, hkey, hblank⟩
  have hcolon : isWhiteSpace ':' = false := by decide
  simp only [← List.append_assoc, Text.trimEnd_append_cons hcolon]

theorem StartsOption.append {key value : List Char} (h : StartsOption cs key value)
    (more : List Char) : StartsOption (cs ++ more) key (value ++ more) := by
  obtain ⟨gap, blank, rfl, hgap, hne, hkey, hblank⟩ := h
  exact ⟨gap, blank, by simp, hgap, hne, hkey, hblank⟩

theorem optionAfterPlus?_trimEnd (cs : List Char) :
    optionAfterPlus? (trimEnd cs) = optionAfterPlus? cs := by
  cases h : optionAfterPlus? cs with
  | some option =>
    obtain ⟨key, value, hstart, rfl⟩ := optionAfterPlus?_eq_some.mp h
    exact optionAfterPlus?_eq_some.mpr ⟨key, _, hstart.trimEnd, by rw [trim_trimEnd]⟩
  | none =>
    refine Option.eq_none_iff_forall_ne_some.mpr fun option hoption => ?_
    obtain ⟨key, value, hstart, -⟩ := optionAfterPlus?_eq_some.mp hoption
    obtain ⟨blanks, hcs⟩ := isPrefix_trimEnd cs
    have hsome := optionAfterPlus?_of_startsOption (hstart.append blanks)
    rw [hcs, h] at hsome
    exact nomatch hsome

theorem lineOption?_trimEnd (cs : List Char) : lineOption? (trimEnd cs) = lineOption? cs := by
  induction cs with
  | nil => rfl
  | cons c cs ih =>
    rw [trimEnd_cons]
    split
    · -- a line of blanks has no plus sign
      rename_i h
      have hplus : '+' ∉ c :: cs := by
        intro hmem
        have hblank : isWhiteSpace '+' = true := by
          rcases List.mem_cons.mp hmem with rfl | hmem
          · exact h.2
          · exact trimEnd_eq_nil.mp h.1 '+' hmem
        exact absurd hblank (by decide)
      rw [lineOption?_of_notMem hplus, lineOption?]
    · rw [lineOption?, lineOption?, optionAfterPlus?_trimEnd, ih]

theorem passesBlanks_lineOption? : PassesBlanks lineOption? where
  nil := rfl
  cons hc cs := lineOption?_cons_of_ne (by rintro rfl; exact absurd hc (by decide)) cs
  trimEnd := lineOption?_trimEnd

theorem hasOption_trim {line : List Char} : HasOption (trim line) ↔ HasOption line := by
  rw [← isSome_lineOption?_iff, passesBlanks_lineOption?.trim, isSome_lineOption?_iff]

/-- The options of the lines of a text. -/
def linesOptions (cs : List Char) : List (String × String) := (lines cs).filterMap lineOption?

/-- **The blanks at the ends of a text do not matter** to the options of its lines. -/
theorem linesOptions_trim (cs : List Char) : linesOptions (trim cs) = linesOptions cs :=
  passesBlanks_lineOption?.lines_trim cs

end Blueprint.Api
