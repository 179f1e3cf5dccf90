import Blueprint.Proofs.Java.Comments
import Blueprint.Proofs.Models.Extraction
import Blueprint.Proofs.Models.OptionLines

/-!
# Options and documentation

The options of a model are read from the lines of its description, and the comment on its class
shows lines of the same description.

* `StartsWithPlus`: a line that starts with a plus sign; `looksLikeOption_iff`.
* `lineTexts`: what lines say, blank lines and the blanks at their ends left out;
  `lineTexts_filter_inj`: lines that say the same are chosen alike.
* `lineTexts_shownLines`: the comment shows the lines that start with no plus sign.
* **`options_documentation`**: the comment shows the lines without options exactly if the lines that
  start with a plus sign are those with an option.
* `exists_shown_option`: a line with an option that the comment shows, and one without an option
  that it drops.
-/

namespace Blueprint.Java

open Ast Text Unicode

variable {c : Char} {cs : List Char} {ls : List (List Char)}

/-! ## Lines that start with a plus sign -/

/-- A line that starts, behind blanks, with a plus sign. -/
def StartsWithPlus (line : List Char) : Prop :=
  ∃ gap rest, line = gap ++ '+' :: rest ∧ ∀ c ∈ gap, isWhiteSpace c = true

theorem looksLikeOption_iff {line : List Char} :
    looksLikeOption line = true ↔ StartsWithPlus line := by
  rw [looksLikeOption, decide_eq_true_iff, List.head?_eq_some_iff]
  constructor
  · rintro ⟨rest, hrest⟩
    refine ⟨line.takeWhile isWhiteSpace, rest, ?_, fun c hc => List.mem_takeWhile_imp hc⟩
    rw [← hrest, trimStart, List.takeWhile_append_dropWhile]
  · rintro ⟨gap, rest, rfl, hgap⟩
    have hplus : ∀ c ∈ ('+' :: rest).head?, isWhiteSpace c = false := by rintro c ⟨⟩; decide
    exact ⟨rest, dropWhile_run hgap hplus⟩

instance : DecidablePred StartsWithPlus := fun _ => decidable_of_iff _ looksLikeOption_iff

theorem looksLikeOption_cons (hc : isWhiteSpace c = true) (cs : List Char) :
    looksLikeOption (c :: cs) = looksLikeOption cs := by
  rw [looksLikeOption, looksLikeOption, trimStart, trimStart, List.dropWhile_cons_of_pos hc]

theorem head?_trimEnd (h : ∀ c ∈ cs.head?, isWhiteSpace c = false) :
    (trimEnd cs).head? = cs.head? := by
  cases cs with
  | nil => rfl
  | cons c cs =>
    rw [trimEnd_cons_of_neg (h c rfl)]
    rfl

theorem looksLikeOption_trimEnd (cs : List Char) :
    looksLikeOption (trimEnd cs) = looksLikeOption cs := by
  have hstart : ∀ c ∈ (trimStart cs).head?, isWhiteSpace c = false := fun c hc => head?_dropWhile hc
  rw [looksLikeOption, trimStart_trimEnd, head?_trimEnd hstart, looksLikeOption]

theorem looksLikeOption_trim (cs : List Char) : looksLikeOption (trim cs) = looksLikeOption cs := by
  rw [trim, looksLikeOption_trimEnd]
  exact apply_trimStart looksLikeOption_cons cs

theorem startsWithPlus_trim {line : List Char} :
    StartsWithPlus (trim line) ↔ StartsWithPlus line := by
  rw [← looksLikeOption_iff, looksLikeOption_trim, looksLikeOption_iff]

/-! ## What lines say -/

/-- What a line says, unless it is blank. -/
def lineText? (l : List Char) : Option (List Char) := if trim l = [] then none else some (trim l)

theorem passesBlanks_lineText? : PassesBlanks lineText? where
  nil := rfl
  cons hc cs := by
    rw [lineText?, trim, trimStart, List.dropWhile_cons_of_pos hc]
    rfl
  trimEnd cs := by rw [lineText?, trim_trimEnd, lineText?]

/-- What lines say: those that are not blank, without the blanks at their ends. -/
def lineTexts (ls : List (List Char)) : List (List Char) := ls.filterMap lineText?

section Choice

variable {p q : List Char → Bool}

theorem mem_lineTexts_filter (hp : ∀ l, p (trim l) = p l) {l : List Char} (hl : l ∈ ls)
    (hne : trim l ≠ []) : trim l ∈ lineTexts (ls.filter p) ↔ p l = true := by
  rw [lineTexts, List.mem_filterMap]
  constructor
  · rintro ⟨other, hother, htext⟩
    rw [lineText?] at htext
    split at htext
    · exact nomatch htext
    · rw [← hp l, ← Option.some.inj htext, hp other]
      exact List.of_mem_filter hother
  · exact fun h => ⟨l, List.mem_filter.mpr ⟨hl, h⟩, if_neg hne⟩

/-- **Two choices of lines say the same exactly if they choose alike**, where a line is chosen for
what it says. -/
theorem lineTexts_filter_inj (hp : ∀ l, p (trim l) = p l) (hq : ∀ l, q (trim l) = q l)
    (hnil : p [] = q []) :
    lineTexts (ls.filter p) = lineTexts (ls.filter q) ↔ ∀ l ∈ ls, p l = q l := by
  constructor
  · intro h l hl
    by_cases hblank : trim l = []
    · rw [← hp, ← hq, hblank, hnil]
    · rw [Bool.eq_iff_iff, ← mem_lineTexts_filter hp hl hblank, h,
        mem_lineTexts_filter hq hl hblank]
  · intro h
    rw [List.filter_congr h]

end Choice

/-! ## The comment on a class -/

theorem filterMap_shownLines {α : Type} {read : List Char → Option α} (h : PassesBlanks read)
    (s : String) : (shownLines s).filterMap read = (lines s.toList).filterMap read := by
  rw [← h.lines_trim, shownLines]
  split
  · rename_i hblank
    have htrim : trim s.toList = [] := trim_eq_nil.mpr (List.all_eq_true.mp hblank)
    rw [htrim, List.filterMap_cons, h.nil]
    rfl
  · exact h.map_trimEnd _

theorem withoutOptions_eq (s : String) : withoutOptions s = String.ofList
    (trim (joinWith ['\n'] ((lines s.toList).filter fun l => ¬ StartsWithPlus l))) := by
  have hkept : ((lines s.toList).filter fun l => ¬ StartsWithPlus l) =
      (lines s.toList).filter fun l => !looksLikeOption l := by
    refine List.filter_congr fun l _ => ?_
    simp only [← looksLikeOption_iff]
    simp
  rw [hkept, withoutOptions]

theorem lineTexts_shownLines (s : String) : lineTexts (shownLines (withoutOptions s)) =
    lineTexts ((lines s.toList).filter fun l => ¬ StartsWithPlus l) := by
  have hlines : ∀ l ∈ (lines s.toList).filter (fun l => ¬ StartsWithPlus l), '\n' ∉ l := fun l hl =>
    notMem_of_mem_lines (List.mem_of_mem_filter hl)
  rw [withoutOptions_eq, lineTexts, filterMap_shownLines passesBlanks_lineText?,
    String.toList_ofList, passesBlanks_lineText?.lines_trim,
    passesBlanks_lineText?.lines_joinWith hlines, lineTexts]

/-- **The comment on a class shows the lines without options** exactly if a plus sign starts those
with one, and no others. -/
theorem options_documentation {o : Options} {d : Document} {m : Api.Model} {s : String}
    (hm : m ∈ (Api.extractModels o d).value) (hs : m.description = some s) :
    m.options = ((lines s.toList).filterMap Api.lineOption?).foldl
        (fun (options : Dictionary String) (k, v) => options.put k v)
        [("flattenParentClasses", if o.flattenParents then "true" else "false")] ∧
      (∀ l ∈ lines s.toList, (Api.lineOption? l).isSome = true ↔ Api.HasOption l) ∧
      withoutOptions s = String.ofList
        (trim (joinWith ['\n'] ((lines s.toList).filter fun l => ¬ StartsWithPlus l))) ∧
      lineTexts (shownLines (withoutOptions s)) =
        lineTexts ((lines s.toList).filter fun l => ¬ StartsWithPlus l) ∧
      (lineTexts (shownLines (withoutOptions s)) =
          lineTexts ((lines s.toList).filter fun l => ¬ Api.HasOption l) ↔
        ∀ l ∈ lines s.toList, StartsWithPlus l ↔ Api.HasOption l) := by
  obtain ⟨e, -, hme⟩ := Api.mem_extractModels.mp hm
  obtain ⟨text, htext, rfl⟩ : ∃ text, e.metaDescription = some text ∧ trimmed text = s := by
    rw [hme, Api.description_modelOf] at hs
    exact Option.map_eq_some_iff.mp hs
  have hoptions : (lines (trimmed text).toList).filterMap Api.lineOption? =
      (lines text.toList).filterMap Api.lineOption? := by
    rw [trimmed, String.toList_ofList]
    exact Api.linesOptions_trim text.toList
  refine ⟨?_, fun l _ => Api.isSome_lineOption?_iff, withoutOptions_eq _,
    lineTexts_shownLines _, ?_⟩
  · rw [hme, Api.options_modelOf, Api.modelOptions, htext, hoptions]
    rfl
  · rw [lineTexts_shownLines, lineTexts_filter_inj
      (fun l => decide_eq_decide.mpr (not_congr startsWithPlus_trim))
      (fun l => decide_eq_decide.mpr (not_congr Api.hasOption_trim)) (by decide)]
    simp only [decide_eq_decide, not_iff_not]

/-- A document with one definition, which a text describes. -/
def describedDocument (text : String) : Document :=
  { content := [
      { kind := Element.dataStructure
        content := .elements [
          { kind := "object"
            «meta» := some { id := some "Coupon", description := some text } }] }] }

theorem options_documentation_page :
    let text := "A page of coupons.\n+ wrapsClass: java.util.ArrayList<Coupon>"
    ∃ m ∈ (Api.extractModels {} (describedDocument text)).value, m.description = some text ∧
      m.options.get? "wrapsClass" = some "java.util.ArrayList<Coupon>" ∧
      lineTexts (shownLines (withoutOptions text)) = ["A page of coupons.".toList] := by
  intro text
  obtain ⟨m, hm, hs, hoption⟩ : ∃ m ∈ (Api.extractModels {} (describedDocument text)).value,
      m.description = some text ∧
        m.options.get? "wrapsClass" = some "java.util.ArrayList<Coupon>" := by decide
  obtain ⟨-, -, -, -, hshown⟩ := options_documentation hm hs
  refine ⟨m, hm, hs, hoption, ?_⟩
  rw [hshown.mpr (by decide)]
  decide

/-- A line without an option that the comment drops, and one with an option that it shows. -/
theorem exists_shown_option :
    let text := "A coupon.\n+ ordered by date\nPrice + tax: included"
    ∃ m ∈ (Api.extractModels {} (describedDocument text)).value, m.description = some text ∧
      m.options.get? "tax" = some "included" ∧
      lineTexts (shownLines (withoutOptions text)) =
        ["A coupon.".toList, "Price + tax: included".toList] ∧
      lineTexts ((lines text.toList).filter fun l => ¬ Api.HasOption l) =
        ["A coupon.".toList, "+ ordered by date".toList] := by
  decide

end Blueprint.Java
