import Blueprint.Java.Comment
import Blueprint.Proofs.Text.Lines
import Mathlib.Data.List.Forall2

/-!
# Comments on descriptions

* `NoEnd`: a text that ends no comment; `afterEnd?`: what follows the first end of a comment.
* `IsReplaced`: a text with another in place of each occurrence of a third.
* `isReplaced_escapeEnds`, `noEnd_escapeEnds`: every end of a comment is split, and none is left.
* `trim_escapeEnds`, `lines_escapeEnds`: this is done line by line, whatever blanks are dropped.
* `shownLines`: the lines that a comment shows; `commentLines_eq`: a comment has one line for each.
* **`comment_shows`**: the lines of a comment are indented and start with a star. Without this, and
  a blank behind it, they are the lines of the text without the blanks at its ends and at theirs, a
  backslash in every end of a comment; so the comment goes on behind them.
-/

namespace Blueprint.Java

open Text Unicode

variable {c : Char} {cs rest : List Char}

/-! ## Ends of comments -/

/-- A text without an end of a comment. -/
def NoEnd (cs : List Char) : Prop := ¬ ['*', '/'] <:+: cs

/-- What follows the first end of a comment. -/
def afterEnd? : List Char → Option (List Char)
  | '*' :: '/' :: rest => some rest
  | _ :: rest => afterEnd? rest
  | [] => none

theorem noEnd_nil : NoEnd [] := fun h => nomatch List.eq_nil_of_infix_nil h

theorem noEnd_cons : NoEnd (c :: cs) ↔ (c = '*' → cs.head? ≠ some '/') ∧ NoEnd cs := by
  have hstart : ['*', '/'] <+: c :: cs ↔ c = '*' ∧ cs.head? = some '/' := by
    cases cs <;> simp [List.cons_prefix_cons, eq_comm]
  rw [NoEnd, List.infix_cons_iff, hstart, not_or, not_and, NoEnd]

theorem NoEnd.of_prefix {ds : List Char} (h : NoEnd cs) (hds : ds <+: cs) : NoEnd ds :=
  fun hend => h (hend.trans hds.isInfix)

theorem noEnd_replicate (n : Nat) : NoEnd (List.replicate n ' ' ++ cs) ↔ NoEnd cs := by
  induction n with
  | zero => rfl
  | succ n ih => rw [List.replicate_succ, List.cons_append, noEnd_cons, ih]; simp

theorem NoEnd.append_line {ds : List Char} (h : NoEnd cs) (hds : NoEnd ds) :
    NoEnd (cs ++ '\n' :: ds) := by
  induction cs with
  | nil => exact noEnd_cons.mpr ⟨by simp, hds⟩
  | cons c cs ih =>
    obtain ⟨hc, hcs⟩ := noEnd_cons.mp h
    refine noEnd_cons.mpr ⟨fun heq => ?_, ih hcs⟩
    cases cs with
    | nil => simp
    | cons d cs => exact hc heq

theorem noEnd_joinWith {ls : List (List Char)} (h : ∀ l ∈ ls, NoEnd l) :
    NoEnd (joinWith ['\n'] ls) := by
  induction ls with
  | nil => exact noEnd_nil
  | cons l rest ih =>
    have hl := h l List.mem_cons_self
    cases rest with
    | nil => exact hl
    | cons next rest =>
      rw [joinWith, List.append_assoc, List.singleton_append]
      · exact hl.append_line (ih fun x hx => h x (List.mem_cons_of_mem l hx))
      · exact List.cons_ne_nil next rest

/-- Behind lines that end no comment, a comment goes on. -/
theorem NoEnd.afterEnd? (h : NoEnd cs) (rest : List Char) :
    afterEnd? (cs ++ '\n' :: rest) = Java.afterEnd? rest := by
  induction cs with
  | nil => rw [List.nil_append, Java.afterEnd?]; simp
  | cons c cs ih =>
    obtain ⟨hc, hcs⟩ := noEnd_cons.mp h
    rw [List.cons_append, Java.afterEnd?]
    · exact ih hcs
    · intro more hstar hslash
      cases cs with
      | nil => simp at hslash
      | cons d cs => exact hc hstar (by rw [(List.cons.inj hslash).1]; rfl)

/-! ## Split ends -/

/-- `ds` is `cs` with `new` in place of each `old`. -/
def IsReplaced (old new cs ds : List Char) : Prop := ∃ piece pieces,
  (∀ p ∈ piece :: pieces, ¬ old <:+: p) ∧ joinWith old (piece :: pieces) = cs ∧
    joinWith new (piece :: pieces) = ds

theorem escapeEnds_cons (h : c = '*' → cs.head? ≠ some '/') :
    escapeEnds (c :: cs) = c :: escapeEnds cs := by
  rw [escapeEnds]
  rintro more rfl rfl
  exact h rfl rfl

theorem head?_escapeEnds (cs : List Char) : (escapeEnds cs).head? = cs.head? := by
  fun_cases escapeEnds cs <;> rfl

theorem joinWith_cons_cons (sep : List Char) (c : Char) (piece : List Char)
    (pieces : List (List Char)) :
    joinWith sep ((c :: piece) :: pieces) = c :: joinWith sep (piece :: pieces) := by
  cases pieces <;> rfl

theorem isReplaced_escapeEnds (cs : List Char) :
    IsReplaced ['*', '/'] ['*', '\\', '/'] cs (escapeEnds cs) := by
  -- by the pieces between ends: an end starts a new one
  fun_induction escapeEnds cs with
  | case1 rest ih =>
    obtain ⟨piece, pieces, hnone, hold, hnew⟩ := ih
    refine ⟨[], piece :: pieces, List.forall_mem_cons.mpr ⟨noEnd_nil, hnone⟩, ?_, ?_⟩
    · rw [joinWith, hold]; · rfl
      exact List.cons_ne_nil piece pieces
    · rw [joinWith, hnew]; · rfl
      exact List.cons_ne_nil piece pieces
  | case2 c rest hc ih =>
    obtain ⟨piece, pieces, hnone, hold, hnew⟩ := ih
    obtain ⟨hpiece, hpieces⟩ := List.forall_mem_cons.mp hnone
    refine ⟨c :: piece, pieces,
      List.forall_mem_cons.mpr ⟨noEnd_cons.mpr ⟨?_, hpiece⟩, hpieces⟩, ?_, ?_⟩
    · rintro rfl hhead
      obtain ⟨more, rfl⟩ := List.head?_eq_some_iff.mp hhead
      rw [joinWith_cons_cons] at hold
      exact hc _ rfl hold.symm
    · rw [joinWith_cons_cons, hold]
    · rw [joinWith_cons_cons, hnew]
  | case3 => exact ⟨[], [], by simp, rfl, rfl⟩

theorem noEnd_escapeEnds (cs : List Char) : NoEnd (escapeEnds cs) := by
  fun_induction escapeEnds cs with
  | case1 rest ih => simpa [noEnd_cons] using ih
  | case2 c rest hc ih =>
    refine noEnd_cons.mpr ⟨?_, ih⟩
    rintro rfl hhead
    rw [head?_escapeEnds] at hhead
    obtain ⟨more, rfl⟩ := List.head?_eq_some_iff.mp hhead
    exact hc more rfl rfl
  | case3 => exact noEnd_nil

theorem notMem_escapeEnds (hc : c ≠ '\\') (h : c ∉ cs) : c ∉ escapeEnds cs := by
  fun_induction escapeEnds cs with
  | case1 rest ih => simp_all
  | case2 d rest _ ih => simp_all
  | case3 => exact h

/-! ## Blanks and lines -/

theorem trimStart_escapeEnds (cs : List Char) :
    trimStart (escapeEnds cs) = escapeEnds (trimStart cs) := by
  induction cs with
  | nil => rfl
  | cons c cs ih =>
    cases hc : isWhiteSpace c
    · obtain ⟨ds, hds⟩ := List.head?_eq_some_iff.mp (head?_escapeEnds (c :: cs))
      rw [trimStart, trimStart, List.dropWhile_cons_of_neg (by simp [hc]), hds,
        List.dropWhile_cons_of_neg (by simp [hc])]
    · have hstar : c ≠ '*' := by rintro rfl; exact absurd hc (by decide)
      rw [trimStart] at ih
      rw [escapeEnds_cons fun heq => absurd heq hstar, trimStart, trimStart,
        List.dropWhile_cons_of_pos hc, List.dropWhile_cons_of_pos hc, ih, trimStart]

theorem trimEnd_escapeEnds (cs : List Char) :
    trimEnd (escapeEnds cs) = escapeEnds (trimEnd cs) := by
  have hstar : isWhiteSpace '*' = false := by decide
  have hback : isWhiteSpace '\\' = false := by decide
  have hslash : isWhiteSpace '/' = false := by decide
  fun_induction escapeEnds cs with
  | case1 rest ih =>
    rw [trimEnd_cons_of_neg hstar, trimEnd_cons_of_neg hback, trimEnd_cons_of_neg hslash, ih,
      trimEnd_cons_of_neg hstar, trimEnd_cons_of_neg hslash, escapeEnds]
  | case2 c rest hc ih =>
    have hnil : escapeEnds (trimEnd rest) = [] ↔ trimEnd rest = [] := by
      rw [← List.head?_eq_none_iff, head?_escapeEnds, List.head?_eq_none_iff]
    rw [trimEnd_cons, trimEnd_cons, ih]
    by_cases hblank : trimEnd rest = [] ∧ isWhiteSpace c = true
    · rw [if_pos hblank, if_pos ⟨hnil.mpr hblank.1, hblank.2⟩, escapeEnds]
    · rw [if_neg hblank, if_neg fun h => hblank ⟨hnil.mp h.1, h.2⟩, escapeEnds_cons]
      rintro rfl hhead
      obtain ⟨more, rfl⟩ := List.head?_eq_some_iff.mp (head?_of_trimEnd hhead)
      exact hc more rfl rfl
  | case3 => rfl

theorem trim_escapeEnds (cs : List Char) : trim (escapeEnds cs) = escapeEnds (trim cs) := by
  rw [trim, trimStart_escapeEnds, trimEnd_escapeEnds, trim]

theorem lines_escapeEnds (cs : List Char) : lines (escapeEnds cs) = (lines cs).map escapeEnds := by
  fun_induction escapeEnds cs with
  | case1 rest ih =>
    have hstar := lines_cons_of_ne (c := '*') (by decide) (by decide)
    have hback := lines_cons_of_ne (c := '\\') (by decide) (by decide)
    have hslash := lines_cons_of_ne (c := '/') (by decide) (by decide)
    rw [hstar, hback, hslash, ih, hstar, hslash]
    cases lines rest <;> rfl
  | case2 c rest hc ih =>
    rcases line_cases c rest with rfl | ⟨more, rfl, rfl⟩ | ⟨hfeed, hreturn⟩
    · rw [lines, lines, ih]
      rfl
    · -- the line break is the carriage return with the line feed that `rest` starts with
      rw [escapeEnds_cons (by simp), lines, lines, List.map_cons] at ih
      rw [escapeEnds_cons (by simp), lines, lines, (List.cons.inj ih).2]
      rfl
    · rw [lines_cons hfeed (by rwa [head?_escapeEnds]), lines_cons hfeed hreturn, ih]
      cases hlines : lines rest with
      | nil => simp [extend, escapeEnds]
      | cons l ls =>
        simp only [extend, List.map_cons, List.singleton_append]
        rw [escapeEnds_cons]
        rintro rfl hhead
        obtain ⟨more, rfl⟩ := List.head?_eq_some_iff.mp (head?_of_lines hlines hhead)
        exact hc more rfl rfl
  | case3 => rfl

/-! ## Comments -/

/-- The lines that a comment on a text shows: without the blanks at their ends, and one at least. -/
def shownLines (s : String) : List (List Char) :=
  if isBlank s then [[]] else (lines (trim s.toList)).map trimEnd

/-- A line of a comment without what all lines start with, and without a blank behind that. -/
def uncommented (indent : Nat) (l : List Char) : List Char :=
  match l.drop (indent + 2) with
  | ' ' :: rest => rest
  | rest => rest

theorem commentLine_trimEnd (pad l : List Char) :
    commentLine pad (trimEnd l) = commentLine pad l := by
  rw [commentLine, trimEnd_trimEnd, commentLine]

theorem trimEnd_of_mem_shownLines {s : String} {l : List Char} (h : l ∈ shownLines s) :
    trimEnd l = l ∧ '\n' ∉ l := by
  rw [shownLines] at h
  split at h
  · rw [List.mem_singleton.mp h]
    exact ⟨rfl, List.not_mem_nil⟩
  · obtain ⟨line, hline, rfl⟩ := List.mem_map.mp h
    exact ⟨trimEnd_trimEnd line,
      fun hmem => notMem_of_mem_lines hline ((isPrefix_trimEnd line).subset hmem)⟩

/-- A comment has one line for each line that it shows. -/
theorem commentLines_eq (indent : Nat) (s : String) : commentLines indent s =
    (shownLines s).map fun l =>
      String.ofList (commentLine (List.replicate indent ' ') (escapeEnds l)) := by
  have hblank : isBlank s = true ↔ lines (trim s.toList) = [] := by
    rw [lines_eq_nil, trim_eq_nil, isBlank, List.all_eq_true]
  rw [commentLines, trim_escapeEnds, lines_escapeEnds, List.map_map, shownLines]
  by_cases hs : isBlank s = true
  · rw [if_pos hs, hblank.mp hs]
    rfl
  · obtain ⟨l, ls, hls⟩ := List.exists_cons_of_ne_nil (mt hblank.mpr hs)
    rw [if_neg hs, hls]
    simp only [List.map_cons, List.map_map, Function.comp_def, ← trimEnd_escapeEnds,
      commentLine_trimEnd]

theorem commentLine_eq (indent : Nat) (l : List Char) : ∃ text,
    commentLine (List.replicate indent ' ') l = List.replicate indent ' ' ++ (' ' :: '*' :: text) ∧
      (text = [] ∧ trimEnd l = [] ∨ text = ' ' :: trimEnd l ∧ trimEnd l ≠ []) := by
  rw [commentLine]
  cases h : trimEnd l with
  | nil => exact ⟨[], rfl, .inl ⟨rfl, rfl⟩⟩
  | cons c text => exact ⟨_, rfl, .inr ⟨rfl, List.cons_ne_nil c text⟩⟩

theorem uncommented_commentLine (indent : Nat) (l : List Char) :
    uncommented indent (commentLine (List.replicate indent ' ') l) = trimEnd l := by
  obtain ⟨text, heq, htext⟩ := commentLine_eq indent l
  have hdrop : (commentLine (List.replicate indent ' ') l).drop (indent + 2) = text := by
    rw [heq, ← List.drop_drop, List.drop_left' (List.length_replicate ..)]
    rfl
  rw [uncommented, hdrop]
  rcases htext with ⟨rfl, hl⟩ | ⟨rfl, -⟩
  · rw [hl]
  · rfl

theorem isLine_commentLine (indent : Nat) {l : List Char} (h : '\n' ∉ l) :
    IsLine (commentLine (List.replicate indent ' ') l) := by
  obtain ⟨text, heq, htext⟩ := commentLine_eq indent l
  have hl : '\n' ∉ trimEnd l := fun hmem => h ((isPrefix_trimEnd l).subset hmem)
  rw [heq]
  rcases htext with ⟨rfl, -⟩ | ⟨rfl, hne⟩
  · exact ⟨by simp, by simp [List.mem_replicate], by simp⟩
  · refine ⟨by simp, by simp [List.mem_replicate, hl], fun hlast => ?_⟩
    have hlast : (trimEnd l).getLast? = some '\r' := by
      simpa [List.getLast?_append, List.getLast?_cons, List.getLast?_eq_some_getLast hne]
        using hlast
    exact absurd (getLast?_trimEnd hlast) (by decide)

theorem noEnd_commentLine (indent : Nat) {l : List Char} (h : NoEnd l) :
    NoEnd (commentLine (List.replicate indent ' ') l) := by
  obtain ⟨text, heq, htext⟩ := commentLine_eq indent l
  rw [heq, noEnd_replicate]
  rcases htext with ⟨rfl, -⟩ | ⟨rfl, -⟩
  · simpa [noEnd_cons] using noEnd_nil
  · simpa [noEnd_cons] using h.of_prefix (isPrefix_trimEnd l)

/-- **No description ends its comment, and none of its lines is lost.** -/
theorem comment_shows (indent : Nat) (s : String) :
    let text := (joined "\n" (commentLines indent s)).toList
    NoEnd text ∧ (∀ rest, afterEnd? (text ++ '\n' :: rest) = afterEnd? rest) ∧
      (∀ l ∈ lines text, List.replicate indent ' ' ++ [' ', '*'] <+: l) ∧
      List.Forall₂ (IsReplaced ['*', '/'] ['*', '\\', '/']) (shownLines s)
        ((lines text).map (uncommented indent)) := by
  intro text
  let entry := fun l => commentLine (List.replicate indent ' ') (escapeEnds l)
  have htext : text = joinWith ['\n'] ((shownLines s).map entry) := by
    simp only [text, entry, joined, String.toList_ofList, commentLines_eq, List.map_map,
      Function.comp_def]
    rfl
  -- no line has an end of a comment, and no two lines make one
  have hend : NoEnd text := by
    rw [htext]
    refine noEnd_joinWith fun l hl => ?_
    obtain ⟨shown, -, rfl⟩ := List.mem_map.mp hl
    exact noEnd_commentLine indent (noEnd_escapeEnds shown)
  have hlines : lines text = (shownLines s).map entry := by
    rw [htext]
    refine lines_joinWith fun l hl => ?_
    obtain ⟨shown, hshown, rfl⟩ := List.mem_map.mp hl
    exact isLine_commentLine indent
      (notMem_escapeEnds (by decide) (trimEnd_of_mem_shownLines hshown).2)
  refine ⟨hend, hend.afterEnd?, fun l hl => ?_, ?_⟩
  · rw [hlines] at hl
    obtain ⟨shown, -, rfl⟩ := List.mem_map.mp hl
    obtain ⟨tail, heq, -⟩ := commentLine_eq indent (escapeEnds shown)
    exact ⟨tail, by simp only [entry, heq, List.append_assoc, List.cons_append, List.nil_append]⟩
  · rw [hlines, List.map_map]
    refine List.forall₂_map_right_iff.mpr (List.forall₂_same.mpr fun shown hshown => ?_)
    -- splitting ends and dropping blanks at the end commute
    rw [Function.comp_apply, uncommented_commentLine, trimEnd_escapeEnds,
      (trimEnd_of_mem_shownLines hshown).1]
    exact isReplaced_escapeEnds shown

example : commentLines 4 "One.\n\nTwo. */" = ["     * One.", "     *", "     * Two. *\\/"] := by
  decide

end Blueprint.Java
