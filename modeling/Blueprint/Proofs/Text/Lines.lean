import Blueprint.Proofs.Text.Brackets
import Mathlib.Data.List.DropRight

/-!
# Lines and blanks

* `takeWhile_run`, `dropWhile_run`: a run of characters, and what stops it.
* `trimEnd_eq_nil`, `trim_eq_nil`, `isBlank_iff`: the texts that nothing is left of without the
  blanks at their ends.
* `trimEnd_cons`: the blanks at the end, from the front; `trimEnd_trimEnd`, `getLast?_trimEnd`.
* `apply_trimStart`, `trim_trimEnd`: what does not depend on blanks at an end.
* `lines_cons`, `lines_append`: a line grows at its front, and ends with a line break.
* `notMem_of_mem_lines`: no line has a line feed.
* **`lines_joinWith`**: joined by line feeds, lines are read back.
* `lines_trimEnd`: blanks at the end of a text are blanks at the end of its lines, and blank lines.
* `PassesBlanks`: what is read from a line whatever blanks are at its ends.
  **`PassesBlanks.lines_trim`**, **`PassesBlanks.lines_joinWith`**: it is read from the lines of a
  text without the blanks at its ends as well, and from lines that were joined.
-/

namespace Blueprint.Text

open Unicode

variable {c : Char} {cs : List Char}

/-! ## Runs -/

section Runs

variable {p : Char → Bool} {run rest : List Char}

theorem takeWhile_run (hrun : ∀ c ∈ run, p c = true) (hrest : ∀ c ∈ rest.head?, p c = false) :
    (run ++ rest).takeWhile p = run := by
  have hstop : rest.takeWhile p = [] := by
    cases rest with
    | nil => rfl
    | cons c rest => exact List.takeWhile_cons_of_neg (by simp [hrest c rfl])
  rw [List.takeWhile_append_of_pos hrun, hstop, List.append_nil]

theorem dropWhile_run (hrun : ∀ c ∈ run, p c = true) (hrest : ∀ c ∈ rest.head?, p c = false) :
    (run ++ rest).dropWhile p = rest := by
  rw [List.dropWhile_append_of_pos hrun]
  cases rest with
  | nil => rfl
  | cons c rest => exact List.dropWhile_cons_of_neg (by simp [hrest c rfl])

theorem head?_dropWhile {c : Char} {cs : List Char} (h : c ∈ (cs.dropWhile p).head?) :
    p c = false := by
  have hnot := List.head?_dropWhile_not p cs
  rw [Option.mem_def.mp h] at hnot
  exact Bool.eq_false_iff.mpr (by simpa using hnot)

end Runs

/-! ## Blanks -/

theorem trimEnd_eq_nil : trimEnd cs = [] ↔ ∀ c ∈ cs, isWhiteSpace c = true :=
  List.rdropWhile_eq_nil_iff

theorem trimEnd_nil : trimEnd [] = [] := rfl

/-- Nothing is left of a text of blanks alone, and of no other. -/
theorem trim_eq_nil : trim cs = [] ↔ ∀ c ∈ cs, isWhiteSpace c = true := by
  -- what is left of the start is empty or starts with no blank, so it is empty if it is all blanks
  have hstart : (∀ c ∈ trimStart cs, isWhiteSpace c = true) ↔ trimStart cs = [] := by
    rw [← List.dropWhile_eq_nil_iff, trimStart, List.dropWhile_idempotent]
  rw [trim, trimEnd_eq_nil, hstart, trimStart, List.dropWhile_eq_nil_iff]

theorem isBlank_iff {s : String} : isBlank s = true ↔ trimmed s = "" := by
  rw [isBlank, List.all_eq_true, ← trim_eq_nil, trimmed, String.ofList_eq_empty_iff]

theorem trimEnd_cons (c : Char) (cs : List Char) : trimEnd (c :: cs) =
    if trimEnd cs = [] ∧ isWhiteSpace c = true then [] else c :: trimEnd cs := by
  rw [trimEnd, List.reverse_cons, List.dropWhile_append, trimEnd]
  by_cases hcs : cs.reverse.dropWhile isWhiteSpace = []
  · by_cases hc : isWhiteSpace c = true <;> simp [hcs, hc]
  · simp [hcs]

theorem trimEnd_cons_of_neg (hc : isWhiteSpace c = false) (cs : List Char) :
    trimEnd (c :: cs) = c :: trimEnd cs := by
  rw [trimEnd_cons, if_neg (by simp [hc])]

theorem trimEnd_append_cons (hc : isWhiteSpace c = false) (cs ds : List Char) :
    trimEnd (cs ++ c :: ds) = cs ++ c :: trimEnd ds := by
  induction cs with
  | nil => exact trimEnd_cons_of_neg hc ds
  | cons d cs ih => rw [List.cons_append, trimEnd_cons, ih, if_neg (by simp), List.cons_append]

theorem trimEnd_trimEnd (cs : List Char) : trimEnd (trimEnd cs) = trimEnd cs :=
  List.rdropWhile_idempotent isWhiteSpace cs

theorem trimStart_trimEnd (cs : List Char) : trimStart (trimEnd cs) = trimEnd (trimStart cs) := by
  induction cs with
  | nil => rfl
  | cons c cs ih =>
    cases hc : isWhiteSpace c
    · rw [trimEnd_cons_of_neg hc, trimStart, trimStart, List.dropWhile_cons_of_neg (by simp [hc]),
        List.dropWhile_cons_of_neg (by simp [hc]), trimEnd_cons_of_neg hc]
    · have hrest : trimStart (trimEnd (c :: cs)) = trimStart (trimEnd cs) := by
        rw [trimEnd_cons]
        split
        · rename_i h
          rw [h.1]
        · exact List.dropWhile_cons_of_pos hc
      rw [hrest, ih, trimStart, trimStart, List.dropWhile_cons_of_pos hc]

theorem apply_trimStart {β : Type} {f : List Char → β}
    (h : ∀ {c}, isWhiteSpace c = true → ∀ cs, f (c :: cs) = f cs) (cs : List Char) :
    f (trimStart cs) = f cs := by
  induction cs with
  | nil => rfl
  | cons c cs ih =>
    cases hc : isWhiteSpace c
    · rw [trimStart, List.dropWhile_cons_of_neg (by simp [hc])]
    · rw [trimStart, List.dropWhile_cons_of_pos hc, h hc]
      exact ih

theorem trim_trimEnd (cs : List Char) : trim (trimEnd cs) = trim cs := by
  rw [trim, trimStart_trimEnd, trimEnd_trimEnd, trim]

theorem isPrefix_trimEnd (cs : List Char) : trimEnd cs <+: cs :=
  List.rdropWhile_prefix isWhiteSpace cs

theorem head?_of_trimEnd (h : c ∈ (trimEnd cs).head?) : c ∈ cs.head? := by
  obtain ⟨blanks, hcs⟩ := isPrefix_trimEnd cs
  rw [← hcs, List.head?_append, h]
  rfl

theorem getLast?_trimEnd (h : c ∈ (trimEnd cs).getLast?) : isWhiteSpace c = false := by
  obtain ⟨hne, rfl⟩ := List.mem_getLast?_eq_getLast h
  exact Bool.eq_false_iff.mpr (List.rdropWhile_last_not isWhiteSpace cs hne)

/-! ## Lines -/

theorem lines_cons {rest : List Char} (hc : c ≠ '\n') (hrest : c = '\r' → rest.head? ≠ some '\n') :
    lines (c :: rest) = extend [c] (lines rest) := by
  have hr : ∀ more, c = '\r' → rest = '\n' :: more → False := by
    rintro more hr rfl
    exact hrest hr rfl
  rw [lines.eq_4 c rest hc hr]
  cases lines rest <;> rfl

theorem lines_cons_of_ne (hc : c ≠ '\n') (hr : c ≠ '\r') (rest : List Char) :
    lines (c :: rest) = extend [c] (lines rest) :=
  lines_cons hc fun heq => absurd heq hr

/-- A text starts with a line break of one or two characters, or with one of its first line. -/
theorem line_cases (c : Char) (cs : List Char) :
    c = '\n' ∨ (∃ more, c = '\r' ∧ cs = '\n' :: more) ∨
      c ≠ '\n' ∧ (c = '\r' → cs.head? ≠ some '\n') := by
  by_cases hfeed : c = '\n'
  · exact .inl hfeed
  by_cases hreturn : c = '\r' ∧ cs.head? = some '\n'
  · obtain ⟨more, hmore⟩ := List.head?_eq_some_iff.mp hreturn.2
    exact .inr (.inl ⟨more, hreturn.1, hmore⟩)
  · exact .inr (.inr ⟨hfeed, not_and.mp hreturn⟩)

theorem head?_of_lines {l : List Char} {ls : List (List Char)} (h : lines cs = l :: ls)
    (hc : c ∈ l.head?) : c ∈ cs.head? := by
  fun_induction lines cs with
  | case1 => exact nomatch h
  | case2 => cases h; exact nomatch hc
  | case3 => cases h; exact nomatch hc
  | case4 => cases h; exact hc
  | case5 => cases h; exact hc

theorem notMem_of_mem_lines {l : List Char} (h : l ∈ lines cs) : '\n' ∉ l := by
  fun_induction lines cs generalizing l with
  | case1 => exact nomatch h
  | case2 rest ih | case3 rest ih =>
    rcases List.mem_cons.mp h with rfl | h
    · exact List.not_mem_nil
    · exact ih h
  | case4 c rest hc =>
    rw [List.mem_singleton.mp h, List.mem_singleton]
    exact fun heq => hc heq.symm
  | case5 c rest hc _ piece pieces hrest ih =>
    rcases List.mem_cons.mp h with rfl | h
    · rw [List.mem_cons, not_or]
      exact ⟨fun heq => hc heq.symm, ih (hrest ▸ List.mem_cons_self)⟩
    · exact ih (hrest ▸ List.mem_cons_of_mem piece h)

theorem subset_of_mem_lines {l : List Char} (h : l ∈ lines cs) : l ⊆ cs := by
  fun_induction lines cs generalizing l with
  | case1 => exact nomatch h
  | case2 rest ih =>
    rcases List.mem_cons.mp h with rfl | h
    · exact List.nil_subset _
    · exact List.subset_cons_of_subset _ (ih h)
  | case3 rest ih =>
    rcases List.mem_cons.mp h with rfl | h
    · exact List.nil_subset _
    · exact List.subset_cons_of_subset _ (List.subset_cons_of_subset _ (ih h))
  | case4 c rest =>
    rw [List.mem_singleton.mp h]
    exact List.cons_subset_cons c (List.nil_subset rest)
  | case5 c rest _ _ piece pieces hrest ih =>
    rcases List.mem_cons.mp h with rfl | h
    · exact List.cons_subset_cons c (ih (hrest ▸ List.mem_cons_self))
    · exact List.subset_cons_of_subset _ (ih (hrest ▸ List.mem_cons_of_mem piece h))

theorem lines_eq_nil : lines cs = [] ↔ cs = [] := by
  fun_cases lines cs <;> simp

theorem lines_of_notMem (h : '\n' ∉ cs) (hne : cs ≠ []) : lines cs = [cs] := by
  induction cs with
  | nil => exact absurd rfl hne
  | cons c cs ih =>
    obtain ⟨hc, hcs⟩ := not_or.mp (mt List.mem_cons.mpr h)
    rw [lines_cons (Ne.symm hc) fun _ hhead => hcs (List.mem_of_mem_head? hhead)]
    cases cs with
    | nil => rfl
    | cons d cs =>
      rw [ih hcs (List.cons_ne_nil d cs)]
      rfl

theorem lines_append (h : '\n' ∉ cs) (hlast : cs.getLast? ≠ some '\r') (rest : List Char) :
    lines (cs ++ '\n' :: rest) = cs :: lines rest := by
  induction cs with
  | nil => rw [List.nil_append, lines]
  | cons c cs ih =>
    obtain ⟨hc, hcs⟩ := not_or.mp (mt List.mem_cons.mpr h)
    cases cs with
    | nil =>
      have hcr : c ≠ '\r' := fun heq => hlast (heq ▸ rfl)
      rw [List.cons_append, lines_cons (Ne.symm hc) fun heq => absurd heq hcr, List.nil_append,
        lines]
      rfl
    | cons d cs =>
      obtain ⟨hd, -⟩ := not_or.mp (mt List.mem_cons.mpr hcs)
      have hhead : (d :: cs ++ '\n' :: rest).head? ≠ some '\n' := fun heq =>
        hd (Option.some.inj heq).symm
      rw [List.cons_append, lines_cons (Ne.symm hc) fun _ => hhead,
        ih hcs (by rwa [List.getLast?_cons_cons] at hlast)]
      rfl

/-- A line that is read back from a text of lines. -/
structure IsLine (l : List Char) : Prop where
  ne_nil : l ≠ []
  notMem : '\n' ∉ l
  getLast? : l.getLast? ≠ some '\r'

/-- **Lines are read back** from the text that joins them. -/
theorem lines_joinWith {ls : List (List Char)} (h : ∀ l ∈ ls, IsLine l) :
    lines (joinWith ['\n'] ls) = ls := by
  induction ls with
  | nil => rfl
  | cons l rest ih =>
    have hl := h l List.mem_cons_self
    cases rest with
    | nil => exact lines_of_notMem hl.notMem hl.ne_nil
    | cons next rest =>
      have hjoin : joinWith ['\n'] (l :: next :: rest) =
          l ++ '\n' :: joinWith ['\n'] (next :: rest) := by simp [joinWith]
      rw [hjoin, lines_append hl.notMem hl.getLast?, ih fun x hx => h x (List.mem_cons_of_mem l hx)]

theorem map_trimEnd_extend (c : Char) {ls ms : List (List Char)}
    (h : ls.map trimEnd = ms.map trimEnd) :
    (extend [c] ls).map trimEnd = (extend [c] ms).map trimEnd := by
  cases ls with
  | nil => rw [List.map_eq_nil_iff.mp h.symm]
  | cons l ls =>
    cases ms with
    | nil => exact nomatch h
    | cons m ms =>
      obtain ⟨hhead, htail⟩ := List.cons.inj h
      simp [extend, trimEnd_cons, hhead, htail]

theorem trimEnd_of_mem_lines (h : trimEnd cs = []) {l : List Char} (hl : l ∈ lines cs) :
    trimEnd l = [] :=
  trimEnd_eq_nil.mpr fun c hc => trimEnd_eq_nil.mp h c (subset_of_mem_lines hl hc)

/-- Blanks at the end of a text are blanks at the ends of its lines, or blank lines at its end. -/
theorem lines_trimEnd (cs : List Char) : ∃ k,
    (lines cs).map trimEnd = (lines (trimEnd cs)).map trimEnd ++ List.replicate k [] := by
  induction cs with
  | nil => exact ⟨0, rfl⟩
  | cons c cs ih =>
    obtain ⟨k, ih⟩ := ih
    -- either all is blank, or the first character stays
    by_cases hblank : trimEnd (c :: cs) = []
    · refine ⟨(lines (c :: cs)).length, ?_⟩
      rw [hblank, List.eq_replicate_iff.mpr ⟨List.length_map .., fun l hl => ?_⟩]
      · rfl
      · obtain ⟨line, hline, rfl⟩ := List.mem_map.mp hl
        exact trimEnd_of_mem_lines hblank hline
    have hcons : trimEnd (c :: cs) = c :: trimEnd cs := by
      rw [trimEnd_cons] at hblank ⊢
      exact if_neg fun h => hblank (if_pos h)
    rw [hcons]
    rcases line_cases c cs with rfl | ⟨more, rfl, rfl⟩ | ⟨hfeed, hreturn⟩
    · refine ⟨k, ?_⟩
      rw [lines, lines, List.map_cons, List.map_cons, ih]
      rfl
    · -- the line feed stays, as the carriage return before it does
      have hmore : trimEnd ('\n' :: more) = '\n' :: trimEnd more := by
        rw [trimEnd_cons]
        refine if_neg fun h => hblank ?_
        rw [trimEnd_cons, trimEnd_cons, if_pos h]
        rfl
      rw [hmore, lines, lines] at ih
      refine ⟨k, ?_⟩
      rw [hmore, lines, lines]
      exact ih
    · have hrest : c = '\r' → (trimEnd cs).head? ≠ some '\n' := fun hc hhead =>
        hreturn hc (head?_of_trimEnd hhead)
      have hlines : (lines cs).map trimEnd =
          (lines (trimEnd cs) ++ List.replicate k []).map trimEnd := by
        rw [ih, List.map_append, List.map_replicate, trimEnd_nil]
      rw [lines_cons hfeed hreturn, lines_cons hfeed hrest, map_trimEnd_extend c hlines]
      -- where no line is left, that of `c` takes the place of a blank one
      cases lines (trimEnd cs) with
      | nil =>
        cases k with
        | zero => exact ⟨0, by simp [extend]⟩
        | succ k => exact ⟨k, by simp [extend, List.replicate_succ, trimEnd_nil]⟩
      | cons m ms => exact ⟨k, by simp [extend, trimEnd_nil]⟩

/-! ## Readings of lines -/

section Reading

variable {α : Type} {read : List Char → Option α}

/-- A reading of lines that passes over the blanks at their ends and reads nothing from an empty
line. -/
structure PassesBlanks (read : List Char → Option α) : Prop where
  nil : read [] = none
  cons : ∀ {c}, isWhiteSpace c = true → ∀ cs, read (c :: cs) = read cs
  trimEnd : ∀ cs, read (trimEnd cs) = read cs

theorem PassesBlanks.trimStart (h : PassesBlanks read) (cs : List Char) :
    read (trimStart cs) = read cs := apply_trimStart h.cons cs

theorem PassesBlanks.trim (h : PassesBlanks read) (cs : List Char) : read (trim cs) = read cs := by
  rw [Text.trim, h.trimEnd, h.trimStart]

theorem PassesBlanks.map_trimEnd (h : PassesBlanks read) (ls : List (List Char)) :
    (ls.map Text.trimEnd).filterMap read = ls.filterMap read := by
  rw [List.filterMap_map]
  exact List.filterMap_congr fun l _ => h.trimEnd l

/-- A blank before a text is a line break, or a blank at the start of its first line. -/
theorem PassesBlanks.lines_cons (h : PassesBlanks read) (hc : isWhiteSpace c = true)
    (cs : List Char) : (lines (c :: cs)).filterMap read = (lines cs).filterMap read := by
  rcases line_cases c cs with rfl | ⟨more, rfl, rfl⟩ | ⟨hfeed, hreturn⟩
  · rw [lines, List.filterMap_cons, h.nil]
  · rw [lines, lines]
  · rw [Text.lines_cons hfeed hreturn]
    cases lines cs with
    | nil => simp [extend, h.cons hc, h.nil]
    | cons l ls => simp [extend, List.filterMap_cons, h.cons hc]

/-- **Without the blanks at its ends, a text reads the same.** -/
theorem PassesBlanks.lines_trim (h : PassesBlanks read) (cs : List Char) :
    (lines (Text.trim cs)).filterMap read = (lines cs).filterMap read := by
  have hend : ∀ cs, (lines (Text.trimEnd cs)).filterMap read = (lines cs).filterMap read := by
    intro cs
    obtain ⟨k, hk⟩ := lines_trimEnd cs
    rw [← h.map_trimEnd (lines cs), hk, List.filterMap_append, h.map_trimEnd,
      List.filterMap_replicate_of_none h.nil, List.append_nil]
  rw [Text.trim, hend]
  exact apply_trimStart (f := fun cs => (lines cs).filterMap read) h.lines_cons cs

theorem lines_feed (h : '\n' ∉ cs) (rest : List Char) :
    ∃ l, lines (cs ++ '\n' :: rest) = l :: lines rest ∧ trimEnd l = trimEnd cs := by
  induction cs with
  | nil => exact ⟨[], by rw [List.nil_append, lines], rfl⟩
  | cons c cs ih =>
    obtain ⟨hc, hcs⟩ := not_or.mp (mt List.mem_cons.mpr h)
    obtain ⟨l, hl, htrim⟩ := ih hcs
    rcases line_cases c (cs ++ '\n' :: rest) with rfl | ⟨more, rfl, hmore⟩ | ⟨hfeed, hreturn⟩
    · exact absurd rfl hc
    · cases cs with
      | nil =>
        refine ⟨[], by rw [List.cons_append, List.nil_append, lines], ?_⟩
        rw [trimEnd_cons, if_pos ⟨rfl, by decide⟩]
        rfl
      | cons d cs => exact absurd (List.cons.inj hmore).1 fun hd => hcs (hd ▸ List.mem_cons_self)
    · refine ⟨c :: l, ?_, by rw [trimEnd_cons, trimEnd_cons, htrim]⟩
      rw [List.cons_append, Text.lines_cons hfeed hreturn, hl]
      rfl

/-- **Joined by line feeds, lines read the same.** -/
theorem PassesBlanks.lines_joinWith (h : PassesBlanks read) {ls : List (List Char)}
    (hls : ∀ l ∈ ls, '\n' ∉ l) :
    (lines (joinWith ['\n'] ls)).filterMap read = ls.filterMap read := by
  induction ls with
  | nil => rfl
  | cons l rest ih =>
    have hl := hls l List.mem_cons_self
    cases rest with
    | nil =>
      rw [joinWith]
      rcases eq_or_ne l [] with rfl | hne
      · rw [List.filterMap_cons, h.nil]
        rfl
      · rw [lines_of_notMem hl hne]
    | cons next rest =>
      have hjoin : joinWith ['\n'] (l :: next :: rest) =
          l ++ '\n' :: joinWith ['\n'] (next :: rest) := by simp [joinWith]
      -- a carriage return at the end of `l` is taken for a part of the line break
      obtain ⟨first, hfirst, htrim⟩ := lines_feed hl (joinWith ['\n'] (next :: rest))
      rw [hjoin, hfirst, List.filterMap_cons, List.filterMap_cons,
        ih fun x hx => hls x (List.mem_cons_of_mem l hx), ← h.trimEnd first, htrim, h.trimEnd]

end Reading

end Blueprint.Text
