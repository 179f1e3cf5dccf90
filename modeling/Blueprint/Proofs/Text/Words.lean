import Blueprint.Text.Words

/-!
# Pieces and words

* `splitWhere_append`, `splitWhere_of_forall`: the pieces of a text around a separator, and of a
  text without one.
* `flatten_splitWhere`: the pieces hold all characters but the separators, in order.
* `joinWith_splitOn`: joined by the separator, the pieces are the text.
* `ne_nil_of_mem_words`: no word is empty.
* **`flatten_words`**: the words of a text are its letters and digits, in order.
* `words_append`: the words around a separator; `IsSmall`: words without capitals;
  **`words_joinWith`**: these are read back from the text that joins them.
-/

namespace Blueprint.Text

open Unicode

variable {p : Char → Bool}

/-! ## Pieces -/

theorem splitWhere_ne_nil (p : Char → Bool) (cs : List Char) : splitWhere p cs ≠ [] := by
  cases cs with
  | nil => simp [splitWhere]
  | cons c rest =>
    rw [splitWhere]
    split
    · simp
    · split <;> simp

theorem splitWhere_cons_of_neg {c : Char} (hc : p c = false) (rest : List Char) :
    ∃ piece pieces, splitWhere p rest = piece :: pieces ∧
      splitWhere p (c :: rest) = (c :: piece) :: pieces := by
  obtain ⟨piece, pieces, h⟩ := List.exists_cons_of_ne_nil (splitWhere_ne_nil p rest)
  exact ⟨piece, pieces, h, by simp [splitWhere, hc, h]⟩

theorem flatten_splitWhere (p : Char → Bool) (cs : List Char) :
    (splitWhere p cs).flatten = cs.filter fun c => !p c := by
  induction cs with
  | nil => rfl
  | cons c rest ih =>
    cases hc : p c
    · obtain ⟨piece, pieces, h, hcons⟩ := splitWhere_cons_of_neg hc rest
      rw [h] at ih
      simpa [hcons, hc] using ih
    · simp [splitWhere, hc, ih]

theorem splitWhere_of_forall {cs : List Char} (h : ∀ c ∈ cs, p c = false) :
    splitWhere p cs = [cs] := by
  induction cs with
  | nil => rfl
  | cons c rest ih =>
    have hrest := ih fun x hx => h x (List.mem_cons_of_mem c hx)
    simp [splitWhere, h c List.mem_cons_self, hrest]

theorem splitWhere_append {sep : Char} (hsep : p sep = true) (cs ds : List Char) :
    splitWhere p (cs ++ sep :: ds) = splitWhere p cs ++ splitWhere p ds := by
  induction cs with
  | nil => simp [splitWhere, hsep]
  | cons c rest ih =>
    cases hc : p c
    · obtain ⟨piece, pieces, h, hcons⟩ := splitWhere_cons_of_neg hc rest
      rw [hcons, List.cons_append, splitWhere, ih, h]
      simp [hc]
    · simp [splitWhere, hc, ih]

theorem notMem_of_mem_splitOn {sep : Char} {cs piece : List Char} (h : piece ∈ splitOn sep cs) :
    sep ∉ piece := by
  intro hsep
  have hmem : sep ∈ (splitOn sep cs).flatten := List.mem_flatten_of_mem h hsep
  rw [splitOn, flatten_splitWhere, List.mem_filter] at hmem
  simp at hmem

theorem joinWith_splitOn (sep : Char) (cs : List Char) : joinWith [sep] (splitOn sep cs) = cs := by
  rw [splitOn]
  induction cs with
  | nil => rfl
  | cons c rest ih =>
    cases hc : (c == sep)
    · obtain ⟨first, pieces, hrest, hcons⟩ := splitWhere_cons_of_neg (p := (· == sep)) hc rest
      rw [hrest] at ih
      rw [hcons, ← ih]
      cases pieces <;> rfl
    · obtain ⟨first, pieces, hrest⟩ := List.exists_cons_of_ne_nil (splitWhere_ne_nil (· == sep) rest)
      rw [hrest] at ih
      rw [splitWhere, if_pos hc, hrest, joinWith, ih, beq_iff_eq.mp hc]
      · rfl
      · exact List.cons_ne_nil first pieces

/-! ## Words -/

theorem flatten_humps (h : Hump) (word : List Char) {cs : List Char} (hcs : cs ≠ []) :
    (humps h word cs).flatten = word ++ cs := by
  induction cs generalizing h word with
  | nil => exact absurd rfl hcs
  | cons c rest ih =>
    cases rest with
    | nil => simp [humps]
    | cons next rest =>
      rw [humps]
      split
      · rw [List.flatten_cons, ih _ _ (List.cons_ne_nil next rest)]
        simp
      · split
        · rw [List.flatten_cons, ih _ _ (List.cons_ne_nil next rest)]
          simp
        · rw [ih _ _ (List.cons_ne_nil next rest)]
          simp

theorem flatten_humps_boundary (cs : List Char) : (humps .boundary [] cs).flatten = cs := by
  by_cases h : cs = []
  · rw [h]; rfl
  · exact flatten_humps .boundary [] h

theorem ne_nil_of_mem_humps {h : Hump} {word : List Char} (hword : h = .upper → word ≠ [])
    {cs w : List Char} (hw : w ∈ humps h word cs) : w ≠ [] := by
  induction cs generalizing h word with
  | nil => simp [humps] at hw
  | cons c rest ih =>
    cases rest with
    | nil =>
      rw [humps, List.mem_singleton] at hw
      simp [hw]
    | cons next rest =>
      rw [humps] at hw
      split at hw
      · rcases List.mem_cons.mp hw with rfl | hw
        · simp
        · exact ih (by simp) hw
      · split at hw
        · -- a word that ends before a capital has one at least
          rename_i hupper
          rcases List.mem_cons.mp hw with rfl | hw
          · exact hword hupper.1
          · exact ih (by simp) hw
        · exact ih (by simp) hw

theorem ne_nil_of_mem_words {cs w : List Char} (hw : w ∈ words cs) : w ≠ [] := by
  obtain ⟨piece, -, hw⟩ := List.mem_flatMap.mp hw
  exact ne_nil_of_mem_humps (by simp) hw

/-- **The words of a text are its letters and digits, in order.** -/
theorem flatten_words (cs : List Char) : (words cs).flatten = cs.filter isAlphanumeric := by
  have hpieces : ∀ pieces : List (List Char),
      (pieces.flatMap (humps .boundary [])).flatten = pieces.flatten := by
    intro pieces
    induction pieces with
    | nil => rfl
    | cons piece pieces ih =>
      rw [List.flatMap_cons, List.flatten_append, flatten_humps_boundary, ih, List.flatten_cons]
  rw [words, hpieces, flatten_splitWhere]
  simp only [Bool.not_not]

theorem words_nil : words [] = [] := rfl

/-- The words around a separator are those before it and those behind it. -/
theorem words_append {sep : Char} (hsep : isAlphanumeric sep = false) (cs ds : List Char) :
    words (cs ++ sep :: ds) = words cs ++ words ds := by
  rw [words, splitWhere_append (by simp [hsep]), List.flatMap_append]
  rfl

theorem words_cons {sep : Char} (hsep : isAlphanumeric sep = false) (ds : List Char) :
    words (sep :: ds) = words ds :=
  words_append hsep [] ds

/-- A piece without capitals is one word. -/
theorem humps_of_forall (h : Hump) (word : List Char) {cs : List Char} (hne : cs ≠ [])
    (hcs : ∀ c ∈ cs, isUppercase c = false) : humps h word cs = [word ++ cs] := by
  induction cs generalizing h word with
  | nil => exact absurd rfl hne
  | cons c rest ih =>
    cases rest with
    | nil => rfl
    | cons next rest =>
      have hc : isUppercase c = false := hcs c List.mem_cons_self
      have hnext : isUppercase next = false := hcs next (by simp)
      rw [humps, if_neg (by simp [hnext]), if_neg (by simp [hc]),
        ih _ _ (List.cons_ne_nil next rest) fun x hx => hcs x (List.mem_cons_of_mem c hx)]
      simp

/-- A word of letters and digits without capitals. -/
structure IsSmall (w : List Char) : Prop where
  ne_nil : w ≠ []
  alphanumeric : ∀ c ∈ w, isAlphanumeric c = true
  small : ∀ c ∈ w, isUppercase c = false

theorem IsSmall.words_eq {w : List Char} (h : IsSmall w) : words w = [w] := by
  have hpiece : splitWhere (fun c => !isAlphanumeric c) w = [w] :=
    splitWhere_of_forall fun c hc => by simp [h.alphanumeric c hc]
  rw [words, hpiece, List.flatMap_singleton, humps_of_forall .boundary [] h.ne_nil h.small,
    List.nil_append]

/-- **Small words are read back** from the text that joins them. -/
theorem words_joinWith {sep : Char} (hsep : isAlphanumeric sep = false) {ws : List (List Char)}
    (hws : ∀ w ∈ ws, IsSmall w) : words (joinWith [sep] ws) = ws := by
  induction ws with
  | nil => rfl
  | cons w rest ih =>
    have hw := (hws w List.mem_cons_self).words_eq
    cases rest with
    | nil => exact hw
    | cons next rest =>
      have hrest := ih fun x hx => hws x (List.mem_cons_of_mem w hx)
      have hjoin : joinWith [sep] (w :: next :: rest) =
          w ++ sep :: joinWith [sep] (next :: rest) := by simp [joinWith]
      rw [hjoin, words_append hsep, hw, hrest, List.singleton_append]

end Blueprint.Text
