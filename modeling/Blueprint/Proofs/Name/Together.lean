import Blueprint.Proofs.Name.Recased

/-!
# Words that run together

Capitalised words that are written one behind the other are told apart by their capitals. A capital
that follows a capital starts a word only if a small letter follows it.

* `IsInitial`, `StartsAlone`: words of one letter, and words whose first letter no letter follows.
* `RunTogether`: words with a capital that is lost when they are written together.
* **`recased_flatMap_eq_self`**: capitalised words keep their capitals unless they run together.
-/

namespace Blueprint.Text

open Unicode

variable {w : List Char} {ws : List (List Char)} {h : Hump}

/-! ## Words with few letters -/

/-- A word of digits alone. -/
def IsNumeral (w : List Char) : Prop := ∀ c ∈ w, c.isDigit = true

/-- A word of one letter, with digits behind it at most. -/
def IsInitial (w : List Char) : Prop :=
  ∃ c digits, w = c :: digits ∧ c.isAlpha = true ∧ IsNumeral digits

/-- A word whose first letter no letter follows. -/
def StartsAlone (w : List Char) : Prop :=
  ∃ c rest, w = c :: rest ∧ c.isAlpha = true ∧ ∀ d ∈ rest.head?, d.isDigit = true

/-- Words of which the first that is no numeral starts with a letter that no letter follows. -/
def JoinsOn (ws : List (List Char)) : Prop :=
  ∃ numerals w rest, ws = numerals ++ w :: rest ∧ (∀ n ∈ numerals, IsNumeral n) ∧ StartsAlone w

/-- Words with a capital that is lost when they are written together: the capital of a word whose first
letter no letter follows, behind a word of one letter. -/
def RunTogether (ws : List (List Char)) : Prop :=
  ∃ before w after, ws = before ++ w :: after ∧ IsInitial w ∧ JoinsOn after

/-- A word of ASCII letters and digits. -/
structure IsWord (w : List Char) : Prop where
  ne_nil : w ≠ []
  alphanum : ∀ c ∈ w, c.isAlphanum = true

theorem startsAlone_of_isInitial (h : IsInitial w) : StartsAlone w := by
  obtain ⟨c, digits, rfl, hc, hdigits⟩ := h
  exact ⟨c, digits, rfl, hc, fun d hd => hdigits d (List.mem_of_mem_head? hd)⟩

theorem not_startsAlone_of_isNumeral (h : IsNumeral w) : ¬ StartsAlone w := by
  rintro ⟨c, rest, rfl, hc, -⟩
  have hdigit := h c List.mem_cons_self
  rw [isAlpha_of_isDigit hdigit] at hc
  exact nomatch hc

theorem joinsOn_cons : JoinsOn (w :: ws) ↔ StartsAlone w ∨ IsNumeral w ∧ JoinsOn ws := by
  constructor
  · rintro ⟨numerals, v, rest, heq, hnumerals, hv⟩
    cases numerals with
    | nil =>
      obtain ⟨rfl, rfl⟩ := List.cons.inj heq
      exact .inl hv
    | cons n numerals =>
      obtain ⟨rfl, rfl⟩ := List.cons.inj heq
      exact .inr ⟨hnumerals w List.mem_cons_self, numerals, v, rest, rfl,
        fun x hx => hnumerals x (List.mem_cons_of_mem w hx), hv⟩
  · rintro (h | ⟨hw, numerals, v, rest, rfl, hnumerals, hv⟩)
    · exact ⟨[], w, ws, rfl, by simp, h⟩
    · exact ⟨w :: numerals, v, rest, rfl, List.forall_mem_cons.mpr ⟨hw, hnumerals⟩, hv⟩

theorem runTogether_cons : RunTogether (w :: ws) ↔ IsInitial w ∧ JoinsOn ws ∨ RunTogether ws := by
  constructor
  · rintro ⟨before, v, after, heq, hv, hafter⟩
    cases before with
    | nil =>
      obtain ⟨rfl, rfl⟩ := List.cons.inj heq
      exact .inl ⟨hv, hafter⟩
    | cons b before =>
      obtain ⟨rfl, rfl⟩ := List.cons.inj heq
      exact .inr ⟨before, v, after, rfl, hv, hafter⟩
  · rintro (⟨hw, hws⟩ | ⟨before, v, after, rfl, hv, hafter⟩)
    · exact ⟨[], w, ws, rfl, hw, hws⟩
    · exact ⟨w :: before, v, after, rfl, hv, hafter⟩

instance : DecidablePred IsNumeral := fun w => List.decidableBAll (fun c : Char => c.isDigit = true) w

instance : DecidablePred IsInitial
  | [] => .isFalse fun ⟨_, _, h, _⟩ => nomatch h
  | c :: digits => decidable_of_iff (c.isAlpha = true ∧ IsNumeral digits) (by simp [IsInitial])

instance : DecidablePred StartsAlone
  | [] => .isFalse fun ⟨_, _, h, _⟩ => nomatch h
  | c :: rest => decidable_of_iff (c.isAlpha = true ∧ rest.head?.all Char.isDigit = true)
      (by simp [StartsAlone, Option.all_eq_true])

instance decidableJoinsOn : DecidablePred JoinsOn
  | [] => .isFalse fun ⟨_, _, _, h, _⟩ => absurd h (by simp)
  | _ :: ws => have := decidableJoinsOn ws; decidable_of_iff _ joinsOn_cons.symm

instance decidableRunTogether : DecidablePred RunTogether
  | [] => .isFalse fun ⟨_, _, _, h, _⟩ => absurd h (by simp)
  | _ :: ws => have := decidableRunTogether ws; decidable_of_iff _ runTogether_cons.symm

/-! ## The case behind a word -/

theorem foldl_after_of_isNumeral (hw : IsNumeral w) (h : Hump) : w.foldl Hump.after h = h := by
  induction w generalizing h with
  | nil => rfl
  | cons c rest ih =>
    rw [List.foldl_cons, after_of_isDigit (hw c List.mem_cons_self)]
    exact ih (fun x hx => hw x (List.mem_cons_of_mem c hx)) h

theorem map_toLower_of_isNumeral (hw : IsNumeral w) : w.map Char.toLower = w := by
  have hsame : ∀ c ∈ w, c.toLower = c := fun c hc =>
    toLower_of_not_isUpper (lt_of_isDigit (hw c hc)) (isUpper_of_isDigit (hw c hc))
  rw [List.map_congr_left hsame, List.map_id']

theorem foldl_after_map_toLower (hw : ∀ c ∈ w, c.isAlphanum = true) (hletter : ¬ IsNumeral w)
    (h : Hump) : (w.map Char.toLower).foldl Hump.after h = .lower := by
  induction w generalizing h with
  | nil => exact absurd (by simp [IsNumeral]) hletter
  | cons c rest ih =>
    have hc := hw c List.mem_cons_self
    have hrest : ∀ x ∈ rest, x.isAlphanum = true := fun x hx => hw x (List.mem_cons_of_mem c hx)
    rw [List.map_cons, List.foldl_cons]
    by_cases hnumeral : IsNumeral rest
    · have halpha : c.isAlpha = true := by
        rw [isAlpha_of_isAlphanum hc]
        by_contra hdigit
        exact hletter (by simpa [IsNumeral] using ⟨by simpa using hdigit, hnumeral⟩)
      have hlower : c.toLower.isLower = true := by rw [isLower_toLower_of_lt (lt_of_isAlphanum hc), halpha]
      rw [after_of_isLower hlower, map_toLower_of_isNumeral hnumeral, foldl_after_of_isNumeral hnumeral]
    · exact ih hrest hnumeral _

theorem capitalized_of_isNumeral (hw : IsNumeral w) : capitalized w = w := by
  cases w with
  | nil => rfl
  | cons c rest =>
    have hc : c.isDigit = true := hw c List.mem_cons_self
    have hrest : IsNumeral rest := fun x hx => hw x (List.mem_cons_of_mem c hx)
    have hlt : c.toNat < 128 := lt_of_isDigit hc
    rw [capitalized, toUpper_of_not_isAlpha hlt (isAlpha_of_isDigit hc), map_toLower_of_isNumeral hrest]

theorem foldl_after_of_isInitial (hw : IsInitial w) (h : Hump) :
    (capitalized w).foldl Hump.after h = .upper := by
  obtain ⟨c, digits, rfl, hc, hdigits⟩ := hw
  have hlt : c.toNat < 128 := lt_of_isAlphanum (isAlphanum_of_isAlpha hc)
  have hcap : c.toUpper.isUpper = true := by rw [isUpper_toUpper_of_lt hlt, hc]
  rw [capitalized, map_toLower_of_isNumeral hdigits, List.foldl_cons, after_of_isUpper hcap,
    foldl_after_of_isNumeral hdigits]

theorem foldl_after_of_not_isInitial (hw : IsWord w) (hnumeral : ¬ IsNumeral w)
    (hinitial : ¬ IsInitial w) (h : Hump) : (capitalized w).foldl Hump.after h = .lower := by
  obtain ⟨c, rest, rfl⟩ := List.exists_cons_of_ne_nil hw.ne_nil
  have hrest : ∀ x ∈ rest, x.isAlphanum = true := fun x hx =>
    hw.alphanum x (List.mem_cons_of_mem c hx)
  have hletter : ¬ IsNumeral rest := by
    intro hdigits
    have hc := isAlpha_of_isAlphanum (hw.alphanum c List.mem_cons_self)
    cases hdigit : c.isDigit with
    | true => exact hnumeral (List.forall_mem_cons.mpr ⟨hdigit, hdigits⟩)
    | false => exact hinitial ⟨c, rest, rfl, by rw [hc, hdigit]; rfl, hdigits⟩
  rw [capitalized, List.foldl_cons, foldl_after_map_toLower hrest hletter]

/-! ## Words that keep their capitals -/

theorem isLower_head?_flatMap_capitalized (hws : ∀ w ∈ ws, IsWord w) :
    ∀ d ∈ (ws.flatMap capitalized).head?, d.isLower = false := by
  cases ws with
  | nil => simp
  | cons w ws =>
    have hw := hws w List.mem_cons_self
    obtain ⟨c, rest, rfl⟩ := List.exists_cons_of_ne_nil hw.ne_nil
    rintro d ⟨⟩
    exact isLower_toUpper_of_lt (lt_of_isAlphanum (hw.alphanum c List.mem_cons_self))

theorem startsAlone_cons {c : Char} {rest : List Char} (hw : IsWord (c :: rest)) :
    StartsAlone (c :: rest) ↔
      c.isAlpha = true ∧ (rest.map Char.toLower).head?.any Char.isLower = false := by
  cases rest with
  | nil => simp [StartsAlone]
  | cons d rest =>
    have hd := hw.alphanum d (by simp)
    have hlower : d.toLower.isLower = !d.isDigit := by
      rw [isLower_toLower_of_lt (lt_of_isAlphanum hd), isAlpha_of_isAlphanum hd]
    simp [StartsAlone, hlower]

/-- A capitalised word keeps its capital, unless that runs together with the letter before. -/
theorem recased_capitalized_eq_self (hw : IsWord w) (hh : h ≠ .boundary) :
    recased h (capitalized w) = capitalized w ↔ ¬ (h = .upper ∧ StartsAlone w) := by
  obtain ⟨c, rest, rfl⟩ := List.exists_cons_of_ne_nil hw.ne_nil
  have hlt := lt_of_isAlphanum (hw.alphanum c List.mem_cons_self)
  have hsmall : ∀ x ∈ rest.map Char.toLower, x.isUpper = false := by
    intro x hx
    obtain ⟨d, hd, rfl⟩ := List.mem_map.mp hx
    exact isUpper_toLower_of_lt (lt_of_isAlphanum (hw.alphanum d (List.mem_cons_of_mem c hd)))
  have hcap : c.toUpper.isUpper = c.isAlpha := isUpper_toUpper_of_lt hlt
  rw [capitalized, startsAlone_cons hw]
  cases halpha : c.isAlpha with
  | false =>
    rw [recased_cons_of_not_isUpper (hcap.trans halpha), recased_of_forall hsmall]
    simp
  | true =>
    rw [recased_cons_eq_self (hcap.trans halpha) hsmall]
    cases h with
    | boundary => exact absurd rfl hh
    | lower => simp [startsWord]
    | upper => simp [startsWord]

/-- **Capitalised words behind a letter keep their capitals**, unless two of them run together. -/
theorem recased_flatMap_eq_self (hws : ∀ w ∈ ws, IsWord w) (hh : h ≠ .boundary) :
    recased h (ws.flatMap capitalized) = ws.flatMap capitalized ↔
      ¬ (h = .upper ∧ JoinsOn ws) ∧ ¬ RunTogether ws := by
  induction ws generalizing h with
  | nil => simp [recased, JoinsOn, RunTogether]
  | cons w ws ih =>
    have hw := hws w List.mem_cons_self
    have hrest : ∀ v ∈ ws, IsWord v := fun v hv => hws v (List.mem_cons_of_mem w hv)
    -- the words behind start with no small letter, so the first is cased on its own
    have hsplit : recased h ((w :: ws).flatMap capitalized) = (w :: ws).flatMap capitalized ↔
        recased h (capitalized w) = capitalized w ∧
          recased ((capitalized w).foldl Hump.after h) (ws.flatMap capitalized) =
            ws.flatMap capitalized := by
      rw [List.flatMap_cons, recased_append (isLower_head?_flatMap_capitalized hrest)]
      refine ⟨fun heq => List.append_inj heq (length_recased h _), ?_⟩
      rintro ⟨hfirst, htail⟩
      rw [hfirst, htail]
    rw [hsplit, recased_capitalized_eq_self hw hh, joinsOn_cons, runTogether_cons]
    -- a word of digits passes on the case before it, and a single letter its own
    by_cases hnumeral : IsNumeral w
    · have hinitial : ¬ IsInitial w := fun hi =>
        not_startsAlone_of_isNumeral hnumeral (startsAlone_of_isInitial hi)
      have halone := not_startsAlone_of_isNumeral hnumeral
      rw [capitalized_of_isNumeral hnumeral, foldl_after_of_isNumeral hnumeral, ih hrest hh]
      simp [hnumeral, hinitial, halone]
    · by_cases hinitial : IsInitial w
      · rw [foldl_after_of_isInitial hinitial, ih hrest (by simp)]
        simp [hnumeral, hinitial]
      · rw [foldl_after_of_not_isInitial hw hnumeral hinitial, ih hrest (by simp)]
        simp [hnumeral, hinitial]

end Blueprint.Text
