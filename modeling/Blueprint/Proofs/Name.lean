import Blueprint.Name
import Blueprint.Proofs.Text.Words

/-!
# Names

* `forall_mem_mapCase`: what holds of a character and of both tables of a case mapping holds of the
  image of the character.
* `CaseStable`: what both case mappings keep; **`forall_mem_pascal`**, **`forall_mem_camel`**: then
  it holds of the casings of a name if it holds of letters and digits.
* `IsPlain`: characters that mean nothing in a path; `isPlain_pascal`: a name in Pascal case has no
  others. `underscore_notMem_camel`: a name in camel case has no underscore.
* **`words_sanitize`**: the words of a name are those of its spelling.
* **`pascal_ne_nil`**, **`camel_ne_nil`**: no name is empty in Pascal or camel case.
-/

namespace Blueprint

open Text Unicode

/-! ## Case mappings -/

namespace Unicode

theorem mem_of_sequenceOf {table : List (Nat × List Nat)} {c : Nat} {s : List Nat}
    (h : sequenceOf table c = some s) : ∃ d, (d, s) ∈ table := by
  induction table with
  | nil => exact nomatch h
  | cons p rest ih =>
    obtain ⟨d, t⟩ := p
    rw [sequenceOf] at h
    split at h
    · exact nomatch h
    · split at h
      · exact ⟨d, by simp [Option.some.inj h]⟩
      · obtain ⟨d', hd⟩ := ih h
        exact ⟨d', List.mem_cons_of_mem _ hd⟩

/-- A shift leaves a code point or moves it to one of the images of a table. -/
theorem shifted_eq (shifts : List Shift) (c : Nat) : shifted shifts c = c ∨
    ∃ s ∈ shifts, ∃ i, i < s.last + 1 - s.first ∧ shifted shifts c = s.image + i := by
  induction shifts with
  | nil => exact .inl rfl
  | cons s rest ih =>
    by_cases hfirst : c < s.first
    · exact .inl (by rw [shifted, if_pos hfirst])
    by_cases hlast : c ≤ s.last ∧ (c - s.first) % s.step = 0
    · refine .inr ⟨s, List.mem_cons_self, c - s.first, by omega, ?_⟩
      rw [shifted, if_neg hfirst, if_pos hlast]
    · have heq : shifted (s :: rest) c = shifted rest c := by
        rw [shifted, if_neg hfirst, if_neg hlast]
      rw [heq]
      rcases ih with h | ⟨t, ht, i, hi, h⟩
      · exact .inl h
      · exact .inr ⟨t, List.mem_cons_of_mem _ ht, i, hi, h⟩

theorem forall_mem_mapCase {P : Char → Prop} {sequences : List (Nat × List Nat)}
    {shifts : List Shift} (hsequences : ∀ p ∈ sequences, ∀ n ∈ p.2, P (Char.ofNat n))
    (hshifts : ∀ s ∈ shifts, ∀ i < s.last + 1 - s.first, P (Char.ofNat (s.image + i)))
    {c : Char} (hc : P c) : ∀ x ∈ mapCase sequences shifts c, P x := by
  intro x hx
  rw [mapCase] at hx
  split at hx
  · rename_i s hs
    obtain ⟨d, hd⟩ := mem_of_sequenceOf hs
    obtain ⟨n, hn, rfl⟩ := List.mem_map.mp hx
    exact hsequences _ hd n hn
  · rw [List.mem_singleton.mp hx]
    rcases shifted_eq shifts c.toNat with h | ⟨s, hs, i, hi, h⟩
    · rw [h, Char.ofNat_toNat]
      exact hc
    · rw [h]
      exact hshifts s hs i hi

theorem mapCase_ne_nil {sequences : List (Nat × List Nat)}
    (h : ∀ p ∈ sequences, p.2 ≠ []) (shifts : List Shift) (c : Char) :
    mapCase sequences shifts c ≠ [] := by
  rw [mapCase]
  split
  · rename_i s hs
    obtain ⟨d, hd⟩ := mem_of_sequenceOf hs
    simpa using h _ hd
  · simp

theorem toUpper_ne_nil (c : Char) : toUpper c ≠ [] :=
  mapCase_ne_nil (by decide) upperShifts c

theorem toLower_ne_nil (c : Char) : toLower c ≠ [] :=
  mapCase_ne_nil (by decide) lowerShifts c

/-- A property of characters that the letters of a word keep in every casing. -/
structure CaseStable (P : Char → Prop) : Prop where
  upper : ∀ c, P c → ∀ x ∈ toUpper c, P x
  lower : ∀ c, P c → ∀ x ∈ toLower c, P x
  finalSigma : P 'ς'

/-- A character that means nothing in a path. -/
def IsPlain (c : Char) : Prop := c ∉ ['\x00', '.', '/', '\\']

instance : DecidablePred IsPlain := fun c =>
  inferInstanceAs (Decidable (c ∉ ['\x00', '.', '/', '\\']))

/-- Whether the images of a shift are characters behind the slash and none is a backslash. -/
def Shift.IsPlain (s : Shift) : Prop :=
  ('/'.toNat < s.image ∧ s.image + (s.last - s.first) < '\\'.toNat ∨ '\\'.toNat < s.image) ∧
    (s.image + (s.last - s.first) < 0xD800 ∨
      0xDFFF < s.image ∧ s.image + (s.last - s.first) < 0x110000)

instance : DecidablePred Shift.IsPlain := fun _ => inferInstanceAs (Decidable (_ ∧ _))

theorem isPlain_ofNat {n : Nat} (hvalid : n.isValidChar) (hslash : '/'.toNat < n)
    (hback : n ≠ '\\'.toNat) : IsPlain (Char.ofNat n) := by
  have hn : (Char.ofNat n).toNat = n := by
    rw [Char.ofNat, dif_pos hvalid]
    rfl
  intro h
  have hmarks : (Char.ofNat n).toNat ∈ ['\x00', '.', '/', '\\'].map Char.toNat :=
    List.mem_map_of_mem h
  rw [hn] at hmarks
  have hcodes : n = 0 ∨ n = 0x2E ∨ n = 0x2F ∨ n = 0x5C := by simpa using hmarks
  have h₁ : 0x2F < n := hslash
  have h₂ : n ≠ 0x5C := hback
  omega

theorem Shift.IsPlain.image {s : Shift} (h : s.IsPlain) {i : Nat} (hi : i < s.last + 1 - s.first) :
    Unicode.IsPlain (Char.ofNat (s.image + i)) := by
  obtain ⟨hmarks, hvalid⟩ := h
  have h₁ : '/'.toNat = 0x2F := rfl
  have h₂ : '\\'.toNat = 0x5C := rfl
  refine isPlain_ofNat ?_ (by omega) (by omega)
  simp only [Nat.isValidChar]
  omega

theorem caseStable_isPlain : CaseStable IsPlain where
  upper c hc := by
    have hshifts : ∀ s ∈ upperShifts, s.IsPlain := by decide +kernel
    exact forall_mem_mapCase (by decide) (fun s hs _ hi => (hshifts s hs).image hi) hc
  lower c hc := by
    have hshifts : ∀ s ∈ lowerShifts, s.IsPlain := by decide +kernel
    exact forall_mem_mapCase (by decide) (fun s hs _ hi => (hshifts s hs).image hi) hc
  finalSigma := by decide

theorem isPlain_of_isAlphanumeric {c : Char} (hc : isAlphanumeric c = true) : IsPlain c := by
  have hmarks : ['\x00', '.', '/', '\\'].all (fun x => !isAlphanumeric x) = true := by
    decide
  intro hx
  have hno := List.all_eq_true.mp hmarks c hx
  simp [hc] at hno

/-- Whether no image of a shift is an underscore. -/
def Shift.PassesUnderscore (s : Shift) : Prop :=
  '_'.toNat < s.image ∨ s.image + (s.last - s.first) < '_'.toNat

instance : DecidablePred Shift.PassesUnderscore := fun _ => inferInstanceAs (Decidable (_ ∨ _))

theorem ofNat_ne_underscore {n : Nat} (hn : n ≠ '_'.toNat) : Char.ofNat n ≠ '_' := by
  intro h
  by_cases hvalid : n.isValidChar
  · have htoNat : (Char.ofNat n).toNat = n := by
      rw [Char.ofNat, dif_pos hvalid]
      rfl
    rw [h] at htoNat
    exact hn htoNat.symm
  · rw [Char.ofNat, dif_neg hvalid] at h
    exact absurd h (by decide)

theorem Shift.PassesUnderscore.image {s : Shift} (h : s.PassesUnderscore) {i : Nat}
    (hi : i < s.last + 1 - s.first) : Char.ofNat (s.image + i) ≠ '_' := by
  refine ofNat_ne_underscore ?_
  rcases h with h | h <;> omega

theorem caseStable_ne_underscore : CaseStable (· ≠ '_') where
  upper c hc := by
    have hshifts : ∀ s ∈ upperShifts, s.PassesUnderscore := by decide +kernel
    exact forall_mem_mapCase (by decide) (fun s hs _ hi => (hshifts s hs).image hi) hc
  lower c hc := by
    have hshifts : ∀ s ∈ lowerShifts, s.PassesUnderscore := by decide +kernel
    exact forall_mem_mapCase (by decide) (fun s hs _ hi => (hshifts s hs).image hi) hc
  finalSigma := by decide

theorem ne_underscore_of_isAlphanumeric {c : Char} (hc : isAlphanumeric c = true) : c ≠ '_' := by
  have hbreak : isAlphanumeric '_' = false := by decide
  rintro rfl
  exact absurd hc (by simp [hbreak])

end Unicode

/-! ## Casings -/

namespace Text

theorem lowercase_ne_nil {w : List Char} (hw : w ≠ []) : lowercase w ≠ [] := by
  cases w with
  | nil => exact absurd rfl hw
  | cons c rest =>
    cases rest with
    | nil =>
      rw [lowercase]
      split
      · simp
      · exact toLower_ne_nil c
    | cons d rest => simp [lowercase, toLower_ne_nil]

theorem capitalize_ne_nil {w : List Char} (hw : w ≠ []) : capitalize w ≠ [] := by
  cases w with
  | nil => exact absurd rfl hw
  | cons c rest => simp [capitalize, toUpper_ne_nil]

variable {P : Char → Prop}

theorem forall_mem_lowercase (h : CaseStable P) {w : List Char} (hw : ∀ c ∈ w, P c) :
    ∀ x ∈ lowercase w, P x := by
  induction w with
  | nil => simp [lowercase]
  | cons c rest ih =>
    have hc := h.lower c (hw c List.mem_cons_self)
    cases rest with
    | nil =>
      rw [lowercase]
      split
      · rw [List.forall_mem_singleton]
        exact h.finalSigma
      · exact hc
    | cons d rest =>
      intro x hx
      rw [lowercase, List.mem_append] at hx
      · rcases hx with hx | hx
        · exact hc x hx
        · exact ih (fun y hy => hw y (List.mem_cons_of_mem c hy)) x hx
      · simp

theorem forall_mem_capitalize (h : CaseStable P) {w : List Char} (hw : ∀ c ∈ w, P c) :
    ∀ x ∈ capitalize w, P x := by
  cases w with
  | nil => simp [capitalize]
  | cons c rest =>
    intro x hx
    rcases List.mem_append.mp hx with hx | hx
    · exact h.upper c (hw c List.mem_cons_self) x hx
    · exact forall_mem_lowercase h (fun y hy => hw y (List.mem_cons_of_mem c hy)) x hx

theorem forall_mem_of_words (hP : ∀ c, isAlphanumeric c = true → P c) {cs w : List Char}
    (hw : w ∈ words cs) : ∀ c ∈ w, P c := by
  intro c hc
  have hmem : c ∈ (words cs).flatten := List.mem_flatten.mpr ⟨w, hw, hc⟩
  rw [flatten_words] at hmem
  exact hP c (List.mem_filter.mp hmem).2

end Text

namespace Name

/-! ## The letters and digits of a name -/

theorem filter_collapse (started pending : Bool) (cs : List Char) :
    (collapse started pending cs).filter isAlphanumeric = cs.filter isAlphanumeric := by
  have hbreak : isAlphanumeric '_' = false := by decide
  induction cs generalizing started pending with
  | nil => rfl
  | cons c rest ih =>
    rw [collapse]
    cases hc : isAlphanumeric c
    · simp [hc, ih]
    · cases pending <;> cases started <;> simp [hc, hbreak, ih]

theorem collapse_eq_nil {cs : List Char} (h : cs.filter isAlphanumeric = []) (pending : Bool) :
    collapse false pending cs = [] := by
  induction cs generalizing pending with
  | nil => rfl
  | cons c rest ih =>
    cases hc : isAlphanumeric c
    · rw [collapse, hc]
      exact ih (by simpa [hc] using h) true
    · simp [hc] at h

theorem filter_sanitize_ne_nil (cs : List Char) : (sanitize cs).filter isAlphanumeric ≠ [] := by
  rw [sanitize]
  split
  · decide
  · rename_i h
    rw [filter_collapse]
    exact fun hnone => h (collapse_eq_nil hnone false)

/-- The casings of a name are taken from at least one word, and no word is empty. -/
theorem exists_words_eq (cs : List Char) : ∃ c w ws, words (sanitize cs) = (c :: w) :: ws := by
  have hne : words (sanitize cs) ≠ [] := by
    intro h
    have hflatten := flatten_words (sanitize cs)
    rw [h] at hflatten
    exact filter_sanitize_ne_nil cs hflatten.symm
  obtain ⟨v, ws, hws⟩ := List.exists_cons_of_ne_nil hne
  have hv : v ∈ words (sanitize cs) := by simp [hws]
  obtain ⟨c, w, rfl⟩ := List.exists_cons_of_ne_nil (ne_nil_of_mem_words hv)
  exact ⟨c, w, ws, hws⟩

theorem collapse_ne_nil {cs : List Char} (h : cs.filter isAlphanumeric ≠ []) (pending : Bool) :
    collapse false pending cs ≠ [] := by
  intro hnil
  have hfilter := filter_collapse false pending cs
  rw [hnil] at hfilter
  exact h hfilter.symm

/-- A run of separators makes one break. Here `p` has been read. -/
theorem words_collapse_append (p cs : List Char) :
    words (p ++ collapse true false cs) = words (p ++ cs) ∧
      words (p ++ collapse true true cs) = words (p ++ '_' :: cs) := by
  have hbreak : isAlphanumeric '_' = false := by decide
  induction cs generalizing p with
  | nil => simp [collapse, words_append hbreak, words_nil]
  | cons c rest ih =>
    cases hc : isAlphanumeric c with
    | true =>
      obtain ⟨hread, -⟩ := ih (p ++ [c])
      obtain ⟨hbroken, -⟩ := ih (p ++ ['_', c])
      simp only [List.append_assoc, List.cons_append, List.nil_append] at hread hbroken
      simp [collapse, hc, hread, hbroken]
    | false =>
      obtain ⟨-, hpending⟩ := ih p
      simp [collapse, hc, hpending, words_append hbreak, words_append hc, words_cons hc]

theorem words_collapse (pending : Bool) (cs : List Char) :
    words (collapse false pending cs) = words cs := by
  induction cs generalizing pending with
  | nil => rfl
  | cons c rest ih =>
    cases hc : isAlphanumeric c with
    | true =>
      obtain ⟨hread, -⟩ := words_collapse_append [c] rest
      simpa [collapse, hc] using hread
    | false => simp [collapse, hc, ih, words_cons hc]

/-- **The words of a name are those of its spelling**, or `unnamed` if it has none. -/
theorem words_sanitize (cs : List Char) : words (sanitize cs) =
    if cs.filter isAlphanumeric = [] then ["unnamed".toList] else words cs := by
  rw [sanitize]
  by_cases h : cs.filter isAlphanumeric = []
  · rw [collapse_eq_nil h, if_pos h]
    decide
  · rw [if_neg h]
    split
    · rename_i hnil
      exact absurd hnil (collapse_ne_nil h false)
    · exact words_collapse false cs

/-! ## Casings of a name -/

/-- **No name is empty in Pascal case.** -/
theorem pascal_ne_nil (s : String) : (Name.ofString s).pascal.toList ≠ [] := by
  obtain ⟨c, w, ws, hws⟩ := exists_words_eq s.toList
  simp [Name.ofString, hws, Text.pascal, capitalize_ne_nil (List.cons_ne_nil c w)]

/-- **No name is empty in camel case.** -/
theorem camel_ne_nil (s : String) : (Name.ofString s).camel.toList ≠ [] := by
  obtain ⟨c, w, ws, hws⟩ := exists_words_eq s.toList
  simp [Name.ofString, hws, Text.camel, lowercase_ne_nil (List.cons_ne_nil c w)]

theorem pascal_ne_empty (s : String) : (Name.ofString s).pascal ≠ "" :=
  fun h => pascal_ne_nil s (String.toList_eq_nil_iff.mpr h)

theorem camel_ne_empty (s : String) : (Name.ofString s).camel ≠ "" :=
  fun h => camel_ne_nil s (by rw [h]; rfl)

section Stable

variable {P : Char → Prop} (h : CaseStable P) (hP : ∀ c, isAlphanumeric c = true → P c)
include h hP

/-- **What holds of letters and digits in every casing holds of a name in Pascal case.** -/
theorem forall_mem_pascal (s : String) : ∀ c ∈ (Name.ofString s).pascal.toList, P c := by
  rw [Name.ofString, String.toList_ofList, Text.pascal]
  intro c hc
  obtain ⟨w, hw, hc⟩ := List.mem_flatMap.mp hc
  exact forall_mem_capitalize h (forall_mem_of_words hP hw) c hc

/-- **What holds of letters and digits in every casing holds of a name in camel case.** -/
theorem forall_mem_camel (s : String) : ∀ c ∈ (Name.ofString s).camel.toList, P c := by
  obtain ⟨c₀, v, ws, hws⟩ := exists_words_eq s.toList
  have hwords : ∀ w ∈ (c₀ :: v) :: ws, ∀ c ∈ w, P c :=
    fun w hw => forall_mem_of_words hP (hws ▸ hw)
  rw [Name.ofString, String.toList_ofList, hws, Text.camel, Text.pascal]
  intro c hc
  rcases List.mem_append.mp hc with hc | hc
  · exact forall_mem_lowercase h (hwords _ List.mem_cons_self) c hc
  · obtain ⟨w, hw, hc⟩ := List.mem_flatMap.mp hc
    exact forall_mem_capitalize h (hwords w (List.mem_cons_of_mem _ hw)) c hc

end Stable

/-- A name in Pascal case means nothing in a path. -/
theorem isPlain_pascal (s : String) : ∀ c ∈ (Name.ofString s).pascal.toList, IsPlain c :=
  forall_mem_pascal caseStable_isPlain (fun _ => isPlain_of_isAlphanumeric) s

theorem underscore_notMem_camel (s : String) : '_' ∉ (Name.ofString s).camel.toList :=
  fun h => forall_mem_camel caseStable_ne_underscore (fun _ => ne_underscore_of_isAlphanumeric) s _ h
    rfl

end Name

end Blueprint
